import SynthGraph.Binary.ShortName

/-!
# Fields

A definition file is a sequence of fields: raw bytes, signed integers, single-precision numbers and
names.  This file gives the primitive writes of a field, its bytes and its size.
-/

namespace SynthGraph

/-- One field of a file. -/
inductive Field where
  /-- Bytes as they are. -/
  | raw (bytes : List UInt8)
  /-- A signed integer. -/
  | int (width : IntWidth) (value : Int)
  /-- A number, written in single precision. -/
  | single (value : Binary64)
  /-- A name: its length in one byte, then its characters. -/
  | name (text : String)
  deriving DecidableEq

namespace Field

/-- The bytes of an integer of a width. -/
def encodeInt (w : IntWidth) (v : Int) : Except Fault (List UInt8) :=
  if w.fits v then .ok (w.encode v) else .error (.integerRange w v)

/-- The bytes of a single-precision number. -/
def singleBytes (x : Binary32) : List UInt8 :=
  bigEndian FloatFormat.binary32.width x.bits

/-- The bytes of a number narrowed to single precision. -/
def encodeSingle (v : Binary64) : Except Fault (List UInt8) :=
  match v.narrow? with
  | some x => .ok (singleBytes x)
  | none => .error (.singleRange v)

/-- The size of a field in bytes.  Numbers are not looked at; a name has to be legal. -/
def size : Field → Except Fault Nat
  | raw bytes => .ok bytes.length
  | int w _ => .ok w.bytes
  | single _ => .ok FloatFormat.binary32.width
  | name s => (shortName s).map fun bytes => 1 + bytes.length

/-- The size of a sequence of fields, or the fault of the first field that has none. -/
def totalSize (fields : List Field) : Except Fault Nat :=
  fields.foldlM (fun total f => f.size.map (total + ·)) 0

end Field

end SynthGraph
