import SynthGraph.Binary.Field

/-!
# Buffers of a declared size

A buffer is declared with a size, takes writes until that size is reached, and is handed out only
when it is full.  A write that fails leaves the buffer as it was; a name is two writes, its length
and its text, so the length stays when only the text does not fit.
-/

namespace SynthGraph

/-- A buffer: its declared size and the bytes written so far. -/
structure Buffer where
  declared : Nat
  written : Array UInt8
  deriving DecidableEq

namespace Buffer

/-- An empty buffer of a size. -/
def new (size : Int) : Except Fault Buffer :=
  if size < 0 then .error .negativeSize else .ok ⟨size.toNat, #[]⟩

/-- Where the next write goes. -/
def position (b : Buffer) : Nat := b.written.size

/-- The whole buffer: what was written, then zeros. -/
def toList (b : Buffer) : List UInt8 :=
  b.written.toList ++ List.replicate (b.declared - b.position) 0

/-- Room for `width` more bytes. -/
def hasRoom (b : Buffer) (width : Nat) : Bool :=
  decide (b.position + width ≤ b.declared)

/-- Writes bytes. -/
def put (b : Buffer) (bytes : List UInt8) : Except Fault Unit × Buffer :=
  if b.hasRoom bytes.length then (.ok (), { b with written := b.written ++ bytes })
  else (.error (.overflow bytes.length b.position b.declared), b)

/-- Writes a number of a width.  Room is looked for before the number is. -/
def putNumber (b : Buffer) (width : Nat) (encoded : Except Fault (List UInt8)) :
    Except Fault Unit × Buffer :=
  if b.hasRoom width then
    match encoded with
    | .ok bytes => b.put bytes
    | .error e => (.error e, b)
  else (.error (.overflow width b.position b.declared), b)

/-- Writes a field. -/
def write (b : Buffer) : Field → Except Fault Unit × Buffer
  | .raw bytes => b.put bytes
  | .int w v => b.putNumber w.bytes (Field.encodeInt w v)
  | .single v => b.putNumber FloatFormat.binary32.width (Field.encodeSingle v)
  | .name s =>
    match shortName s with
    | .error e => (.error e, b)
    | .ok bytes =>
      match b.put [UInt8.ofNat bytes.length] with
      | (.error e, b) => (.error e, b)
      | (.ok _, b) => b.put bytes

/-- Writes fields until one fails. -/
def writeAll (b : Buffer) : List Field → Except Fault Unit × Buffer
  | [] => (.ok (), b)
  | f :: fields =>
    match b.write f with
    | (.error e, b) => (.error e, b)
    | (.ok _, b) => b.writeAll fields

/-- The bytes of a full buffer. -/
def result (b : Buffer) : Except Fault (List UInt8) :=
  if b.position = b.declared then .ok b.written.toList
  else .error (.incomplete b.position b.declared)

end Buffer

end SynthGraph
