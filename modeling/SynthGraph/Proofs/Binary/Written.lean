import Mathlib.Tactic.Common
import SynthGraph.Binary.Buffer

/-!
# The bytes of legal fields

A field is legal when it can be written: an integer has its width, a number has single precision,
and a name is short.  Legal fields have bytes, those bytes are as many as the size of the field
says, and a buffer with room for them takes exactly those.
-/

namespace SynthGraph

namespace Field

/-- The field can be written. -/
def IsLegal : Field → Prop
  | raw _ => True
  | int w v => w.fits v = true
  | single v => v.narrow?.isSome
  | name s => IsShortName s

instance (f : Field) : Decidable f.IsLegal :=
  match f with
  | raw _ => isTrue trivial
  | int w v => inferInstanceAs (Decidable (w.fits v = true))
  | single v => inferInstanceAs (Decidable (v.narrow?.isSome = true))
  | name s => inferInstanceAs (Decidable (IsShortName s))

/-- The bytes of a legal field. -/
def bytes : Field → List UInt8
  | raw bytes => bytes
  | int w v => w.encode v
  | single v => (v.narrow?.map singleBytes).getD []
  | name s => UInt8.ofNat s.length :: asciiBytes s

variable {f : Field} {fs : List Field}

/-- The bytes of a single-precision number are as many as its width says. -/
@[simp] lemma length_singleBytes (x : Binary32) : (singleBytes x).length = 4 := by
  simp [singleBytes]

/-- The size of a legal field is the number of its bytes. -/
lemma size_of_isLegal (hf : f.IsLegal) : f.size = .ok f.bytes.length := by
  cases f with
  | raw bytes => rfl
  | int w v => simp [size, bytes]
  | single v =>
    obtain ⟨x, hx⟩ := Option.isSome_iff_exists.mp hf
    simp [size, bytes, hx]
  | name s =>
    have hbytes := shortName_eq_ok_iff.mpr ⟨hf, rfl⟩
    simp [size, bytes, hbytes, Except.map, Nat.add_comm]

/-- The size of legal fields is the number of their bytes. -/
lemma totalSize_of_isLegal (hfs : ∀ f ∈ fs, f.IsLegal) :
    totalSize fs = .ok (fs.flatMap bytes).length := by
  have hfrom : ∀ start : Nat, fs.foldlM (fun total f => f.size.map (total + ·)) start =
      .ok (start + (fs.flatMap bytes).length) := by
    induction fs with
    | nil => exact fun start => rfl
    | cons f fs ih =>
      rw [List.forall_mem_cons] at hfs
      intro start
      have hsize := size_of_isLegal hfs.1
      rw [List.foldlM_cons, hsize, List.flatMap_cons, List.length_append, ← Nat.add_assoc]
      exact ih hfs.2 _
  rw [totalSize, hfrom, Nat.zero_add]

end Field

namespace Buffer

variable {b : Buffer} {f : Field} {fs : List Field} {bytes : List UInt8}

/-- The buffer after some more bytes. -/
def append (b : Buffer) (bytes : List UInt8) : Buffer := { b with written := b.written ++ bytes }

/-- Bytes add up. -/
@[simp] lemma append_append (b : Buffer) (bytes more : List UInt8) :
    (b.append bytes).append more = b.append (bytes ++ more) := by
  have hwritten : b.written ++ bytes ++ more = b.written ++ (bytes ++ more) :=
    Array.ext' (by simp)
  simp only [append, hwritten]

/-- The position moves on by the number of bytes. -/
@[simp] lemma position_append (b : Buffer) (bytes : List UInt8) :
    (b.append bytes).position = b.position + bytes.length := by
  simp [append, position, ← Array.length_toList]

/-- The declared size stays. -/
@[simp] lemma declared_append (b : Buffer) (bytes : List UInt8) :
    (b.append bytes).declared = b.declared := rfl

/-- A buffer with room takes bytes. -/
lemma put_of_room (hroom : b.position + bytes.length ≤ b.declared) :
    b.put bytes = (.ok (), b.append bytes) := by
  rw [put, hasRoom, decide_eq_true hroom, if_pos rfl]
  rfl

/-- A buffer with room takes the bytes of a number. -/
lemma putNumber_of_room {width : Nat} (hwidth : bytes.length = width)
    (hroom : b.position + width ≤ b.declared) :
    b.putNumber width (.ok bytes) = (.ok (), b.append bytes) := by
  subst hwidth
  rw [putNumber, hasRoom, decide_eq_true hroom, if_pos rfl]
  exact put_of_room hroom

/-- A buffer with room takes a legal field. -/
lemma write_of_isLegal (hf : f.IsLegal) (hroom : b.position + f.bytes.length ≤ b.declared) :
    b.write f = (.ok (), b.append f.bytes) := by
  cases f with
  | raw bytes => exact put_of_room hroom
  | int w v =>
    have hencoded : Field.encodeInt w v = .ok (w.encode v) := if_pos hf
    have hwidth : (w.encode v).length = w.bytes := w.length_encode v
    rw [write, hencoded]
    exact putNumber_of_room hwidth (hwidth ▸ hroom)
  | single v =>
    obtain ⟨x, hx⟩ := Option.isSome_iff_exists.mp hf
    have hbytes : (Field.single v).bytes = Field.singleBytes x := by simp [Field.bytes, hx]
    rw [hbytes] at hroom ⊢
    rw [Field.length_singleBytes] at hroom
    rw [write, Field.encodeSingle, hx]
    exact putNumber_of_room (Field.length_singleBytes x) hroom
  | name s =>
    have hshort := shortName_eq_ok_iff.mpr ⟨hf, rfl⟩
    simp only [Field.bytes, List.length_cons] at hroom
    have hlength : b.position + [UInt8.ofNat (asciiBytes s).length].length ≤ b.declared := by
      simp only [List.length_singleton]
      omega
    have htext : (b.append [UInt8.ofNat (asciiBytes s).length]).position + (asciiBytes s).length ≤
        (b.append [UInt8.ofNat (asciiBytes s).length]).declared := by
      simp only [position_append, declared_append, List.length_singleton]
      omega
    simp only [write, hshort, put_of_room hlength, put_of_room htext, append_append]
    simp [Field.bytes]

/-- A buffer with room takes legal fields. -/
lemma writeAll_of_isLegal (hfs : ∀ f ∈ fs, f.IsLegal)
    (hroom : b.position + (fs.flatMap Field.bytes).length ≤ b.declared) :
    b.writeAll fs = (.ok (), b.append (fs.flatMap Field.bytes)) := by
  induction fs generalizing b with
  | nil => simp [writeAll, append]
  | cons f fs ih =>
    rw [List.forall_mem_cons] at hfs
    rw [List.flatMap_cons, List.length_append] at hroom
    have hfirst := write_of_isLegal hfs.1 (b := b) (by omega)
    have hrest := ih hfs.2 (b := b.append f.bytes) (by
      rw [position_append, declared_append]
      omega)
    rw [writeAll, hfirst]
    dsimp only
    rw [hrest, append_append, List.flatMap_cons]

/-- A number that is written has bytes. -/
lemma ok_of_putNumber {width : Nat} {encoded : Except Fault (List UInt8)} {u : Unit}
    (h : (b.putNumber width encoded).1 = .ok u) : ∃ bytes, encoded = .ok bytes := by
  unfold putNumber at h
  split at h
  · cases encoded with
    | ok bytes => exact ⟨bytes, rfl⟩
    | error e => cases h
  · cases h

/-- A field that is written is legal. -/
lemma isLegal_of_write {u : Unit} (h : (b.write f).1 = .ok u) : f.IsLegal := by
  cases f with
  | raw bytes => trivial
  | int w v =>
    obtain ⟨bytes, hencoded⟩ := ok_of_putNumber h
    unfold Field.encodeInt at hencoded
    split at hencoded
    case isTrue hfits => exact hfits
    case isFalse => cases hencoded
  | single v =>
    obtain ⟨bytes, hencoded⟩ := ok_of_putNumber h
    unfold Field.encodeSingle at hencoded
    split at hencoded
    case h_1 x hx => exact Option.isSome_of_eq_some hx
    case h_2 => cases hencoded
  | name s =>
    rw [write] at h
    cases hname : shortName s with
    | error e =>
      rw [hname] at h
      cases h
    | ok bytes => exact (shortName_eq_ok_iff.mp hname).1

/-- Fields that are all written are legal. -/
lemma isLegal_of_writeAll {u : Unit} (h : (b.writeAll fs).1 = .ok u) : ∀ f ∈ fs, f.IsLegal := by
  induction fs generalizing b with
  | nil => exact List.forall_mem_nil _
  | cons f fs ih =>
    rw [writeAll] at h
    rcases hwrite : b.write f with ⟨e | u', b'⟩ <;> rw [hwrite] at h
    · cases h
    · have hfirst : (b.write f).1 = .ok u' := by rw [hwrite]
      exact List.forall_mem_cons.mpr ⟨isLegal_of_write hfirst, ih h⟩

end Buffer

end SynthGraph
