import Mathlib.Data.List.Induction
import SynthGraph.Proofs.Binary.Declared
import SynthGraph.Proofs.Number.Overflow

/-!
# Sequences of steps on a buffer

A step writes a field into a buffer or asks for its bytes, and goes on from whatever the steps
before it have left, also when some of them failed.  A field other than a name is one write, which
is refused for its size before its value is looked at, and a name is two.  The buffer therefore
holds, after any sequence of steps, the bytes of the writes that still fitted when their turn came,
and zeros behind them.
-/

namespace SynthGraph

-- Powers are those of the core library, also where a larger library brings its own.
attribute [local instance (2000)] instPowNat

namespace Field

/-- The value of a field is in range: an integer has as many bits as its width says, a number does
not become infinite in single precision, and a name is a short one. -/
def InRange : Field → Prop
  | raw _ => True
  | int w v => -((2 ^ (8 * w.bytes - 1) : Nat) : Int) ≤ v ∧ v < (2 ^ (8 * w.bytes - 1) : Nat)
  | single v => ¬v.Overflows
  | name s => IsShortName s

/-- The fields that can be written are those whose value is in range. -/
lemma isLegal_iff_inRange {f : Field} : f.IsLegal ↔ f.InRange := by
  cases f with
  | raw bytes => rfl
  | int w v =>
    rw [IsLegal, IntWidth.fits, decide_eq_true_eq]
    cases w <;> rfl
  | single v => exact FloatDatum.isSome_narrow?_iff
  | name s => rfl

instance (f : Field) : Decidable f.InRange := decidable_of_iff f.IsLegal isLegal_iff_inRange

/-- The number of bytes of a field that is one write. -/
def width? : Field → Option Nat
  | raw bytes => some bytes.length
  | int w _ => some w.bytes
  | single _ => some 4
  | name _ => none

end Field

namespace Buffer

variable {b : Buffer} {f : Field} {width : Nat}

/-! ### One field -/

/-- A number without room is refused for its size, whatever its value is. -/
lemma putNumber_of_no_room (hroom : b.declared < b.position + width)
    (encoded : Except Fault (List UInt8)) :
    b.putNumber width encoded = (.error (.overflow width b.position b.declared), b) := by
  unfold putNumber
  rw [hasRoom, decide_eq_false (Nat.not_le.mpr hroom)]
  rfl

/-- A number with room is refused when its value is. -/
lemma putNumber_error (hroom : b.position + width ≤ b.declared) (e : Fault) :
    b.putNumber width (.error e) = (.error e, b) := by
  unfold putNumber
  rw [hasRoom, decide_eq_true hroom]
  rfl

/-- A field that is one write is refused when there is no room for it, whatever its value is. -/
lemma write_of_no_room (hwidth : f.width? = some width)
    (hroom : b.declared < b.position + width) :
    b.write f = (.error (.overflow width b.position b.declared), b) := by
  cases f with
  | raw bytes =>
    obtain rfl := Option.some.inj hwidth
    exact put_of_no_room hroom
  | int w v =>
    obtain rfl := Option.some.inj hwidth
    exact putNumber_of_no_room hroom _
  | single v =>
    obtain rfl := Option.some.inj hwidth
    exact putNumber_of_no_room hroom _
  | name s => cases hwidth

/-- A field that is one write and has room is refused when its value is out of range. -/
lemma write_of_not_inRange (hwidth : f.width? = some width)
    (hroom : b.position + width ≤ b.declared) (hrange : ¬f.InRange) :
    ∃ e, b.write f = (.error e, b) ∧ e.kind = .format := by
  rw [← Field.isLegal_iff_inRange] at hrange
  cases f with
  | raw bytes => exact absurd trivial hrange
  | int w v =>
    obtain rfl := Option.some.inj hwidth
    have hencoded : Field.encodeInt w v = .error (.integerRange w v) := if_neg hrange
    exact ⟨_, by rw [write, hencoded, putNumber_error hroom], rfl⟩
  | single v =>
    obtain rfl := Option.some.inj hwidth
    have hnarrow : v.narrow? = none := Option.not_isSome_iff_eq_none.mp hrange
    exact ⟨_, by rw [write, Field.encodeSingle, hnarrow]; exact putNumber_error hroom _, rfl⟩
  | name s => cases hwidth

/-- A field that is one write has as many bytes. -/
lemma length_bytes_of_width? (hwidth : f.width? = some width) (hrange : f.InRange) :
    f.bytes.length = width := by
  have hsize := Field.size_of_isLegal (Field.isLegal_iff_inRange.mpr hrange)
  cases f with
  | raw bytes => exact Option.some.inj hwidth
  | int w v => exact (Except.ok.inj hsize).symm.trans (Option.some.inj hwidth)
  | single v => exact (Except.ok.inj hsize).symm.trans (Option.some.inj hwidth)
  | name s => cases hwidth

/-- A field whose value is in range is taken when there is room for it. -/
lemma write_of_inRange (hrange : f.InRange) (hroom : b.position + f.bytes.length ≤ b.declared) :
    b.write f = (.ok (), b.append f.bytes) :=
  write_of_isLegal (Field.isLegal_iff_inRange.mpr hrange) hroom

/-- A name that is not a short one is refused. -/
lemma write_name_of_not_isShortName {s : String} (hname : ¬IsShortName s) (b : Buffer) :
    ∃ e, b.write (.name s) = (.error e, b) ∧ e.kind = .nameLength := by
  obtain ⟨e, he, hkind⟩ := shortName_of_not_isShortName hname
  exact ⟨e, by rw [write, he], hkind⟩

/-- A short name is refused when not even its length has room. -/
lemma write_name_of_no_room {s : String} (hname : IsShortName s)
    (hroom : b.declared < b.position + 1) :
    b.write (.name s) = (.error (.overflow 1 b.position b.declared), b) := by
  have hlength : b.put [UInt8.ofNat s.length] =
      (.error (.overflow 1 b.position b.declared), b) := put_of_no_room hroom
  rw [write_eq_putAll (f := .name s) hname, Field.writes, putAll, hlength]

/-- A short name leaves its length when only its text has no room. -/
lemma write_name_of_torn {s : String} (hname : IsShortName s)
    (hlength : b.position + 1 ≤ b.declared) (htext : b.declared < b.position + 1 + s.length) :
    b.write (.name s) = (.error (.overflow s.length (b.position + 1) b.declared),
      b.append [UInt8.ofNat s.length]) := by
  have hfirst : b.put [UInt8.ofNat s.length] = (.ok (), b.append [UInt8.ofNat s.length]) :=
    put_of_room hlength
  have hroom : (b.append [UInt8.ofNat s.length]).declared <
      (b.append [UInt8.ofNat s.length]).position + (asciiBytes s).length := by
    rw [position_append, declared_append, length_asciiBytes]
    exact htext
  have hsecond := put_of_no_room hroom
  rw [position_append, declared_append, length_asciiBytes] at hsecond
  rw [write_eq_putAll (f := .name s) hname, Field.writes, putAll, hfirst]
  dsimp only
  rw [putAll_singleton, hsecond]
  rfl

/-! ### One step -/

/-- A step on a buffer. -/
inductive Call where
  /-- Writes a field. -/
  | write (f : Field)
  /-- Asks for the bytes of the full buffer. -/
  | result
  deriving DecidableEq

/-- A step: its outcome, with the bytes when it asks for them, and the buffer that the next step
finds. -/
def call (b : Buffer) : Call → Except Fault (Option (List UInt8)) × Buffer
  | .write f => ((b.write f).1.map fun _ => none, (b.write f).2)
  | .result => (b.result.map some, b)

/-- What a step does that writes a field in one write of some bytes. -/
structure WritesOnce (b : Buffer) (f : Field) (width : Nat) : Prop where
  /-- The field is taken exactly when there is room for it and its value is in range. -/
  taken_iff : (b.call (.write f)).1 = .ok none ↔ b.position + width ≤ b.declared ∧ f.InRange
  /-- Without room it is refused for its size, whatever its value is. -/
  noRoom : b.declared < b.position + width →
    ∃ e, (b.call (.write f)).1 = .error e ∧ e.kind = .sizeMismatch
  /-- With room it is refused for its value. -/
  outOfRange : b.position + width ≤ b.declared → ¬f.InRange →
    ∃ e, (b.call (.write f)).1 = .error e ∧ e.kind = .format
  /-- A field that is taken adds its bytes. -/
  appends : (b.call (.write f)).1 = .ok none →
    f.bytes.length = width ∧ (b.call (.write f)).2 = b.append f.bytes
  /-- A field that is refused changes nothing. -/
  unchanged : ∀ e, (b.call (.write f)).1 = .error e → (b.call (.write f)).2 = b

/-- What a step does that writes a name. -/
structure WritesName (b : Buffer) (s : String) : Prop where
  /-- The name is taken exactly when it is a short one with room for its length and its text. -/
  taken_iff : (b.call (.write (.name s))).1 = .ok none ↔
    IsShortName s ∧ b.position + 1 + s.length ≤ b.declared
  /-- A name that is not ASCII or too long is refused as such and changes nothing. -/
  notShort : ¬IsShortName s → (∃ e, (b.call (.write (.name s))).1 = .error e ∧
    e.kind = .nameLength) ∧ (b.call (.write (.name s))).2 = b
  /-- A short name without room is refused for its size. -/
  noRoom : IsShortName s → b.declared < b.position + 1 + s.length →
    ∃ e, (b.call (.write (.name s))).1 = .error e ∧ e.kind = .sizeMismatch
  /-- A name that is taken adds its length and its text. -/
  appends : (b.call (.write (.name s))).1 = .ok none →
    (b.call (.write (.name s))).2 = b.append (UInt8.ofNat s.length :: asciiBytes s)
  /-- A short name whose length has room while its text has none adds its length. -/
  torn : IsShortName s → b.position + 1 ≤ b.declared → b.declared < b.position + 1 + s.length →
    (b.call (.write (.name s))).2 = b.append [UInt8.ofNat s.length] ∧
      (b.call (.write (.name s))).2.position = b.position + 1
  /-- A short name whose length has no room changes nothing. -/
  unchanged : IsShortName s → b.declared < b.position + 1 → (b.call (.write (.name s))).2 = b

/-- What a step does that asks for the bytes of the full buffer. -/
structure HandsOut (b : Buffer) : Prop where
  /-- The bytes are handed out exactly when the buffer is full, and they are the whole buffer. -/
  result_iff : ∀ bytes, (b.call .result).1 = .ok bytes ↔
    b.position = b.declared ∧ bytes = some b.toList
  /-- Before that they are refused for the size. -/
  early : b.position ≠ b.declared →
    ∃ e, (b.call .result).1 = .error e ∧ e.kind = .sizeMismatch
  /-- Asking for the bytes changes nothing. -/
  unchanged : (b.call .result).2 = b

/-- A step that writes a field has the outcome of the write. -/
lemma call_of_write_ok {b' : Buffer} (h : b.write f = (.ok (), b')) :
    b.call (.write f) = (.ok none, b') := by
  rw [call, h]
  rfl

/-- A step whose write fails fails in the same way. -/
lemma call_of_write_error {b' : Buffer} {e : Fault} (h : b.write f = (.error e, b')) :
    b.call (.write f) = (.error e, b') := by
  rw [call, h]
  rfl

/-- A step that writes a field in one write fails for want of room, fails for the value, or adds the
bytes of the field. -/
lemma call_once_cases (hwidth : f.width? = some width) (b : Buffer) :
    (b.declared < b.position + width ∧
        b.call (.write f) = (.error (.overflow width b.position b.declared), b)) ∨
      (b.position + width ≤ b.declared ∧ ¬f.InRange ∧
        ∃ e, b.call (.write f) = (.error e, b) ∧ e.kind = .format) ∨
      (b.position + width ≤ b.declared ∧ f.InRange ∧ f.bytes.length = width ∧
        b.call (.write f) = (.ok none, b.append f.bytes)) := by
  rcases Nat.lt_or_ge b.declared (b.position + width) with hroom | hroom
  · exact .inl ⟨hroom, call_of_write_error (write_of_no_room hwidth hroom)⟩
  · by_cases hrange : f.InRange
    · have hlength := length_bytes_of_width? hwidth hrange
      exact .inr (.inr ⟨hroom, hrange, hlength,
        call_of_write_ok (write_of_inRange hrange (hlength ▸ hroom))⟩)
    · obtain ⟨e, hwrite, hkind⟩ := write_of_not_inRange hwidth hroom hrange
      exact .inr (.inl ⟨hroom, hrange, e, call_of_write_error hwrite, hkind⟩)

/-- A step that writes a name fails for the name, fails for want of room, adds only the length of
the name, or adds its length and its text. -/
lemma call_name_cases (b : Buffer) (s : String) :
    (¬IsShortName s ∧ ∃ e, b.call (.write (.name s)) = (.error e, b) ∧ e.kind = .nameLength) ∨
      (IsShortName s ∧ b.declared < b.position + 1 ∧
        b.call (.write (.name s)) = (.error (.overflow 1 b.position b.declared), b)) ∨
      (IsShortName s ∧ b.position + 1 ≤ b.declared ∧ b.declared < b.position + 1 + s.length ∧
        b.call (.write (.name s)) = (.error (.overflow s.length (b.position + 1) b.declared),
          b.append [UInt8.ofNat s.length])) ∨
      (IsShortName s ∧ b.position + 1 + s.length ≤ b.declared ∧
        b.call (.write (.name s)) =
          (.ok none, b.append (UInt8.ofNat s.length :: asciiBytes s))) := by
  by_cases hname : IsShortName s
  · rcases Nat.lt_or_ge b.declared (b.position + 1) with hlength | hlength
    · exact .inr (.inl ⟨hname, hlength, call_of_write_error (write_name_of_no_room hname hlength)⟩)
    · rcases Nat.lt_or_ge b.declared (b.position + 1 + s.length) with htext | htext
      · exact .inr (.inr (.inl ⟨hname, hlength, htext,
          call_of_write_error (write_name_of_torn hname hlength htext)⟩))
      · have hroom : b.position + (Field.name s).bytes.length ≤ b.declared := by
          rw [Field.bytes, List.length_cons, length_asciiBytes]
          omega
        have hrange : (Field.name s).InRange := hname
        exact .inr (.inr (.inr ⟨hname, htext, call_of_write_ok (write_of_inRange hrange hroom)⟩))
  · obtain ⟨e, hwrite, hkind⟩ := write_name_of_not_isShortName hname b
    exact .inl ⟨hname, e, call_of_write_error hwrite, hkind⟩

/-- Every step that writes a field in one write does so. -/
lemma writesOnce_of_width? (hwidth : f.width? = some width) (b : Buffer) :
    b.WritesOnce f width := by
  rcases b.call_once_cases hwidth with
    ⟨hroom, hcall⟩ | ⟨hroom, hrange, e, hcall, hkind⟩ | ⟨hroom, hrange, hlength, hcall⟩
  · have hno : ¬b.position + width ≤ b.declared := Nat.not_le.mpr hroom
    constructor <;> simp [hcall, hno, Fault.kind]
  · constructor <;> simp [hcall, hroom, hrange, hkind]
  · constructor <;> simp [hcall, hroom, hrange, hlength]

/-- Every step that writes a name does so. -/
lemma writesName (b : Buffer) (s : String) : b.WritesName s := by
  rcases b.call_name_cases s with ⟨hname, e, hcall, hkind⟩ | ⟨hname, hroom, hcall⟩ |
    ⟨hname, hlength, htext, hcall⟩ | ⟨hname, hroom, hcall⟩
  · constructor <;> simp [hcall, hname, hkind]
  · have hno : ¬b.position + 1 + s.length ≤ b.declared := by omega
    have hno' : ¬b.position + 1 ≤ b.declared := Nat.not_le.mpr hroom
    constructor <;> simp [hcall, hname, hno, hno', Fault.kind]
  · have hno : ¬b.position + 1 + s.length ≤ b.declared := Nat.not_le.mpr htext
    have hno' : ¬b.declared < b.position + 1 := Nat.not_lt.mpr hlength
    constructor <;> simp [hcall, hname, hno, hno', Fault.kind]
  · have hno : ¬b.declared < b.position + 1 + s.length := Nat.not_lt.mpr hroom
    have hno' : ¬b.declared < b.position + 1 := by omega
    constructor <;> simp [hcall, hname, hroom, hno, hno']

/-- A full buffer is what was written into it. -/
lemma toList_of_full (h : b.position = b.declared) : b.toList = b.written.toList := by
  rw [toList, h, Nat.sub_self, List.replicate_zero, List.append_nil]

/-- Every step that asks for the bytes hands out those of a full buffer. -/
lemma handsOut (b : Buffer) : b.HandsOut := by
  by_cases hfull : b.position = b.declared
  · have hcall : b.call .result = (.ok (some b.toList), b) := by
      rw [call, result, if_pos hfull, toList_of_full hfull]
      rfl
    constructor <;> simp [hcall, hfull, eq_comm]
  · have hcall : b.call .result = (.error (.incomplete b.position b.declared), b) := by
      rw [call, result, if_neg hfull]
      rfl
    constructor <;> simp [hcall, hfull, Fault.kind]

/-- Every step is a field in one write, a name, or asks for the bytes. -/
lemma Call.cases (c : Call) :
    (∃ f width, c = .write f ∧ f.width? = some width) ∨ (∃ s, c = .write (.name s)) ∨
      c = .result := by
  cases c with
  | result => exact .inr (.inr rfl)
  | write f =>
    cases f with
    | name s => exact .inr (.inl ⟨s, rfl⟩)
    | raw bytes => exact .inl ⟨_, _, rfl, rfl⟩
    | int w v => exact .inl ⟨_, _, rfl, rfl⟩
    | single v => exact .inl ⟨_, _, rfl, rfl⟩

/-! ### Sequences of steps -/

/-- The first pieces that fit into some free bytes, up to the first one that does not. -/
def fitting : Nat → List (List UInt8) → List (List UInt8)
  | _, [] => []
  | free, piece :: pieces =>
    if piece.length ≤ free then piece :: fitting (free - piece.length) pieces else []

/-- The writes of a step: those of a field whose value is in range. -/
def Call.writes : Call → List (List UInt8)
  | .write f => if f.InRange then f.writes else []
  | .result => []

/-- The writes that a buffer of some size takes in a sequence of steps: every step goes on with its
writes as long as they fit behind all that was taken before. -/
def taken (size : Nat) (calls : List Call) : List (List UInt8) :=
  calls.foldl (fun done c => done ++ fitting (size - done.flatten.length) c.writes) []

/-- The buffer after a sequence of steps. -/
def after (b : Buffer) (calls : List Call) : Buffer := calls.foldl (fun b c => (b.call c).2) b

/-- Nothing more. -/
@[simp] lemma append_nil (b : Buffer) : b.append [] = b := by
  simp [append]

/-- A field that is one write is written as its bytes. -/
lemma writes_of_width? (hwidth : f.width? = some width) : f.writes = [f.bytes] := by
  cases f with
  | name s => cases hwidth
  | raw bytes => rfl
  | int w v => rfl
  | single v => rfl

/-- A short name is written as its length and its text. -/
lemma writes_name (s : String) : (Call.write (.name s)).writes =
    if IsShortName s then [[UInt8.ofNat s.length], asciiBytes s] else [] := by
  by_cases hname : IsShortName s
  · rw [if_pos hname]
    exact if_pos hname
  · rw [if_neg hname]
    exact if_neg hname

/-- A step adds those of its writes that fit, and nothing else. -/
lemma call_snd (h : b.position ≤ b.declared) (c : Call) :
    (b.call c).2 = b.append (fitting (b.declared - b.position) c.writes).flatten := by
  obtain ⟨f, width, rfl, hwidth⟩ | ⟨s, rfl⟩ | rfl := c.cases
  · rw [Call.writes, writes_of_width? hwidth]
    rcases b.call_once_cases hwidth with
      ⟨hroom, hcall⟩ | ⟨-, hrange, e, hcall, -⟩ | ⟨hroom, hrange, hlength, hcall⟩
    · rw [hcall]
      split
      case isFalse => simp [fitting]
      case isTrue hrange =>
        have hno : ¬f.bytes.length ≤ b.declared - b.position := by
          rw [length_bytes_of_width? hwidth hrange]
          omega
        simp [fitting, hno]
    · simp [hcall, hrange, fitting]
    · have hfits : f.bytes.length ≤ b.declared - b.position := by omega
      simp [hcall, hrange, fitting, hfits]
  · rw [writes_name]
    rcases b.call_name_cases s with ⟨hname, e, hcall, -⟩ | ⟨hname, hroom, hcall⟩ |
      ⟨hname, hlength, htext, hcall⟩ | ⟨hname, hroom, hcall⟩
    · simp [hcall, hname, fitting]
    · have hno : ¬1 ≤ b.declared - b.position := by omega
      simp [hcall, hname, fitting, hno]
    · have hfits : 1 ≤ b.declared - b.position := by omega
      have hno : ¬s.length ≤ b.declared - b.position - 1 := by omega
      simp [hcall, hname, fitting, hfits, hno]
    · have hfits : 1 ≤ b.declared - b.position := by omega
      have hfits' : s.length ≤ b.declared - b.position - 1 := by omega
      simp [hcall, hname, fitting, hfits, hfits']
  · rw [b.handsOut.unchanged]
    simp [Call.writes, fitting]

/-- The pieces that fit are no longer than the free bytes. -/
lemma length_fitting_le (free : Nat) (pieces : List (List UInt8)) :
    (fitting free pieces).flatten.length ≤ free := by
  induction pieces generalizing free with
  | nil => exact Nat.zero_le free
  | cons piece pieces ih =>
    rw [fitting]
    split
    case isFalse => exact Nat.zero_le free
    case isTrue hfits =>
      have hrest := ih (free - piece.length)
      rw [List.flatten_cons, List.length_append]
      omega

/-- One more step takes those of its writes that fit behind all that was taken before. -/
lemma taken_concat (size : Nat) (calls : List Call) (c : Call) :
    taken size (calls ++ [c]) =
      taken size calls ++ fitting (size - (taken size calls).flatten.length) c.writes := by
  simp [taken]

/-- The writes that are taken are no longer than the buffer. -/
lemma length_taken_le (size : Nat) (calls : List Call) :
    (taken size calls).flatten.length ≤ size := by
  induction calls using List.reverseRecOn with
  | nil => exact Nat.zero_le size
  | append_singleton calls c ih =>
    have hmore := length_fitting_le (size - (taken size calls).flatten.length) c.writes
    rw [taken_concat, List.flatten_append, List.length_append]
    omega

/-- One more step finds the buffer that the steps before it have left. -/
lemma after_concat (b : Buffer) (calls : List Call) (c : Call) :
    b.after (calls ++ [c]) = ((b.after calls).call c).2 := by
  simp [after]

/-- A sequence of steps leaves the writes that are taken, one after the other. -/
lemma after_eq (size : Nat) (calls : List Call) :
    (⟨size, #[]⟩ : Buffer).after calls = ⟨size, (taken size calls).flatten.toArray⟩ := by
  induction calls using List.reverseRecOn with
  | nil => rfl
  | append_singleton calls c ih =>
    have hposition : (⟨size, (taken size calls).flatten.toArray⟩ : Buffer).position =
        (taken size calls).flatten.length := rfl
    have hroom := length_taken_le size calls
    rw [after_concat, ih, call_snd (hposition ▸ hroom), taken_concat]
    simp [append, position]

/-- What a buffer of a declared size is after a sequence of steps, and what the next step does to
it. -/
structure KeepsWrites (size : Nat) (calls : List Call) (b : Buffer) : Prop where
  /-- The declared size stays. -/
  declared : b.declared = size
  /-- The position is the number of bytes that were taken, and never exceeds the declared size. -/
  position : b.position = (taken size calls).flatten.length ∧ b.position ≤ size
  /-- The buffer holds the writes that were taken in their order, and then zeros. -/
  contents : b.toList = (taken size calls).flatten ++ List.replicate (size - b.position) 0
  /-- The next step may write a number or bytes. -/
  once : ∀ f width, f.width? = some width → b.WritesOnce f width
  /-- The next step may write a name. -/
  name : ∀ s, b.WritesName s
  /-- The next step may ask for the bytes. -/
  result : b.HandsOut

/-- A buffer of every size that is not negative, after every sequence of steps, whether they
succeeded or failed: it holds the writes that were taken and zeros behind them, and the next step
is refused without a change, takes its field, or tears a name. -/
theorem keepsWrites_calls (size : Int) (calls : List Call) :
    if size < 0 then Buffer.new size = .error .negativeSize
    else ∃ b, Buffer.new size = .ok b ∧ KeepsWrites size.toNat calls (b.after calls) := by
  split
  case isTrue hnegative => exact if_pos hnegative
  case isFalse hsize =>
    have hroom := length_taken_le size.toNat calls
    refine ⟨_, if_neg hsize, ?_⟩
    rw [after_eq]
    exact ⟨rfl, ⟨rfl, hroom⟩, rfl, fun f width hwidth => writesOnce_of_width? hwidth _,
      fun s => writesName _ s, handsOut _⟩

/-- A buffer of fourteen bytes, after an integer out of range, a name that is not ASCII, an integer,
a name, a number, a request for the bytes that comes too early, a name whose length is torn off, a
number without room that is also out of range, the last byte, and a name without room for its
length: it holds the integer, the name, the number, the torn length and the byte, and hands out its
bytes. -/
theorem keepsWrites_calls_mixed :
    let calls : List Call :=
      [.write (.int .int16 40000), .write (.name "é"), .write (.int .int32 (-2)),
        .write (.name "pan"), .write (.single (.ofInt 1)), .result, .write (.name "amp"),
        .write (.single (.ofInt (10 ^ (300 : Nat)))), .write (.raw [1]), .write (.name "a"),
        .result]
    ∃ b, Buffer.new 14 = .ok b ∧ KeepsWrites 14 calls (b.after calls) ∧
      taken 14 calls = [[255, 255, 255, 254], [3], [112, 97, 110], [63, 128, 0, 0], [3], [1]] ∧
      ((b.after calls).call .result).1 =
        .ok (some [255, 255, 255, 254, 3, 112, 97, 110, 63, 128, 0, 0, 3, 1]) := by
  have hrun := keepsWrites_calls 14 [.write (.int .int16 40000), .write (.name "é"),
    .write (.int .int32 (-2)), .write (.name "pan"), .write (.single (.ofInt 1)), .result,
    .write (.name "amp"), .write (.single (.ofInt (10 ^ (300 : Nat)))), .write (.raw [1]),
    .write (.name "a"), .result]
  rw [if_neg (by decide)] at hrun
  obtain ⟨b, hnew, hkeeps⟩ := hrun
  obtain rfl : (⟨14, #[]⟩ : Buffer) = b := Except.ok.inj hnew
  exact ⟨_, hnew, hkeeps, by decide +kernel, by decide +kernel⟩

end Buffer

end SynthGraph
