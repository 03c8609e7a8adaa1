import SynthGraph.Proofs.Binary.Written

/-!
# Buffers of the right and of the wrong size

A name is two writes, its length and its text, although it is counted in one step.  The file takes
fields apart into such writes and says, for every size that a buffer may be declared with, what
becomes of legal fields: a buffer of the size that is counted for them is filled, a larger one takes
them but is not handed out, and a smaller one refuses the first write that goes past its end.
-/

namespace SynthGraph

namespace Field

/-- The writes of a legal field, each with its bytes: a name is its length and then its text, and
every other field is one write. -/
def writes : Field → List (List UInt8)
  | raw bytes => [bytes]
  | int w v => [(int w v).bytes]
  | single v => [(single v).bytes]
  | name s => [[UInt8.ofNat s.length], asciiBytes s]

/-- The writes of a field are its bytes. -/
@[simp] lemma flatten_writes (f : Field) : f.writes.flatten = f.bytes := by
  cases f <;> simp [writes, bytes]

/-- The writes of some fields are their bytes. -/
@[simp] lemma flatten_flatMap_writes (fs : List Field) :
    (fs.flatMap writes).flatten = fs.flatMap bytes := by
  induction fs with
  | nil => rfl
  | cons f fs ih =>
    rw [List.flatMap_cons, List.flatten_append, flatten_writes, ih, List.flatMap_cons]

end Field

namespace Buffer

variable {b : Buffer} {f : Field} {fs : List Field} {bytes : List UInt8}
variable {pieces : List (List UInt8)}

/-- Writes pieces until one fails. -/
def putAll (b : Buffer) : List (List UInt8) → Except Fault Unit × Buffer
  | [] => (.ok (), b)
  | bytes :: pieces =>
    match b.put bytes with
    | (.error e, b) => (.error e, b)
    | (.ok _, b) => b.putAll pieces

/-! ### Fields as pieces -/

/-- Writing pieces goes on after the first ones when none of them fails. -/
lemma putAll_append (b : Buffer) (pieces more : List (List UInt8)) :
    b.putAll (pieces ++ more) =
      match b.putAll pieces with
      | (.error e, b) => (.error e, b)
      | (.ok _, b) => b.putAll more := by
  induction pieces generalizing b with
  | nil => rfl
  | cons bytes pieces ih =>
    rw [List.cons_append, putAll, putAll]
    rcases b.put bytes with ⟨e | u, b'⟩
    · rfl
    · exact ih b'

/-- One piece is one write. -/
@[simp] lemma putAll_singleton (b : Buffer) (bytes : List UInt8) :
    b.putAll [bytes] = b.put bytes := by
  rw [putAll]
  rcases b.put bytes with ⟨e | u, b'⟩ <;> rfl

/-- A number that has bytes is one write of them. -/
lemma putNumber_eq_put {width : Nat} (hwidth : bytes.length = width) :
    b.putNumber width (.ok bytes) = b.put bytes := by
  subst hwidth
  rw [putNumber, put]
  split <;> rfl

/-- A legal field is written piece by piece. -/
lemma write_eq_putAll (hf : f.IsLegal) (b : Buffer) : b.write f = b.putAll f.writes := by
  cases f with
  | raw bytes => rw [Field.writes, putAll_singleton, write]
  | int w v =>
    have hencoded : Field.encodeInt w v = .ok (w.encode v) := if_pos hf
    rw [Field.writes, putAll_singleton, Field.bytes, write, hencoded]
    exact putNumber_eq_put (w.length_encode v)
  | single v =>
    obtain ⟨x, hx⟩ := Option.isSome_iff_exists.mp hf
    have hbytes : (Field.single v).bytes = Field.singleBytes x := by simp [Field.bytes, hx]
    rw [Field.writes, putAll_singleton, hbytes, write, Field.encodeSingle, hx]
    exact putNumber_eq_put (Field.length_singleBytes x)
  | name s =>
    have hshort := shortName_eq_ok_iff.mpr ⟨hf, rfl⟩
    rw [Field.writes, write, hshort, putAll]
    dsimp only
    rw [length_asciiBytes]
    rcases b.put [UInt8.ofNat s.length] with ⟨e | u, b'⟩
    · rfl
    · exact (putAll_singleton b' _).symm

/-- Legal fields are written piece by piece. -/
lemma writeAll_eq_putAll (hfs : ∀ f ∈ fs, f.IsLegal) (b : Buffer) :
    b.writeAll fs = b.putAll (fs.flatMap Field.writes) := by
  induction fs generalizing b with
  | nil => rfl
  | cons f fs ih =>
    rw [List.forall_mem_cons] at hfs
    rw [writeAll, List.flatMap_cons, putAll_append, write_eq_putAll hfs.1]
    rcases b.putAll f.writes with ⟨e | u, b'⟩
    · rfl
    · exact ih hfs.2 b'

/-! ### Room for pieces -/

/-- A buffer without room refuses bytes and says where they would have gone. -/
lemma put_of_no_room (hroom : b.declared < b.position + bytes.length) :
    b.put bytes = (.error (.overflow bytes.length b.position b.declared), b) := by
  rw [put, hasRoom, decide_eq_false (Nat.not_le.mpr hroom)]
  rfl

/-- A buffer with room takes pieces. -/
lemma putAll_of_room (hroom : b.position + pieces.flatten.length ≤ b.declared) :
    b.putAll pieces = (.ok (), b.append pieces.flatten) := by
  induction pieces generalizing b with
  | nil => simp [putAll, append]
  | cons bytes pieces ih =>
    rw [List.flatten_cons, List.length_append] at hroom
    have hfirst : b.put bytes = (.ok (), b.append bytes) := put_of_room (by omega)
    have hrest := ih (b := b.append bytes) (by
      rw [position_append, declared_append]
      omega)
    rw [putAll, hfirst]
    dsimp only
    rw [hrest, append_append, List.flatten_cons]

/-- Pieces that go past some end have a first one that does. -/
lemma exists_first_past {start bound : Nat} (hstart : start ≤ bound)
    (hpast : bound < start + pieces.flatten.length) :
    ∃ before piece after, pieces = before ++ piece :: after ∧
      start + before.flatten.length ≤ bound ∧
      bound < start + before.flatten.length + piece.length := by
  induction pieces generalizing start with
  | nil =>
    rw [List.flatten_nil, List.length_nil] at hpast
    omega
  | cons bytes pieces ih =>
    rw [List.flatten_cons, List.length_append] at hpast
    by_cases hfirst : start + bytes.length ≤ bound
    · obtain ⟨before, piece, after, rfl, hbefore, hpiece⟩ := ih hfirst (by omega)
      refine ⟨bytes :: before, piece, after, rfl, ?_, ?_⟩ <;>
        rw [List.flatten_cons, List.length_append] <;> omega
    · exact ⟨[], bytes, pieces, rfl, by simpa using hstart, by simpa using hfirst⟩

end Buffer

/-! ### Every declared size -/

/-- The size of a buffer decides what becomes of fields that are written into it: `n` is the size
that is counted for them. -/
structure DecidedBySize (fs : List Field) (n : Nat) : Prop where
  /-- The size of the fields is `n`. -/
  counted : Field.totalSize fs = .ok n
  /-- A buffer of that size takes all fields and is handed out. -/
  equal : ∃ b b' bytes, Buffer.new n = .ok b ∧ b.writeAll fs = (.ok (), b') ∧
    b'.result = .ok bytes ∧ bytes.length = n
  /-- A larger buffer takes all fields and is not handed out. -/
  larger : ∀ m : Nat, n < m → ∃ b b' e, Buffer.new m = .ok b ∧ b.writeAll fs = (.ok (), b') ∧
    b'.result = .error e ∧ e.kind = .sizeMismatch ∧
    e.message = s!"BinaryWriter wrote {n} bytes, expected {m}"
  /-- A smaller buffer takes the writes of the fields one after the other as long as they do not go
  past its end, and refuses the first one that does. -/
  smaller : ∀ m : Nat, m < n → ∃ b b' before piece after offset e, Buffer.new m = .ok b ∧
    fs.flatMap Field.writes = before ++ piece :: after ∧
    before.flatten.length = offset ∧ offset ≤ m ∧ m < offset + piece.length ∧
    b.putAll before = (.ok (), b') ∧ b'.put piece = (.error e, b') ∧
    b.writeAll fs = (.error e, b') ∧ e.kind = .sizeMismatch ∧
    e.message = s!"Write of {piece.length} bytes at offset {offset} overflows declared size {m}"

namespace Buffer

variable {fs : List Field}

/-- A new buffer of a size that is not negative. -/
lemma new_natCast (m : Nat) : Buffer.new m = .ok ⟨m, #[]⟩ := by
  rw [new, if_neg (by omega), Int.toNat_natCast]

/-- A new buffer with room takes legal fields. -/
lemma writeAll_new (hfs : ∀ f ∈ fs, f.IsLegal) {m : Nat}
    (hroom : (fs.flatMap Field.bytes).length ≤ m) :
    (⟨m, #[]⟩ : Buffer).writeAll fs = (.ok (), ⟨m, (fs.flatMap Field.bytes).toArray⟩) := by
  rw [writeAll_of_isLegal hfs (by simpa [position] using hroom)]
  simp [append]

/-- What a buffer hands out depends on its declared size and the bytes that it has. -/
lemma result_toArray (m : Nat) (bytes : List UInt8) :
    (⟨m, bytes.toArray⟩ : Buffer).result =
      if bytes.length = m then .ok bytes else .error (.incomplete bytes.length m) := rfl

end Buffer

/-- The size of a buffer decides what becomes of legal fields. -/
theorem Field.decidedBySize_of_isLegal {fs : List Field} (hfs : ∀ f ∈ fs, f.IsLegal) :
    DecidedBySize fs (fs.flatMap bytes).length where
  counted := totalSize_of_isLegal hfs
  equal := ⟨_, _, _, Buffer.new_natCast _, Buffer.writeAll_new hfs (Nat.le_refl _),
    (Buffer.result_toArray _ _).trans (if_pos rfl), rfl⟩
  larger m hm := ⟨_, _, _, Buffer.new_natCast m, Buffer.writeAll_new hfs (Nat.le_of_lt hm),
    (Buffer.result_toArray _ _).trans (if_neg (Nat.ne_of_lt hm)), rfl, rfl⟩
  smaller m hm := by
    have hpast : m < 0 + (fs.flatMap writes).flatten.length := by simpa using hm
    obtain ⟨before, piece, after, hsplit, hbefore, hpiece⟩ :=
      Buffer.exists_first_past (Nat.zero_le m) hpast
    rw [Nat.zero_add] at hbefore hpiece
    have htaken : (⟨m, #[]⟩ : Buffer).putAll before = (.ok (), ⟨m, before.flatten.toArray⟩) := by
      rw [Buffer.putAll_of_room (by simpa [Buffer.position] using hbefore)]
      simp [Buffer.append]
    have hrefused : (⟨m, before.flatten.toArray⟩ : Buffer).put piece =
        (.error (.overflow piece.length before.flatten.length m),
          ⟨m, before.flatten.toArray⟩) := Buffer.put_of_no_room hpiece
    refine ⟨_, _, before, piece, after, _, _, Buffer.new_natCast m, hsplit, rfl, hbefore, hpiece,
      htaken, hrefused, ?_, rfl, rfl⟩
    rw [Buffer.writeAll_eq_putAll hfs, hsplit, Buffer.putAll_append, htaken]
    dsimp only
    rw [Buffer.putAll, hrefused]

end SynthGraph
