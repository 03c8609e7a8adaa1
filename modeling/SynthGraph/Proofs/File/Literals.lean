import SynthGraph.Proofs.Binary.Reader
import SynthGraph.Proofs.File.Legal
import SynthGraph.Proofs.Graph.Declaring
import SynthGraph.Proofs.Graph.Interning
import SynthGraph.Proofs.Number.Single

/-!
# Literals in files

A number is narrowed at two places: when a pool or a table keeps it, and when a buffer takes it.
The two agree on every number.  Both refuse it or neither does, and what a buffer takes for the
number is what it takes for the number that was kept.  Literals and defaults have therefore been
rounded once and for all when a file is written, and no file is refused because of them.
-/

namespace SynthGraph

-- Powers are those of the core library, also where a larger library brings its own.
attribute [local instance (2000)] instPowNat

variable {v w y z : Binary64} {x : Binary32} {b : Buffer} {e : Fault}

/-! ### Buffers -/

namespace Buffer

/-- A buffer with room takes the bits of the datum to which a number is narrowed. -/
lemma write_single_of_narrow? (hx : v.narrow? = some x)
    (hroom : b.position + FloatFormat.binary32.width ≤ b.declared) :
    b.write (.single v) = (.ok (), b.append (Field.singleBytes x)) := by
  rw [write, Field.encodeSingle, hx]
  exact putNumber_of_room (Field.length_singleBytes x) hroom

/-- A buffer with room refuses a number that overflows, and stays as it is. -/
lemma write_single_of_overflows (hv : v.Overflows)
    (hroom : b.position + FloatFormat.binary32.width ≤ b.declared) :
    b.write (.single v) = (.error (.singleRange v), b) := by
  rw [write, Field.encodeSingle, FloatDatum.narrow?_eq_none_iff.mpr hv, putNumber, hasRoom,
    decide_eq_true hroom]
  rfl

/-- Writing fails at one of the fields. -/
lemma exists_write_error_of_writeAll {fs : List Field} (h : (b.writeAll fs).1 = .error e) :
    ∃ f ∈ fs, ∃ b' : Buffer, (b'.write f).1 = .error e := by
  induction fs generalizing b with
  | nil => cases h
  | cons f fs ih =>
    rw [writeAll] at h
    rcases hwrite : b.write f with ⟨e' | u, b'⟩ <;> rw [hwrite] at h
    · exact ⟨f, List.mem_cons_self, b, by rw [hwrite]; exact h⟩
    · obtain ⟨g, hg, hlater⟩ := ih h
      exact ⟨g, List.mem_cons_of_mem f hg, hlater⟩

/-- Bytes are refused for want of room alone. -/
lemma error_of_put {bytes : List UInt8} (h : (b.put bytes).1 = .error e) :
    ∃ position, e = .overflow bytes.length position b.declared := by
  unfold put at h
  split at h
  · cases h
  · exact ⟨_, (Except.error.inj h).symm⟩

/-- The bytes of a number are refused for want of room, unless there are none. -/
lemma error_of_putNumber {width : Nat} {encoded : Except Fault (List UInt8)}
    (h : (b.putNumber width encoded).1 = .error e) :
    (∃ width position declared, e = .overflow width position declared) ∨ encoded = .error e := by
  unfold putNumber at h
  split at h
  · cases encoded with
    | ok bytes =>
      obtain ⟨position, rfl⟩ := error_of_put h
      exact .inl ⟨_, _, _, rfl⟩
    | error e' => exact .inr (by rw [Except.error.inj h])
  · exact .inl ⟨_, _, _, (Except.error.inj h).symm⟩

/-- A buffer is not handed out before it is full. -/
lemma error_of_result (h : b.result = .error e) : e = .incomplete b.position b.declared := by
  unfold result at h
  split at h
  · cases h
  · exact (Except.error.inj h).symm

/-- Only the field of a number that overflows is refused because of its number. -/
lemma overflows_of_write {f : Field} (h : (b.write f).1 = .error (.singleRange y)) :
    f = .single y ∧ y.Overflows := by
  cases f with
  | raw bytes =>
    obtain ⟨_, hfault⟩ := error_of_put h
    cases hfault
  | int width n =>
    obtain ⟨_, _, _, hfault⟩ | hencoded := error_of_putNumber h
    · cases hfault
    · unfold Field.encodeInt at hencoded
      split at hencoded <;> cases hencoded
  | single v =>
    obtain ⟨_, _, _, hfault⟩ | hencoded := error_of_putNumber h
    · cases hfault
    · unfold Field.encodeSingle at hencoded
      cases hnarrow : v.narrow? with
      | some x =>
        rw [hnarrow] at hencoded
        cases hencoded
      | none =>
        rw [hnarrow] at hencoded
        cases hencoded
        exact ⟨rfl, FloatDatum.narrow?_eq_none_iff.mp hnarrow⟩
  | name s =>
    rw [write] at h
    cases hname : shortName s with
    | error e' =>
      rw [hname] at h
      obtain rfl := Except.error.inj h
      unfold shortName at hname
      split at hname
      · split at hname <;> cases hname
      · cases hname
    | ok bytes =>
      rw [hname] at h
      dsimp only at h
      rcases hlength : b.put [UInt8.ofNat bytes.length] with ⟨e' | u, b'⟩ <;> rw [hlength] at h
      · have hfirst : (b.put [UInt8.ofNat bytes.length]).1 = .error (.singleRange y) := by
          rw [hlength]
          exact h
        obtain ⟨_, hfault⟩ := error_of_put hfirst
        cases hfault
      · obtain ⟨_, hfault⟩ := error_of_put h
        cases hfault

end Buffer

/-! ### Files -/

namespace Field

/-- A field has no size when its name cannot be written, and for no other reason. -/
lemma kind_of_size {f : Field} (h : f.size = .error e) : e.kind = .nameLength := by
  cases f with
  | name s =>
    by_cases hname : IsShortName s
    · rw [size_of_isLegal (f := .name s) hname] at h
      cases h
    · obtain ⟨e', he, hkind⟩ := shortName_of_not_isShortName hname
      rw [size, he] at h
      rwa [← Except.error.inj h]
  | _ => cases h

/-- Fields have no size when one of them has none. -/
lemma kind_of_totalSize {fs : List Field} (h : totalSize fs = .error e) : e.kind = .nameLength := by
  have hfrom : ∀ (fs : List Field) (start : Nat),
      fs.foldlM (fun total f => f.size.map (total + ·)) start = .error e →
        e.kind = .nameLength := by
    intro fs
    induction fs with
    | nil => exact fun start hnil => by cases hnil
    | cons f fs ih =>
      intro start hcons
      rw [List.foldlM_cons] at hcons
      cases hsize : f.size with
      | ok n =>
        rw [hsize] at hcons
        exact ih _ hcons
      | error e' =>
        rw [hsize] at hcons
        obtain rfl := Except.error.inj hcons
        exact kind_of_size hsize
  exact hfrom fs 0 h

end Field

namespace Definition

variable {d : Definition}

/-- A literal or a default of a definition. -/
def KeepsSingle (d : Definition) (x : Binary32) : Prop :=
  x ∈ d.constants.values ∨ x ∈ d.parameters.toList.map Parameter.default

/-- The numbers among the fields of a definition are those that it stores. -/
lemma exists_keepsSingle_of_mem_fields (h : .single y ∈ d.fields) :
    ∃ x, d.KeepsSingle x ∧ y = x.widen := by
  have hsplit : (∃ x ∈ d.constants.values, y = FloatDatum.widen x) ∨
      ∃ p ∈ d.parameters.toList, y = FloatDatum.widen p.default := by
    simpa [fields, countedFields, literalFields, Node.fields, Reference.fields,
      Parameter.nameFields] using h
  rcases hsplit with ⟨x, hx, rfl⟩ | ⟨p, hp, rfl⟩
  · exact ⟨x, .inl hx, rfl⟩
  · exact ⟨p.default, .inr (List.mem_map_of_mem hp), rfl⟩

end Definition

namespace DefinitionFile

variable {ds : List Definition}

/-- The numbers among the fields of a file are those that its definitions store. -/
lemma exists_keepsSingle_of_mem_fields (h : .single y ∈ fields ds) :
    ∃ d ∈ ds, ∃ x, d.KeepsSingle x ∧ y = x.widen := by
  have hmem : ∃ d ∈ ds, .single y ∈ d.fields := by simpa [fields] using h
  obtain ⟨d, hd, hy⟩ := hmem
  exact ⟨d, hd, Definition.exists_keepsSingle_of_mem_fields hy⟩

/-- No file is refused for a number that is too great for single precision. -/
lemma encode_ne_singleRange (ds : List Definition) (y : Binary64) :
    encode ds ≠ .error (.singleRange y) := by
  intro h
  obtain hsize | ⟨n, -, hwrite⟩ := bind_eq_error.mp h
  · obtain hcheck | ⟨_, -, htotal⟩ := bind_eq_error.mp hsize
    · unfold checkCount at hcheck
      split at hcheck <;> cases hcheck
    · cases Field.kind_of_totalSize htotal
  · obtain hnew | ⟨b, -, hfilled⟩ := bind_eq_error.mp hwrite
    · unfold Buffer.new at hnew
      split at hnew <;> cases hnew
    · obtain hwritten | ⟨_, -, hresult⟩ := bind_eq_error.mp hfilled
      · have hfields : (b.writeAll (fields ds)).1 = .error (.singleRange y) := hwritten
        obtain ⟨f, hf, b', hfield⟩ := Buffer.exists_write_error_of_writeAll hfields
        obtain ⟨rfl, hover⟩ := Buffer.overflows_of_write hfield
        obtain ⟨d, -, x, -, rfl⟩ := exists_keepsSingle_of_mem_fields hf
        rw [← FloatDatum.narrow?_eq_none_iff, FloatDatum.narrow?_widen] at hover
        cases hover
      · cases Buffer.error_of_result hresult

end DefinitionFile

/-! ### What is kept -/

/-- A pool that needs a new slot for a literal fails when the literal cannot be kept, and otherwise
stores what is kept of it. -/
lemma ConstantPool.map_intern {pool : ConstantPool} (h : pool.slot? (constantKey v) = none) :
    (pool.intern v).map (fun r => (r.1, r.2.values.map FloatDatum.widen)) =
      v.toSingle.map fun y => (pool.size, pool.values.map FloatDatum.widen ++ [y]) := by
  cases hnarrow : v.narrow? with
  | none => rw [intern, h, FloatDatum.toSingle, hnarrow]; rfl
  | some x =>
    have hintern : pool.intern v = .ok (pool.size, pool.push (constantKey v) x) :=
      intern_eq_ok_iff.mpr (.inr ⟨h, rfl, x, hnarrow, rfl⟩)
    rw [hintern, FloatDatum.toSingle_eq_ok_iff.mpr ⟨x, hnarrow, rfl⟩]
    simp [Except.map]

/-- A table that has no other objection to a declaration fails when the default cannot be kept, and
otherwise stores what is kept of it. -/
lemma ParameterTable.map_declare {t : ParameterTable} {name : String} {r : ParameterRate}
    (hname : IsShortName name) (hopen : t.isSealed = false) (hnew : t.contains name = false)
    (hlate : t.tooLate? r = none) :
    (t.declare name v r.name).map
        (fun r => (r.1, r.2.toList.map fun p => FloatDatum.widen p.default)) =
      v.toSingle.map fun y =>
        (t.size, t.toList.map (fun p => FloatDatum.widen p.default) ++ [y]) := by
  rw [declare_of_isShortName hname, hopen, hnew, hlate, FloatDatum.toSingle]
  cases v.narrow? with
  | none => rfl
  | some x => simp [Except.map]

/-- Every literal of a pool is what is kept of one of the numbers that were interned. -/
lemma ConstantPool.exists_toSingle_of_mem_after {calls : List Binary64}
    (h : x ∈ (ConstantPool.after calls).values) : ∃ v ∈ calls, v.toSingle = .ok x.widen := by
  have hlists := lists_after calls
  obtain ⟨slot, hslot⟩ := List.mem_iff_getElem?.mp h
  obtain ⟨hlt, -⟩ := List.getElem?_eq_some_iff.mp hslot
  rw [length_values, hlists.size_eq] at hlt
  obtain ⟨v, hfind, hvalue⟩ := hlists.getElem?_values (List.getElem?_eq_getElem hlt)
  have hv : v ∈ accepted calls := List.mem_of_find?_eq_some hfind
  rw [hslot] at hvalue
  exact ⟨v, List.mem_of_mem_filter hv, FloatDatum.toSingle_eq_ok_iff.mpr ⟨x, hvalue.symm, rfl⟩⟩

/-- Every default of a table is what is kept of the number of one of the declarations. -/
lemma ParameterTable.exists_toSingle_of_mem_after {calls : List ParameterTable.Call} {p : Parameter}
    (h : p ∈ (ParameterTable.after calls).toList) :
    ∃ v, .declare p.name v p.rate.name ∈ calls ∧ v.toSingle = .ok p.default.widen := by
  obtain ⟨k, hk⟩ := List.mem_iff_getElem?.mp h
  obtain ⟨i, v, hcall, -, hv⟩ := exists_call_of_getElem? hk
  exact ⟨v, List.mem_of_getElem? hcall, FloatDatum.toSingle_eq_ok_iff.mpr ⟨_, hv, rfl⟩⟩

/-! ### The two narrowings -/

/-- What keeping a number and writing it into a buffer have in common. -/
structure NarrowedAlike (v : Binary64) (b : Buffer) : Prop where
  /-- A number is not kept when it is finite and half a step or more beyond the greatest number of
  single precision. -/
  unkept_iff : (∃ e, v.toSingle = .error e ∧ e.kind = .format) ↔
    ∃ r, v.value? = some r ∧ 2 ^ 128 - 2 ^ 103 ≤ |r|
  /-- The same numbers are not written. -/
  unwritten_iff : (∃ e, (b.write (.single v)).1 = .error e ∧ e.kind = .format) ↔
    ∃ r, v.value? = some r ∧ 2 ^ 128 - 2 ^ 103 ≤ |r|
  /-- Nothing else goes wrong, and a buffer that refuses a number stays as it is. -/
  refused : ∀ e, v.toSingle = .error e →
    e = .notSingle v ∧ b.write (.single v) = (.error (.singleRange v), b)
  /-- What is kept is the datum of single precision to which the number is rounded, again in double
  precision; its bits are what the buffer takes for the number, and for what is kept of it. -/
  written : ∀ y, v.toSingle = .ok y → ∃ x : Binary32, v.RoundsTo x ∧ y = x.widen ∧
    y.value? = x.value? ∧ b.write (.single v) = (.ok (), b.append (bigEndian 4 x.bits)) ∧
    b.write (.single y) = (.ok (), b.append (bigEndian 4 x.bits)) ∧
    (FloatDatum.ofBits .binary32 (ofBigEndian (bigEndian 4 x.bits))).widen = y
  /-- What is kept is kept as it is. -/
  again : ∀ y, v.toSingle = .ok y → y.toSingle = .ok y
  /-- A pool in which the number needs a slot fails with the same fault, or stores what is kept. -/
  interned : ∀ pool : ConstantPool, pool.slot? (constantKey v) = none →
    (pool.intern v).map (fun r => (r.1, r.2.values.map FloatDatum.widen)) =
      v.toSingle.map fun y => (pool.size, pool.values.map FloatDatum.widen ++ [y])
  /-- So does a table that accepts the name and the rate of a declaration. -/
  declared : ∀ (t : ParameterTable) (name : String) (r : ParameterRate), IsShortName name →
    t.isSealed = false → t.contains name = false → t.tooLate? r = none →
    (t.declare name v r.name).map
        (fun r => (r.1, r.2.toList.map fun p => FloatDatum.widen p.default)) =
      v.toSingle.map fun y =>
        (t.size, t.toList.map (fun p => FloatDatum.widen p.default) ++ [y])

/-- A stored datum is neither rounded nor refused any more. -/
structure StaysSingle (x : Binary32) (b : Buffer) : Prop where
  again : x.widen.toSingle = .ok x.widen
  written : b.write (.single x.widen) = (.ok (), b.append (bigEndian 4 x.bits))

variable (hroom : b.position + 4 ≤ b.declared)

include hroom

/-- A stored datum is written with its own bits. -/
lemma staysSingle (x : Binary32) : StaysSingle x b where
  again := FloatDatum.toSingle_widen x
  written := Buffer.write_single_of_narrow? (FloatDatum.narrow?_widen x) hroom

/-- Keeping a number and writing it narrow it alike. -/
lemma narrowedAlike (v : Binary64) : NarrowedAlike v b where
  unkept_iff := by
    rw [← FloatDatum.overflows_iff]
    constructor
    · rintro ⟨e, he, -⟩
      exact (FloatDatum.toSingle_eq_error_iff.mp he).1
    · exact fun hover => ⟨_, FloatDatum.toSingle_eq_error_iff.mpr ⟨hover, rfl⟩, rfl⟩
  unwritten_iff := by
    rw [← FloatDatum.overflows_iff]
    constructor
    · rintro ⟨e, he, -⟩
      by_contra hover
      obtain ⟨x, hx⟩ := Option.isSome_iff_exists.mp (FloatDatum.isSome_narrow?_iff.mpr hover)
      rw [Buffer.write_single_of_narrow? hx hroom] at he
      cases he
    · exact fun hover => ⟨_, by rw [Buffer.write_single_of_overflows hover hroom], rfl⟩
  refused := fun e he => by
    obtain ⟨hover, rfl⟩ := FloatDatum.toSingle_eq_error_iff.mp he
    exact ⟨rfl, Buffer.write_single_of_overflows hover hroom⟩
  written := fun y hy => by
    obtain ⟨x, hx, rfl⟩ := FloatDatum.toSingle_eq_ok_iff.mp hy
    obtain ⟨hbound, hbits⟩ := ByteReader.ofBits_bits x
    have hread : ofBigEndian (bigEndian 4 x.bits) = x.bits :=
      (ofBigEndian_bigEndian 4 x.bits).trans (Nat.mod_eq_of_lt hbound)
    refine ⟨x, FloatDatum.roundsTo_of_narrow? hx, rfl, FloatDatum.value?_widen x,
      Buffer.write_single_of_narrow? hx hroom, (staysSingle hroom x).written, ?_⟩
    rw [hread, hbits]
  again := fun y hy => by
    obtain ⟨x, -, rfl⟩ := FloatDatum.toSingle_eq_ok_iff.mp hy
    exact FloatDatum.toSingle_widen x
  interned := fun _ hslot => ConstantPool.map_intern hslot
  declared := fun _ _ _ hname hopen hnew hlate =>
    ParameterTable.map_declare hname hopen hnew hlate

/-- A number is narrowed alike where it is kept and where it is written, and narrowing keeps the
order of numbers.  The literals of a pool and the defaults of a table, after any sequence of calls,
are what was kept of numbers that were passed in.  The numbers among the fields of a file are
literals and defaults of its definitions; each of them is written with its own bits, and no file is
refused because of one. -/
theorem narrowings_agree (v w : Binary64) :
    NarrowedAlike v b ∧
      (∀ y z, v.AtMost w → v.toSingle = .ok y → w.toSingle = .ok z → y.AtMost z) ∧
      (∀ (calls : List Binary64) (x : Binary32), x ∈ (ConstantPool.after calls).values →
        (∃ u ∈ calls, u.toSingle = .ok x.widen) ∧ StaysSingle x b) ∧
      (∀ (calls : List ParameterTable.Call) (p : Parameter),
        p ∈ (ParameterTable.after calls).toList →
          (∃ u, .declare p.name u p.rate.name ∈ calls ∧ u.toSingle = .ok p.default.widen) ∧
            StaysSingle p.default b) ∧
      ∀ ds : List Definition,
        (∀ y, .single y ∈ DefinitionFile.fields ds →
          ∃ d ∈ ds, ∃ x, d.KeepsSingle x ∧ y = x.widen ∧ StaysSingle x b) ∧
        ∀ y, DefinitionFile.encode ds ≠ .error (.singleRange y) := by
  refine ⟨narrowedAlike hroom v, fun y z horder hy hz => horder.toSingle hy hz, ?_, ?_, ?_⟩
  · exact fun calls x hx =>
      ⟨ConstantPool.exists_toSingle_of_mem_after hx, staysSingle hroom x⟩
  · exact fun calls p hp =>
      ⟨ParameterTable.exists_toSingle_of_mem_after hp, staysSingle hroom p.default⟩
  · refine fun ds => ⟨fun y hy => ?_, DefinitionFile.encode_ne_singleRange ds⟩
    obtain ⟨d, hd, x, hx, rfl⟩ := DefinitionFile.exists_keepsSingle_of_mem_fields hy
    exact ⟨d, hd, x, hx, rfl, staysSingle hroom x⟩

omit hroom

/-- The greatest number that does not overflow and the next one, in an empty buffer of four bytes:
the first one is kept as the greatest number of single precision and written as its bits, and the
second one is neither kept nor written. -/
theorem narrowings_agree_overflowCode :
    (⟨4, #[]⟩ : Buffer).position + 4 ≤ (⟨4, #[]⟩ : Buffer).declared ∧
      (∃ y, (.signed true ⟨FloatDatum.overflowCode - 1, by decide⟩ : Binary64).toSingle = .ok y ∧
        y.toSingle = .ok y ∧
        (⟨4, #[]⟩ : Buffer).write (.single y) = (.ok (), ⟨4, #[255, 127, 255, 255]⟩)) ∧
      (∃ e, (.signed false ⟨FloatDatum.overflowCode, by decide⟩ : Binary64).toSingle = .error e ∧
        e.kind = .format) ∧
      ∃ e, ((⟨4, #[]⟩ : Buffer).write
        (.single (.signed false ⟨FloatDatum.overflowCode, by decide⟩))).1 = .error e ∧
          e.kind = .format := by
  have hroom : (⟨4, #[]⟩ : Buffer).position + 4 ≤ (⟨4, #[]⟩ : Buffer).declared := by decide
  obtain ⟨hkept, -⟩ := narrowings_agree hroom
    (.signed true ⟨FloatDatum.overflowCode - 1, by decide⟩) (.zero false)
  obtain ⟨hrefused, -⟩ := narrowings_agree hroom
    (.signed false ⟨FloatDatum.overflowCode, by decide⟩) (.zero false)
  have hgreat : ∃ r, (.signed false ⟨FloatDatum.overflowCode, by decide⟩ : Binary64).value? =
      some r ∧ 2 ^ 128 - 2 ^ 103 ≤ |r| := by
    rw [← FloatDatum.overflows_iff]
    decide +kernel
  refine ⟨hroom, ?_, hrefused.unkept_iff.mpr hgreat, hrefused.unwritten_iff.mpr hgreat⟩
  have hnarrow : (.signed true ⟨FloatDatum.overflowCode - 1, by decide⟩ : Binary64).narrow? =
      some (.signed true ⟨0x7F7FFFFF, by decide⟩) := by decide +kernel
  have hsingle := FloatDatum.toSingle_eq_ok_iff.mpr ⟨_, hnarrow, rfl⟩
  refine ⟨_, hsingle, hkept.again _ hsingle, ?_⟩
  rw [Buffer.write_single_of_narrow? (FloatDatum.narrow?_widen _) hroom]
  decide +kernel

end SynthGraph
