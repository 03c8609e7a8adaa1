import SynthGraph.Proofs.File.Bundle
import SynthGraph.Proofs.Graph.Parallel

/-!
# Where the name and the defaults stand

A file of one definition is laid out as a header, the name, the literals and the number of
parameters, the defaults in a table of four bytes each, and then the names of the parameters and the
nodes.  The name and the table of defaults stand apart from everything else: other bytes are the
same when they are changed, and at the same offsets when the length of the name is.  So the files of
two definitions with the same graph differ there only.
-/

namespace SynthGraph

/-! ### Tables of one width -/

/-- The bytes of a table whose entries have one width. -/
lemma getElem?_flatMap_of_length {α β : Type} {f : α → List β} {width : Nat} (hpos : 0 < width)
    (hwidth : ∀ x, (f x).length = width) (xs : List α) (k : Nat) :
    (xs.flatMap f)[k]? = xs[k / width]?.bind fun x => (f x)[k % width]? := by
  induction xs generalizing k with
  | nil => rfl
  | cons x xs ih =>
    rw [List.flatMap_cons]
    rcases Nat.lt_or_ge k width with hlt | hge
    · rw [List.getElem?_append_left (by rwa [hwidth]), Nat.div_eq_of_lt hlt, Nat.mod_eq_of_lt hlt]
      rfl
    · obtain ⟨m, rfl⟩ := Nat.exists_eq_add_of_le hge
      rw [List.getElem?_append_right (by rw [hwidth]; omega), hwidth, Nat.add_sub_cancel_left, ih,
        Nat.add_div_left m hpos, Nat.add_mod_left, List.getElem?_cons_succ]

/-- The number of bytes of a table whose entries have one width. -/
lemma length_flatMap_of_length {α β : Type} {f : α → List β} {width : Nat}
    (hwidth : ∀ x, (f x).length = width) (xs : List α) :
    (xs.flatMap f).length = width * xs.length := by
  rw [List.length_flatMap]
  simp [hwidth, Nat.mul_comm]

/-- Two lists have the same element at a place when their parts have. -/
lemma getElem?_append_congr {α : Type} {xs xs' ys ys' : List α} {k : Nat}
    (hlength : xs'.length = xs.length) (hleft : k < xs.length → xs'[k]? = xs[k]?)
    (hright : ∀ m, k = xs.length + m → ys'[m]? = ys[m]?) : (xs' ++ ys')[k]? = (xs ++ ys)[k]? := by
  rcases Nat.lt_or_ge k xs.length with hlt | hge
  · rw [List.getElem?_append_left (hlength ▸ hlt), List.getElem?_append_left hlt, hleft hlt]
  · obtain ⟨m, rfl⟩ := Nat.exists_eq_add_of_le hge
    rw [List.getElem?_append_right (by omega), List.getElem?_append_right hge, hlength,
      Nat.add_sub_cancel_left, hright m rfl]

/-! ### The layout of a file -/

/-- The fields between the name and the defaults: the literals, and the number of the parameters. -/
def Definition.fieldsBefore (d : Definition) : List Field :=
  countedFields d.constants.values literalFields ++ [.int .int32 d.parameters.toList.length]

/-- The fields after the defaults: the names of the parameters, the nodes, and the number of
variants. -/
def Definition.fieldsAfter (d : Definition) : List Field :=
  countedFields d.parameters.toList Parameter.nameFields ++
    countedFields d.nodes.toList Node.fields ++ [.int .int16 0]

/-- The fields of a definition around its name and its defaults. -/
lemma Definition.fields_eq (d : Definition) :
    d.fields = [.name d.name] ++ d.fieldsBefore ++
      (d.parameters.toList.map Parameter.default).flatMap literalFields ++ d.fieldsAfter := by
  simp only [fields, fieldsBefore, fieldsAfter, countedFields, List.flatMap_map,
    List.append_assoc, List.cons_append, List.nil_append]

namespace DefinitionFile

variable {d : Definition} {name name' : String} {before after bytes : List UInt8}
  {defaults defaults' : List Binary32}

/-- A file with a name and defaults, and with bytes between and after them. -/
def layout (name : String) (before : List UInt8) (defaults : List Binary32)
    (after : List UInt8) : List UInt8 :=
  header 1 ++ (Field.name name).bytes ++ before ++ defaults.flatMap Field.singleBytes ++ after

/-- Where a default stands behind the header, the name and some literals. -/
def defaultOffset (name : String) (literals i : Nat) : Nat :=
  11 + name.length + (8 + 4 * literals) + 4 * i

/-- The bytes of a table of literals. -/
lemma flatMap_bytes_literalFields (xs : List Binary32) :
    (xs.flatMap literalFields).flatMap Field.bytes = xs.flatMap Field.singleBytes := by
  rw [List.flatMap_assoc]
  congr 1
  funext x
  simp [literalFields, Field.bytes, FloatDatum.narrow?_widen]

/-- The file of a definition, laid out. -/
lemma layout_of_encode (h : encode [d] = .ok bytes) :
    bytes = layout d.name (d.fieldsBefore.flatMap Field.bytes)
      (d.parameters.toList.map Parameter.default) (d.fieldsAfter.flatMap Field.bytes) := by
  obtain ⟨-, rfl⟩ := isLegal_of_encode h
  rw [flatMap_bytes_fields_singleton, Definition.fields_eq, layout]
  simp only [List.flatMap_append, List.flatMap_singleton, flatMap_bytes_literalFields,
    List.append_assoc]

/-- The bytes between the name and the defaults. -/
lemma length_flatMap_fieldsBefore (d : Definition) :
    (d.fieldsBefore.flatMap Field.bytes).length = 8 + 4 * d.constants.size := by
  have hcount := Field.byteLength_countedFields_of_eq d.constants.values byteLength_literalFields
  rw [ConstantPool.length_values] at hcount
  change Field.byteLength d.fieldsBefore = _
  rw [Definition.fieldsBefore, Field.byteLength_append, hcount, Field.byteLength_cons,
    Field.length_bytes_int, Field.byteLength_nil, IntWidth.bytes]
  omega

/-- The number of bytes of a file. -/
lemma length_layout (name : String) (before : List UInt8) (defaults : List Binary32)
    (after : List UInt8) : (layout name before defaults after).length =
      11 + name.length + before.length + 4 * defaults.length + after.length := by
  simp only [layout, List.length_append, length_header, Field.length_bytes_name,
    length_flatMap_of_length Field.length_singleBytes]
  omega

/-- A default stands at its index in the table of defaults. -/
lemma take_drop_layout {i : Nat} {x : Binary32} (hx : defaults[i]? = some x) :
    ((layout name before defaults after).drop
      (11 + name.length + before.length + 4 * i)).take 4 = Field.singleBytes x := by
  obtain ⟨hi, rfl⟩ := List.getElem?_eq_some_iff.mp hx
  have hsplit : defaults = defaults.take i ++ defaults[i] :: defaults.drop (i + 1) := by
    rw [List.getElem_cons_drop, List.take_append_drop]
  have hlayout : layout name before defaults after =
      (header 1 ++ (Field.name name).bytes ++ before ++
        (defaults.take i).flatMap Field.singleBytes) ++
      (Field.singleBytes defaults[i] ++
        ((defaults.drop (i + 1)).flatMap Field.singleBytes ++ after)) := by
    conv_lhs => rw [layout, hsplit]
    simp only [List.flatMap_append, List.flatMap_cons, List.append_assoc]
  rw [hlayout, List.drop_left', List.take_left' (Field.length_singleBytes _)]
  simp only [List.length_append, length_header, Field.length_bytes_name,
    length_flatMap_of_length Field.length_singleBytes, List.length_take]
  omega

/-- With a name of the same length, the bytes outside the name and the defaults that are changed are
the same. -/
lemma getElem?_layout_congr (hname : name'.length = name.length)
    (hlength : defaults'.length = defaults.length) {k : Nat}
    (hk : k < 11 ∨ 11 + name.length ≤ k)
    (hdefaults : ∀ i, 11 + name.length + before.length + 4 * i ≤ k →
      k < 11 + name.length + before.length + 4 * i + 4 → defaults'[i]? = defaults[i]?) :
    (layout name' before defaults' after)[k]? = (layout name before defaults after)[k]? := by
  have htable (defaults : List Binary32) :=
    length_flatMap_of_length Field.length_singleBytes defaults
  simp only [layout, List.append_assoc]
  refine getElem?_append_congr rfl (fun _ => rfl) fun m hm => ?_
  rw [length_header] at hm
  refine getElem?_append_congr (by simp [hname]) (fun hlt => ?_) fun m' hm' => ?_
  · -- Only the length of the name is left.
    rw [Field.length_bytes_name] at hlt
    obtain rfl : m = 0 := by omega
    simp [Field.bytes, hname]
  rw [Field.length_bytes_name] at hm'
  refine getElem?_append_congr rfl (fun _ => rfl) fun i hi => ?_
  refine getElem?_append_congr (by rw [htable, htable, hlength]) (fun hlt => ?_) fun _ _ => rfl
  have hfour := Field.length_singleBytes
  rw [getElem?_flatMap_of_length (by decide) hfour, getElem?_flatMap_of_length (by decide) hfour,
    hdefaults (i / 4) (by omega) (by omega)]

/-! ### Files of the same graph -/

/-- Two files with as many literals that differ in their names and in some defaults at most. -/
structure Relabelled (literals : Nat) (name name' : String) (defaults defaults' : List Binary32)
    (bytes bytes' : List UInt8) : Prop where
  /-- Around the name and the defaults, both hold the same bytes. -/
  split : ∃ before after, before.length = 8 + 4 * literals ∧
    bytes = layout name before defaults after ∧ bytes' = layout name' before defaults' after
  /-- A reader sees nothing else that differs. -/
  decoded : ∃ contents, contents.name = name ∧ contents.defaults = defaults ∧
    decode bytes = some ⟨magic, version, [contents]⟩ ∧
    decode bytes' =
      some ⟨magic, version, [{ contents with name := name', defaults := defaults' }]⟩
  /-- In both, the table has as many defaults, each in four bytes at its index. -/
  table : defaults'.length = defaults.length ∧ ∀ i x,
    (defaults[i]? = some x →
      (bytes.drop (defaultOffset name literals i)).take 4 = Field.singleBytes x) ∧
    (defaults'[i]? = some x →
      (bytes'.drop (defaultOffset name' literals i)).take 4 = Field.singleBytes x)
  /-- With names of the same length, both have the same length, and they differ nowhere but in the
  letters of the name and in the defaults that differ. -/
  offsets : name'.length = name.length → bytes'.length = bytes.length ∧
    ∀ k, k < 11 ∨ 11 + name.length ≤ k →
      (∀ i, defaultOffset name literals i ≤ k → k < defaultOffset name literals i + 4 →
        defaults'[i]? = defaults[i]?) → bytes'[k]? = bytes[k]?

end DefinitionFile

namespace Definition.SameGraph

open DefinitionFile

variable {d d' : Definition} {bytes bytes' : List UInt8}

/-- The relation is symmetric. -/
lemma symm (h : d.SameGraph d') : d'.SameGraph d := by
  refine ⟨h.constants.symm, ?_, h.isSealed.symm, h.nodes.symm, h.bindings.symm⟩
  exact h.parameters.flip.imp fun _ _ hp => ⟨hp.name.symm, hp.rate.symm, hp.index.symm⟩

/-- The parameters have the same names and indices. -/
lemma map_parameters {α : Type} (h : d.SameGraph d') (f : String → Nat → α) :
    d'.parameters.toList.map (fun p => f p.name p.index) =
      d.parameters.toList.map fun p => f p.name p.index := by
  refine (map_eq_map_of_forall₂ h.parameters fun p q hpq => ?_).symm
  rw [hpq.name, hpq.index]

/-- The fields before the defaults are the same. -/
lemma fieldsBefore_eq (h : d.SameGraph d') : d'.fieldsBefore = d.fieldsBefore := by
  rw [fieldsBefore, fieldsBefore, h.constants, h.parameters.length_eq]

/-- The fields after the defaults are the same. -/
lemma fieldsAfter_eq (h : d.SameGraph d') : d'.fieldsAfter = d.fieldsAfter := by
  have hnames : countedFields d'.parameters.toList Parameter.nameFields =
      countedFields d.parameters.toList Parameter.nameFields := by
    rw [countedFields, countedFields, h.parameters.length_eq, List.flatMap_def, List.flatMap_def]
    congr 2
    exact h.map_parameters fun name index => [Field.name name, Field.int .int32 index]
  rw [fieldsAfter, fieldsAfter, hnames, h.nodes]

/-- A definition with the graph of one that can be written can be written under a short name. -/
lemma exists_encode (h : d.SameGraph d') (hname : IsShortName d'.name)
    (hbytes : ∃ bytes, encode [d] = .ok bytes) : ∃ bytes, encode [d'] = .ok bytes := by
  obtain ⟨bytes, hbytes⟩ := hbytes
  obtain ⟨hlegal, -⟩ := isLegal_of_encode hbytes
  refine ⟨_, encode_of_isLegal (by simp [maxDefinitions]) ?_⟩
  simp only [DefinitionFile.fields, List.flatMap_singleton, List.length_singleton,
    Definition.fields_eq, List.forall_mem_append, List.forall_mem_singleton] at hlegal ⊢
  obtain ⟨hheader, ⟨⟨-, hbefore⟩, -⟩, hafter⟩ := hlegal
  rw [h.fieldsBefore_eq, h.fieldsAfter_eq]
  refine ⟨hheader, ⟨⟨hname, hbefore⟩, fun f hf => ?_⟩, hafter⟩
  obtain ⟨x, -, hf⟩ := List.mem_flatMap.mp hf
  exact isLegal_literalFields x f hf

/-- The contents differ in the name and in the defaults. -/
lemma contents_eq (h : d.SameGraph d') : d'.contents =
    { d.contents with
      name := d'.name, defaults := d'.parameters.toList.map Parameter.default } := by
  have hnames := h.map_parameters fun name index => (name, (index : Int))
  rw [contents, contents, hnames, h.constants, h.nodes]

/-- The files of two definitions with the same graph differ in the name and in the defaults. -/
theorem relabelled (h : d.SameGraph d') (hbytes : encode [d] = .ok bytes)
    (hbytes' : encode [d'] = .ok bytes') :
    Relabelled d.constants.size d.name d'.name (d.parameters.toList.map Parameter.default)
      (d'.parameters.toList.map Parameter.default) bytes bytes' := by
  have hsplit := layout_of_encode hbytes
  have hsplit' := layout_of_encode hbytes'
  rw [h.fieldsBefore_eq, h.fieldsAfter_eq] at hsplit'
  have hbefore := length_flatMap_fieldsBefore d
  have hlength : (d'.parameters.toList.map Parameter.default).length =
      (d.parameters.toList.map Parameter.default).length := by
    rw [List.length_map, List.length_map, h.parameters.length_eq]
  constructor
  case split => exact ⟨_, _, hbefore, hsplit, hsplit'⟩
  case decoded =>
    obtain ⟨hlegal, hfields⟩ := isLegal_of_encode hbytes
    obtain ⟨hlegal', hfields'⟩ := isLegal_of_encode hbytes'
    refine ⟨d.contents, rfl, rfl, ?_, ?_⟩
    · rw [hfields, decode_of_isLegal hlegal, List.map_singleton]
    · rw [hfields', decode_of_isLegal hlegal', List.map_singleton, h.contents_eq]
  case table =>
    refine ⟨hlength, fun i x => ⟨fun hx => ?_, fun hx => ?_⟩⟩
    · rw [hsplit, defaultOffset, ← hbefore]
      exact take_drop_layout hx
    · rw [hsplit', defaultOffset, ← hbefore]
      exact take_drop_layout hx
  case offsets =>
    intro hname
    rw [hsplit, hsplit']
    refine ⟨by rw [length_layout, length_layout, hname, hlength], fun k hk hi => ?_⟩
    refine getElem?_layout_congr hname hlength hk ?_
    rw [hbefore]
    exact hi

end Definition.SameGraph

end SynthGraph
