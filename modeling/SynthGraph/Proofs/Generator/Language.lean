import SynthGraph.Proofs.Generator.Validity
import SynthGraph.Proofs.Number.Value
import SynthGraph.Proofs.Schema.Accepts

/-!
# The language of generator specs

Which JSON values spell a generator, and which generator they spell.  The language is given by
relations that follow the shape of the data and do not mention the checks: numbers, roles and limits
first, then parameters and generators.  Where numbers are spelled as numbers, the schema yields a
generator exactly when the value spells it.
-/

namespace SynthGraph

/-! ### What values spell -/

/-- A JSON number and its value in double precision. -/
inductive SpellsNumber : Json → Binary64 → Prop where
  | int (n : Int) : SpellsNumber (.int n) (.ofInt n)
  | float (x : Binary64) : SpellsNumber (.float x) x

/-- A member that says what a parameter is for.  Without it the parameter is an input. -/
inductive SpellsRole : Option Json → Role → Prop where
  | absent : SpellsRole none .core
  | core : SpellsRole (some (.str "core")) .core
  | amp : SpellsRole (some (.str "amp")) .amp

/-- A member that names a modulation input.  It may be missing or null. -/
inductive SpellsModName : Option Json → Option String → Prop where
  | absent : SpellsModName none none
  | null : SpellsModName (some .null) none
  | name {s : String} (h : IsLabel s) : SpellsModName (some (.str s)) (some s)

/-- The members have no keys but the given ones. -/
def HasOnlyKeys (keys : List String) (members : List (String × Json)) : Prop :=
  ∀ member ∈ members, member.1 ∈ keys

/-- A member that is a number. -/
def HasNumber (members : List (String × Json)) (key : String) (x : Binary64) : Prop :=
  ∃ value, members.lookup key = some value ∧ SpellsNumber value x

/-- Two bounds in the order of their exact values. -/
def BoundsInOrder (low high : Binary64) : Prop :=
  ∃ x y, low.value? = some x ∧ high.value? = some y ∧ x ≤ y

/-- A member that limits a value: missing or null, a list of one bound or two, or an object that
says which of these it is. -/
inductive SpellsClamp : Option Json → Option Clamp → Prop where
  | absent : SpellsClamp none none
  | null : SpellsClamp (some .null) none
  | bound {value : Json} {low : Binary64} (hlow : SpellsNumber value low) :
      SpellsClamp (some (.arr [value])) (some (.floor low))
  | bounds {value value' : Json} {low high : Binary64} (hlow : SpellsNumber value low)
      (hhigh : SpellsNumber value' high) (horder : BoundsInOrder low high) :
      SpellsClamp (some (.arr [value, value'])) (some (.range low high))
  | floor {members : List (String × Json)} {low : Binary64}
      (hkeys : HasOnlyKeys ["kind", "low"] members)
      (hkind : members.lookup "kind" = some (.str "floor")) (hlow : HasNumber members "low" low) :
      SpellsClamp (some (.obj members)) (some (.floor low))
  | range {members : List (String × Json)} {low high : Binary64}
      (hkeys : HasOnlyKeys ["kind", "low", "high"] members)
      (hkind : members.lookup "kind" = some (.str "range")) (hlow : HasNumber members "low" low)
      (hhigh : HasNumber members "high" high) (horder : BoundsInOrder low high) :
      SpellsClamp (some (.obj members)) (some (.range low high))

/-- The members of a parameter. -/
structure ParamMembers (members : List (String × Json)) (p : ParamSpec) : Prop where
  keys : HasOnlyKeys ["name", "default", "role", "mod_name", "clamp"] members
  name : members.lookup "name" = some (.str p.name) ∧ IsLabel p.name
  default : HasNumber members "default" p.default
  role : SpellsRole (members.lookup "role") p.role
  modName : SpellsModName (members.lookup "mod_name") p.modName
  clamp : SpellsClamp (members.lookup "clamp") p.clamp

/-- An object that spells a parameter. -/
inductive SpellsParam : Json → ParamSpec → Prop where
  | obj {members : List (String × Json)} {p : ParamSpec} (h : ParamMembers members p) :
      SpellsParam (.obj members) p

/-- A member that lists parameters.  Without it there are none. -/
inductive SpellsParams : Option Json → List ParamSpec → Prop where
  | absent : SpellsParams none []
  | arr {items : List Json} {ps : List ParamSpec} (h : List.Forall₂ SpellsParam items ps) :
      SpellsParams (some (.arr items)) ps

/-- The members of a generator, of whose parameters at most one is an amplitude. -/
structure GeneratorMembers (members : List (String × Json)) (g : GeneratorSpec) : Prop where
  keys : HasOnlyKeys ["name", "ugen", "params"] members
  name : members.lookup "name" = some (.str g.name) ∧ IsLabel g.name
  ugen : members.lookup "ugen" = some (.str g.ugen) ∧ IsLabel g.ugen
  params : SpellsParams (members.lookup "params") g.params
  amplitudes : (g.params.filter (·.role == .amp)).length ≤ 1

/-- An object that spells a generator. -/
inductive SpellsGenerator : Json → GeneratorSpec → Prop where
  | obj {members : List (String × Json)} {g : GeneratorSpec} (h : GeneratorMembers members g) :
      SpellsGenerator (.obj members) g

/-! ### Where numbers are spelled as numbers -/

/-- A value that is a number where it is neither null nor made of other values.  Whole numbers have
sixty-four bits, and other numbers are finite. -/
def PlainNumber : Json → Prop
  | .bool _ | .str _ => False
  | .int n => -9223372036854775808 ≤ n ∧ n < 9223372036854775808
  | .float x => x.isFinite = true
  | .null | .arr _ | .obj _ => True

/-- Limits whose bounds are plain numbers. -/
def PlainClamp : Json → Prop
  | .arr [low] => PlainNumber low
  | .arr [low, high] => PlainNumber low ∧ PlainNumber high
  | .obj members =>
    (∀ low ∈ members.lookup "low", PlainNumber low) ∧
      ∀ high ∈ members.lookup "high", PlainNumber high
  | _ => True

/-- A parameter whose numbers are plain. -/
def PlainParam : Json → Prop
  | .obj members =>
    (∀ default ∈ members.lookup "default", PlainNumber default) ∧
      ∀ clamp ∈ members.lookup "clamp", PlainClamp clamp
  | _ => True

/-- A generator whose numbers are plain. -/
def PlainGenerator : Json → Prop
  | .obj members =>
    ∀ items, members.lookup "params" = some (.arr items) → ∀ item ∈ items, PlainParam item
  | _ => True

variable {value : Json} {members : List (String × Json)} {low high x : Binary64}

/-- What a plain number spells is finite. -/
lemma SpellsNumber.exists_value? (hx : SpellsNumber value x) (h : PlainNumber value) :
    ∃ y, x.value? = some y := by
  rw [← FloatDatum.isFinite_iff_exists_value?]
  cases hx with
  | int n => exact FloatDatum.isFinite_ofInt h.1 h.2
  | float x => exact h

/-- Bounds are in order when the lower one does not exceed the upper one. -/
lemma boundsInOrder_iff {y z : ℚ} (hlow : low.value? = some y) (hhigh : high.value? = some z) :
    BoundsInOrder low high ↔ low.exceeds high = false := by
  have horder : low.AtMost high ↔ y ≤ z := FloatDatum.atMost_iff_le hlow hhigh
  obtain ⟨i, hi⟩ := FloatDatum.exists_rank?_of_value? hlow
  obtain ⟨j, hj⟩ := FloatDatum.exists_rank?_of_value? hhigh
  have hexceeds : low.exceeds high = false ↔ low.AtMost high := by
    simp [FloatDatum.exceeds, FloatDatum.AtMost, hi, hj]
  rw [hexceeds, horder]
  simp [BoundsInOrder, hlow, hhigh]

/-! ### Bounds written out -/

/-- A member that is a number is the number that the member spells. -/
lemma hasNumber_iff_of_lookup {key : String} (h : members.lookup key = some value) :
    HasNumber members key x ↔ SpellsNumber value x := by
  simp [HasNumber, h]

/-- One bound spells the same limits as the object that it stands for. -/
lemma spellsClamp_expanded_bound {clamp : Option Clamp} :
    SpellsClamp (some (.obj [("kind", .str "floor"), ("low", value)])) clamp ↔
      SpellsClamp (some (.arr [value])) clamp := by
  have hnumber {x : Binary64} : HasNumber [("kind", .str "floor"), ("low", value)] "low" x ↔
      SpellsNumber value x := hasNumber_iff_of_lookup (by simp [List.lookup_cons])
  constructor
  · intro h
    cases h with
    | floor _ _ hlow => exact .bound (hnumber.mp hlow)
    | range _ hkind => simp at hkind
  · intro h
    cases h with
    | bound hlow => exact .floor (by simp [HasOnlyKeys]) (by simp) (hnumber.mpr hlow)

/-- Two bounds spell the same limits as the object that they stand for. -/
lemma spellsClamp_expanded_bounds {value' : Json} {clamp : Option Clamp} :
    SpellsClamp (some (.obj [("kind", .str "range"), ("low", value), ("high", value')])) clamp ↔
      SpellsClamp (some (.arr [value, value'])) clamp := by
  have hlowNumber {x : Binary64} :
      HasNumber [("kind", .str "range"), ("low", value), ("high", value')] "low" x ↔
        SpellsNumber value x := hasNumber_iff_of_lookup (by simp [List.lookup_cons])
  have hhighNumber {x : Binary64} :
      HasNumber [("kind", .str "range"), ("low", value), ("high", value')] "high" x ↔
        SpellsNumber value' x := hasNumber_iff_of_lookup (by simp [List.lookup_cons])
  constructor
  · intro h
    cases h with
    | floor _ hkind => simp at hkind
    | range _ _ hlow hhigh horder =>
      exact .bounds (hlowNumber.mp hlow) (hhighNumber.mp hhigh) horder
  · intro h
    cases h with
    | bounds hlow hhigh horder =>
      exact .range (by simp [HasOnlyKeys]) (by simp) (hlowNumber.mpr hlow) (hhighNumber.mpr hhigh)
        horder

namespace Checked

/-! ### Labels and numbers -/

/-- A label is a text of one to 255 characters. -/
lemma label_eq_valid_iff {s : String} : label value = valid s ↔ value = .str s ∧ IsLabel s := by
  rw [label, andThen_eq_valid_iff]
  simp only [string_eq_valid_iff]
  constructor
  · rintro ⟨s', rfl, h⟩
    by_cases hshort : s'.length = 0
    · simp [hshort] at h
    · by_cases hlong : 255 < s'.length
      · simp [hshort, hlong] at h
      · obtain rfl : s' = s := by simpa [hshort, hlong] using h
        exact ⟨rfl, Nat.pos_of_ne_zero hshort, Nat.not_lt.mp hlong⟩
  · rintro ⟨rfl, hshort, hlong⟩
    refine ⟨s, rfl, ?_⟩
    rw [if_neg (Nat.ne_of_gt hshort), if_neg (Nat.not_lt.mpr hlong)]

/-- A key that has to be there with a label. -/
lemma required_label_eq_valid_iff {key s : String} :
    required members key label = valid s ↔ members.lookup key = some (.str s) ∧ IsLabel s := by
  simp only [required_eq_valid_iff, label_eq_valid_iff]
  constructor
  · rintro ⟨_, hlookup, rfl, hs⟩
    exact ⟨hlookup, hs⟩
  · rintro ⟨hlookup, hs⟩
    exact ⟨_, hlookup, rfl, hs⟩

/-- A plain number is read as its value. -/
lemma number_eq_valid_iff (h : PlainNumber value) :
    number value = valid x ↔ SpellsNumber value x := by
  cases value with
  | bool b => exact h.elim
  | str s => exact h.elim
  | int n =>
    rw [number, valid_eq_valid_iff]
    exact ⟨fun hx => hx ▸ .int n, fun hx => by cases hx; rfl⟩
  | float y =>
    rw [number, valid_eq_valid_iff]
    exact ⟨fun hx => hx ▸ .float y, fun hx => by cases hx; rfl⟩
  | _ => exact iff_of_false nofun nofun

/-- A bound that is a plain number is read as its value, which is finite. -/
lemma boundField_eq_valid_iff (h : PlainNumber value) :
    boundField value = valid x ↔ SpellsNumber value x := by
  cases value with
  | int n =>
    have hfinite := FloatDatum.isFinite_ofInt h.1 h.2
    rw [boundField, if_pos hfinite]
    exact number_eq_valid_iff h
  | _ => exact number_eq_valid_iff h

/-- A key that has to be there with a number. -/
lemma required_number_eq_valid_iff {key : String}
    (h : ∀ value ∈ members.lookup key, PlainNumber value) :
    required members key number = valid x ↔ HasNumber members key x := by
  rw [required_eq_valid_iff]
  exact exists_congr fun value => and_congr_right fun hlookup =>
    number_eq_valid_iff (h value hlookup)

/-- A key that has to be there with a bound. -/
lemma required_boundField_eq_valid_iff {key : String}
    (h : ∀ value ∈ members.lookup key, PlainNumber value) :
    required members key boundField = valid x ↔ HasNumber members key x := by
  rw [required_eq_valid_iff]
  exact exists_congr fun value => and_congr_right fun hlookup =>
    boundField_eq_valid_iff (h value hlookup)

/-! ### Limits -/

/-- The kind of limits is the expected one where it is given. -/
lemma kind_eq_valid_of_lookup {name : String} (h : members.lookup "kind" = some (.str name)) :
    kind members name = valid () := by
  simp [kind, kindKey, optional, h, oneOf, within]

/-- Two bounds are read when they are numbers in order and nothing else is there. -/
lemma range_eq_valid_iff {c : Clamp} (h : PlainClamp (.obj members))
    (hkind : members.lookup "kind" = some (.str "range")) :
    range boundField members = valid c ↔
      ∃ low high, .range low high = c ∧ HasNumber members "low" low ∧
        HasNumber members "high" high ∧ BoundsInOrder low high ∧
        HasOnlyKeys ["kind", "low", "high"] members := by
  have horder : ∀ {low high}, HasNumber members "low" low → HasNumber members "high" high →
      (BoundsInOrder low high ↔ low.exceeds high = false) := by
    rintro low high ⟨value, hvalue, hlow⟩ ⟨value', hvalue', hhigh⟩
    obtain ⟨y, hy⟩ := hlow.exists_value? (h.1 value hvalue)
    obtain ⟨z, hz⟩ := hhigh.exists_value? (h.2 value' hvalue')
    exact boundsInOrder_iff hy hz
  have hkindValid : kind members rangeKind = valid () := kind_eq_valid_of_lookup hkind
  simp only [range, andThen_eq_valid_iff, seq_eq_valid_iff, map_eq_valid_iff,
    required_boundField_eq_valid_iff h.1, required_boundField_eq_valid_iff h.2, kindKey, hkindValid]
  constructor
  · rintro ⟨_, ⟨_, ⟨_, ⟨_, ⟨_, -, rfl⟩, low, hlow, rfl⟩, high, hhigh, rfl⟩, _, hkeys, rfl⟩, hc⟩
    dsimp only at hc
    by_cases hexceeds : low.exceeds high
    · rw [if_pos hexceeds] at hc
      exact (fail_eq_valid_iff.mp hc).elim
    · rw [if_neg hexceeds, valid_eq_valid_iff] at hc
      exact ⟨low, high, hc, hlow, hhigh,
        (horder hlow hhigh).mpr (Bool.eq_false_iff.mpr hexceeds), onlyKeys_eq_valid_iff.mp hkeys⟩
  · rintro ⟨low, high, rfl, hlow, hhigh, hin, hkeys⟩
    refine ⟨(low, high), ⟨_, ⟨_, ⟨_, ⟨(), trivial, rfl⟩, low, hlow, rfl⟩, high, hhigh, rfl⟩, (),
      onlyKeys_eq_valid_iff.mpr hkeys, rfl⟩, ?_⟩
    dsimp only
    rw [if_neg (Bool.eq_false_iff.mp ((horder hlow hhigh).mp hin))]

/-- A lower bound is read when it is a number and nothing else is there. -/
lemma floor_eq_valid_iff {c : Clamp} (h : PlainClamp (.obj members))
    (hkind : members.lookup "kind" = some (.str "floor")) :
    floor boundField members = valid c ↔
      ∃ low, .floor low = c ∧ HasNumber members "low" low ∧
        HasOnlyKeys ["kind", "low"] members := by
  have hkindValid : kind members floorKind = valid () := kind_eq_valid_of_lookup hkind
  simp only [floor, seq_eq_valid_iff, map_eq_valid_iff, required_boundField_eq_valid_iff h.1,
    kindKey, hkindValid]
  constructor
  · rintro ⟨_, ⟨_, ⟨_, -, rfl⟩, low, hlow, rfl⟩, _, hkeys, hc⟩
    exact ⟨low, hc, hlow, onlyKeys_eq_valid_iff.mp hkeys⟩
  · rintro ⟨low, rfl, hlow, hkeys⟩
    exact ⟨_, ⟨_, ⟨(), trivial, rfl⟩, low, hlow, rfl⟩, (), onlyKeys_eq_valid_iff.mpr hkeys, rfl⟩

/-- Limits that say of which kind they are. -/
lemma clampOfKind_eq_valid_iff {c : Clamp} (h : PlainClamp (.obj members)) :
    clampOfKind boundField members = valid c ↔ SpellsClamp (some (.obj members)) (some c) := by
  rw [clampOfKind]
  split
  case h_1 hnone =>
    refine iff_of_false nofun fun hspells => ?_
    cases hspells with
    | floor _ hkind => simp [kindKey, hkind] at hnone
    | range _ hkind => simp [kindKey, hkind] at hnone
  case h_2 kind hsome =>
    split
    · rw [within_eq_valid_iff, range_eq_valid_iff h hsome]
      constructor
      · rintro ⟨low, high, rfl, hlow, hhigh, horder, hkeys⟩
        exact .range hkeys hsome hlow hhigh horder
      · intro hspells
        cases hspells with
        | floor _ hkind => simp [kindKey, hkind] at hsome
        | range hkeys _ hlow hhigh horder => exact ⟨_, _, rfl, hlow, hhigh, horder, hkeys⟩
    · rw [within_eq_valid_iff, floor_eq_valid_iff h hsome]
      constructor
      · rintro ⟨low, rfl, hlow, hkeys⟩
        exact .floor hkeys hsome hlow
      · intro hspells
        cases hspells with
        | floor hkeys _ hlow => exact ⟨_, rfl, hlow, hkeys⟩
        | range _ hkind => simp [kindKey, hkind] at hsome
    case h_3 hrange hfloor =>
      refine iff_of_false nofun fun hspells => ?_
      cases hspells with
      | floor _ hkind => exact hfloor (Option.some.inj (hsome.symm.trans hkind))
      | range _ hkind => exact hrange (Option.some.inj (hsome.symm.trans hkind))

/-- An object that says of which kind the limits of a parameter are. -/
lemma clampObject_eq_valid_iff {clamp : Option Clamp} (h : PlainClamp (.obj members)) :
    nullable (object .notChoiceField (clampOfKind boundField)) (.obj members) = valid clamp ↔
      SpellsClamp (some (.obj members)) clamp := by
  rw [nullable_eq_valid_iff]
  simp only [object, clampOfKind_eq_valid_iff h]
  constructor
  · rintro (⟨hnull, -⟩ | ⟨-, c, hc, rfl⟩)
    · cases hnull
    · exact hc
  · intro hspells
    have hobj : Json.obj members ≠ .null := by simp
    cases hspells with
    | floor hkeys hkind hlow => exact .inr ⟨hobj, _, .floor hkeys hkind hlow, rfl⟩
    | range hkeys hkind hlow hhigh horder =>
      exact .inr ⟨hobj, _, .range hkeys hkind hlow hhigh horder, rfl⟩

/-- The limits of a parameter. -/
lemma clampField_eq_valid_iff {clamp : Option Clamp} (h : PlainClamp value) :
    clampField value = valid clamp ↔ SpellsClamp (some value) clamp := by
  rw [clampField, andThen_eq_valid_iff]
  -- what is neither null, nor written out, nor an object spells no limits
  rcases value with _ | b | n | x | s | items | members
  case null =>
    simp only [expandBounds, valid_eq_valid_iff, exists_eq_left', nullable]
    exact ⟨fun habsent => habsent ▸ .null, fun hspells => by cases hspells; rfl⟩
  case obj =>
    simp only [expandBounds, valid_eq_valid_iff, exists_eq_left']
    exact clampObject_eq_valid_iff h
  case arr =>
    rcases items with _ | ⟨low, _ | ⟨high, _ | ⟨more, items⟩⟩⟩
    · exact iff_of_false (by simp [expandBounds]) (by rintro ⟨⟩)
    · simp only [expandBounds, valid_eq_valid_iff, exists_eq_left']
      have hlow : PlainNumber low := h
      rw [clampObject_eq_valid_iff
        ⟨by simpa [kindKey, List.lookup_cons] using hlow, by simp [kindKey, List.lookup_cons]⟩]
      exact spellsClamp_expanded_bound
    · simp only [expandBounds, valid_eq_valid_iff, exists_eq_left']
      have hbounds : PlainNumber low ∧ PlainNumber high := h
      rw [clampObject_eq_valid_iff
        ⟨by simpa [kindKey, List.lookup_cons] using hbounds.1,
          by simpa [kindKey, List.lookup_cons] using hbounds.2⟩]
      exact spellsClamp_expanded_bounds
    · exact iff_of_false (by simp [expandBounds, nullable, object, map_eq_valid_iff])
        (by rintro ⟨⟩)
  all_goals
    exact iff_of_false (by simp [expandBounds, nullable, object, map_eq_valid_iff])
      (by rintro ⟨⟩)

/-! ### Parameters -/

/-- What a parameter is for. -/
lemma role_eq_valid_iff {r : Role} : role value = valid r ↔ SpellsRole (some value) r := by
  rw [role, oneOf_eq_valid_iff]
  constructor
  · rintro ⟨s, rfl, hfind⟩
    by_cases hcore : s = "core"
    · obtain rfl : Role.core = r := by simpa [hcore, Role.name] using hfind
      exact hcore ▸ .core
    · by_cases hamp : s = "amp"
      · obtain rfl : Role.amp = r := by simpa [hamp, Role.name] using hfind
        exact hamp ▸ .amp
      · simp [Role.name, Ne.symm hcore, Ne.symm hamp] at hfind
  · intro hspells
    cases hspells with
    | core => exact ⟨_, rfl, by simp [Role.name]⟩
    | amp => exact ⟨_, rfl, by simp [Role.name]⟩

/-- The name of a modulation input. -/
lemma nullable_label_eq_valid_iff {name : Option String} :
    nullable label value = valid name ↔ SpellsModName (some value) name := by
  rw [nullable_eq_valid_iff]
  constructor
  · rintro (⟨rfl, rfl⟩ | ⟨-, s, hs, rfl⟩)
    · exact .null
    · obtain ⟨rfl, hlabel⟩ := label_eq_valid_iff.mp hs
      exact .name hlabel
  · intro hspells
    cases hspells with
    | null => exact .inl ⟨rfl, rfl⟩
    | name hlabel => exact .inr ⟨by simp, _, label_eq_valid_iff.mpr ⟨rfl, hlabel⟩, rfl⟩

/-- What a parameter is for, which may be missing. -/
lemma optional_role_eq_valid_iff {r : Role} :
    optional members "role" .core role = valid r ↔ SpellsRole (members.lookup "role") r :=
  optional_eq_valid_iff ⟨fun h => by cases h; rfl, fun h => h ▸ .absent⟩
    fun _ _ => role_eq_valid_iff

/-- The name of a modulation input, which may be missing. -/
lemma optional_modName_eq_valid_iff {name : Option String} :
    optional members "mod_name" none (nullable label) = valid name ↔
      SpellsModName (members.lookup "mod_name") name :=
  optional_eq_valid_iff ⟨fun h => by cases h; rfl, fun h => h ▸ .absent⟩
    fun _ _ => nullable_label_eq_valid_iff

/-- The limits of a parameter, which may be missing. -/
lemma optional_clampField_eq_valid_iff {clamp : Option Clamp}
    (h : ∀ value ∈ members.lookup "clamp", PlainClamp value) :
    optional members "clamp" none clampField = valid clamp ↔
      SpellsClamp (members.lookup "clamp") clamp :=
  optional_eq_valid_iff ⟨fun h => by cases h; rfl, fun h => h ▸ .absent⟩
    fun value hfound => clampField_eq_valid_iff (h value hfound)

/-- An object is read as a parameter when its members are those of one. -/
lemma param_obj_eq_valid_iff {p : ParamSpec} (h : PlainParam (.obj members)) :
    param (.obj members) = valid p ↔ ParamMembers members p := by
  simp only [param, object, seq_eq_valid_iff, map_eq_valid_iff, required_label_eq_valid_iff,
    required_number_eq_valid_iff h.1, optional_role_eq_valid_iff, optional_modName_eq_valid_iff,
    optional_clampField_eq_valid_iff h.2]
  constructor
  · rintro ⟨_, ⟨_, ⟨_, ⟨_, ⟨_, ⟨name, hname, rfl⟩, default, hdefault, rfl⟩, r, hrole, rfl⟩, modName,
      hmodName, rfl⟩, clamp, hclamp, rfl⟩, _, hkeys, rfl⟩
    exact ⟨onlyKeys_eq_valid_iff.mp hkeys, hname, hdefault, hrole, hmodName, hclamp⟩
  · intro hspells
    exact ⟨_, ⟨_, ⟨_, ⟨_, ⟨_, ⟨p.name, hspells.name, rfl⟩, p.default, hspells.default, rfl⟩, p.role,
      hspells.role, rfl⟩, p.modName, hspells.modName, rfl⟩, p.clamp, hspells.clamp, rfl⟩, (),
      onlyKeys_eq_valid_iff.mpr hspells.keys, rfl⟩

/-- A parameter is read from what spells it. -/
lemma param_eq_valid_iff {p : ParamSpec} (h : PlainParam value) :
    param value = valid p ↔ SpellsParam value p := by
  cases value with
  | obj members => exact (param_obj_eq_valid_iff h).trans ⟨.obj, fun ⟨hspells⟩ => hspells⟩
  | _ => exact iff_of_false nofun nofun

/-- A list of parameters is read from what spells it. -/
lemma array_param_eq_valid_iff {ps : List ParamSpec}
    (h : ∀ items, value = .arr items → ∀ item ∈ items, PlainParam item) :
    array .notTuple param value = valid ps ↔ SpellsParams (some value) ps := by
  have hitems {items : List Json} (hvalue : value = .arr items) :
      List.Forall₂ (fun item p => param item = valid p) items ps ↔
        List.Forall₂ SpellsParam items ps := by
    simp only [List.forall₂_iff_get]
    exact and_congr_right fun _ => forall₃_congr fun i hi _ =>
      param_eq_valid_iff (h items hvalue _ (List.get_mem items ⟨i, hi⟩))
  rw [array_eq_valid_iff]
  constructor
  · rintro ⟨items, rfl, hread⟩
    exact .arr ((hitems rfl).mp hread)
  · intro hspells
    cases hspells with
    | arr hspelled => exact ⟨_, rfl, (hitems rfl).mpr hspelled⟩

/-- The parameters of a generator, which may be missing. -/
lemma optional_params_eq_valid_iff {ps : List ParamSpec} (h : PlainGenerator (.obj members)) :
    optional members "params" [] (array .notTuple param) = valid ps ↔
      SpellsParams (members.lookup "params") ps :=
  optional_eq_valid_iff ⟨fun h => by cases h; rfl, fun h => h ▸ .absent⟩
    fun _ hfound => array_param_eq_valid_iff fun items hvalue => h items (hvalue ▸ hfound)

/-! ### Generators -/

/-- An object is read as a generator when its members are those of one. -/
lemma generator_obj_eq_valid_iff {g : GeneratorSpec} (h : PlainGenerator (.obj members)) :
    generator (.obj members) = valid g ↔ GeneratorMembers members g := by
  simp only [generator, object, andThen_eq_valid_iff, seq_eq_valid_iff, map_eq_valid_iff,
    required_label_eq_valid_iff, optional_params_eq_valid_iff h]
  constructor
  · rintro ⟨g', ⟨_, ⟨_, ⟨_, ⟨name, hname, rfl⟩, ugen, hugen, rfl⟩, params, hparams, rfl⟩, _, hkeys,
      rfl⟩, hamplitudes⟩
    split at hamplitudes
    case isTrue => exact (fail_eq_valid_iff.mp hamplitudes).elim
    case isFalse hcount =>
      obtain rfl := valid_eq_valid_iff.mp hamplitudes
      exact ⟨onlyKeys_eq_valid_iff.mp hkeys, hname, hugen, hparams, Nat.not_lt.mp hcount⟩
  · intro hspells
    refine ⟨g, ⟨_, ⟨_, ⟨_, ⟨g.name, hspells.name, rfl⟩, g.ugen, hspells.ugen, rfl⟩, g.params,
      hspells.params, rfl⟩, (), onlyKeys_eq_valid_iff.mpr hspells.keys, rfl⟩, ?_⟩
    have hcount : ¬1 < g.amplitudes.length := Nat.not_lt.mpr hspells.amplitudes
    rw [if_neg hcount]

/-- **The schema accepts exactly its language.**  Where numbers are spelled as numbers, a value is
read as a generator exactly when it spells that generator. -/
theorem generator_eq_valid_iff_spells {g : GeneratorSpec} (h : PlainGenerator value) :
    generator value = valid g ↔ SpellsGenerator value g := by
  cases value with
  | obj members => exact (generator_obj_eq_valid_iff h).trans ⟨.obj, fun ⟨hspells⟩ => hspells⟩
  | _ => exact iff_of_false nofun nofun

/-- A buzzing tone whose frequency is limited by an object and whose amplitude by a list. -/
def buzz : Json :=
  .obj [("name", .str "buzz"), ("ugen", .str "Blip"), ("params", .arr
    [.obj [("name", .str "freq"), ("default", .int 220), ("mod_name", .str "freq_mod"),
      ("clamp", .obj [("kind", .str "range"), ("low", .int 20), ("high", .int 20000)])],
     .obj [("name", .str "amp"), ("default", .int 1), ("role", .str "amp"),
      ("clamp", .arr [.int 0])]])]

/-- The tone is read with the limits that it spells, and with nothing else. -/
theorem generator_buzz_eq_valid_iff_spells :
    PlainGenerator buzz ∧
      SpellsGenerator buzz ⟨"buzz", "Blip",
        [⟨"freq", .ofInt 220, .core, some "freq_mod", some (.range (.ofInt 20) (.ofInt 20000))⟩,
         ⟨"amp", .ofInt 1, .amp, none, some (.floor (.ofInt 0))⟩]⟩ := by
  have hplain : PlainGenerator buzz := by
    simp [buzz, PlainGenerator, PlainParam, PlainClamp, PlainNumber, List.lookup_cons]
  exact ⟨hplain, (generator_eq_valid_iff_spells hplain).mp (by decide +kernel)⟩

end Checked

end SynthGraph
