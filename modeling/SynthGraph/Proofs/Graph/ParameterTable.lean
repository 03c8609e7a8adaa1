import Mathlib.Data.List.Nodup
import SynthGraph.Proofs.Graph.Edit

/-!
# Parameter tables over a run

When a declaration succeeds, and what every table keeps: its names are distinct and short, and the
index of a parameter is its position.
-/

namespace SynthGraph

/-- When the keys of a list are distinct, an element is found under its key. -/
lemma find?_of_nodup_map {α κ : Type} [BEq κ] [LawfulBEq κ] {key : α → κ} {l : List α} {a : α}
    (hnodup : (l.map key).Nodup) (ha : a ∈ l) : l.find? (key · == key a) = some a := by
  cases hfound : l.find? (key · == key a) with
  | none => exact absurd (List.find?_eq_none.mp hfound a ha) (by simp)
  | some b =>
    have hkey : key b = key a := by simpa using List.find?_some hfound
    rw [List.inj_on_of_nodup_map hnodup (List.mem_of_find?_eq_some hfound) ha hkey]

namespace ParameterRate

/-- A text names a rate exactly when it is the name of that rate. -/
lemma ofName?_eq_some_iff {s : String} {r : ParameterRate} : ofName? s = some r ↔ s = r.name := by
  constructor
  · intro h
    unfold ofName? at h
    split at h
    case isTrue hcontrol => exact Option.some.inj h ▸ hcontrol
    case isFalse =>
      split at h
      case isTrue htrigger => exact Option.some.inj h ▸ htrigger
      case isFalse =>
        split at h
        case isTrue haudio => exact Option.some.inj h ▸ haudio
        case isFalse => cases h
  · rintro rfl
    exact ofName?_name r

end ParameterRate

namespace ParameterTable

variable {t t' : ParameterTable} {name : String} {default : Binary64} {rate : String} {index : Nat}

/-- The table with one more parameter. -/
def push (t : ParameterTable) (name : String) (default : Binary32) (rate : ParameterRate) :
    ParameterTable :=
  { t with entries := t.entries.push ⟨name, default, rate, t.size⟩ }

/-- A name that cannot be written is refused first. -/
lemma declare_of_not_isShortName (hname : ¬IsShortName name) (default : Binary64)
    (rate : String) : ∃ e, t.declare name default rate = .error e ∧ e.kind = .nameLength := by
  obtain ⟨e, he, hkind⟩ := shortName_of_not_isShortName hname
  exact ⟨e, by rw [declare, he]; rfl, hkind⟩

/-- A rate that does not exist is refused next. -/
lemma declare_of_unknownRate (hname : IsShortName name)
    (hrate : ParameterRate.ofName? rate = none) :
    t.declare name default rate = .error (.unknownRate rate) := by
  have hbytes := shortName_eq_ok_iff.mpr ⟨hname, rfl⟩
  rw [declare, hbytes, hrate]
  rfl

/-- What a declaration under a short name and at a rate that exists still looks at. -/
lemma declare_of_isShortName (hname : IsShortName name) (r : ParameterRate) :
    t.declare name default r.name =
      if t.isSealed = true then .error (.sealedTable name)
      else if t.contains name = true then .error (.duplicateParameter name)
      else match t.tooLate? r, default.narrow? with
        | some first, _ => .error (.blockAfterSample name first.name)
        | none, none => .error (.notSingle default)
        | none, some x => .ok (t.size, t.push name x r) := by
  have hbytes := shortName_eq_ok_iff.mpr ⟨hname, rfl⟩
  unfold declare
  rw [hbytes, ParameterRate.ofName?_name]
  dsimp only [bind, Except.bind]
  split
  · rfl
  · split
    · rfl
    · cases t.tooLate? r with
      | some first => rfl
      | none => cases default.narrow? <;> rfl

/-- A declaration succeeds exactly when the name is a short name, the rate exists, the table is
open, the name is new, no sample-rate parameter stands before a block-rate one, and the default has
single precision. -/
lemma declare_eq_ok_iff :
    t.declare name default rate = .ok (index, t') ↔
      IsShortName name ∧ ∃ r x, ParameterRate.ofName? rate = some r ∧ t.isSealed = false ∧
        t.contains name = false ∧ t.tooLate? r = none ∧ default.narrow? = some x ∧
        index = t.size ∧ t' = t.push name x r := by
  constructor
  · intro h
    have hname : IsShortName name := by
      by_contra hname
      obtain ⟨e, he, -⟩ := declare_of_not_isShortName (t := t) hname default rate
      rw [he] at h
      cases h
    cases hrate : ParameterRate.ofName? rate with
    | none =>
      rw [declare_of_unknownRate hname hrate] at h
      cases h
    | some r =>
      obtain rfl := ParameterRate.ofName?_eq_some_iff.mp hrate
      rw [declare_of_isShortName hname] at h
      split at h
      case isTrue => cases h
      case isFalse hopen =>
        split at h
        case isTrue => cases h
        case isFalse hnew =>
          split at h
          case h_1 => cases h
          case h_2 => cases h
          case h_3 x hlate hnarrow =>
            obtain ⟨rfl, rfl⟩ := Prod.mk.inj (Except.ok.inj h)
            exact ⟨hname, r, x, rfl, Bool.eq_false_iff.mpr hopen, Bool.eq_false_iff.mpr hnew,
              hlate, hnarrow, rfl, rfl⟩
  · rintro ⟨hname, r, x, hrate, hopen, hnew, hlate, hnarrow, rfl, rfl⟩
    obtain rfl := ParameterRate.ofName?_eq_some_iff.mp hrate
    rw [declare_of_isShortName hname, hopen, hnew, hlate, hnarrow]
    rfl

/-- The parameters after a declaration are those before it and the new one. -/
@[simp] lemma toList_push (t : ParameterTable) (name : String) (default : Binary32)
    (rate : ParameterRate) :
    (t.push name default rate).toList = t.toList ++ [⟨name, default, rate, t.size⟩] := by
  simp [push, toList]

/-- A parameter does not come too late after one of its own rate. -/
@[simp] lemma tooLate?_push (t : ParameterTable) (name : String) (default : Binary32)
    (rate : ParameterRate) : (t.push name default rate).tooLate? rate = t.tooLate? rate := by
  unfold tooLate? sampleRate
  cases hblock : rate.isBlock with
  | true => simp [hblock]
  | false => rfl

/-- The size of a table is the number of its parameters. -/
@[simp] lemma length_toList (t : ParameterTable) : t.toList.length = t.size := by
  simp [toList, size]

/-- Closing a table keeps its parameters. -/
@[simp] lemma toList_close (t : ParameterTable) : t.close.toList = t.toList := rfl

/-- A name is contained in a table exactly when one of the parameters has it. -/
lemma contains_eq_true_iff : t.contains name = true ↔ name ∈ t.toList.map Parameter.name := by
  simp [contains, find?, toList, Array.find?_isSome]

/-- Looking a name up gives a parameter of that name. -/
lemma mem_of_get_eq_ok {p : Parameter} (h : t.get name = .ok p) : p ∈ t.toList ∧ p.name = name := by
  unfold get at h
  split at h
  case h_1 q hfound =>
    obtain rfl := Except.ok.inj h
    refine ⟨Array.mem_toList_iff.mpr (Array.mem_of_find?_eq_some hfound), ?_⟩
    simpa using Array.find?_some hfound
  case h_2 => cases h

/-! ### Well-formed tables -/

/-- The names of a table are distinct and short, and the index of a parameter is its position. -/
structure WellFormed (t : ParameterTable) : Prop where
  nodup : (t.toList.map Parameter.name).Nodup
  short : ∀ p ∈ t.toList, IsShortName p.name
  index : t.toList.map Parameter.index = List.range t.size

/-- The empty table is well-formed. -/
lemma wellFormed_empty : empty.WellFormed := ⟨by simp [empty, toList], by simp [empty, toList], rfl⟩

/-- Declarations keep a table well-formed. -/
lemma WellFormed.declare (h : t.WellFormed)
    (hdeclare : t.declare name default rate = .ok (index, t')) : t'.WellFormed := by
  obtain ⟨hname, r, x, -, -, hnew, -, -, -, rfl⟩ := declare_eq_ok_iff.mp hdeclare
  refine ⟨?_, ?_, ?_⟩
  · have hfresh : name ∉ t.toList.map Parameter.name := by
      rw [← contains_eq_true_iff, hnew]
      simp
    rw [toList_push, List.map_append, List.nodup_append]
    refine ⟨h.nodup, by simp, fun a ha b hb => ?_⟩
    obtain rfl : b = name := by simpa using hb
    exact fun heq => hfresh (heq ▸ ha)
  · simpa [or_imp, forall_and, hname] using h.short
  · simp [h.index, ← length_toList, List.range_succ]

/-- Closing a table keeps it well-formed. -/
lemma WellFormed.close (h : t.WellFormed) : t.close.WellFormed := ⟨h.nodup, h.short, h.index⟩

/-- In a well-formed table the parameter at a position has that index. -/
lemma WellFormed.getElem?_index (h : t.WellFormed) {i : Nat} {p : Parameter}
    (hp : t.toList[i]? = some p) : p.index = i := by
  have hlt : i < t.size := by
    rw [← length_toList]
    exact (List.getElem?_eq_some_iff.mp hp).1
  have hmap : (t.toList.map Parameter.index)[i]? = some p.index := by simp [hp]
  rw [h.index, List.getElem?_range hlt] at hmap
  exact (Option.some.inj hmap).symm

/-- In a well-formed table a parameter is found under its name. -/
lemma WellFormed.find?_name (h : t.WellFormed) {p : Parameter} (hp : p ∈ t.toList) :
    t.find? p.name = some p := by
  rw [find?, ← Array.find?_toList]
  exact find?_of_nodup_map h.nodup hp

end ParameterTable

end SynthGraph
