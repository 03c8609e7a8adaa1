import Mathlib.Data.List.Forall2
import Mathlib.Tactic.Common
import SynthGraph.Schema.Checked

/-!
# What a check accepts

When a check yields a value, and which one.  The check of a whole yields a value exactly when the
checks of its parts yield the values that it is made of, so that the language of a schema is read
off construct by construct.
-/

namespace SynthGraph

namespace Checked

variable {α β : Type} {a : α} {b : β} {check : Json → Checked α} {members : List (String × Json)}
  {key : String}

@[simp] lemma valid_eq_valid_iff {a' : α} : valid a' = valid a ↔ a' = a :=
  ⟨Checked.valid.inj, congrArg valid⟩

@[simp] lemma fail_eq_valid_iff {problem : Problem} : fail problem = valid a ↔ False :=
  iff_of_false nofun id

instance [DecidableEq α] : (c : Checked α) → (a : α) → Decidable (c = valid a)
  | valid _, _ => decidable_of_iff _ valid_eq_valid_iff.symm
  | invalid _, _ => isFalse nofun

/-- The place of a check does not matter. -/
@[simp] lemma within_eq_valid_iff {c : Checked α} {step : PathStep} :
    c.within step = valid a ↔ c = valid a := by
  cases c with
  | valid a' => rfl
  | invalid issues => exact iff_of_false nofun nofun

/-- Both checks yield what their values make together. -/
lemma both_eq_valid_iff {f : Checked (α → β)} {c : Checked α} :
    both f c = valid b ↔ ∃ g, f = valid g ∧ ∃ a, c = valid a ∧ g a = b := by
  cases f with
  | invalid issues => cases c <;> simp [both]
  | valid g =>
    cases c with
    | invalid issues => simp [both]
    | valid a => simp [both]

/-- A further part of a record. -/
lemma seq_eq_valid_iff {f : Checked (α → β)} {c : Checked α} :
    f <*> c = valid b ↔ ∃ g, f = valid g ∧ ∃ a, c = valid a ∧ g a = b :=
  both_eq_valid_iff

/-- The first part of a record. -/
lemma map_eq_valid_iff {f : α → β} {c : Checked α} :
    f <$> c = valid b ↔ ∃ a, c = valid a ∧ f a = b := by
  have hboth : (f <$> c) = both (valid f) c := rfl
  rw [hboth, both_eq_valid_iff]
  simp

/-- A further check goes on with what the first one yields. -/
lemma andThen_eq_valid_iff {c : Checked α} {next : α → Checked β} :
    c.andThen next = valid b ↔ ∃ a, c = valid a ∧ next a = valid b := by
  cases c with
  | valid a => simp [andThen]
  | invalid issues => simp [andThen]

/-! ### Members of an object -/

/-- A key that has to be there. -/
lemma required_eq_valid_iff :
    required members key check = valid a ↔
      ∃ value, members.lookup key = some value ∧ check value = valid a := by
  rw [required, within_eq_valid_iff]
  rcases members.lookup key with _ | value <;> simp

/-- A key that may be missing, under a relation of what is found under it to what that yields. -/
lemma optional_eq_valid_iff {default : α} {Spells : Option Json → α → Prop}
    (hnone : Spells none a ↔ default = a)
    (hsome : ∀ value, members.lookup key = some value →
      (check value = valid a ↔ Spells (some value) a)) :
    optional members key default check = valid a ↔ Spells (members.lookup key) a := by
  rw [optional]
  rcases hfound : members.lookup key with _ | value
  · exact valid_eq_valid_iff.trans hnone.symm
  · exact within_eq_valid_iff.trans (hsome value hfound)

/-- No keys but the given ones. -/
lemma onlyKeys_eq_valid_iff {keys : List String} :
    onlyKeys keys members = valid () ↔ ∀ member ∈ members, member.1 ∈ keys := by
  have hnil : members.filter (fun member => !keys.contains member.1) = [] ↔
      ∀ member ∈ members, member.1 ∈ keys := by
    simp [List.filter_eq_nil_iff]
  rw [onlyKeys]
  split
  case h_1 hfilter => exact iff_of_true rfl (hnil.mp hfilter)
  case h_2 hfilter => exact iff_of_false nofun (mt hnil.mpr hfilter)

/-! ### Values -/

/-- A string. -/
lemma string_eq_valid_iff {value : Json} {s : String} :
    string value = valid s ↔ value = .str s := by
  cases value <;> simp [string]

/-- A value or null. -/
lemma nullable_eq_valid_iff {value : Json} {o : Option α} :
    nullable check value = valid o ↔
      value = .null ∧ none = o ∨ value ≠ .null ∧ ∃ a, check value = valid a ∧ some a = o := by
  cases value with
  | null => simp [nullable]
  | _ => simp [nullable, map_eq_valid_iff]

/-- One of some texts. -/
lemma oneOf_eq_valid_iff {options : List (String × α)} {value : Json} :
    oneOf options value = valid a ↔
      ∃ s, value = .str s ∧ (options.find? (·.1 == s)).map Prod.snd = some a := by
  cases value with
  | str s =>
    simp only [oneOf, Json.str.injEq, exists_eq_left']
    generalize (options.find? (·.1 == s)).map Prod.snd = found
    cases found <;> simp
  | _ => simp [oneOf]

/-- The elements of a list are checked one by one. -/
lemma list_eq_valid_iff {items : List Json} {as : List α} :
    list check items = valid as ↔ List.Forall₂ (fun item a => check item = valid a) items as := by
  have hfrom : ∀ start, listFrom check start items = valid as ↔
      List.Forall₂ (fun item a => check item = valid a) items as := by
    induction items generalizing as with
    | nil => intro start; simp [listFrom, eq_comm]
    | cons item items ih =>
      intro start
      rw [listFrom, List.forall₂_cons_left_iff]
      simp only [both_eq_valid_iff, within_eq_valid_iff, valid_eq_valid_iff, ih]
      constructor
      · rintro ⟨_, ⟨_, rfl, a, ha, rfl⟩, as, has, rfl⟩
        exact ⟨a, as, ha, has, rfl⟩
      · rintro ⟨a, as, ha, has, rfl⟩
        exact ⟨_, ⟨_, rfl, a, ha, rfl⟩, as, has, rfl⟩
  exact hfrom 0

/-- An array. -/
lemma array_eq_valid_iff {problem : Problem} {value : Json} {as : List α} :
    array problem check value = valid as ↔
      ∃ items, value = .arr items ∧ List.Forall₂ (fun item a => check item = valid a) items as := by
  cases value <;> simp [array, list_eq_valid_iff]

end Checked

end SynthGraph
