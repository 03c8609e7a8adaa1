import Mathlib.Tactic.Common
import SynthGraph.Schema.Checked

/-!
# What a check ensures

A check ensures a property when every value that it yields has the property.  The checks of the
parts of a whole ensure what they ensure of the parts, so that a schema is followed construct by
construct.
-/

namespace SynthGraph

namespace Checked

variable {α β : Type} {P : α → Prop} {Q : β → Prop}

/-- Whatever the check yields has the property. -/
def Ensures (c : Checked α) (P : α → Prop) : Prop := ∀ a, c = valid a → P a

/-- A value that has the property. -/
lemma Ensures.valid {a : α} (h : P a) : (valid a).Ensures P := by
  rintro _ ⟨⟩
  exact h

/-- A check that fails ensures everything. -/
lemma Ensures.fail (problem : Problem) : (fail problem : Checked α).Ensures P := by
  rintro _ ⟨⟩

/-- Nothing has to be known of a part that does not matter. -/
lemma Ensures.trivial (c : Checked α) : c.Ensures fun _ => True := fun _ _ => True.intro

/-- Both checks ensure what their values make together. -/
lemma Ensures.both {f : Checked (α → β)} {c : Checked α}
    (hf : f.Ensures fun f => ∀ a, P a → Q (f a)) (hc : c.Ensures P) :
    (both f c).Ensures Q := by
  intro b h
  cases f with
  | invalid issues => cases c <;> cases h
  | valid f =>
    cases c with
    | invalid issues => cases h
    | valid a =>
      obtain rfl : f a = b := Checked.valid.inj h
      exact hf f rfl a (hc a rfl)

/-- A further part of a record. -/
lemma Ensures.seq {f : Checked (α → β)} {c : Checked α}
    (hf : f.Ensures fun f => ∀ a, P a → Q (f a)) (hc : c.Ensures P) :
    (f <*> c).Ensures Q :=
  hf.both hc

/-- The first part of a record. -/
lemma Ensures.map {f : α → β} {c : Checked α} (hc : c.Ensures P) (hf : ∀ a, P a → Q (f a)) :
    (f <$> c).Ensures Q :=
  (Ensures.valid hf).both hc

/-- A further check may use what the first one ensures. -/
lemma Ensures.andThen {c : Checked α} {next : α → Checked β} (hc : c.Ensures P)
    (hnext : ∀ a, P a → (next a).Ensures Q) : (c.andThen next).Ensures Q := by
  intro b h
  cases c with
  | invalid issues => cases h
  | valid a => exact hnext a (hc a rfl) b h

/-- The place of a check does not matter. -/
lemma Ensures.within {c : Checked α} (hc : c.Ensures P) (step : PathStep) :
    (c.within step).Ensures P := by
  cases c with
  | valid a => exact hc
  | invalid issues => rintro _ ⟨⟩

variable {check : Json → Checked α}

/-- A key that has to be there. -/
lemma Ensures.required (h : ∀ value, (check value).Ensures P) (members : List (String × Json))
    (key : String) : (required members key check).Ensures P := by
  refine Ensures.within ?_ _
  cases members.lookup key with
  | none => exact .fail _
  | some value => exact h value

/-- A key that may be missing. -/
lemma Ensures.optional {default : α} (hdefault : P default)
    (h : ∀ value, (check value).Ensures P) (members : List (String × Json)) (key : String) :
    (optional members key default check).Ensures P := by
  unfold Checked.optional
  cases members.lookup key with
  | none => exact .valid hdefault
  | some value => exact (h value).within _

/-- A value or null. -/
lemma Ensures.nullable (h : ∀ value, (check value).Ensures P) (value : Json) :
    (nullable check value).Ensures fun o => ∀ a ∈ o, P a := by
  unfold Checked.nullable
  split
  · exact .valid (by simp)
  · exact (h _).map fun a ha => by simpa using ha

/-- An object. -/
lemma Ensures.object {problem : Problem} {check : List (String × Json) → Checked α}
    (h : ∀ members, (check members).Ensures P) (value : Json) :
    (object problem check value).Ensures P := by
  unfold Checked.object
  split
  · exact h _
  · exact .fail _

/-- The elements of a list. -/
lemma Ensures.list (h : ∀ value, (check value).Ensures P) (items : List Json) :
    (list check items).Ensures fun as => ∀ a ∈ as, P a := by
  have hfrom : ∀ start, (listFrom check start items).Ensures fun as => ∀ a ∈ as, P a := by
    induction items with
    | nil => exact fun start => .valid (by simp)
    | cons item items ih =>
      intro start
      refine .both (.both (.valid ?_) ((h item).within _)) (ih (start + 1))
      exact fun a ha as has => List.forall_mem_cons.mpr ⟨ha, has⟩
  exact hfrom 0

/-- An array. -/
lemma Ensures.array {problem : Problem} (h : ∀ value, (check value).Ensures P) (value : Json) :
    (array problem check value).Ensures fun as => ∀ a ∈ as, P a := by
  unfold Checked.array
  split
  · exact .list h _
  · exact .fail _

end Checked

end SynthGraph
