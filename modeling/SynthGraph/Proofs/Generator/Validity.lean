import SynthGraph.Generator.Schema
import SynthGraph.Proofs.Generator.Signals
import SynthGraph.Proofs.Schema.Ensures

/-!
# Valid generators

What the schema asks of a generator: names of one to 255 characters, clamps whose bounds are in
order, and at most one amplitude.  Nothing is asked of the characters of a name, of names that stand
twice, or of the size of numbers.
-/

namespace SynthGraph

/-- A text of one to 255 characters. -/
def IsLabel (s : String) : Prop := 0 < s.length ∧ s.length ≤ 255

instance (s : String) : Decidable (IsLabel s) :=
  inferInstanceAs (Decidable (_ ∧ _))

/-- The lower bound does not exceed the upper one. -/
def Clamp.InOrder : Clamp → Prop
  | .range low high => low.exceeds high = false
  | .floor _ => True

instance (c : Clamp) : Decidable c.InOrder :=
  match c with
  | .range low high => inferInstanceAs (Decidable (low.exceeds high = false))
  | .floor _ => isTrue trivial

/-- A parameter that the schema accepts. -/
structure ParamSpec.Valid (p : ParamSpec) : Prop where
  name : IsLabel p.name
  modName : ∀ name ∈ p.modName, IsLabel name
  clamp : ∀ c ∈ p.clamp, c.InOrder

instance (p : ParamSpec) : Decidable p.Valid :=
  decidable_of_iff
    (IsLabel p.name ∧ (∀ name ∈ p.modName, IsLabel name) ∧ ∀ c ∈ p.clamp, c.InOrder)
    ⟨fun ⟨hname, hmodName, hclamp⟩ => ⟨hname, hmodName, hclamp⟩,
      fun h => ⟨h.name, h.modName, h.clamp⟩⟩

/-- A generator that the schema accepts. -/
structure GeneratorSpec.Valid (g : GeneratorSpec) : Prop where
  name : IsLabel g.name
  ugen : IsLabel g.ugen
  params : ∀ p ∈ g.params, p.Valid
  amplitudes : g.amplitudes.length ≤ 1

instance (g : GeneratorSpec) : Decidable g.Valid :=
  decidable_of_iff
    (IsLabel g.name ∧ IsLabel g.ugen ∧ (∀ p ∈ g.params, p.Valid) ∧ g.amplitudes.length ≤ 1)
    ⟨fun ⟨hname, hugen, hparams, hamplitudes⟩ => ⟨hname, hugen, hparams, hamplitudes⟩,
      fun h => ⟨h.name, h.ugen, h.params, h.amplitudes⟩⟩

namespace Checked

/-- A label has one to 255 characters. -/
lemma ensures_label (value : Json) : (label value).Ensures IsLabel := by
  refine (Ensures.trivial (string value)).andThen fun s _ => ?_
  split
  case isTrue => exact .fail _
  case isFalse hshort =>
    split
    case isTrue => exact .fail _
    case isFalse hlong => exact .valid ⟨Nat.pos_of_ne_zero hshort, Nat.not_lt.mp hlong⟩

/-- The bounds of a clamp are in order. -/
lemma ensures_clampOfKind {bound : Json → Checked Binary64} (members : List (String × Json)) :
    (clampOfKind bound members).Ensures Clamp.InOrder := by
  unfold clampOfKind
  split
  · exact .fail _
  · split
    · refine Ensures.within ((Ensures.trivial _).andThen fun bounds _ => ?_) _
      dsimp only
      split
      case isTrue => exact .fail _
      case isFalse horder => exact .valid (by simpa [Clamp.InOrder] using horder)
    · refine Ensures.within ?_ _
      refine .seq (.seq (.map (.trivial _) ?_) (.trivial _)) (.trivial _)
      exact fun _ _ low _ _ _ => True.intro
    · exact .fail _

/-- The clamp of a parameter is in order. -/
lemma ensures_clampField (value : Json) :
    (clampField value).Ensures fun clamp => ∀ c ∈ clamp, c.InOrder :=
  (Ensures.trivial _).andThen fun expanded _ =>
    .nullable (Ensures.object ensures_clampOfKind) expanded

/-- A checked parameter is valid. -/
lemma ensures_param (value : Json) : (param value).Ensures ParamSpec.Valid := by
  refine Ensures.object (fun members => ?_) value
  refine .seq (.seq (.seq (.seq (.seq (.map (.required ensures_label _ _) ?_) (.trivial _))
    (.trivial _)) (.optional (by simp) (.nullable ensures_label) _ _))
    (.optional (by simp) ensures_clampField _ _)) (.trivial _)
  exact fun name hname default _ role _ modName hmodName clamp hclamp _ _ =>
    ⟨hname, hmodName, hclamp⟩

/-- A checked generator is valid. -/
theorem ensures_generator (value : Json) : (generator value).Ensures GeneratorSpec.Valid := by
  refine Ensures.object (fun members => ?_) value
  have hrecord : ((fun name ugen params _ => ⟨name, ugen, params⟩ : _ → _ → _ → _ → GeneratorSpec)
      <$> required members "name" label <*> required members "ugen" label
      <*> optional members "params" [] (array .notTuple param)
      <*> onlyKeys ["name", "ugen", "params"] members).Ensures fun g =>
        IsLabel g.name ∧ IsLabel g.ugen ∧ ∀ p ∈ g.params, p.Valid := by
    refine .seq (.seq (.seq (.map (.required ensures_label _ _) ?_)
      (.required ensures_label _ _)) (.optional (by simp) (.array ensures_param) _ _)) (.trivial _)
    exact fun name hname ugen hugen params hparams _ _ => ⟨hname, hugen, hparams⟩
  refine hrecord.andThen fun g ⟨hname, hugen, hparams⟩ => ?_
  split
  case isTrue => exact .fail _
  case isFalse hcount => exact .valid ⟨hname, hugen, hparams, Nat.not_lt.mp hcount⟩

example : (⟨"hum", "SinOsc", []⟩ : GeneratorSpec).Valid :=
  ensures_generator (.obj [("name", .str "hum"), ("ugen", .str "SinOsc")]) _ rfl

end Checked

end SynthGraph
