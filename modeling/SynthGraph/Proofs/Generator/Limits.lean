import SynthGraph.Proofs.Generator.Validity
import SynthGraph.Proofs.Graph.Acceptance
import SynthGraph.Proofs.Graph.Lifetime
import SynthGraph.Proofs.Number.Order

/-!
# Limits stay in order

A clip node reads the bounds of a range from the pool, where each of them may share its slot with a
literal that was interned long before and is stored in its place.  Literals are stored by their
keys, rounding to a key and narrowing both keep the numeric order, and bounds with one key are
stored as one number.  What the node reads is therefore in the order of the bounds.
-/

namespace SynthGraph

-- Powers are those of the core library, also where a larger library brings its own.
attribute [local instance (2000)] instPowNat

/-! ### What is stored in place of a literal -/

variable {literals : List Binary64} {v w : Binary64}

/-- The literal that is stored in place of a literal: the first one of its key. -/
def firstLiteral (literals : List Binary64) (v : Binary64) : Binary64 :=
  (literals.find? (sameKey · v)).getD v

/-- The stored literal has the key of the literal. -/
lemma rank?_constantKey_firstLiteral (literals : List Binary64) (v : Binary64) :
    (constantKey (firstLiteral literals v)).rank? = (constantKey v).rank? := by
  rw [firstLiteral]
  cases hfind : literals.find? (sameKey · v) with
  | none => rfl
  | some u =>
    have hsame : sameKey u v = true := List.find?_some (p := (sameKey · v)) hfind
    simpa [sameKey, FloatDatum.sameNumber] using hsame

/-- What has a number as its key is a number. -/
lemma exists_rank?_of_constantKey {i : Int} (h : (constantKey v).rank? = some i) :
    ∃ j, v.rank? = some j := by
  cases v with
  | nan negative => cases h
  | signed negative c => exact ⟨_, FloatDatum.rank?_signed negative c⟩

/-- A literal is not stored as a greater number than a greater literal is. -/
theorem FloatDatum.AtMost.firstStored (h : v.AtMost w) (literals : List Binary64) :
    (firstStored literals v).AtMost (firstStored literals w) := by
  have hinfinity : 0 < FloatFormat.binary64.infinity := by decide
  suffices horder : (firstLiteral literals v).AtMost (firstLiteral literals w) from
    horder.convert .binary32 hinfinity
  obtain ⟨i, j, hv, hw, -⟩ : (constantKey v).AtMost (constantKey w) := h.roundPlaces 8 hinfinity
  have hkeyV := rank?_constantKey_firstLiteral literals v
  have hkeyW := rank?_constantKey_firstLiteral literals w
  obtain ⟨k, hk⟩ := exists_rank?_of_constantKey (hkeyV.trans hv)
  obtain ⟨l, hl⟩ := exists_rank?_of_constantKey (hkeyW.trans hw)
  rcases FloatDatum.atMost_total hk hl with horder | hinverse
  · exact horder
  · -- The keys then are one, and so are the literals that are stored.
    have hkeys : (constantKey v).rank? = (constantKey w).rank? := by
      refine AtMost.rank?_eq (h.roundPlaces 8 hinfinity) ?_
      obtain ⟨m, n, hm, hn, hmn⟩ : (constantKey (firstLiteral literals w)).AtMost
        (constantKey (firstLiteral literals v)) := hinverse.roundPlaces 8 hinfinity
      exact ⟨m, n, hkeyW ▸ hm, hkeyV ▸ hn, hmn⟩
    have hsame : (sameKey · v) = (sameKey · w) := by
      funext u
      simp [sameKey, FloatDatum.sameNumber, hkeys]
    unfold firstLiteral at hk ⊢
    rw [hsame] at hk ⊢
    cases hfind : literals.find? (sameKey · w) with
    | none => exact h
    | some u =>
      rw [hfind] at hk
      exact atMost_self hk

namespace Definition

variable {d d' : Definition} {r : Reference}

/-! ### Bounds in a pool -/

/-- The pool of a reachable definition lists the literals that it has taken. -/
lemma Reachable.exists_lists (h : d.Reachable) : ∃ literals, d.constants.Lists literals := by
  refine h.of_step (P := fun d => ∃ literals, d.constants.Lists literals) ?_ ?_
  · intro name d hnew
    obtain ⟨-, rfl⟩ := new_eq_ok_iff.mp hnew
    exact ⟨[], ConstantPool.lists_empty⟩
  · rintro d d' hstep ⟨literals, hlists⟩
    cases hstep with
    | constant hintern => exact ⟨_, (hlists.intern (hlists.not_overflows hintern) hintern).1⟩
    | declare => exact ⟨literals, hlists⟩
    | node => exact ⟨literals, hlists⟩
    | @controls exposed =>
      obtain ⟨-, hconstants, -⟩ :=
        foldl_expose_frame exposed { d with parameters := d.parameters.close }
      exact ⟨literals, by rwa [exposeAll, hconstants]⟩

/-- A bound that is added to a pool is stored as the first literal of its key. -/
lemma stored_of_apply_constant (hholds : d.constants.Holds literals)
    (h : (Edit.constant v).apply d = (.ok r, d')) :
    d.Extends d' ∧ d'.nodes = d.nodes ∧ d'.constants.Holds (literals ++ [v]) ∧
      ∃ slot : Nat, r = .constant slot ∧
        d'.constants.values[slot]? = some (firstStored (literals ++ [v]) v) := by
  obtain ⟨slot, pool, hintern, rfl, rfl⟩ := Edit.apply_constant_eq_ok.mp h
  obtain ⟨hholds', hvalue⟩ := hholds.intern hintern
  exact ⟨(Step.constant (d := d) hintern).extends, rfl, hholds', slot, rfl, hvalue⟩

/-! ### Clip nodes -/

variable {signal : Reference} {rate : Rate}

/-- A signal can be limited exactly when none of the bounds overflows. -/
lemma succeedsIff_clamped (hholds : d.constants.Holds literals)
    (hfit : ∀ w ∈ literals, ¬w.Overflows) (hsignal : d.Offers d.nodes.size signal)
    (clamp : Clamp) :
    (Template.clamped signal clamp rate).SucceedsIff d (∀ b ∈ clamp.bounds, ¬b.Overflows) := by
  have hfirst (low : Binary64) := Edit.succeedsIff_constant hholds hfit low
  cases clamp with
  | floor low =>
    have hbinary : ∀ lowRef d₁, ¬low.Overflows → (Edit.constant low).apply d = (.ok lowRef, d₁) →
        (Edit.binary .max rate.code signal lowRef).SucceedsIff d₁ (IsShortName "BinaryOpUGen") := by
      intro lowRef d₁ _ hlow
      obtain ⟨hextends, -⟩ := stored_of_apply_constant hholds hlow
      refine Edit.succeedsIff_unit ?_ (by decide)
      simp only [List.forall_mem_cons, List.not_mem_nil, false_imp_iff, implies_true, and_true]
      exact ⟨hsignal.mono hextends hextends.nodes_size_le, offers_of_apply_constant hlow⟩
    have hclass : IsShortName "BinaryOpUGen" := by decide
    exact ((hfirst low).bind hbinary).congr (by simp [Clamp.bounds, hclass])
  | range low high =>
    have hclip : ∀ lowRef d₁, ¬low.Overflows → (Edit.constant low).apply d = (.ok lowRef, d₁) →
        (Edit.constant high >>= fun highRef =>
          Edit.unit "Clip" rate.code [signal, lowRef, highRef] 0).SucceedsIff d₁
          (¬high.Overflows ∧ IsShortName "Clip") := by
      intro lowRef d₁ hlowFits hlow
      obtain ⟨hextends₁, -, hholds₁, -⟩ := stored_of_apply_constant hholds hlow
      have hfit₁ : ∀ w ∈ literals ++ [low], ¬w.Overflows := by
        simpa [or_imp, forall_and, hlowFits] using hfit
      refine (Edit.succeedsIff_constant hholds₁ hfit₁ high).bind fun highRef d₂ _ hhigh => ?_
      obtain ⟨hextends₂, -⟩ := stored_of_apply_constant hholds₁ hhigh
      have hextends := hextends₁.trans hextends₂
      refine Edit.succeedsIff_unit ?_ (by decide)
      simp only [List.forall_mem_cons, List.not_mem_nil, false_imp_iff, implies_true, and_true]
      exact ⟨hsignal.mono hextends hextends.nodes_size_le,
        (offers_of_apply_constant hlow).mono hextends₂ hextends₂.nodes_size_le,
        offers_of_apply_constant hhigh⟩
    have hclass : IsShortName "Clip" := by decide
    exact ((hfirst low).bind hclip).congr (by simp [Clamp.bounds, hclass])

variable {low high : Binary64}

/-- What limiting a signal to a range does to a definition. -/
structure ClipsInOrder (d : Definition) (signal : Reference) (low high : Binary64) (rate : Rate) :
    Prop where
  /-- It succeeds unless a bound is finite and becomes infinite in single precision. -/
  succeeds : (Template.clamped signal (.range low high) rate).SucceedsIff d
    (¬low.Overflows ∧ ¬high.Overflows)
  /-- When it succeeds, it appends one clip node, and of the stored literals that the node reads as
  its bounds the lower one is at most the upper one. -/
  reads : ∀ r d', (Template.clamped signal (.range low high) rate).apply d = (.ok r, d') →
    ∃ (i j : Nat) (x y : Binary32), r = ⟨d.nodes.size, 0⟩ ∧
      d'.nodes = d.nodes.push ⟨"Clip", rate, [signal, .constant i, .constant j], [rate], 0⟩ ∧
      d'.constants.values[i]? = some x ∧ d'.constants.values[j]? = some y ∧ x.AtMost y

/-- Whatever literals a definition has taken before, and whichever of them the bounds of a range
share their slots with: when bounds that are numbers are in order, so are the stored literals that
the clip node reads. -/
theorem Reachable.clipsInOrder (h : d.Reachable) (horder : (Clamp.range low high).InOrder)
    (hlow : ∀ negative, low ≠ .nan negative) (hhigh : ∀ negative, high ≠ .nan negative)
    (hsignal : d.checkInput signal = .ok ()) (rate : Rate) :
    d.ClipsInOrder signal low high rate := by
  obtain ⟨literals, hlists⟩ := h.exists_lists
  have hsucceeds : (Template.clamped signal (.range low high) rate).SucceedsIff d
      (∀ b ∈ (Clamp.range low high).bounds, ¬b.Overflows) :=
    succeedsIff_clamped hlists.holds hlists.fit (checkInput_eq_ok_iff.mp hsignal) _
  refine ⟨hsucceeds.congr (by simp [Clamp.bounds]), fun r d' happly => ?_⟩
  obtain ⟨lowRef, d₁, hlowRun, hrest⟩ := Edit.apply_bind_eq_ok.mp happly
  obtain ⟨highRef, d₂, hhighRun, hunit⟩ := Edit.apply_bind_eq_ok.mp hrest
  obtain ⟨-, hnodes₁, hholds₁, i, rfl, hx⟩ := stored_of_apply_constant hlists.holds hlowRun
  obtain ⟨hextends₂, hnodes₂, -, j, rfl, hy⟩ := stored_of_apply_constant hholds₁ hhighRun
  -- The lower bound is stored in the same way once the upper one is there as well.
  have hkept : firstStored (literals ++ [low] ++ [high]) low =
      firstStored (literals ++ [low]) low :=
    firstStored_of_prefix (by simp) (List.prefix_append _ _)
  have hx₂ : d₂.constants.values[i]? =
      some (firstStored (literals ++ [low] ++ [high]) low) :=
    hkept ▸ getElem?_of_prefix hextends₂.constants hx
  obtain ⟨n, hnode, rfl, rfl⟩ := Edit.apply_unit_eq_ok.mp hunit
  obtain ⟨-, rfl⟩ := newNode_code_eq_ok_iff.mp hnode
  have hbounds : low.AtMost high := FloatDatum.atMost_of_not_exceeds hlow hhigh horder
  refine ⟨i, j, _, _, ?_, ?_, hx₂, hy, hbounds.firstStored _⟩
  · rw [hnodes₂, hnodes₁]
  · rw [append, hnodes₂, hnodes₁]
    rfl

/-- A definition with a node to be limited, and a literal that is taken for zero. -/
def nearZeroTone : Definition :=
  (⟨"tone", .empty, .empty, #[], []⟩ : Definition).run
    [.constant (.ofQuotient true (2 ^ (1046 : Nat)) 1), .node "WhiteNoise" 2 [] 1 0]

/-- Limited to the range from zero to one, the node is clipped from that literal on. -/
theorem clipsInOrder_nearZeroTone :
    let limited := (Template.clamped ⟨0, 0⟩ (.range (.ofInt 0) (.ofInt 1)) .audio).apply
      nearZeroTone
    nearZeroTone.Reachable ∧ nearZeroTone.checkInput ⟨0, 0⟩ = .ok () ∧
      nearZeroTone.ClipsInOrder ⟨0, 0⟩ (.ofInt 0) (.ofInt 1) .audio ∧
      limited.1 = .ok ⟨1, 0⟩ ∧
      limited.2.nodes[1]? =
        some ⟨"Clip", .audio, [⟨0, 0⟩, .constant 0, .constant 1], [.audio], 0⟩ ∧
      limited.2.constants.values[0]? = some (.ofQuotient true (2 ^ (121 : Nat)) 1) := by
  intro limited
  have hnew : Definition.new "tone" = .ok ⟨"tone", .empty, .empty, #[], []⟩ := by rfl
  have hreach : nearZeroTone.Reachable := (Reachable.new hnew).run _
  have hsignal : nearZeroTone.checkInput ⟨0, 0⟩ = .ok () := by decide +kernel
  have hnumber : ∀ k, k = 0 ∨ k = 1 → ∀ negative, (.ofInt k : Binary64) ≠ .nan negative := by
    rintro k (rfl | rfl) (_ | _) <;> decide +kernel
  exact ⟨hreach, hsignal, hreach.clipsInOrder (by decide +kernel) (hnumber 0 (.inl rfl))
    (hnumber 1 (.inr rfl)) hsignal .audio, by decide +kernel, by decide +kernel,
    by decide +kernel⟩

end Definition

end SynthGraph
