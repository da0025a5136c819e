import Mathlib.Probability.Distributions.Uniform
import Questionnaire.Proofs.Shuffle.Draws

/-!
# Shuffles are fair

A fair draw gives each number below its bound with the same probability, and fair draws for several
bounds are independent of each other (`fairDraws`). So each sequence of draws within the bounds has
the same probability, that of one in as many as the product of the bounds (`fairDraws_apply`). What
such sequences correspond one to one to has that probability too, and nothing else has any
(`map_fairDraws_apply`). These are the allowed orders of questions (`presentationOrder_unbiased`)
and the orders of the options of a question (`Question.map_fairDraws_optionsDrawn`).
-/

namespace Questionnaire

open scoped ENNReal

variable {α β : Type}

/-! ## Fair draws -/

/-- A number below the bound, each with the same probability. No number is below zero, which is no
bound of a shuffle; there it is zero that is drawn. -/
noncomputable def fairDraw : ℕ → PMF ℕ
  | 0 => PMF.pure 0
  | last + 1 => PMF.uniformOfFinset (Finset.range (last + 1)) Finset.nonempty_range_add_one

/-- Fair draws for each of the bounds, independent of each other. -/
noncomputable def fairDraws : List ℕ → PMF (List ℕ)
  | [] => PMF.pure []
  | bound :: rest => (fairDraw bound).bind fun drawn => (fairDraws rest).map (drawn :: ·)

/-- A number below the bound is drawn with the probability of one in as many as the bound. -/
theorem fairDraw_apply {bound drawn : ℕ} (h : drawn < bound) :
    fairDraw bound drawn = (bound : ℝ≥0∞)⁻¹ := by
  cases bound with
  | zero => exact absurd h (Nat.not_lt_zero _)
  | succ last =>
    rw [fairDraw, PMF.uniformOfFinset_apply_of_mem _ (Finset.mem_range.2 h), Finset.card_range]

/-- Numbers below the bound are drawn, and no others. -/
theorem mem_support_fairDraw_iff {bound drawn : ℕ} (h : 0 < bound) :
    drawn ∈ (fairDraw bound).support ↔ drawn < bound := by
  cases bound with
  | zero => exact absurd h (Nat.lt_irrefl _)
  | succ last => rw [fairDraw, PMF.mem_support_uniformOfFinset_iff, Finset.mem_range]

/-- An outcome that comes from one event alone has the probability of that event. -/
theorem map_apply_of_unique {p : PMF α} {f : α → β} {a : α}
    (h : ∀ other ∈ p.support, f other = f a → other = a) : p.map f (f a) = p a := by
  rw [PMF.map_apply, tsum_eq_single a, if_pos rfl]
  intro other hne
  split
  next heq =>
    by_contra hprob
    exact hne (h other ((PMF.mem_support_iff _ _).2 hprob) heq.symm)
  next => rfl

/-- What is drawn for several bounds is within them. -/
theorem mem_support_fairDraws_iff {bounds draws : List ℕ} (h : ∀ bound ∈ bounds, 0 < bound) :
    draws ∈ (fairDraws bounds).support ↔ DrawsWithin bounds draws := by
  induction bounds generalizing draws with
  | nil => simp [fairDraws, DrawsWithin]
  | cons bound rest ih =>
    obtain ⟨hbound, hrest⟩ := List.forall_mem_cons.1 h
    simp only [fairDraws, PMF.mem_support_bind_iff, PMF.mem_support_map_iff,
      mem_support_fairDraw_iff hbound, ih hrest, DrawsWithin, List.forall₂_cons_right_iff]
    constructor
    · rintro ⟨drawn, hdrawn, others, hothers, rfl⟩
      exact ⟨drawn, others, hdrawn, hothers, rfl⟩
    · rintro ⟨drawn, others, hdrawn, hothers, rfl⟩
      exact ⟨drawn, hdrawn, others, hothers, rfl⟩

/-- Each sequence of draws has the same probability. -/
theorem fairDraws_apply {bounds draws : List ℕ} (h : DrawsWithin bounds draws) :
    fairDraws bounds draws = (bounds.prod : ℝ≥0∞)⁻¹ := by
  induction h with
  | nil => simp [fairDraws]
  | @cons drawn bound rest bounds hdrawn _ ih =>
    rw [fairDraws, PMF.bind_apply, tsum_eq_single drawn]
    · rw [map_apply_of_unique fun other _ heq => (List.cons.inj heq).2, fairDraw_apply hdrawn, ih,
        List.prod_cons, Nat.cast_mul,
        ENNReal.mul_inv (.inr (ENNReal.natCast_ne_top _)) (.inl (ENNReal.natCast_ne_top _))]
    · -- The sequence starts with what is drawn first, and with nothing else.
      intro other hne
      refine mul_eq_zero_of_right _ ((PMF.apply_eq_zero_iff _ _).2 fun hmem => ?_)
      obtain ⟨others, -, heq⟩ := (PMF.mem_support_map_iff _ _ _).1 hmem
      exact hne (List.cons.inj heq).1

/-- Where sequences of draws correspond one to one to some outcomes, fair draws give each of these
with the same probability, and nothing else. -/
theorem map_fairDraws_apply {bounds : List ℕ} (hpos : ∀ bound ∈ bounds, 0 < bound)
    {f : List ℕ → β} {outcomes : Set β}
    (hf : Set.BijOn f {draws | DrawsWithin bounds draws} outcomes) (outcome : β) :
    (fairDraws bounds).map f outcome =
      outcomes.indicator (fun _ => (bounds.prod : ℝ≥0∞)⁻¹) outcome := by
  by_cases houtcome : outcome ∈ outcomes
  · -- Only sequences within the bounds are drawn, and of these no other has the same outcome.
    obtain ⟨draws, hdraws, rfl⟩ := hf.surjOn houtcome
    rw [Set.indicator_of_mem houtcome, ← fairDraws_apply hdraws]
    exact map_apply_of_unique fun other hother heq =>
      hf.injOn ((mem_support_fairDraws_iff hpos).1 hother) hdraws heq
  · rw [Set.indicator_of_notMem houtcome, PMF.apply_eq_zero_iff, PMF.mem_support_map_iff]
    rintro ⟨draws, hdraws, rfl⟩
    exact houtcome (hf.mapsTo ((mem_support_fairDraws_iff hpos).1 hdraws))

/-! ## The order of presentation -/

/-- Shuffles of questions are unbiased. From any source, the order is a function of the numbers
drawn, one below each bound. This function takes the sequences of draws one to one onto the allowed
orders: all permutations of the places, or those that take each section to itself if sections are
respected. So fair draws give each allowed order with the same probability, and no other. -/
theorem presentationOrder_unbiased (questions : List Question) (respectSections : Bool) :
    (∀ (σ : Type) [Source σ] (state : σ), ∃ draws,
        DrawsWithin (orderBounds questions respectSections) draws ∧
        (presentationOrder questions true respectSections state).1 =
          orderDrawn questions respectSections draws) ∧
      Set.BijOn (orderDrawn questions respectSections)
        {draws | DrawsWithin (orderBounds questions respectSections) draws}
        {order | AllowedOrder questions respectSections order} ∧
      ∀ order, (fairDraws (orderBounds questions respectSections)).map
          (orderDrawn questions respectSections) order =
        {order | AllowedOrder questions respectSections order}.indicator
          (fun _ => ((orderBounds questions respectSections).prod : ℝ≥0∞)⁻¹) order := by
  have hdrawn : ∀ (σ : Type) [Source σ] (state : σ),
      DrawsWithin (orderBounds questions respectSections)
        (Source.drawAll (orderBounds questions respectSections) state).1 :=
    fun σ _ => drawsWithin_drawAll fun _ => pos_of_mem_orderBounds
  exact ⟨fun σ _ state => ⟨_, hdrawn σ state, presentationOrder_eq_orderDrawn state⟩,
    bijOn_orderDrawn questions respectSections,
    map_fairDraws_apply (fun _ => pos_of_mem_orderBounds)
      (bijOn_orderDrawn questions respectSections)⟩

/-- The questions before the break change places, and the break stays before the one after it. -/
example :
    orderDrawn [{ id := "street", body := .openText {} }, { id := "floor", body := .openText {} },
      { id := "rooms", body := .sectionBreak }, { id := "bath", body := .openText {} }] true
      [0, 1] = [1, 0, 2, 3] := by
  decide

/-! ## The options of a question -/

/-- Fair draws give each order of the options of a question with the same probability. If they are
not shuffled, this is the authored order with certainty. -/
theorem Question.map_fairDraws_optionsDrawn {q : Question} (hnodup : q.body.options.Nodup)
    (order : List Choice) :
    (fairDraws q.optionBounds).map q.optionsDrawn order =
      {order | order.Perm q.body.options ∧
        (q.body.randomizesOptions = false → order = q.body.options)}.indicator
        (fun _ => (q.optionBounds.prod : ℝ≥0∞)⁻¹) order :=
  map_fairDraws_apply (fun _ => pos_of_mem_optionBounds) (bijOn_optionsDrawn hnodup) order

end Questionnaire
