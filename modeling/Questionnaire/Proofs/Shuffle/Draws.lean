import Mathlib.Data.List.Forall2
import Mathlib.Data.List.Nodup
import Mathlib.Data.Set.Function
import Questionnaire.Proofs.Shuffle.Sections

/-!
# One sequence of draws for each order

A shuffle draws one number below each of its bounds (`DrawsWithin`), and then arranges by what it
drew. Arranging settles the list from its end: the first draw says which item comes last, and what
is left is arranged by the other draws (`arrange_cons`). So a list without repetitions is brought
into each of its orders by one sequence of draws and no other (`existsUnique_arrange`), and groups
each into an order of its own by one sequence that they share (`existsUnique_arrangeGroups`).

An order of questions is allowed if it has each place once and, where sections are respected, holds
at the places of a section the places of that section (`AllowedOrder`). Draws that are given
beforehand are a source too (`Replay`), so the order of presentation is a function of the draws
(`orderDrawn`). It takes the sequences of draws one to one onto the allowed orders
(`bijOn_orderDrawn`). The options that a question presents are a function of their draws as well
(`Question.presentedOptions_eq_optionsDrawn`), and each of their orders comes from one sequence
(`Question.bijOn_optionsDrawn`).
-/

namespace Questionnaire

variable {α σ : Type}

/-! ## Draws -/

/-- The draws are one for each bound, and below it. -/
def DrawsWithin (bounds draws : List ℕ) : Prop :=
  List.Forall₂ (· < ·) draws bounds

/-- A list of one or more items is arranged by one draw less. -/
theorem length_drawBounds (n : ℕ) : (drawBounds n).length = n - 1 := by
  induction n using drawBounds.induct with
  | case1 => rfl
  | case2 => rfl
  | case3 n ih =>
    rw [drawBounds, List.length_cons, ih]
    rfl

/-- No number is drawn below zero. -/
theorem pos_of_mem_drawBounds {n bound : ℕ} (h : bound ∈ drawBounds n) : 0 < bound := by
  induction n using drawBounds.induct with
  | case1 => cases h
  | case2 => cases h
  | case3 n ih =>
    rcases List.mem_cons.1 h with rfl | h
    · exact Nat.succ_pos _
    · exact ih h

/-- A source gives draws within the bounds. -/
theorem drawsWithin_drawAll [Source σ] {bounds : List ℕ} (h : ∀ bound ∈ bounds, 0 < bound)
    (state : σ) : DrawsWithin bounds (Source.drawAll bounds state).1 := by
  induction bounds generalizing state with
  | nil => exact .nil
  | cons bound rest ih =>
    obtain ⟨hbound, hrest⟩ := List.forall_mem_cons.1 h
    exact .cons (Source.below_lt bound state hbound) (ih hrest _)

/-- Sequences of draws correspond one to one to some outcomes if each outcome comes from one
sequence and no other. -/
theorem bijOn_of_existsUnique {β : Type} {bounds : List ℕ} {f : List ℕ → β} {outcomes : Set β}
    (hmaps : ∀ draws, f draws ∈ outcomes)
    (hunique : ∀ outcome ∈ outcomes, ∃! draws, DrawsWithin bounds draws ∧ f draws = outcome) :
    Set.BijOn f {draws | DrawsWithin bounds draws} outcomes := by
  refine ⟨fun draws _ => hmaps draws, fun draws hdraws others hothers heq => ?_,
    fun outcome houtcome => ?_⟩
  · exact (hunique _ (hmaps others)).unique ⟨hdraws, heq⟩ ⟨hothers, rfl⟩
  · obtain ⟨draws, hdraws, -⟩ := hunique outcome houtcome
    exact ⟨draws, hdraws⟩

/-! ## What is left after a draw -/

/-- Exchanging two items leaves alone what comes after both. -/
theorem exchange_append {xs : List α} {i j : ℕ} (hi : i < xs.length) (hj : j < xs.length)
    (ys : List α) : exchange (xs ++ ys) i j = exchange xs i j ++ ys := by
  simp [exchange, hi, hj, List.getElem?_append_left, List.set_append_left]

/-- What is left to arrange of a list after a draw: the drawn item has gone to the end, and the last
one stands in its place. -/
def undrawn (xs : List α) (drawn : ℕ) : List α :=
  (exchange xs (xs.length - 1) drawn).dropLast

/-- The first exchange puts the drawn item at the end. -/
theorem exchange_last {xs : List α} {drawn : ℕ} (h : drawn < xs.length) :
    exchange xs (xs.length - 1) drawn = undrawn xs drawn ++ [xs[drawn]] := by
  have hlast : xs.length - 1 < xs.length := by omega
  have hexchange : exchange xs (xs.length - 1) drawn =
      (xs.set (xs.length - 1) xs[drawn]).set drawn xs[xs.length - 1] := by
    simp [exchange, h, hlast]
  have hne : exchange xs (xs.length - 1) drawn ≠ [] :=
    List.ne_nil_of_length_pos (by rw [(exchange_perm ..).length_eq]; omega)
  have hend : (exchange xs (xs.length - 1) drawn).getLast hne = xs[drawn] := by
    simp only [hexchange, List.getLast_eq_getElem, List.length_set, List.getElem_set]
    split
    next heq => simp only [heq]
    next => simp
  rw [undrawn, ← hend, List.dropLast_append_getLast]

/-- The drawn item and what is left are the items of the list. -/
theorem undrawn_perm {xs : List α} {drawn : ℕ} (h : drawn < xs.length) :
    (undrawn xs drawn ++ [xs[drawn]]).Perm xs := by
  rw [← exchange_last h]
  exact exchange_perm ..

/-- One item less is left. -/
theorem length_undrawn (xs : List α) (drawn : ℕ) : (undrawn xs drawn).length = xs.length - 1 := by
  rw [undrawn, List.length_dropLast, (exchange_perm ..).length_eq]

/-! ## Arranging a list -/

/-- Draws for the first items of a list leave alone what comes after them. -/
theorem arrangeFrom_append {draws : List ℕ} {last : ℕ} {xs : List α}
    (hdraws : DrawsWithin (drawBounds (last + 1)) draws) (hlast : last < xs.length)
    (ys : List α) : arrangeFrom last draws (xs ++ ys) = arrangeFrom last draws xs ++ ys := by
  induction last generalizing draws xs with
  | zero =>
    obtain rfl := List.forall₂_nil_right_iff.1 hdraws
    rfl
  | succ last ih =>
    obtain ⟨drawn, rest, hdrawn, hrest, rfl⟩ := List.forall₂_cons_right_iff.1 hdraws
    have hlength : (exchange xs (last + 1) drawn).length = xs.length :=
      (exchange_perm ..).length_eq
    rw [arrangeFrom, arrangeFrom, exchange_append hlast (by omega), Nat.add_sub_cancel,
      ih hrest (by omega)]

/-- The first draw says which item comes last; the others arrange what is left. -/
theorem arrange_cons {xs : List α} {n drawn : ℕ} {rest : List ℕ} (hlength : xs.length = n + 2)
    (hdrawn : drawn < xs.length) (hrest : DrawsWithin (drawBounds (n + 1)) rest) :
    arrange (drawn :: rest) xs = arrange rest (undrawn xs drawn) ++ [xs[drawn]] := by
  have hleft : (undrawn xs drawn).length = n + 1 := by rw [length_undrawn, hlength]; rfl
  rw [arrange, arrangeFrom, exchange_last hdrawn, arrange, hleft, hlength]
  exact arrangeFrom_append hrest (by omega) _

/-- Each order of a list without repetitions comes from one sequence of draws. -/
theorem existsUnique_arrange {xs order : List α} (hnodup : xs.Nodup) (horder : order.Perm xs) :
    ∃! draws, DrawsWithin (drawBounds xs.length) draws ∧ arrange draws xs = order := by
  induction hn : xs.length using drawBounds.induct generalizing xs order with
  | case1 | case2 =>
    -- Nothing is drawn for a list that has no more than one item, and there is no other order.
    refine ⟨[], ⟨.nil, (eq_of_perm_of_length_le_one horder (by omega)).symm⟩, ?_⟩
    rintro draws ⟨hdraws, -⟩
    exact List.forall₂_nil_right_iff.1 hdraws
  | case3 n ih =>
    obtain ⟨front, z, rfl⟩ : ∃ front z, order = front ++ [z] :=
      ⟨_, _, (List.dropLast_append_getLast
        (List.ne_nil_of_length_pos (by rw [horder.length_eq]; omega))).symm⟩
    obtain ⟨drawn, hdrawn, rfl⟩ : ∃ drawn, ∃ h : drawn < xs.length, xs[drawn] = z :=
      List.mem_iff_getElem.1 (horder.subset (by simp))
    -- The draw of the last item is settled, and what is left is in the order of the rest.
    have hleft : (undrawn xs drawn).Nodup :=
      ((undrawn_perm hdrawn).nodup_iff.2 hnodup).of_append_left
    have hfront : front.Perm (undrawn xs drawn) :=
      (List.perm_append_right_iff _).1 (horder.trans (undrawn_perm hdrawn).symm)
    obtain ⟨rest, ⟨hrest, harrange⟩, hunique⟩ :=
      ih hleft hfront (by rw [length_undrawn, hn]; rfl)
    refine ⟨drawn :: rest, ⟨.cons (hdrawn.trans_eq hn) hrest, ?_⟩, ?_⟩
    · rw [arrange_cons hn hdrawn hrest, harrange]
    · rintro draws ⟨hdraws, heq⟩
      obtain ⟨other, others, hother, hothers, rfl⟩ := List.forall₂_cons_right_iff.1 hdraws
      have hother : other < xs.length := hother.trans_eq hn.symm
      rw [arrange_cons hn hother hothers] at heq
      obtain ⟨hfrontEq, hlast⟩ := List.append_inj' heq rfl
      obtain rfl : other = drawn := hnodup.getElem_inj_iff.1 (List.singleton_inj.1 hlast)
      rw [hunique others ⟨hothers, hfrontEq⟩]

/-- Sequences of draws and orders of a list without repetitions correspond one to one. -/
theorem bijOn_arrange {xs : List α} (hnodup : xs.Nodup) :
    Set.BijOn (arrange · xs) {draws | DrawsWithin (drawBounds xs.length) draws}
      {order | order.Perm xs} :=
  bijOn_of_existsUnique (fun draws => arrange_perm draws xs) fun _ => existsUnique_arrange hnodup

/-! ## Arranging groups -/

/-- Orders of groups without repetitions come from one sequence of draws, which they share. -/
theorem existsUnique_arrangeGroups {orders groups : List (List α)}
    (horders : List.Forall₂ List.Perm orders groups) (hnodup : ∀ group ∈ groups, group.Nodup) :
    ∃! draws, DrawsWithin (groupBounds groups) draws ∧
      arrangeGroups draws groups = orders.flatten := by
  induction horders with
  | nil =>
    refine ⟨[], ⟨.nil, rfl⟩, ?_⟩
    rintro draws ⟨hdraws, -⟩
    exact List.forall₂_nil_right_iff.1 hdraws
  | @cons order group orders groups horder _ ih =>
    obtain ⟨hgroup, hgroups⟩ := List.forall_mem_cons.1 hnodup
    obtain ⟨first, ⟨hfirst, harrange⟩, hfirstUnique⟩ := existsUnique_arrange hgroup horder
    obtain ⟨others, ⟨hothers, harrangeGroups⟩, hothersUnique⟩ := ih hgroups
    have hcount := length_drawBounds group.length
    have hlength : first.length = group.length - 1 := hfirst.length_eq.trans hcount
    refine ⟨first ++ others, ⟨List.rel_append hfirst hothers, ?_⟩, ?_⟩
    · rw [arrangeGroups, List.take_left' hlength, List.drop_left' hlength, harrange,
        harrangeGroups, List.flatten_cons]
    · rintro draws ⟨hdraws, heq⟩
      -- The groups take their shares one after the other, and an order tells the shares apart.
      have htake := List.forall₂_take_append _ _ _ hdraws
      have hdrop := List.forall₂_drop_append _ _ _ hdraws
      rw [hcount] at htake hdrop
      rw [arrangeGroups, List.flatten_cons] at heq
      obtain ⟨hleft, hright⟩ := List.append_inj heq
        ((arrange_perm _ group).length_eq.trans horder.length_eq.symm)
      rw [← List.take_append_drop (group.length - 1) draws, hfirstUnique _ ⟨htake, hleft⟩,
        hothersUnique _ ⟨hdrop, hright⟩]

/-! ## Draws given beforehand -/

/-- A source that gives the draws of a list, and zeros where one is not below its bound or none is
left. -/
structure Replay where
  /-- The draws that are left. -/
  draws : List ℕ

instance : Source Replay where
  below
    | bound, ⟨drawn :: rest⟩ => (if drawn < bound then drawn else 0, ⟨rest⟩)
    | _, ⟨[]⟩ => (0, ⟨[]⟩)
  below_lt bound state h := by
    obtain ⟨_ | ⟨drawn, rest⟩⟩ := state
    · exact h
    · show (if drawn < bound then drawn else 0) < bound
      split <;> assumption

/-- Draws within the bounds are given as they are. -/
theorem drawAll_replay {bounds draws : List ℕ} (h : DrawsWithin bounds draws) :
    Source.drawAll bounds (Replay.mk draws) = (draws, Replay.mk []) := by
  induction h with
  | nil => rfl
  | @cons drawn bound rest bounds hdrawn _ ih =>
    have hbelow : Source.below bound (Replay.mk (drawn :: rest)) = (drawn, Replay.mk rest) := by
      show (if drawn < bound then drawn else 0, Replay.mk rest) = _
      rw [if_pos hdrawn]
    rw [Source.drawAll, hbelow]
    simp only [ih]

/-! ## The order of presentation -/

/-- The bounds of the draws that are made for the order of questions. -/
def orderBounds (questions : List Question) (respectSections : Bool) : List ℕ :=
  groupBounds (questionGroups questions respectSections)

/-- The order in which shuffled questions are presented when the given numbers are drawn. -/
def orderDrawn (questions : List Question) (respectSections : Bool) (draws : List ℕ) : List ℕ :=
  (presentationOrder questions true respectSections (Replay.mk draws)).1

/-- An order of questions that a shuffle may give. -/
structure AllowedOrder (questions : List Question) (respectSections : Bool) (order : List ℕ) :
    Prop where
  /-- It has each place once. -/
  perm : order.Perm (List.range questions.length)
  /-- The places of a section go to the places of that section, if sections are respected. -/
  keeps : respectSections = true → ∀ start stop,
    IsSection Question.isSectionBreak questions start stop →
      ∀ index, index ∈ order.extract start stop ↔ start ≤ index ∧ index < stop

variable {questions : List Question} {respectSections : Bool}

/-- No number is drawn below zero for the order of questions. -/
theorem pos_of_mem_orderBounds {bound : ℕ} (h : bound ∈ orderBounds questions respectSections) :
    0 < bound := by
  obtain ⟨group, -, hbound⟩ := List.mem_flatMap.1 h
  exact pos_of_mem_drawBounds hbound

/-- The order is the groups arranged by the draws. -/
theorem orderDrawn_eq {draws : List ℕ}
    (h : DrawsWithin (orderBounds questions respectSections) draws) :
    orderDrawn questions respectSections draws =
      arrangeGroups draws (questionGroups questions respectSections) := by
  rw [orderDrawn, presentationOrder, if_pos rfl, shuffleGroups]
  exact congrArg (arrangeGroups ·.1 _) (drawAll_replay h)

/-- From any source, the order is that of the numbers that it gives. -/
theorem presentationOrder_eq_orderDrawn [Source σ] (state : σ) :
    (presentationOrder questions true respectSections state).1 =
      orderDrawn questions respectSections
        (Source.drawAll (orderBounds questions respectSections) state).1 := by
  rw [orderDrawn_eq (drawsWithin_drawAll (fun _ => pos_of_mem_orderBounds) state),
    presentationOrder, if_pos rfl]
  rfl

/-- Whatever is drawn, the order is allowed. -/
theorem allowedOrder_orderDrawn (draws : List ℕ) :
    AllowedOrder questions respectSections (orderDrawn questions respectSections draws) where
  perm := presentationOrder_perm questions true respectSections _
  keeps := by
    rintro rfl start stop hsection index
    rw [orderDrawn, (extract_presentationOrder_perm hsection _).mem_iff, hsection.mem_range'_iff]

/-- An allowed order is made of orders of the groups. -/
theorem AllowedOrder.exists_orders {order : List ℕ}
    (h : AllowedOrder questions respectSections order) :
    ∃ orders, List.Forall₂ List.Perm orders (questionGroups questions respectSections) ∧
      orders.flatten = order := by
  cases respectSections with
  | false => exact ⟨[order], .cons h.perm .nil, List.flatten_singleton⟩
  | true =>
    have hlength : questions.length = order.length := by
      rw [h.perm.length_eq, List.length_range]
    refine ⟨(sections Question.isSectionBreak questions).map fun range =>
      order.extract range.1 range.2, ?_, flatten_extract_sections _ hlength⟩
    rw [questionGroups, if_pos rfl, List.forall₂_map_left_iff, List.forall₂_map_right_iff,
      List.forall₂_same]
    rintro ⟨start, stop⟩ hmem
    have hsection := mem_sections_iff.1 hmem
    -- Without repetitions, to hold the same places is to be in some order of them.
    have hnodup : (order.extract start stop).Nodup := by
      rw [List.extract_eq_take_drop]
      exact (h.perm.nodup_iff.2 List.nodup_range).sublist
        ((List.take_sublist _ _).trans (List.drop_sublist _ _))
    refine (List.perm_ext_iff_of_nodup hnodup List.nodup_range').2 fun index => ?_
    rw [h.keeps rfl start stop hsection, hsection.mem_range'_iff]

/-- No group of questions has a place twice. -/
theorem nodup_of_mem_questionGroups {group : List ℕ}
    (h : group ∈ questionGroups questions respectSections) : group.Nodup := by
  have hflatten : (questionGroups questions respectSections).flatten.Nodup := by
    rw [flatten_questionGroups]
    exact List.nodup_range
  exact (List.nodup_flatten.1 hflatten).1 group h

/-- Each allowed order comes from one sequence of draws. -/
theorem AllowedOrder.existsUnique_draws {order : List ℕ}
    (h : AllowedOrder questions respectSections order) :
    ∃! draws, DrawsWithin (orderBounds questions respectSections) draws ∧
      orderDrawn questions respectSections draws = order := by
  obtain ⟨orders, horders, rfl⟩ := h.exists_orders
  obtain ⟨draws, ⟨hdraws, harrange⟩, hunique⟩ :=
    existsUnique_arrangeGroups horders fun group => nodup_of_mem_questionGroups
  refine ⟨draws, ⟨hdraws, (orderDrawn_eq hdraws).trans harrange⟩, ?_⟩
  rintro others ⟨hothers, heq⟩
  exact hunique others ⟨hothers, (orderDrawn_eq hothers).symm.trans heq⟩

/-- Sequences of draws and allowed orders correspond one to one. -/
theorem bijOn_orderDrawn (questions : List Question) (respectSections : Bool) :
    Set.BijOn (orderDrawn questions respectSections)
      {draws | DrawsWithin (orderBounds questions respectSections) draws}
      {order | AllowedOrder questions respectSections order} :=
  bijOn_of_existsUnique allowedOrder_orderDrawn fun _ => AllowedOrder.existsUnique_draws

/-! ## The options of a question -/

namespace Question

/-- The bounds of the draws that are made when the options of a question are presented. -/
def optionBounds (q : Question) : List ℕ :=
  if q.body.randomizesOptions then drawBounds q.body.options.length else []

/-- The options of a question as they are presented when the given numbers are drawn. -/
def optionsDrawn (q : Question) (draws : List ℕ) : List Choice :=
  (q.presentedOptions (Replay.mk draws)).1

variable {q : Question}

/-- No number is drawn below zero for the options of a question. -/
theorem pos_of_mem_optionBounds {bound : ℕ} (h : bound ∈ q.optionBounds) : 0 < bound := by
  rw [optionBounds] at h
  split at h
  next => exact pos_of_mem_drawBounds h
  next => cases h

/-- The options are arranged by the draws, of which there are none where they are not shuffled. -/
theorem optionsDrawn_eq {draws : List ℕ} (h : DrawsWithin q.optionBounds draws) :
    q.optionsDrawn draws = arrange draws q.body.options := by
  by_cases hrandom : q.body.randomizesOptions = true
  · rw [optionBounds, if_pos hrandom] at h
    rw [optionsDrawn, presentedOptions, if_pos hrandom]
    exact congrArg (arrange ·.1 _) (drawAll_replay h)
  · rw [optionBounds, if_neg hrandom] at h
    obtain rfl := List.forall₂_nil_right_iff.1 h
    rw [optionsDrawn, presentedOptions, if_neg hrandom]
    rfl

/-- From any source, the options are presented in the order of the numbers that it gives, and no
other numbers are drawn. -/
theorem presentedOptions_eq_optionsDrawn [Source σ] (q : Question) (state : σ) :
    q.presentedOptions state =
      (q.optionsDrawn (Source.drawAll q.optionBounds state).1,
        (Source.drawAll q.optionBounds state).2) := by
  rw [optionsDrawn_eq (drawsWithin_drawAll (fun _ => pos_of_mem_optionBounds) state), optionBounds,
    presentedOptions]
  split <;> rfl

/-- Sequences of draws and orders of the options correspond one to one. Options that are not
shuffled have one order, for which nothing is drawn. -/
theorem bijOn_optionsDrawn (hnodup : q.body.options.Nodup) :
    Set.BijOn q.optionsDrawn {draws | DrawsWithin q.optionBounds draws}
      {order | order.Perm q.body.options ∧
        (q.body.randomizesOptions = false → order = q.body.options)} := by
  have harrange : Set.EqOn q.optionsDrawn (arrange · q.body.options)
      {draws | DrawsWithin q.optionBounds draws} := fun _ => optionsDrawn_eq
  rw [harrange.bijOn_iff]
  cases hrandom : q.body.randomizesOptions with
  | true => simpa [optionBounds, hrandom] using bijOn_arrange hnodup
  | false =>
    -- There is one sequence without draws, and one order that options may have.
    have hdraws : {draws | DrawsWithin q.optionBounds draws} = {[]} := by
      ext draws
      simp [optionBounds, hrandom, DrawsWithin]
    have horders : {order | order.Perm q.body.options ∧
        (false = false → order = q.body.options)} = {q.body.options} := by
      ext order
      exact ⟨fun h => h.2 rfl, fun h => ⟨.of_eq h, fun _ => h⟩⟩
    rw [hdraws, horders]
    exact Set.bijOn_singleton.2 rfl

end Question

end Questionnaire
