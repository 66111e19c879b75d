import Catalog.Proofs.Context.History

/-!
# Cancellation follows derivation

What became of the tokens is told by the history alone. A context is cancelled just when a token in
the line of its token was: its token, or one that it was derived from through a chain of tokens, be
it before or after the derivation.

## Main definitions

* `Records` — the tokens are what the history tells.
* `FollowsDerivation` — all that holds of cancellation after a history.

## Main results

* `Records.step`, `IsHistory.records` — every operation keeps to the history, and so do all
  histories.
* `IsHistory.isCancelled_iff` — which contexts are cancelled.
* `IsHistory.isCancelled_cancel_iff` — which contexts one more cancellation reaches.
* `followsDerivation` — **cancellation follows derivation.**
-/

namespace Catalog

namespace Contexts

variable {steps more : List ContextStep} {x : ContextStep} {i j t u : Nat}

/-! ### The tokens of a history -/

/-- The tokens are what the history tells. -/
structure Records (steps : List ContextStep) : Prop where
  held : ∀ i, i < count steps → tokenOf steps i < (after steps).tokens.length
  ordered : IsOrdered (after steps).tokens
  parentAt_iff : ∀ t u, parentAt (after steps).tokens t = some u ↔ DerivedFrom steps t u
  isCancelledAt_iff : ∀ t, isCancelledAt (after steps).tokens t ↔
    WasCancelled steps t ∨ ∃ u, DerivedFrom steps t u ∧ isCancelledAt (after steps).tokens u

theorem records_nil : Records [] where
  held := fun _ hi => absurd hi (Nat.not_lt_zero _)
  ordered := fun _ _ h => by simp [after, empty, parentAt] at h
  parentAt_iff := fun _ _ =>
    iff_of_false (by simp [after, empty, parentAt]) not_happened_nil
  isCancelledAt_iff := fun t => by
    refine iff_of_false (by simp [after, empty, isCancelledAt]) ?_
    rintro (h | ⟨u, h, -⟩)
    · exact not_happened_nil h
    · exact not_happened_nil h

/-- After an operation every context holds a token that is there. -/
theorem Records.held_concat (h : Records steps) (hx : ∀ i ∈ x.positions, i < count steps)
    (hj : j < count (steps ++ [x])) :
    tokenOf (steps ++ [x]) j < (after (steps ++ [x])).tokens.length := by
  rw [count, after_concat] at hj
  rw [tokenOf, after_concat]
  rcases Nat.lt_or_ge j (count steps) with hold | hnew
  · refine Nat.lt_of_lt_of_le ?_ length_tokens_step
    by_cases hshare : ∃ source, x = .share j source
    · obtain ⟨source, rfl⟩ := hshare
      rw [step, token_get_share hold]
      exact h.held source (hx source (by simp [ContextStep.positions]))
    · rw [token_get_step hold fun source heq => hshare ⟨source, heq⟩]
      exact h.held j hold
  · -- the context is a new one
    have hlast : ∀ {c : Context}, j < ((after steps).contexts ++ [c]).length →
        j = (after steps).contexts.length := by
      intro c hj
      rw [List.length_append, List.length_singleton] at hj
      exact Nat.le_antisymm (Nat.le_of_lt_succ hj) hnew
    cases x with
    | create =>
      rw [step, create, get_concat, if_pos (hlast hj)]
      simp
    | derive i =>
      rw [step, hlast hj, get_derive]
      simp [derive]
    | duplicate i =>
      rw [step, duplicate, get_concat, if_pos (hlast hj)]
      exact h.held i (hx i (by simp [ContextStep.positions]))
    | limitTime i limit =>
      exact absurd hj (by simpa [step, limitTime, count] using hnew)
    | share i source =>
      exact absurd hj (by simpa [step, share, count] using hnew)
    | cancel i =>
      exact absurd hj (by simpa [step, cancel, count] using hnew)

/-- The history tells nothing of a token that is still to come. -/
theorem Records.lt_length_of_wasCancelled (h : Records steps) (ht : WasCancelled steps t) :
    t < (after steps).tokens.length :=
  lt_length_of_isCancelledAt ((h.isCancelledAt_iff t).mpr (.inl ht))

theorem Records.lt_length_of_derivedFrom (h : Records steps) (ht : DerivedFrom steps t u) :
    t < (after steps).tokens.length :=
  lt_length_of_parentAt ((h.parentAt_iff t u).mpr ht)

/-- An operation that leaves the tokens as they are. -/
theorem Records.same (h : Records steps) (hx : ∀ i ∈ x.positions, i < count steps)
    (htokens : (after (steps ++ [x])).tokens = (after steps).tokens)
    (hderive : ∀ i, x ≠ .derive i) (hcancel : ∀ i, x ≠ .cancel i) : Records (steps ++ [x]) := by
  refine ⟨fun j => h.held_concat hx, ?_, fun t u => ?_, fun t => ?_⟩
  · rw [htokens]
    exact h.ordered
  · rw [htokens, derivedFrom_concat_of_ne hderive]
    exact h.parentAt_iff t u
  · simp only [htokens, derivedFrom_concat_of_ne hderive, wasCancelled_concat_of_ne hcancel]
    exact h.isCancelledAt_iff t

/-- An operation that adds a token, which is cancelled just when the one that it was derived from
is. -/
theorem Records.add (h : Records steps) (hx : ∀ i ∈ x.positions, i < count steps) {p : Option Nat}
    (htokens : (after (steps ++ [x])).tokens =
      (after steps).tokens ++ [⟨p, p.any (isCancelledAt (after steps).tokens)⟩])
    (hderive : ∀ u, p = some u ↔ ∃ i, x = .derive i ∧ tokenOf steps i = u)
    (hcancel : ∀ i, x ≠ .cancel i) : Records (steps ++ [x]) := by
  have hp : ∀ u, p = some u → u < (after steps).tokens.length := by
    intro u hu
    obtain ⟨i, rfl, rfl⟩ := (hderive u).mp hu
    exact h.held i (hx i (by simp [ContextStep.positions]))
  have hparent : ∀ t u, parentAt (after (steps ++ [x])).tokens t = some u ↔
      DerivedFrom (steps ++ [x]) t u := by
    intro t u
    rw [htokens, parentAt_concat, derivedFrom_concat_iff]
    by_cases ht : t = (after steps).tokens.length
    · have hnew : ¬ DerivedFrom steps t u := fun hu =>
        Nat.ne_of_lt (h.lt_length_of_derivedFrom hu) ht
      rw [if_pos ht, hderive, or_iff_right hnew]
      simp [ht]
    · rw [if_neg ht, h.parentAt_iff, or_iff_left]
      rintro ⟨i, -, -, heq⟩
      exact ht heq.symm
  refine ⟨fun j => h.held_concat hx, ?_, hparent, fun t => ?_⟩
  · rw [htokens, isOrdered_concat_iff]
    exact ⟨h.ordered, hp⟩
  · simp only [← hparent, htokens, parentAt_concat, wasCancelled_concat_of_ne hcancel]
    rw [isCancelledAt_concat]
    by_cases ht : t = (after steps).tokens.length
    · have hnew : ¬ WasCancelled steps t := fun hwas =>
        Nat.ne_of_lt (h.lt_length_of_wasCancelled hwas) ht
      rw [if_pos ht, if_pos ht, exists_isCancelledAt_concat_iff hp, or_iff_right hnew,
        Option.any_eq_true]
    · have hfront : ∀ u, parentAt (after steps).tokens t = some u →
          u < (after steps).tokens.length := fun u hu =>
        Nat.lt_trans (h.ordered t u hu) (lt_length_of_parentAt hu)
      rw [if_neg ht, if_neg ht, exists_isCancelledAt_concat_iff hfront, h.isCancelledAt_iff]
      simp only [h.parentAt_iff]

/-- Cancelling a token. -/
theorem Records.cancel (h : Records steps) (hi : i < count steps) :
    Records (steps ++ [.cancel i]) := by
  have htokens : (after (steps ++ [.cancel i])).tokens =
      cancelToken (after steps).tokens (tokenOf steps i) := by
    rw [after_concat]
    rfl
  have hderived : ∀ t u, DerivedFrom (steps ++ [.cancel i]) t u ↔ DerivedFrom steps t u :=
    fun t u => derivedFrom_concat_of_ne (by simp)
  have hcancelled : ∀ t, WasCancelled (steps ++ [.cancel i]) t ↔
      WasCancelled steps t ∨ tokenOf steps i = t := fun t =>
    wasCancelled_concat_iff.trans (or_congr_right (by simp))
  have hx : ∀ j ∈ (ContextStep.cancel i).positions, j < count steps := by
    simpa [ContextStep.positions] using hi
  refine ⟨fun j => h.held_concat hx, ?_, fun t u => ?_, fun t => ?_⟩
  · simpa only [htokens, IsOrdered, parentAt_cancelToken] using h.ordered
  · rw [htokens, parentAt_cancelToken, hderived]
    exact h.parentAt_iff t u
  · have hiff : ∀ t, isCancelledAt (cancelToken (after steps).tokens (tokenOf steps i)) t ↔
        isCancelledAt (after steps).tokens t ∨
          (t = tokenOf steps i ∧ t < (after steps).tokens.length) ∨
          ∃ u, DerivedFrom steps t u ∧
            isCancelledAt (cancelToken (after steps).tokens (tokenOf steps i)) u := by
      intro t
      simpa only [h.parentAt_iff] using isCancelledAt_cancelToken_iff h.ordered
    simp only [htokens, hderived, hcancelled]
    constructor
    · intro hflag
      rcases (hiff t).mp hflag with hold | ⟨heq, -⟩ | hparent
      · rcases (h.isCancelledAt_iff t).mp hold with hwas | ⟨u, hu, hflag⟩
        · exact .inl (.inl hwas)
        · exact .inr ⟨u, hu, (hiff u).mpr (.inl hflag)⟩
      · exact .inl (.inr heq.symm)
      · exact .inr hparent
    · rintro ((hwas | rfl) | hparent)
      · exact (hiff t).mpr (.inl ((h.isCancelledAt_iff t).mpr (.inl hwas)))
      · exact (hiff _).mpr (.inr (.inl ⟨rfl, h.held i hi⟩))
      · exact (hiff t).mpr (.inr (.inr hparent))

/-- Every operation keeps to the history. -/
theorem Records.step (h : Records steps) (hx : ∀ i ∈ x.positions, i < count steps) :
    Records (steps ++ [x]) := by
  cases x with
  | create =>
    refine h.add hx (p := none) (by rw [after_concat]; rfl) ?_ (by simp)
    simp
  | derive i =>
    refine h.add hx (p := some (tokenOf steps i)) (by rw [after_concat]; rfl) ?_ (by simp)
    simp
  | duplicate i => exact h.same hx (by rw [after_concat]; rfl) (by simp) (by simp)
  | limitTime i limit => exact h.same hx (by rw [after_concat]; rfl) (by simp) (by simp)
  | share i source => exact h.same hx (by rw [after_concat]; rfl) (by simp) (by simp)
  | cancel i => exact h.cancel (hx i (by simp [ContextStep.positions]))

/-- The tokens of every history are what it tells. -/
theorem IsHistory.records (h : IsHistory steps) : Records steps := by
  induction h with
  | nil => exact records_nil
  | concat _ hx ih => exact ih.step hx

/-! ### Lines of tokens -/

theorem IsHistory.derivedFrom_lt (h : IsHistory steps) (htu : DerivedFrom steps t u) : u < t :=
  h.records.ordered t u ((h.records.parentAt_iff t u).mpr htu)

/-- A token was derived from one token at most. -/
theorem IsHistory.derivedFrom_unique {w : Nat} (h : IsHistory steps) (hu : DerivedFrom steps t u)
    (hw : DerivedFrom steps t w) : u = w := by
  rw [← h.records.parentAt_iff] at hu hw
  exact Option.some.inj (hu.symm.trans hw)

theorem IsHistory.descends_le (h : IsHistory steps) (htu : Descends steps t u) : u ≤ t := by
  induction htu with
  | refl => exact Nat.le_refl _
  | tail _ hlast ih => exact Nat.le_trans (Nat.le_of_lt (h.derivedFrom_lt hlast)) ih

/-- The tokens that are cancelled after a history. -/
theorem IsHistory.isCancelledAt_iff (h : IsHistory steps) :
    isCancelledAt (after steps).tokens t ↔ ∃ u, Descends steps t u ∧ WasCancelled steps u := by
  have hflag := h.records.isCancelledAt_iff
  constructor
  · -- a token comes after the one that it was derived from
    induction t using Nat.strongRecOn with
    | _ t ih =>
      intro ht
      rcases (hflag t).mp ht with hwas | ⟨w, hw, hcancelled⟩
      · exact ⟨t, .refl, hwas⟩
      · obtain ⟨u, hu, hwas⟩ := ih w (h.derivedFrom_lt hw) hcancelled
        exact ⟨u, .head hw hu, hwas⟩
  · rintro ⟨u, htu, hwas⟩
    induction htu using Relation.ReflTransGen.head_induction_on with
    | refl => exact (hflag u).mpr (.inl hwas)
    | head hstep _ ih => exact (hflag _).mpr (.inr ⟨_, hstep, ih⟩)

/-- The contexts that are cancelled after a history. -/
theorem IsHistory.isCancelled_iff (h : IsHistory steps) : isCancelled steps i ↔
    ∃ u, Descends steps (tokenOf steps i) u ∧ WasCancelled steps u :=
  h.isCancelledAt_iff

theorem IsHistory.descends_append_iff (h : IsHistory (steps ++ more))
    (ht : t < (after steps).tokens.length) :
    Descends (steps ++ more) t u ↔ Descends steps t u := by
  refine ⟨fun htu => ?_, Descends.append⟩
  induction htu using Relation.ReflTransGen.head_induction_on with
  | refl => exact .refl
  | head hstep _ ih =>
    have hlt := h.derivedFrom_lt hstep
    exact .head ((derivedFrom_append_iff ht).mp hstep) (ih (Nat.lt_trans hlt ht))

/-! ### What cancelling a context does -/

/-- Cancelling a context reaches just the contexts whose tokens descend from its token. -/
theorem IsHistory.isCancelled_cancel_iff (h : IsHistory steps) (hi : i < count steps) :
    isCancelled (steps ++ [.cancel i]) j ↔
      isCancelled steps j ∨ Descends steps (tokenOf steps j) (tokenOf steps i) := by
  have hcancel : IsHistory (steps ++ [.cancel i]) :=
    .concat h (by simpa [ContextStep.positions] using hi)
  have htoken : tokenOf (steps ++ [.cancel i]) j = tokenOf steps j := by
    rw [tokenOf, after_concat]
    rfl
  have hdescends : ∀ t u, Descends (steps ++ [.cancel i]) t u ↔ Descends steps t u := by
    have hderived : DerivedFrom (steps ++ [.cancel i]) = DerivedFrom steps := by
      funext t u
      exact propext (derivedFrom_concat_of_ne (by simp))
    simp [Descends, hderived]
  have hwas : ∀ t, WasCancelled (steps ++ [.cancel i]) t ↔
      WasCancelled steps t ∨ tokenOf steps i = t := fun t =>
    wasCancelled_concat_iff.trans (or_congr_right (by simp))
  calc isCancelled (steps ++ [.cancel i]) j = true
    _ ↔ ∃ u, Descends steps (tokenOf steps j) u ∧
          (WasCancelled steps u ∨ tokenOf steps i = u) := by
      refine hcancel.isCancelled_iff.trans (exists_congr fun u => ?_)
      rw [hwas, hdescends, htoken]
    _ ↔ (∃ u, Descends steps (tokenOf steps j) u ∧ WasCancelled steps u) ∨
          Descends steps (tokenOf steps j) (tokenOf steps i) := by
      simp only [and_or_left, exists_or, exists_eq_right']
    _ ↔ _ := or_congr_left h.isCancelled_iff.symm

/-- A context whose token does not descend from the one that is cancelled is spared. -/
theorem IsHistory.isCancelled_cancel_eq (h : IsHistory steps) (hi : i < count steps)
    (hj : ¬ Descends steps (tokenOf steps j) (tokenOf steps i)) :
    isCancelled (steps ++ [.cancel i]) j = isCancelled steps j :=
  Bool.eq_iff_iff.mpr ((h.isCancelled_cancel_iff hi).trans (or_iff_left hj))

/-- No token descends from one that was derived from it. -/
theorem IsHistory.not_descends_of_descends (h : IsHistory steps) (htu : Descends steps t u)
    (hne : t ≠ u) : ¬ Descends steps u t := fun hut =>
  hne (Nat.le_antisymm (h.descends_le hut) (h.descends_le htu))

/-- No token descends from another one that was derived from the same token. -/
theorem IsHistory.not_descends_of_derivedFrom {w : Nat} (h : IsHistory steps)
    (ht : DerivedFrom steps t w) (hu : DerivedFrom steps u w) (hne : t ≠ u) :
    ¬ Descends steps u t := by
  intro hut
  rcases Relation.ReflTransGen.cases_head hut with heq | ⟨w', hw', hline⟩
  · exact hne heq.symm
  · -- the line goes by way of the common token, which comes before both
    obtain rfl := h.derivedFrom_unique hu hw'
    exact absurd (h.derivedFrom_lt ht) (Nat.not_lt.mpr (h.descends_le hline))

/-! ### All that holds -/

/-- All that holds of cancellation after a history. -/
structure FollowsDerivation (steps : List ContextStep) : Prop where
  /-- A context is cancelled just when a token in the line of its token was. -/
  isCancelled_iff : ∀ i, i < count steps → (isCancelled steps i ↔
    ∃ u, Descends steps (tokenOf steps i) u ∧ WasCancelled steps u)
  /-- A context that is cancelled stays cancelled, as long as it is not given another token. -/
  stays : ∀ more i, IsHistory (steps ++ more) → i < count steps →
    (∀ source, .share i source ∉ more) → isCancelled steps i → isCancelled (steps ++ more) i
  /-- Whatever context holds its token later on is cancelled too. -/
  token_stays : ∀ more i j, IsHistory (steps ++ more) → i < count steps →
    j < count (steps ++ more) → tokenOf (steps ++ more) j = tokenOf steps i →
    isCancelled steps i → isCancelled (steps ++ more) j
  /-- Cancelling a context reaches just the contexts whose tokens descend from its token. -/
  reaches_iff : ∀ i j, i < count steps → j < count steps →
    (isCancelled (steps ++ [.cancel i]) j ↔
      isCancelled steps j ∨ Descends steps (tokenOf steps j) (tokenOf steps i))
  /-- It does not reach a context with a token that the token was derived from. -/
  spares_parent : ∀ i j, i < count steps → j < count steps → tokenOf steps i ≠ tokenOf steps j →
    Descends steps (tokenOf steps i) (tokenOf steps j) →
    isCancelled (steps ++ [.cancel i]) j = isCancelled steps j
  /-- It does not reach a context with another token that was derived from the same token. -/
  spares_sibling : ∀ i j t, i < count steps → j < count steps → tokenOf steps i ≠ tokenOf steps j →
    DerivedFrom steps (tokenOf steps i) t → DerivedFrom steps (tokenOf steps j) t →
    isCancelled (steps ++ [.cancel i]) j = isCancelled steps j
  /-- It does not reach a context that was given another token, one that did not descend from the
  token that is cancelled, whatever the context held before. -/
  spares_replaced : ∀ more i j source, IsHistory (steps ++ .share j source :: more) →
    (∀ other, .share j other ∉ more) → i < count (steps ++ .share j source :: more) →
    ¬ Descends steps (tokenOf steps source) (tokenOf (steps ++ .share j source :: more) i) →
    isCancelled (steps ++ .share j source :: more ++ [.cancel i]) j =
      isCancelled (steps ++ .share j source :: more) j
  /-- Nothing runs in a cancelled context, whatever it would come to and whatever the time limit. -/
  refuses : ∀ i, i < count steps →
    (∃ u, Descends steps (tokenOf steps i) u ∧ WasCancelled steps u) →
    ∀ (α : Type) (computation : Option (Except Error α)),
      ((after steps).limits i).run computation = some (.error .cancelled)
  /-- A context that is derived keeps the time limit of the other one at that time, as long as it is
  not given another limit. -/
  keeps_timeout : ∀ more i, IsHistory (steps ++ .derive i :: more) →
    (∀ limit, .limitTime (count steps) limit ∉ more) →
    ((after (steps ++ .derive i :: more)).limits (count steps)).timeout =
      ((after steps).limits i).timeout

theorem isCancelled_append (h : IsHistory (steps ++ more))
    (htoken : tokenOf (steps ++ more) j = tokenOf steps i) (hi : isCancelled steps i) :
    isCancelled (steps ++ more) j := by
  obtain ⟨u, hline, hwas⟩ := h.of_append.isCancelled_iff.mp hi
  exact h.isCancelled_iff.mpr ⟨u, htoken ▸ hline.append, hwas.append⟩

theorem tokenOf_share {source : Nat} (h : IsHistory (steps ++ .share j source :: more))
    (hmore : ∀ other, .share j other ∉ more) :
    tokenOf (steps ++ .share j source :: more) j = tokenOf steps source := by
  have hj : j < count steps := h.lt_count (by simp [ContextStep.positions])
  rw [List.append_cons, tokenOf_append (Nat.lt_of_lt_of_le hj count_le_append) hmore, tokenOf,
    after_concat, step, token_get_share hj, tokenOf]

/-- **Cancellation follows derivation.** -/
theorem followsDerivation (h : IsHistory steps) : FollowsDerivation steps where
  isCancelled_iff := fun _ _ => h.isCancelled_iff
  stays := fun more i hmore hi hshare =>
    isCancelled_append hmore (tokenOf_append hi hshare)
  token_stays := fun more i j hmore _ _ => isCancelled_append hmore
  reaches_iff := fun _ _ hi _ => h.isCancelled_cancel_iff hi
  spares_parent := fun _ _ hi _ hne hline =>
    h.isCancelled_cancel_eq hi (h.not_descends_of_descends hline hne)
  spares_sibling := fun _ _ _ hi _ hne hti htj =>
    h.isCancelled_cancel_eq hi (h.not_descends_of_derivedFrom hti htj hne)
  spares_replaced := by
    intro more i j source hafter hmore hi hapart
    have hsource : source < count steps := hafter.lt_count (by simp [ContextStep.positions])
    refine hafter.isCancelled_cancel_eq hi ?_
    rwa [tokenOf_share hafter hmore, hafter.descends_append_iff (h.records.held _ hsource)]
  refuses := by
    intro i _ hline α computation
    have hcancelled : ((after steps).limits i).cancelled := h.isCancelled_iff.mpr hline
    exact if_pos hcancelled
  keeps_timeout := by
    intro more i hafter hmore
    have hnew : count steps < count (steps ++ [.derive i]) := by
      rw [count, count, after_concat]
      simp [step, derive]
    rw [List.append_cons, limits, timeout_append hnew hmore, after_concat, step, count, get_derive,
      limits]

/-- A line of three contexts. The one in the middle is given the token of another one before the
first one is cancelled. -/
def familyHistory : List ContextStep :=
  [.create, .derive 0, .derive 1, .create, .share 1 3, .cancel 0]

theorem followsDerivation_family : IsHistory familyHistory ∧
    (∃ u, Descends familyHistory (tokenOf familyHistory 2) u ∧ WasCancelled familyHistory u) ∧
    ((after familyHistory).limits 2).run (some (.ok ())) = some (.error .cancelled) ∧
    isCancelled familyHistory 1 = isCancelled familyHistory.dropLast 1 ∧
    (List.range 4).map (isCancelled familyHistory) = [true, false, true, false] := by
  have hbefore : IsHistory [.create, .derive 0, .derive 1, .create] :=
    ((((IsHistory.nil.concat (x := .create) (by decide)).concat (x := .derive 0)
      (by decide)).concat (x := .derive 1) (by decide)).concat (x := .create) (by decide))
  have hshared : IsHistory [.create, .derive 0, .derive 1, .create, .share 1 3] :=
    hbefore.concat (x := .share 1 3) (by decide)
  have hafter : IsHistory familyHistory := hshared.concat (x := .cancel 0) (by decide)
  have hline := ((followsDerivation hafter).isCancelled_iff 2 (by decide)).mp (by decide)
  -- the token of the last context was not derived from any other
  have hapart : ¬ Descends [.create, .derive 0, .derive 1, .create] 3 0 := by
    intro hdescends
    rcases Relation.ReflTransGen.cases_head hdescends with heq | ⟨w, hw, -⟩
    · exact absurd heq (by decide)
    · have hparent := (hbefore.records.parentAt_iff 3 w).mpr hw
      cases hparent
  have hspared := (followsDerivation hbefore).spares_replaced [] 0 1 3 hshared (by simp)
    (by decide) hapart
  exact ⟨hafter, hline, (followsDerivation hafter).refuses 2 (by decide) hline Unit _, hspared,
    by decide⟩

end Contexts

end Catalog
