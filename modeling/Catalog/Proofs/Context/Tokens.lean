import Catalog.Context
import Mathlib.Data.List.Induction

/-!
# Cancelling tokens

What cancelling does to the tokens, one token at a time: a token is cancelled afterwards when it was
before, when it is the one, or when the token that it was derived from is.

## Main definitions

* `parentAt` — the token that a token was derived from.
* `IsOrdered` — every token comes after the one that it was derived from.

## Main results

* `isCancelledAt_cancelToken_iff` — the tokens that are cancelled after one of them was.
-/

namespace Catalog

variable {ts : List CancelToken} {c : CancelToken} {t u j : Nat}

/-- The token that a token was derived from. -/
def parentAt (ts : List CancelToken) (t : Nat) : Option Nat := ts[t]?.bind (·.parent)

/-- Every token comes after the one that it was derived from. -/
def IsOrdered (ts : List CancelToken) : Prop := ∀ t u, parentAt ts t = some u → u < t

theorem lt_length_of_isCancelledAt (h : isCancelledAt ts j) : j < ts.length := by
  by_contra hge
  simp [isCancelledAt, List.getElem?_eq_none (Nat.le_of_not_lt hge)] at h

theorem lt_length_of_parentAt (h : parentAt ts j = some u) : j < ts.length := by
  by_contra hge
  simp [parentAt, List.getElem?_eq_none (Nat.le_of_not_lt hge)] at h

/-! ### One more token -/

theorem getElem?_concat {α : Type} {l : List α} {a : α} :
    (l ++ [a])[j]? = if j = l.length then some a else l[j]? := by
  split
  · next heq => simp [heq]
  · next hne =>
    rcases Nat.lt_or_gt_of_ne hne with hlt | hgt
    · rw [List.getElem?_append_left hlt]
    · rw [List.getElem?_eq_none (by simp; omega), List.getElem?_eq_none (by omega)]

theorem isCancelledAt_concat : isCancelledAt (ts ++ [c]) j =
    if j = ts.length then c.cancelled else isCancelledAt ts j := by
  rw [isCancelledAt, getElem?_concat]
  split <;> rfl

theorem parentAt_concat : parentAt (ts ++ [c]) j =
    if j = ts.length then c.parent else parentAt ts j := by
  rw [parentAt, getElem?_concat]
  split <;> rfl

/-- One more token makes no difference to those in front of it. -/
theorem exists_isCancelledAt_concat_iff {o : Option Nat} (ho : ∀ u, o = some u → u < ts.length) :
    (∃ u, o = some u ∧ isCancelledAt (ts ++ [c]) u) ↔ ∃ u, o = some u ∧ isCancelledAt ts u := by
  refine exists_congr fun u => and_congr_right fun hu => ?_
  rw [isCancelledAt_concat, if_neg (Nat.ne_of_lt (ho u hu))]

theorem isOrdered_concat_iff :
    IsOrdered (ts ++ [c]) ↔ IsOrdered ts ∧ ∀ u, c.parent = some u → u < ts.length := by
  simp only [IsOrdered, parentAt_concat]
  constructor
  · intro h
    refine ⟨fun t u htu => ?_, fun u hu => h ts.length u (by rw [if_pos rfl, hu])⟩
    exact h t u (by rw [if_neg (Nat.ne_of_lt (lt_length_of_parentAt htu)), htu])
  · rintro ⟨h, hc⟩ t u htu
    split at htu
    · next heq => exact heq ▸ hc u htu
    · exact h t u htu

/-! ### Cancelling -/

/-- The token with the flag that it gets when the token `t` is cancelled and the tokens before it
have come to be `ts`. -/
def cancelNext (ts : List CancelToken) (t : Nat) (c : CancelToken) : CancelToken :=
  { c with cancelled := c.cancelled || ts.length == t || c.parent.any (isCancelledAt ts) }

theorem cancelAfter_concat {done : List CancelToken} : cancelAfter t done (ts ++ [c]) =
    cancelAfter t done ts ++ [cancelNext (cancelAfter t done ts) t c] := by
  induction ts generalizing done with
  | nil => rfl
  | cons d ts ih =>
    rw [List.cons_append, cancelAfter, cancelAfter]
    exact ih

theorem cancelToken_concat :
    cancelToken (ts ++ [c]) t = cancelToken ts t ++ [cancelNext (cancelToken ts t) t c] :=
  cancelAfter_concat

@[simp] theorem length_cancelToken : (cancelToken ts t).length = ts.length := by
  induction ts using List.reverseRecOn with
  | nil => rfl
  | append_singleton ts c ih => rw [cancelToken_concat, List.length_append, ih]; simp

/-- Cancelling leaves tokens derived from what they were. -/
@[simp] theorem parentAt_cancelToken : parentAt (cancelToken ts t) j = parentAt ts j := by
  induction ts using List.reverseRecOn with
  | nil => rfl
  | append_singleton ts c ih =>
    rw [cancelToken_concat, parentAt_concat, parentAt_concat, length_cancelToken, ih]
    rfl

theorem isCancelledAt_cancelToken_concat : isCancelledAt (cancelToken (ts ++ [c]) t) j =
    if j = ts.length then (cancelNext (cancelToken ts t) t c).cancelled
    else isCancelledAt (cancelToken ts t) j := by
  rw [cancelToken_concat, isCancelledAt_concat, length_cancelToken]

theorem cancelled_cancelNext_iff : (cancelNext ts t c).cancelled ↔
    c.cancelled ∨ ts.length = t ∨ ∃ u, c.parent = some u ∧ isCancelledAt ts u := by
  simp [cancelNext, Option.any_eq_true, or_assoc]

/-- The tokens that are cancelled after one of them was. -/
theorem isCancelledAt_cancelToken_iff (h : IsOrdered ts) :
    isCancelledAt (cancelToken ts t) j ↔ isCancelledAt ts j ∨ (j = t ∧ j < ts.length) ∨
      ∃ u, parentAt ts j = some u ∧ isCancelledAt (cancelToken ts t) u := by
  induction ts using List.reverseRecOn with
  | nil => simp [cancelToken, cancelAfter, isCancelledAt, parentAt]
  | append_singleton ts c ih =>
    obtain ⟨hts, hc⟩ := isOrdered_concat_iff.mp h
    -- the tokens that others were derived from are all in front of the last one
    have hfront : ∀ o : Option Nat, (∀ u, o = some u → u < ts.length) →
        ((∃ u, o = some u ∧ isCancelledAt (cancelToken (ts ++ [c]) t) u) ↔
          ∃ u, o = some u ∧ isCancelledAt (cancelToken ts t) u) := by
      intro o ho
      rw [cancelToken_concat]
      exact exists_isCancelledAt_concat_iff (by rwa [length_cancelToken])
    rw [isCancelledAt_cancelToken_concat, isCancelledAt_concat, parentAt_concat]
    by_cases hj : j = ts.length
    · have hlt : j < (ts ++ [c]).length := by simp [hj]
      rw [if_pos hj, if_pos hj, if_pos hj, hfront c.parent hc, cancelled_cancelNext_iff,
        length_cancelToken, and_iff_left hlt, hj]
    · have hlt : j < (ts ++ [c]).length ↔ j < ts.length := by simp; omega
      have hparent : ∀ u, parentAt ts j = some u → u < ts.length := fun u hu =>
        Nat.lt_trans (hts j u hu) (lt_length_of_parentAt hu)
      rw [if_neg hj, if_neg hj, if_neg hj, hfront _ hparent, hlt, ih hts]

end Catalog
