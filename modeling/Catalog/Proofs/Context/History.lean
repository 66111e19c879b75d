import Catalog.Proofs.Context.Tokens
import Mathlib.Logic.Relation

/-!
# Histories of contexts

Contexts are made, derived, copied, limited, given each other's tokens, and cancelled, in any order.
A history tells which token was derived from which, and which tokens were cancelled by way of a
context that held them at the time.

## Main definitions

* `ContextStep`, `Contexts.after` — an operation on contexts, and the contexts after a history.
* `IsHistory` — every operation is about contexts that are there.
* `WasCancelled`, `DerivedFrom`, `Descends` — what a history tells about tokens.

## Main results

* `tokenOf_append`, `timeout_append` — what a context keeps while it is not changed itself.
* `wasCancelled_concat_iff`, `derivedFrom_concat_iff` — what one more operation tells.
* `derivedFrom_append_iff` — what a token was derived from does not change.
-/

namespace Catalog

/-! ### Histories -/

/-- An operation on contexts, which are known by their positions. -/
inductive ContextStep where
  | create
  | derive (i : Nat)
  | duplicate (i : Nat)
  | limitTime (i : Nat) (limit : Duration)
  | share (i source : Nat)
  | cancel (i : Nat)
deriving DecidableEq, Repr

/-- The contexts that an operation is about. -/
def ContextStep.positions : ContextStep → List Nat
  | create => []
  | derive i | duplicate i | limitTime i _ | cancel i => [i]
  | share i source => [i, source]

namespace Contexts

variable {s : Contexts} {steps more : List ContextStep} {x : ContextStep} {i j t u : Nat}

/-- The contexts after an operation. -/
def step (s : Contexts) : ContextStep → Contexts
  | .create => s.create
  | .derive i => s.derive i
  | .duplicate i => s.duplicate i
  | .limitTime i limit => s.limitTime i limit
  | .share i source => s.share i source
  | .cancel i => s.cancel i

/-- The contexts after operations one after the other. -/
def after (steps : List ContextStep) : Contexts := steps.foldl step empty

theorem after_concat : after (steps ++ [x]) = (after steps).step x := by
  rw [after, List.foldl_append]
  rfl

/-- The number of contexts after a history. -/
def count (steps : List ContextStep) : Nat := (after steps).contexts.length

/-- The token that a context holds after a history. -/
def tokenOf (steps : List ContextStep) (i : Nat) : Nat := ((after steps).get i).token

/-- Whether a context is cancelled after a history. -/
def isCancelled (steps : List ContextStep) (i : Nat) : Bool := ((after steps).limits i).cancelled

/-- Every operation of the history is about contexts that are there. -/
inductive IsHistory : List ContextStep → Prop
  | nil : IsHistory []
  | concat {steps : List ContextStep} {x : ContextStep} (h : IsHistory steps)
    (hx : ∀ i ∈ x.positions, i < count steps) : IsHistory (steps ++ [x])

/-! ### What a history tells -/

/-- At some point of the history, an operation was one of those given, after the operations before
it. -/
def Happened (steps : List ContextStep) (P : List ContextStep → ContextStep → Prop) : Prop :=
  ∃ before x later, steps = before ++ x :: later ∧ P before x

/-- The token was cancelled: a context that held it at the time was. -/
def WasCancelled (steps : List ContextStep) (t : Nat) : Prop :=
  Happened steps fun before x => ∃ i, x = .cancel i ∧ tokenOf before i = t

/-- The token `t` was derived from the token `u`: it is that of a new context, which was derived
from one that held `u` at the time. -/
def DerivedFrom (steps : List ContextStep) (t u : Nat) : Prop :=
  Happened steps fun before x => ∃ i, x = .derive i ∧ tokenOf before i = u ∧
    tokenOf (before ++ [x]) (count before) = t

/-- The token `t` is the token `u`, or was derived from it through a chain of tokens. -/
def Descends (steps : List ContextStep) : Nat → Nat → Prop :=
  Relation.ReflTransGen (DerivedFrom steps)

theorem not_happened_nil {P : List ContextStep → ContextStep → Prop} : ¬ Happened [] P := by
  rintro ⟨before, x, later, heq, -⟩
  simp at heq

theorem happened_concat_iff {P : List ContextStep → ContextStep → Prop} :
    Happened (steps ++ [x]) P ↔ Happened steps P ∨ P steps x := by
  constructor
  · rintro ⟨before, y, later, heq, hP⟩
    rcases List.eq_nil_or_concat later with rfl | ⟨later, z, rfl⟩
    · obtain ⟨rfl, heq⟩ := List.append_inj' heq rfl
      obtain rfl : x = y := by simpa using heq
      exact Or.inr hP
    · rw [List.concat_eq_append, ← List.cons_append, ← List.append_assoc] at heq
      obtain ⟨rfl, -⟩ := List.append_inj' heq rfl
      exact Or.inl ⟨before, y, later, rfl, hP⟩
  · rintro (⟨before, y, later, rfl, hP⟩ | hP)
    · exact ⟨before, y, later ++ [x], by simp, hP⟩
    · exact ⟨steps, x, [], rfl, hP⟩

/-- What happened in a history happened in every longer one. -/
theorem Happened.append {P : List ContextStep → ContextStep → Prop} (h : Happened steps P) :
    Happened (steps ++ more) P := by
  obtain ⟨before, x, later, rfl, hP⟩ := h
  exact ⟨before, x, later ++ more, by simp, hP⟩

theorem Descends.append (h : Descends steps t u) : Descends (steps ++ more) t u :=
  Relation.ReflTransGen.mono (fun _ _ => Happened.append) _ _ h

/-! ### What an operation does -/

/-- A context that is added goes behind those that are there. -/
theorem get_concat {ts : List CancelToken} {cs : List Context} {c : Context} :
    get ⟨ts, cs ++ [c]⟩ j = if j = cs.length then c else get ⟨ts, cs⟩ j := by
  rw [get, get, List.getD_eq_getElem?_getD, List.getD_eq_getElem?_getD, getElem?_concat]
  split <;> rfl

theorem get_modify {ts : List CancelToken} {cs : List Context} {f : Context → Context}
    (hj : j < cs.length) :
    get ⟨ts, cs.modify i f⟩ j = if i = j then f (get ⟨ts, cs⟩ j) else get ⟨ts, cs⟩ j := by
  rw [get, get, List.getD_eq_getElem?_getD, List.getD_eq_getElem?_getD, List.getElem?_modify,
    List.getElem?_eq_getElem hj]
  split <;> rfl

/-- No operation takes a context away. -/
theorem length_contexts_step : s.contexts.length ≤ (s.step x).contexts.length := by
  cases x <;> simp [step, create, derive, duplicate, limitTime, share, cancel]

theorem count_le_append : count steps ≤ count (steps ++ more) := by
  induction more using List.reverseRecOn with
  | nil => simp
  | append_singleton more x ih =>
    rw [← List.append_assoc]
    refine Nat.le_trans ih ?_
    rw [count, count, after_concat]
    exact length_contexts_step

/-- A context keeps its token until it is given another one. -/
theorem token_get_step (hj : j < s.contexts.length) (hx : ∀ source, x ≠ .share j source) :
    ((s.step x).get j).token = (s.get j).token := by
  have hne : j ≠ s.contexts.length := Nat.ne_of_lt hj
  cases x with
  | create => exact congrArg Context.token (get_concat.trans (if_neg hne))
  | derive i => exact congrArg Context.token (get_concat.trans (if_neg hne))
  | duplicate i => exact congrArg Context.token (get_concat.trans (if_neg hne))
  | limitTime i limit =>
    rw [step, limitTime, get_modify hj]
    split <;> rfl
  | share i source =>
    rw [step, share, get_modify hj, if_neg]
    rintro rfl
    exact hx source rfl
  | cancel i => rfl

theorem token_get_share {source : Nat} (hj : j < s.contexts.length) :
    ((s.share j source).get j).token = (s.get source).token := by
  rw [share, get_modify hj, if_pos rfl]

/-- A context keeps its time limit until it gets another one. -/
theorem timeout_get_step (hj : j < s.contexts.length) (hx : ∀ limit, x ≠ .limitTime j limit) :
    ((s.step x).get j).timeout = (s.get j).timeout := by
  have hne : j ≠ s.contexts.length := Nat.ne_of_lt hj
  cases x with
  | create => exact congrArg Context.timeout (get_concat.trans (if_neg hne))
  | derive i => exact congrArg Context.timeout (get_concat.trans (if_neg hne))
  | duplicate i => exact congrArg Context.timeout (get_concat.trans (if_neg hne))
  | limitTime i limit =>
    rw [step, limitTime, get_modify hj, if_neg]
    rintro rfl
    exact hx limit rfl
  | share i source =>
    rw [step, share, get_modify hj]
    split <;> rfl
  | cancel i => rfl

/-- The context that is derived has a new token and the time limit of the one that it is derived
from. -/
theorem get_derive : (s.derive i).get s.contexts.length =
    ⟨s.tokens.length, (s.get i).timeout⟩ :=
  get_concat.trans (if_pos rfl)

theorem tokenOf_append (hj : j < count steps) (hmore : ∀ source, .share j source ∉ more) :
    tokenOf (steps ++ more) j = tokenOf steps j := by
  induction more using List.reverseRecOn with
  | nil => simp
  | append_singleton more x ih =>
    have hlt : j < count (steps ++ more) := Nat.lt_of_lt_of_le hj count_le_append
    rw [← List.append_assoc, tokenOf, after_concat, token_get_step hlt]
    · exact ih fun source hmem => hmore source (List.mem_append_left _ hmem)
    · exact fun source heq => hmore source (by simp [heq])

theorem timeout_append (hj : j < count steps) (hmore : ∀ limit, .limitTime j limit ∉ more) :
    ((after (steps ++ more)).get j).timeout = ((after steps).get j).timeout := by
  induction more using List.reverseRecOn with
  | nil => simp
  | append_singleton more x ih =>
    have hlt : j < count (steps ++ more) := Nat.lt_of_lt_of_le hj count_le_append
    rw [← List.append_assoc, after_concat, timeout_get_step hlt]
    · exact ih fun limit hmem => hmore limit (List.mem_append_left _ hmem)
    · exact fun limit heq => hmore limit (by simp [heq])

theorem length_tokens_step : s.tokens.length ≤ (s.step x).tokens.length := by
  cases x <;> simp [step, create, derive, duplicate, limitTime, share, cancel]

/-! ### One more operation -/

theorem wasCancelled_concat_iff : WasCancelled (steps ++ [x]) t ↔
    WasCancelled steps t ∨ ∃ i, x = .cancel i ∧ tokenOf steps i = t :=
  happened_concat_iff

theorem derivedFrom_concat_iff : DerivedFrom (steps ++ [x]) t u ↔
    DerivedFrom steps t u ∨
      ∃ i, x = .derive i ∧ tokenOf steps i = u ∧ (after steps).tokens.length = t := by
  refine happened_concat_iff.trans (or_congr_right (exists_congr fun i => ?_))
  refine and_congr_right fun hx => and_congr_right fun _ => ?_
  rw [tokenOf, after_concat, hx, step, count, get_derive]

/-- Only cancelling cancels. -/
theorem wasCancelled_concat_of_ne (hx : ∀ i, x ≠ .cancel i) :
    WasCancelled (steps ++ [x]) t ↔ WasCancelled steps t :=
  wasCancelled_concat_iff.trans (or_iff_left fun ⟨i, heq, _⟩ => hx i heq)

/-- Only deriving derives. -/
theorem derivedFrom_concat_of_ne (hx : ∀ i, x ≠ .derive i) :
    DerivedFrom (steps ++ [x]) t u ↔ DerivedFrom steps t u :=
  derivedFrom_concat_iff.trans (or_iff_left fun ⟨i, heq, _⟩ => hx i heq)

/-! ### Longer histories -/

theorem isHistory_concat_iff :
    IsHistory (steps ++ [x]) ↔ IsHistory steps ∧ ∀ i ∈ x.positions, i < count steps := by
  refine ⟨fun h => ?_, fun h => .concat h.1 h.2⟩
  generalize heq : steps ++ [x] = all at h
  cases h with
  | nil => simp at heq
  | concat h hx =>
    obtain ⟨rfl, hlast⟩ := List.append_inj' heq rfl
    obtain rfl := List.singleton_inj.mp hlast
    exact ⟨h, hx⟩

theorem IsHistory.of_append (h : IsHistory (steps ++ more)) : IsHistory steps := by
  induction more using List.reverseRecOn with
  | nil => rwa [List.append_nil] at h
  | append_singleton more x ih =>
    rw [← List.append_assoc, isHistory_concat_iff] at h
    exact ih h.1

/-- An operation in the middle of a history is about contexts that are there. -/
theorem IsHistory.lt_count (h : IsHistory (steps ++ x :: more)) (hi : i ∈ x.positions) :
    i < count steps := by
  rw [List.append_cons] at h
  exact (isHistory_concat_iff.mp h.of_append).2 i hi

theorem length_tokens_le_append :
    (after steps).tokens.length ≤ (after (steps ++ more)).tokens.length := by
  induction more using List.reverseRecOn with
  | nil => simp
  | append_singleton more x ih =>
    rw [← List.append_assoc, after_concat]
    exact Nat.le_trans ih length_tokens_step

/-- What a token was derived from does not change. -/
theorem derivedFrom_append_iff (ht : t < (after steps).tokens.length) :
    DerivedFrom (steps ++ more) t u ↔ DerivedFrom steps t u := by
  induction more using List.reverseRecOn with
  | nil => rw [List.append_nil]
  | append_singleton more x ih =>
    rw [← List.append_assoc, derivedFrom_concat_iff, ih, or_iff_left]
    rintro ⟨i, -, -, heq⟩
    exact absurd ht (Nat.not_lt.mpr (heq ▸ length_tokens_le_append))

end Contexts

end Catalog
