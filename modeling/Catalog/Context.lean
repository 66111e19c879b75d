import Catalog.Error

/-!
# Contexts

A caller limits what it starts by a context: a token that cancels, and a time limit. Tokens are
derived from each other; to cancel one cancels all that were derived from it, at once and for good.
Several contexts can hold one token.

## Main definitions

* `CancelToken` — a token, by the one it was derived from.
* `cancelToken` — the tokens after one of them is cancelled.
* `Limits` — what holds for one computation.
* `Contexts` — tokens, and the contexts that hold them.
-/

namespace Catalog

/-! ### Computations under limits -/

/-- What holds for a computation when it is started. -/
structure Limits where
  cancelled : Bool
  timeout : Option Duration
deriving DecidableEq, Repr, Inhabited

namespace Limits

/-- The limits of a computation that may run as long as it wants. -/
def unlimited : Limits := ⟨false, none⟩

/-- What a computation comes to under limits, where `none` is one that never ends by itself. -/
def run {α : Type} (l : Limits) (computation : Option (Except Error α)) :
    Option (Except Error α) :=
  if l.cancelled then some (.error .cancelled)
  else
    match computation with
    | some result => some result
    | none => l.timeout.map fun limit => .error (.timeout limit)

end Limits

/-! ### Tokens -/

/-- A token. Tokens are known by their positions; a token comes after the one it was derived
from. -/
structure CancelToken where
  parent : Option Nat
  cancelled : Bool
deriving DecidableEq, Repr, Inhabited

/-- Whether the token at a position is cancelled. -/
def isCancelledAt (tokens : List CancelToken) (t : Nat) : Bool := tokens[t]?.any (·.cancelled)

/-- Cancels a token and what was derived from it among the tokens that follow those done. -/
def cancelAfter (t : Nat) (done : List CancelToken) : List CancelToken → List CancelToken
  | [] => done
  | c :: cs =>
    let cancelled := c.cancelled || done.length == t || c.parent.any (isCancelledAt done)
    cancelAfter t (done ++ [{ c with cancelled }]) cs

/-- The tokens after one of them is cancelled. -/
def cancelToken (tokens : List CancelToken) (t : Nat) : List CancelToken := cancelAfter t [] tokens

/-! ### Contexts -/

/-- A token and a time limit. -/
structure Context where
  token : Nat
  timeout : Option Duration
deriving DecidableEq, Repr, Inhabited

/-- Tokens, and the contexts that hold them. Contexts are known by their positions. -/
structure Contexts where
  tokens : List CancelToken
  contexts : List Context
deriving DecidableEq, Repr, Inhabited

namespace Contexts

/-- No contexts at all. -/
def empty : Contexts := ⟨[], []⟩

/-- The context at a position. -/
def get (s : Contexts) (i : Nat) : Context := s.contexts.getD i default

/-- What holds for a computation that is started in a context. -/
def limits (s : Contexts) (i : Nat) : Limits :=
  ⟨isCancelledAt s.tokens (s.get i).token, (s.get i).timeout⟩

/-- Adds a context with a token of its own and without a time limit. -/
def create (s : Contexts) : Contexts :=
  ⟨s.tokens ++ [⟨none, false⟩], s.contexts ++ [⟨s.tokens.length, none⟩]⟩

/-- Adds a context with a token derived from that of another one, and with the same time limit. -/
def derive (s : Contexts) (i : Nat) : Contexts :=
  let c := s.get i
  ⟨s.tokens ++ [⟨some c.token, isCancelledAt s.tokens c.token⟩],
    s.contexts ++ [⟨s.tokens.length, c.timeout⟩]⟩

/-- Adds a context with the token and the time limit of another one. -/
def duplicate (s : Contexts) (i : Nat) : Contexts :=
  { s with contexts := s.contexts ++ [s.get i] }

/-- Sets the time limit of a context. -/
def limitTime (s : Contexts) (i : Nat) (limit : Duration) : Contexts :=
  { s with contexts := s.contexts.modify i fun c => { c with timeout := some limit } }

/-- Gives a context the token of another one. -/
def share (s : Contexts) (i source : Nat) : Contexts :=
  { s with contexts := s.contexts.modify i fun c => { c with token := (s.get source).token } }

/-- Cancels the token of a context. -/
def cancel (s : Contexts) (i : Nat) : Contexts :=
  { s with tokens := cancelToken s.tokens (s.get i).token }

end Contexts

end Catalog
