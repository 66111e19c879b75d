import Catalog.Error
import Catalog.Image.Manifest
import Catalog.Web.Exchange

/-!
# Lookups

A lookup is a computation that asks the outside world: for pages of the web, and for the
configurations of images. It is a finite tree of questions, so what it asks, in which order and how
often does not depend on who answers.

## Main definitions

* `Lookup` — a computation with questions.
* `World` — who answers.
* `Lookup.run` — the result of a lookup in a world, and what was asked.
* `Lookup.resolveImages` — the lookup with questions for images answered by other lookups.
-/

namespace Catalog

/-- A computation that asks the outside world. -/
inductive Lookup (α : Type) where
  | done (result : α)
  | page (request : Web.Request) (next : Web.Reply → Lookup α)
  | image (reference : ImageReference) (next : Except FetchError ImageConfig → Lookup α)

namespace Lookup

variable {α β : Type}

/-- One lookup after another. -/
def bind : Lookup α → (α → Lookup β) → Lookup β
  | done a, f => f a
  | page r next, f => page r fun reply => (next reply).bind f
  | image r next, f => image r fun reply => (next reply).bind f

instance : Monad Lookup where
  pure := done
  bind := bind

/-- Asks for a page. A request that leads nowhere fails without asking. -/
def ask (request : Web.Request) : Lookup Web.Reply :=
  match request.target with
  | .ok _ => page request done
  | .error failure => done (.error failure)

/-- The lookup in which questions for images are answered by other lookups. -/
def resolveImages (fetch : ImageReference → Lookup (Except FetchError ImageConfig)) :
    Lookup α → Lookup α
  | done a => done a
  | page r next => page r fun reply => (next reply).resolveImages fetch
  | image r next => (fetch r).bind fun reply => (next reply).resolveImages fetch

@[simp] theorem pure_eq (a : α) : (pure a : Lookup α) = done a := rfl

@[simp] theorem bind_eq (x : Lookup α) (f : α → Lookup β) : x >>= f = x.bind f := rfl

@[simp] theorem bind_done (x : Lookup α) : x.bind done = x := by
  induction x with
  | done _ => rfl
  | page _ _ ih => simp [bind, ih]
  | image _ _ ih => simp [bind, ih]

theorem bind_assoc {γ : Type} (x : Lookup α) (f : α → Lookup β) (g : β → Lookup γ) :
    (x.bind f).bind g = x.bind fun a => (f a).bind g := by
  induction x with
  | done _ => rfl
  | page _ _ ih => simp [bind, ih]
  | image _ _ ih => simp [bind, ih]

end Lookup

/-- What was asked, in order. -/
structure Lookup.Trace where
  pages : List Web.Request
  images : List ImageReference
deriving DecidableEq, Repr, Inhabited

/-- Who answers the questions of lookups. An answer may depend on what was asked before, and may
never come. -/
structure World where
  page : Lookup.Trace → Web.Request → Option Web.Reply
  image : Lookup.Trace → ImageReference → Option (Except FetchError ImageConfig)

namespace Lookup

/-- The result of a lookup, unless an answer never comes, and what was asked, following what was
asked before. -/
def runAfter {α : Type} (w : World) : Lookup α → Trace → Option α × Trace
  | done a, trace => (some a, trace)
  | page r next, trace =>
    let asked := { trace with pages := trace.pages ++ [r] }
    match w.page trace r with
    | some reply => (next reply).runAfter w asked
    | none => (none, asked)
  | image r next, trace =>
    let asked := { trace with images := trace.images ++ [r] }
    match w.image trace r with
    | some reply => (next reply).runAfter w asked
    | none => (none, asked)

/-- The result of a lookup, unless an answer never comes, and what was asked. -/
def run {α : Type} (w : World) (x : Lookup α) : Option α × Trace := x.runAfter w ⟨[], []⟩

end Lookup

end Catalog
