import Catalog.Web.Lookup

/-!
# Transcripts of lookups

What a lookup asks and what it gets back, in order. The requests of a run are those of its
transcript, and what can be said about every sequence of replies can be said about every world,
however its replies depend on what was asked before.

## Main definitions

* `Web.Exchange` — a request and the reply to it.
* `Lookup.exchanges` — the transcript of a run.
* `Lookup.Runs` — a lookup goes through exchanges to a result, whoever replies.

## Main results

* `Lookup.pages_run` — the requests of a run are those of its transcript.
* `Lookup.runs_run` — **a run goes through its transcript.**
* `Lookup.Runs.of_bind`, `Lookup.Runs.of_ask` — what one lookup after another goes through.
-/

namespace Catalog

/-- A request and the reply to it, unless it never comes. -/
structure Web.Exchange where
  request : Web.Request
  reply : Option Web.Reply
deriving Inhabited

namespace Lookup

variable {α β : Type} {a : α} {x : Lookup α} {f : α → Lookup β} {es : List Web.Exchange}
  {o : Option α} {q : Web.Request}

/-- What a lookup asks for and gets back, following what was asked before. -/
def exchangesAfter (w : World) : Lookup α → Trace → List Web.Exchange
  | done _, _ => []
  | page q next, trace =>
    ⟨q, w.page trace q⟩ ::
      match w.page trace q with
      | some reply => (next reply).exchangesAfter w { trace with pages := trace.pages ++ [q] }
      | none => []
  | image r next, trace =>
    match w.image trace r with
    | some reply => (next reply).exchangesAfter w { trace with images := trace.images ++ [r] }
    | none => []

/-- What a lookup asks for and gets back. -/
def exchanges (w : World) (x : Lookup α) : List Web.Exchange := x.exchangesAfter w ⟨[], []⟩

theorem pages_runAfter (w : World) (x : Lookup α) (trace : Trace) :
    (x.runAfter w trace).2.pages = trace.pages ++ (x.exchangesAfter w trace).map (·.request) := by
  induction x generalizing trace with
  | done a => simp [runAfter, exchangesAfter]
  | page q next ih =>
    rw [runAfter, exchangesAfter]
    cases w.page trace q with
    | none => rfl
    | some reply => simp [ih]
  | image r next ih =>
    rw [runAfter, exchangesAfter]
    cases w.image trace r with
    | none => simp
    | some reply => exact ih reply _

/-- The requests of a run are those of its transcript. -/
theorem pages_run (w : World) (x : Lookup α) :
    (x.run w).2.pages = (x.exchanges w).map (·.request) := by
  rw [run, exchanges, pages_runAfter, List.nil_append]

/-! ### Any replies -/

/-- A lookup goes through exchanges to a result, or to a question that is never answered. -/
inductive Runs : Lookup α → List Web.Exchange → Option α → Prop
  | done (a : α) : Runs (done a) [] (some a)
  | page {q : Web.Request} {next : Web.Reply → Lookup α} {reply : Web.Reply}
    {es : List Web.Exchange} {o : Option α} (rest : Runs (next reply) es o) :
    Runs (page q next) (⟨q, some reply⟩ :: es) o
  | pageUnanswered {q : Web.Request} {next : Web.Reply → Lookup α} :
    Runs (.page q next) [⟨q, none⟩] none
  | image {r : ImageReference} {next : Except FetchError ImageConfig → Lookup α}
    {reply : Except FetchError ImageConfig} {es : List Web.Exchange} {o : Option α}
    (rest : Runs (next reply) es o) : Runs (image r next) es o
  | imageUnanswered {r : ImageReference} {next : Except FetchError ImageConfig → Lookup α} :
    Runs (.image r next) [] none

theorem runs_runAfter (w : World) (x : Lookup α) (trace : Trace) :
    x.Runs (x.exchangesAfter w trace) (x.runAfter w trace).1 := by
  induction x generalizing trace with
  | done a => exact .done a
  | page q next ih =>
    rw [runAfter, exchangesAfter]
    cases w.page trace q with
    | none => exact .pageUnanswered
    | some reply => exact .page (ih reply _)
  | image r next ih =>
    rw [runAfter, exchangesAfter]
    cases w.image trace r with
    | none => exact .imageUnanswered
    | some reply => exact .image (ih reply _)

/-- **A run goes through its transcript.** -/
theorem runs_run (w : World) (x : Lookup α) : x.Runs (x.exchanges w) (x.run w).1 :=
  runs_runAfter w x _

theorem runs_done_iff : (done a).Runs es o ↔ es = [] ∧ o = some a := by
  constructor
  · intro h
    cases h
    exact ⟨rfl, rfl⟩
  · rintro ⟨rfl, rfl⟩
    exact .done a

/-- One lookup after another goes through the exchanges of both, unless a question of the first one
is never answered. -/
theorem Runs.of_bind {o : Option β} (h : (x.bind f).Runs es o) :
    (∃ a es₁ es₂, x.Runs es₁ (some a) ∧ (f a).Runs es₂ o ∧ es = es₁ ++ es₂) ∨
      x.Runs es none ∧ o = none := by
  induction x generalizing es with
  | done a => exact Or.inl ⟨a, [], es, .done a, h, rfl⟩
  | page q next ih =>
    cases h with
    | @page _ _ reply es _ rest =>
      rcases ih reply rest with ⟨a, es₁, es₂, hfirst, hsecond, rfl⟩ | ⟨hfirst, rfl⟩
      · exact Or.inl ⟨a, _, es₂, .page hfirst, hsecond, rfl⟩
      · exact Or.inr ⟨.page hfirst, rfl⟩
    | pageUnanswered => exact Or.inr ⟨.pageUnanswered, rfl⟩
  | image r next ih =>
    cases h with
    | @image _ _ reply es _ rest =>
      rcases ih reply rest with ⟨a, es₁, es₂, hfirst, hsecond, rfl⟩ | ⟨hfirst, rfl⟩
      · exact Or.inl ⟨a, es₁, es₂, .image hfirst, hsecond, rfl⟩
      · exact Or.inr ⟨.image hfirst, rfl⟩
    | imageUnanswered => exact Or.inr ⟨.imageUnanswered, rfl⟩

/-- A question for a page is one exchange if the request leads somewhere, and none otherwise. -/
theorem Runs.of_ask {o : Option Web.Reply} (h : (ask q).Runs es o) :
    (∃ u, q.target = .ok u) ∧ es = [⟨q, o⟩] ∨
      ∃ failure, q.target = .error failure ∧ es = [] ∧ o = some (.error failure) := by
  rw [ask] at h
  cases htarget : q.target with
  | ok u =>
    rw [htarget] at h
    cases h with
    | page rest =>
      obtain ⟨rfl, rfl⟩ := runs_done_iff.mp rest
      exact Or.inl ⟨⟨u, rfl⟩, rfl⟩
    | pageUnanswered => exact Or.inl ⟨⟨u, rfl⟩, rfl⟩
  | error failure =>
    rw [htarget] at h
    obtain ⟨rfl, rfl⟩ := runs_done_iff.mp h
    exact Or.inr ⟨failure, rfl, rfl, rfl⟩

end Lookup

end Catalog
