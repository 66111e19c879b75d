import Catalog.Proofs.Record.File
import Catalog.Record.Memory
import Mathlib.Data.List.TakeWhile

/-!
# Commits that fail

A commit to a file takes place as a whole or not at all. A commit to records in memory applies its
writes one after another and stops at the first that it cannot apply; those before it stay. So after
a failed commit a record is as it was just when the last write that was applied to it, if there is
one, had the packages that the record had before.

## Main definitions

* `RecordStore.Opened` — the transactions of a store, with the writes that were accepted.
* `RecordStore.CommitsWhole` — a commit that fails leaves the contents as they were.
* `MemoryStore.applied` — the writes that a commit applies.
* `MemoryStore.lastWrite?` — what the writes leave behind under an id.

## Main results

* `MemoryStore.get?_applyWrites` — **what a commit makes of each document**, also when it fails.
* `failed_commit_keeps_iff` — **a failed commit to a file changes nothing;** one to records in
  memory keeps a record just when the last write applied to it has the packages of the record.
-/

namespace Catalog

open Json (Members)

/-! ### Transactions -/

namespace RecordStore

variable {σ τ : Type}

/-- The transactions that can be had on a store: opened there, and written to with success. -/
inductive Opened (store : RecordStore σ τ) (s : σ) : τ → Prop
  | start {tx : τ} (h : store.start s = .ok tx) : Opened store s tx
  | write {tx tx' : τ} {id : String} {packages : Json} (h : Opened store s tx)
    (accepted : store.write s tx id packages = .ok tx') : Opened store s tx'

/-- A commit that fails leaves the contents as they were. -/
def CommitsWhole (store : RecordStore σ τ) : Prop :=
  ∀ s tx e, store.Opened s tx → (store.commit s tx).2 = .error e → (store.commit s tx).1 = s

end RecordStore

/-- A commit to a file writes the file as its last step. -/
theorem FileStore.commitsWhole : FileStore.store.CommitsWhole := by
  intro s pending e _ h
  rw [FileStore.commit_eq] at h ⊢
  cases hafter : s.afterCommit pending with
  | ok t =>
    rw [hafter] at h
    cases h
  | error e => rfl

/-! ### Writes in memory -/

namespace MemoryStore

variable {t : Table Json} {m : MemoryStore} {pending : Pending} {id key : String}
  {packages d : Json} {ms : Members} {o o' : Option Json}

/-- Whether a write can be applied: its record is there and holds an object. -/
def takes (t : Table Json) (id : String) : Bool :=
  match t.get? id with
  | some (.obj _) => true
  | _ => false

/-- The writes that a commit applies: those before the first that cannot be applied. -/
def applied (t : Table Json) (pending : Pending) : Pending :=
  pending.takeWhile fun w => takes t w.1

/-- The packages that writes leave behind under an id, the last ones that were written there. -/
def lastWrite? : Pending → String → Option Json
  | [], _ => none
  | (id, packages) :: rest, key =>
    (lastWrite? rest key).or (if id = key then some packages else none)

/-- The document with the packages given, if any are. -/
def withPackages : Option Json → Json → Json
  | some packages, .obj ms => .obj (Members.set ms "packages" packages)
  | _, d => d

theorem takes_iff : takes t id = true ↔ ∃ ms, t.get? id = some (.obj ms) := by
  rw [takes]
  cases t.get? id with
  | none => simp
  | some d => cases d <;> simp

/-- A write that was applied does not stand in the way of later ones. -/
theorem takes_insert (h : takes t id = true) :
    takes (t.insert id (.obj ms)) key = takes t key := by
  rw [takes, Table.get?_insert]
  by_cases hkey : id = key
  · rw [if_pos hkey, ← hkey, h]
  · rw [if_neg hkey, takes]

@[simp] theorem applied_nil : applied t [] = [] := rfl

theorem applied_of_takes (h : takes t id = true) :
    applied t ((id, packages) :: pending) = (id, packages) :: applied t pending :=
  List.takeWhile_cons_of_pos h

theorem applied_of_not_takes (h : ¬ takes t id = true) :
    applied t ((id, packages) :: pending) = [] :=
  List.takeWhile_cons_of_neg h

theorem takes_of_mem_applied {w : String × Json} (h : w ∈ applied t pending) :
    takes t w.1 = true :=
  List.mem_takeWhile_imp (p := fun w : String × Json => takes t w.1) h

/-- The writes that are applied after the first one are those that would be without it. -/
theorem applied_insert (h : takes t id = true) :
    applied (t.insert id (.obj ms)) pending = applied t pending := by
  simp only [applied, takes_insert h]

@[simp] theorem withPackages_none : withPackages none = fun d => d := by
  funext d
  cases d <;> rfl

/-- Of two writes to a document the later one counts. -/
theorem withPackages_or : withPackages (o.or o') d = withPackages o (withPackages o' d) := by
  cases o with
  | none => simp
  | some packages =>
    cases o' with
    | none => simp
    | some packages' =>
      cases d with
      | obj ms => simp only [Option.some_or, withPackages, Members.set_set]
      | _ => rfl

/-- Packages that a document has already change nothing. -/
theorem withPackages_eq_self_iff : withPackages o (.obj ms) = .obj ms ↔
    ∀ packages, o = some packages → ms.value? "packages" = some packages := by
  cases o with
  | none => simp
  | some packages => simp [withPackages, Members.set_eq_self_iff]

/-! ### Commits in memory -/

/-- A write that can be applied is followed by the rest. -/
theorem applyWrites_of_takes (h : t.get? id = some (.obj ms)) :
    applyWrites t ((id, packages) :: pending) =
      applyWrites (t.insert id (.obj (Members.set ms "packages" packages))) pending := by
  rw [applyWrites, h]

/-- A write that cannot be applied ends the commit. -/
theorem exists_applyWrites_of_not_takes (packages : Json) (pending : Pending)
    (h : ¬ takes t id = true) :
    ∃ e, applyWrites t ((id, packages) :: pending) = (t, .error e) := by
  rw [takes_iff] at h
  rw [applyWrites]
  cases hget : t.get? id with
  | none => exact ⟨_, rfl⟩
  | some d =>
    cases d with
    | obj ms => exact absurd ⟨ms, hget⟩ h
    | _ => exact ⟨_, rfl⟩

/-- **What a commit makes of each document**, also when it fails: the last of the writes that were
applied to it counts. -/
theorem get?_applyWrites (t : Table Json) (pending : Pending) (key : String) :
    (applyWrites t pending).1.get? key =
      (t.get? key).map (withPackages (lastWrite? (applied t pending) key)) := by
  induction pending generalizing t with
  | nil => simp [applyWrites, lastWrite?]
  | cons w rest ih =>
    obtain ⟨id, packages⟩ := w
    by_cases htakes : takes t id = true
    · obtain ⟨ms, hms⟩ := takes_iff.mp htakes
      rw [applyWrites_of_takes hms, ih, applied_insert htakes, applied_of_takes htakes, lastWrite?,
        Table.get?_insert]
      by_cases hkey : id = key
      · subst hkey
        rw [if_pos rfl, if_pos rfl, hms, Option.map_some, Option.map_some, withPackages_or]
        rfl
      · rw [if_neg hkey, if_neg hkey, Option.or_none]
    · obtain ⟨e, hstop⟩ := exists_applyWrites_of_not_takes packages rest htakes
      simp [hstop, applied_of_not_takes htakes, lastWrite?]

theorem documents_commit :
    (m.commit pending).1.documents = (applyWrites m.documents pending).1 := by
  rw [commit]
  split <;> next heq => rw [heq]

/-- A commit that fails counts no writes. -/
theorem writes_commit_of_error {e : Error} (h : (m.commit pending).2 = .error e) :
    (m.commit pending).1.writes = m.writes := by
  rw [commit] at h ⊢
  cases happly : applyWrites m.documents pending with
  | mk documents result =>
    rw [happly] at h
    cases result with
    | ok => cases h
    | error e => rfl

theorem mem_of_lastWrite? (h : lastWrite? pending key = some packages) :
    (key, packages) ∈ pending := by
  induction pending with
  | nil => cases h
  | cons w rest ih =>
    obtain ⟨id, packages'⟩ := w
    rw [lastWrite?, Option.or_eq_some_iff] at h
    rcases h with hrest | ⟨-, hfirst⟩
    · exact List.mem_cons_of_mem _ (ih hrest)
    · obtain ⟨rfl, heq⟩ := Option.ite_none_right_eq_some.mp hfirst
      rw [Option.some.inj heq]
      exact List.mem_cons_self

/-- A record that a write was applied to holds an object. -/
theorem exists_of_lastWrite?_applied (h : lastWrite? (applied t pending) key = some packages) :
    ∃ ms, t.get? key = some (.obj ms) :=
  takes_iff.mp (takes_of_mem_applied (mem_of_lastWrite? h))

/-- A commit leaves a record as it was just when the last write that it applies to the record, if
there is one, has the packages of the record. -/
theorem get?_commit_eq_self_iff : (m.commit pending).1.get? id = m.get? id ↔
    ∀ packages, lastWrite? (applied m.documents pending) id = some packages →
      (m.get? id).bind (·.get? "packages") = some packages := by
  rw [get?, get?, documents_commit, get?_applyWrites]
  cases hlast : lastWrite? (applied m.documents pending) id with
  | none => simp
  | some packages =>
    obtain ⟨ms, hms⟩ := exists_of_lastWrite?_applied hlast
    rw [hms, Option.map_some, Option.some.injEq, withPackages_eq_self_iff]
    rfl

end MemoryStore

/-! ### Failed commits -/

/-- **A failed commit to a file changes nothing.** One to records in memory counts no writes, and
leaves a record as it was just when the last write that it applied to the record, if there is one,
has the packages of the record. -/
theorem failed_commit_keeps_iff {m : MemoryStore} {pending : MemoryStore.Pending} {e : Error}
    (h : (MemoryStore.store.commit m pending).2 = .error e) :
    FileStore.store.CommitsWhole ∧
      (MemoryStore.store.commit m pending).1.writes = m.writes ∧
      ∀ id, (MemoryStore.store.commit m pending).1.get? id = m.get? id ↔
        ∀ packages,
          MemoryStore.lastWrite? (MemoryStore.applied m.documents pending) id = some packages →
            (m.get? id).bind (·.get? "packages") = some packages := by
  refine ⟨FileStore.commitsWhole, MemoryStore.writes_commit_of_error h, fun id => ?_⟩
  exact MemoryStore.get?_commit_eq_self_iff

/-- A record with an empty `packages` array, and one that is no object. -/
def mixedStore : MemoryStore :=
  .ofRecords [⟨"a", .obj [("packages", .arr [])]⟩, ⟨"b", .str "text"⟩]

/-- A write of the packages that the record has may be followed by one that fails. -/
theorem failed_commit_keeps_mixedStore :
    (MemoryStore.store.commit mixedStore [("a", .arr []), ("b", .arr [])]).2 =
        .error (.store (.notObject "b")) ∧
      (MemoryStore.store.commit mixedStore [("a", .arr []), ("b", .arr [])]).1.get? "a" =
        mixedStore.get? "a" := by
  have hfails : (MemoryStore.store.commit mixedStore [("a", .arr []), ("b", .arr [])]).2 =
      .error (.store (.notObject "b")) := rfl
  obtain ⟨-, -, hkept⟩ := failed_commit_keeps_iff hfails
  refine ⟨hfails, (hkept "a").mpr ?_⟩
  intro packages hlast
  obtain rfl : Json.arr [] = packages := Option.some.inj hlast
  rfl

/-- A write that is applied stays when a later one fails. -/
theorem not_commitsWhole_mixedStore : ¬ MemoryStore.store.CommitsWhole := by
  intro h
  have hfirst : MemoryStore.store.write mixedStore [] "a" (.arr [.null]) =
      .ok [("a", .arr [.null])] := rfl
  have hsecond : MemoryStore.store.write mixedStore [("a", .arr [.null])] "b" (.arr []) =
      .ok [("a", .arr [.null]), ("b", .arr [])] := rfl
  have hkept := h _ _ (.store (.notObject "b")) (.write (.write (.start rfl) hfirst) hsecond) rfl
  exact absurd hkept (by decide)

end Catalog
