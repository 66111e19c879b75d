import Catalog.Proofs.Record.Commit

/-!
# Interleaved transactions

Any number of transactions may be open on a store at once, and their steps may come in any order.
What a transaction wrote shows in a store in memory from its commit on and not before: where all
documents are objects, they are at each point those at the start, with the accepted writes of the
committed transactions applied in the order of the commits.

## Main definitions

* `RecordStore.Sessions` — the contents of a store and its transactions.
* `RecordStore.Step`, `RecordStore.Interleaving` — one step of a transaction, and many.
* `acceptedWrites`, `committedWrites` — the writes among what happened that count.
* `MemoryStore.writePackages` — what a write does to the documents.

## Main results

* `RecordStore.exists_step` — an open transaction can always take each of its steps.
* `MemoryStore.applyWrites_eq_foldl` — a commit where all documents are objects.
* `MemoryStore.Isolated.step` — what one step preserves.
* `MemoryStore.interleaving_isolated` — **transactions in memory are isolated.**
-/

namespace Catalog

open Json (Members)

/-! ### Steps of transactions -/

/-- What happens in one step of a transaction. Transactions are numbered from zero in the order in
which they were opened. -/
inductive TxEvent where
  | started
  | accepted (tx : Nat) (id : String) (packages : Json)
  | rejected (tx : Nat) (id : String) (packages : Json) (error : Error)
  | committed (tx : Nat)
  | failed (tx : Nat) (error : Error)
  | rolledBack (tx : Nat)
deriving DecidableEq, Repr, Inhabited

namespace TxEvent

/-- What was written to a transaction, if the event is an accepted write to it. -/
def write? (tx : Nat) : TxEvent → Option (String × Json)
  | accepted i id packages => if i = tx then some (id, packages) else none
  | _ => none

/-- The transaction that was committed, if one was. -/
def commit? : TxEvent → Option Nat
  | committed i => some i
  | _ => none

end TxEvent

/-- The accepted writes to a transaction, in order. -/
def acceptedWrites (tx : Nat) (events : List TxEvent) : List (String × Json) :=
  events.filterMap (TxEvent.write? tx)

/-- The accepted writes to the transactions that were committed, in the order of the commits and in
the order of the writes within each of them. -/
def committedWrites (events : List TxEvent) : List (String × Json) :=
  (events.filterMap TxEvent.commit?).flatMap fun tx => acceptedWrites tx events

namespace RecordStore

/-- The contents of a store and its transactions by number; those that have ended are `none`. -/
structure Sessions (σ τ : Type) where
  contents : σ
  transactions : List (Option τ)

variable {σ τ : Type}

/-- One step of a transaction, which is opened by it or open before. -/
inductive Step (store : RecordStore σ τ) : Sessions σ τ → TxEvent → Sessions σ τ → Prop
  | started {st : Sessions σ τ} {tx : τ} (h : store.start st.contents = .ok tx) :
    Step store st .started { st with transactions := st.transactions ++ [some tx] }
  | accepted {st : Sessions σ τ} {i : Nat} {tx tx' : τ} {id : String} {packages : Json}
    (isOpen : st.transactions[i]? = some (some tx))
    (h : store.write st.contents tx id packages = .ok tx') :
    Step store st (.accepted i id packages)
      { st with transactions := st.transactions.set i (some tx') }
  | rejected {st : Sessions σ τ} {i : Nat} {tx : τ} {id : String} {packages : Json} {e : Error}
    (isOpen : st.transactions[i]? = some (some tx))
    (h : store.write st.contents tx id packages = .error e) :
    Step store st (.rejected i id packages e) st
  | committed {st : Sessions σ τ} {i : Nat} {tx : τ} {s : σ}
    (isOpen : st.transactions[i]? = some (some tx))
    (h : store.commit st.contents tx = (s, .ok ())) :
    Step store st (.committed i) ⟨s, st.transactions.set i none⟩
  | failed {st : Sessions σ τ} {i : Nat} {tx : τ} {s : σ} {e : Error}
    (isOpen : st.transactions[i]? = some (some tx))
    (h : store.commit st.contents tx = (s, .error e)) :
    Step store st (.failed i e) ⟨s, st.transactions.set i none⟩
  | rolledBack {st : Sessions σ τ} {i : Nat} {tx : τ}
    (isOpen : st.transactions[i]? = some (some tx)) :
    Step store st (.rolledBack i) { st with transactions := st.transactions.set i none }

/-- Steps of any transactions in any order, from a store without open transactions. -/
inductive Interleaving (store : RecordStore σ τ) (s : σ) : List TxEvent → Sessions σ τ → Prop
  | nil : Interleaving store s [] ⟨s, []⟩
  | snoc {events : List TxEvent} {e : TxEvent} {st st' : Sessions σ τ}
    (h : Interleaving store s events st) (step : Step store st e st') :
    Interleaving store s (events ++ [e]) st'

/-- An open transaction can always be written to, committed and rolled back. -/
theorem exists_step {store : RecordStore σ τ} {st : Sessions σ τ} {i : Nat} {tx : τ}
    (h : st.transactions[i]? = some (some tx)) :
    (∀ id packages, ∃ st', Step store st (.accepted i id packages) st' ∨
      ∃ e, Step store st (.rejected i id packages e) st') ∧
      (∃ st', Step store st (.committed i) st' ∨ ∃ e, Step store st (.failed i e) st') ∧
      ∃ st', Step store st (.rolledBack i) st' := by
  refine ⟨fun id packages => ?_, ?_, _, .rolledBack h⟩
  · cases hwrite : store.write st.contents tx id packages with
    | ok tx' => exact ⟨_, Or.inl (.accepted h hwrite)⟩
    | error e => exact ⟨_, Or.inr ⟨e, .rejected h hwrite⟩⟩
  · cases hcommit : store.commit st.contents tx with
    | mk s result =>
      cases result with
      | ok => exact ⟨_, Or.inl (.committed h hcommit)⟩
      | error e => exact ⟨_, Or.inr ⟨e, .failed h hcommit⟩⟩

end RecordStore

/-! ### Writes that count -/

section

variable {events : List TxEvent} {e : TxEvent} {i : Nat}

theorem acceptedWrites_concat : acceptedWrites i (events ++ [e]) =
    acceptedWrites i events ++ (e.write? i).toList := by
  rw [acceptedWrites, List.filterMap_append, List.filterMap_cons]
  cases e.write? i <;> rfl

theorem filterMap_commit?_concat : (events ++ [e]).filterMap TxEvent.commit? =
    events.filterMap TxEvent.commit? ++ e.commit?.toList := by
  rw [List.filterMap_append, List.filterMap_cons]
  cases e.commit? <;> rfl

/-- One more event commits one more transaction or none, as long as it writes to none of those that
were committed before. -/
theorem committedWrites_concat
    (h : ∀ i ∈ events.filterMap TxEvent.commit?, e.write? i = none) :
    committedWrites (events ++ [e]) = committedWrites events ++
      e.commit?.toList.flatMap fun i => acceptedWrites i (events ++ [e]) := by
  rw [committedWrites, filterMap_commit?_concat, List.flatMap_append, committedWrites]
  congr 1
  refine List.flatMap_congr fun i hi => ?_
  rw [acceptedWrites_concat, h i hi, Option.toList_none, List.append_nil]

end

namespace RecordStore

variable {σ τ : Type} {store : RecordStore σ τ} {st st' : Sessions σ τ} {e : TxEvent} {s : σ}
  {events : List TxEvent} {i : Nat} {tx : τ}

/-- Only an open transaction is written to. -/
theorem Step.write?_eq_none (h : Step store st e st')
    (hi : ∀ tx, st.transactions[i]? ≠ some (some tx)) : e.write? i = none := by
  cases h with
  | accepted isOpen _ =>
    refine if_neg ?_
    rintro rfl
    exact hi _ isOpen
  | _ => rfl

/-- No transaction is forgotten. -/
theorem Step.length_le (h : Step store st e st') :
    st.transactions.length ≤ st'.transactions.length := by
  cases h <;> simp

/-- A transaction that ended is not opened again. -/
theorem Step.ended (h : Step store st e st') (hi : st.transactions[i]? = some none) :
    st'.transactions[i]? = some none := by
  have hset : ∀ {j tx} (o : Option τ), st.transactions[j]? = some (some tx) →
      (st.transactions.set j o)[i]? = some none := by
    intro j tx o isOpen
    have hji : j ≠ i := by
      rintro rfl
      rw [hi] at isOpen
      cases isOpen
    rw [List.getElem?_set_ne hji, hi]
  cases h with
  | started =>
    obtain ⟨hlt, -⟩ := List.getElem?_eq_some_iff.mp hi
    rw [List.getElem?_append_left hlt, hi]
  | accepted isOpen => exact hset _ isOpen
  | rejected => exact hi
  | committed isOpen => exact hset _ isOpen
  | failed isOpen => exact hset _ isOpen
  | rolledBack isOpen => exact hset _ isOpen

theorem Step.ended_of_commit? (h : Step store st e st') (hi : e.commit? = some i) :
    st'.transactions[i]? = some none := by
  cases h with
  | committed isOpen =>
    obtain rfl := Option.some.inj hi
    obtain ⟨hlt, -⟩ := List.getElem?_eq_some_iff.mp isOpen
    exact List.getElem?_set_self hlt
  | _ => cases hi

/-- Nothing is written to a transaction before it is opened. -/
theorem Interleaving.acceptedWrites_eq_nil (h : Interleaving store s events st)
    (hi : st.transactions.length ≤ i) : acceptedWrites i events = [] := by
  induction h with
  | nil => rfl
  | snoc _ hstep ih =>
    have hlength := Nat.le_trans hstep.length_le hi
    have hwrite := hstep.write?_eq_none (i := i) fun tx htx => by
      rw [List.getElem?_eq_none hlength] at htx
      cases htx
    rw [acceptedWrites_concat, ih hlength, hwrite]
    rfl

/-- A committed transaction has ended. -/
theorem Interleaving.ended (h : Interleaving store s events st)
    (hi : i ∈ events.filterMap TxEvent.commit?) : st.transactions[i]? = some none := by
  induction h with
  | nil => cases hi
  | snoc _ hstep ih =>
    rw [filterMap_commit?_concat, List.mem_append, Option.mem_toList] at hi
    rcases hi with hold | hnew
    · exact hstep.ended (ih hold)
    · exact hstep.ended_of_commit? hnew

/-- What the next step commits comes after what was committed before. -/
theorem Interleaving.committedWrites_concat (h : Interleaving store s events st)
    (hstep : Step store st e st') : committedWrites (events ++ [e]) = committedWrites events ++
      e.commit?.toList.flatMap fun i => acceptedWrites i (events ++ [e]) := by
  refine Catalog.committedWrites_concat fun i hi => hstep.write?_eq_none fun tx htx => ?_
  rw [h.ended hi] at htx
  cases htx

end RecordStore

namespace MemoryStore

open RecordStore (Interleaving Sessions Step)

/-! ### Writes to objects -/

variable {t : Table Json} {w : String × Json} {ws : List (String × Json)} {id key : String}

/-- What a write does to the documents: it replaces the packages of its record. -/
def writePackages (t : Table Json) (w : String × Json) : Table Json :=
  t.map fun e => (e.1, if e.1 = w.1 then withPackages (some w.2) e.2 else e.2)

/-- The table is sorted and its documents are objects. -/
structure HoldsObjects (t : Table Json) : Prop where
  sorted : t.Sorted
  objects : ∀ e ∈ t, ∃ ms, e.2 = .obj ms

@[simp] theorem keys_writePackages (t : Table Json) (w : String × Json) :
    (writePackages t w).keys = t.keys := by
  simp [writePackages, Table.keys]

theorem get?_writePackages (t : Table Json) (w : String × Json) (id : String) :
    (writePackages t w).get? id =
      (t.get? id).map fun d => if id = w.1 then withPackages (some w.2) d else d :=
  Table.get?_map t (fun id d => if id = w.1 then withPackages (some w.2) d else d) id

theorem HoldsObjects.writePackages (h : HoldsObjects t) (w : String × Json) :
    HoldsObjects (writePackages t w) where
  sorted := h.sorted.map fun id d => if id = w.1 then withPackages (some w.2) d else d
  objects := by
    intro e he
    obtain ⟨d, hd, rfl⟩ := List.mem_map.mp he
    obtain ⟨ms, hms⟩ := h.objects d hd
    dsimp only
    split
    · exact ⟨_, by rw [hms, withPackages]⟩
    · exact ⟨ms, hms⟩

theorem HoldsObjects.foldl (h : HoldsObjects t) (ws : List (String × Json)) :
    HoldsObjects (ws.foldl MemoryStore.writePackages t) := by
  induction ws generalizing t with
  | nil => exact h
  | cons w ws ih => exact ih (h.writePackages w)

@[simp] theorem keys_foldl_writePackages (ws : List (String × Json)) (t : Table Json) :
    (ws.foldl writePackages t).keys = t.keys := by
  induction ws generalizing t with
  | nil => rfl
  | cons w ws ih => rw [List.foldl_cons, ih, keys_writePackages]

/-- A write to a record that is there finds an object. -/
theorem HoldsObjects.exists_get? (h : HoldsObjects t) (hid : id ∈ t.keys) :
    ∃ ms, t.get? id = some (.obj ms) := by
  obtain ⟨⟨id, d⟩, he, rfl⟩ := List.mem_map.mp hid
  obtain ⟨ms, rfl⟩ := h.objects _ he
  exact ⟨ms, h.sorted.get?_of_mem he⟩

/-- Where all documents are objects, a commit applies all its writes. -/
theorem applyWrites_eq_foldl (h : HoldsObjects t) (hws : ∀ w ∈ ws, w.1 ∈ t.keys) :
    applyWrites t ws = (ws.foldl writePackages t, .ok ()) := by
  induction ws generalizing t with
  | nil => rfl
  | cons w ws ih =>
    obtain ⟨hw, hws⟩ := List.forall_mem_cons.mp hws
    obtain ⟨ms, hms⟩ := h.exists_get? hw
    have hinsert : t.insert w.1 (.obj (Members.set ms "packages" w.2)) = writePackages t w := by
      rw [h.sorted.insert_eq_map hms]
      refine List.map_congr_left fun ⟨id, v⟩ he => ?_
      have hdoc := h.sorted.get?_of_mem he
      by_cases heq : id = w.1
      · rw [heq, hms] at hdoc
        rw [if_pos heq, if_pos heq, ← Option.some.inj hdoc, withPackages, heq]
      · rw [if_neg heq, if_neg heq]
    have hrest := ih (h.writePackages w) (by simpa using hws)
    obtain ⟨id, packages⟩ := w
    rw [applyWrites_of_takes hms, hinsert, hrest, List.foldl_cons]

/-- A write changes no member of a document but its packages. -/
theorem get?_withPackages (o : Option Json) (d : Json) (hkey : key ≠ "packages") :
    (withPackages o d).get? key = d.get? key := by
  cases o with
  | none => rw [withPackages_none]
  | some v =>
    cases d with
    | obj ms =>
      rw [withPackages, Json.get?, Json.get?, Json.members, Json.members, Members.value?_set,
        if_neg (Ne.symm hkey)]
    | _ => rfl

theorem get?_foldl_writePackages (ws : List (String × Json)) (t : Table Json) (id : String)
    (hkey : key ≠ "packages") :
    ((ws.foldl writePackages t).get? id).bind (·.get? key) = (t.get? id).bind (·.get? key) := by
  induction ws generalizing t with
  | nil => rfl
  | cons w ws ih =>
    rw [List.foldl_cons, ih, get?_writePackages, Option.bind_map]
    congr 1
    funext d
    rw [Function.comp_apply]
    split
    · exact get?_withPackages _ d hkey
    · rfl

/-! ### Isolation -/

variable {s : MemoryStore} {events : List TxEvent} {e : TxEvent}
  {st st' : Sessions MemoryStore Pending}

/-- The committed transactions show in the contents and no others do, and each of the open ones
holds what was written to it. -/
structure Isolated (s : MemoryStore) (events : List TxEvent)
    (st : Sessions MemoryStore Pending) : Prop where
  documents : st.contents.documents = (committedWrites events).foldl writePackages s.documents
  writes : st.contents.writes = s.writes + (committedWrites events).length
  /-- An open transaction holds the writes to it that were accepted. -/
  pending : ∀ (i : Nat) (tx : Pending), st.transactions[i]? = some (some tx) →
    tx = acceptedWrites i events
  /-- What was accepted is for records that are there. -/
  known : ∀ i, ∀ w ∈ acceptedWrites i events, w.1 ∈ s.documents.keys
  succeeded : ∀ i e, .failed i e ∉ events

theorem isolated_nil (s : MemoryStore) : Isolated s [] ⟨s, []⟩ where
  documents := rfl
  writes := rfl
  pending := fun i tx h => by simp at h
  known := fun i w h => by simp [acceptedWrites] at h
  succeeded := fun i e h => by simp at h

/-- The commit of an open transaction finds the records of all its writes. -/
theorem Isolated.commit_eq {i : Nat} {tx : Pending} (h : Isolated s events st)
    (hs : HoldsObjects s.documents) (isOpen : st.transactions[i]? = some (some tx)) :
    commit st.contents tx =
      (⟨tx.foldl writePackages st.contents.documents, st.contents.writes + tx.length⟩, .ok ()) := by
  have hholds : HoldsObjects st.contents.documents := by
    rw [h.documents]
    exact hs.foldl _
  have hknown : ∀ w ∈ tx, w.1 ∈ st.contents.documents.keys := by
    rw [h.documents, keys_foldl_writePackages, h.pending i tx isOpen]
    exact h.known i
  rw [commit, applyWrites_eq_foldl hholds hknown]

/-- A write is accepted when its record is there. -/
theorem write_eq_ok {m : MemoryStore} {tx tx' : Pending} {packages : Json}
    (h : store.write m tx id packages = .ok tx') :
    id ∈ m.documents.keys ∧ tx' = tx ++ [(id, packages)] := by
  rw [store] at h
  dsimp only at h
  cases hget : m.get? id with
  | none =>
    rw [hget] at h
    cases h
  | some d =>
    rw [hget] at h
    refine ⟨?_, (Except.ok.inj h).symm⟩
    by_contra hnew
    rw [get?, Table.get?_eq_none_iff.mpr hnew] at hget
    cases hget

/-- The transactions that are open after one has ended were open before. -/
theorem getElem?_of_set_none {τ : Type} {transactions : List (Option τ)} {i j : Nat} {tx : τ}
    (h : (transactions.set i none)[j]? = some (some tx)) : transactions[j]? = some (some tx) := by
  rw [List.getElem?_set] at h
  split at h
  · split at h <;> cases h
  · exact h

/-- A step that commits nothing shows in the transactions only. -/
theorem Isolated.of_commit?_eq_none (h : Isolated s events st)
    (hrun : Interleaving MemoryStore.store s events st) (hstep : Step MemoryStore.store st e st')
    (hcommit : e.commit? = none) (hcontents : st'.contents = st.contents)
    (hpending : ∀ (i : Nat) (tx : Pending), st'.transactions[i]? = some (some tx) →
      tx = acceptedWrites i events ++ (e.write? i).toList)
    (hknown : ∀ i w, e.write? i = some w → w.1 ∈ s.documents.keys)
    (hsucceeded : ∀ i e', e ≠ .failed i e') : Isolated s (events ++ [e]) st' := by
  have hcommitted : committedWrites (events ++ [e]) = committedWrites events := by
    rw [hrun.committedWrites_concat hstep, hcommit]
    exact List.append_nil _
  exact {
    documents := by rw [hcontents, hcommitted, h.documents]
    writes := by rw [hcontents, hcommitted, h.writes]
    pending := by
      intro i tx htx
      rw [acceptedWrites_concat]
      exact hpending i tx htx
    known := by
      intro i w hw
      rw [acceptedWrites_concat, List.mem_append, Option.mem_toList] at hw
      exact hw.elim (h.known i w) (hknown i w)
    succeeded := by
      intro i e' hmem
      rcases List.mem_append.mp hmem with hold | hnew
      · exact h.succeeded i e' hold
      · exact hsucceeded i e' (List.mem_singleton.mp hnew).symm }

/-- **What one step preserves.** -/
theorem Isolated.step (h : Isolated s events st) (hs : HoldsObjects s.documents)
    (hrun : Interleaving MemoryStore.store s events st)
    (hstep : Step MemoryStore.store st e st') : Isolated s (events ++ [e]) st' := by
  cases hstep with
  | started hstart =>
    refine h.of_commit?_eq_none hrun (.started hstart) rfl rfl (fun i tx htx => ?_)
      (fun _ _ hw => by cases hw) fun _ _ hfailed => by cases hfailed
    refine Eq.trans ?_ (List.append_nil _).symm
    rcases Nat.lt_or_ge i st.transactions.length with hlt | hge
    · rw [List.getElem?_append_left hlt] at htx
      exact h.pending i tx htx
    · -- the new transaction holds nothing, and nothing was written to it yet
      rw [List.getElem?_append_right hge] at htx
      have hnew := Option.some.inj (List.mem_singleton.mp (List.mem_of_getElem? htx))
      rw [hrun.acceptedWrites_eq_nil hge, hnew]
      exact (Except.ok.inj hstart).symm
  | @accepted i tx tx' id packages isOpen hwrite =>
    obtain ⟨hid, rfl⟩ := write_eq_ok hwrite
    rw [h.documents, keys_foldl_writePackages] at hid
    refine h.of_commit?_eq_none hrun (.accepted isOpen hwrite) rfl rfl ?_ ?_
      fun _ _ hfailed => by cases hfailed
    · intro j tx' htx'
      rw [TxEvent.write?]
      rw [List.getElem?_set] at htx'
      split at htx'
      · next heq =>
        obtain ⟨hlt, -⟩ := List.getElem?_eq_some_iff.mp isOpen
        rw [if_pos hlt] at htx'
        rw [if_pos heq, ← heq, ← h.pending i tx isOpen]
        exact (Option.some.inj (Option.some.inj htx')).symm
      · next hne =>
        rw [if_neg hne, Option.toList_none, List.append_nil]
        exact h.pending j tx' htx'
    · intro j w hw
      obtain ⟨-, heq⟩ := Option.ite_none_right_eq_some.mp hw
      rw [← Option.some.inj heq]
      exact hid
  | rejected isOpen hwrite =>
    refine h.of_commit?_eq_none hrun (.rejected isOpen hwrite) rfl rfl (fun i tx htx => ?_)
      (fun _ _ hw => by cases hw) fun _ _ hfailed => by cases hfailed
    exact (h.pending i tx htx).trans (List.append_nil _).symm
  | @committed i tx t isOpen hcommit =>
    obtain ⟨rfl, -⟩ := Prod.mk.inj ((h.commit_eq hs isOpen).symm.trans hcommit)
    have haccepted : ∀ j, acceptedWrites j (events ++ [.committed i]) =
        acceptedWrites j events := by
      intro j
      rw [acceptedWrites_concat]
      exact List.append_nil _
    have hcommitted : committedWrites (events ++ [.committed i]) =
        committedWrites events ++ tx := by
      rw [hrun.committedWrites_concat (.committed isOpen hcommit), TxEvent.commit?,
        Option.toList_some, List.flatMap_singleton, haccepted, ← h.pending i tx isOpen]
    exact {
      documents := by rw [hcommitted, List.foldl_append, h.documents]
      writes := by rw [hcommitted, List.length_append, h.writes, Nat.add_assoc]
      pending := by
        intro j tx' htx'
        rw [haccepted]
        exact h.pending j tx' (getElem?_of_set_none htx')
      known := by
        intro j
        rw [haccepted]
        exact h.known j
      succeeded := by
        intro j e hmem
        refine h.succeeded j e ?_
        simpa using hmem }
  | failed isOpen hfails =>
    -- no commit fails
    cases hfails.symm.trans (h.commit_eq hs isOpen)
  | rolledBack isOpen =>
    refine h.of_commit?_eq_none hrun (.rolledBack isOpen) rfl rfl (fun i tx htx => ?_)
      (fun _ _ hw => by cases hw) fun _ _ hfailed => by cases hfailed
    exact (h.pending i tx (getElem?_of_set_none htx)).trans (List.append_nil _).symm

/-- What any number of steps leaves behind. -/
theorem isolated_of_interleaving (hs : HoldsObjects s.documents)
    (h : Interleaving MemoryStore.store s events st) : Isolated s events st := by
  induction h with
  | nil => exact isolated_nil s
  | snoc hrun hstep ih => exact ih.step hs hrun hstep

/-- **Transactions in memory are isolated.** At each point the documents are those at the start with
the accepted writes of the committed transactions, which replace the packages of their records and
nothing else, and these are the writes that are counted. -/
theorem interleaving_isolated (hs : HoldsObjects s.documents)
    (h : Interleaving MemoryStore.store s events st) :
    st.contents.documents = (committedWrites events).foldl writePackages s.documents ∧
      st.contents.writes = s.writes + (committedWrites events).length ∧
      (∀ i e, .failed i e ∉ events) ∧ st.contents.documents.keys = s.documents.keys ∧
      ∀ id key, key ≠ "packages" →
        (st.contents.get? id).bind (·.get? key) = (s.get? id).bind (·.get? key) := by
  have hisolated := isolated_of_interleaving hs h
  refine ⟨hisolated.documents, hisolated.writes, hisolated.succeeded, ?_, fun id key hkey => ?_⟩
  · rw [hisolated.documents, keys_foldl_writePackages]
  · rw [get?, get?, hisolated.documents, get?_foldl_writePackages _ _ _ hkey]

/-- Two records without packages. -/
def bareStore : MemoryStore := .ofRecords [⟨"a", .obj [("name", .str "x")]⟩, ⟨"b", .obj []⟩]

/-- Two transactions write to one record, and the one that wrote first is committed last. A third
one is rolled back. -/
theorem interleaving_isolated_bareStore : ∃ st,
    Interleaving MemoryStore.store bareStore
      [.started, .started, .started, .accepted 0 "a" (.arr []), .accepted 1 "a" (.bool true),
        .accepted 2 "b" (.arr []), .rejected 0 "c" .null (.store (.noRecord "c")), .committed 1,
        .rolledBack 2, .committed 0] st ∧
      st.contents.documents = [("a", .obj [("name", .str "x"), ("packages", .arr [])]),
        ("b", .obj [])] ∧ st.contents.writes = 2 := by
  have hholds : HoldsObjects bareStore.documents := by
    refine ⟨Table.sorted_ofList _, fun e he => ?_⟩
    obtain ⟨r, hr, rfl⟩ := List.mem_map.mp (Table.mem_of_mem_ofList he)
    rw [List.mem_cons, List.mem_singleton] at hr
    rcases hr with rfl | rfl <;> exact ⟨_, rfl⟩
  have hnil : Interleaving MemoryStore.store bareStore [] ⟨bareStore, []⟩ := .nil
  have hopened := ((hnil.snoc (.started rfl)).snoc (.started rfl)).snoc (.started rfl)
  have hwritten := ((hopened.snoc
    (show Step _ _ (.accepted 0 "a" (.arr [])) _ from .accepted rfl rfl)).snoc
    (show Step _ _ (.accepted 1 "a" (.bool true)) _ from .accepted rfl rfl)).snoc
    (show Step _ _ (.accepted 2 "b" (.arr [])) _ from .accepted rfl rfl)
  have hended := (((hwritten.snoc
    (show Step _ _ (.rejected 0 "c" .null _) _ from .rejected rfl rfl)).snoc
    (show Step _ _ (.committed 1) _ from .committed rfl rfl)).snoc
    (show Step _ _ (.rolledBack 2) _ from .rolledBack rfl)).snoc
    (show Step _ _ (.committed 0) _ from .committed rfl rfl)
  obtain ⟨hdocuments, hwrites, -⟩ := interleaving_isolated hholds hended
  exact ⟨_, hended, hdocuments.trans (by decide), hwrites.trans (by decide)⟩

end MemoryStore

end Catalog
