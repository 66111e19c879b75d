import Catalog.Proofs.Migration.KeepsOwn

/-!
# Packages that go to another record

A record that would get the packages of another one gets them in some run: in the run whose first
chunk starts with the records that have its id, and ends with the one whose packages go astray. The
chunks after this one deal with greater ids, and leave the record as it is.

## Main results

* `Migration.runChunks_frame` — what a run in chunks does not deal with.
* `Migration.exists_run_of_misdirected` — the run in which packages go astray.
* `Migration.run_keepsOwn_iff` — **when all runs keep to the documents of each record.**
* `Migration.exists_run_of_drifting` — doubles that do not read back change all the same.
-/

namespace Catalog

open Json (Members Number)

namespace Migration

variable {s : FileStore} {K K' L b : List Record} {r r' : Record} {m : Migration}
  {cursor : Option String} {n : Nat}

theorem insert_singleton (id : String) (packages packages' : Json) :
    Table.insert [(id, packages)] id packages' = [(id, packages')] := by
  rw [Table.insert, if_neg (String.lt_irrefl id), if_pos rfl]

/-- Writes under one id leave the last of them. -/
theorem foldl_insert_of_forall_eq {planned : List Planned} {id : String}
    (hplanned : ∀ p ∈ planned, p.id = id) {t : FileStore.Pending}
    (ht : t = [] ∨ ∃ packages, t = [(id, packages)]) :
    planned.foldl (fun t p => Table.insert t p.id p.packages) t = [] ∨
      ∃ packages,
        planned.foldl (fun t p => Table.insert t p.id p.packages) t = [(id, packages)] := by
  induction planned generalizing t with
  | nil => exact ht
  | cons p planned ih =>
    obtain ⟨rfl, hplanned⟩ := List.forall_mem_cons.mp hplanned
    refine ih hplanned (Or.inr ⟨p.packages, ?_⟩)
    rcases ht with rfl | ⟨packages, rfl⟩
    · rfl
    · exact insert_singleton p.id packages p.packages

/-- What is pending when everything was planned under one id: the last packages. -/
theorem pendingOf_append {q : Record} {packages : Json} (hb : ∀ r ∈ b, r.id = q.id)
    (hq : q.replacement? = some packages) : pendingOf (b ++ [q]) = [(q.id, packages)] := by
  have hids : ∀ p ∈ replacements b, p.id = q.id := by
    intro p hp
    obtain ⟨r, hr, -, hid⟩ := mem_replacements_iff.mp hp
    rw [hid, hb r hr]
  have hlast : replacements (b ++ [q]) = replacements b ++ [⟨q.id, packages⟩] := by
    rw [replacements, replacements, List.filterMap_append]
    simp [hq]
  rw [pendingOf, hlast, List.foldl_append]
  rcases foldl_insert_of_forall_eq hids (Or.inl rfl) with hnil | ⟨packages', hone⟩
  · rw [hnil]
    rfl
  · rw [hone]
    exact insert_singleton q.id packages' packages

/-- A run in chunks leaves the records before its cursor as they are. -/
theorem runChunks_frame (hlive : m.mode = .live) {st : MigrationState FileStore}
    (hst : st.store.Holds K) (fuel chunk : Nat) :
    ∃ st' K', m.runChunks FileStore.store n fuel chunk cursor st = (st', .ok ()) ∧
      st'.store.Holds K' ∧
      List.Forall₂ (fun r r' => isAfter cursor r.id = false → r' = r) K K' := by
  let I (cursor' : Option String) (K' : List Record) : Prop :=
    List.Forall₂ (fun r r' => r'.id = r.id ∧ (isAfter cursor r.id = false → r' = r)) K K' ∧
      ∀ r : Record, isAfter cursor' r.id = true → isAfter cursor r.id = true
  have hself : I cursor K := ⟨List.forall₂_same.mpr fun r _ => ⟨rfl, fun _ => rfl⟩, fun _ h => h⟩
  have hstep : ∀ {cursor' K' K'' last}, I cursor' K' → K'.Pairwise (fun a b => a.id ≤ b.id) →
      (window K' cursor' (some n)).getLast? = some last →
      List.Forall₂ (Rewrites K' (window K' cursor' (some n))) K' K'' → I (some last.id) K'' := by
    intro cursor' K' K'' last hI _ hlast hrewrites
    refine ⟨forall₂_trans hI.1 hrewrites fun hr hr' => ⟨?_, fun hbefore => ?_⟩, fun r hafter => ?_⟩
    · rw [hr'.id_eq, hr.1]
    · rw [hr'.eq_of_forall_ne, hr.2 hbefore]
      intro q hq heq
      have hafter := hI.2 q (isAfter_of_mem_window hq)
      rw [heq, hr.1, hbefore] at hafter
      cases hafter
    · exact hI.2 r (isAfter_of_isAfter (isAfter_of_mem_window (List.mem_of_getLast? hlast)) hafter)
  obtain ⟨st', _, K', hrun, hK', hI⟩ :=
    runChunks_invariant hlive (I := I) hstep hst hself fuel chunk
  exact ⟨st', K', hrun, hK', hI.1.imp fun r r' hr => hr.2⟩

/-- A chunk whose commit finds every record it writes to. -/
theorem runChunk_of_applyWrites (hlive : m.mode = .live) {st : MigrationState FileStore}
    (hst : st.store.Holds K) (hsound : ∀ q ∈ b, ¬ q.IsMalformed) (hne : pendingOf b ≠ [])
    (h : FileStore.applyWrites K (pendingOf b) = .ok (K', [])) (chunk : Nat)
    (firstId lastId : String) :
    (m.runChunk FileStore.store chunk firstId lastId b st).store = st.store.save K' := by
  have hplan := planAll_of_not_isMalformed hsound st.report
  have hpersist := persist_of_applyWrites hlive hst.load hne h
  rw [runChunk, hplan]
  simp only [hpersist]

/-- The first chunk of the run that misdirects packages. -/
theorem runChunk_misdirected (hlive : m.mode = .live) {st : MigrationState FileStore}
    (hst : st.store.Holds L) {q : Record} {between after : List Record} {ms : Members}
    {packages : Json} (hsplit : L.filter (fun p => p.id = q.id) = r :: between ++ q :: after)
    (hplain : ∀ p ∈ r :: between, ¬ p.IsMalformed) (hreplacement : q.replacement? = some packages)
    (hdoc : r.document = .obj ms) (chunk : Nat) (firstId lastId : String) :
    ∃ front back, L = front ++ r :: back ∧
      (m.runChunk FileStore.store chunk firstId lastId
        ((r :: between).filter (fun p => p.packages?.isSome) ++ [q]) st).store.Holds
        (front ++ ⟨r.id, .obj (Members.set ms "packages" packages)⟩ :: back) := by
  have hids : ∀ p ∈ r :: between ++ q :: after, p ∈ L ∧ p.id = q.id := by
    intro p hp
    rw [← hsplit] at hp
    exact ⟨List.mem_of_mem_filter hp, by simpa using (List.mem_filter.mp hp).2⟩
  obtain ⟨front, back, rfl, hfirst, -, -⟩ := List.filter_eq_cons_iff.mp hsplit
  have hrid : r.id = q.id := (hids r List.mem_cons_self).2
  have hq := Record.not_isMalformed_of_replacement? hreplacement
  generalize hb : (r :: between).filter (fun p => p.packages?.isSome) = b
  have hmem : ∀ p ∈ b, p ∈ r :: between := by
    intro p hp
    rw [← hb] at hp
    exact List.mem_of_mem_filter hp
  have hsound : ∀ p ∈ b ++ [q], ¬ p.IsMalformed := by
    rw [List.forall_mem_append, List.forall_mem_singleton]
    exact ⟨fun p hp => hplain p (hmem p hp), hq⟩
  -- everything is planned under one id, and the last packages count
  have hpending : pendingOf (b ++ [q]) = [(r.id, packages)] := by
    rw [hrid]
    exact pendingOf_append
      (fun p hp => (hids p (List.mem_append_left _ (hmem p hp))).2) hreplacement
  -- the commit gives them to the first record with the id
  have happly : FileStore.applyWrites (front ++ r :: back) (pendingOf (b ++ [q])) =
      .ok (front ++ ⟨r.id, .obj (Members.set ms "packages" packages)⟩ :: back, []) := by
    rw [hpending]
    refine FileStore.applyWrites_singleton (fun p hp heq => hfirst p hp ?_) hdoc
    rw [heq, hrid, decide_eq_true rfl]
  have hstorable : FileStore.Storable
      (front ++ ⟨r.id, .obj (Members.set ms "packages" packages)⟩ :: back) := by
    refine storable_of_rewrites hst.storable ?_ (rewrites_of_applyWrites hsound happly)
    rw [List.forall_mem_append, List.forall_mem_singleton]
    exact ⟨fun p hp => (hids p (List.mem_append_left _ (hmem p hp))).1, (hids q (by simp)).1⟩
  refine ⟨front, back, rfl, ?_⟩
  have hne : pendingOf (b ++ [q]) ≠ [] := by
    rw [hpending]
    exact List.cons_ne_nil _ _
  rw [runChunk_of_applyWrites hlive hst hsound hne happly]
  exact ⟨FileStore.load_save _ hstorable, hstorable⟩

theorem exists_of_forall₂_append {R S : Record → Record → Prop} {front back : List Record}
    (h : List.Forall₂ R (front ++ r :: back) K) (h' : List.Forall₂ S (front ++ r' :: back) K) :
    ∃ x, R r x ∧ S r' x := by
  induction front generalizing K with
  | nil =>
    cases h with
    | cons hr _ =>
      cases h' with
      | cons hr' _ => exact ⟨_, hr, hr'⟩
  | cons p front ih =>
    cases h with
    | cons _ h =>
      cases h' with
      | cons _ h' => exact ih h h'

/-- A run in chunks succeeds, and after its first chunk it leaves the records of that chunk as they
are. -/
theorem exists_run_of_runChunk {last : Record} (hs : s.Holds L)
    (hwindow : window L cursor (some (n + 1)) = b) (hfirst : b.head? = some r)
    (hlast : b.getLast? = some last)
    (hchunk : (runChunk ⟨.live, .chunked (n + 1), cursor⟩ FileStore.store 0 r.id last.id b
      ⟨s, .empty .live (.chunked (n + 1)) cursor, []⟩).store.Holds K) :
    ∃ s' events report K',
      run ⟨.live, .chunked (n + 1), cursor⟩ FileStore.store s = (s', events, .ok report) ∧
        s'.Holds K' ∧
        List.Forall₂ (fun r r' => isAfter (some last.id) r.id = false → r' = r) K K' := by
  let m : Migration := ⟨.live, .chunked (n + 1), cursor⟩
  let st : MigrationState FileStore := ⟨s, .empty m.mode m.strategy m.resumeFrom, []⟩
  have hselect := FileStore.select_of_load hs.load cursor (some (n + 1))
  rw [hwindow] at hselect
  have hrecords : ∃ st' K', m.runRecords FileStore.store st = (st', .ok ()) ∧ st'.store.Holds K' ∧
      List.Forall₂ (fun r r' => isAfter (some last.id) r.id = false → r' = r) K K' := by
    have hbound : m.chunkBound FileStore.store s = (window L cursor none).length + 1 := by
      rw [chunkBound, FileStore.select_of_load hs.load]
    show ∃ st' K', m.runChunks FileStore.store (n + 1) (m.chunkBound FileStore.store s) 0 cursor
      st = (st', .ok ()) ∧ _
    rw [hbound, runChunks_of_ne_nil hselect hfirst hlast]
    split
    · -- the chunk was not full, so it is the only one
      exact ⟨_, K, rfl, hchunk, List.forall₂_same.mpr fun _ _ _ => rfl⟩
    · exact runChunks_frame rfl hchunk _ 1
  obtain ⟨st', K', hrecords, hK', hframe⟩ := hrecords
  obtain ⟨events, hrun⟩ := exists_run_of_runRecords (m := m) s rfl hrecords
    (FileStore.select_of_load hK'.load cursor none)
  exact ⟨_, events, _, K', hrun, hK', hframe⟩

/-- A record with misdirected packages gets them in some run. -/
theorem exists_run_of_misdirected (hs : s.Holds L) (h : Misdirected L) :
    ∃ m : Migration, m.mode = .live ∧ ∃ s' events report,
      m.run FileStore.store s = (s', events, .ok report) ∧
      ∀ L', s'.load = .ok L' → ¬ List.Forall₂ KeepsOwn L L' := by
  obtain ⟨r, between, q, after, ms, packages, hsplit, hplain, hreplacement, hdoc, hstored,
    hcanonical⟩ := h.exists_cons
  have hrid : r.id = q.id := by
    have hr : r ∈ L.filter fun p => p.id = q.id := by
      rw [hsplit]
      exact List.mem_cons_self
    simpa using (List.mem_filter.mp hr).2
  have hpackages : q.packages?.isSome = true := by
    obtain ⟨xs, hxs⟩ := Record.exists_arr_of_replacement? hreplacement
    rw [hxs]
    rfl
  obtain ⟨cursor, hcursor⟩ := exists_cursor hs.storable.sorted q.id
  -- the first chunk ends with the record whose packages go astray
  have hwindow := window_of_filter_eq hs.storable.sorted hcursor hsplit hpackages
  generalize hb : (r :: between).filter (fun p => p.packages?.isSome) = b at hwindow
  have hlast : (b ++ [q]).getLast? = some q := List.getLast?_concat
  obtain ⟨first, _, hfirst, -⟩ := exists_head?_getLast? (show b ++ [q] ≠ [] by simp)
  let m : Migration := ⟨.live, .chunked (b.length + 1), cursor⟩
  have hst : (MigrationState.mk s (.empty m.mode m.strategy m.resumeFrom) []).store.Holds L := hs
  obtain ⟨front, back, rfl, hchunk⟩ := runChunk_misdirected (m := m) rfl hst hsplit hplain
    hreplacement hdoc 0 first.id q.id
  rw [hb] at hchunk
  obtain ⟨s', events, report, K', hrun, hK', hframe⟩ :=
    exists_run_of_runChunk hs hwindow hfirst hlast hchunk
  refine ⟨m, rfl, s', events, report, hrun, fun L' hL' hkeeps => ?_⟩
  obtain rfl := Except.ok.inj (hK'.load.symm.trans hL')
  -- the record has the same place before and after the run
  obtain ⟨x, hx, hxframe⟩ := exists_of_forall₂_append hkeeps hframe
  have hbefore : isAfter (some q.id) r.id = false := by
    rw [isAfter, hrid]
    exact decide_eq_false (String.lt_irrefl _)
  rw [hxframe hbefore] at hx
  exact hx.2.elim hstored hcanonical

/-- **All live runs over a file keep to the documents of each record exactly when no record would
get the packages of another one**, in a file whose doubles read back from their texts. -/
theorem run_keepsOwn_iff (hload : s.load = .ok L)
    (hdoubles : ∀ r ∈ L, ∀ x, Number.float x ∈ r.document.numbers → (Number.float x).ReadsBack) :
    (∀ m : Migration, m.mode = .live → ∀ s' events report,
        m.run FileStore.store s = (s', events, .ok report) →
          ∃ L', s'.load = .ok L' ∧ List.Forall₂ KeepsOwn L L') ↔ ¬ Misdirected L := by
  have hs : s.Holds L := ⟨hload, FileStore.storable_of_load hload hdoubles⟩
  constructor
  · intro hall hmisdirected
    obtain ⟨m, hlive, s', events, report, hrun, hnot⟩ := exists_run_of_misdirected hs hmisdirected
    obtain ⟨L', hL', hkeeps⟩ := hall m hlive s' events report hrun
    exact hnot L' hL' hkeeps
  · intro hL m hlive s' events report hrun
    exact exists_of_run_ok hlive hs hL hrun

/-- A package without a transport. -/
def bareImage : Json := .obj [("registryType", .str "npm"), ("identifier", .str "x")]

/-- A record that has nothing to write, with a double in it, and one that has. -/
def weighedRecords (x : Binary64) (id : String) : List Record :=
  [⟨"a", .obj [("weight", .num (.float x)), ("packages", .arr [])]⟩,
    ⟨id, .obj [("packages", .arr [bareImage])]⟩]

/-- One half. -/
def half : Binary64 := ⟨false, ⟨4503599627370496, -53⟩⟩

theorem readsBack_half : (Number.float half).ReadsBack := by
  decide +kernel

theorem storable_weighedRecords {x : Binary64} {id : String} (hid : "a" ≤ id)
    (hx : (Number.float x).ReadsBack) : FileStore.Storable (weighedRecords x id) where
  sorted := by simpa [weighedRecords] using hid
  documents := by
    rw [weighedRecords, List.forall_mem_cons, List.forall_mem_singleton]
    constructor
    · refine .obj (by simp [Members.keys]) ?_
      rw [List.forall_mem_cons, List.forall_mem_singleton]
      exact ⟨.num hx, .arr fun y hy => by cases hy⟩
    · refine .obj (by decide) ?_
      rw [List.forall_mem_singleton]
      refine .arr ?_
      rw [List.forall_mem_singleton]
      refine .obj (by decide) ?_
      rw [List.forall_mem_cons, List.forall_mem_singleton]
      exact ⟨.str _, .str _⟩

theorem run_keepsOwn_weighedRecords :
    (FileStore.ofRecords "f.json" (weighedRecords half "b")).load = .ok (weighedRecords half "b") ∧
      ∀ m : Migration, m.mode = .live → ∀ s' events report,
        m.run FileStore.store (.ofRecords "f.json" (weighedRecords half "b")) =
            (s', events, .ok report) →
          ∃ L', s'.load = .ok L' ∧ List.Forall₂ KeepsOwn (weighedRecords half "b") L' := by
  have hload := FileStore.load_ofRecords "f.json"
    (storable_weighedRecords (show "a" ≤ "b" by decide) readsBack_half)
  refine ⟨hload, (run_keepsOwn_iff hload ?_).mpr fun h => h.not_nodup (by decide)⟩
  intro r hr x hx
  have hhalf : Number.float x = .float half := by
    rw [weighedRecords, List.mem_cons, List.mem_singleton] at hr
    rcases hr with rfl | rfl
    · exact List.mem_singleton.mp hx
    · cases hx
  rw [hhalf]
  exact readsBack_half

theorem not_isMalformed_weighedRecords (x : Binary64) (id : String) :
    ∀ r ∈ weighedRecords x id, ¬ r.IsMalformed := by
  rintro r hr ⟨v, hv, hno⟩
  rw [weighedRecords, List.mem_cons, List.mem_singleton] at hr
  rcases hr with rfl | rfl
  · exact hno [] (Option.some.inj hv).symm
  · exact hno [bareImage] (Option.some.inj hv).symm

/-- The first record gets the package of the second one, which has the same id. -/
theorem misdirected_weighedRecords : Misdirected (weighedRecords half "a") := by
  refine ⟨⟨"a", .obj [("weight", .num (.float half)), ("packages", .arr [])]⟩, _,
    canonicalizePackages (.arr [bareImage]), ⟨[_], _, [], rfl, ?_, by decide, rfl⟩, rfl, by decide,
    by decide⟩
  rw [List.forall_mem_singleton]
  exact not_isMalformed_weighedRecords half "a" _ List.mem_cons_self

theorem not_run_keepsOwn_weighedRecords :
    (FileStore.ofRecords "f.json" (weighedRecords half "a")).load = .ok (weighedRecords half "a") ∧
      ¬ ∀ m : Migration, m.mode = .live → ∀ s' events report,
        m.run FileStore.store (.ofRecords "f.json" (weighedRecords half "a")) =
            (s', events, .ok report) →
          ∃ L', s'.load = .ok L' ∧ List.Forall₂ KeepsOwn (weighedRecords half "a") L' := by
  have hstorable := storable_weighedRecords (String.le_refl "a") readsBack_half
  have hload := FileStore.load_ofRecords "f.json" hstorable
  refine ⟨hload, fun hall => ?_⟩
  obtain ⟨m, hlive, s', events, report, hrun, hnot⟩ :=
    exists_run_of_misdirected ⟨hload, hstorable⟩ misdirected_weighedRecords
  obtain ⟨L', hL', hkeeps⟩ := hall m hlive s' events report hrun
  exact hnot L' hL' hkeeps

/-! ### Doubles that do not read back -/

/-- An atomic run over a file writes what its commit makes of the records. -/
theorem exists_run_of_applyWrites (cursor : Option String) (hload : s.load = .ok K)
    (hsound : ∀ q ∈ window K cursor none, ¬ q.IsMalformed)
    (hne : pendingOf (window K cursor none) ≠ [])
    (h : FileStore.applyWrites K (pendingOf (window K cursor none)) = .ok (K', []))
    (hsaved : (s.save K').load = .ok L) :
    ∃ events report,
      run ⟨.live, .atomic, cursor⟩ FileStore.store s = (s.save K', events, .ok report) := by
  let m : Migration := ⟨.live, .atomic, cursor⟩
  let st : MigrationState FileStore := ⟨s, .empty m.mode m.strategy m.resumeFrom, []⟩
  have hplan := planAll_of_not_isMalformed hsound st.report
  have hpersist := persist_of_applyWrites (m := m) rfl hload hne h
  have hrecords : ∃ st', m.runRecords FileStore.store st = (st', .ok ()) ∧
      st'.store = s.save K' := by
    show ∃ st', m.runAtomic FileStore.store st = (st', .ok ()) ∧ _
    rw [runAtomic, FileStore.select_of_load hload]
    dsimp only
    rw [hplan]
    dsimp only
    rw [hpersist]
    exact ⟨_, rfl, rfl⟩
  obtain ⟨st', hrecords, hstore⟩ := hrecords
  rw [← hstore] at hsaved ⊢
  obtain ⟨events, hrun⟩ := exists_run_of_runRecords (m := m) s rfl hrecords
    (FileStore.select_of_load hsaved cursor none)
  exact ⟨events, _, hrun⟩

/-- Two doubles each of which is read from the text of the other one. -/
def drifting (upper : Bool) : Binary64 :=
  ⟨false, ⟨if upper then 5708990770823840 else 5708990770823839, -152⟩⟩

/-- A record with a double and packages. -/
def driftingRecord (upper : Bool) (packages : Json) : Record :=
  ⟨"a", .obj [("weight", .num (.float (drifting upper))), ("packages", packages)]⟩

/-- Packages are not misdirected in a file with one record, but a run that writes the record changes
a double in it, which does not read back from its text. -/
theorem exists_run_of_drifting :
    ∃ (s s' : FileStore) (m : Migration) (L L' : List Record) (events : List MigrationEvent)
      (report : MigrationReport), s.load = .ok L ∧ ¬ Misdirected L ∧ m.mode = .live ∧
        m.run FileStore.store s = (s', events, .ok report) ∧ s'.load = .ok L' ∧
        ¬ List.Forall₂ KeepsOwn L L' := by
  let stored : Json := .arr [bareImage]
  have hload : (FileStore.ofRecords "f.json" [driftingRecord true stored]).load =
      .ok [driftingRecord false stored] :=
    FileStore.load_of_decodeText (by decide +kernel) (List.pairwise_singleton _ _)
  have hsaved : (FileStore.ofRecords "f.json"
        [driftingRecord false (canonicalizePackages stored)]).load =
      .ok [driftingRecord true (canonicalizePackages stored)] :=
    FileStore.load_of_decodeText (by decide +kernel) (List.pairwise_singleton _ _)
  have hsound : ∀ q ∈ window [driftingRecord false stored] none none, ¬ q.IsMalformed := by
    rintro q hq ⟨v, hv, hno⟩
    rw [List.mem_singleton.mp (mem_window_iff.mp hq).1] at hv
    exact hno [bareImage] (Option.some.inj hv).symm
  obtain ⟨events, report, hrun⟩ := exists_run_of_applyWrites none hload hsound
    (by decide) (by decide) hsaved
  refine ⟨_, _, _, _, _, _, _, hload, fun h => h.not_nodup (List.nodup_singleton _), rfl, hrun,
    hsaved, ?_⟩
  intro hkeeps
  cases hkeeps with
  | cons hfirst _ => exact absurd hfirst.2 (by decide)

end Migration

end Catalog
