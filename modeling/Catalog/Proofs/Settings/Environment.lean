import Catalog.Settings.Environment
import Catalog.Proofs.Text.Cut

/-!
# Settings from environment variables

Each of the variables that count changes one setting of its own, to a value that depends on the
variable alone. So it does not matter in which order the variables come: either all of them can be
used, and then each setting has the value of its variable, or one of them stops the rest, wherever
it stands.

## Main definitions

* `Setting`, `Setting.Value` — a setting that a variable changes, and what its values are.
* `Settings.get`, `Settings.assign` — the value of a setting, and the settings with another one.
* `Settings.reading` — what comes of reading a variable.
* `Settings.IsUsable`, `Settings.assignment?` — whether a variable can be used, and what it assigns.

## Main results

* `applyVariable_eq` — what one variable does.
* `applyVariables_eq_ok_iff` — when a list of variables can be used, and what it leaves.
* `eq_foldl_assign_iff` — what assignments to different settings leave.
* `applyVariables_perm` — **the order of the variables does not matter, and neither does applying
  them again.**
-/

namespace Catalog

open Text

/-! ### Single settings -/

/-- A setting that an environment variable changes. -/
inductive Setting where
  | lookupEnabled
  | timeoutSeconds
  | npmBaseUrl
  | pypiBaseUrl
  | nugetBaseUrl
  | bundleHosts
  | policy
  | imageHosts
  | plainHosts
  | strictVariables
  | chunkSize
deriving DecidableEq, Repr, Inhabited

namespace Setting

/-- The values of a setting. -/
def Value : Setting → Type
  | lookupEnabled | strictVariables => Bool
  | timeoutSeconds | chunkSize => Nat
  | npmBaseUrl | pypiBaseUrl | nugetBaseUrl => String
  | bundleHosts | imageHosts | plainHosts => List String
  | policy => PolicyMode

/-- The name of the variable of a setting, after the common front. -/
def name : Setting → String
  | lookupEnabled => "ENABLE_REGISTRY_VALIDATION"
  | timeoutSeconds => "FETCH_TIMEOUT_SECS"
  | npmBaseUrl => "NPM_BASE_URL"
  | pypiBaseUrl => "PYPI_BASE_URL"
  | nugetBaseUrl => "NUGET_BASE_URL"
  | bundleHosts => "MCPB_ALLOWED_HOSTS"
  | policy => "OCI_POLICY"
  | imageHosts => "OCI_ALLOWED_HOSTS"
  | plainHosts => "PLAIN_HTTP_HOSTS"
  | strictVariables => "STRICT_URL_VARIABLES"
  | chunkSize => "MIGRATION_CHUNK_SIZE"

/-- All settings that a variable changes. -/
def all : List Setting :=
  [lookupEnabled, timeoutSeconds, npmBaseUrl, pypiBaseUrl, nugetBaseUrl, bundleHosts, policy,
    imageHosts, plainHosts, strictVariables, chunkSize]

/-- The setting whose variable has a name after the common front. -/
def ofName? (name : String) : Option Setting := all.find? (·.name = name)

theorem ofName?_eq_some_iff {name : String} {f : Setting} :
    ofName? name = some f ↔ f.name = name := by
  constructor
  · intro h
    simpa using List.find?_some h
  · rintro rfl
    cases f <;> decide

theorem ofName?_eq_none_iff {name : String} :
    ofName? name = none ↔ ∀ f : Setting, f.name ≠ name := by
  rw [Option.eq_none_iff_forall_ne_some]
  exact forall_congr' fun f => not_congr ofName?_eq_some_iff

/-- The value that the text of its variable gives a setting. -/
def read (f : Setting) (key value : String) : Except ConfigFault f.Value :=
  match f with
  | lookupEnabled | strictVariables => Settings.readTruth key value
  | timeoutSeconds | chunkSize => Settings.readNumber key value
  | npmBaseUrl | pypiBaseUrl | nugetBaseUrl => .ok value
  | bundleHosts | imageHosts | plainHosts => .ok (Settings.readList value)
  | policy => Settings.readPolicy key value

end Setting

namespace Settings

variable {s t : Settings} {f g : Setting} {a : f.Value} {cs : List Assignment}
  {v : String × String} {vs ws : List (String × String)}

/-- The value of a setting. -/
def get (s : Settings) : (f : Setting) → f.Value
  | .lookupEnabled => s.lookupEnabled
  | .timeoutSeconds => s.timeoutSeconds
  | .npmBaseUrl => s.npmBaseUrl
  | .pypiBaseUrl => s.pypiBaseUrl
  | .nugetBaseUrl => s.nugetBaseUrl
  | .bundleHosts => s.bundleHosts
  | .policy => s.policy
  | .imageHosts => s.imageHosts
  | .plainHosts => s.plainHosts
  | .strictVariables => s.strictVariables
  | .chunkSize => s.chunkSize

/-- A setting and its new value. -/
abbrev Assignment := (f : Setting) × f.Value

/-- The settings with a new value of one of them. -/
def assign (s : Settings) : Assignment → Settings
  | ⟨.lookupEnabled, b⟩ => { s with lookupEnabled := b }
  | ⟨.timeoutSeconds, n⟩ => { s with timeoutSeconds := n }
  | ⟨.npmBaseUrl, url⟩ => { s with npmBaseUrl := url }
  | ⟨.pypiBaseUrl, url⟩ => { s with pypiBaseUrl := url }
  | ⟨.nugetBaseUrl, url⟩ => { s with nugetBaseUrl := url }
  | ⟨.bundleHosts, hosts⟩ => { s with bundleHosts := hosts }
  | ⟨.policy, p⟩ => { s with policy := p }
  | ⟨.imageHosts, hosts⟩ => { s with imageHosts := hosts }
  | ⟨.plainHosts, hosts⟩ => { s with plainHosts := hosts }
  | ⟨.strictVariables, b⟩ => { s with strictVariables := b }
  | ⟨.chunkSize, n⟩ => { s with chunkSize := n }

theorem get_assign_self (a : f.Value) : (s.assign ⟨f, a⟩).get f = a := by
  cases f <;> rfl

/-- A new value of one setting leaves the others alone. -/
theorem get_assign_of_ne (h : f ≠ g) (a : f.Value) : (s.assign ⟨f, a⟩).get g = s.get g := by
  cases f <;> cases g <;> first | rfl | exact absurd rfl h

/-- Settings are known by the values of the single ones. -/
theorem ext_get (h : ∀ f, s.get f = t.get f) : s = t := by
  obtain ⟨b, n, npm, pypi, nuget, bundles, p, images, plain, strict, size⟩ := s
  obtain rfl : b = _ := h .lookupEnabled
  obtain rfl : n = _ := h .timeoutSeconds
  obtain rfl : npm = _ := h .npmBaseUrl
  obtain rfl : pypi = _ := h .pypiBaseUrl
  obtain rfl : nuget = _ := h .nugetBaseUrl
  obtain rfl : bundles = _ := h .bundleHosts
  obtain rfl : p = _ := h .policy
  obtain rfl : images = _ := h .imageHosts
  obtain rfl : plain = _ := h .plainHosts
  obtain rfl : strict = _ := h .strictVariables
  obtain rfl : size = _ := h .chunkSize
  rfl

/-! ### Assignments to different settings -/

/-- A setting that nothing is assigned to keeps its value. -/
theorem get_foldl_assign_of_notMem (h : ∀ c ∈ cs, c.1 ≠ f) :
    (cs.foldl assign s).get f = s.get f := by
  induction cs generalizing s with
  | nil => rfl
  | cons c cs ih =>
    obtain ⟨hc, hcs⟩ := List.forall_mem_cons.mp h
    rw [List.foldl_cons, ih hcs, get_assign_of_ne hc]

/-- A setting has the value that is assigned to it. -/
theorem get_foldl_assign_of_mem (h : cs.Pairwise fun c d => c.1 ≠ d.1) (hmem : ⟨f, a⟩ ∈ cs) :
    (cs.foldl assign s).get f = a := by
  induction cs generalizing s with
  | nil => simp at hmem
  | cons c cs ih =>
    obtain ⟨hc, hcs⟩ := List.pairwise_cons.mp h
    rw [List.foldl_cons]
    rcases List.mem_cons.mp hmem with rfl | hmem
    · rw [get_foldl_assign_of_notMem fun d hd => (hc d hd).symm, get_assign_self]
    · exact ih hcs hmem

/-- What assignments to different settings leave: the values that are assigned, and for all other
settings what there was. -/
theorem eq_foldl_assign_iff (h : cs.Pairwise fun c d => c.1 ≠ d.1) : t = cs.foldl assign s ↔
    (∀ c ∈ cs, t.get c.1 = c.2) ∧ ∀ f, (∀ c ∈ cs, c.1 ≠ f) → t.get f = s.get f := by
  constructor
  · rintro rfl
    exact ⟨fun c hc => get_foldl_assign_of_mem h hc, fun f hf => get_foldl_assign_of_notMem hf⟩
  · rintro ⟨hassigned, hkept⟩
    refine ext_get fun f => ?_
    by_cases hf : ∃ c ∈ cs, c.1 = f
    · obtain ⟨c, hc, rfl⟩ := hf
      rw [hassigned c hc, get_foldl_assign_of_mem h hc]
    · have hnone : ∀ c ∈ cs, c.1 ≠ f := fun c hc heq => hf ⟨c, hc, heq⟩
      rw [hkept f hnone, get_foldl_assign_of_notMem hnone]

/-! ### Variables -/

/-- What comes of reading a variable: what it assigns, or why it cannot be used. A variable that
does not count assigns nothing. -/
def reading (v : String × String) : Except ConfigFault (Option Assignment) :=
  match (afterFront? variablePrefix.toList v.1.toList).bind fun name =>
    Setting.ofName? (String.ofList name) with
  | none => .ok none
  | some f => (f.read v.1 v.2).map fun a => some ⟨f, a⟩

/-- The value of a variable can be used. -/
def IsUsable (v : String × String) : Prop := ∃ c, reading v = .ok c

/-- What a variable assigns, if anything. -/
def assignment? (v : String × String) : Option Assignment := (reading v).toOption.join

/-- What the value of a variable does to the setting that the variable is for. -/
theorem override_eq (key name value : String) : s.override key name value =
    match Setting.ofName? name with
    | none => .ok s
    | some f => (f.read key value).map fun a => s.assign ⟨f, a⟩ := by
  cases h : Setting.ofName? name with
  | some f =>
    obtain rfl := Setting.ofName?_eq_some_iff.mp h
    cases f <;> simp [override, Setting.name] <;> rfl
  | none =>
    have hne : ∀ f ∈ Setting.all, ¬ name = f.name :=
      fun f _ => (Setting.ofName?_eq_none_iff.mp h f).symm
    simp only [Setting.all, Setting.name, List.forall_mem_cons] at hne
    simp only [override, hne, if_false]

/-- What a variable does is told by its reading, whatever the settings are. -/
theorem applyVariable_eq (s : Settings) (v : String × String) :
    s.applyVariable v.1 v.2 = (reading v).map fun c => c.elim s s.assign := by
  rw [applyVariable, reading]
  cases afterFront? variablePrefix.toList v.1.toList with
  | none => rfl
  | some name =>
    simp only [override_eq, Option.bind_some]
    cases Setting.ofName? (String.ofList name) with
    | none => rfl
    | some f =>
      dsimp only
      cases f.read v.1 v.2 <;> rfl

/-- A list of variables can be used when each of them can, and all that they assign is assigned. -/
theorem applyVariables_eq_ok_iff : s.applyVariables vs = (t, .ok ()) ↔
    (∀ v ∈ vs, IsUsable v) ∧ t = (vs.filterMap assignment?).foldl assign s := by
  induction vs generalizing s with
  | nil => simp [applyVariables, eq_comm]
  | cons v vs ih =>
    rw [applyVariables, applyVariable_eq, List.forall_mem_cons, IsUsable, List.filterMap_cons,
      assignment?]
    cases reading v with
    | error fault => simp [Except.map]
    | ok c => cases c <;> simp [Except.map, Except.toOption, ih]

/-- Only one variable is for a setting. -/
theorem eq_of_assignment? {c : Assignment} (h : assignment? v = some c) :
    v.1.toList = variablePrefix.toList ++ c.1.name.toList := by
  rw [assignment?, reading] at h
  split at h
  · cases h
  · next f hf =>
    obtain ⟨name, hname, hof⟩ := Option.bind_eq_some_iff.mp hf
    have hc : c.1 = f := by
      cases hread : f.read v.1 v.2 with
      | error fault =>
        rw [hread] at h
        cases h
      | ok a =>
        rw [hread] at h
        cases h
        rfl
    rw [hc, Setting.ofName?_eq_some_iff.mp hof, String.toList_ofList]
    exact afterFront?_eq_some_iff.mp hname

/-- Variables with different names assign to different settings. -/
theorem pairwise_assignments (h : (vs.map Prod.fst).Nodup) :
    (vs.filterMap assignment?).Pairwise fun c d => c.1 ≠ d.1 := by
  rw [List.pairwise_filterMap]
  refine (List.pairwise_map.mp h).imp fun {v w} hne c hc d hd heq => hne ?_
  rw [← String.toList_inj, eq_of_assignment? hc, eq_of_assignment? hd, heq]

/-- Variables that cannot all be used stop with a fault. -/
theorem exists_fault (h : ¬ ∀ v ∈ vs, IsUsable v) :
    ∃ fault, (s.applyVariables vs).2 = .error fault := by
  cases hresult : s.applyVariables vs with
  | mk t result =>
    cases result with
    | error fault => exact ⟨fault, rfl⟩
    | ok => exact absurd (applyVariables_eq_ok_iff.mp hresult).1 h

/-- **The order of variables with different names does not matter, and neither does applying them
again.** In every order they are all used and leave the same settings, which the same variables do
not change any more, or they are used in no order. -/
theorem applyVariables_perm (s : Settings) (hnames : (vs.map Prod.fst).Nodup)
    (hperm : vs.Perm ws) :
    (∃ t, s.applyVariables vs = (t, .ok ()) ∧ s.applyVariables ws = (t, .ok ()) ∧
      t.applyVariables vs = (t, .ok ())) ∨
    (∃ fault, (s.applyVariables vs).2 = .error fault) ∧
      ∃ fault, (s.applyVariables ws).2 = .error fault := by
  have husable : (∀ v ∈ ws, IsUsable v) ↔ ∀ v ∈ vs, IsUsable v :=
    forall_congr' fun v => imp_congr_left hperm.symm.mem_iff
  have hdiffer := pairwise_assignments hnames
  by_cases hall : ∀ v ∈ vs, IsUsable v
  · left
    let t := (vs.filterMap assignment?).foldl assign s
    obtain ⟨hassigned, hkept⟩ := (eq_foldl_assign_iff (t := t) hdiffer).mp rfl
    refine ⟨t, applyVariables_eq_ok_iff.mpr ⟨hall, rfl⟩, applyVariables_eq_ok_iff.mpr
      ⟨husable.mpr hall, ?_⟩, applyVariables_eq_ok_iff.mpr ⟨hall, ?_⟩⟩
    · have hdiffer' := pairwise_assignments ((hperm.map Prod.fst).nodup_iff.mp hnames)
      have hmem : ∀ c, c ∈ ws.filterMap assignment? ↔ c ∈ vs.filterMap assignment? :=
        fun c => (hperm.filterMap assignment?).symm.mem_iff
      refine (eq_foldl_assign_iff hdiffer').mpr ⟨fun c hc => hassigned c ((hmem c).mp hc), ?_⟩
      exact fun f hf => hkept f fun c hc => hf c ((hmem c).mpr hc)
    · exact (eq_foldl_assign_iff hdiffer).mpr ⟨hassigned, fun _ _ => rfl⟩
  · exact Or.inr ⟨exists_fault hall, exists_fault (mt husable.mp hall)⟩

/-- Three variables, of which one does not count. -/
def deployVariables : List (String × String) :=
  [("MCP_REGISTRY_OCI_ALLOWED_HOSTS", "ghcr.io, quay.io ,"), ("PATH", "/bin"),
    ("MCP_REGISTRY_FETCH_TIMEOUT_SECS", " 5")]

theorem applyVariables_perm_deployVariables : ∃ t,
    standard.applyVariables deployVariables = (t, .ok ()) ∧
      standard.applyVariables deployVariables.reverse = (t, .ok ()) ∧
      t.applyVariables deployVariables = (t, .ok ()) ∧
      t = { standard with imageHosts := ["ghcr.io", "quay.io"], timeoutSeconds := 5 } := by
  have hnames : (deployVariables.map Prod.fst).Nodup := by decide
  have hresult : standard.applyVariables deployVariables =
      ({ standard with imageHosts := ["ghcr.io", "quay.io"], timeoutSeconds := 5 }, .ok ()) := rfl
  rcases applyVariables_perm standard hnames (List.reverse_perm deployVariables).symm with
    ⟨t, h, hreverse, hagain⟩ | ⟨⟨fault, h⟩, -⟩
  · exact ⟨t, h, hreverse, hagain, (Prod.mk.inj (h.symm.trans hresult)).1⟩
  · rw [hresult] at h
    cases h

end Settings

end Catalog
