import Catalog.Proofs.Image.Parts
import Mathlib.Tactic.Tauto

/-!
# What the characters of an image name tell

Whether a name has a host, a tag or a digest is looked up in its characters, without reading it as a
reference. For a name that is a reference, what is found in this way is what was written, and a part
that is missing can be added to the text.

## Main definitions

* `ImageName.digestMark` — the front of a digest up to its separator.
* `Parts.tail`, `ending` — what is written behind the name, by the parts and by the reference.
* `TakesRegistry` — the registry of a reference is taken from a host in front of a text.
* `IsWhole` — the whole name in a text is the repository of a reference.

## Main results

* `ImageName.isBare_tagged_iff` — when a name with a tag behind it still counts as one without.
* `Parts.Spells.host_eq_some_iff`, `Parts.Spells.namesHost_iff`, `Parts.Spells.isBare_iff` — **what
  the characters of a reference tell is what is written in it.**
* `Parts.Spells.withHost`, `Parts.Spells.withTag` — a host before a reference and a tag behind it.
* `recognizers_agree` — **what the characters of a text tell is what the text is read as.**
-/

namespace Catalog

open Text

/-! ### Names without tag and digest -/

namespace ImageName

/-- The front of a digest up to its separator. -/
def digestMark : List Char := "@sha256".toList

theorem digestMark_append : digestMark ++ [':'] = "@sha256:".toList := by decide

theorem colon_notMem_digestMark : ':' ∉ digestMark := by decide

theorem slash_notMem_digestMark : '/' ∉ digestMark := by decide

theorem isBare_iff {name : String} :
    isBare name = true ↔
      ¬ digestMark ++ [':'] <:+: name.toList ∧ ':' ∉ lastField '/' name.toList := by
  rw [isBare, Bool.and_eq_true, Bool.not_eq_true', Bool.not_eq_true', ← Bool.not_eq_true,
    ← Bool.not_eq_true, occursIn_iff, digestMark_append, List.contains_iff_mem]

/-- A tag makes a name complete, unless it holds a slash with nothing like a tag or digest behind
it and the name does not end in the front of a digest. -/
theorem isBare_tagged_iff {name tag : String} (hname : isBare name = true) :
    isBare (name ++ ":" ++ tag) = true ↔
      '/' ∈ tag.toList ∧ isBare tag = true ∧ ¬ digestMark <:+ name.toList := by
  obtain ⟨hdigest, -⟩ := isBare_iff.mp hname
  have hlist : (name ++ ":" ++ tag).toList = name.toList ++ ':' :: tag.toList := by simp
  rw [isBare_iff, isBare_iff, hlist, infix_append_cons_iff colon_notMem_digestMark]
  by_cases hslash : '/' ∈ tag.toList
  · have hlast : lastField '/' (name.toList ++ ':' :: tag.toList) = lastField '/' tag.toList := by
      rw [List.append_cons, lastField_append_of_mem hslash]
    rw [hlast]
    tauto
  · -- without a slash the last component of the name ends in the tag
    have hlast : ':' ∈ lastField '/' (name.toList ++ ':' :: tag.toList) := by
      rw [lastField_append (by simp [hslash])]
      simp
    exact iff_of_false (fun h => h.2 hlast) fun h => hslash h.1

end ImageName

namespace ImageReference

variable {text : String} {w : Parts} {r : ImageReference} {back host : List Char}

/-! ### The registry of a host -/

/-- All names of the Docker Hub have a dot, and none has a slash. -/
theorem dot_mem_of_mem_hubAliases (h : String.ofList (host.map Char.toLower) ∈ hubAliases) :
    '.' ∈ host ∧ '/' ∉ host := by
  rw [← mem_map_toLower_iff (c := '.') (by decide), ← mem_map_toLower_iff (c := '/') (by decide),
    ← String.toList_ofList (l := host.map Char.toLower)]
  revert h
  generalize String.ofList (host.map Char.toLower) = lower
  intro h
  simp only [hubAliases, List.mem_cons, List.not_mem_nil, or_false] at h
  rcases h with rfl | rfl | rfl <;> decide

theorem Parts.registry_eq_normalizeRegistry (h : w.host = some host) :
    w.registry = normalizeRegistry host := by
  rw [← normalizeRegistry_host, h, Option.getD_some]

theorem Parts.registry_of_host_eq_none (h : w.host = none) : w.registry = defaultRegistry := by
  rw [registry, h]
  rfl

/-- A host without a dot is its own registry. -/
theorem normalizeRegistry_ne_defaultRegistry (h : '.' ∉ host) :
    normalizeRegistry host ≠ defaultRegistry := by
  have hnot : ¬ hubAliases.contains (String.ofList (host.map Char.toLower)) = true := by
    rw [List.contains_iff_mem]
    exact fun hmem => h (dot_mem_of_mem_hubAliases hmem).1
  simp only [normalizeRegistry, if_neg hnot]
  intro heq
  apply hnot
  rw [heq]
  decide

theorem slash_mem_normalizeRegistry_iff : '/' ∈ (normalizeRegistry host).toList ↔ '/' ∈ host := by
  rw [normalizeRegistry]
  split
  · next halias =>
    rw [List.contains_iff_mem] at halias
    exact iff_of_false (by decide) (dot_mem_of_mem_hubAliases halias).2
  · rw [String.toList_ofList]
    exact mem_map_toLower_iff (by decide)

/-- No registry has a slash. -/
theorem Parts.WellFormed.slash_notMem_registry (h : w.WellFormed) : '/' ∉ w.registry.toList := by
  cases hhost : w.host with
  | none =>
    rw [registry_of_host_eq_none hhost]
    decide
  | some host =>
    rw [registry_eq_normalizeRegistry hhost, slash_mem_normalizeRegistry_iff]
    exact over_hostPattern.notMem (h.host host hhost).1 (by decide)

/-- A character of a name. -/
def isNameChar (c : Char) : Bool := isTagChar c || c == '/'

namespace Parts

/-- What is written behind the name: the tag and the digest with their marks. -/
def tail (w : Parts) : List Char := marked '@' (marked ':' [] w.tag) w.digest

theorem text_eq_append_tail (w : Parts) : w.text = w.path ++ w.tail := by
  rw [text, tail]
  cases w.tag <;> cases w.digest <;> simp [marked]

/-- The tail starts with a mark, which is no character of a name. -/
theorem isNameChar_head_tail : ∀ c ∈ w.tail.head?, isNameChar c = false := by
  intro c hc
  rw [tail] at hc
  cases htag : w.tag <;> cases hdigest : w.digest <;>
    simp [htag, hdigest, marked] at hc <;> subst hc <;> decide

namespace WellFormed

variable (h : w.WellFormed)
include h

theorem slash_notMem_tail : '/' ∉ w.tail := by
  intro hmem
  rcases mem_marked hmem with hmem | hmem | ⟨d, hd, hmem⟩
  · rcases mem_marked hmem with hmem | hmem | ⟨t, ht, hmem⟩
    · exact List.not_mem_nil hmem
    · cases hmem
    · exact slash_notMem_tag (h.tag t ht) hmem
  · cases hmem
  · exact over_digestPattern.notMem (h.digest d hd) (by decide) hmem

/-- The name is the longest front of what stands behind the host. -/
theorem takeWhile_isNameChar (hback : ∀ c ∈ back.head?, isNameChar c = false) :
    (w.name ++ back).takeWhile isNameChar = w.name := by
  have hname : ∀ c ∈ w.name, isNameChar c = true := by
    intro c hc
    by_cases hslash : c = '/'
    · subst hslash
      decide
    · rw [isNameChar, h.isTagChar_of_mem_name hc hslash, Bool.true_or]
  rw [List.takeWhile_append_of_pos hname]
  cases back with
  | nil => simp
  | cons c cs => rw [List.takeWhile_cons_of_neg (by simp [hback c rfl]), List.append_nil]

end WellFormed

namespace Spells

/-! ### The host -/

/-- The host is what comes before the first slash, if it looks like one. -/
theorem host_eq_some_iff (h : w.Spells text) : w.host = some host ↔
    ∃ rest, cutFirst '/' text.toList = some (host, rest) ∧ IsHostLike host := by
  have hwf := h.wellFormed
  have htext : text.toList = hosted w.name w.host ++ w.tail := by
    rw [h.text_eq, text_eq_append_tail, path]
  -- a host that is written is found
  have hfound : ∀ b, w.host = some b →
      cutFirst '/' text.toList = some (b, w.name ++ w.tail) ∧ IsHostLike b := by
    intro b hb
    obtain ⟨hpattern, hlike⟩ := hwf.host b hb
    refine ⟨cutFirst_eq_some_iff.mpr ⟨over_hostPattern.notMem hpattern (by decide), ?_⟩, hlike⟩
    rw [htext, hb, hosted, List.append_assoc, List.cons_append]
  constructor
  · intro hhost
    exact ⟨_, hfound host hhost⟩
  · rintro ⟨rest, hcut, hlike⟩
    cases hhost : w.host with
    | some b =>
      rw [(hfound b hhost).1] at hcut
      rw [(Prod.mk.inj (Option.some.inj hcut)).1]
    | none =>
      -- the part before the first slash would be a component
      rw [hhost, hosted] at htext
      obtain ⟨hslash, hparts⟩ := cutFirst_eq_some_iff.mp hcut
      cases hname : cutFirst '/' w.name with
      | none =>
        have hmem : '/' ∈ w.name ++ w.tail := by
          rw [← htext, hparts]
          simp
        rcases List.mem_append.mp hmem with hmem | hmem
        · exact absurd hmem (cutFirst_eq_none_iff.mp hname)
        · exact absurd hmem hwf.slash_notMem_tail
      | some parts =>
        obtain ⟨first, others⟩ := parts
        obtain ⟨hfirst, heq⟩ := cutFirst_eq_some_iff.mp hname
        have hagain : cutFirst '/' text.toList = some (first, others ++ w.tail) := by
          rw [htext, heq, cutFirst_eq_some_iff]
          exact ⟨hfirst, by simp⟩
        rw [hagain] at hcut
        obtain ⟨second, more, hfields⟩ := exists_fields_eq_cons_cons_iff.mpr ⟨others, hname⟩
        rw [hwf.fields_name] at hfields
        have hnot := hwf.unhosted hhost first second more hfields
        rw [(Prod.mk.inj (Option.some.inj hcut)).1] at hnot
        exact absurd hlike hnot

/-- **A host is found in the characters just when it is written.** -/
theorem namesHost_iff (h : w.Spells text) :
    ImageName.namesHost text = true ↔ w.host.isSome := by
  rw [ImageName.namesHost, Option.isSome_iff_exists]
  split
  · next first rest hcut =>
    rw [looksLikeHost_iff]
    constructor
    · intro hlike
      exact ⟨first, h.host_eq_some_iff.mpr ⟨rest, hcut, hlike⟩⟩
    · rintro ⟨host, hhost⟩
      obtain ⟨_, hcut', hlike⟩ := h.host_eq_some_iff.mp hhost
      rw [hcut] at hcut'
      rwa [(Prod.mk.inj (Option.some.inj hcut')).1]
  · next hcut =>
    refine iff_of_false Bool.false_ne_true ?_
    rintro ⟨host, hhost⟩
    obtain ⟨_, hcut', -⟩ := h.host_eq_some_iff.mp hhost
    rw [hcut] at hcut'
    cases hcut'

/-- A host can be written before a reference without one. -/
theorem withHost (h : w.Spells text) (hnone : w.host = none) {host : String}
    (hpattern : host.toList ∈ hostPattern) (hlike : IsHostLike host.toList) :
    Spells { w with host := some host.toList } (host ++ "/" ++ text) where
  wellFormed := {
    components_ne_nil := h.wellFormed.components_ne_nil
    components := h.wellFormed.components
    host := by
      rintro _ ⟨⟩
      exact ⟨hpattern, hlike⟩
    unhosted := nofun
    tag := h.wellFormed.tag
    digest := h.wellFormed.digest }
  text_eq := by
    have hpath : w.path = w.name := by rw [path, hnone, hosted]
    rw [text_eq_append_tail, String.toList_append, String.toList_append, h.text_eq,
      text_eq_append_tail, hpath]
    simp [path, hosted, name, tail]

/-! ### The tag and the digest -/

/-- **No tag and no digest is found in the characters just when none is written.** -/
theorem isBare_iff (h : w.Spells text) :
    ImageName.isBare text = true ↔ w.tag = none ∧ w.digest = none := by
  have hwf := h.wellFormed
  rw [ImageName.isBare_iff, ImageName.digestMark_append, h.text_eq, Parts.text]
  cases hdigest : w.digest with
  | some d =>
    -- the mark of a digest is the one before it
    obtain ⟨_, rfl, hash, -, rfl⟩ := Language.mem_mul.mp (hwf.digest d hdigest)
    refine iff_of_false (fun hbare => hbare.1 ?_) (by simp)
    exact ⟨marked ':' w.path w.tag, hash, by simp [marked]⟩
  | none =>
    have hat : ¬ "@sha256:".toList <:+: marked ':' w.path w.tag :=
      fun hmark => hwf.at_notMem_front (hmark.subset (by decide))
    rw [marked, and_iff_right hat, and_iff_left rfl]
    cases htag : w.tag with
    | none => exact iff_of_true hwf.colon_notMem_lastField rfl
    | some t =>
      refine iff_of_false (not_not.mpr ?_) (by simp)
      rw [marked, lastField_append (by simp [slash_notMem_tag (hwf.tag t htag)])]
      simp

/-- A tag can be written behind a reference without tag and digest. -/
theorem withTag (h : w.Spells text) (htag : w.tag = none) (hdigest : w.digest = none)
    {tag : String} (hpattern : tag.toList ∈ tagPattern) :
    Spells { w with tag := some tag.toList } (text ++ ":" ++ tag) where
  wellFormed := {
    components_ne_nil := h.wellFormed.components_ne_nil
    components := h.wellFormed.components
    host := h.wellFormed.host
    unhosted := h.wellFormed.unhosted
    tag := by
      rintro _ ⟨⟩
      exact hpattern
    digest := h.wellFormed.digest }
  text_eq := by
    rw [String.toList_append, String.toList_append, h.text_eq]
    simp [Parts.text, path, hosted, name, marked, htag, hdigest]

end Spells

end Parts

/-! ### The host and the name of a reference that is read -/

/-- A host that does not look like one, or has a slash, is never the registry that is read. -/
theorem registry_ne_of_not_hostLike {v : Parts} (hv : v.Spells text) {rest : List Char}
    (htext : text.toList = host ++ '/' :: rest) (h : ¬ (IsHostLike host ∧ '/' ∉ host)) :
    v.registry ≠ normalizeRegistry host := by
  intro heq
  have hslash : '/' ∉ host := by
    rw [← slash_mem_normalizeRegistry_iff, ← heq]
    exact hv.wellFormed.slash_notMem_registry
  have hlike : ¬ IsHostLike host := fun hlike => h ⟨hlike, hslash⟩
  have hcut : cutFirst '/' text.toList = some (host, rest) :=
    cutFirst_eq_some_iff.mpr ⟨hslash, htext⟩
  cases hhost : v.host with
  | some found =>
    obtain ⟨_, hcut', hfound⟩ := hv.host_eq_some_iff.mp hhost
    rw [hcut] at hcut'
    rw [← (Prod.mk.inj (Option.some.inj hcut')).1] at hfound
    exact hlike hfound
  | none =>
    rw [Parts.registry_of_host_eq_none hhost] at heq
    exact normalizeRegistry_ne_defaultRegistry (fun hdot => hlike (Or.inl hdot)) heq.symm

/-- A reference has neither a tag nor a digest just when none is written in it. -/
theorem isBare_iff_of_parse (h : parse text = .ok r) :
    ImageName.isBare text = true ↔ r.tag = none ∧ r.digest = none := by
  obtain ⟨w, hw, rfl⟩ := exists_spells_of_parse h
  rw [hw.isBare_iff]
  simp [Parts.reference]

/-- What stands behind the name in a text: the tag and the digest with their marks. -/
def ending (r : ImageReference) : String :=
  String.ofList (marked '@' (marked ':' [] (r.tag.map String.toList)) (r.digest.map String.toList))

/-- The registry is taken from a host before the first slash of a text: it is the host in lowercase,
where all names of the Docker Hub mean one. The name behind the host is the repository; on the
Docker Hub a single component belongs to `library`. -/
structure TakesRegistry (r : ImageReference) (text host : String) : Prop where
  slash_notMem : '/' ∉ host.toList
  registry_eq : r.registry =
    let lower := String.ofList (host.toList.map Char.toLower)
    if lower ∈ ["docker.io", "index.docker.io", "registry-1.docker.io"] then "docker.io" else lower
  exists_name : ∃ name, text = host ++ "/" ++ name ++ r.ending ∧
    r.repository =
      if r.registry = "docker.io" ∧ '/' ∉ name.toList then "library/" ++ name else name

/-- The whole name in a text is the repository, on the Docker Hub; a single component belongs to
`library`. -/
structure IsWhole (r : ImageReference) (text name : String) : Prop where
  text_eq : text = name ++ r.ending
  registry_eq : r.registry = "docker.io"
  repository_eq : r.repository = if '/' ∈ name.toList then name else "library/" ++ name

theorem toList_ending_reference (w : Parts) : w.reference.ending.toList = w.tail := by
  simp [ending, Parts.reference, Parts.tail]

namespace Parts.Spells

variable (h : w.Spells text)
include h

/-- A host that is written is the one that the registry is taken from. -/
theorem takesRegistry (hhost : w.host = some host) :
    w.reference.TakesRegistry text (String.ofList host) where
  slash_notMem := by
    obtain ⟨rest, hcut, -⟩ := h.host_eq_some_iff.mp hhost
    rw [String.toList_ofList]
    exact (cutFirst_eq_some_iff.mp hcut).1
  registry_eq := by
    rw [String.toList_ofList]
    simp only [reference, registry, hhost]
  exists_name := by
    refine ⟨String.ofList w.name, ?_, ?_⟩
    · rw [← String.toList_inj, h.text_eq, text_eq_append_tail, path, hhost, hosted]
      simp [toList_ending_reference]
    · rw [String.toList_ofList]
      exact h.wellFormed.qualifyRepository_name.symm

/-- Without a host the whole name is the repository. -/
theorem isWhole (hnone : w.host = none) :
    w.reference.IsWhole text (String.ofList w.name) where
  text_eq := by
    rw [← String.toList_inj, h.text_eq, text_eq_append_tail, path, hnone, hosted]
    simp [toList_ending_reference]
  registry_eq := registry_of_host_eq_none hnone
  repository_eq := by
    have hrepository := h.wellFormed.qualifyRepository_name
    rw [registry_of_host_eq_none hnone] at hrepository
    rw [String.toList_ofList, reference, ← hrepository, qualifyRepository]
    by_cases hslash : '/' ∈ w.name
    · simp [hslash]
    · simp [hslash]

/-- A host that the registry is taken from is written: the registry of a name without a host is that
of the Docker Hub, whose hosts all have a dot. -/
theorem host_eq_of_takesRegistry {host : String} (htakes : w.reference.TakesRegistry text host) :
    w.host = some host.toList := by
  obtain ⟨name, htext, -⟩ := htakes.exists_name
  have hlist : text.toList = host.toList ++ '/' :: (name.toList ++ w.reference.ending.toList) := by
    rw [htext]
    simp
  have hregistry : w.registry = normalizeRegistry host.toList := by
    have heq : w.registry = _ := htakes.registry_eq
    rw [heq]
    simp [normalizeRegistry, hubAliases, defaultRegistry]
  have hlike : IsHostLike host.toList := by
    by_contra hnot
    exact registry_ne_of_not_hostLike h hlist (fun hboth => hnot hboth.1) hregistry
  apply h.host_eq_some_iff.mpr
  exact ⟨_, cutFirst_eq_some_iff.mpr ⟨htakes.slash_notMem, hlist⟩, hlike⟩

end Parts.Spells

/-- **What the characters of a text tell is what it is read as.** It has no tag and no digest just
when the reference has none, and its front is a host just when the registry is taken from it;
otherwise the whole name is the repository. -/
theorem recognizers_agree (h : parse text = .ok r) :
    (ImageName.isBare text = true ↔ r.tag = none ∧ r.digest = none) ∧
      (ImageName.namesHost text = true ↔ ∃ host, r.TakesRegistry text host) ∧
      (ImageName.namesHost text = false → ∃ name, r.IsWhole text name) := by
  refine ⟨isBare_iff_of_parse h, ?_, ?_⟩
  · obtain ⟨w, hw, rfl⟩ := exists_spells_of_parse h
    rw [hw.namesHost_iff, Option.isSome_iff_exists]
    constructor
    · rintro ⟨host, hhost⟩
      exact ⟨_, hw.takesRegistry hhost⟩
    · rintro ⟨host, htakes⟩
      exact ⟨_, hw.host_eq_of_takesRegistry htakes⟩
  · intro hnot
    obtain ⟨w, hw, rfl⟩ := exists_spells_of_parse h
    have hnone : w.host = none := by
      rw [← Option.not_isSome_iff_eq_none, ← hw.namesHost_iff, hnot]
      exact Bool.false_ne_true
    exact ⟨_, hw.isWhole hnone⟩

/-- Another name of the Docker Hub with a tag behind it, and a single component that looks like a
host. -/
theorem recognizers_agree_hubAlias :
    parse "Index.Docker.io/nginx:1.0" = .ok ⟨"docker.io", "library/nginx", some "1.0", none⟩ ∧
      parse "localhost" = .ok ⟨"docker.io", "library/localhost", none, none⟩ ∧
      ImageName.isBare "Index.Docker.io/nginx:1.0" = false ∧
      (∃ host, TakesRegistry ⟨"docker.io", "library/nginx", some "1.0", none⟩
        "Index.Docker.io/nginx:1.0" host) ∧
      ∃ name, IsWhole ⟨"docker.io", "library/localhost", none, none⟩ "localhost" name := by
  have hhosted : parse "Index.Docker.io/nginx:1.0" =
      .ok ⟨"docker.io", "library/nginx", some "1.0", none⟩ := by decide
  have hwhole : parse "localhost" = .ok ⟨"docker.io", "library/localhost", none, none⟩ := by decide
  obtain ⟨hbare, hhost, -⟩ := recognizers_agree hhosted
  obtain ⟨-, -, hname⟩ := recognizers_agree hwhole
  refine ⟨hhosted, hwhole, ?_, hhost.mp (by decide), hname (by decide)⟩
  rw [← Bool.not_eq_true, hbare]
  simp

end ImageReference

end Catalog
