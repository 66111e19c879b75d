import Catalog.Proofs.Except
import Catalog.Proofs.Image.Pattern

/-!
# The grammar of image references

An image reference is written as

    [host '/'] component ('/' component)* [':' tag] ['@' digest]

and reading it gives back these parts. A text is read just when it can be written in this way, and
there is one way only.

## Main definitions

* `Parts` — the parts of a reference as they are written.
* `Parts.WellFormed` — the parts match their patterns, and what is no host does not look like one.
* `Parts.text`, `Parts.reference` — the text of the parts, and the reference that they denote.
* `Parts.Spells` — a text is written in these parts.

## Main results

* `splitDigest_eq_ok_iff`, `splitTag_eq_ok_iff`, `splitHost_hosted` — what each pass finds.
* `Parts.Spells.parse_eq`, `exists_spells_of_parse` — completeness and soundness.
* `parse_grammar` — **a text is read just when it is written in well-formed parts**, which are
  unique.
-/

namespace Catalog.ImageReference

open Text

/-- A name is taken for a registry host: it has a dot or a colon, or it is the local host. -/
def IsHostLike (cs : List Char) : Prop := '.' ∈ cs ∨ ':' ∈ cs ∨ cs = "localhost".toList

instance (cs : List Char) : Decidable (IsHostLike cs) :=
  inferInstanceAs (Decidable (_ ∨ _ ∨ _))

theorem looksLikeHost_iff {cs : List Char} :
    ImageName.looksLikeHost cs = true ↔ IsHostLike cs := by
  simp [ImageName.looksLikeHost, IsHostLike, or_assoc]

/-- A name behind its host, with a slash between them. -/
def hosted (name : List Char) : Option (List Char) → List Char
  | none => name
  | some host => host ++ '/' :: name

/-- A text, and a part behind it after a mark. -/
def marked (mark : Char) (front : List Char) : Option (List Char) → List Char
  | none => front
  | some back => front ++ mark :: back

/-- The parts of a reference as they are written. -/
structure Parts where
  host : Option (List Char)
  components : List (List Char)
  tag : Option (List Char)
  digest : Option (List Char)
deriving DecidableEq, Repr

namespace Parts

/-- The components with slashes between them. -/
def name (w : Parts) : List Char := ['/'].intercalate w.components

/-- The name behind its host. -/
def path (w : Parts) : List Char := hosted w.name w.host

/-- The text of the parts. -/
def text (w : Parts) : List Char := marked '@' (marked ':' w.path w.tag) w.digest

/-- The parts match their patterns. A host looks like one, and so does no first component without a
host, if another component follows it. -/
structure WellFormed (w : Parts) : Prop where
  components_ne_nil : w.components ≠ []
  components : ∀ c ∈ w.components, c ∈ componentPattern
  host : ∀ h ∈ w.host, h ∈ hostPattern ∧ IsHostLike h
  unhosted : w.host = none → ∀ first second rest, w.components = first :: second :: rest →
    ¬ IsHostLike first
  tag : ∀ t ∈ w.tag, t ∈ tagPattern
  digest : ∀ d ∈ w.digest, d ∈ digestPattern

/-- The text is written in these parts. -/
structure Spells (w : Parts) (text : String) : Prop where
  wellFormed : w.WellFormed
  text_eq : text.toList = w.text

/-- The registry: the host in lowercase, where all names of the Docker Hub mean one. -/
def registry (w : Parts) : String :=
  match w.host with
  | none => "docker.io"
  | some host =>
    let lower := String.ofList (host.map Char.toLower)
    if lower ∈ ["docker.io", "index.docker.io", "registry-1.docker.io"] then "docker.io" else lower

/-- The repository: on the Docker Hub a single component belongs to `library`. -/
def repository (w : Parts) : String :=
  if w.registry = "docker.io" ∧ w.components.length = 1 then "library/" ++ String.ofList w.name
  else String.ofList w.name

/-- The reference that the parts denote. -/
def reference (w : Parts) : ImageReference where
  registry := w.registry
  repository := w.repository
  tag := w.tag.map String.ofList
  digest := w.digest.map String.ofList

end Parts

open Parts

variable {cs front name path : List Char} {tag digest : Option (List Char)} {w : Parts}
  {text : String} {r : ImageReference}

/-! ### The passes of the parser -/

theorem slash_notMem_tag {t : List Char} (h : t ∈ tagPattern) : '/' ∉ t :=
  over_tagPattern.notMem h (by decide)

/-- The digest is what follows the first `@`. -/
theorem splitDigest_eq_ok_iff : splitDigest cs = .ok (front, digest) ↔
    cs = marked '@' front digest ∧ '@' ∉ front ∧ ∀ d ∈ digest, d ∈ digestPattern := by
  rw [splitDigest]
  constructor
  · intro h
    split at h
    · next hcut =>
      obtain ⟨rfl, rfl⟩ := Prod.mk.inj (Except.ok.inj h)
      exact ⟨rfl, cutFirst_eq_none_iff.mp hcut, by simp⟩
    · next a b hcut =>
      split at h
      · next hdigest =>
        obtain ⟨rfl, rfl⟩ := Prod.mk.inj (Except.ok.inj h)
        obtain ⟨hfront, hcs⟩ := cutFirst_eq_some_iff.mp hcut
        exact ⟨hcs, hfront, by simpa using isDigest_iff.mp hdigest⟩
      · cases h
  · rintro ⟨rfl, hfront, hdigest⟩
    cases digest with
    | none => rw [marked, cutFirst_eq_none_iff.mpr hfront]
    | some d =>
      rw [marked, cutFirst_eq_some_iff.mpr ⟨hfront, rfl⟩]
      exact if_pos (isDigest_iff.mpr (hdigest d rfl))

/-- The tag is what follows the last colon, unless a slash does. -/
theorem splitTag_eq_ok_iff : splitTag cs = .ok (path, tag) ↔
    cs = marked ':' path tag ∧ (tag = none → ':' ∉ lastField '/' path) ∧
      ∀ t ∈ tag, t ∈ tagPattern := by
  rw [splitTag]
  constructor
  · intro h
    split at h
    · next hcut =>
      obtain ⟨rfl, rfl⟩ := Prod.mk.inj (Except.ok.inj h)
      exact ⟨rfl, fun _ hmem => cutLast_eq_none_iff.mp hcut (mem_of_mem_lastField hmem), by simp⟩
    · next a b hcut =>
      obtain ⟨hb, rfl⟩ := cutLast_eq_some_iff.mp hcut
      split at h
      · next hslash =>
        obtain ⟨rfl, rfl⟩ := Prod.mk.inj (Except.ok.inj h)
        refine ⟨rfl, fun _ hmem => hb ?_, by simp⟩
        rw [List.append_cons, lastField_append_of_mem (List.contains_iff_mem.mp hslash)] at hmem
        exact mem_of_mem_lastField hmem
      · split at h
        · next htag =>
          obtain ⟨rfl, rfl⟩ := Prod.mk.inj (Except.ok.inj h)
          exact ⟨rfl, by simp, by simpa using isTag_iff.mp htag⟩
        · cases h
  · rintro ⟨rfl, hlast, htag⟩
    cases tag with
    | none =>
      rw [marked]
      split
      · rfl
      · next a b hcut =>
        obtain ⟨-, rfl⟩ := cutLast_eq_some_iff.mp hcut
        -- the colon is in the last component, unless a slash follows it
        have hslash : '/' ∈ b := by
          by_contra hnone
          apply hlast rfl
          rw [lastField_append (by simp [hnone])]
          simp
        simp [hslash]
    | some t =>
      have ht := htag t rfl
      have hcolon : ':' ∉ t := over_tagPattern.notMem ht (by decide)
      rw [marked, cutLast_eq_some_iff.mpr ⟨hcolon, rfl⟩]
      simp [slash_notMem_tag ht, isTag_iff.mpr ht]

/-- Every path is a name, with or without a host before it. -/
theorem exists_eq_hosted (path : List Char) : ∃ (host : Option (List Char)) (name : List Char),
    path = hosted name host ∧ (∀ h ∈ host, '/' ∉ h ∧ IsHostLike h) ∧
      (host = none → ∀ first rest, cutFirst '/' name = some (first, rest) →
        ¬ IsHostLike first) := by
  cases hcut : cutFirst '/' path with
  | none => exact ⟨none, path, rfl, by simp, by simp [hcut]⟩
  | some parts =>
    obtain ⟨first, rest⟩ := parts
    obtain ⟨hfirst, hpath⟩ := cutFirst_eq_some_iff.mp hcut
    by_cases hlike : IsHostLike first
    · exact ⟨some first, rest, hpath, by simp [hfirst, hlike], by simp⟩
    · refine ⟨none, path, rfl, by simp, fun _ a b hab => ?_⟩
      rw [hcut] at hab
      obtain ⟨rfl, rfl⟩ := Prod.mk.inj (Option.some.inj hab)
      exact hlike

/-- The host is what comes before the first slash, if it looks like one. -/
theorem splitHost_hosted {host : Option (List Char)} {name : List Char}
    (hhost : ∀ h ∈ host, '/' ∉ h ∧ IsHostLike h)
    (hfirst : host = none → ∀ first rest, cutFirst '/' name = some (first, rest) →
      ¬ IsHostLike first) :
    splitHost (hosted name host) = (host.getD defaultRegistry.toList, name) := by
  rw [splitHost]
  cases host with
  | none =>
    rw [hosted]
    split
    · next first rest hcut =>
      rw [if_neg (by rw [looksLikeHost_iff]; exact hfirst rfl first rest hcut)]
      rfl
    · rfl
  | some h =>
    obtain ⟨hslash, hlike⟩ := hhost h rfl
    rw [hosted, cutFirst_eq_some_iff.mpr ⟨hslash, rfl⟩]
    exact if_pos (looksLikeHost_iff.mpr hlike)

/-- A repository consists of components. -/
theorem checkRepository_eq_ok_iff {repository : List Char} :
    checkRepository repository = .ok () ↔ ∀ c ∈ fields '/' repository, c ∈ componentPattern := by
  rw [checkRepository]
  by_cases hnil : repository = []
  · subst hnil
    simp [fields, nil_notMem_componentPattern]
  · rw [if_neg (by simpa using hnil)]
    split
    · next c hfind =>
      refine iff_of_false (by simp) fun h => ?_
      have hc := isComponent_iff.mpr (h c (List.mem_of_find?_eq_some hfind))
      have hnot := List.find?_some hfind
      simp [hc] at hnot
    · next hfind =>
      refine iff_of_true rfl fun c hc => isComponent_iff.mp ?_
      simpa using List.find?_eq_none.mp hfind c hc

/-- What a text is read as: the passes of the parser one after another. -/
theorem parse_eq_ok_iff_passes : parse text = .ok r ↔
    (∀ c ∈ text.toList, isBlank c = false) ∧
      ∃ front digest path tag, splitDigest text.toList = .ok (front, digest) ∧
        splitTag front = .ok (path, tag) ∧ isHost (splitHost path).1 = true ∧
        checkRepository (splitHost path).2 = .ok () ∧
        r = {
          registry := normalizeRegistry (splitHost path).1
          repository := qualifyRepository (normalizeRegistry (splitHost path).1) (splitHost path).2
          tag := tag.map String.ofList
          digest := digest.map String.ofList } := by
  rw [parse]
  by_cases hempty : text.toList = []
  · -- the passes refuse the empty text too: it has no component
    refine iff_of_false (by rw [if_pos (by simpa using hempty)]; exact nofun) ?_
    rintro ⟨-, front, digest, path, tag, hfront, htag, -, hcheck, -⟩
    rw [hempty] at hfront
    cases hfront
    cases htag
    cases hcheck
  by_cases hblank : text.toList.any isBlank = true
  · refine iff_of_false ?_ fun h => ?_
    · rw [if_neg (by simpa using hempty), if_pos hblank]
      exact nofun
    · obtain ⟨c, hc, hb⟩ := List.any_eq_true.mp hblank
      rw [h.1 c hc] at hb
      cases hb
  have hvisible : ∀ c ∈ text.toList, isBlank c = false := by simpa using hblank
  rw [if_neg (by simpa using hempty), if_neg hblank, and_iff_right hvisible]
  simp only [bind_eq_ok_iff, Prod.exists]
  constructor
  · rintro ⟨front, digest, hfront, path, tag, htag, h⟩
    by_cases hhost : isHost (splitHost path).1 = true
    · rw [if_neg (by simpa using hhost)] at h
      obtain ⟨⟨⟩, hcheck, hr⟩ := bind_eq_ok_iff.mp h
      exact ⟨front, digest, path, tag, hfront, htag, hhost, hcheck, (Except.ok.inj hr).symm⟩
    · rw [if_pos (by simpa using hhost)] at h
      cases h
  · rintro ⟨front, digest, path, tag, hfront, htag, hhost, hcheck, rfl⟩
    refine ⟨front, digest, hfront, path, tag, htag, ?_⟩
    rw [if_neg (by simpa using hhost)]
    exact bind_eq_ok_iff.mpr ⟨(), hcheck, rfl⟩

/-! ### Characters of the parts -/

theorem mem_hosted {c : Char} {name : List Char} {host : Option (List Char)}
    (h : c ∈ hosted name host) : c = '/' ∨ c ∈ name ∨ ∃ b ∈ host, c ∈ b := by
  cases host with
  | none => exact Or.inr (Or.inl h)
  | some b =>
    rcases List.mem_append.mp h with h | h
    · exact Or.inr (Or.inr ⟨b, rfl, h⟩)
    · exact (List.mem_cons.mp h).imp_right Or.inl

theorem mem_marked {c mark : Char} {back : Option (List Char)} (h : c ∈ marked mark front back) :
    c ∈ front ∨ c = mark ∨ ∃ b ∈ back, c ∈ b := by
  cases back with
  | none => exact Or.inl h
  | some b =>
    refine (List.mem_append.mp h).imp_right fun h => ?_
    exact (List.mem_cons.mp h).imp_right fun h => ⟨b, rfl, h⟩

namespace Parts

namespace WellFormed

variable (h : w.WellFormed)
include h

theorem fields_name : fields '/' w.name = w.components :=
  fields_intercalate h.components_ne_nil fun c hc =>
    over_componentPattern.notMem (h.components c hc) (by decide)

theorem isTagChar_of_mem_name {c : Char} (hc : c ∈ w.name) (hne : c ≠ '/') :
    isTagChar c = true := by
  obtain ⟨f, hf, hmem⟩ := exists_mem_fields_of_mem hc hne
  rw [h.fields_name] at hf
  exact over_componentPattern f (h.components f hf) c hmem

theorem isPartChar_of_mem_path {c : Char} (hc : c ∈ w.path) (hne : c ≠ '/') :
    isPartChar c = true := by
  rcases mem_hosted hc with hc | hc | ⟨b, hb, hc⟩
  · exact absurd hc hne
  · exact isPartChar_of_isTagChar (h.isTagChar_of_mem_name hc hne)
  · exact over_hostPattern b (h.host b hb).1 c hc

theorem isPartChar_of_mem_front {c : Char} (hc : c ∈ marked ':' w.path w.tag) (hne : c ≠ '/') :
    isPartChar c = true := by
  rcases mem_marked hc with hc | rfl | ⟨b, hb, hc⟩
  · exact h.isPartChar_of_mem_path hc hne
  · rfl
  · exact isPartChar_of_isTagChar (over_tagPattern b (h.tag b hb) c hc)

theorem at_notMem_front : '@' ∉ marked ':' w.path w.tag := by
  intro hat
  have hpart := h.isPartChar_of_mem_front hat (by decide)
  exact absurd hpart (by decide)

/-- No character of a reference is blank. -/
theorem isBlank_of_mem_text {c : Char} (hc : c ∈ w.text) : isBlank c = false := by
  by_cases hslash : c = '/'
  · subst hslash
    decide
  · rcases mem_marked hc with hc | rfl | ⟨b, hb, hc⟩
    · exact isBlank_of_isPartChar (h.isPartChar_of_mem_front hc hslash)
    · decide
    · exact isBlank_of_isPartChar (over_digestPattern b (h.digest b hb) c hc)

/-- The last component has no colon, also where a host before it has one. -/
theorem colon_notMem_lastField : ':' ∉ lastField '/' w.path := by
  have hlast : lastField '/' w.path = lastField '/' w.name := by
    rw [path]
    cases w.host with
    | none => rfl
    | some b => exact lastField_append_cons
  intro hmem
  rw [hlast] at hmem
  have htag := h.isTagChar_of_mem_name (mem_of_mem_lastField hmem) (by decide)
  exact absurd htag (by decide)

/-! ### What the passes find -/

theorem splitDigest_text : splitDigest w.text = .ok (marked ':' w.path w.tag, w.digest) :=
  splitDigest_eq_ok_iff.mpr ⟨rfl, h.at_notMem_front, h.digest⟩

theorem splitTag_front : splitTag (marked ':' w.path w.tag) = .ok (w.path, w.tag) :=
  splitTag_eq_ok_iff.mpr ⟨rfl, fun _ => h.colon_notMem_lastField, h.tag⟩

theorem splitHost_path :
    splitHost w.path = (w.host.getD defaultRegistry.toList, w.name) := by
  refine splitHost_hosted (fun b hb => ?_) fun hnone first rest hcut => ?_
  · obtain ⟨hpattern, hlike⟩ := h.host b hb
    exact ⟨over_hostPattern.notMem hpattern (by decide), hlike⟩
  · obtain ⟨second, more, hfields⟩ := exists_fields_eq_cons_cons_iff.mpr ⟨rest, hcut⟩
    rw [h.fields_name] at hfields
    exact h.unhosted hnone first second more hfields

theorem isHost_host : isHost (w.host.getD defaultRegistry.toList) = true := by
  cases hhost : w.host with
  | none => decide
  | some b => exact isHost_iff.mpr (h.host b hhost).1

theorem checkRepository_name : checkRepository w.name = .ok () := by
  rw [checkRepository_eq_ok_iff, h.fields_name]
  exact h.components

theorem qualifyRepository_name : qualifyRepository w.registry w.name = w.repository := by
  have hsingle : '/' ∉ w.name ↔ w.components.length = 1 := by
    rw [← length_fields_eq_one_iff, h.fields_name]
  simp only [qualifyRepository, repository, defaultRegistry, hsingle]

end WellFormed

theorem normalizeRegistry_host :
    normalizeRegistry (w.host.getD defaultRegistry.toList) = w.registry := by
  rw [registry]
  cases w.host with
  | none => decide
  | some b => simp [normalizeRegistry, hubAliases, defaultRegistry]

/-- **What is written in well-formed parts is read as the reference of these parts.** -/
theorem Spells.parse_eq (h : w.Spells text) : parse text = .ok w.reference := by
  have hwf := h.wellFormed
  refine parse_eq_ok_iff_passes.mpr ⟨fun c hc => ?_, marked ':' w.path w.tag, w.digest, w.path,
    w.tag, ?_, hwf.splitTag_front, ?_⟩
  · rw [h.text_eq] at hc
    exact hwf.isBlank_of_mem_text hc
  · rw [h.text_eq]
    exact hwf.splitDigest_text
  · rw [hwf.splitHost_path, normalizeRegistry_host, hwf.qualifyRepository_name]
    exact ⟨hwf.isHost_host, hwf.checkRepository_name, rfl⟩

end Parts

theorem hosted_injective {name : List Char} : Function.Injective (hosted name) := by
  intro a b h
  have hlength := congrArg List.length h
  cases a <;> cases b <;> simp [hosted] at h hlength ⊢
  · omega
  · omega
  · exact h

/-- There is one way only to write a text in well-formed parts. -/
theorem Parts.Spells.unique {v : Parts} (hv : v.Spells text) (hw : w.Spells text) : v = w := by
  have hdigest := hv.wellFormed.splitDigest_text
  rw [← hv.text_eq, hw.text_eq, hw.wellFormed.splitDigest_text] at hdigest
  obtain ⟨hfront, hdigest⟩ := Prod.mk.inj (Except.ok.inj hdigest)
  have htag := hv.wellFormed.splitTag_front
  rw [← hfront, hw.wellFormed.splitTag_front] at htag
  obtain ⟨hpath, htag⟩ := Prod.mk.inj (Except.ok.inj htag)
  have hhost := hv.wellFormed.splitHost_path
  rw [← hpath, hw.wellFormed.splitHost_path] at hhost
  have hname : w.name = v.name := (Prod.mk.inj hhost).2
  have hcomponents : w.components = v.components := by
    rw [← hw.wellFormed.fields_name, hname, hv.wellFormed.fields_name]
  have hhost : w.host = v.host := by
    rw [Parts.path, Parts.path, hname] at hpath
    exact hosted_injective hpath
  cases v
  cases w
  simp_all

/-- **What is read is written in well-formed parts.** -/
theorem exists_spells_of_parse (h : parse text = .ok r) :
    ∃ w : Parts, w.Spells text ∧ w.reference = r := by
  obtain ⟨-, front, digest, path, tag, hsplitDigest, hsplitTag, hisHost, hcheck, rfl⟩ :=
    parse_eq_ok_iff_passes.mp h
  obtain ⟨htext, -, hdigest⟩ := splitDigest_eq_ok_iff.mp hsplitDigest
  obtain ⟨rfl, -, htag⟩ := splitTag_eq_ok_iff.mp hsplitTag
  obtain ⟨host, name, rfl, hhost, hfirst⟩ := exists_eq_hosted path
  have hsplit := splitHost_hosted hhost hfirst
  rw [hsplit] at hisHost hcheck ⊢
  let w : Parts := ⟨host, fields '/' name, tag, digest⟩
  have hname : w.name = name := intercalate_fields '/' name
  have hwf : w.WellFormed := {
    components_ne_nil := fields_ne_nil '/' name
    components := checkRepository_eq_ok_iff.mp hcheck
    host := by
      rintro b rfl
      exact ⟨isHost_iff.mp hisHost, (hhost b rfl).2⟩
    unhosted := by
      intro hnone first second rest hfields
      obtain ⟨back, hcut⟩ := exists_fields_eq_cons_cons_iff.mp ⟨second, rest, hfields⟩
      exact hfirst hnone first back hcut
    tag := htag
    digest := hdigest }
  refine ⟨w, ⟨hwf, ?_⟩, ?_⟩
  · rw [Parts.text, Parts.path, hname]
    exact htext
  · have hregistry : normalizeRegistry (host.getD defaultRegistry.toList) = w.registry :=
      Parts.normalizeRegistry_host (w := w)
    rw [hregistry, ← hname, hwf.qualifyRepository_name]
    rfl

/-- **A text is read just when it is written in well-formed parts**, and as the reference of these
parts; there is one way only to write it. -/
theorem parse_grammar : (parse text = .ok r ↔ ∃ w : Parts, w.Spells text ∧ w.reference = r) ∧
    {w : Parts | w.Spells text}.Subsingleton := by
  refine ⟨⟨exists_spells_of_parse, ?_⟩, fun _ hv _ hw => hv.unique hw⟩
  rintro ⟨w, hw, rfl⟩
  exact hw.parse_eq

end Catalog.ImageReference
