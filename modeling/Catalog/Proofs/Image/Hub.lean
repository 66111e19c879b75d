import Catalog.Proofs.Image.Printed

/-!
# Spellings of images on the Docker Hub

An image on the Docker Hub can be named without a host or behind any of the hub's hosts, in any case
of their letters, and one of a single component also behind the `library` that it belongs to. All of
these names are read as one reference. This holds also where a single component looks like a host:
only what another component follows is taken for one.

## Main definitions

* `IsHubHost` — a host of the Docker Hub, in any case of its letters.
* `Parts.behind`, `Parts.inLibrary` — the parts behind a host, and behind `library`.

## Main results

* `Parts.Spells.withHubHost`, `Parts.Spells.withLibrary` — the other spellings of an image are
  written in well-formed parts.
* `parse_hub_spellings` — **all spellings of an image on the Docker Hub are read as one reference.**
-/

namespace Catalog.ImageReference

open Text

variable {text : String} {host : List Char} {w : Parts}

/-! ### The hosts of the hub -/

/-- A host of the Docker Hub, in any case of its letters. -/
def IsHubHost (host : List Char) : Prop := String.ofList (host.map Char.toLower) ∈ hubAliases

instance (host : List Char) : Decidable (IsHubHost host) :=
  inferInstanceAs (Decidable (_ ∈ _))

namespace IsHubHost

variable (h : IsHubHost host)
include h

theorem normalizeRegistry_eq : normalizeRegistry host = defaultRegistry :=
  if_pos (List.contains_iff_mem.mpr h)

theorem mem_hostPattern : host ∈ hostPattern := by
  have hall : ∀ hub ∈ hubAliases, isHost hub.toList = true := by decide
  have hlower := hall _ h
  rw [String.toList_ofList] at hlower
  exact (ignores_hostPattern host).mp (isHost_iff.mp hlower)

theorem isHostLike : IsHostLike host := Or.inl (dot_mem_of_mem_hubAliases h).1

end IsHubHost

/-! ### Other spellings -/

namespace Parts

/-- The parts behind another host. -/
def behind (w : Parts) (host : List Char) : Parts := { w with host := some host }

/-- The parts with `library` before the components. -/
def inLibrary (w : Parts) : Parts := { w with components := "library".toList :: w.components }

theorem registry_behind (hhost : IsHubHost host) : (w.behind host).registry = defaultRegistry :=
  (registry_eq_normalizeRegistry rfl).trans hhost.normalizeRegistry_eq

/-- A reference depends on the host only by its registry. -/
theorem reference_behind (h : (w.behind host).registry = w.registry) :
    (w.behind host).reference = w.reference := by
  have hrepository : (w.behind host).repository = w.repository := by
    rw [repository, repository, h]
    rfl
  rw [reference, reference, h, hrepository]
  rfl

/-- On the hub, `library` can be written before a single component or left out. -/
theorem reference_inLibrary (hregistry : w.registry = defaultRegistry)
    (hsingle : w.components.length = 1) : w.inLibrary.reference = w.reference := by
  obtain ⟨c, hc⟩ := List.length_eq_one_iff.mp hsingle
  have hrepository : w.inLibrary.repository = w.repository := by
    rw [repository, if_neg (by simp [inLibrary, hc]), repository,
      if_pos ⟨hregistry, hsingle⟩, ← String.toList_inj]
    simp [inLibrary, name, hc]
  rw [reference, reference, hrepository]
  rfl

namespace Spells

variable (h : w.Spells text)
include h

theorem withHubHost (hnone : w.host = none) {host : String} (hhost : IsHubHost host.toList) :
    (w.behind host.toList).Spells (host ++ "/" ++ text) :=
  h.withHost hnone hhost.mem_hostPattern hhost.isHostLike

theorem withLibrary (hnone : w.host = none) : w.inLibrary.Spells ("library/" ++ text) where
  wellFormed := {
    components_ne_nil := List.cons_ne_nil _ _
    components := List.forall_mem_cons.mpr
      ⟨isComponent_iff.mp (by decide), h.wellFormed.components⟩
    host := by simp [inLibrary, hnone]
    unhosted := by
      intro _ first second rest hcomponents
      rw [← (List.cons.inj hcomponents).1]
      decide
    tag := h.wellFormed.tag
    digest := h.wellFormed.digest }
  text_eq := by
    obtain ⟨c, cs, hcs⟩ := List.exists_cons_of_ne_nil h.wellFormed.components_ne_nil
    rw [String.toList_append, h.text_eq, text_eq_append_tail, text_eq_append_tail, path, path,
      inLibrary, hnone]
    simp [hosted, name, tail, hcs, List.intercalate_cons_cons]

end Spells

end Parts

/-- **All spellings of an image on the Docker Hub are read as one reference.** A name without a
host, with whatever tag and digest, and the same name behind any host of the hub are read alike, and
on the hub; so are, for a name of one component, both names with `library` before the component. -/
theorem parse_hub_spellings (h : w.Spells text) (hnone : w.host = none) {host : String}
    (hhost : IsHubHost host.toList) :
    ∃ r, r.registry = "docker.io" ∧ parse text = .ok r ∧ parse (host ++ "/" ++ text) = .ok r ∧
      (w.components.length = 1 → parse ("library/" ++ text) = .ok r ∧
        parse (host ++ "/" ++ ("library/" ++ text)) = .ok r) := by
  have hregistry := Parts.registry_of_host_eq_none hnone
  -- behind a host of the hub, any name without a host keeps its meaning
  have hbehind : ∀ {v : Parts} {text : String}, v.Spells text → v.host = none →
      parse (host ++ "/" ++ text) = .ok v.reference := by
    intro v text hv hv'
    rw [(hv.withHubHost hv' hhost).parse_eq, Parts.reference_behind]
    rw [Parts.registry_behind hhost, Parts.registry_of_host_eq_none hv']
  refine ⟨w.reference, hregistry, h.parse_eq, hbehind h hnone, fun hsingle => ?_⟩
  rw [hbehind (h.withLibrary hnone) hnone, (h.withLibrary hnone).parse_eq,
    Parts.reference_inLibrary hregistry hsingle]
  exact ⟨rfl, rfl⟩

/-- A single component that looks like a host, with a tag. -/
def hostLikeImage : Parts := ⟨none, ["localhost".toList], some "1.0".toList, none⟩

theorem parse_hub_spellings_hostLikeImage :
    hostLikeImage.Spells "localhost:1.0" ∧ IsHubHost "Registry-1.Docker.IO".toList ∧
      parse "localhost:1.0" = parse "Registry-1.Docker.IO/library/localhost:1.0" := by
  have hspells : hostLikeImage.Spells "localhost:1.0" := {
    wellFormed := {
      components_ne_nil := by decide
      components := by
        intro c hc
        rw [List.mem_singleton.mp hc]
        exact isComponent_iff.mp (by decide)
      host := nofun
      unhosted := nofun
      tag := by
        rintro _ ⟨⟩
        exact isTag_iff.mp (by decide)
      digest := nofun }
    text_eq := by decide }
  have hhub : IsHubHost "Registry-1.Docker.IO".toList := by decide
  obtain ⟨r, -, hplain, -, hlibrary⟩ := parse_hub_spellings hspells rfl hhub
  exact ⟨hspells, hhub, hplain.trans (hlibrary rfl).2.symm⟩

end Catalog.ImageReference
