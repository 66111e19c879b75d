import Catalog.Proofs.Ownership.Gates
import Catalog.Proofs.Url.Below
import Mathlib.Tactic.Tauto

/-!
# The pages that are asked for

The page of a release is meant to be found by its identifier, which may have several parts, and its
version below the base URL of the registry. Both are put into the URL as they are, and the URL is
read again before anything is asked. So a page at another path is asked for when the identifier or
the version has dots for a part, or a character that means something in a URL; and always when the
base URL has a query or a fragment.

## Main definitions

* `Ecosystem.pageTexts` — what the page of a release is meant to be found by.
* `baseSegments` — the path of a base URL.
* `IsKept` — a text that is kept as a segment of a path.

## Main results

* `Verifier.asks_below_iff` — **when the page that is asked for is the one that is meant.**
-/

namespace Catalog

open Text Url

variable {ts : List (List Char)} {k : List Char}

/-! ### What is meant -/

namespace Ecosystem

/-- The texts that the page of a release is meant to be found by, one for each segment of its path
below the base URL of the registry. -/
def pageTexts (e : Ecosystem) (r : Release) : List (List Char) :=
  match e with
  | npm => fields '/' r.identifier.toList ++ [r.version.toList]
  | pypi => "pypi".toList :: fields '/' r.identifier.toList ++ [r.version.toList, "json".toList]
  | nuget =>
    "v3-flatcontainer".toList :: fields '/' r.identifier.toList
      ++ [r.version.toList, "readme".toList]

/-- An identifier and a version between other segments. -/
theorem toList_between (front back : String) (fs bs : List (List Char))
    (hfront : front.toList = segmentsText fs ++ ['/']) (hback : back.toList = segmentsText bs)
    (identifier version : String) :
    (front ++ identifier ++ "/" ++ version ++ back).toList =
      segmentsText (fs ++ fields '/' identifier.toList ++ version.toList :: bs) := by
  have hslash : "/".toList = ['/'] := by decide
  rw [String.toList_append, String.toList_append, String.toList_append, String.toList_append,
    hfront, hback, hslash, segmentsText_append, segmentsText_append, segmentsText_fields,
    segmentsText_cons]
  simp

/-- The page of a release is looked up under its texts as they are. -/
theorem toList_pagePath (e : Ecosystem) (r : Release) :
    (e.pagePath r).toList = segmentsText (e.pageTexts r) := by
  cases e with
  | npm =>
    have h := toList_between "/" "" [] [] (by decide) (by decide) r.identifier r.version
    rw [String.append_empty] at h
    exact h
  | pypi =>
    exact toList_between "/pypi/" "/json" ["pypi".toList] ["json".toList] (by decide) (by decide)
      r.identifier r.version
  | nuget =>
    exact toList_between "/v3-flatcontainer/" "/readme" ["v3-flatcontainer".toList]
      ["readme".toList] (by decide) (by decide) r.identifier r.version

theorem two_le_length_pageTexts (e : Ecosystem) (r : Release) : 2 ≤ (e.pageTexts r).length := by
  have hfields := List.length_pos_iff.mpr (fields_ne_nil '/' r.identifier.toList)
  cases e <;> simp only [pageTexts, List.length_append, List.length_cons, List.length_nil] <;> omega

end Ecosystem

/-- The segments of the path of a base URL, as the directory of all that is below it. -/
def baseSegments (base : String) : List (List Char) :=
  match Url.parse (dropTrailingSlashes base ++ "/") with
  | .error _ => []
  | .ok u =>
    match u.path with
    | .opaqueText _ => []
    | .segments ss => if ss.getLast? = some [] then ss.dropLast else ss

/-- The path of the page that is meant for a release: the path of the base URL, and the texts of the
page as segments, with all escaped that means something there. -/
def Ecosystem.meantPath (e : Ecosystem) (base : String) (r : Release) : Url.Path :=
  .segments (baseSegments base ++ (e.pageTexts r).map (percentEncode escapedInSegment))

/-- A text that is kept as a segment of a path: it has no character that means something in the text
of a URL, and is not dots. -/
structure IsKept (t : List Char) : Prop where
  chars : ∀ c ∈ t, c ∉ ['/', '\\', '%', '?', '#', '\t', '\n', '\r']
  single : t ≠ ['.']
  double : t ≠ ['.', '.']

instance : DecidablePred IsKept := fun t =>
  decidable_of_iff
    (t.all (fun c => !(['/', '\\', '%', '?', '#', '\t', '\n', '\r'].contains c)) = true ∧
      t ≠ ['.'] ∧ t ≠ ['.', '.'])
    ⟨fun h => ⟨by simpa using h.1, h.2.1, h.2.2⟩,
      fun h => ⟨by simpa using h.chars, h.single, h.double⟩⟩

/-- A text is kept when nothing of it is left out, ends the path or is a sign in it, and it is not
dots. -/
theorem isKept_iff {t : List Char} :
    IsKept t ↔ (∀ c ∈ t, isLeft c = true ∧ isPathChar c = true) ∧ (∀ c ∈ t, isSign c = false) ∧
      t ≠ ['.'] ∧ t ≠ ['.', '.'] := by
  have hchar : ∀ c : Char, c ∉ ['/', '\\', '%', '?', '#', '\t', '\n', '\r'] ↔
      (isLeft c = true ∧ isPathChar c = true) ∧ isSign c = false := by
    intro c
    simp [isLeft, isPathChar, isSign]
    tauto
  constructor
  · intro h
    exact ⟨fun c hc => ((hchar c).mp (h.chars c hc)).1, fun c hc => ((hchar c).mp (h.chars c hc)).2,
      h.single, h.double⟩
  · rintro ⟨hleft, hsign, hsingle, hdouble⟩
    exact ⟨fun c hc => (hchar c).mpr ⟨hleft c hc, hsign c hc⟩, hsingle, hdouble⟩

/-! ### What is asked for -/

/-- The credentials of a URL are no part of its path. -/
theorem Url.path_withoutCredentials (u : Url) : u.withoutCredentials.path = u.path := by
  rw [withoutCredentials]
  split <;> rfl

/-- A request without parameters is for the path that its URL has. -/
theorem path_of_target_plain {url : String} {u : Url}
    (h : (Web.Request.plain url).target = .ok u) :
    ∃ u₀, Url.parse url = .ok u₀ ∧ u.path = u₀.path := by
  simp only [Web.Request.target, Web.Request.plain, List.isEmpty_nil, if_true] at h
  cases hparse : Url.parse url with
  | error fault => simp [hparse] at h
  | ok u₀ =>
    refine ⟨u₀, rfl, ?_⟩
    simp only [hparse] at h
    split at h
    · cases h
    · split at h
      · cases h
      · split at h
        · cases h
          exact Url.path_withoutCredentials u₀
        · cases h

theorem forall_mem_cons_slash_iff {P : Char → Prop} (hP : P '/') :
    (∀ c ∈ '/' :: k, P c) ↔ ∀ c ∈ k, P c := by
  simp [hP]

/-- A slash at the front is not the end of a text, unless nothing else is there. -/
theorem forall_getLast?_cons_slash_iff :
    (∀ c ∈ ('/' :: k).getLast?, 0x20 < c.toNat) ↔ ∀ c ∈ k.getLast?, isEdge c = false := by
  cases k with
  | nil => simp
  | cons d k => simp [isEdge, List.getLast?_cons]

/-- Texts are read as the segments that they are when each of them is kept, and the last of them
does not end in a blank or a control. -/
theorem suffixPart_eq_segmentsText_iff (hk : '/' :: k = segmentsText ts) :
    ('/' :: suffixPart k = segmentsText ts ∧ (∀ t ∈ ts, ∀ c ∈ t, isSign c = false) ∧
        ∀ t ∈ ts, t ≠ ['.'] ∧ t ≠ ['.', '.']) ↔
      (∀ t ∈ ts, IsKept t) ∧ ∀ c ∈ (segmentsText ts).getLast?, 0x20 < c.toNat := by
  have hread : (∀ c ∈ k, isLeft c = true ∧ isPathChar c = true) ↔
      ∀ t ∈ ts, ∀ c ∈ t, isLeft c = true ∧ isPathChar c = true := by
    rw [← forall_mem_segmentsText_iff (by decide), ← hk, forall_mem_cons_slash_iff (by decide)]
  rw [← hk, List.cons.injEq, suffixPart_eq_self_iff, hread, forall_getLast?_cons_slash_iff]
  constructor
  · rintro ⟨⟨-, hchars, hlast⟩, hsign, hdots⟩
    exact ⟨fun t ht => isKept_iff.mpr ⟨hchars t ht, hsign t ht, hdots t ht⟩, hlast⟩
  · rintro ⟨hkept, hlast⟩
    have hkept := fun t ht => isKept_iff.mp (hkept t ht)
    exact ⟨⟨rfl, fun t ht => (hkept t ht).1, hlast⟩, fun t ht => (hkept t ht).2.1,
      fun t ht => (hkept t ht).2.2⟩

theorem baseSegments_eq {base : String} {u : Url} {segments : List (List Char)}
    (hu : Url.parse (dropTrailingSlashes base ++ String.ofList ['/']) = .ok u)
    (hpath : u.path = .segments segments) :
    baseSegments base = if segments.getLast? = some [] then segments.dropLast else segments := by
  have hu : Url.parse (dropTrailingSlashes base ++ "/") = .ok u := hu
  simp only [baseSegments, hu, hpath]

/-- When the page below a base URL is the one that is meant. -/
theorem Ecosystem.path_eq_meantPath_iff {e : Ecosystem} {base : String} {r : Release} {u : Url}
    (h : Settings.isWebUrl base = true) (hu : Url.parse (e.pageUrl base r) = .ok u) :
    u.path = e.meantPath base r ↔
      ('?' ∉ base.toList ∧ '#' ∉ base.toList) ∧ (∀ t ∈ e.pageTexts r, IsKept t) ∧
        ∀ c ∈ (e.pagePath r).toList.getLast?, 0x20 < c.toNat := by
  have htexts := e.two_le_length_pageTexts r
  have hne : e.pageTexts r ≠ [] := List.ne_nil_of_length_pos (by omega)
  -- the page is below the base URL
  obtain ⟨k, hk⟩ : ∃ k, '/' :: k = segmentsText (e.pageTexts r) := by
    obtain ⟨t, ts, hts⟩ := List.exists_cons_of_ne_nil hne
    exact ⟨_, by rw [hts, segmentsText_cons]⟩
  have hpage : e.pagePath r = String.ofList ('/' :: k) := by
    rw [hk, ← toList_pagePath, String.ofList_toList]
  rw [pageUrl, hpage] at hu
  obtain ⟨u₀, hu₀⟩ := exists_parse_congr (b := []) h ⟨u, hu⟩
  rw [toList_pagePath, meantPath]
  by_cases hquery : '?' ∉ base.toList ∧ '#' ∉ base.toList
  · have hbase : ∀ c ∈ base.toList, isPathChar c = true := fun c hc =>
      Bool.of_not_eq_false fun hsign => by
        rcases isPathChar_eq_false_iff.mp hsign with rfl | rfl
        · exact hquery.1 hc
        · exact hquery.2 hc
    obtain ⟨done, hdone⟩ := exists_path_below h hbase
    have hsegments : baseSegments base = done.reverse := by
      have hempty : normalizeAfter done (readSegments (suffixPart [])) = done.reverse ++ [[]] :=
        normalizeAfter_eq (by decide)
      rw [baseSegments_eq hu₀ (hdone [] u₀ hu₀), hempty]
      simp
    rw [hdone k u hu, hsegments, Url.Path.segments.injEq,
      normalizeAfter_eq_iff hne (hk ▸ (suffixPart_sublist k).cons_cons '/'),
      suffixPart_eq_segmentsText_iff hk, and_iff_right hquery]
  · obtain ⟨c, hc, hsign⟩ : ∃ c ∈ base.toList, isPathChar c = false := by
      rcases Classical.not_and_iff_not_or_not.mp hquery with h | h
      · exact ⟨'?', Classical.not_not.mp h, rfl⟩
      · exact ⟨'#', Classical.not_not.mp h, rfl⟩
    obtain ⟨segments, hsegments⟩ := exists_path_of_query h hsign hc
    rw [hsegments k u hu, baseSegments_eq hu₀ (hsegments [] u₀ hu₀), Url.Path.segments.injEq]
    refine iff_of_false (fun heq => ?_) fun hall => hquery hall.1
    -- the path does not get longer
    have hlen := congrArg List.length heq
    rw [List.length_append, List.length_map] at hlen
    split at hlen
    · rw [List.length_dropLast] at hlen
      omega
    · omega

/-- When the page that a verifier asks for is the one that is meant for the package: the base URL of
the registry has no query and no fragment, all texts are kept as segments, and the last of them does
not end in a blank or a control. -/
theorem Verifier.asks_below_iff (v : Verifier) (l : Limits) (w : World) (p : Package)
    (owner : String) (e : Ecosystem) (version : String) (q : Web.Request)
    (ht : p.registryType = e.registryType) (hv : p.version = some version)
    (hbase : Settings.isWebUrl (v.baseUrl e) = true) (hq : q ∈ (v.asked l w p owner).pages) :
    ∃ u, q.target = .ok u ∧
      (u.path = e.meantPath (v.baseUrl e) (e.release p.identifier version) ↔
        ('?' ∉ (v.baseUrl e).toList ∧ '#' ∉ (v.baseUrl e).toList) ∧
        (∀ t ∈ e.pageTexts (e.release p.identifier version), IsKept t) ∧
        ∀ c ∈ (e.pagePath (e.release p.identifier version)).toList.getLast?, 0x20 < c.toNat) := by
  obtain ⟨f, version', u, hf, hversion, hu, rfl⟩ := exists_of_mem_asked_pages hq
  cases Ecosystem.registryType_injective (ht.symm.trans hf)
  rw [hv, Artifact.nonEmpty_eq_some_iff, Option.some.injEq] at hversion
  obtain ⟨rfl, -⟩ := hversion
  obtain ⟨u₀, hparse, hpath⟩ := path_of_target_plain hu
  exact ⟨u, hu, hpath ▸ Ecosystem.path_eq_meantPath_iff hbase hparse⟩

/-- A world where nobody answers. -/
def World.silent : World := ⟨fun _ _ => none, fun _ _ => none⟩

/-- A package of npm with a scope. -/
def scopedPackage : Package :=
  { Package.ofIdentifier .npm "@acme/pad" with version := some "1.3.0" }

/-- The page of a scoped package is asked for as it is meant. -/
theorem asks_below_scopedPackage :
    ∃ q, q ∈ (Verifier.standard.asked .unlimited .silent scopedPackage "io.github.acme/pad").pages ∧
      ∃ u, q.target = .ok u ∧
        u.path = Ecosystem.npm.meantPath (Verifier.standard.baseUrl .npm)
          (Ecosystem.npm.release scopedPackage.identifier "1.3.0") := by
  have hq : Web.Request.plain "https://registry.npmjs.org/@acme/pad/1.3.0" ∈
      (Verifier.standard.asked .unlimited .silent scopedPackage "io.github.acme/pad").pages := by
    decide +kernel
  have hlast : (Ecosystem.npm.pagePath
      (Ecosystem.npm.release scopedPackage.identifier "1.3.0")).toList.getLast? = some '0' := by
    decide +kernel
  obtain ⟨u, hu, hiff⟩ := Verifier.asks_below_iff Verifier.standard .unlimited .silent scopedPackage
    "io.github.acme/pad" .npm "1.3.0" _ rfl rfl (by decide +kernel) hq
  refine ⟨_, hq, u, hu, hiff.mpr ⟨by decide +kernel, by decide +kernel, fun c hc => ?_⟩⟩
  rw [hlast, Option.mem_some_iff] at hc
  rw [← hc]
  decide

/-- A package of npm whose version leads out of the package. -/
def climbingPackage : Package :=
  { Package.ofIdentifier .npm "left-pad" with version := some "../evil/1.0.0" }

/-- The page of another package is asked for instead of the one that is meant. -/
theorem asks_elsewhere_climbingPackage :
    ∃ q u, Settings.isWebUrl (Verifier.standard.baseUrl .npm) = true ∧
      (Verifier.standard.asked .unlimited .silent climbingPackage "io.github.acme/pad").pages =
        [q] ∧
      q.target = .ok u ∧
      u.path = Ecosystem.npm.meantPath (Verifier.standard.baseUrl .npm)
        (Ecosystem.npm.release "evil" "1.0.0") ∧
      u.path ≠ Ecosystem.npm.meantPath (Verifier.standard.baseUrl .npm)
        (Ecosystem.npm.release climbingPackage.identifier "../evil/1.0.0") := by
  refine ⟨.plain "https://registry.npmjs.org/left-pad/../evil/1.0.0",
    ⟨"https", [], none, some (.name "registry.npmjs.org"), none,
      .segments ["evil".toList, "1.0.0".toList], none, none⟩, ?_⟩
  decide +kernel

end Catalog
