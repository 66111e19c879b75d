import Catalog.Proofs.Text.Cut
import Catalog.Validation.Server

/-!
# What checks find, and where

Each check of a document is inverted once: which problems it can find, at which places and how
severe. The place of a finding is the place of what was checked, followed by the field that the
problem is about. Since different elements of a document have different places, the findings at the
place of a package are those of the check of that package.

## Main definitions

* `Transport.CanFind`, `Package.CanFind` — the findings of a check, one constructor for each way to
  a problem.
* `Finding.IsUnder` — a finding is about a field of what is at a place.

## Main results

* `Transport.canFind_of_mem`, `Package.canFind_of_mem_ownFindings` — what can be found in a
  transport and in a package.
* `Package.mem_findings_iff` — what is found in a package and its transport.
* `Package.isUnder_of_mem`, `isUnder_of_mem_remoteFindings` — where it is found.
* `isUnder_elementPlace_inj` — different elements have different places.
* `Server.mem_findings_iff` — what is found in a server.
* `Server.mem_findings_isUnder_iff` — **what is found at the place of a package.**
-/

namespace Catalog

open Text

variable {f : Finding} {strict : Bool} {place place' : String} {problem : Problem}

namespace Findings

theorem mem_error_iff : f ∈ error place problem ↔ f = ⟨.error, place, problem⟩ :=
  List.mem_singleton

theorem mem_warning_iff : f ∈ warning place problem ↔ f = ⟨.warning, place, problem⟩ :=
  List.mem_singleton

end Findings

open Findings

/-! ### Transports -/

namespace Transport

variable {t : Transport}

/-- What can be found in a transport. -/
inductive CanFind (t : Transport) (strict : Bool) (place : String) : Finding → Prop
  | unexpectedUrl : CanFind t strict place ⟨.error, place ++ ".url", .unexpectedUrl⟩
  | missingUrl : CanFind t strict place ⟨.error, place ++ ".url", .missingUrl t.kind⟩
  | badUrl (url : String) : CanFind t strict place ⟨.error, place ++ ".url", .badUrl url⟩
  | undeclared (n : String) : CanFind t strict place
    ⟨if strict then .error else .warning, place ++ ".url", .undeclaredVariable n place⟩
  | unused (n : String) :
    CanFind t strict place ⟨.warning, place ++ ".variables." ++ n, .unusedVariable n⟩

theorem canFind_of_mem (h : f ∈ t.findings strict place) : t.CanFind strict place f := by
  rw [findings] at h
  split at h
  · obtain rfl := mem_error_iff.mp h
    exact .unexpectedUrl
  · cases h
  · obtain rfl := mem_error_iff.mp h
    exact .missingUrl
  · next url _ _ =>
    rw [urlFindings, List.mem_append, List.mem_append] at h
    rcases h with (h | h) | h
    · split at h
      · cases h
      · obtain rfl := mem_error_iff.mp h
        exact .badUrl url
    · obtain ⟨n, -, rfl⟩ := List.mem_map.mp h
      exact .undeclared n
    · obtain ⟨n, -, rfl⟩ := List.mem_map.mp h
      exact .unused n

end Transport

/-! ### Packages -/

namespace Package

variable {p : Package}

/-- What can be found in a package, its transport apart. -/
inductive CanFind (p : Package) (place : String) : Finding → Prop
  | missingIdentifier :
    CanFind p place ⟨.error, place ++ ".identifier", .missingIdentifier p.registryType⟩
  | forbidden (field : LegacyField) : CanFind p place
    ⟨.error, place ++ "." ++ field.name, .forbiddenField p.registryType field p.suggestion?⟩
  | bareImage :
    CanFind p place ⟨.error, place ++ ".identifier", .bareImage p.identifier p.suggestion?⟩
  | badReference (fault : ImageReference.Fault) :
    CanFind p place ⟨.error, place ++ ".identifier", .badReference p.identifier fault⟩
  | missingHash :
    CanFind p place ⟨.error, place ++ "." ++ LegacyField.fileSha256.name, .missingFileHash⟩
  | badHash (hash : String) :
    CanFind p place ⟨.error, place ++ "." ++ LegacyField.fileSha256.name, .badFileHash hash⟩
  | missingVersion :
    CanFind p place ⟨.error, place ++ ".version", .missingVersion p.registryType⟩
  | unknownRegistry (name : String) :
    CanFind p place ⟨.warning, place ++ ".registryType", .unknownRegistry name⟩

theorem canFind_of_mem_imageFindings (h : f ∈ p.imageFindings place) : p.CanFind place f := by
  rw [imageFindings] at h
  split at h
  · cases h
  rcases List.mem_append.mp h with h | h
  · split at h
    · obtain rfl := mem_error_iff.mp h
      exact .bareImage
    · cases h
  · split at h
    · cases h
    · obtain rfl := mem_error_iff.mp h
      exact .badReference _

theorem canFind_of_mem_hashFindings (h : f ∈ p.hashFindings place) : p.CanFind place f := by
  rw [hashFindings] at h
  split at h
  · obtain rfl := mem_error_iff.mp h
    exact .missingHash
  · split at h
    · obtain rfl := mem_error_iff.mp h
      exact .missingHash
    · split at h
      · cases h
      · obtain rfl := mem_error_iff.mp h
        exact .badHash _

theorem canFind_of_mem_versionFindings (h : f ∈ p.versionFindings place) : p.CanFind place f := by
  rw [versionFindings] at h
  split at h
  · obtain rfl := mem_error_iff.mp h
    exact .missingVersion
  · cases h

theorem canFind_of_mem_registryFindings (h : f ∈ p.registryFindings place) :
    p.CanFind place f := by
  rw [registryFindings] at h
  split at h
  · exact canFind_of_mem_imageFindings h
  · exact canFind_of_mem_hashFindings h
  · exact canFind_of_mem_versionFindings h
  · exact canFind_of_mem_versionFindings h
  · exact canFind_of_mem_versionFindings h
  · obtain rfl := mem_warning_iff.mp h
    exact .unknownRegistry _

/-- What is wrong with a package itself, its transport apart. -/
def ownFindings (p : Package) (place : String) : Findings :=
  (if p.identifier.isEmpty then
    Findings.error (place ++ ".identifier") (.missingIdentifier p.registryType)
  else [])
    ++ p.forbiddenFindings place
    ++ p.registryFindings place

/-- What is wrong with the transport of a package, if it has one. -/
def transportFindings (p : Package) (strict : Bool) (place : String) : Findings :=
  match p.transport with
  | some t => t.findings strict (place ++ ".transport")
  | none => []

theorem findings_eq (p : Package) (strict : Bool) (place : String) :
    p.findings strict place = p.ownFindings place ++ p.transportFindings strict place := rfl

theorem mem_transportFindings_iff : f ∈ p.transportFindings strict place ↔
    ∃ t, p.transport = some t ∧ f ∈ t.findings strict (place ++ ".transport") := by
  rw [transportFindings]
  cases p.transport <;> simp

theorem canFind_of_mem_ownFindings (h : f ∈ p.ownFindings place) : p.CanFind place f := by
  rw [ownFindings, List.mem_append, List.mem_append] at h
  rcases h with (h | h) | h
  · split at h
    · obtain rfl := mem_error_iff.mp h
      exact .missingIdentifier
    · cases h
  · obtain ⟨field, -, rfl⟩ := List.mem_map.mp h
    exact .forbidden field
  · exact canFind_of_mem_registryFindings h

/-- What is found in a package is found in itself or in its transport. -/
theorem mem_findings_iff : f ∈ p.findings strict place ↔
    f ∈ p.ownFindings place ∨
      ∃ t, p.transport = some t ∧ f ∈ t.findings strict (place ++ ".transport") := by
  rw [findings_eq, List.mem_append, mem_transportFindings_iff]

end Package

/-! ### Places -/

namespace Finding

/-- The finding is about a field of what is at the place. -/
def IsUnder (f : Finding) (place : String) : Prop :=
  ∃ field, f.location = place ++ "." ++ field

/-- What is about a field of a field is about the outer one. -/
theorem IsUnder.outer (h : f.IsUnder (place ++ "." ++ place')) : f.IsUnder place := by
  obtain ⟨field, h⟩ := h
  exact ⟨place' ++ "." ++ field, by rw [h]; simp only [String.append_assoc]⟩

end Finding

theorem Transport.isUnder_of_mem {t : Transport} (h : f ∈ t.findings strict place) :
    f.IsUnder place := by
  have hurl : place ++ ".url" = place ++ "." ++ "url" := by rw [String.append_assoc]; rfl
  cases canFind_of_mem h with
  | unused n =>
    refine ⟨"variables." ++ n, ?_⟩
    have hvariables : place ++ ".variables." = place ++ "." ++ "variables." := by
      rw [String.append_assoc]
      rfl
    rw [← String.append_assoc, ← hvariables]
  | _ => exact ⟨"url", hurl⟩

/-- What is found in a package is about one of its fields, or a field of its transport. -/
theorem Package.isUnder_of_mem {p : Package} (h : f ∈ p.findings strict place) :
    f.IsUnder place := by
  have hfield : ∀ field, place ++ ("." ++ field) = place ++ "." ++ field := fun field =>
    (String.append_assoc ..).symm
  rcases mem_findings_iff.mp h with h | ⟨t, -, h⟩
  · cases canFind_of_mem_ownFindings h with
    | missingIdentifier | bareImage | badReference => exact ⟨"identifier", hfield "identifier"⟩
    | forbidden field => exact ⟨field.name, rfl⟩
    | missingHash | badHash => exact ⟨_, rfl⟩
    | missingVersion => exact ⟨"version", hfield "version"⟩
    | unknownRegistry => exact ⟨"registryType", hfield "registryType"⟩
  · have hunder := Transport.isUnder_of_mem h
    rw [show place ++ ".transport" = place ++ "." ++ "transport" from hfield "transport"] at hunder
    exact hunder.outer

theorem isUnder_of_mem_remoteFindings {t : Transport} (h : f ∈ remoteFindings t strict place) :
    f.IsUnder place := by
  rw [remoteFindings] at h
  split at h
  · obtain rfl := mem_error_iff.mp h
    exact ⟨"type", by rw [String.append_assoc]; rfl⟩
  · exact Transport.isUnder_of_mem h

theorem toList_toString (i : Nat) : (toString i).toList = Nat.toDigits 10 i := by
  rw [Nat.toString_eq_repr, Nat.toList_repr]

theorem bracket_notMem_toString (i : Nat) : ']' ∉ (toString i).toList := by
  intro h
  rw [toList_toString] at h
  exact absurd (Nat.isDigit_of_mem_toDigits (by decide) (by decide) h) (by decide)

/-- A number is known by its digits. -/
theorem eq_of_toList_toString {i j : Nat} (h : (toString i).toList = (toString j).toList) :
    i = j := by
  rw [toList_toString, toList_toString] at h
  have hread := congrArg (fun ds => Nat.ofDigitChars 10 ds 0) h
  rwa [Nat.ofDigitChars_toDigits (by decide) (by decide),
    Nat.ofDigitChars_toDigits (by decide) (by decide)] at hread

/-- A place begins with the name of the array, up to its first bracket. -/
theorem cutFirst_location {array : String} {i : Nat} (harray : '[' ∉ array.toList)
    (h : f.IsUnder (elementPlace array i)) : ∃ rest,
    cutFirst '[' f.location.toList = some (array.toList, rest) ∧
      (cutFirst ']' rest).map Prod.fst = some (toString i).toList := by
  obtain ⟨field, h⟩ := h
  refine ⟨(toString i).toList ++ ']' :: '.' :: field.toList, ?_, ?_⟩
  · rw [cutFirst_eq_some_iff, h, elementPlace]
    exact ⟨harray, by simp⟩
  · rw [cutFirst_eq_some_iff.mpr ⟨bracket_notMem_toString i, rfl⟩]
    rfl

/-- Different elements of a document have different places, and nothing is at two of them. -/
theorem isUnder_elementPlace_inj {a b : String} {i j : Nat} (ha : '[' ∉ a.toList)
    (hb : '[' ∉ b.toList) (hi : f.IsUnder (elementPlace a i))
    (hj : f.IsUnder (elementPlace b j)) : a = b ∧ i = j := by
  obtain ⟨rest, hcut, hindex⟩ := cutFirst_location ha hi
  obtain ⟨rest', hcut', hindex'⟩ := cutFirst_location hb hj
  rw [hcut, Option.some.injEq, Prod.mk.injEq] at hcut'
  obtain ⟨hname, rfl⟩ := hcut'
  rw [hindex, Option.some.injEq] at hindex'
  exact ⟨String.toList_inj.mp hname, eq_of_toList_toString hindex'⟩

/-! ### Servers -/

/-- What is found in the elements of an array is found in one of them, at its place. -/
theorem mem_elementFindings_iff {α : Type} {array : String} {check : α → String → Findings}
    {i : Nat} {as : List α} : f ∈ elementFindings array check i as ↔
      ∃ j a, as[j]? = some a ∧ f ∈ check a (elementPlace array (i + j)) := by
  induction as generalizing i with
  | nil => simp [elementFindings]
  | cons a as ih =>
    rw [elementFindings, List.mem_append, ih]
    constructor
    · rintro (h | ⟨j, b, hb, h⟩)
      · exact ⟨0, a, rfl, h⟩
      · exact ⟨j + 1, b, hb, by rwa [Nat.add_comm j, ← Nat.add_assoc]⟩
    · rintro ⟨j, b, hb, h⟩
      cases j with
      | zero =>
        obtain rfl := Option.some.inj hb
        exact .inl h
      | succ j => exact .inr ⟨j, b, hb, by rwa [Nat.add_assoc, Nat.add_comm 1]⟩

namespace Server

variable {s : Server} {p : Package} {i : Nat}

/-- What is found in a server: that it has no name, or what is found in one of its packages or one
of its hosted endpoints. -/
theorem mem_findings_iff : f ∈ s.findings strict ↔
    (trim s.name).isEmpty = true ∧ f = ⟨.error, "name", .unnamedServer⟩ ∨
    (∃ i p, s.packageList[i]? = some p ∧
      f ∈ Package.findings p strict (elementPlace "packages" i)) ∨
    ∃ i t, s.remoteList[i]? = some t ∧ f ∈ remoteFindings t strict (elementPlace "remotes" i) := by
  rw [findings, List.mem_append, List.mem_append, mem_elementFindings_iff,
    mem_elementFindings_iff, or_assoc]
  simp only [Nat.zero_add]
  refine or_congr ?_ Iff.rfl
  split <;> simp [*, mem_error_iff]

/-- **What is found at the place of a package** is what the check of that package finds. -/
theorem mem_findings_isUnder_iff (hp : s.packageList[i]? = some p) :
    f ∈ s.findings strict ∧ f.IsUnder (elementPlace "packages" i) ↔
      f ∈ p.findings strict (elementPlace "packages" i) := by
  have hpackages : '[' ∉ "packages".toList := by decide
  have hremotes : '[' ∉ "remotes".toList := by decide
  constructor
  · rintro ⟨h, hunder⟩
    rcases mem_findings_iff.mp h with ⟨-, rfl⟩ | ⟨j, q, hq, h⟩ | ⟨j, t, -, h⟩
    · -- the name of the server is no element of an array
      obtain ⟨rest, hcut, -⟩ := cutFirst_location hpackages hunder
      cases hcut
    · obtain ⟨-, rfl⟩ := isUnder_elementPlace_inj hpackages hpackages hunder
        (Package.isUnder_of_mem h)
      obtain rfl := Option.some.inj (hp.symm.trans hq)
      exact h
    · obtain ⟨hname, -⟩ := isUnder_elementPlace_inj hpackages hremotes hunder
        (isUnder_of_mem_remoteFindings h)
      exact absurd hname (by decide)
  · intro h
    exact ⟨mem_findings_iff.mpr (.inr (.inl ⟨i, p, hp, h⟩)), Package.isUnder_of_mem h⟩

end Server

end Catalog
