import Catalog.Image.Manifest
import Mathlib.Data.List.Find
import Mathlib.Logic.Relation

/-!
# The entry of an index that is followed

An index of images has an entry for each platform, and others that are no image to run: those for
another operating system, and attestations, for which neither the operating system nor the
architecture is known. The entry that is followed depends on the eligible entries alone, whatever
stands between them.

## Main definitions

* `IsFirst` — the first element of a list with a property.
* `Descriptor.IsPreferred`, `Descriptor.IsEligible` — the entries that are looked for.
* `Descriptor.IsForeign`, `Descriptor.IsAttestation` — the entries that are passed over.
* `IndexEdit` — one more or one less entry that is passed over.

## Main results

* `selectPlatform_eq_none_iff`, `selectPlatform_eq_some_iff` — which entry is followed, if any.
* `IndexEdit.filter_eq`, `filter_eq_of_indexEdits` — edits keep the eligible entries.
* `selectPlatform_exact` — **the preferred entry is followed, else the first eligible one, whatever
  is passed over and, for a preferred entry, whatever comes behind it.**
-/

namespace Catalog

/-! ### First elements -/

/-- The first element of a list with a property. -/
def IsFirst {α : Type} (P : α → Prop) (a : α) (as : List α) : Prop :=
  P a ∧ ∃ front back, as = front ++ a :: back ∧ ∀ b ∈ front, ¬ P b

section

variable {α : Type} {P : α → Prop} {a : α} {as : List α}

theorem find?_eq_some_iff_isFirst {p : α → Bool} (h : ∀ a, p a = true ↔ P a) :
    as.find? p = some a ↔ IsFirst P a as := by
  simp [IsFirst, List.find?_eq_some_iff_append, ← h]

/-- A search may leave out what it does not find. -/
theorem find?_filter_of_imp {p q : α → Bool} (h : ∀ a, q a = true → p a = true) :
    (as.filter p).find? q = as.find? q := by
  rw [List.find?_filter]
  apply List.find?_congr
  intro a _
  rw [Bool.eq_iff_iff, decide_eq_true_iff]
  exact and_iff_right_of_imp (h a)

theorem IsFirst.mem (h : IsFirst P a as) : a ∈ as := by
  obtain ⟨-, front, back, rfl, -⟩ := h
  simp

/-- What comes behind does not change which element is the first. -/
theorem IsFirst.append (h : IsFirst P a as) (more : List α) : IsFirst P a (as ++ more) := by
  obtain ⟨ha, front, back, rfl, hfront⟩ := h
  exact ⟨ha, front, back ++ more, by simp, hfront⟩

end

/-! ### Entries of an index -/

namespace Descriptor

variable {d : Descriptor}

/-- The entry is for the platform that is looked for first. -/
def IsPreferred (d : Descriptor) : Prop :=
  ∃ p, d.platform = some p ∧ p.os = "linux" ∧ p.architecture = "amd64"

/-- The entry has no platform, or is for Linux on a known architecture. -/
def IsEligible (d : Descriptor) : Prop :=
  d.platform = none ∨ ∃ p, d.platform = some p ∧ p.os = "linux" ∧ p.architecture ≠ "unknown"

/-- The entry is for another operating system. -/
def IsForeign (d : Descriptor) : Prop := ∃ p, d.platform = some p ∧ p.os ≠ "linux"

/-- The entry is an attestation. -/
def IsAttestation (d : Descriptor) : Prop :=
  ∃ p, d.platform = some p ∧ p.os = "unknown" ∧ p.architecture = "unknown"

theorem any_isPreferred_iff : d.platform.any Platform.isPreferred = true ↔ d.IsPreferred := by
  unfold IsPreferred
  cases d.platform <;> simp [Platform.isPreferred]

theorem all_isRunnable_iff : d.platform.all Platform.isRunnable = true ↔ d.IsEligible := by
  unfold IsEligible
  cases d.platform <;> simp [Platform.isRunnable]

instance : DecidablePred IsEligible := fun _ => decidable_of_iff _ all_isRunnable_iff

theorem IsPreferred.isEligible (h : d.IsPreferred) : d.IsEligible := by
  obtain ⟨p, hp, hos, harchitecture⟩ := h
  refine Or.inr ⟨p, hp, hos, ?_⟩
  rw [harchitecture]
  decide

theorem IsForeign.not_isEligible (h : d.IsForeign) : ¬ d.IsEligible := by
  obtain ⟨p, hp, hos⟩ := h
  rintro (hnone | ⟨q, hq, hlinux, -⟩)
  · simp [hp] at hnone
  · obtain rfl := Option.some.inj (hp.symm.trans hq)
    exact hos hlinux

theorem IsAttestation.isForeign (h : d.IsAttestation) : d.IsForeign := by
  obtain ⟨p, hp, hos, -⟩ := h
  refine ⟨p, hp, ?_⟩
  rw [hos]
  decide

end Descriptor

open Descriptor

variable {entries edited : List Descriptor} {d : Descriptor}

/-! ### The entry that is followed -/

/-- No entry is followed just when none is eligible. -/
theorem selectPlatform_eq_none_iff :
    selectPlatform entries = none ↔ ∀ d ∈ entries, ¬ d.IsEligible := by
  simp only [selectPlatform, Option.or_eq_none_iff, List.find?_eq_none, any_isPreferred_iff,
    all_isRunnable_iff]
  constructor
  · intro h
    exact h.2
  · intro h
    exact ⟨fun d hd hpreferred => h d hd hpreferred.isEligible, h⟩

/-- The first preferred entry is followed, or, where there is none, the first eligible one. -/
theorem selectPlatform_eq_some_iff : selectPlatform entries = some d ↔
    IsFirst IsPreferred d entries ∨
      (∀ e ∈ entries, ¬ e.IsPreferred) ∧ IsFirst IsEligible d entries := by
  unfold selectPlatform
  rw [Option.or_eq_some_iff, find?_eq_some_iff_isFirst fun _ => any_isPreferred_iff,
    find?_eq_some_iff_isFirst fun _ => all_isRunnable_iff, List.find?_eq_none]
  simp only [any_isPreferred_iff]

/-- Only the eligible entries count. -/
theorem selectPlatform_filter (entries : List Descriptor) :
    selectPlatform (entries.filter (IsEligible ·)) = selectPlatform entries := by
  unfold selectPlatform
  rw [find?_filter_of_imp, find?_filter_of_imp]
  · intro d hd
    exact decide_eq_true (all_isRunnable_iff.mp hd)
  · intro d hd
    exact decide_eq_true (any_isPreferred_iff.mp hd).isEligible

/-- A preferred entry that is followed stays the one, whatever comes behind. -/
theorem selectPlatform_append (h : selectPlatform entries = some d) (hd : d.IsPreferred)
    (more : List Descriptor) : selectPlatform (entries ++ more) = some d := by
  rw [selectPlatform_eq_some_iff] at h ⊢
  rcases h with hfirst | ⟨hnone, hfirst⟩
  · exact Or.inl (hfirst.append more)
  · exact absurd hd (hnone d hfirst.mem)

/-! ### Edits of an index -/

/-- One more or one less entry for another operating system or of an attestation, anywhere in an
index. -/
inductive IndexEdit : List Descriptor → List Descriptor → Prop
  | insert {d : Descriptor} (front back : List Descriptor) (h : d.IsForeign ∨ d.IsAttestation) :
      IndexEdit (front ++ back) (front ++ d :: back)
  | remove {d : Descriptor} (front back : List Descriptor) (h : d.IsForeign ∨ d.IsAttestation) :
      IndexEdit (front ++ d :: back) (front ++ back)

theorem filter_isEligible_append_cons (h : d.IsForeign ∨ d.IsAttestation)
    (front back : List Descriptor) :
    (front ++ d :: back).filter (IsEligible ·) = (front ++ back).filter (IsEligible ·) := by
  have hforeign : d.IsForeign := h.elim id IsAttestation.isForeign
  simp [hforeign.not_isEligible]

/-- An edit keeps the eligible entries. -/
theorem IndexEdit.filter_eq (h : IndexEdit entries edited) :
    edited.filter (IsEligible ·) = entries.filter (IsEligible ·) := by
  cases h with
  | insert front back h => exact filter_isEligible_append_cons h front back
  | remove front back h => exact (filter_isEligible_append_cons h front back).symm

/-- Any number of edits keep the eligible entries. -/
theorem filter_eq_of_indexEdits (h : Relation.ReflTransGen IndexEdit entries edited) :
    edited.filter (IsEligible ·) = entries.filter (IsEligible ·) := by
  induction h with
  | refl => rfl
  | tail _ hlast ih => exact hlast.filter_eq.trans ih

/-- Edits do not change which entry is followed. -/
theorem selectPlatform_eq_of_indexEdits (h : Relation.ReflTransGen IndexEdit entries edited) :
    selectPlatform edited = selectPlatform entries := by
  rw [← selectPlatform_filter edited, filter_eq_of_indexEdits h, selectPlatform_filter]

/-! ### The choice as a whole -/

/-- **The preferred entry is followed, else the first eligible one.** No entry is followed just when
none is eligible. Entries that are passed over may be put in or taken out anywhere, and anything may
come behind a preferred entry. -/
theorem selectPlatform_exact (entries : List Descriptor) :
    (selectPlatform entries = none ↔ ∀ d ∈ entries, ¬ d.IsEligible) ∧
      (∀ d, selectPlatform entries = some d ↔
        IsFirst IsPreferred d entries ∨
          (∀ e ∈ entries, ¬ e.IsPreferred) ∧ IsFirst IsEligible d entries) ∧
      (∀ edited, Relation.ReflTransGen IndexEdit entries edited →
        selectPlatform edited = selectPlatform entries) ∧
      ∀ d more, selectPlatform entries = some d → d.IsPreferred →
        selectPlatform (entries ++ more) = some d := by
  refine ⟨selectPlatform_eq_none_iff, fun _ => selectPlatform_eq_some_iff, ?_, ?_⟩
  · intro edited hedits
    exact selectPlatform_eq_of_indexEdits hedits
  · intro d more hselect hpreferred
    exact selectPlatform_append hselect hpreferred more

/-- An entry for an operating system and an architecture, which also give its digest. -/
def entryFor (os architecture : String) : Descriptor where
  mediaType := none
  digest := os ++ "/" ++ architecture
  size := none
  platform := some ⟨architecture, os, none⟩

/-- The entry for Windows is taken out, an attestation is put in between the others, and another
preferred entry comes behind. -/
theorem selectPlatform_exact_entryFor :
    selectPlatform
        [entryFor "windows" "amd64", entryFor "linux" "arm64", entryFor "linux" "amd64"] =
      some (entryFor "linux" "amd64") ∧
    selectPlatform
        [entryFor "linux" "arm64", entryFor "unknown" "unknown", entryFor "linux" "amd64"] =
      some (entryFor "linux" "amd64") ∧
    selectPlatform
        ([entryFor "windows" "amd64", entryFor "linux" "arm64", entryFor "linux" "amd64"] ++
          [{ entryFor "linux" "amd64" with size := some 1 }]) =
      some (entryFor "linux" "amd64") := by
  have hforeign : (entryFor "windows" "amd64").IsForeign := ⟨_, rfl, by decide⟩
  have hattestation : (entryFor "unknown" "unknown").IsAttestation := ⟨_, rfl, rfl, rfl⟩
  have hpreferred : (entryFor "linux" "amd64").IsPreferred := ⟨_, rfl, rfl, rfl⟩
  have hselect : selectPlatform
      [entryFor "windows" "amd64", entryFor "linux" "arm64", entryFor "linux" "amd64"] =
        some (entryFor "linux" "amd64") := by decide
  have hremove : IndexEdit _ [entryFor "linux" "arm64", entryFor "linux" "amd64"] :=
    .remove [] _ (Or.inl hforeign)
  have hinsert : IndexEdit [entryFor "linux" "arm64", entryFor "linux" "amd64"] _ :=
    .insert [entryFor "linux" "arm64"] [entryFor "linux" "amd64"] (Or.inr hattestation)
  obtain ⟨-, -, hedits, hmore⟩ := selectPlatform_exact
    [entryFor "windows" "amd64", entryFor "linux" "arm64", entryFor "linux" "amd64"]
  refine ⟨hselect, ?_, hmore _ _ hselect hpreferred⟩
  exact (hedits _ (.tail (.single hremove) hinsert)).trans hselect

end Catalog
