import Catalog.Canonical.Pipeline
import Mathlib.Data.List.Pairwise
import Mathlib.Logic.Function.Conjugate

/-!
# The order of the stages

The canonical form does not depend on the order in which the stages run. The stages of the file hash
and of the transport each set one field, which the other stages neither look at nor change. The two
stages that drop the same fields have different types of packages, and no stage changes the type.

## Main definitions

* `Package.Lens` — a field of a package, by how it is looked up and replaced.
* `Package.Lens.Ignores` — a step neither looks at the field nor changes it.
* `Stage.Commutes` — two stages may be swapped.

## Main results

* `Package.Lens.Ignores.commute` — a step that ignores a field commutes with one that sets it.
* `Pipeline.pairwise_commutes_standard` — any two stages of the standard pipeline may be swapped.
* `Pipeline.run_of_perm_standard` — **the stages of the standard pipeline may run in any order.**
-/

namespace Catalog

namespace Package

variable {p : Package}

/-! ### Fields -/

/-- A field of a package: how it is looked up and how it is replaced. -/
structure Lens (α : Type) where
  get : Package → α
  set : Package → α → Package
  get_set : ∀ p a, get (set p a) = a
  set_get : ∀ p, set p (get p) = p

namespace Lens

/-- The file hash. -/
def hash : Lens (Option String) where
  get p := p.fileSha256
  set p hash := { p with fileSha256 := hash }
  get_set _ _ := rfl
  set_get _ := rfl

/-- The transport. -/
def transport : Lens (Option Transport) where
  get p := p.transport
  set p transport := { p with transport := transport }
  get_set _ _ := rfl
  set_get _ := rfl

variable {α : Type} {l : Lens α} {f g : Package → Package} {value : Package → α}

/-- A step neither looks at a field nor changes it: the field may as well be replaced after the
step. -/
def Ignores (l : Lens α) (f : Package → Package) : Prop :=
  ∀ p a, f (l.set p a) = l.set (f p) a

/-- A field that a step ignores stays as it is. -/
theorem Ignores.get_apply (h : l.Ignores f) (p : Package) : l.get (f p) = l.get p := by
  calc l.get (f p)
    _ = l.get (f (l.set p (l.get p))) := by rw [l.set_get]
    _ = l.get p := by rw [h, l.get_set]

/-- A step that ignores a field commutes with one that sets it, if it keeps what the new value
depends on. -/
theorem Ignores.commute (h : l.Ignores f) (hset : ∀ p, g p = l.set p (value p))
    (hvalue : ∀ p, value (f p) = value p) : Function.Commute f g := by
  intro p
  rw [hset, hset, h, hvalue]

/-- A step by cases ignores a field that its test does not look at, if both cases ignore it. -/
theorem Ignores.ite {c : Package → Prop} [DecidablePred c] (hc : ∀ p a, c (l.set p a) ↔ c p)
    (hf : l.Ignores f) (hg : l.Ignores g) : l.Ignores fun p => if c p then f p else g p := by
  intro p a
  by_cases h : c p
  · simp [hc, h, hf p a]
  · simp [hc, h, hg p a]

end Lens

/-! ### What the stages look at and change -/

theorem registryType_completeIdentifier (p : Package) :
    p.completeIdentifier.registryType = p.registryType := by
  unfold completeIdentifier
  split <;> rfl

theorem registryType_simplifyBundle (p : Package) :
    p.simplifyBundle.registryType = p.registryType := by
  unfold simplifyBundle
  split <;> rfl

/-- Only an image has an identifier to complete. -/
theorem completeIdentifier_of_ne (h : p.registryType ≠ .oci) : p.completeIdentifier = p := by
  have hnone : p.isLegacyImage = false := by simp [isLegacyImage, h]
  simp [completeIdentifier, hnone]

/-- Only a bundle has fields that its URL tells. -/
theorem simplifyBundle_of_ne (h : p.registryType ≠ .mcpb) : p.simplifyBundle = p :=
  if_neg h

namespace Lens

theorem hash_ignores_completeIdentifier : hash.Ignores completeIdentifier :=
  .ite (fun _ _ => Iff.rfl) (fun _ _ => rfl) fun _ _ => rfl

theorem transport_ignores_completeIdentifier : transport.Ignores completeIdentifier :=
  .ite (fun _ _ => Iff.rfl) (fun _ _ => rfl) fun _ _ => rfl

theorem hash_ignores_simplifyBundle : hash.Ignores simplifyBundle :=
  .ite (fun _ _ => Iff.rfl) (fun _ _ => rfl) fun _ _ => rfl

theorem transport_ignores_simplifyBundle : transport.Ignores simplifyBundle :=
  .ite (fun _ _ => Iff.rfl) (fun _ _ => rfl) fun _ _ => rfl

theorem transport_ignores_stripForbiddenFields : transport.Ignores stripForbiddenFields :=
  .ite (fun _ _ => Iff.rfl) (fun _ _ => rfl) fun _ _ => rfl

end Lens

theorem stripForbiddenFields_eq (p : Package) : p.stripForbiddenFields =
    Lens.hash.set p (if p.registryType = .mcpb then p.fileSha256 else none) := by
  unfold stripForbiddenFields
  split <;> rfl

theorem defaultTransport_eq (p : Package) : p.defaultTransport =
    Lens.transport.set p (some (p.transport.getD .stdio)) := by
  obtain ⟨_, _, _, _, _, _, transport, _⟩ := p
  cases transport <;> rfl

/-! ### Stages that may be swapped -/

variable {f : Package → Package}

theorem commute_stripForbiddenFields (h : Lens.hash.Ignores f)
    (htype : ∀ p, (f p).registryType = p.registryType) :
    Function.Commute f stripForbiddenFields := by
  apply h.commute stripForbiddenFields_eq
  intro p
  have hhash : (f p).fileSha256 = p.fileSha256 := h.get_apply p
  rw [htype, hhash]

theorem commute_defaultTransport (h : Lens.transport.Ignores f) :
    Function.Commute f defaultTransport := by
  apply h.commute defaultTransport_eq
  intro p
  have htransport : (f p).transport = p.transport := h.get_apply p
  rw [htransport]

/-- Both stages drop the version and the base URL, but never of the same package. -/
theorem commute_completeIdentifier_simplifyBundle :
    Function.Commute completeIdentifier simplifyBundle := by
  intro p
  by_cases htype : p.registryType = .mcpb
  · have himage : p.registryType ≠ .oci := by simp [htype]
    have himage' : p.simplifyBundle.registryType ≠ .oci := by
      rwa [registryType_simplifyBundle]
    rw [completeIdentifier_of_ne himage, completeIdentifier_of_ne himage']
  · have hbundle : p.completeIdentifier.registryType ≠ .mcpb := by
      rwa [registryType_completeIdentifier]
    rw [simplifyBundle_of_ne htype, simplifyBundle_of_ne hbundle]

end Package

/-! ### Pipelines -/

/-- Two stages may be swapped. -/
def Stage.Commutes (s t : Stage) : Prop := Function.Commute s.apply t.apply

instance : Std.Symm Stage.Commutes := ⟨fun _ _ h => Function.Commute.symm h⟩

namespace Pipeline

open Package Stage

/-- Any two stages of the standard pipeline may be swapped. -/
theorem pairwise_commutes_standard : standard.stages.Pairwise Commutes := by
  have hbundle : Stage.completeIdentifier.Commutes Stage.simplifyBundle :=
    commute_completeIdentifier_simplifyBundle
  have hhash : Stage.completeIdentifier.Commutes Stage.stripForbiddenFields ∧
      Stage.simplifyBundle.Commutes Stage.stripForbiddenFields :=
    ⟨commute_stripForbiddenFields Lens.hash_ignores_completeIdentifier
        registryType_completeIdentifier,
      commute_stripForbiddenFields Lens.hash_ignores_simplifyBundle registryType_simplifyBundle⟩
  have htransport : Stage.completeIdentifier.Commutes Stage.defaultTransport ∧
      Stage.simplifyBundle.Commutes Stage.defaultTransport ∧
      Stage.stripForbiddenFields.Commutes Stage.defaultTransport :=
    ⟨commute_defaultTransport Lens.transport_ignores_completeIdentifier,
      commute_defaultTransport Lens.transport_ignores_simplifyBundle,
      commute_defaultTransport Lens.transport_ignores_stripForbiddenFields⟩
  simp [standard, hbundle, hhash, htransport]

/-- Pipelines of the same stages, any two of which may be swapped, do the same. -/
theorem run_of_perm {a b : Pipeline} (hperm : a.stages.Perm b.stages)
    (hcomm : a.stages.Pairwise Commutes) (p : Package) : a.run p = b.run p := by
  have hself : ∀ s ∈ a.stages, s.Commutes s := fun s _ => Function.Commute.refl s.apply
  have hall : ∀ s ∈ a.stages, ∀ t ∈ a.stages, s.Commutes t := by
    intro s hs t ht
    exact hcomm.forall_of_forall hself hs ht
  apply hperm.foldl_eq'
  intro s hs t ht q
  exact hall t ht s hs q

/-- **The stages of the standard pipeline may run in any order.** -/
theorem run_of_perm_standard {pipeline : Pipeline}
    (h : pipeline.stages.Perm standard.stages) (p : Package) :
    pipeline.run p = standard.run p :=
  (run_of_perm h.symm pairwise_commutes_standard p).symm

/-- The standard pipeline backwards. -/
def backwards : Pipeline := ⟨standard.stages.reverse⟩

/-- An image with all older fields and without a transport: all stages but that of bundles have
something to do. -/
def olderHashedImage : Package :=
  { Package.ofIdentifier .oci "ns/img" with
    registryBaseUrl := some "https://ghcr.io/"
    version := some "1.0"
    fileSha256 := some "ab" }

theorem run_of_perm_standard_backwards : backwards.stages.Perm standard.stages ∧
    backwards.run olderHashedImage =
      { Package.ofIdentifier .oci "ghcr.io/ns/img:1.0" with transport := some .stdio } := by
  have hperm : backwards.stages.Perm standard.stages := List.reverse_perm _
  refine ⟨hperm, ?_⟩
  rw [run_of_perm_standard hperm]
  decide

end Pipeline

end Catalog
