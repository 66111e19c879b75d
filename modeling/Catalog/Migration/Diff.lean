import Catalog.Package.Transport

/-!
# Differences

What differs between two `packages` arrays, package by package and member by member.

## Main definitions

* `FieldChange` — a member before and after.
* `RecordDiff` — the changes of a record.
* `diffPackages` — the changes between two arrays.
-/

namespace Catalog

open Json (Members)

/-- A member of a package that was added, removed or given another value. -/
structure FieldChange where
  field : String
  before : Option Json
  after : Option Json
deriving DecidableEq, Repr, Inhabited

/-- The changes of the package at an index. -/
structure PackageDiff where
  index : Nat
  changes : List FieldChange
deriving DecidableEq, Repr, Inhabited

/-- The changes of a record. -/
structure RecordDiff where
  recordId : String
  packages : List PackageDiff
deriving DecidableEq, Repr, Inhabited

namespace FieldChange

/-- Whether the member was removed. -/
def isRemoval (c : FieldChange) : Bool := c.before.isSome && c.after.isNone

/-- Whether the member was added. -/
def isAddition (c : FieldChange) : Bool := c.before.isNone && c.after.isSome

/-- The document of a change. -/
def toJson (c : FieldChange) : Json :=
  .obj <| [("field", .str c.field)] ++ Members.given "before" id c.before
    ++ Members.given "after" id c.after

end FieldChange

/-- The document of the changes of a package. -/
def PackageDiff.toJson (d : PackageDiff) : Json :=
  .obj [("index", Json.ofNat d.index), ("changes", .arr (d.changes.map FieldChange.toJson))]

/-- The document of the changes of a record. -/
def RecordDiff.toJson (d : RecordDiff) : Json :=
  .obj [("record_id", .str d.recordId), ("packages", .arr (d.packages.map PackageDiff.toJson))]

/-- The members of the first object that the second one lacks or has with another value. -/
def changedMembers (before after : Members) : List FieldChange :=
  before.filterMap fun (k, v) =>
    match after.value? k with
    | some w => if v.same w then none else some ⟨k, some v, some w⟩
    | none => some ⟨k, some v, none⟩

/-- The members of the second object that the first one lacks. -/
def addedMembers (before after : Members) : List FieldChange :=
  after.filterMap fun (k, v) => if (before.value? k).isSome then none else some ⟨k, none, some v⟩

/-- Whether two optional documents are the same. -/
def sameOption : Option Json → Option Json → Bool
  | none, none => true
  | some a, some b => a.same b
  | _, _ => false

/-- The changes between two elements. Two objects are compared member by member, anything else as a
whole under the name `.`. -/
def diffElement (before after : Option Json) : List FieldChange :=
  match before, after with
  | some (.obj old), some (.obj new) => changedMembers old new ++ addedMembers old new
  | old, new => if sameOption old new then [] else [⟨".", old, new⟩]

/-- The changes between two lists of elements, the first of which has the index given. -/
def diffElements : (index : Nat) → (before after : List Json) → List PackageDiff
  | _, [], [] => []
  | i, old :: olds, [] => keep i (diffElement (some old) none) ++ diffElements (i + 1) olds []
  | i, [], new :: news => keep i (diffElement none (some new)) ++ diffElements (i + 1) [] news
  | i, old :: olds, new :: news =>
    keep i (diffElement (some old) (some new)) ++ diffElements (i + 1) olds news
where
  /-- The changes at an index, if there are any. -/
  keep (index : Nat) (changes : List FieldChange) : List PackageDiff :=
    if changes.isEmpty then [] else [⟨index, changes⟩]

/-- The changes between two `packages` arrays, if there are any. -/
def diffPackages (recordId : String) (before after : Json) : Option RecordDiff :=
  match diffElements 0 before.items after.items with
  | [] => none
  | packages => some ⟨recordId, packages⟩

end Catalog
