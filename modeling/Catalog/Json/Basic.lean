import Catalog.Decimal.Binary64

/-!
# JSON documents

A document keeps the members of an object in the order in which they were written, so that a
changed document differs from the one before only where it was changed. Two objects are
nevertheless the same when they have the same members in any order.

## Main definitions

* `Json` — a document; numbers are integers or finite doubles and never mixed.
* `Json.Members` — the members of an object, in order, and their operations `value?`, `set` and
  `remove`.
* `Json.same` — equality of documents up to the order of members.
-/

namespace Catalog

/-- A JSON number: an integer that a signed or unsigned 64-bit word holds, or a finite double. -/
inductive Json.Number where
  | int (value : Int)
  | float (value : Binary64)
deriving DecidableEq, Repr, Inhabited

/-- A JSON document. -/
inductive Json where
  | null
  | bool (value : Bool)
  | num (value : Json.Number)
  | str (value : String)
  | arr (items : List Json)
  | obj (members : List (String × Json))
deriving Repr, Inhabited

namespace Json

/-! ### Structural equality -/

mutual

/-- Decides whether two documents are equal, member order included. -/
def decEq : (a b : Json) → Decidable (a = b)
  | null, null => isTrue rfl
  | bool a, bool b => if h : a = b then isTrue (by rw [h]) else isFalse (by simp [h])
  | num a, num b => if h : a = b then isTrue (by rw [h]) else isFalse (by simp [h])
  | str a, str b => if h : a = b then isTrue (by rw [h]) else isFalse (by simp [h])
  | arr a, arr b =>
    match decEqItems a b with
    | isTrue h => isTrue (by rw [h])
    | isFalse h => isFalse (by simp [h])
  | obj a, obj b =>
    match decEqMembers a b with
    | isTrue h => isTrue (by rw [h])
    | isFalse h => isFalse (by simp [h])
  | null, bool _ | null, num _ | null, str _ | null, arr _ | null, obj _
  | bool _, null | bool _, num _ | bool _, str _ | bool _, arr _ | bool _, obj _
  | num _, null | num _, bool _ | num _, str _ | num _, arr _ | num _, obj _
  | str _, null | str _, bool _ | str _, num _ | str _, arr _ | str _, obj _
  | arr _, null | arr _, bool _ | arr _, num _ | arr _, str _ | arr _, obj _
  | obj _, null | obj _, bool _ | obj _, num _ | obj _, str _ | obj _, arr _ =>
    isFalse (by simp)

/-- Decides whether two lists of documents are equal. -/
def decEqItems : (a b : List Json) → Decidable (a = b)
  | [], [] => isTrue rfl
  | [], _ :: _ | _ :: _, [] => isFalse (by simp)
  | x :: xs, y :: ys =>
    match decEq x y, decEqItems xs ys with
    | isTrue h, isTrue hs => isTrue (by rw [h, hs])
    | isFalse h, _ => isFalse (by simp [h])
    | _, isFalse hs => isFalse (by simp [hs])

/-- Decides whether two lists of members are equal. -/
def decEqMembers : (a b : List (String × Json)) → Decidable (a = b)
  | [], [] => isTrue rfl
  | [], _ :: _ | _ :: _, [] => isFalse (by simp)
  | (k, x) :: xs, (l, y) :: ys =>
    if hk : k = l then
      match decEq x y, decEqMembers xs ys with
      | isTrue h, isTrue hs => isTrue (by rw [hk, h, hs])
      | isFalse h, _ => isFalse (by simp [h])
      | _, isFalse hs => isFalse (by simp [hs])
    else isFalse (by simp [hk])

end

instance : DecidableEq Json := decEq

/-! ### Members of an object -/

/-- The members of an object, in order. In a document read from text no key occurs twice. -/
abbrev Members := List (String × Json)

namespace Members

/-- The value of a member. -/
def value? : Members → String → Option Json
  | [], _ => none
  | (k, v) :: ms, key => if k = key then some v else value? ms key

/-- Gives a member a new value. An existing member keeps its place, a new one goes last. -/
def set : Members → String → Json → Members
  | [], key, value => [(key, value)]
  | (k, v) :: ms, key, value =>
    if k = key then (k, value) :: ms else (k, v) :: set ms key value

/-- Removes a member. The last member moves into the place that becomes free. -/
def remove : Members → String → Members
  | [], _ => []
  | (k, v) :: ms, key =>
    if k = key then
      match ms.getLast? with
      | none => []
      | some last => last :: ms.dropLast
    else (k, v) :: remove ms key

/-- The keys, in order. -/
def keys (ms : Members) : List String := ms.map Prod.fst

/-- The members written one after another: a repeated key keeps its first place and takes its last
value. -/
def ofList (ms : List (String × Json)) : Members :=
  ms.foldl (fun acc (k, v) => acc.set k v) []

/-- The members with other keys than the given ones. -/
def others (ms : Members) (known : List String) : Members :=
  ms.filter fun (k, _) => !known.contains k

/-- The text of a string member. -/
def string? (ms : Members) (key : String) : Option String :=
  match ms.value? key with
  | some (.str s) => some s
  | _ => none

@[simp] theorem value?_nil (key : String) : value? [] key = none := rfl

theorem value?_cons (k : String) (v : Json) (ms : Members) (key : String) :
    value? ((k, v) :: ms) key = if k = key then some v else value? ms key := rfl

/-- A member that was set reads back, and no other member changes. -/
theorem value?_set (ms : Members) (k : String) (v : Json) (key : String) :
    (ms.set k v).value? key = if k = key then some v else ms.value? key := by
  induction ms with
  | nil => simp [set, value?]
  | cons m ms ih =>
    obtain ⟨l, w⟩ := m
    by_cases hl : l = k
    · subst hl; by_cases hk : l = key <;> simp [set, value?, hk]
    · by_cases hk : l = key
      · subst hk; simp [set, value?, hl, Ne.symm hl]
      · simp [set, value?, hl, hk, ih]

end Members

/-! ### Looking into a document -/

/-- The members of an object; none for any other document. -/
def members : Json → Members
  | obj ms => ms
  | _ => []

/-- The items of an array; none for any other document. -/
def items : Json → List Json
  | arr xs => xs
  | _ => []

/-- The member of an object. -/
def get? (v : Json) (key : String) : Option Json := v.members.value? key

/-- The text of a string. -/
def string? : Json → Option String
  | str s => some s
  | _ => none

/-- Whether the document is `null`. -/
def isNull : Json → Bool
  | null => true
  | _ => false

/-- An integer document. -/
def ofNat (n : Nat) : Json := num (.int n)

/-- The document of an optional value, `null` for none. -/
def ofOption {α : Type} (encode : α → Json) : Option α → Json
  | none => null
  | some a => encode a

/-- The strings of a list as an array. -/
def ofStrings (xs : List String) : Json := arr (xs.map str)

/-! ### Equality up to the order of members -/

/-- Numerical equality within each kind of number. An integer is never the same as a double. -/
def Number.same : Number → Number → Bool
  | .int a, .int b => a == b
  | .float a, .float b => a.same b
  | _, _ => false

mutual

/-- Whether two documents are equal up to the order of members. -/
def same : Json → Json → Bool
  | null, null => true
  | bool a, bool b => a == b
  | num a, num b => a.same b
  | str a, str b => a == b
  | arr a, arr b => sameItems a b
  | obj a, obj b => a.length == b.length && sameMembers a b
  | _, _ => false

/-- Whether two lists of documents are the same position by position. -/
def sameItems : List Json → List Json → Bool
  | [], [] => true
  | x :: xs, y :: ys => same x y && sameItems xs ys
  | _, _ => false

/-- Whether every member of the first object is in the second with the same value. -/
def sameMembers : List (String × Json) → Members → Bool
  | [], _ => true
  | (k, v) :: ms, others =>
    (match others.value? k with
      | some w => same v w
      | none => false) && sameMembers ms others

end

end Json

end Catalog
