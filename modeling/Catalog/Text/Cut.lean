/-!
# Cutting texts

Cutting a text at a character, and looking for one text inside another. Everything works on lists of
characters.

## Main definitions

* `cutFirst`, `cutLast` — the parts before and after an occurrence of a character.
* `fields` — the parts between the occurrences of a character.
* `occursIn` — whether one text is a part of another.
-/

namespace Catalog.Text

/-- The parts before and after the first occurrence of a character. -/
def cutFirst (c : Char) : List Char → Option (List Char × List Char)
  | [] => none
  | d :: ds => if d = c then some ([], ds) else (cutFirst c ds).map fun (a, b) => (d :: a, b)

/-- The parts before and after the last occurrence of a character. -/
def cutLast (c : Char) (cs : List Char) : Option (List Char × List Char) :=
  (cutFirst c cs.reverse).map fun (a, b) => (b.reverse, a.reverse)

/-- The parts between the occurrences of a character; there is always at least one. -/
def fields (c : Char) : List Char → List (List Char)
  | [] => [[]]
  | d :: ds =>
    match fields c ds with
    | [] => [[]]
    | f :: fs => if d = c then [] :: f :: fs else (d :: f) :: fs

/-- The part after the last occurrence of a character, or the whole text. -/
def lastField (c : Char) (cs : List Char) : List Char :=
  match cutLast c cs with
  | some (_, back) => back
  | none => cs

/-- The rest of a text after a given front. -/
def afterFront? : (front : List Char) → (cs : List Char) → Option (List Char)
  | [], cs => some cs
  | _ :: _, [] => none
  | f :: fs, c :: cs => if f = c then afterFront? fs cs else none

/-- Whether the first text is a part of the second one. -/
def occursIn (part : List Char) : List Char → Bool
  | [] => part.isEmpty
  | c :: cs => part.isPrefixOf (c :: cs) || occursIn part cs

theorem cutFirst_eq_none_iff {c : Char} {cs : List Char} : cutFirst c cs = none ↔ c ∉ cs := by
  induction cs with
  | nil => simp [cutFirst]
  | cons d ds ih =>
    by_cases h : d = c
    · simp [cutFirst, h]
    · simp [cutFirst, h, ih, Ne.symm h]

/-- A cut text is its two parts with the character between them, and the first part is free of
it. -/
theorem cutFirst_eq_some_iff {c : Char} {cs a b : List Char} :
    cutFirst c cs = some (a, b) ↔ c ∉ a ∧ cs = a ++ c :: b := by
  induction cs generalizing a with
  | nil => simp [cutFirst]
  | cons d ds ih =>
    by_cases h : d = c
    · subst h
      cases a with
      | nil => simp [cutFirst]
      | cons x xs => simp [cutFirst]; grind
    · cases a with
      | nil => simp [cutFirst, h]
      | cons x xs => simp [cutFirst, h, ih]; grind

end Catalog.Text
