import Catalog.Text.Blank
import Catalog.Text.Cut
import Catalog.Text.Lowercase

/-!
# Bearer challenges

A registry that wants a token answers with a challenge: the scheme `Bearer` and parameters
`key=value`, separated by commas. A value may be quoted, and in a quoted value a backslash takes the
character after it literally.

## Main definitions

* `BearerChallenge` — where a token can be had and for what.
* `BearerChallenge.parse?` — the challenge of a header.
* `BearerChallenge.query` — the parameters of the token request.
-/

namespace Catalog

open Text

/-- Where a token can be had and for what. -/
structure BearerChallenge where
  realm : String
  service : Option String
  scope : Option String
deriving DecidableEq, Repr, Inhabited

namespace BearerChallenge

/-- The value of a quoted text after its opening quote, and the text after its closing quote. -/
def quoted : List Char → List Char × List Char
  | [] => ([], [])
  | '"' :: cs => ([], cs)
  | ['\\'] => ([], [])
  | '\\' :: c :: cs => let (v, rest) := quoted cs; (c :: v, rest)
  | c :: cs => let (v, rest) := quoted cs; (c :: v, rest)

/-- The value at the front of a text, and the text after it. -/
def value : List Char → List Char × List Char
  | '"' :: cs => quoted cs
  | cs => (stripChars isBlank (cs.takeWhile (· != ',')), cs.dropWhile (· != ','))

/-- The first parameter of a text, and the text after it. There is none without a key. -/
def parameter? (cs : List Char) : Option ((List Char × List Char) × List Char) :=
  let start := cs.dropWhile fun c => c == ',' || isBlank c
  let key := (stripChars isBlank (start.takeWhile (· != '='))).map Char.toLower
  if key.isEmpty then none
  else
    let (v, rest) := value ((start.dropWhile (· != '=')).drop 1)
    some ((key, v), rest)

theorem length_quoted_le (cs : List Char) : (quoted cs).2.length ≤ cs.length := by
  fun_induction quoted cs <;> simp_all <;> omega

theorem length_value_le (cs : List Char) : (value cs).2.length ≤ cs.length := by
  unfold value
  split
  · exact Nat.le_succ_of_le (length_quoted_le _)
  · exact (List.dropWhile_sublist _).length_le

/-- A parameter takes at least its key from the text. -/
theorem length_lt_of_parameter? {cs : List Char} {p : List Char × List Char} {rest : List Char}
    (h : parameter? cs = some (p, rest)) : rest.length < cs.length := by
  unfold parameter? at h
  simp only [Option.ite_none_left_eq_some, Option.some.injEq, Prod.mk.injEq] at h
  obtain ⟨hkey, -, rfl⟩ := h
  generalize hs : cs.dropWhile (fun c => c == ',' || isBlank c) = start at hkey ⊢
  have hstart : start.length ≤ cs.length := hs ▸ (List.dropWhile_sublist _).length_le
  have hvalue := length_value_le ((start.dropWhile (· != '=')).drop 1)
  have htake : start.takeWhile (· != '=') ≠ [] := by
    rintro he
    simp [he, stripChars] at hkey
  have hsum : (start.takeWhile (· != '=')).length + (start.dropWhile (· != '=')).length
      = start.length := by
    rw [← List.length_append, List.takeWhile_append_dropWhile]
  have hpos : 0 < (start.takeWhile (· != '=')).length := List.length_pos_iff.2 htake
  simp only [List.length_drop] at hvalue
  omega

/-- The parameters of a text, in order. -/
def parameters (cs : List Char) : List (String × String) :=
  match _h : parameter? cs with
  | none => []
  | some ((k, v), rest) => (String.ofList k, String.ofList v) :: parameters rest
termination_by cs.length
decreasing_by exact length_lt_of_parameter? _h

/-- The last value of a parameter. -/
def parameterValue? (ps : List (String × String)) (key : String) : Option String :=
  (ps.reverse.find? fun (k, _) => k == key).map Prod.snd

/-- The scheme of a header and the text after the first blank. -/
def splitScheme (cs : List Char) : Option (List Char × List Char) :=
  match cs.dropWhile fun c => !isBlank c with
  | [] => none
  | _ :: rest => some (cs.takeWhile fun c => !isBlank c, rest)

/-- The challenge of a header. There is none for another scheme or without a realm. -/
def parse? (header : String) : Option BearerChallenge := do
  let (scheme, rest) ← splitScheme (stripChars isBlank header.toList)
  if scheme.map Char.toLower ≠ "bearer".toList then none
  let ps := parameters rest
  let realm ← parameterValue? ps "realm"
  if realm.isEmpty then none
  return ⟨realm, parameterValue? ps "service", parameterValue? ps "scope"⟩

/-- The parameters of the token request. A challenge without a scope gets the one given. -/
def query (c : BearerChallenge) (fallback : String) : List (String × String) :=
  (match c.service with
    | some s => [("service", s)]
    | none => [])
  ++ [("scope", c.scope.getD fallback)]

/-- The scope of pulling from a repository. -/
def pullScope (repository : String) : String := "repository:" ++ repository ++ ":pull"

end BearerChallenge

end Catalog
