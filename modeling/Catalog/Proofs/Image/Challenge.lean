import Catalog.Image.Challenge
import Catalog.Proofs.Text.Pattern
import Mathlib

/-!
# Written challenges

A challenge can be written in many ways: the scheme and the keys in any case, the parameters in any
order, with spaces around the commas between them. Every value stands between quotes, and a
backslash before each quote and each backslash in it. Whatever the values are, also with commas,
quotes or blanks in them, the challenge that is read is the one that was written.

## Main definitions

* `BearerChallenge.IsSpelling`, `BearerChallenge.escape` — how words and values are written.
* `BearerChallenge.AreParameters` — parameters as they are written.
* `BearerChallenge.IsWrittenAs` — a challenge is written as a header.

## Main results

* `BearerChallenge.quoted_escape` — a value between quotes is read back.
* `BearerChallenge.parameter?_of_isParameter` — one parameter.
* `BearerChallenge.parameters_of_areParameters` — all parameters.
* `BearerChallenge.parse?_of_isWrittenAs` — **a challenge is read as it was written.**
-/

namespace Catalog.BearerChallenge

open Text

variable {c : BearerChallenge} {p : String × String} {ps : List (String × String)}
  {cs rest skipped : List Char} {word key value header : String}

/-! ### How challenges are written -/

/-- The characters spell the word, each in lower or in upper case. -/
def IsSpelling (word : String) (cs : List Char) : Prop :=
  List.Forall₂ (fun c d => c = d ∨ c = d.toUpper) cs word.toList

/-- A value as it stands between quotes: a backslash before each quote and each backslash. -/
def escape (cs : List Char) : List Char :=
  cs.flatMap fun c => if c = '"' ∨ c = '\\' then ['\\', c] else [c]

/-- The characters are a parameter: its key, and its value between quotes. -/
def IsParameter (p : String × String) (cs : List Char) : Prop :=
  ∃ key, IsSpelling p.1 key ∧ cs = key ++ '=' :: '"' :: escape p.2.toList ++ ['"']

/-- The characters are the parameters in order, with a comma between any two of them and any number
of spaces around it. -/
inductive AreParameters : List (String × String) → List Char → Prop
  | single {p : String × String} {cs : List Char} (parameter : IsParameter p cs) :
    AreParameters [p] cs
  | cons {p : String × String} {ps : List (String × String)} {cs rest : List Char}
    (parameter : IsParameter p cs) (before after : Nat) (others : AreParameters ps rest) :
    AreParameters (p :: ps)
      (cs ++ (List.replicate before ' ' ++ ',' :: List.replicate after ' ' ++ rest))

/-- The parameters that a challenge has. -/
def given (c : BearerChallenge) : List (String × String) :=
  [("realm", c.realm)] ++ (c.service.map fun v => ("service", v)).toList ++
    (c.scope.map fun v => ("scope", v)).toList

/-- The challenge is written as the header: the scheme, a space, and its parameters in some
order. -/
def IsWrittenAs (c : BearerChallenge) (header : String) : Prop :=
  ∃ scheme ps text, IsSpelling "bearer" scheme ∧ ps.Perm c.given ∧ AreParameters ps text ∧
    header.toList = scheme ++ ' ' :: text

/-! ### Words -/

/-- The words of a challenge consist of lowercase letters. -/
def IsWord (word : String) : Prop := word.toList ≠ [] ∧ ∀ c ∈ word.toList, c.isLower = true

namespace IsSpelling

/-- A word reads the same in every case. -/
theorem map_toLower (h : IsSpelling word cs) (hword : IsWord word) :
    cs.map Char.toLower = word.toList := by
  have hlower : ∀ d ∈ word.toList, d.toLower = d := fun d hd =>
    Char.toLower_eq_of_not_isUpper (Char.not_isUpper_of_isLower (hword.2 d hd))
  conv => rhs; rw [← List.map_id' word.toList, ← List.map_congr_left hlower]
  rw [← List.forall₂_eq_eq_eq, List.forall₂_map_left_iff, List.forall₂_map_right_iff]
  refine h.imp fun c d hcd => ?_
  rcases hcd with rfl | rfl
  · rfl
  · exact Char.toLower_toUpper_eq_toLower d

/-- A word is spelled in letters. -/
theorem isAlpha (h : IsSpelling word cs) (hword : IsWord word) : ∀ c ∈ cs, c.isAlpha = true := by
  intro c hc
  have hmem : c.toLower ∈ word.toList := by
    rw [← h.map_toLower hword]
    exact List.mem_map_of_mem hc
  rw [← Char.isLower_toLower_eq_isAlpha]
  exact hword.2 _ hmem

theorem ne_nil (h : IsSpelling word cs) (hword : IsWord word) : cs ≠ [] := by
  rintro rfl
  exact hword.1 (h.map_toLower hword).symm

end IsSpelling

/-- No letter is blank. -/
theorem isBlank_of_isAlpha {c : Char} (h : c.isAlpha = true) : isBlank c = false := by
  rw [isAlpha_iff, isUpper_iff, isLower_iff] at h
  exact isBlank_of_visible (by omega) (by omega)

/-- No letter is the other character. -/
theorem ne_of_isAlpha {c d : Char} (h : c.isAlpha = true) (hd : d.isAlpha = false) : c ≠ d := by
  rintro rfl
  rw [h] at hd
  cases hd

/-- Characters without blanks at their ends stay as they are. -/
theorem stripChars_isBlank_eq_self (hfirst : ∀ c ∈ cs.head?, isBlank c = false)
    (hlast : ∀ c ∈ cs.getLast?, isBlank c = false) : stripChars isBlank cs = cs := by
  have hdrop : ∀ {ds : List Char}, (∀ c ∈ ds.head?, isBlank c = false) →
      ds.dropWhile isBlank = ds := by
    intro ds hds
    cases ds with
    | nil => rfl
    | cons c ds => exact List.dropWhile_cons_of_neg (by simp [hds c rfl])
  have hreverse : ∀ c ∈ cs.reverse.head?, isBlank c = false := by
    rwa [List.head?_reverse]
  rw [stripChars, hdrop hfirst, hdrop hreverse, List.reverse_reverse]

/-! ### One parameter -/

/-- A value between quotes is read back. -/
theorem quoted_escape (cs rest : List Char) : quoted (escape cs ++ '"' :: rest) = (cs, rest) := by
  induction cs with
  | nil => rfl
  | cons c cs ih =>
    rw [escape, List.flatMap_cons, List.append_assoc, ← escape]
    by_cases hquote : c = '"'
    · subst hquote
      simp [quoted, ih]
    · by_cases hbackslash : c = '\\'
      · subst hbackslash
        simp [quoted, ih]
      · simp [quoted, ih, hquote, hbackslash]

/-- A parameter is read, whatever commas and spaces are in front of it. -/
theorem parameter?_of_isParameter (h : IsParameter p cs) (hword : IsWord p.1)
    (hskipped : ∀ c ∈ skipped, c = ',' ∨ c = ' ') (rest : List Char) :
    parameter? (skipped ++ (cs ++ rest)) = some ((p.1.toList, p.2.toList), rest) := by
  obtain ⟨key, hkey, rfl⟩ := h
  have hletters := hkey.isAlpha hword
  obtain ⟨c, key', rfl⟩ := List.exists_cons_of_ne_nil (hkey.ne_nil hword)
  have hc := hletters c List.mem_cons_self
  -- the key begins behind the commas and blanks
  have hstart :
      (skipped ++ ((c :: key') ++ '=' :: '"' :: escape p.2.toList ++ ['"'] ++ rest)).dropWhile
        (fun c => c == ',' || isBlank c) =
      (c :: key') ++ '=' :: '"' :: (escape p.2.toList ++ '"' :: rest) := by
    rw [List.dropWhile_append_of_pos]
    · simp [isBlank_of_isAlpha hc, ne_of_isAlpha hc (d := ',') (by decide)]
    · intro d hd
      rcases hskipped d hd with rfl | rfl <;> decide
  have hbefore : ∀ d ∈ c :: key', (d != '=') = true := fun d hd => by
    simpa using ne_of_isAlpha (hletters d hd) (by decide)
  have hstrip : stripChars isBlank (c :: key') = c :: key' :=
    stripChars_isBlank_eq_self (fun d hd => isBlank_of_isAlpha (hletters d (List.mem_of_head? hd)))
      fun d hd => isBlank_of_isAlpha (hletters d (List.mem_of_getLast? hd))
  rw [parameter?, hstart, List.takeWhile_append_of_pos hbefore,
    List.dropWhile_append_of_pos hbefore]
  simp [hstrip, ← hkey.map_toLower hword, value, quoted_escape]

/-! ### All parameters -/

theorem parameters_of_eq_some {key value : List Char}
    (h : parameter? cs = some ((key, value), rest)) :
    parameters cs = (String.ofList key, String.ofList value) :: parameters rest := by
  rw [parameters]
  split
  · next hnone => cases hnone.symm.trans h
  · next hsome =>
    obtain ⟨⟨rfl, rfl⟩, rfl⟩ := by simpa using hsome.symm.trans h
    rfl

theorem parameters_nil : parameters [] = [] := by
  rw [parameters]
  rfl

/-- All parameters are read, in order. -/
theorem parameters_of_areParameters (h : AreParameters ps cs) (hwords : ∀ p ∈ ps, IsWord p.1)
    (hskipped : ∀ c ∈ skipped, c = ',' ∨ c = ' ') : parameters (skipped ++ cs) = ps := by
  induction h generalizing skipped with
  | @single p cs parameter =>
    have hread := parameter?_of_isParameter parameter (hwords p List.mem_cons_self) hskipped []
    rw [List.append_nil] at hread
    rw [parameters_of_eq_some hread, parameters_nil, String.ofList_toList, String.ofList_toList]
  | @cons p ps cs rest parameter before after others ih =>
    obtain ⟨hword, hwords⟩ := List.forall_mem_cons.mp hwords
    rw [parameters_of_eq_some (parameter?_of_isParameter parameter hword hskipped _),
      String.ofList_toList, String.ofList_toList, ih hwords]
    -- between two parameters there are a comma and spaces only
    intro c hc
    simp only [List.mem_append, List.mem_cons, List.mem_replicate] at hc
    tauto

/-- Where no key comes twice, a parameter has the value that was read for it. -/
theorem parameterValue?_eq_some_iff (h : (ps.map (·.1)).Nodup) :
    parameterValue? ps key = some value ↔ (key, value) ∈ ps := by
  have hmem : ∀ {q : String × String}, (ps.reverse.find? fun q => q.1 == key) = some q →
      q ∈ ps ∧ q.1 = key := fun hq =>
    ⟨List.mem_reverse.mp (List.mem_of_find?_eq_some hq), by simpa using List.find?_some hq⟩
  rw [parameterValue?, Option.map_eq_some_iff]
  constructor
  · rintro ⟨⟨_, _⟩, hq, rfl⟩
    obtain ⟨hin, rfl⟩ := hmem hq
    exact hin
  · intro hin
    cases hq : ps.reverse.find? fun q => q.1 == key with
    | none =>
      rw [List.find?_eq_none] at hq
      exact absurd (beq_self_eq_true key) (hq _ (List.mem_reverse.mpr hin))
    | some q =>
      obtain ⟨hqin, hqkey⟩ := hmem hq
      exact ⟨q, rfl, by rw [List.inj_on_of_nodup_map h hqin hin hqkey]⟩

/-! ### Headers -/

theorem isWord_bearer : IsWord "bearer" := by simp [IsWord]

theorem isWord_of_mem_given (h : p ∈ c.given) : IsWord p.1 := by
  have hkey : p.1 = "realm" ∨ p.1 = "service" ∨ p.1 = "scope" := by
    simp only [given, List.mem_append, List.mem_singleton, Option.mem_toList,
      Option.map_eq_some_iff] at h
    rcases h with (rfl | ⟨v, -, rfl⟩) | ⟨v, -, rfl⟩ <;> simp
  rcases hkey with h | h | h <;> rw [h] <;> simp [IsWord]

theorem nodup_keys_given (c : BearerChallenge) : (c.given.map (·.1)).Nodup := by
  obtain ⟨realm, service, scope⟩ := c
  cases service <;> cases scope <;> simp [given]

/-- Written parameters end with a quote. -/
theorem AreParameters.exists_eq_concat (h : AreParameters ps cs) :
    ∃ front, cs = front ++ ['"'] := by
  induction h with
  | single parameter =>
    obtain ⟨key, -, rfl⟩ := parameter
    exact ⟨_, rfl⟩
  | cons parameter before after others ih =>
    obtain ⟨front, rfl⟩ := ih
    exact ⟨_, by rw [← List.append_assoc, ← List.append_assoc]⟩

/-- The scheme and the text behind it. -/
theorem splitScheme_of_isAlpha {scheme : List Char} (h : ∀ c ∈ scheme, c.isAlpha = true)
    (text : List Char) : splitScheme (scheme ++ ' ' :: text) = some (scheme, text) := by
  have hvisible : ∀ c ∈ scheme, (!isBlank c) = true := fun c hc => by
    rw [isBlank_of_isAlpha (h c hc)]
    rfl
  have hspace : isBlank ' ' = true := by decide
  rw [splitScheme, List.takeWhile_append_of_pos hvisible, List.dropWhile_append_of_pos hvisible]
  simp [hspace]

/-- Nothing of a written challenge is blank at its ends. -/
theorem IsWrittenAs.stripChars (h : c.IsWrittenAs header) :
    stripChars isBlank header.toList = header.toList := by
  obtain ⟨scheme, ps, text, hscheme, -, htext, hheader⟩ := h
  obtain ⟨b, scheme', rfl⟩ := List.exists_cons_of_ne_nil (hscheme.ne_nil isWord_bearer)
  obtain ⟨front, rfl⟩ := htext.exists_eq_concat
  have hb := isBlank_of_isAlpha (hscheme.isAlpha isWord_bearer b List.mem_cons_self)
  have hquote : isBlank '"' = false := by decide
  rw [hheader]
  refine stripChars_isBlank_eq_self (by simp [hb]) ?_
  rw [← List.cons_append, ← List.append_assoc, List.getLast?_concat]
  simp [hquote]

/-- The parameters of a challenge are found, in whichever order they are. -/
theorem parameterValue?_of_perm (h : ps.Perm c.given) :
    parameterValue? ps "realm" = some c.realm ∧ parameterValue? ps "service" = c.service ∧
      parameterValue? ps "scope" = c.scope := by
  have hvalue : ∀ key value, parameterValue? ps key = some value ↔ (key, value) ∈ c.given := by
    intro key value
    rw [← h.mem_iff]
    exact parameterValue?_eq_some_iff ((h.map _).nodup_iff.mpr c.nodup_keys_given)
  refine ⟨(hvalue _ _).mpr (by simp [given]), Option.ext fun value => ?_,
    Option.ext fun value => ?_⟩
  · rw [hvalue]
    simp [given]
  · rw [hvalue]
    simp [given]

/-- **A challenge is read as it was written.** -/
theorem parse?_of_isWrittenAs (hrealm : c.realm ≠ "") (h : c.IsWrittenAs header) :
    parse? header = some c := by
  have hstrip := h.stripChars
  obtain ⟨scheme, ps, text, hscheme, hperm, htext, hheader⟩ := h
  have hparameters : parameters text = ps :=
    parameters_of_areParameters htext (fun p hp => isWord_of_mem_given (hperm.mem_iff.mp hp))
      (List.forall_mem_nil _)
  obtain ⟨hfound, hservice, hscope⟩ := parameterValue?_of_perm hperm
  rw [parse?, hstrip, hheader, splitScheme_of_isAlpha (hscheme.isAlpha isWord_bearer)]
  simp [hscheme.map_toLower isWord_bearer, hparameters, hfound, hservice, hscope, hrealm]

/-- A challenge with commas, quotes and backslashes in its realm, and an empty scope. -/
def quotedChallenge : BearerChallenge := ⟨"a, \"b\" = c\\", none, some ""⟩

/-- A way to write it. -/
def quotedHeader : String := "bEARer scope=\"\" ,  Realm=\"a, \\\"b\\\" = c\\\\\""

theorem parse?_of_isWrittenAs_quotedHeader :
    quotedChallenge.IsWrittenAs quotedHeader ∧ parse? quotedHeader = some quotedChallenge := by
  have hwritten : quotedChallenge.IsWrittenAs quotedHeader := by
    refine ⟨"bEARer".toList, [("scope", ""), ("realm", quotedChallenge.realm)], _, ?_,
      .swap _ _ _, .cons ⟨"scope".toList, ?_, rfl⟩ 1 2 (.single ⟨"Realm".toList, ?_, rfl⟩), ?_⟩
    · simp [IsSpelling]
    · simp [IsSpelling]
    · simp [IsSpelling]
    · decide +kernel
  exact ⟨hwritten, parse?_of_isWrittenAs (by decide) hwritten⟩

end Catalog.BearerChallenge
