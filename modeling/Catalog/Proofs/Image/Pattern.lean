import Catalog.Image.Reference
import Catalog.Proofs.Text.Pattern

/-!
# Patterns of the parts of an image reference

The grammar of a path component, a registry host, a tag and a digest as patterns, and that the
recognizers of the library accept just the texts of these patterns.

## Main definitions

* `componentPattern`, `hostPattern`, `tagPattern`, `digestPattern` — the patterns.
* `ComponentState.rest` — what may follow in a path component.

## Main results

* `isComponent_iff`, `isHost_iff`, `isTag_iff`, `isDigest_iff` — **the recognizers are exact.**
* `over_componentPattern`, `over_hostPattern`, `over_tagPattern`, `over_digestPattern` — the
  characters of the parts: none of them is blank, and none separates parts.
-/

namespace Catalog

open Text
open scoped Computability

namespace ImageReference

variable {cs : List Char} {c : Char} {s : ComponentState}

/-! ### Path components -/

/-- What stands between two words of a path component: a dot, one or two underscores, or any number
of hyphens. -/
def separatorPattern : Language Char :=
  char '.' + char '_' + char '_' * char '_' + several (char '-')

/-- A path component: words of lowercase letters and digits with separators between them. -/
def componentPattern : Language Char :=
  several (oneOf isLowerAlnum) * (separatorPattern * several (oneOf isLowerAlnum))∗

/-- What may follow in a path component. -/
def ComponentState.rest : ComponentState → Language Char
  | start => componentPattern
  | word => (oneOf isLowerAlnum)∗ * (separatorPattern * several (oneOf isLowerAlnum))∗
  | underscore => componentPattern + char '_' * componentPattern
  | hyphens => (char '-')∗ * componentPattern

namespace ComponentState

/-- A component starts with a letter or digit. -/
theorem rest_start : start.rest = oneOf isLowerAlnum * word.rest := by
  rw [rest, rest, componentPattern, several, mul_assoc]

/-- Behind a letter or digit there is an end, another one, or a separator and a component. -/
theorem rest_word : word.rest = 1 + oneOf isLowerAlnum * word.rest + char '.' * start.rest +
    char '_' * underscore.rest + char '-' * hyphens.rest := by
  have hseparator : separatorPattern * componentPattern =
      char '.' * start.rest + char '_' * underscore.rest + char '-' * hyphens.rest := by
    simp only [separatorPattern, rest, several, add_mul, mul_add, mul_assoc, add_assoc]
  have htail : (separatorPattern * several (oneOf isLowerAlnum))∗ =
      1 + separatorPattern * componentPattern := by
    rw [componentPattern, ← mul_assoc, Language.one_add_self_mul_kstar_eq_kstar]
  calc word.rest
    _ = (1 + oneOf isLowerAlnum * (oneOf isLowerAlnum)∗) *
          (separatorPattern * several (oneOf isLowerAlnum))∗ := by
        rw [Language.one_add_self_mul_kstar_eq_kstar, rest]
    _ = (separatorPattern * several (oneOf isLowerAlnum))∗ + oneOf isLowerAlnum * word.rest := by
        rw [add_mul, one_mul, mul_assoc, rest]
    _ = _ := by
        rw [htail, hseparator]
        ac_rfl

theorem rest_underscore : underscore.rest = start.rest + char '_' * start.rest := rfl

theorem rest_hyphens : hyphens.rest = start.rest + char '-' * hyphens.rest := by
  rw [rest, rest, ← mul_assoc, ← one_add_mul, Language.one_add_self_mul_kstar_eq_kstar]

/-- A component ends behind a letter or digit only. -/
theorem nil_mem_rest_iff : [] ∈ s.rest ↔ s = word := by
  have hstart : [] ∉ start.rest := by
    rw [rest_start]
    exact nil_notMem_oneOf_mul
  cases s with
  | start => simp [hstart]
  | word =>
    rw [rest_word]
    simp only [Language.mem_add, Language.nil_mem_one, true_or]
  | underscore =>
    rw [rest_underscore, Language.mem_add]
    simp [hstart]
  | hyphens =>
    rw [rest_hyphens, Language.mem_add]
    simp [hstart]

theorem cons_mem_start_iff : c :: cs ∈ start.rest ↔ isLowerAlnum c = true ∧ cs ∈ word.rest := by
  rw [rest_start, cons_mem_oneOf_mul_iff]

theorem cons_mem_word_iff : c :: cs ∈ word.rest ↔ isLowerAlnum c = true ∧ cs ∈ word.rest ∨
    c = '.' ∧ cs ∈ start.rest ∨ c = '_' ∧ cs ∈ underscore.rest ∨ c = '-' ∧ cs ∈ hyphens.rest := by
  conv => lhs; rw [rest_word]
  simp only [Language.mem_add, Language.mem_one, cons_mem_oneOf_mul_iff, cons_mem_char_mul_iff,
    reduceCtorEq, false_or, or_assoc]

theorem cons_mem_underscore_iff : c :: cs ∈ underscore.rest ↔
    isLowerAlnum c = true ∧ cs ∈ word.rest ∨ c = '_' ∧ cs ∈ start.rest := by
  rw [rest_underscore, Language.mem_add, cons_mem_start_iff, cons_mem_char_mul_iff]

theorem cons_mem_hyphens_iff : c :: cs ∈ hyphens.rest ↔
    isLowerAlnum c = true ∧ cs ∈ word.rest ∨ c = '-' ∧ cs ∈ hyphens.rest := by
  conv => lhs; rw [rest_hyphens]
  rw [Language.mem_add, cons_mem_start_iff, cons_mem_char_mul_iff]

end ComponentState

/-- The recognizer accepts, from each state, just what may follow. -/
theorem isComponentFrom_iff : isComponentFrom s cs = true ↔ cs ∈ s.rest := by
  induction cs generalizing s with
  | nil => cases s <;> simp [isComponentFrom, ComponentState.nil_mem_rest_iff]
  | cons c cs ih =>
    by_cases hc : isLowerAlnum c = true
    · -- a letter or digit is no separator
      have hne : c ≠ '.' ∧ c ≠ '_' ∧ c ≠ '-' := by
        refine ⟨?_, ?_, ?_⟩ <;> (rintro rfl; revert hc; decide)
      cases s <;> simp [isComponentFrom, ih, ComponentState.cons_mem_start_iff,
        ComponentState.cons_mem_word_iff, ComponentState.cons_mem_underscore_iff,
        ComponentState.cons_mem_hyphens_iff, hc, hne]
    · cases s with
      | start => simp [isComponentFrom, ComponentState.cons_mem_start_iff, hc]
      | word =>
        rw [ComponentState.cons_mem_word_iff]
        rw [isComponentFrom.eq_def]
        simp only [if_neg hc]
        split <;> simp_all
      | underscore =>
        rw [ComponentState.cons_mem_underscore_iff]
        rw [isComponentFrom.eq_def]
        simp only [if_neg hc]
        split <;> simp_all
      | hyphens =>
        rw [ComponentState.cons_mem_hyphens_iff]
        rw [isComponentFrom.eq_def]
        simp only [if_neg hc]
        split <;> simp_all

theorem isComponent_iff : isComponent cs = true ↔ cs ∈ componentPattern := isComponentFrom_iff

theorem nil_notMem_componentPattern : [] ∉ componentPattern := by
  rw [← isComponent_iff]
  decide

/-! ### Tags and digests -/

/-- A tag: up to 128 characters, of which the first one is a letter, a digit or an underscore. -/
def tagPattern : Language Char :=
  oneOf (fun c => c.isAlphanum || c == '_') * optional (oneOf isTagChar) ^ 127

theorem isTag_iff : isTag cs = true ↔ cs ∈ tagPattern := by
  cases cs with
  | nil => simp [isTag, tagPattern]
  | cons c cs =>
    rw [tagPattern, cons_mem_oneOf_mul_iff, mem_optional_oneOf_pow_iff, isTag]
    simp [and_assoc]

/-- A digest: the name of the hash function and 64 lowercase hexadecimal digits. -/
def digestPattern : Language Char := {"sha256:".toList} * oneOf isLowerHex ^ 64

theorem isDigest_iff : isDigest cs = true ↔ cs ∈ digestPattern := by
  rw [digestPattern, Language.mem_mul, isDigest]
  constructor
  · intro h
    split at h
    · next hash hfront =>
      rw [isHash, Bool.and_eq_true, beq_iff_eq, List.all_eq_true] at h
      exact ⟨_, rfl, hash, mem_oneOf_pow_iff.mpr h, (afterFront?_eq_some_iff.mp hfront).symm⟩
    · cases h
  · rintro ⟨_, rfl, hash, hhash, rfl⟩
    rw [afterFront?_eq_some_iff.mpr rfl]
    simpa [isHash] using mem_oneOf_pow_iff.mp hhash

/-! ### Registry hosts -/

/-- A character of a label. -/
def isLabelChar (c : Char) : Bool := c.isAlphanum || c == '-'

/-- A label of a host name: letters, digits and inner hyphens. -/
def labelPattern : Language Char :=
  oneOf Char.isAlphanum * optional ((oneOf isLabelChar)∗ * oneOf Char.isAlphanum)

/-- A host name: labels with dots between them. -/
def hostNamePattern : Language Char := labelPattern * (char '.' * labelPattern)∗

/-- A registry host: a host name, with or without a port. -/
def hostPattern : Language Char :=
  hostNamePattern * optional (char ':' * several (oneOf Char.isDigit))

theorem isLabelChar_of_isAlphanum (h : c.isAlphanum = true) : isLabelChar c = true := by
  rw [isLabelChar, h, Bool.true_or]

theorem isLabel_iff : isLabel cs = true ↔ cs ∈ labelPattern := by
  cases cs with
  | nil => simp [isLabel, labelPattern]
  | cons c cs =>
    rw [labelPattern, cons_mem_oneOf_mul_iff, mem_optional_iff]
    rcases List.eq_nil_or_concat cs with rfl | ⟨front, d, rfl⟩
    · -- one character is the first and the last one
      simp +contextual [isLabel]
    · rw [List.concat_eq_append, concat_mem_mul_oneOf_iff, mem_oneOf_kstar_iff]
      have hlast : (c :: (front ++ [d])).getLast? = some d := by
        rw [← List.cons_append, List.getLast?_concat]
      simp only [isLabel, hlast, List.head?_cons, Option.any_some, List.all_cons, List.all_append,
        List.all_nil, Bool.and_true, Bool.and_eq_true, List.all_eq_true]
      constructor
      · rintro ⟨⟨⟨-, hfront, -⟩, hc⟩, hd⟩
        exact ⟨hc, Or.inr ⟨hfront, hd⟩⟩
      · rintro ⟨hc, hnil | ⟨hfront, hd⟩⟩
        · simp at hnil
        · exact ⟨⟨⟨isLabelChar_of_isAlphanum hc, hfront, isLabelChar_of_isAlphanum hd⟩, hc⟩, hd⟩

theorem over_labelPattern : Over isLabelChar labelPattern := by
  have halnum : Over isLabelChar (oneOf Char.isAlphanum) :=
    over_oneOf fun _ => isLabelChar_of_isAlphanum
  have hinner : Over isLabelChar (oneOf isLabelChar) := over_oneOf fun _ => id
  exact halnum.mul (hinner.kstar.mul halnum).optional

/-- A host name by its labels. -/
theorem mem_hostNamePattern_iff : cs ∈ hostNamePattern ↔ ∀ f ∈ fields '.' cs, isLabel f = true := by
  have hdot : ∀ f ∈ labelPattern, '.' ∉ f :=
    fun f hf => over_labelPattern.notMem hf (by decide)
  rw [hostNamePattern, mem_separated_iff hdot]
  exact forall₂_congr fun _ _ => isLabel_iff.symm

/-- A character of a host name. -/
def isHostNameChar (c : Char) : Bool := isLabelChar c || c == '.'

theorem over_hostNamePattern : Over isHostNameChar hostNamePattern := by
  have hlabel : Over isHostNameChar labelPattern := by
    refine over_labelPattern.imp fun c hc => ?_
    rw [isHostNameChar, hc, Bool.true_or]
  exact hlabel.mul ((over_char (by decide)).mul hlabel).kstar

theorem isHost_iff : isHost cs = true ↔ cs ∈ hostPattern := by
  -- the colon in front of the port is the first one
  have hcolon : ∀ name ∈ hostNamePattern, ':' ∉ name :=
    fun name hname => over_hostNamePattern.notMem hname (by decide)
  rw [hostPattern, mul_optional, Language.mem_add, Language.mem_mul, isHost]
  constructor
  · intro h
    split at h
    · exact Or.inl (mem_hostNamePattern_iff.mpr (List.all_eq_true.mp h))
    · next name port hcut =>
      obtain ⟨-, rfl⟩ := cutFirst_eq_some_iff.mp hcut
      simp only [Bool.and_eq_true, List.all_eq_true] at h
      obtain ⟨⟨hname, hport⟩, hdigits⟩ := h
      refine Or.inr ⟨name, mem_hostNamePattern_iff.mpr hname, ':' :: port, ?_, rfl⟩
      rw [cons_mem_char_mul_iff, mem_several_oneOf_iff]
      exact ⟨rfl, by simpa using hport, hdigits⟩
  · rintro (h | ⟨name, hname, back, hback, rfl⟩)
    · rw [cutFirst_eq_none_iff.mpr (hcolon cs h)]
      exact List.all_eq_true.mpr (mem_hostNamePattern_iff.mp h)
    · cases back with
      | nil => exact absurd hback nil_notMem_char_mul
      | cons d port =>
        rw [cons_mem_char_mul_iff, mem_several_oneOf_iff] at hback
        obtain ⟨rfl, hport, hdigits⟩ := hback
        rw [cutFirst_eq_some_iff.mpr ⟨hcolon name hname, rfl⟩]
        simp only [Bool.and_eq_true, List.all_eq_true]
        exact ⟨⟨mem_hostNamePattern_iff.mp hname, by simpa using hport⟩, hdigits⟩

/-! ### Characters of a reference -/

/-- A character of a part of a reference. -/
def isPartChar (c : Char) : Bool := isTagChar c || c == ':'

theorem isPartChar_of_isTagChar (h : isTagChar c = true) : isPartChar c = true := by
  rw [isPartChar, h, Bool.true_or]

theorem isTagChar_of_isAlphanum (h : c.isAlphanum = true) : isTagChar c = true := by
  simp [isTagChar, h]

theorem isTagChar_of_isDigit (h : c.isDigit = true) : isTagChar c = true :=
  isTagChar_of_isAlphanum (isAlphanum_iff.mpr (Or.inr h))

theorem isTagChar_of_isLower (h : c.isLower = true) : isTagChar c = true :=
  isTagChar_of_isAlphanum (isAlphanum_iff.mpr (Or.inl (isAlpha_iff.mpr (Or.inr h))))

theorem isTagChar_of_isLowerHex (h : isLowerHex c = true) : isTagChar c = true := by
  rw [isLowerHex, Bool.or_eq_true, Bool.and_eq_true, decide_eq_true_eq, decide_eq_true_eq] at h
  rcases h with hdigit | ⟨hlo, hhi⟩
  · exact isTagChar_of_isDigit hdigit
  · have hlo : 97 ≤ c.toNat := hlo
    have hhi : c.toNat ≤ 102 := hhi
    exact isTagChar_of_isLower (isLower_iff.mpr ⟨hlo, by omega⟩)

theorem isTagChar_of_isLowerAlnum (h : isLowerAlnum c = true) : isTagChar c = true := by
  rw [isLowerAlnum, Bool.or_eq_true] at h
  rcases h with h | h
  · exact isTagChar_of_isLower h
  · exact isTagChar_of_isDigit h

/-- Parts of a reference are written in visible ASCII characters. -/
theorem toNat_of_isPartChar (h : isPartChar c = true) : 0x21 ≤ c.toNat ∧ c.toNat ≤ 0x7e := by
  simp only [isPartChar, isTagChar, Bool.or_eq_true, beq_iff_eq, isAlphanum_iff, isAlpha_iff,
    isUpper_iff, isLower_iff, isDigit_iff] at h
  rcases h with ((((hletter | hdigit) | rfl) | rfl) | rfl) | rfl
  · omega
  · omega
  all_goals decide

/-- No character of a part is blank. -/
theorem isBlank_of_isPartChar (h : isPartChar c = true) : isBlank c = false := by
  obtain ⟨hlo, hhi⟩ := toNat_of_isPartChar h
  exact isBlank_of_visible hlo hhi

theorem over_componentPattern : Over isTagChar componentPattern := by
  have hword : Over isTagChar (several (oneOf isLowerAlnum)) :=
    (over_oneOf fun _ => isTagChar_of_isLowerAlnum).several
  have hseparator : Over isTagChar separatorPattern := by
    have hunderscore : Over isTagChar (char '_') := over_char (by decide)
    exact (((over_char (by decide)).add hunderscore).add (hunderscore.mul hunderscore)).add
      (over_char (by decide)).several
  exact hword.mul (hseparator.mul hword).kstar

theorem over_tagPattern : Over isTagChar tagPattern := by
  refine Over.mul (over_oneOf fun c hc => ?_) (Over.pow (over_oneOf fun _ => id).optional 127)
  rw [Bool.or_eq_true, beq_iff_eq] at hc
  rcases hc with hc | rfl
  · exact isTagChar_of_isAlphanum hc
  · rfl

theorem over_hostPattern : Over isPartChar hostPattern := by
  have hname : Over isPartChar hostNamePattern := by
    refine over_hostNamePattern.imp fun c hc => isPartChar_of_isTagChar ?_
    simp only [isHostNameChar, isLabelChar, Bool.or_eq_true, beq_iff_eq] at hc
    rcases hc with (hc | rfl) | rfl
    · exact isTagChar_of_isAlphanum hc
    · rfl
    · rfl
  have hport : Over isPartChar (several (oneOf Char.isDigit)) :=
    (over_oneOf fun c hc => isPartChar_of_isTagChar (isTagChar_of_isDigit hc)).several
  exact hname.mul ((over_char (by decide)).mul hport).optional

theorem over_digestPattern : Over isPartChar digestPattern := by
  have hhash : Over isPartChar (oneOf isLowerHex) :=
    over_oneOf fun c hc => isPartChar_of_isTagChar (isTagChar_of_isLowerHex hc)
  refine Over.mul ?_ (hhash.pow 64)
  rintro _ rfl
  exact List.all_eq_true.mp (by decide)

end ImageReference

end Catalog
