import Catalog.Proofs.Text.Cut
import Catalog.Text.Blank
import Mathlib.Computability.Language
import Mathlib.Order.CompletePartialOrder
import Mathlib.Tactic.Tauto

/-!
# Patterns of texts

A pattern is the language of the texts that match it as a whole. It is put together from single
characters by choice (`+`), sequence (`*`), repetition (`∗`) and powers, as it is written in a
regular expression.

## Main definitions

* `char`, `oneOf` — the patterns of one character.
* `optional`, `several` — a pattern at most once, and at least once.
* `Over` — all characters of a pattern have a property.
* `Ignores` — a pattern does not see a change of the characters.

## Main results

* `isUpper_iff`, `isLower_iff`, `isDigit_iff` — classes of characters by their codes.
* `isBlank_of_visible` — no visible character is blank.
* `cons_mem_oneOf_mul_iff` — reading the first character of a text.
* `mem_oneOf_kstar_iff`, `mem_oneOf_pow_iff`, `mem_optional_oneOf_pow_iff` — repeated characters.
* `mem_separated_iff` — **texts with separators between them, field by field.**
-/

namespace Catalog.Text

open scoped Computability

variable {c d : Char} {cs : List Char} {p q : Char → Bool} {f : Char → Char} {n : Nat}
  {l m : Language Char}

/-! ### Classes of characters -/

theorem isUpper_iff : c.isUpper = true ↔ 65 ≤ c.toNat ∧ c.toNat ≤ 90 := by
  have hrange : c.isUpper = true ↔ 'A'.val ≤ c.val ∧ c.val ≤ 'Z'.val := decide_eq_true_iff
  rw [hrange, UInt32.le_iff_toNat_le, UInt32.le_iff_toNat_le]
  rfl

theorem isLower_iff : c.isLower = true ↔ 97 ≤ c.toNat ∧ c.toNat ≤ 122 := by
  have hrange : c.isLower = true ↔ _ ∧ _ := Bool.and_eq_true_iff
  rw [hrange, decide_eq_true_iff, decide_eq_true_iff, ge_iff_le, UInt32.le_iff_toNat_le,
    UInt32.le_iff_toNat_le]
  rfl

theorem isDigit_iff : c.isDigit = true ↔ 48 ≤ c.toNat ∧ c.toNat ≤ 57 := by
  have hrange : c.isDigit = true ↔ _ ∧ _ := Bool.and_eq_true_iff
  rw [hrange, decide_eq_true_iff, decide_eq_true_iff, ge_iff_le, UInt32.le_iff_toNat_le,
    UInt32.le_iff_toNat_le]
  rfl

theorem isAlpha_iff : c.isAlpha = true ↔ c.isUpper = true ∨ c.isLower = true :=
  Bool.or_eq_true_iff

theorem isAlphanum_iff : c.isAlphanum = true ↔ c.isAlpha = true ∨ c.isDigit = true :=
  Bool.or_eq_true_iff

/-- No visible ASCII character is blank. -/
theorem isBlank_of_visible (hlo : 0x21 ≤ c.toNat) (hhi : c.toNat ≤ 0x7e) : isBlank c = false := by
  simp [isBlank, blanks, CharSet.has]
  omega

/-- In lowercase, only letters change. -/
theorem toLower_eq_iff (hd : d.isAlpha = false) : c.toLower = d ↔ c = d := by
  have hd : ¬ (d.isUpper = true ∨ d.isLower = true) := by
    rw [← isAlpha_iff, hd]
    exact Bool.false_ne_true
  by_cases hc : 'A'.val ≤ c.val ∧ c.val ≤ 'Z'.val
  · -- neither an uppercase letter nor its lowercase letter is `d`
    have hupper : c.isUpper = true := decide_eq_true hc
    have hlower : c.toLower.isLower = true := by
      have hval : c.toLower = ⟨c.val + ('a'.val - 'A'.val), _⟩ := dif_pos hc
      have hcode : c.toLower.toNat = c.toNat + 32 := by
        obtain ⟨hlo, hhi⟩ := isUpper_iff.mp hupper
        rw [hval, Char.toNat, UInt32.toNat_add, Nat.mod_eq_of_lt]
        · rfl
        · show c.toNat + 32 < _
          omega
      rw [isUpper_iff] at hupper
      rw [isLower_iff, hcode]
      omega
    constructor
    · rintro rfl
      exact absurd (Or.inr hlower) hd
    · rintro rfl
      exact absurd (Or.inl hupper) hd
  · have hsame : c.toLower = c := dif_neg hc
    rw [hsame]

theorem mem_map_toLower_iff (hc : c.isAlpha = false) : c ∈ cs.map Char.toLower ↔ c ∈ cs := by
  rw [List.mem_map]
  constructor
  · rintro ⟨d, hd, heq⟩
    rwa [← (toLower_eq_iff hc).mp heq]
  · intro h
    exact ⟨c, h, (toLower_eq_iff hc).mpr rfl⟩

/-- What has no letters in lowercase is in lowercase already. -/
theorem eq_of_map_toLower_eq {ds : List Char} (h : cs.map Char.toLower = ds)
    (hds : ∀ d ∈ ds, d.isAlpha = false) : cs = ds := by
  subst h
  conv => lhs; rw [← List.map_id cs]
  refine List.map_congr_left fun c hc => ?_
  exact (toLower_eq_iff (hds c.toLower (List.mem_map_of_mem hc))).mp rfl

theorem isAlpha_of_isDigit (h : c.isDigit = true) : c.isAlpha = false := by
  rw [isDigit_iff] at h
  rw [← Bool.not_eq_true, isAlpha_iff, isUpper_iff, isLower_iff]
  omega

/-! ### Patterns -/

/-- The text of one character. -/
def char (c : Char) : Language Char := {[c]}

/-- The texts of one character with a property. -/
def oneOf (p : Char → Bool) : Language Char := {cs | ∃ c, p c = true ∧ cs = [c]}

/-- Nothing or a text of a pattern. -/
def optional (l : Language Char) : Language Char := 1 + l

/-- A text of a pattern or several, one after another. -/
def several (l : Language Char) : Language Char := l * l∗

theorem mem_char_iff : cs ∈ char c ↔ cs = [c] := Iff.rfl

theorem mem_oneOf_iff : cs ∈ oneOf p ↔ ∃ c, p c = true ∧ cs = [c] := Iff.rfl

theorem mem_optional_iff : cs ∈ optional l ↔ cs = [] ∨ cs ∈ l := Iff.rfl

theorem char_eq_oneOf (c : Char) : char c = oneOf (· == c) := by
  ext cs
  simp [mem_char_iff, mem_oneOf_iff]

theorem mul_optional (l m : Language Char) : l * optional m = l + l * m := by
  rw [optional, mul_add, mul_one]

theorem optional_mul (l m : Language Char) : optional l * m = m + l * m := by
  rw [optional, add_mul, one_mul]

/-! ### The first and the last character -/

@[simp] theorem nil_notMem_oneOf_mul : [] ∉ oneOf p * l := by
  rw [Language.mem_mul]
  rintro ⟨_, ⟨c, -, rfl⟩, b, -, h⟩
  cases h

/-- A text of a sequence starts with a character of the first pattern. -/
@[simp] theorem cons_mem_oneOf_mul_iff : c :: cs ∈ oneOf p * l ↔ p c = true ∧ cs ∈ l := by
  rw [Language.mem_mul]
  constructor
  · rintro ⟨_, ⟨d, hd, rfl⟩, b, hb, h⟩
    obtain ⟨rfl, rfl⟩ := List.cons.inj h
    exact ⟨hd, hb⟩
  · rintro ⟨hc, hcs⟩
    exact ⟨[c], ⟨c, hc, rfl⟩, cs, hcs, rfl⟩

@[simp] theorem nil_notMem_char_mul : [] ∉ char c * l := by
  rw [char_eq_oneOf]
  exact nil_notMem_oneOf_mul

@[simp] theorem cons_mem_char_mul_iff : d :: cs ∈ char c * l ↔ d = c ∧ cs ∈ l := by
  rw [char_eq_oneOf, cons_mem_oneOf_mul_iff, beq_iff_eq]

/-- A text of a sequence ends with a character of the last pattern. -/
theorem concat_mem_mul_oneOf_iff : cs ++ [c] ∈ l * oneOf p ↔ cs ∈ l ∧ p c = true := by
  rw [Language.mem_mul]
  constructor
  · rintro ⟨a, ha, _, ⟨d, hd, rfl⟩, h⟩
    obtain ⟨rfl, heq⟩ := List.append_inj' h rfl
    obtain ⟨rfl, -⟩ := List.cons.inj heq
    exact ⟨ha, hd⟩
  · rintro ⟨hcs, hc⟩
    exact ⟨cs, hcs, [c], ⟨c, hc, rfl⟩, rfl⟩

/-! ### Repeated characters -/

theorem mem_oneOf_kstar_iff : cs ∈ (oneOf p)∗ ↔ ∀ c ∈ cs, p c = true := by
  induction cs with
  | nil => simp [Language.nil_mem_kstar]
  | cons c cs ih =>
    rw [← Language.one_add_self_mul_kstar_eq_kstar, Language.mem_add, Language.mem_one,
      cons_mem_oneOf_mul_iff, ih]
    simp

theorem mem_several_oneOf_iff : cs ∈ several (oneOf p) ↔ cs ≠ [] ∧ ∀ c ∈ cs, p c = true := by
  cases cs with
  | nil => simp [several]
  | cons c cs => simp [several, mem_oneOf_kstar_iff]

/-- A given number of characters. -/
theorem mem_oneOf_pow_iff : cs ∈ oneOf p ^ n ↔ cs.length = n ∧ ∀ c ∈ cs, p c = true := by
  induction n generalizing cs with
  | zero => cases cs <;> simp [Language.mem_one]
  | succ n ih =>
    rw [pow_succ']
    cases cs with
    | nil => simp
    | cons c cs =>
      rw [cons_mem_oneOf_mul_iff, ih, List.length_cons, Nat.add_right_cancel_iff,
        List.forall_mem_cons]
      tauto

/-- At most a given number of characters. -/
theorem mem_optional_oneOf_pow_iff :
    cs ∈ optional (oneOf p) ^ n ↔ cs.length ≤ n ∧ ∀ c ∈ cs, p c = true := by
  induction n generalizing cs with
  | zero => cases cs <;> simp [Language.mem_one]
  | succ n ih =>
    rw [pow_succ', optional_mul, Language.mem_add, ih]
    cases cs with
    | nil => simp
    | cons c cs =>
      rw [cons_mem_oneOf_mul_iff, ih, List.length_cons, List.forall_mem_cons]
      constructor
      · rintro (⟨hlength, hall⟩ | ⟨hc, hlength, hall⟩)
        · exact ⟨by omega, hall⟩
        · exact ⟨by omega, hc, hall⟩
      · rintro ⟨hlength, hc, hall⟩
        exact Or.inr ⟨hc, by omega, hall⟩

/-! ### The characters of a pattern -/

/-- All characters of the texts of a pattern have a property. -/
def Over (p : Char → Bool) (l : Language Char) : Prop := ∀ cs ∈ l, ∀ c ∈ cs, p c = true

/-- The texts over a class of characters are those of its repetition. -/
theorem over_iff_le : Over p l ↔ l ≤ (oneOf p)∗ :=
  forall₂_congr fun _ _ => mem_oneOf_kstar_iff.symm

theorem Over.imp (h : Over p l) (hpq : ∀ c, p c = true → q c = true) : Over q l :=
  fun cs hcs c hc => hpq c (h cs hcs c hc)

theorem over_oneOf (hpq : ∀ c, p c = true → q c = true) : Over q (oneOf p) := by
  rintro _ ⟨c, hc, rfl⟩ d hd
  rw [List.mem_singleton.mp hd]
  exact hpq c hc

theorem over_char (hc : p c = true) : Over p (char c) := by
  rw [char_eq_oneOf]
  refine over_oneOf fun d hd => ?_
  rw [beq_iff_eq.mp hd]
  exact hc

theorem over_one : Over p 1 := over_iff_le.mpr one_le_kstar

theorem Over.add (hl : Over p l) (hm : Over p m) : Over p (l + m) :=
  fun cs hcs => hcs.elim (hl cs) (hm cs)

theorem Over.mul (hl : Over p l) (hm : Over p m) : Over p (l * m) := by
  rw [over_iff_le] at hl hm ⊢
  exact (mul_le_mul' hl hm).trans_eq (kstar_mul_kstar _)

theorem Over.kstar (h : Over p l) : Over p l∗ := by
  rw [over_iff_le] at h ⊢
  exact (kstar_mono h).trans_eq (kstar_idem _)

theorem Over.optional (h : Over p l) : Over p (optional l) := over_one.add h

theorem Over.several (h : Over p l) : Over p (several l) := h.mul h.kstar

theorem Over.pow (h : Over p l) (n : Nat) : Over p (l ^ n) := by
  rw [over_iff_le] at h ⊢
  exact pow_le_kstar.trans ((kstar_mono h).trans_eq (kstar_idem _))

/-- A character without the property is in no text. -/
theorem Over.notMem (h : Over p l) (hcs : cs ∈ l) (hc : p c = false) : c ∉ cs := by
  intro hmem
  rw [h cs hcs c hmem] at hc
  cases hc

/-! ### Patterns that ignore a change of the characters -/

/-- A pattern ignores a change of the characters when a text matches it just as well after each of
its characters is changed. -/
def Ignores (f : Char → Char) (l : Language Char) : Prop := ∀ cs, cs.map f ∈ l ↔ cs ∈ l

theorem ignores_oneOf (h : ∀ c, p (f c) = p c) : Ignores f (oneOf p) := by
  intro cs
  rw [mem_oneOf_iff, mem_oneOf_iff]
  constructor
  · rintro ⟨d, hd, heq⟩
    obtain ⟨c, rfl, rfl⟩ := List.map_eq_singleton_iff.mp heq
    exact ⟨c, (h c).symm.trans hd, rfl⟩
  · rintro ⟨c, hc, rfl⟩
    exact ⟨f c, (h c).trans hc, rfl⟩

theorem ignores_char (h : ∀ c, f c = d ↔ c = d) : Ignores f (char d) := by
  rw [char_eq_oneOf]
  refine ignores_oneOf fun c => ?_
  rw [Bool.eq_iff_iff, beq_iff_eq, beq_iff_eq, h]

theorem ignores_one : Ignores f 1 := by
  intro cs
  rw [Language.mem_one, Language.mem_one, List.map_eq_nil_iff]

theorem Ignores.add (hl : Ignores f l) (hm : Ignores f m) : Ignores f (l + m) :=
  fun cs => or_congr (hl cs) (hm cs)

theorem Ignores.mul (hl : Ignores f l) (hm : Ignores f m) : Ignores f (l * m) := by
  intro cs
  rw [Language.mem_mul, Language.mem_mul]
  constructor
  · rintro ⟨a, ha, b, hb, heq⟩
    -- the changed text is cut where the text itself is
    obtain ⟨a, b, rfl, rfl, rfl⟩ := List.append_eq_map_iff.mp heq
    exact ⟨a, (hl a).mp ha, b, (hm b).mp hb, rfl⟩
  · rintro ⟨a, ha, b, hb, rfl⟩
    exact ⟨a.map f, (hl a).mpr ha, b.map f, (hm b).mpr hb, List.map_append.symm⟩

theorem Ignores.pow (h : Ignores f l) (n : Nat) : Ignores f (l ^ n) := by
  induction n with
  | zero => exact ignores_one
  | succ n ih =>
    rw [pow_succ]
    exact ih.mul h

theorem Ignores.kstar (h : Ignores f l) : Ignores f l∗ := by
  intro cs
  rw [Language.kstar_eq_iSup_pow, Language.mem_iSup, Language.mem_iSup]
  exact exists_congr fun n => h.pow n cs

theorem Ignores.optional (h : Ignores f l) : Ignores f (optional l) := ignores_one.add h

theorem Ignores.several (h : Ignores f l) : Ignores f (several l) := h.mul h.kstar

/-! ### Fields -/

/-- A text and others behind it, each after a separator. -/
theorem intercalate_cons_eq (f : List Char) (fs : List (List Char)) :
    [c].intercalate (f :: fs) = f ++ (fs.map (c :: ·)).flatten := by
  induction fs generalizing f with
  | nil => simp
  | cons g fs ih =>
    rw [List.intercalate_cons_cons, ih]
    simp

/-- **Texts of a pattern with separators between them**, where the pattern has no separator in it:
each field is a text of the pattern. -/
theorem mem_separated_iff (hl : ∀ f ∈ l, c ∉ f) :
    cs ∈ l * (char c * l)∗ ↔ ∀ f ∈ fields c cs, f ∈ l := by
  rw [Language.mem_mul]
  constructor
  · rintro ⟨f, hf, _, ⟨L, rfl, hL⟩, rfl⟩
    -- each text of the repetition is a separator and a field
    obtain ⟨fs, rfl, hfs⟩ : ∃ fs : List (List Char), L = fs.map (c :: ·) ∧ ∀ g ∈ fs, g ∈ l := by
      induction L with
      | nil => exact ⟨[], rfl, by simp⟩
      | cons y L ih =>
        obtain ⟨hy, hL⟩ := List.forall_mem_cons.mp hL
        obtain ⟨fs, rfl, hfs⟩ := ih hL
        obtain ⟨_, rfl, g, hg, rfl⟩ := Language.mem_mul.mp hy
        exact ⟨g :: fs, rfl, List.forall_mem_cons.mpr ⟨hg, hfs⟩⟩
    have hall : ∀ g ∈ f :: fs, g ∈ l := List.forall_mem_cons.mpr ⟨hf, hfs⟩
    rw [← intercalate_cons_eq,
      fields_intercalate (List.cons_ne_nil f fs) fun g hg => hl g (hall g hg)]
    exact hall
  · intro h
    obtain ⟨f, fs, hfs⟩ := List.exists_cons_of_ne_nil (fields_ne_nil c cs)
    rw [hfs] at h
    obtain ⟨hf, hrest⟩ := List.forall_mem_cons.mp h
    refine ⟨f, hf, (fs.map (c :: ·)).flatten, Language.join_mem_kstar ?_, ?_⟩
    · intro y hy
      obtain ⟨g, hg, rfl⟩ := List.mem_map.mp hy
      exact cons_mem_char_mul_iff.mpr ⟨rfl, hrest g hg⟩
    · rw [← intercalate_cons_eq, ← hfs, intercalate_fields]

end Catalog.Text
