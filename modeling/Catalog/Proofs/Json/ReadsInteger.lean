import Catalog.Proofs.Json.ReadsNumber
import Catalog.Proofs.Json.Yields

/-!
# Integers read back

An integer that a 64-bit word holds is written with all its digits, and these add up to it without
ever leaving the range of words.

## Main results

* `Reader.absorb_digits` — digits add up.
* `Number.readsBack_int` — **an integer in the range of words reads back.**
* `Bounded.readsBack` — a document that was read can be written and read again.
-/

namespace Catalog.Json

namespace Reader

/-- Digits add up to the number they denote as long as this is a word. -/
theorem absorb_digits (cs : List Char) (n : Nat) (h : Nat.ofDigitChars 10 cs n ≤ maxWord) :
    absorb n (cs.map fun c => c.toNat - '0'.toNat) = (Nat.ofDigitChars 10 cs n, cs.length) := by
  induction cs generalizing n with
  | nil => rfl
  | cons c cs ih =>
    rw [Nat.ofDigitChars_cons] at h ⊢
    -- further digits only make the number greater, so it is a word before them
    have hle : 10 * n + (c.toNat - '0'.toNat) ≤ maxWord := by
      refine Nat.le_trans ?_ h
      rw [Nat.ofDigitChars_eq_ofDigitChars_zero]
      have hpow : 0 < 10 ^ cs.length := Nat.pow_pos (by decide)
      exact Nat.le_trans (Nat.le_mul_of_pos_left _ hpow) (Nat.le_add_right _ _)
    rw [List.map_cons, absorb, if_pos hle, ih _ h]
    rfl

/-- Only the digits of zero start with a zero. -/
theorem head?_toDigits_ne {n : Nat} (hn : 0 < n) : (Nat.toDigits 10 n).head? ≠ some '0' := by
  induction n using Nat.strongRecOn with
  | ind n ih =>
    by_cases hlt : n < 10
    · rw [Nat.toDigits_of_lt_base hlt, List.head?_cons]
      have hall : ∀ k < 10, 0 < k → some (Nat.digitChar k) ≠ some '0' := by decide
      exact hall n hlt hn
    -- all digits but the last one are those of a tenth
    · have hrest := ih (n / 10) (Nat.div_lt_self hn (by decide)) (by omega)
      rw [Nat.toDigits_of_base_le (by decide) (by omega)]
      cases hdigits : Nat.toDigits 10 (n / 10) with
      | nil => exact absurd hdigits Nat.toDigits_ne_nil
      | cons c cs =>
        rw [hdigits] at hrest
        exact hrest

theorem lt_of_isDigit {c : Char} (h : c.isDigit = true) : c.toNat < 0x80 :=
  Nat.lt_of_le_of_lt (Char.isDigit_iff_toNat.mp h).2 (by decide)

/-- The bytes of digits. -/
theorem utf8_digits {cs : List Char} (hcs : ∀ c ∈ cs, c.isDigit = true) :
    Text.utf8 cs = cs.map fun c => c.toNat.toUInt8 := by
  induction cs with
  | nil => rfl
  | cons c cs ih =>
    obtain ⟨hc, hcs⟩ := List.forall_mem_cons.mp hcs
    rw [Text.utf8_cons, Text.utf8_singleton_of_lt (lt_of_isDigit hc), ih hcs, List.map_cons,
      List.singleton_append]

/-- The digits of a number start with a digit. -/
theorem exists_head?_utf8_toDigits (n : Nat) :
    ∃ b, (Text.utf8 (Nat.toDigits 10 n)).head? = some b ∧ (Char.ofUInt8 b).isDigit = true := by
  have hdigit : ∀ c ∈ Nat.toDigits 10 n, c.isDigit = true :=
    fun c hc => Nat.isDigit_of_mem_toDigits (by decide) (by decide) hc
  rw [utf8_digits hdigit]
  cases hdigits : Nat.toDigits 10 n with
  | nil => exact absurd hdigits Nat.toDigits_ne_nil
  | cons c cs =>
    have hc := hdigit c (by rw [hdigits]; exact List.mem_cons_self)
    refine ⟨c.toNat.toUInt8, rfl, ?_⟩
    rwa [Text.ofUInt8_toUInt8 (lt_of_isDigit hc)]

/-- Digits without a zero at the front, at the end of a text. -/
theorem run_number_digits {c : Char} {cs : List Char} (hdigit : ∀ d ∈ c :: cs, d.isDigit = true)
    (hc : c ≠ '0') (hword : Nat.ofDigitChars 10 (c :: cs) 0 ≤ maxWord) (negative : Bool)
    {m : Number} (hm : wordOrDouble negative (Nat.ofDigitChars 10 (c :: cs) 0) = pure m)
    (p : Position) (size : Nat) :
    ∃ q, (number negative).run ⟨Text.utf8 (c :: cs), p, size⟩ = .ok (m, ⟨[], q, size⟩) := by
  have hbytes : ∀ b ∈ Text.utf8 (c :: cs), (Char.ofUInt8 b).isDigit = true := by
    intro b hb
    rw [utf8_digits hdigit] at hb
    obtain ⟨d, hd, rfl⟩ := List.mem_map.mp hb
    rw [Text.ofUInt8_toUInt8 (lt_of_isDigit (hdigit d hd))]
    exact hdigit d hd
  have hvalues : (Text.utf8 (c :: cs)).map (fun b => b.toNat - '0'.toNat) =
      (c :: cs).map fun d => d.toNat - '0'.toNat := by
    rw [utf8_digits hdigit, List.map_map]
    refine List.map_congr_left fun d hd => ?_
    have hlt := lt_of_isDigit (hdigit d hd)
    have hbyte : d.toNat.toUInt8.toNat = d.toNat :=
      (UInt8.toNat_ofNat' ).trans (Nat.mod_eq_of_lt (Nat.lt_trans hlt (by decide)))
    rw [Function.comp_apply, hbyte]
  have hnone : ∀ b ∈ ([] : List UInt8).head?, (Char.ofUInt8 b).isDigit = false :=
    fun b hb => by cases hb
  obtain ⟨q, hq⟩ := run_digits hbytes hnone p size
  rw [List.append_nil, hvalues] at hq
  have hpeek : peek?.run ⟨Text.utf8 (c :: cs), p, size⟩ =
      .ok (some c, ⟨Text.utf8 (c :: cs), p, size⟩) := by
    have hbyte := Text.ofUInt8_toUInt8 (lt_of_isDigit (hdigit c List.mem_cons_self))
    rw [utf8_digits hdigit, List.map_cons]
    exact congrArg (fun d => Except.ok (some d, _)) hbyte
  refine ⟨q, ?_⟩
  rw [number, StateT.run_bind, hpeek, ok_bind]
  dsimp only
  split
  · next h => cases h
  · next h => exact absurd (Option.some.inj h) hc
  · rw [StateT.run_bind, hq]
    have habsorb := absorb_digits (c :: cs) 0 hword
    rw [List.map_cons] at habsorb ⊢
    generalize htail : cs.map (fun d => d.toNat - '0'.toNat) = ds at habsorb ⊢
    generalize c.toNat - '0'.toNat = d at habsorb ⊢
    -- nothing follows the digits
    show (if (d :: ds).length - (absorb 0 (d :: ds)).2 = 0 then
        wordOrDouble negative (absorb 0 (d :: ds)).1
      else double negative (absorb 0 (d :: ds)).1 _ : Reader Number).run ⟨[], q, size⟩ = _
    have hdropped : (d :: ds).length - (c :: cs).length = 0 := by simp [← htail]
    rw [habsorb, if_pos hdropped, hm]
    rfl

/-- The digits of a word, at the end of a text. -/
theorem run_number_toDigits {n : Nat} (hn : n ≤ maxWord) (negative : Bool) {m : Number}
    (hm : wordOrDouble negative n = pure m) (p : Position) (size : Nat) :
    ∃ q, (number negative).run ⟨Text.utf8 (Nat.toDigits 10 n), p, size⟩ =
      .ok (m, ⟨[], q, size⟩) := by
  by_cases hzero : n = 0
  · subst hzero
    -- zero is the one number that starts with a zero
    refine ⟨p.after 0x30, ?_⟩
    have hrun : (number negative).run ⟨Text.utf8 (Nat.toDigits 10 0), p, size⟩ =
        (wordOrDouble negative 0).run ⟨[], p.after 0x30, size⟩ := rfl
    rw [hrun, hm]
    rfl
  · have hdigit : ∀ c ∈ Nat.toDigits 10 n, c.isDigit = true :=
      fun c hc => Nat.isDigit_of_mem_toDigits (by decide) (by decide) hc
    have hvalue : Nat.ofDigitChars 10 (Nat.toDigits 10 n) 0 = n := Nat.ofDigitChars_ten_toDigits
    have hhead := head?_toDigits_ne (Nat.pos_of_ne_zero hzero)
    cases hdigits : Nat.toDigits 10 n with
    | nil => exact absurd hdigits Nat.toDigits_ne_nil
    | cons c cs =>
      rw [hdigits] at hdigit hvalue hhead
      refine run_number_digits hdigit (fun h => hhead (congrArg some h)) ?_ negative ?_ p size
      · rwa [hvalue]
      · rwa [hvalue]

end Reader

namespace Number

open Reader

/-- A number that is read from the whole of its text reads back. -/
theorem readsBack_of_run {n : Number} (h : ∀ p size, ∃ q,
    numberValue.run ⟨Text.utf8 n.text.toList, p, size⟩ = .ok (.num n, ⟨[], q, size⟩)) :
    n.ReadsBack := by
  obtain ⟨q, hq⟩ := h .start (Text.utf8 n.text.toList).length
  rw [ReadsBack, parse, parseBytes, Text.toUTF8_toList, readAll_eq_ok_iff]
  exact ⟨_, run_value_eq_num_iff.mpr hq, List.forall_mem_nil _⟩

theorem readsBack_nat {n : Nat} (hn : n ≤ maxWord) : (Number.int n).ReadsBack := by
  refine readsBack_of_run fun p size => ?_
  have htext : (Number.int n).text.toList = Nat.toDigits 10 n := Nat.toList_repr
  obtain ⟨b, hb, hdigit⟩ := exists_head?_utf8_toDigits n
  -- the first byte is a digit: neither a blank nor a sign
  have hblank : ∀ b' ∈ (Text.utf8 (Nat.toDigits 10 n)).head?, ¬ IsBlank b' := by
    intro b' hb'
    obtain rfl := Option.some.inj (hb.symm.trans hb')
    exact fun hblank => not_isNumberByte_of_isBlank hblank (Or.inl hdigit)
  obtain ⟨q₁, hq₁⟩ := run_peekToken? (List.forall_mem_nil _) hblank p size
  obtain ⟨q₂, hq₂⟩ := run_number_toDigits hn false (m := .int n) rfl q₁ size
  refine ⟨q₂, ?_⟩
  rw [List.nil_append, hb, Option.map_some] at hq₁
  rw [htext, numberValue, StateT.run_bind, hq₁]
  have hrun : (do return .num (← number false) : Reader Json).run
      ⟨Text.utf8 (Nat.toDigits 10 n), q₁, size⟩ = .ok (.num (.int n), ⟨[], q₂, size⟩) := by
    rw [StateT.run_bind, hq₂]
    rfl
  rw [ok_bind]
  dsimp only
  split
  · next h =>
    rw [Option.some.inj h] at hdigit
    exact absurd hdigit (by decide)
  · next c _ h =>
    rw [← Option.some.inj h, if_pos hdigit]
    exact hrun
  · next h => cases h

theorem readsBack_neg {n : Nat} (hpos : 0 < n) (hn : n ≤ 9223372036854775808) :
    (Number.int (-n)).ReadsBack := by
  refine readsBack_of_run fun p size => ?_
  have htext : (Number.int (-n)).text.toList = '-' :: Nat.toDigits 10 n := by
    have hrepr : (Number.int (-n)).text = "-" ++ n.repr := by
      rw [text, Int.toString_eq_repr, Int.repr_eq_if, if_neg (by omega), Int.neg_neg,
        Int.toNat_natCast]
    rw [hrepr, String.toList_append, Nat.toList_repr]
    rfl
  -- the number without its sign is still a word
  have hm : wordOrDouble true n = pure (.int (-n)) := by
    rw [wordOrDouble, if_pos rfl, if_pos ⟨hpos, hn⟩]
  have hsign : Text.utf8 ('-' :: Nat.toDigits 10 n) = 0x2d :: Text.utf8 (Nat.toDigits 10 n) := by
    rw [Text.utf8_cons]
    rfl
  have hblank : ∀ b ∈ (0x2d :: Text.utf8 (Nat.toDigits 10 n)).head?, ¬ IsBlank b := by
    intro b hb
    obtain rfl := Option.some.inj hb
    decide
  obtain ⟨q₁, hq₁⟩ := run_peekToken? (List.forall_mem_nil _) hblank p size
  obtain ⟨q₂, hq₂⟩ := run_number_toDigits (by rw [maxWord]; omega) true hm (q₁.after 0x2d) size
  refine ⟨q₂, ?_⟩
  rw [List.nil_append] at hq₁
  rw [htext, hsign, numberValue, StateT.run_bind, hq₁]
  show (do return .num (← number true) : Reader Json).run
    ⟨Text.utf8 (Nat.toDigits 10 n), q₁.after 0x2d, size⟩ = _
  rw [StateT.run_bind, hq₂]
  rfl

/-- **An integer in the range of words reads back.** -/
theorem readsBack_int {n : Int} (h : InRange (.int n)) : (Number.int n).ReadsBack := by
  obtain ⟨hlow, hhigh⟩ := h
  rcases Int.eq_nat_or_neg n with ⟨m, rfl | rfl⟩
  · exact readsBack_nat (by rw [maxWord]; omega)
  · by_cases hzero : m = 0
    · subst hzero
      exact readsBack_nat (n := 0) (by rw [maxWord]; omega)
    · exact readsBack_neg (by omega) (by omega)

end Number

/-- What was read can be written and read again if its doubles read back. -/
theorem Bounded.readsBack {depth : Nat} {v : Json} (h : Bounded Number.InRange depth v)
    (hdoubles : ∀ x, Number.float x ∈ v.numbers → (Number.float x).ReadsBack) :
    Bounded Number.ReadsBack depth v := by
  refine h.imp fun n hn hrange => ?_
  cases n with
  | int n => exact Number.readsBack_int hrange
  | float x => exact hdoubles x hn

end Catalog.Json
