import Catalog.Json.Printer
import Catalog.Proofs.Json.Reads

/-!
# Strings read back

A quoted string reads back as the string: each character is either written as its bytes, none of
which has a meaning inside a string, or as an escape that stands for it.

## Main results

* `Reader.reads_stringBytes_char` — one character.
* `Reader.reads_stringBody` — **a quoted string.**
-/

namespace Catalog.Json.Reader

open Text

variable {P : List UInt8 → Prop} {acc text a : List UInt8} {fuel : Nat} {b : UInt8} {c e : Char}

/-! ### One step of the loop -/

/-- The closing quote. -/
theorem reads_stringBytes_quote :
    Reads Anything (stringBytes (fuel + 1) acc) [0x22] acc.reverse := by
  intro rest p size _ _
  exact ⟨p.after 0x22, rfl⟩

/-- A byte that has no meaning inside a string. -/
def IsPlain (b : UInt8) : Prop := b ≠ 0x22 ∧ b ≠ 0x5c ∧ ¬ b < 0x20

theorem reads_stringBytes_plain (hb : IsPlain b)
    (h : Reads P (stringBytes fuel (b :: acc)) text a) :
    Reads P (stringBytes (fuel + 1) acc) (b :: text) a := by
  obtain ⟨hquote, hbackslash, hcontrol⟩ := hb
  intro rest p size hrest hsize
  obtain ⟨q, hq⟩ := h rest (p.after b) size hrest (Nat.le_of_succ_le hsize)
  refine ⟨q, ?_⟩
  rw [← hq]
  simp only [stringBytes, StateT.run_bind, StateT.run_get, pure_bind, List.cons_append,
    List.head?_cons, if_neg hquote, if_neg hbackslash, if_neg hcontrol]
  rfl

/-- An escape of one letter. -/
theorem reads_stringBytes_simple (hb : Char.ofUInt8 b = e) (hu : e ≠ 'u')
    (he : simpleEscape? e = some c)
    (h : Reads P (stringBytes fuel (c.toNat.toUInt8 :: acc)) text a) :
    Reads P (stringBytes (fuel + 1) acc) (0x5c :: b :: text) a := by
  intro rest p size hrest hsize
  obtain ⟨q, hq⟩ := h rest ((p.after 0x5c).after b) size hrest
    (Nat.le_of_succ_le (Nat.le_of_succ_le hsize))
  refine ⟨q, ?_⟩
  rw [← hq]
  simp only [stringBytes, next?, peek?, skip, StateT.run_bind, StateT.run_get, StateT.run_modify,
    bind_assoc, pure_bind, List.cons_append, List.head?_cons, Cursor.next, Cursor.peek?]
  rw [if_neg (by decide), if_pos trivial]
  simp only [StateT.run_bind, StateT.run_get, StateT.run_modify, pure_bind, List.head?_cons,
    Option.map_some, hb, he]
  rfl

/-- An escape of four hexadecimal digits. -/
theorem reads_stringBytes_unicode {digits : List UInt8} (hc : Reads Anything codePoint digits c)
    (h : Reads P (stringBytes fuel ((utf8 [c]).reverse ++ acc)) text a) :
    Reads P (stringBytes (fuel + 1) acc) (0x5c :: 0x75 :: (digits ++ text)) a := by
  have hbytes : c.toString.toUTF8.toList = utf8 [c] := by
    rw [toUTF8_toList]
    simp
  rw [← hbytes] at h
  have hboth : Reads P
      (codePoint >>= fun c => stringBytes fuel (c.toString.toUTF8.toList.reverse ++ acc))
      (digits ++ text) a := hc.bind h fun _ _ => trivial
  intro rest p size hrest hsize
  obtain ⟨q, hq⟩ := hboth rest ((p.after 0x5c).after 0x75) size hrest
    (Nat.le_of_succ_le (Nat.le_of_succ_le hsize))
  refine ⟨q, ?_⟩
  rw [← hq]
  simp only [stringBytes, next?, peek?, skip, StateT.run_bind, StateT.run_get, StateT.run_modify,
    bind_assoc, pure_bind, List.cons_append, List.head?_cons, Cursor.next, Cursor.peek?]
  rw [if_neg (by decide), if_pos trivial]
  simp only [StateT.run_bind, StateT.run_get, StateT.run_modify, pure_bind, List.head?_cons,
    Option.map_some]
  rfl

/-! ### Characters -/

/-- Bytes that have no meaning inside a string. -/
theorem reads_stringBytes_plains {bs : List UInt8} (hbs : ∀ b ∈ bs, IsPlain b)
    (h : Reads P (stringBytes fuel (bs.reverse ++ acc)) text a) :
    Reads P (stringBytes (fuel + bs.length) acc) (bs ++ text) a := by
  induction bs generalizing acc with
  | nil => exact h
  | cons b bs ih =>
    obtain ⟨hb, hbs⟩ := List.forall_mem_cons.mp hbs
    refine reads_stringBytes_plain hb (ih hbs ?_)
    rwa [List.reverse_cons, List.append_assoc] at h

/-- Four hexadecimal digits. -/
theorem reads_hex4 {bs : List UInt8} {ds : List Nat} (hlength : bs.length = 4)
    (h : bs.mapM (fun b => hexValue? (Char.ofUInt8 b)) = some ds) :
    Reads Anything hex4 bs (ds.foldl (fun n d => 16 * n + d) 0) := by
  intro rest p size _ _
  obtain ⟨q, hq⟩ := Cursor.exists_advance_append bs rest p size
  refine ⟨q, ?_⟩
  have htake : (bs ++ rest).take 4 = bs := by rw [← hlength, List.take_left]
  rw [hlength] at hq
  simp only [hex4, StateT.run_bind, StateT.run_get, StateT.run_set, pure_bind, htake, hlength,
    Nat.lt_irrefl, if_false, h, hq]
  rfl

/-- A control character as four hexadecimal digits. -/
theorem reads_codePoint (hc : c.toNat < 0x20) :
    Reads Anything codePoint
      (utf8 ['0', '0', hexDigit (c.toNat / 16), hexDigit (c.toNat % 16)]) c := by
  have hdigits : ∀ n, n < 0x20 →
      (utf8 ['0', '0', hexDigit (n / 16), hexDigit (n % 16)]).length = 4 ∧
      (utf8 ['0', '0', hexDigit (n / 16), hexDigit (n % 16)]).mapM
        (fun b => hexValue? (Char.ofUInt8 b)) = some [0, 0, n / 16, n % 16] := by
    -- one by one for the control characters
    decide
  obtain ⟨hlength, hvalues⟩ := hdigits c.toNat hc
  have hhex := reads_hex4 hlength hvalues
  have hvalue : [0, 0, c.toNat / 16, c.toNat % 16].foldl (fun n d => 16 * n + d) 0 = c.toNat := by
    simp only [List.foldl_cons, List.foldl_nil]
    omega
  rw [hvalue] at hhex
  intro rest p size hrest hsize
  obtain ⟨q, hq⟩ := hhex rest p size hrest hsize
  refine ⟨q, ?_⟩
  rw [codePoint, StateT.run_bind, hq]
  simp only [bind, Except.bind]
  rw [if_neg (by omega), if_pos (by omega), Char.ofNat_toNat]
  rfl

/-- A character is written as an escape of one letter, as one of four digits, or as it is. -/
theorem escapeChar_cases (c : Char) :
    (∃ e, escapeChar c = ['\\', e] ∧ e.toNat < 0x80 ∧ e ≠ 'u' ∧ simpleEscape? e = some c ∧
      c.toNat < 0x80) ∨
    (c.toNat < 0x20 ∧ escapeChar c =
      ['\\', 'u', '0', '0', hexDigit (c.toNat / 16), hexDigit (c.toNat % 16)]) ∨
    (escapeChar c = [c] ∧ 0x20 ≤ c.toNat ∧ c ≠ '"' ∧ c ≠ '\\') := by
  unfold escapeChar
  split
  · exact Or.inl ⟨'"', by decide⟩
  · exact Or.inl ⟨'\\', by decide⟩
  · exact Or.inl ⟨'b', by decide⟩
  · exact Or.inl ⟨'f', by decide⟩
  · exact Or.inl ⟨'n', by decide⟩
  · exact Or.inl ⟨'r', by decide⟩
  · exact Or.inl ⟨'t', by decide⟩
  · next hquote hbackslash _ _ _ _ _ =>
    split
    · next hcontrol => exact Or.inr (Or.inl ⟨hcontrol, rfl⟩)
    · next hcontrol => exact Or.inr (Or.inr ⟨rfl, by omega, hquote, hbackslash⟩)

/-- The bytes of a character that is written as it is have no meaning inside a string. -/
theorem isPlain_of_mem_utf8 (hcontrol : 0x20 ≤ c.toNat) (hquote : c ≠ '"')
    (hbackslash : c ≠ '\\') (hb : b ∈ utf8 [c]) : IsPlain b := by
  have hvalue : ∀ k : Nat, k < 0x80 → b.toNat ≠ k → b ≠ k.toUInt8 := by
    rintro k hk hne rfl
    exact hne (Nat.mod_eq_of_lt (by omega))
  have hnat : 0x20 ≤ b.toNat ∧ b.toNat ≠ 0x22 ∧ b.toNat ≠ 0x5c := by
    by_cases hlt : c.toNat < 0x80
    · rw [utf8_singleton_of_lt hlt, List.mem_singleton] at hb
      have hbyte : b.toNat = c.toNat := by
        rw [hb]
        exact Nat.mod_eq_of_lt (by omega)
      have hne : ∀ d : Char, c ≠ d → c.toNat ≠ d.toNat := fun d hd heq => hd (Char.toNat_inj.mp heq)
      rw [hbyte]
      exact ⟨hcontrol, hne '"' hquote, hne '\\' hbackslash⟩
    -- all bytes of a longer character are beyond the range of the three
    · have hle := le_of_mem_utf8_singleton (Nat.not_lt.mp hlt) hb
      omega
  refine ⟨hvalue 0x22 (by omega) hnat.2.1, hvalue 0x5c (by omega) hnat.2.2, ?_⟩
  rw [UInt8.lt_iff_toNat_lt]
  exact Nat.not_lt.mpr hnat.1

/-- One character of a string, as it is written. -/
theorem reads_stringBytes_char (c : Char)
    (h : ∀ fuel, text.length < fuel →
      Reads P (stringBytes fuel ((utf8 [c]).reverse ++ acc)) text a)
    (hfuel : (utf8 (escapeChar c) ++ text).length < fuel) :
    Reads P (stringBytes fuel acc) (utf8 (escapeChar c) ++ text) a := by
  rcases escapeChar_cases c with ⟨e, hescape, he, hu, hsimple, hlt⟩ | ⟨hcontrol, hescape⟩ |
    ⟨hescape, hcontrol, hquote, hbackslash⟩
  -- an escape of one letter
  · have hbytes : utf8 (escapeChar c) = [0x5c, e.toNat.toUInt8] := by
      rw [hescape, utf8_cons, utf8_singleton_of_lt he]
      rfl
    rw [hbytes] at hfuel ⊢
    obtain ⟨fuel, rfl⟩ := Nat.exists_eq_succ_of_ne_zero (Nat.ne_zero_of_lt hfuel)
    have hrest := h fuel (by simp only [List.length_append, List.length_cons] at hfuel; omega)
    rw [utf8_singleton_of_lt hlt] at hrest
    exact reads_stringBytes_simple (ofUInt8_toUInt8 he) hu hsimple hrest
  -- an escape of four digits
  · have hbytes : utf8 (escapeChar c) = 0x5c :: 0x75 ::
        utf8 ['0', '0', hexDigit (c.toNat / 16), hexDigit (c.toNat % 16)] := by
      rw [hescape]
      rfl
    rw [hbytes] at hfuel ⊢
    obtain ⟨fuel, rfl⟩ := Nat.exists_eq_succ_of_ne_zero (Nat.ne_zero_of_lt hfuel)
    have hrest := h fuel (by simp only [List.length_append, List.length_cons] at hfuel; omega)
    exact reads_stringBytes_unicode (reads_codePoint hcontrol) hrest
  -- the character itself, a step for each of its bytes
  · rw [hescape] at hfuel ⊢
    rw [List.length_append] at hfuel
    obtain ⟨more, rfl⟩ := Nat.exists_eq_add_of_lt hfuel
    have hsplit : (utf8 [c]).length + text.length + more + 1 =
        text.length + more + 1 + (utf8 [c]).length := by omega
    rw [hsplit]
    exact reads_stringBytes_plains (fun b hb => isPlain_of_mem_utf8 hcontrol hquote hbackslash hb)
      (h _ (by omega))

/-! ### Strings -/

theorem reads_stringBytes (cs : List Char) (acc : List UInt8)
    (hfuel : (utf8 (cs.flatMap escapeChar) ++ [0x22]).length < fuel) :
    Reads Anything (stringBytes fuel acc) (utf8 (cs.flatMap escapeChar) ++ [0x22])
      (acc.reverse ++ utf8 cs) := by
  induction cs generalizing acc fuel with
  | nil =>
    obtain ⟨fuel, rfl⟩ := Nat.exists_eq_succ_of_ne_zero (Nat.ne_zero_of_lt hfuel)
    rw [utf8_nil, List.append_nil]
    exact reads_stringBytes_quote
  | cons c cs ih =>
    rw [List.flatMap_cons, utf8_append, List.append_assoc] at hfuel ⊢
    refine reads_stringBytes_char c (fun fuel hfuel => ?_) hfuel
    -- what was read so far is kept in reverse
    have hrest := ih ((utf8 [c]).reverse ++ acc) hfuel
    rwa [List.reverse_append, List.reverse_reverse, List.append_assoc, ← utf8_cons] at hrest

/-- **A quoted string** reads back after its opening quote. -/
theorem reads_stringBody (s : String) :
    Reads Anything stringBody (utf8 (s.toList.flatMap escapeChar) ++ [0x22]) s := by
  refine Reads.fuel fun n hn => ?_
  have hbytes := reads_stringBytes s.toList [] hn
  rw [List.reverse_nil, List.nil_append] at hbytes
  refine hbytes.bind_nil ?_ fun _ _ => trivial
  rw [fromUTF8?_utf8, String.ofList_toList]
  exact reads_pure s

/-- The bytes of a quoted string. -/
theorem utf8_quote (s : String) : utf8 (quote s).toList =
    0x22 :: (utf8 (s.toList.flatMap escapeChar) ++ [0x22]) := by
  have hlist : (quote s).toList = '"' :: (s.toList.flatMap escapeChar ++ ['"']) := by
    simp [quote]
  rw [hlist, utf8_cons, utf8_append]
  rfl

end Catalog.Json.Reader
