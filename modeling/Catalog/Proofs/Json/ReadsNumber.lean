import Catalog.Json.Printer
import Catalog.Proofs.Json.Reads

/-!
# Numbers read in the midst of a text

A number ends before a byte that cannot continue it, or at the end of the text. So a number that
reads back from its own text reads back wherever it stands before such a byte.

## Main definitions

* `Reader.EndsNumber` — what follows cannot continue a number.
* `Reader.Agree` — a reader does the same on a text and with something after the text.
* `Number.ReadsBack` — a number reads back from its text.

## Main results

* `Reader.agree_number` — reading a number.
* `Reader.reads_value_number` — **a number that reads back, in the midst of a text.**
-/

namespace Catalog.Json

namespace Reader

variable {α β : Type} {r r' : Reader α} {f f' : α → Reader β} {text left rest : List UInt8}
  {b : UInt8}

/-- A character that may stand in a number. -/
def IsNumberChar (c : Char) : Prop := c.isDigit = true ∨ c ∈ ['.', 'e', 'E', '+', '-']

instance (c : Char) : Decidable (IsNumberChar c) := inferInstanceAs (Decidable (_ ∨ _))

/-- The byte may continue a number. -/
def IsNumberByte (b : UInt8) : Prop := IsNumberChar (Char.ofUInt8 b)

instance (b : UInt8) : Decidable (IsNumberByte b) := inferInstanceAs (Decidable (IsNumberChar _))

/-- What follows cannot continue a number. -/
def EndsNumber (rest : List UInt8) : Prop := ∀ b ∈ rest.head?, ¬ IsNumberByte b

theorem endsNumber_nil : EndsNumber [] := fun b hb => by cases hb

theorem not_isNumberByte_of_isBlank (h : IsBlank b) : ¬ IsNumberByte b := by
  simp only [IsBlank, Bool.or_eq_true, beq_iff_eq] at h
  rw [IsNumberByte]
  rcases h with ((h | h) | h) | h <;> rw [h] <;> decide

/-- If the first reader succeeds on the text, then the second one does the same on the text with
anything after it that cannot continue a number. -/
def Agree (r r' : Reader α) (text : List UInt8) : Prop :=
  ∀ (p : Position) (size : Nat) (a : α) (c : Cursor), text.length ≤ size →
    r.run ⟨text, p, size⟩ = .ok (a, c) →
      c.size = size ∧ c.rest <:+ text ∧
        ∀ (rest : List UInt8) (p' : Position) (size' : Nat), EndsNumber rest →
          (text ++ rest).length ≤ size' →
            ∃ q, r'.run ⟨text ++ rest, p', size'⟩ = .ok (a, ⟨c.rest ++ rest, q, size'⟩)

theorem agree_pure (a : α) : Agree (pure a) (pure a) text := by
  intro p size a' c _ h
  obtain ⟨rfl, rfl⟩ := Prod.mk.inj (Except.ok.inj h)
  exact ⟨rfl, List.suffix_rfl, fun rest p' size' _ _ => ⟨p', rfl⟩⟩

/-- A reader that never succeeds. -/
theorem agree_of_fails (h : ∀ c x, r.run c ≠ .ok x) : Agree r r' text := by
  intro p size a c _ hok
  exact absurd hok (h _ _)

theorem agree_failHere (fault : Fault) : Agree (failHere fault) r' text :=
  agree_of_fails (run_failHere_ne fault)

theorem agree_failAhead (fault : Fault) : Agree (failAhead fault) r' text :=
  agree_of_fails (run_failAhead_ne fault)

/-- One reader after another. -/
theorem Agree.bind (h : Agree r r' text)
    (hf : ∀ a left, left.length ≤ text.length → Agree (f a) (f' a) left) :
    Agree (r >>= f) (r' >>= f') text := by
  intro p size b c hsize hok
  rw [StateT.run_bind] at hok
  obtain ⟨⟨a, c₁⟩, hr, hb⟩ := bind_eq_ok_iff.mp hok
  obtain ⟨hc₁, hsuffix, hext⟩ := h p size a c₁ hsize hr
  obtain ⟨left, p₁, size₁⟩ := c₁
  obtain rfl : size₁ = size := hc₁
  have hlength : left.length ≤ text.length := hsuffix.length_le
  -- the second reader starts where the first one stopped, in the text and in the longer one
  obtain ⟨hc, hsuffix', hext'⟩ := hf a left hlength p₁ size₁ b c (by omega) hb
  refine ⟨hc, hsuffix'.trans hsuffix, fun rest p' size' hrest hsize' => ?_⟩
  obtain ⟨q, hq⟩ := hext rest p' size' hrest hsize'
  have hleft : (left ++ rest).length ≤ size' := by
    rw [List.length_append] at hsize' ⊢
    omega
  obtain ⟨q', hq'⟩ := hext' rest q size' hrest hleft
  refine ⟨q', ?_⟩
  rw [StateT.run_bind, hq]
  exact hq'

/-- Moving over a byte first. -/
theorem Agree.skip {s s' : Reader β} (h : Agree s s' text) :
    Agree (do Reader.skip; s) (do Reader.skip; s') (b :: text) := by
  intro p size a c hsize hok
  obtain ⟨hc, hle, hext⟩ := h (p.after b) size a c (Nat.le_of_succ_le hsize) hok
  refine ⟨hc, hle.trans (List.suffix_cons b text), fun rest p' size' hrest hsize' => ?_⟩
  exact hext rest (p'.after b) size' hrest (Nat.le_of_succ_le hsize')

/-- Looking at the byte ahead. At the end of the text the readers must not tell the end from what
cannot continue a number. -/
theorem Agree.peek {g g' : Option Char → Reader β}
    (hcons : ∀ b more, text = b :: more →
      Agree (g (some (Char.ofUInt8 b))) (g' (some (Char.ofUInt8 b))) (b :: more))
    (hnil : text = [] → Agree (g none) (g' none) [])
    (hend : ∀ b c x, ¬ IsNumberByte b → text = [] → (g none).run c = .ok x →
      g' (some (Char.ofUInt8 b)) = g' none) :
    Agree (peek? >>= g) (peek? >>= g') text := by
  cases text with
  | cons b text =>
    intro p size a c hsize hok
    exact hcons b text rfl p size a c hsize hok
  | nil =>
    intro p size a c hsize hok
    have hok' : (g none).run ⟨[], p, size⟩ = .ok (a, c) := hok
    obtain ⟨hc, hle, hext⟩ := hnil rfl p size a c hsize hok'
    refine ⟨hc, hle, fun rest p' size' hrest hsize' => ?_⟩
    -- the text is at its end, but what follows it may not be
    cases rest with
    | nil => exact hext [] p' size' hrest hsize'
    | cons b rest =>
      have hg := hend b _ _ (hrest b rfl) rfl hok'
      obtain ⟨q, hq⟩ := hext (b :: rest) p' size' hrest hsize'
      refine ⟨q, ?_⟩
      rw [← hq, ← hg]
      rfl

/-- Reading the byte ahead; at the end of the text the reader fails. -/
theorem Agree.next {g g' : Option Char → Reader β}
    (hcons : ∀ b more, text = b :: more →
      Agree (g (some (Char.ofUInt8 b))) (g' (some (Char.ofUInt8 b))) more)
    (hnil : ∀ c x, (g none).run c ≠ .ok x) :
    Agree (next? >>= g) (next? >>= g') text := by
  cases text with
  | cons b text =>
    intro p size a c hsize hok
    obtain ⟨hc, hle, hext⟩ := hcons b text rfl (p.after b) size a c (Nat.le_of_succ_le hsize) hok
    refine ⟨hc, hle.trans (List.suffix_cons b text), fun rest p' size' hrest hsize' => ?_⟩
    exact hext rest (p'.after b) size' hrest (Nat.le_of_succ_le hsize')
  | nil =>
    intro p size a c hsize hok
    exact absurd hok (hnil _ _)

/-- Asking for a bound on the steps that are left, which is greater than the text in both. -/
theorem Agree.fuel {g g' : Nat → Reader β}
    (h : ∀ n n', text.length < n → text.length < n' → Agree (g n) (g' n') text) :
    Agree (Reader.fuel >>= g) (Reader.fuel >>= g') text := by
  intro p size a c hsize hok
  refine ⟨(h (size + 1) (size + 1) (by omega) (by omega) p size a c hsize hok).1,
    (h (size + 1) (size + 1) (by omega) (by omega) p size a c hsize hok).2.1,
    fun rest p' size' hrest hsize' => ?_⟩
  have hlt : text.length < size' + 1 := by
    rw [List.length_append] at hsize'
    omega
  -- the bounds differ, and neither of them is reached
  have hagree := h (size + 1) (size' + 1) (by omega) hlt
  exact (hagree p size a c hsize hok).2.2 rest p' size' hrest hsize'

/-! ### The parts of a number -/

theorem isDigit_of_endsNumber (hrest : EndsNumber rest) :
    ∀ b ∈ rest.head?, (Char.ofUInt8 b).isDigit = false :=
  fun b hb => Bool.eq_false_iff.mpr fun hdigit => hrest b hb (Or.inl hdigit)

/-- A run of digits ends before what is no digit. -/
theorem run_digits {front left : List UInt8} (hfront : ∀ b ∈ front, (Char.ofUInt8 b).isDigit = true)
    (hleft : ∀ b ∈ left.head?, (Char.ofUInt8 b).isDigit = false) (p : Position) (size : Nat) :
    ∃ q, digits.run ⟨front ++ left, p, size⟩ =
      .ok (front.map fun b => b.toNat - '0'.toNat, ⟨left, q, size⟩) := by
  have htake : (front ++ left).takeWhile (fun b => (Char.ofUInt8 b).isDigit) = front := by
    rw [List.takeWhile_append_of_pos hfront]
    cases left with
    | nil => simp
    | cons b left => simp [hleft b rfl]
  obtain ⟨q, hq⟩ := Cursor.exists_advance_append front left p size
  refine ⟨q, ?_⟩
  simp only [digits, StateT.run_bind, StateT.run_get, StateT.run_set, pure_bind, htake, hq]
  rfl

theorem agree_digits : Agree digits digits text := by
  intro p size a c _ hok
  obtain ⟨front, left, rfl, hfront, hleft'⟩ :=
    exists_eq_append (fun b => (Char.ofUInt8 b).isDigit = true) text
  have hleft : ∀ b ∈ left.head?, (Char.ofUInt8 b).isDigit = false :=
    fun b hb => Bool.eq_false_iff.mpr (hleft' b hb)
  obtain ⟨q, hq⟩ := run_digits hfront hleft p size
  obtain ⟨rfl, rfl⟩ := Prod.mk.inj (Except.ok.inj (hq.symm.trans hok))
  refine ⟨rfl, by simp, fun rest p' size' hrest _ => ?_⟩
  rw [List.append_assoc]
  -- the digits end inside the text, or with it before what is no digit
  refine run_digits hfront ?_ p' size'
  cases left with
  | nil => exact isDigit_of_endsNumber hrest
  | cons b left => exact hleft

theorem agree_double (negative : Bool) (n : Nat) (e : Int) :
    Agree (double negative n e) (double negative n e) text := by
  rw [double]
  split
  · exact agree_pure _
  · exact agree_failHere _

theorem agree_wordOrDouble (negative : Bool) (n : Nat) :
    Agree (wordOrDouble negative n) (wordOrDouble negative n) text := by
  rw [wordOrDouble]
  split
  · split
    · exact agree_pure _
    · exact agree_double _ _ _
  · exact agree_pure _

/-- The digits of an exponent, with bounds that are not reached. -/
theorem agree_exponentDigits {n n' : Nat} (hn : text.length < n) (hn' : text.length < n')
    (e : Nat) : Agree (exponentDigits n e) (exponentDigits n' e) text := by
  -- one digit is read a step, so the bound stays above what is left of the text
  induction text generalizing n n' e with
  | nil =>
    obtain ⟨n, rfl⟩ := Nat.exists_eq_succ_of_ne_zero (Nat.ne_zero_of_lt hn)
    obtain ⟨n', rfl⟩ := Nat.exists_eq_succ_of_ne_zero (Nat.ne_zero_of_lt hn')
    refine Agree.peek (fun b more h => by cases h) (fun _ => agree_pure _) ?_
    intro b c x hb _ _
    have hdigit : (Char.ofUInt8 b).isDigit = false := Bool.eq_false_iff.mpr fun h => hb (Or.inl h)
    simp only [hdigit, Bool.false_eq_true, if_false]
  | cons b text ih =>
    obtain ⟨n, rfl⟩ := Nat.exists_eq_succ_of_ne_zero (Nat.ne_zero_of_lt hn)
    obtain ⟨n', rfl⟩ := Nat.exists_eq_succ_of_ne_zero (Nat.ne_zero_of_lt hn')
    refine Agree.peek ?_ (fun h => by cases h) fun b' c x _ h => by cases h
    intro b' more heq
    obtain ⟨rfl, rfl⟩ := List.cons.inj heq
    simp only
    split
    · refine Agree.skip ?_
      split
      · exact ih (Nat.lt_of_succ_lt_succ hn) (Nat.lt_of_succ_lt_succ hn') _
      · exact agree_pure _
    · exact agree_pure _

/-- An exponent after its sign. -/
def exponentAfterSign (negative : Bool) (n : Nat) (e : Int) (negativeExponent : Bool) :
    Reader Number := do
  match ← next? with
  | none => failHere (.unfinished .value)
  | some c =>
    if !c.isDigit then failHere .invalidNumber
    else
      match ← exponentDigits (← fuel) (c.toNat - '0'.toNat) with
      | some e' => double negative n (if negativeExponent then e - e' else e + e')
      | none =>
        if n ≠ 0 ∧ !negativeExponent then failHere .numberTooLarge
        else
          let _ ← digits
          return .float (.zero negative)

theorem agree_exponentAfterSign (negative : Bool) (n : Nat) (e : Int) (negativeExponent : Bool) :
    Agree (exponentAfterSign negative n e negativeExponent)
      (exponentAfterSign negative n e negativeExponent) text := by
  refine Agree.next (fun b more _ => ?_) (run_failHere_ne _)
  dsimp only
  split
  · exact agree_failHere _
  · refine Agree.fuel fun n n' hn hn' => (agree_exponentDigits hn hn' _).bind fun x left _ => ?_
    cases x with
    | some e => exact agree_double _ _ _
    | none =>
      dsimp only
      split
      · exact agree_failHere _
      · exact agree_digits.bind fun _ _ _ => agree_pure _

theorem agree_exponentPart (negative : Bool) (n : Nat) (e : Int) :
    Agree (exponentPart negative n e) (exponentPart negative n e) text := by
  rw [exponentPart]
  refine Agree.peek (fun b more _ => ?_) (fun _ => ?_) fun b c x hb _ _ => ?_
  · dsimp only
    split
    · exact Agree.skip ((agree_pure _).bind fun sign _ _ => agree_exponentAfterSign _ _ _ sign)
    · exact Agree.skip ((agree_pure _).bind fun sign _ _ => agree_exponentAfterSign _ _ _ sign)
    · exact (agree_pure _).bind fun sign _ _ => agree_exponentAfterSign _ _ _ sign
  · exact (agree_pure _).bind fun sign _ _ => agree_exponentAfterSign _ _ _ sign
  -- what follows is neither of the letters that start an exponent
  · have hother := not_or.mp hb
    dsimp only
    split
    · next h => simp [Option.some.inj h] at hother
    · next h => simp [Option.some.inj h] at hother
    · rfl

theorem agree_afterDigits (negative : Bool) (n : Nat) (e : Int) :
    Agree (afterDigits negative n e) (afterDigits negative n e) text := by
  rw [afterDigits]
  refine Agree.peek (fun b more _ => ?_) (fun _ => agree_double _ _ _) fun b c x hb _ _ => ?_
  · split
    · exact Agree.skip (agree_exponentPart _ _ _)
    · exact Agree.skip (agree_exponentPart _ _ _)
    · exact agree_double _ _ _
  · have hother := not_or.mp hb
    dsimp only
    split
    · next h => simp [Option.some.inj h] at hother
    · next h => simp [Option.some.inj h] at hother
    · rfl

theorem agree_fractionPart (negative : Bool) (n : Nat) (e : Int) :
    Agree (fractionPart negative n e) (fractionPart negative n e) text := by
  rw [fractionPart]
  refine agree_digits.bind fun ds left _ => ?_
  split
  · refine agree_of_fails fun c x hok => ?_
    obtain ⟨rest, p, size⟩ := c
    cases rest <;> cases hok
  · exact agree_afterDigits _ _ _

/-- Reading a number. -/
theorem agree_number (negative : Bool) : Agree (number negative) (number negative) text := by
  rw [number]
  refine Agree.peek (fun b more _ => ?_) (fun _ => agree_failHere _) fun b c x _ _ h => by cases h
  dsimp only
  split
  · exact agree_failHere _
  · -- a number that starts with a zero
    refine Agree.skip (Agree.peek (fun b more _ => ?_) (fun _ => agree_wordOrDouble _ _)
      fun b c x hb _ _ => ?_)
    · split
      · exact Agree.skip (agree_fractionPart _ _ _)
      · exact Agree.skip (agree_exponentPart _ _ _)
      · exact Agree.skip (agree_exponentPart _ _ _)
      · split
        · exact agree_failAhead _
        · exact agree_wordOrDouble _ _
      · exact agree_wordOrDouble _ _
    -- what follows is no point, no letter of an exponent and no second digit
    · obtain ⟨hdigit, hother⟩ := not_or.mp hb
      dsimp only
      split
      · next h => simp [Option.some.inj h] at hother
      · next h => simp [Option.some.inj h] at hother
      · next h => simp [Option.some.inj h] at hother
      · next h =>
        rw [← Option.some.inj h, if_neg hdigit]
      · rfl
  -- a number that starts with another digit
  · refine agree_digits.bind fun ds left _ => ?_
    split
    · refine agree_of_fails fun c x hok => ?_
      cases hok
    · refine Agree.peek (fun b more _ => ?_) (fun _ => ?_) fun b c x hb _ _ => ?_
      · split
        · exact Agree.skip (agree_fractionPart _ _ _)
        · exact Agree.skip (agree_exponentPart _ _ _)
        · exact Agree.skip (agree_exponentPart _ _ _)
        · split
          · exact agree_wordOrDouble _ _
          · exact agree_double _ _ _
      · dsimp only
        split
        · exact agree_wordOrDouble _ _
        · exact agree_double _ _ _
      · have hother := not_or.mp hb
        dsimp only
        split
        · next h => simp [Option.some.inj h] at hother
        · next h => simp [Option.some.inj h] at hother
        · next h => simp [Option.some.inj h] at hother
        · rfl

/-! ### Numbers as values -/

/-- Looking at the first byte after blanks; at the end of the text the reader fails. -/
theorem Agree.peekToken {g g' : Option Char → Reader β}
    (hcons : ∀ b more, Agree (g (some (Char.ofUInt8 b))) (g' (some (Char.ofUInt8 b))) (b :: more))
    (hnil : ∀ c x, (g none).run c ≠ .ok x) :
    Agree (peekToken? >>= g) (peekToken? >>= g') text := by
  intro p size a c hsize hok
  obtain ⟨front, left, rfl, hfront, hleft⟩ := exists_eq_append IsBlank text
  obtain ⟨q, hq⟩ := run_peekToken? hfront hleft p size
  rw [StateT.run_bind, hq] at hok
  cases left with
  | nil => exact absurd hok (hnil _ _)
  | cons b more =>
    have hlength : (b :: more).length ≤ size := by
      rw [List.length_append] at hsize
      omega
    obtain ⟨hc, hsuffix, hext⟩ := hcons b more q size a c hlength hok
    refine ⟨hc, hsuffix.trans (List.suffix_append ..), fun rest p' size' hrest hsize' => ?_⟩
    -- the same blanks come first in the longer text
    rw [List.append_assoc] at hsize' ⊢
    have hlength' : (b :: more ++ rest).length ≤ size' := by
      rw [List.length_append] at hsize'
      omega
    have hleft' : ∀ b' ∈ (b :: more ++ rest).head?, ¬ IsBlank b' := hleft
    obtain ⟨q', hq'⟩ := run_peekToken? hfront hleft' p' size'
    rw [StateT.run_bind, hq']
    exact hext rest q' size' hrest hlength'

/-- Reads a number in the place of a document. -/
def numberValue : Reader Json := do
  match ← peekToken? with
  | some '-' => skip; return .num (← number true)
  | some c => if c.isDigit then return .num (← number false) else failAhead .expectedValue
  | none => failAhead (.unfinished .value)

theorem agree_numberValue : Agree numberValue numberValue text := by
  refine Agree.peekToken (fun b more => ?_) (run_failAhead_ne _)
  split
  · exact Agree.skip ((agree_number _).bind fun _ _ _ => agree_pure _)
  · split
    · exact (agree_number _).bind fun _ _ _ => agree_pure _
    · exact agree_failAhead _
  · exact agree_failAhead _

/-- A reader whose results are all of one kind yields no other one. -/
theorem run_map_ne (g : α → Json) {n : Number} (hg : ∀ a, g a ≠ .num n) (r : Reader α)
    (c c' : Cursor) : (do return g (← r) : Reader Json).run c ≠ .ok (.num n, c') := by
  intro hok
  rw [StateT.run_bind] at hok
  obtain ⟨⟨a, c₁⟩, -, hpure⟩ := bind_eq_ok_iff.mp hok
  obtain ⟨ha, -⟩ := Prod.mk.inj (Except.ok.inj hpure)
  exact hg a ha

/-- Where a document is a number, a number is read. -/
theorem run_value_eq_num_iff {depth : Nat} {n : Number} {c c' : Cursor} :
    (value depth).run c = .ok (.num n, c') ↔ numberValue.run c = .ok (.num n, c') := by
  rw [value.eq_def, numberValue, StateT.run_bind, StateT.run_bind, bind_eq_ok_iff, bind_eq_ok_iff]
  refine exists_congr fun start => and_congr_right fun _ => ?_
  obtain ⟨x, c₁⟩ := start
  have hother : ¬ (failAhead .expectedValue : Reader Json).run c₁ = .ok (.num n, c') :=
    run_failAhead_ne _ _ _
  -- a byte that starts no number starts a value of another kind, or none
  dsimp only
  split
  · exact iff_of_false (run_failAhead_ne _ _ _) (run_failAhead_ne _ _ _)
  · exact iff_of_false (run_map_ne (fun _ => null) (fun _ h => by cases h) _ c₁.next c') hother
  · exact iff_of_false (run_map_ne (fun _ => bool true) (fun _ h => by cases h) _ c₁.next c') hother
  · exact iff_of_false (run_map_ne (fun _ => bool false) (fun _ h => by cases h) _ c₁.next c')
      hother
  · rfl
  · exact iff_of_false (run_map_ne str (fun _ h => by cases h) stringBody c₁.next c') hother
  · refine iff_of_false ?_ hother
    cases depth with
    | zero => exact run_failHere_ne _ _ _
    | succ depth => exact run_map_ne arr (fun _ h => by cases h) (items (value depth)) c₁.next c'
  · refine iff_of_false ?_ hother
    cases depth with
    | zero => exact run_failHere_ne _ _ _
    | succ depth => exact run_map_ne obj (fun _ h => by cases h) (members (value depth)) c₁.next c'
  · simp only

end Reader

/-! ### Numbers that read back -/

namespace Number

open Reader

/-- The number reads back from its text. -/
def ReadsBack (n : Number) : Prop := parse n.text = .ok (.num n)

instance (n : Number) : Decidable n.ReadsBack := inferInstanceAs (Decidable (_ = _))

/-- A text with characters of numbers only. -/
def IsNumberText (s : String) : Prop := ∀ c ∈ s.toList, IsNumberChar c

instance (s : String) : Decidable (IsNumberText s) :=
  List.decidableBAll IsNumberChar s.toList

theorem isNumberText_append {s t : String} (hs : IsNumberText s) (ht : IsNumberText t) :
    IsNumberText (s ++ t) := by
  intro c hc
  rw [String.toList_append, List.mem_append] at hc
  exact hc.elim (hs c) (ht c)

theorem isNumberText_ofList {cs : List Char} (h : ∀ c ∈ cs, IsNumberChar c) :
    IsNumberText (String.ofList cs) := by
  intro c hc
  rw [String.toList_ofList] at hc
  exact h c hc

theorem isNumberText_zeros (n : Nat) : IsNumberText (String.ofList (List.replicate n '0')) := by
  refine isNumberText_ofList fun c hc => ?_
  rw [List.eq_of_mem_replicate hc]
  decide

theorem isNumberText_nat (n : Nat) : IsNumberText (toString n) := by
  intro c hc
  rw [Nat.toString_eq_repr, Nat.toList_repr] at hc
  exact Or.inl (Nat.isDigit_of_mem_toDigits (by decide) (by decide) hc)

theorem isNumberText_int (n : Int) : IsNumberText (toString n) := by
  rw [Int.toString_eq_repr, Int.repr_eq_if]
  split
  · exact isNumberText_nat n.toNat
  · exact isNumberText_append (by decide) (isNumberText_nat (-n).toNat)

theorem isNumberText_magnitude (d : Decimal) : IsNumberText (numberLayout.magnitude d) := by
  have hdigits := isNumberText_nat d.digits
  have htake : ∀ k, IsNumberText (String.ofList ((toString d.digits).toList.take k)) :=
    fun k => isNumberText_ofList fun c hc => hdigits c (List.mem_of_mem_take hc)
  have hdrop : ∀ k, IsNumberText (String.ofList ((toString d.digits).toList.drop k)) :=
    fun k => isNumberText_ofList fun c hc => hdigits c (List.mem_of_mem_drop hc)
  have hsuffix : IsNumberText numberLayout.wholeSuffix := by decide
  have hsign : IsNumberText numberLayout.exponentSign := by decide
  unfold DecimalLayout.magnitude
  dsimp only
  split
  -- the layout without an exponent
  · split
    · exact isNumberText_append (isNumberText_append hdigits (isNumberText_zeros _)) hsuffix
    · split
      · exact isNumberText_append (isNumberText_append (htake _) (by decide)) (hdrop _)
      · exact isNumberText_append (isNumberText_append (by decide) (isNumberText_zeros _)) hdigits
  -- the layout with an exponent
  · refine isNumberText_append (isNumberText_append (isNumberText_append (isNumberText_append
      (htake _) ?_) (by decide)) ?_) (isNumberText_int _)
    · split
      · decide
      · exact isNumberText_append (by decide) (hdrop _)
    · split
      · decide
      · exact hsign

/-- The text of a number has characters of numbers only. -/
theorem isNumberText_text (n : Number) : IsNumberText n.text := by
  cases n with
  | int n => exact isNumberText_int n
  | float x =>
    refine isNumberText_append ?_ ?_
    · split <;> decide
    · split
      · exact isNumberText_append (by decide) (by decide)
      · exact isNumberText_magnitude _

theorem isNumberByte_of_mem_text {n : Number} {b : UInt8} (hb : b ∈ Text.utf8 n.text.toList) :
    IsNumberByte b := by
  obtain ⟨c, hc, hbc⟩ := List.mem_flatMap.mp hb
  have hchar := isNumberText_text n c hc
  -- a character of a number is one byte
  have hlt : c.toNat < 0x80 := by
    rcases hchar with hdigit | hother
    · exact Nat.lt_of_le_of_lt (Char.isDigit_iff_toNat.mp hdigit).2 (by decide)
    · simp only [List.mem_cons, List.not_mem_nil, or_false] at hother
      rcases hother with rfl | rfl | rfl | rfl | rfl <;> decide
  have hbyte : b ∈ Text.utf8 [c] := by simpa [Text.utf8] using hbc
  rw [Text.utf8_singleton_of_lt hlt, List.mem_singleton] at hbyte
  rwa [hbyte, IsNumberByte, Text.ofUInt8_toUInt8 hlt]

end Number

namespace Reader

/-- **A number that reads back, in the midst of a text.** -/
theorem reads_value_number {n : Number} (h : n.ReadsBack) (depth : Nat) :
    Reads EndsNumber (value depth) (Text.utf8 n.text.toList) (.num n) := by
  rw [Number.ReadsBack, parse, parseBytes, Text.toUTF8_toList, readAll_eq_ok_iff] at h
  obtain ⟨c, hvalue, hblanks⟩ := h
  rw [run_value_eq_num_iff] at hvalue
  obtain ⟨-, hsuffix, hext⟩ := agree_numberValue _ _ _ _ (Nat.le_refl _) hvalue
  -- what is left of the text are blanks, and the text of a number has none
  have hnil : c.rest = [] := by
    rw [List.eq_nil_iff_forall_not_mem]
    intro b hb
    exact not_isNumberByte_of_isBlank (hblanks b hb)
      (Number.isNumberByte_of_mem_text (hsuffix.subset hb))
  intro rest p size hrest hsize
  obtain ⟨q, hq⟩ := hext rest p size hrest hsize
  rw [hnil] at hq
  exact ⟨q, run_value_eq_num_iff.mpr hq⟩

end Reader

end Catalog.Json
