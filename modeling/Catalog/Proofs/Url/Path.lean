import Catalog.Proofs.Text.Bytes
import Catalog.Proofs.Text.Cut
import Catalog.Url.Path

/-!
# Which segments a path keeps

A text below a directory is read as a path: it is split at slashes, its segments are escaped, and
segments of dots are taken out. The segments that were meant are among those that come out only if
nothing of this changes any of them. That nothing else can bring them back is seen from lengths:
reading never makes a path longer, and it makes the path shorter wherever it changes a segment.

## Main definitions

* `escapedInSegment` — the characters that are escaped in a segment that may hold any text.
* `settle` — what one segment does to the segments before it.
* `weight` — how long a text gets when it is read as a path.

## Main results

* `length_normalizeAfter_le` — taking out dots makes a path shorter.
* `dots?_percentEncode` — the segments that are dots once they are escaped.
* `normalizeAfter_eq_iff` — **when the segments that a text spells come out as they are.**
-/

namespace Catalog.Url

open Text

variable {p q : Char → Bool} {c : Char} {cs ds k s : List Char}
  {done front rest segments ts : List (List Char)}

/-! ### Escapes -/

/-- The characters that are escaped in a segment that may hold any text: what stands between
segments, and the sign of the escapes themselves, are escaped too. -/
def escapedInSegment (c : Char) : Bool := escapedInPath c || ['/', '\\', '%'].contains c

theorem percentEncode_cons (p : Char → Bool) (c : Char) (cs : List Char) :
    percentEncode p (c :: cs) = percentEncode p [c] ++ percentEncode p cs := by
  simp [percentEncode]

/-- Sets that agree on the characters of a text escape it in the same way. -/
theorem percentEncode_congr (h : ∀ c ∈ cs, p c = q c) :
    percentEncode p cs = percentEncode q cs := by
  induction cs with
  | nil => rfl
  | cons c cs ih =>
    obtain ⟨hc, hcs⟩ := List.forall_mem_cons.mp h
    rw [percentEncode_cons, percentEncode_cons q, ih hcs]
    simp [percentEncode, hc]

/-- A character that is not escaped stands for itself. -/
theorem percentEncode_singleton_of_not (h : p c = false) : percentEncode p [c] = [c] := by
  simp [percentEncode, h]

/-- A character that is escaped becomes the escapes of its bytes. -/
theorem exists_percentEncode_singleton (h : p c = true) :
    ∃ b bs, utf8 [c] = b :: bs ∧ percentEncode p [c] = escapeByte b ++ bs.flatMap escapeByte := by
  obtain ⟨b, bs, hb⟩ := List.exists_cons_of_ne_nil (String.utf8EncodeChar_ne_nil (c := c))
  exact ⟨b, bs, by simp [utf8, hb], by simp [percentEncode, h, hb]⟩

theorem length_percentEncode_singleton_of_not (h : p c = false) :
    (percentEncode p [c]).length = 1 := by
  rw [percentEncode_singleton_of_not h, List.length_singleton]

/-- An escape is longer than a character. -/
theorem three_le_length_percentEncode_singleton (h : p c = true) :
    3 ≤ (percentEncode p [c]).length := by
  obtain ⟨b, bs, -, henc⟩ := exists_percentEncode_singleton h
  rw [henc, List.length_append]
  exact Nat.le_add_right 3 _

theorem one_le_length_percentEncode_singleton (p : Char → Bool) (c : Char) :
    1 ≤ (percentEncode p [c]).length := by
  cases h : p c with
  | false => exact Nat.le_of_eq (length_percentEncode_singleton_of_not h).symm
  | true => exact Nat.le_trans (by decide) (three_le_length_percentEncode_singleton h)

/-! ### Dots -/

/-- A segment that stands for nothing, or takes back the one before it. -/
def isDots (s : List Char) : Bool := isDoubleDot s || isSingleDot s

theorem dots?_dot_cons (cs : List Char) : dots? ('.' :: cs) = (dots? cs).map (· + 1) := by
  rw [dots?]

theorem dots?_cons_of_ne (hd : c ≠ '.') (hp : c ≠ '%') (cs : List Char) :
    dots? (c :: cs) = none := by
  unfold dots?
  split <;> simp_all

/-- Only one escape is a dot. -/
theorem dots?_escapeByte_append {b : UInt8} (hb : b.toNat ≠ 0x2e) (cs : List Char) :
    dots? (escapeByte b ++ cs) = none := by
  have htwo : ∀ n < 16, hexDigit n = '2' → n = 2 := by decide
  have hletter : ∀ n < 16, hexDigit n = 'e' ∨ hexDigit n = 'E' → n = 14 := by decide
  have hb : ¬ (hexDigit (b.toNat / 16) = '2' ∧
      (hexDigit (b.toNat % 16) = 'e' ∨ hexDigit (b.toNat % 16) = 'E')) := by
    rintro ⟨hx, hy⟩
    have hlt : b.toNat < 256 := b.toNat_lt
    have hx := htwo _ (by omega) hx
    have hy := hletter _ (by omega) hy
    omega
  simp only [escapeByte, List.cons_append, List.nil_append]
  generalize hexDigit (b.toNat / 16) = x at hb ⊢
  generalize hexDigit (b.toNat % 16) = y at hb ⊢
  unfold dots?
  split <;> simp_all

theorem dots?_escaped_append (h : p c = true) (hd : c ≠ '.') (cs : List Char) :
    dots? (percentEncode p [c] ++ cs) = none := by
  obtain ⟨b, bs, hutf8, henc⟩ := exists_percentEncode_singleton h
  rw [henc, List.append_assoc]
  refine dots?_escapeByte_append (fun hb => hd ?_) _
  by_cases hlt : c.toNat < 0x80
  · rw [utf8_singleton_of_lt hlt] at hutf8
    obtain ⟨rfl, -⟩ := List.cons.inj hutf8
    have hcode : c.toNat = 0x2e := by
      rwa [UInt8.toNat_ofNat', Nat.mod_eq_of_lt (by omega)] at hb
    exact Char.ext (UInt32.toNat_inj.mp hcode)
  · have hle : 0x80 ≤ b.toNat :=
      le_of_mem_utf8_singleton (Nat.le_of_not_lt hlt) (hutf8 ▸ List.mem_cons_self)
    omega

/-- A text without escapes is dots once it is escaped just when it is dots. -/
theorem dots?_percentEncode {n : Nat} (hp : p '.' = false) (h : '%' ∉ cs) :
    dots? (percentEncode p cs) = some n ↔ cs = List.replicate n '.' := by
  induction cs generalizing n with
  | nil => cases n <;> simp [percentEncode, dots?, List.replicate_succ]
  | cons c cs ih =>
    obtain ⟨hc, hcs⟩ := not_or.mp (List.mem_cons.not.mp h)
    rw [percentEncode_cons]
    by_cases hd : c = '.'
    · rw [hd, percentEncode_singleton_of_not hp, List.singleton_append, dots?_dot_cons]
      cases n with
      | zero => simp
      | succ n => simp [ih hcs, List.replicate_succ]
    · have hnone : dots? (percentEncode p [c] ++ percentEncode p cs) = none := by
        cases he : p c with
        | true => exact dots?_escaped_append he hd _
        | false =>
          rw [percentEncode_singleton_of_not he, List.singleton_append]
          exact dots?_cons_of_ne hd (Ne.symm hc) _
      rw [hnone]
      cases n with
      | zero => simp
      | succ n => simp [List.replicate_succ, hd]

theorem isDots_percentEncode (hp : p '.' = false) (h : '%' ∉ cs) :
    isDots (percentEncode p cs) = true ↔ cs = ['.'] ∨ cs = ['.', '.'] := by
  rw [isDots, isDoubleDot, isSingleDot, Bool.or_eq_true, beq_iff_eq, beq_iff_eq,
    dots?_percentEncode hp h, dots?_percentEncode hp h, or_comm]
  rfl

/-! ### Taking out dots -/

/-- What a segment does to the segments before it, which are in reverse. -/
def settle (done : List (List Char)) (s : List Char) : List (List Char) :=
  if isDoubleDot s then takeBack done
  else if isSingleDot s then done
  else s :: done

/-- Segments before others are settled first. -/
theorem normalizeAfter_append (h : rest ≠ []) :
    normalizeAfter done (front ++ rest) = normalizeAfter (front.foldl settle done) rest := by
  induction front generalizing done with
  | nil => rfl
  | cons s front ih =>
    have hne : (front ++ rest).isEmpty = false := by simp [h]
    rw [List.cons_append, normalizeAfter, hne, Bool.false_and, if_neg Bool.false_ne_true]
    exact ih

/-- Without dots, a path stays as it is. -/
theorem normalizeAfter_eq (h : ∀ s ∈ segments, isDots s = false) :
    normalizeAfter done segments = done.reverse ++ segments := by
  induction segments generalizing done with
  | nil => simp [normalizeAfter]
  | cons s rest ih =>
    obtain ⟨hs, hrest⟩ := List.forall_mem_cons.mp h
    obtain ⟨hdouble, hsingle⟩ := Bool.or_eq_false_iff.mp hs
    simp only [normalizeAfter, hdouble, hsingle, Bool.or_self, Bool.and_false,
      Bool.false_eq_true, if_false]
    rw [ih hrest, List.reverse_cons, List.append_assoc, List.singleton_append]

@[simp] theorem segmentsText_nil : segmentsText [] = [] := rfl

@[simp] theorem segmentsText_cons (s : List Char) (rest : List (List Char)) :
    segmentsText (s :: rest) = '/' :: (s ++ segmentsText rest) := rfl

theorem segmentsText_append (front rest : List (List Char)) :
    segmentsText (front ++ rest) = segmentsText front ++ segmentsText rest :=
  List.flatMap_append

/-- The fields between slashes are the segments of a text. -/
theorem segmentsText_fields (cs : List Char) : segmentsText (fields '/' cs) = '/' :: cs := by
  induction cs with
  | nil => rfl
  | cons c cs ih =>
    by_cases hc : c = '/'
    · rw [hc, fields_cons_self, segmentsText_cons, ih]
      rfl
    · obtain ⟨f, fs, hfs⟩ := List.exists_cons_of_ne_nil (fields_ne_nil '/' cs)
      rw [hfs, segmentsText_cons] at ih
      rw [fields_cons_of_ne hc, hfs, List.modifyHead_cons, segmentsText_cons, List.cons_append,
        (List.cons.inj ih).2]

/-- What holds of slashes holds of the text of segments when it holds of the segments. -/
theorem forall_mem_segmentsText_iff {P : Char → Prop} (hP : P '/') :
    (∀ c ∈ segmentsText segments, P c) ↔ ∀ s ∈ segments, ∀ c ∈ s, P c := by
  induction segments with
  | nil => simp
  | cons s rest ih => simp [segmentsText_cons, or_imp, forall_and, hP, ← ih]

theorem length_segmentsText_reverse (segments : List (List Char)) :
    (segmentsText segments.reverse).length = (segmentsText segments).length := by
  induction segments with
  | nil => rfl
  | cons s rest ih =>
    rw [List.reverse_cons, segmentsText_append, List.length_append, ih, Nat.add_comm,
      ← List.length_append, ← segmentsText_append]
    rfl

theorem length_takeBack_le (done : List (List Char)) :
    (segmentsText (takeBack done)).length ≤ (segmentsText done).length := by
  cases done with
  | nil => exact Nat.le_refl _
  | cons s done =>
    rw [takeBack]
    split
    · exact Nat.le_refl _
    · simp only [segmentsText_cons, List.length_cons, List.length_append]
      omega

/-- Dots never make the path before them longer. -/
theorem length_settle_le (h : isDots s = true) (done : List (List Char)) :
    (segmentsText (settle done s)).length ≤ (segmentsText done).length := by
  unfold settle
  split
  · exact length_takeBack_le done
  · rename_i hdouble
    have hsingle : isSingleDot s = true := (Bool.or_eq_true_iff.mp h).resolve_left hdouble
    exact Nat.le_of_eq (by rw [if_pos hsingle])

theorem settle_of_not (h : isDots s = false) : settle done s = s :: done := by
  obtain ⟨hdouble, hsingle⟩ := Bool.or_eq_false_iff.mp h
  simp [settle, hdouble, hsingle]

/-- Dots at the end of a path leave an empty segment. -/
theorem normalizeAfter_cons (done : List (List Char)) (s : List Char) (rest : List (List Char)) :
    normalizeAfter done (s :: rest) =
      normalizeAfter (if rest.isEmpty && isDots s then [] :: settle done s else settle done s)
        rest := by
  rw [normalizeAfter, isDots]
  split <;> rfl

/-- Taking out dots makes a path shorter, by one character at least for each of them. -/
theorem length_normalizeAfter_le (done segments : List (List Char)) :
    (segmentsText (normalizeAfter done segments)).length + segments.countP isDots ≤
      (segmentsText done).length + (segmentsText segments).length := by
  induction segments generalizing done with
  | nil => simp [normalizeAfter, length_segmentsText_reverse]
  | cons s rest ih =>
    rw [normalizeAfter_cons, segmentsText_cons, List.length_cons, List.length_append]
    cases hs : isDots s with
    | false =>
      rw [Bool.and_false, if_neg Bool.false_ne_true, settle_of_not hs,
        List.countP_cons_of_neg (by simp [hs])]
      have hrest := ih (s :: done)
      rw [segmentsText_cons, List.length_cons, List.length_append] at hrest
      omega
    | true =>
      -- a segment of dots is not empty, which pays for the empty segment that it may leave
      have hlen : s.length ≠ 0 := fun h => by
        rw [List.length_eq_zero_iff.mp h] at hs
        cases hs
      have hsettle := length_settle_le hs done
      rw [List.countP_cons_of_pos hs, Bool.and_true]
      split
      · have hrest := ih ([] :: settle done s)
        rw [segmentsText_cons, List.length_cons, List.length_append] at hrest
        simp only [List.length_nil] at hrest
        omega
      · have hrest := ih (settle done s)
        omega

/-! ### Reading a text as a path -/

/-- How long a character of a text gets when the text is read as a path. -/
def charWeight (c : Char) : Nat :=
  if c = '/' ∨ c = '\\' then 1 else (percentEncode escapedInPath [c]).length

/-- How long a text gets when it is read as a path. -/
def weight : List Char → Nat
  | [] => 0
  | c :: cs => charWeight c + weight cs

theorem one_le_charWeight (c : Char) : 1 ≤ charWeight c := by
  unfold charWeight
  split
  · exact Nat.le_refl 1
  · exact one_le_length_percentEncode_singleton _ c

theorem weight_cons (c : Char) (cs : List Char) : weight (c :: cs) = charWeight c + weight cs := rfl

theorem weight_append (cs ds : List Char) : weight (cs ++ ds) = weight cs + weight ds := by
  induction cs with
  | nil => simp [weight]
  | cons c cs ih => rw [List.cons_append, weight_cons, weight_cons, ih, Nat.add_assoc]

/-- A part of a text gets shorter than the text, by one character at least for each that is
missing. -/
theorem weight_le_of_sublist (h : cs.Sublist ds) :
    weight cs + ds.length ≤ weight ds + cs.length := by
  induction h with
  | slnil => exact Nat.le_refl _
  | cons d _ ih =>
    have hd := one_le_charWeight d
    rw [weight_cons, List.length_cons]
    omega
  | cons_cons d _ ih =>
    rw [weight_cons, weight_cons, List.length_cons, List.length_cons]
    omega

/-- The segments of a text that is read as a path, before dots are taken out. -/
def readSegments (cs : List Char) : List (List Char) :=
  (splitSlashes true cs).map (percentEncode escapedInPath)

theorem readSegments_ne_nil (cs : List Char) : readSegments cs ≠ [] := by
  simp [readSegments, splitSlashes, fields_ne_nil]

theorem readSegments_slash_cons (h : c = '/' ∨ c = '\\') (cs : List Char) :
    readSegments (c :: cs) = [] :: readSegments cs := by
  have hc : (if c == '\\' then '/' else c) = '/' := by rcases h with rfl | rfl <;> rfl
  simp only [readSegments, splitSlashes, if_true, List.map_cons, hc, fields_cons_self]
  rfl

theorem readSegments_cons (h : ¬ (c = '/' ∨ c = '\\')) (cs : List Char) :
    readSegments (c :: cs) =
      (readSegments cs).modifyHead (percentEncode escapedInPath [c] ++ ·) := by
  obtain ⟨hslash, hback⟩ := not_or.mp h
  have hc : (if c == '\\' then '/' else c) = c := if_neg (by simpa using hback)
  simp only [readSegments, splitSlashes, if_true, List.map_cons, hc, fields_cons_of_ne hslash]
  obtain ⟨f, fs, hfs⟩ := List.exists_cons_of_ne_nil
    (fields_ne_nil '/' (cs.map fun c => if c == '\\' then '/' else c))
  rw [hfs, List.modifyHead_cons, List.map_cons, List.map_cons, List.modifyHead_cons,
    percentEncode_cons]

/-- A text before a slash is read apart from the text behind it. -/
theorem readSegments_append_slash (cs ds : List Char) :
    readSegments (cs ++ '/' :: ds) = readSegments cs ++ readSegments ds := by
  induction cs with
  | nil => exact readSegments_slash_cons (.inl rfl) ds
  | cons c cs ih =>
    by_cases h : c = '/' ∨ c = '\\'
    · rw [List.cons_append, readSegments_slash_cons h, readSegments_slash_cons h, ih,
        List.cons_append]
    · obtain ⟨f, fs, hfs⟩ := List.exists_cons_of_ne_nil (readSegments_ne_nil cs)
      rw [List.cons_append, readSegments_cons h, readSegments_cons h, ih, hfs]
      rfl

/-- A text without slashes is one segment. -/
theorem readSegments_of_notMem (hslash : '/' ∉ cs) (hback : '\\' ∉ cs) :
    readSegments cs = [percentEncode escapedInPath cs] := by
  induction cs with
  | nil => rfl
  | cons c cs ih =>
    obtain ⟨hc, hcs⟩ := not_or.mp (List.mem_cons.not.mp hslash)
    obtain ⟨hb, hbs⟩ := not_or.mp (List.mem_cons.not.mp hback)
    rw [readSegments_cons (not_or.mpr ⟨Ne.symm hc, Ne.symm hb⟩), ih hcs hbs,
      percentEncode_cons _ c cs]
    rfl

/-- Segments without slashes are the segments of their text. -/
theorem readSegments_segmentsText (hts : ts ≠ []) (hk : '/' :: k = segmentsText ts)
    (hslash : ∀ t ∈ ts, '/' ∉ t) (hback : ∀ t ∈ ts, '\\' ∉ t) :
    readSegments k = ts.map (percentEncode escapedInPath) := by
  induction ts generalizing k with
  | nil => exact absurd rfl hts
  | cons t ts ih =>
    obtain ⟨ht, hslash⟩ := List.forall_mem_cons.mp hslash
    obtain ⟨hb, hback⟩ := List.forall_mem_cons.mp hback
    rw [segmentsText_cons] at hk
    obtain ⟨-, rfl⟩ := List.cons.inj hk
    cases hrest : ts with
    | nil => simpa using readSegments_of_notMem ht hb
    | cons u us =>
      rw [hrest] at ih hslash hback
      rw [segmentsText_cons, readSegments_append_slash, readSegments_of_notMem ht hb,
        ih (List.cons_ne_nil u us) (segmentsText_cons u us).symm hslash hback]
      rfl

/-! ### Lengths -/

theorem charWeight_of_slash (h : c = '/' ∨ c = '\\') : charWeight c = 1 := if_pos h

theorem charWeight_of_not (h : ¬ (c = '/' ∨ c = '\\')) :
    charWeight c = (percentEncode escapedInPath [c]).length := if_neg h

/-- A text gets as long as its segments with slashes before them. -/
theorem length_readSegments (cs : List Char) :
    (segmentsText (readSegments cs)).length = weight cs + 1 := by
  induction cs with
  | nil => rfl
  | cons c cs ih =>
    rw [weight_cons]
    by_cases h : c = '/' ∨ c = '\\'
    · rw [readSegments_slash_cons h, segmentsText_cons, List.nil_append, List.length_cons, ih,
        charWeight_of_slash h]
      omega
    · obtain ⟨f, fs, hfs⟩ := List.exists_cons_of_ne_nil (readSegments_ne_nil cs)
      rw [hfs, segmentsText_cons, List.length_cons, List.length_append] at ih
      rw [readSegments_cons h, hfs, List.modifyHead_cons, segmentsText_cons, List.length_cons,
        List.length_append, List.length_append, charWeight_of_not h]
      omega

/-- A character that is not kept in a segment: it separates segments or escapes. -/
def isSign (c : Char) : Bool := ['/', '\\', '%'].contains c

/-- A character of a segment never gets longer than its escape, and gets shorter if it is a sign. -/
theorem charWeight_le (c : Char) :
    charWeight c + (if isSign c then 1 else 0) ≤ (percentEncode escapedInSegment [c]).length := by
  cases hsign : isSign c with
  | true =>
    have hthree := three_le_length_percentEncode_singleton (p := escapedInSegment) (c := c)
      (by rw [escapedInSegment, ← isSign, hsign, Bool.or_true])
    have hweight : charWeight c = 1 := by
      rw [isSign, List.contains_iff_mem] at hsign
      simp only [List.mem_cons, List.not_mem_nil, or_false] at hsign
      rcases hsign with rfl | rfl | rfl <;> rfl
    rw [hweight, if_pos rfl]
    omega
  | false =>
    have hslash : ¬ (c = '/' ∨ c = '\\') := by
      rintro (rfl | rfl) <;> cases hsign
    have henc : percentEncode escapedInPath [c] = percentEncode escapedInSegment [c] := by
      refine percentEncode_congr fun d hd => ?_
      rw [List.mem_singleton.mp hd, escapedInSegment, ← isSign, hsign, Bool.or_false]
    rw [charWeight_of_not hslash, henc]
    simp

theorem weight_add_countP_le (cs : List Char) :
    weight cs + cs.countP isSign ≤ (percentEncode escapedInSegment cs).length := by
  induction cs with
  | nil => exact Nat.le_refl _
  | cons c cs ih =>
    have hc := charWeight_le c
    rw [weight_cons, percentEncode_cons, List.length_append, List.countP_cons]
    omega

/-- The text of segments gets no longer than the text of the escaped segments, and gets shorter by
one character at least for each sign in them. -/
theorem weight_segmentsText_le (ts : List (List Char)) :
    weight (segmentsText ts) + ts.flatten.countP isSign ≤
      (segmentsText (ts.map (percentEncode escapedInSegment))).length := by
  induction ts with
  | nil => exact Nat.le_refl _
  | cons t ts ih =>
    have ht := weight_add_countP_le t
    rw [segmentsText_cons, weight_cons, weight_append, charWeight_of_slash (.inl rfl),
      List.flatten_cons, List.countP_append, List.map_cons, segmentsText_cons, List.length_cons,
      List.length_append]
    omega

/-! ### What is kept -/

theorem slash_notMem (h : ∀ c ∈ cs, isSign c = false) : '/' ∉ cs := fun hc => by cases h _ hc

theorem backslash_notMem (h : ∀ c ∈ cs, isSign c = false) : '\\' ∉ cs := fun hc => by cases h _ hc

theorem percent_notMem (h : ∀ c ∈ cs, isSign c = false) : '%' ∉ cs := fun hc => by cases h _ hc

/-- Without signs, a segment is escaped like the rest of a path. -/
theorem percentEncode_escapedInSegment (h : ∀ c ∈ cs, isSign c = false) :
    percentEncode escapedInSegment cs = percentEncode escapedInPath cs := by
  refine percentEncode_congr fun c hc => ?_
  rw [escapedInSegment, ← isSign, h c hc, Bool.or_false]

/-- When the segments that were meant come out of a path as they are: nothing of their text is
missing, no segment has a sign in it, and none is dots. -/
theorem normalizeAfter_eq_iff (hts : ts ≠ []) (hk : ('/' :: k).Sublist (segmentsText ts)) :
    normalizeAfter done (readSegments k) =
        done.reverse ++ ts.map (percentEncode escapedInSegment) ↔
      '/' :: k = segmentsText ts ∧ (∀ t ∈ ts, ∀ c ∈ t, isSign c = false) ∧
        ∀ t ∈ ts, t ≠ ['.'] ∧ t ≠ ['.', '.'] := by
  have hdot : escapedInPath '.' = false := by decide
  constructor
  · intro h
    -- the lengths leave no room for any change
    have hnormal := length_normalizeAfter_le done (readSegments k)
    have hpart := weight_le_of_sublist hk
    have hshort := hk.length_le
    have htext := weight_segmentsText_le ts
    rw [h, segmentsText_append, List.length_append, length_segmentsText_reverse,
      length_readSegments] at hnormal
    rw [weight_cons, charWeight_of_slash (.inl rfl)] at hpart
    have hkept : '/' :: k = segmentsText ts := hk.eq_of_length (by omega)
    have hsigns : ts.flatten.countP isSign = 0 := by omega
    have hdots : (readSegments k).countP isDots = 0 := by omega
    have hsign : ∀ t ∈ ts, ∀ c ∈ t, isSign c = false := fun t ht c hc =>
      Bool.not_eq_true _ ▸ List.countP_eq_zero.mp hsigns c (List.mem_flatten_of_mem ht hc)
    refine ⟨hkept, hsign, fun t ht => ?_⟩
    rw [readSegments_segmentsText hts hkept (fun t ht => slash_notMem (hsign t ht))
      (fun t ht => backslash_notMem (hsign t ht))] at hdots
    have hnot := List.countP_eq_zero.mp hdots _ (List.mem_map_of_mem ht)
    rw [isDots_percentEncode hdot (percent_notMem (hsign t ht))] at hnot
    exact not_or.mp hnot
  · rintro ⟨hkept, hsign, hdots⟩
    rw [readSegments_segmentsText hts hkept (fun t ht => slash_notMem (hsign t ht))
      (fun t ht => backslash_notMem (hsign t ht)), normalizeAfter_eq]
    · congr 1
      exact List.map_congr_left fun t ht => (percentEncode_escapedInSegment (hsign t ht)).symm
    · intro s hs
      obtain ⟨t, ht, rfl⟩ := List.mem_map.mp hs
      rw [← Bool.not_eq_true, isDots_percentEncode hdot (percent_notMem (hsign t ht))]
      exact not_or.mpr (hdots t ht)

theorem pathSegments_true (cs : List Char) :
    pathSegments true cs = normalizeAfter [] (readSegments cs) := rfl

end Catalog.Url
