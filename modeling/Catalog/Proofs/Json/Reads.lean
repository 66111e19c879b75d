import Catalog.Json.Reader
import Catalog.Proofs.Json.Accepts
import Catalog.Proofs.Text.Bytes

/-!
# Readers that succeed

A reader reads certain bytes when it moves over just these bytes and gives a certain result,
wherever they stand in a text. What may follow the bytes is part of the statement, because a number
only ends before something that cannot continue it. Readers one after another read their bytes one
after another, and the bound on the steps of a loop is never reached.

## Main definitions

* `Reader.Reads` — a reader reads the bytes given and yields the value given.
* `Reader.IsBlank` — a blank of the grammar.

## Main results

* `Reads.bind` — one reader after another.
* `Reads.peekToken`, `Reads.peek`, `Reads.next` — a reader that looks at the byte ahead.
* `Reads.fuel` — a reader that asks for a bound.
-/

namespace Catalog.Json

namespace Cursor

/-- Moving over a front of the bytes leaves the rest. -/
theorem exists_advance_append (front rest : List UInt8) (p : Position) (size : Nat) :
    ∃ q, advance ⟨front ++ rest, p, size⟩ front.length = ⟨rest, q, size⟩ := by
  induction front generalizing p with
  | nil => exact ⟨p, rfl⟩
  | cons b front ih => exact ih (p.after b)

/-- Moving over the bytes with a property stops at the first one without it. -/
theorem exists_skipWhile_append (f : Char → Bool) (front rest : List UInt8)
    (hfront : ∀ b ∈ front, f (Char.ofUInt8 b) = true)
    (hrest : ∀ b ∈ rest.head?, f (Char.ofUInt8 b) = false) (p : Position) (size : Nat) :
    ∃ q, skipWhile f ⟨front ++ rest, p, size⟩ = ⟨rest, q, size⟩ := by
  have htake : (front ++ rest).takeWhile (fun b => f (Char.ofUInt8 b)) = front := by
    rw [List.takeWhile_append_of_pos hfront]
    cases rest with
    | nil => simp
    | cons b rest => simp [hrest b rfl]
  rw [skipWhile, htake]
  exact exists_advance_append front rest p size

end Cursor

namespace Reader

variable {α β : Type}

/-- The reader moves over just the bytes `text`, before anything that may follow them, and yields
the value. -/
def Reads (Follows : List UInt8 → Prop) (reader : Reader α) (text : List UInt8) (a : α) : Prop :=
  ∀ (rest : List UInt8) (p : Position) (size : Nat), Follows rest →
    (text ++ rest).length ≤ size →
      ∃ q, reader.run ⟨text ++ rest, p, size⟩ = .ok (a, ⟨rest, q, size⟩)

/-- Anything may follow. -/
def Anything (_ : List UInt8) : Prop := True

/-- A blank of the grammar. -/
def IsBlank (b : UInt8) : Prop :=
  (Char.ofUInt8 b == ' ' || Char.ofUInt8 b == '\n' || Char.ofUInt8 b == '\t'
    || Char.ofUInt8 b == '\r') = true

instance (b : UInt8) : Decidable (IsBlank b) := inferInstanceAs (Decidable (_ = true))

variable {P Q : List UInt8 → Prop} {reader : Reader α} {f : α → Reader β} {a : α} {b : β}
  {text text' blanks : List UInt8} {byte : UInt8}

/-- A reader that fails yields nothing. -/
theorem run_failHere_ne (fault : Fault) (c : Cursor) (x : α × Cursor) :
    (failHere fault : Reader α).run c ≠ .ok x := by
  intro h
  cases h

theorem run_failAhead_ne (fault : Fault) (c : Cursor) (x : α × Cursor) :
    (failAhead fault : Reader α).run c ≠ .ok x := by
  intro h
  cases h

theorem Reads.mono (h : Reads P reader text a) (hPQ : ∀ rest, Q rest → P rest) :
    Reads Q reader text a :=
  fun rest p size hrest => h rest p size (hPQ rest hrest)

theorem reads_pure (a : α) : Reads P (pure a) [] a := by
  intro rest p size _ _
  exact ⟨p, rfl⟩

/-- One reader after another. -/
theorem Reads.bind (h : Reads P reader text a) (hf : Reads Q (f a) text' b)
    (hfollows : ∀ rest, Q rest → P (text' ++ rest)) :
    Reads Q (reader >>= f) (text ++ text') b := by
  intro rest p size hrest hsize
  rw [List.append_assoc] at hsize ⊢
  -- the first reader stops before the bytes of the second one
  obtain ⟨q, hq⟩ := h (text' ++ rest) p size (hfollows rest hrest) hsize
  have hsize' : (text' ++ rest).length ≤ size := by
    rw [List.length_append] at hsize
    omega
  obtain ⟨q', hq'⟩ := hf rest q size hrest hsize'
  refine ⟨q', ?_⟩
  rw [StateT.run_bind, hq]
  exact hq'

/-- One reader after another at the end of a text. -/
theorem Reads.bind_nil (h : Reads P reader text a) (hf : Reads Q (f a) [] b)
    (hfollows : ∀ rest, Q rest → P rest) : Reads Q (reader >>= f) text b := by
  rw [← List.append_nil text]
  exact h.bind hf hfollows

/-- A reader and then a result. -/
theorem Reads.map {g : α → β} (h : Reads P reader text a) :
    Reads P (do return g (← reader)) text (g a) := by
  have hbind : Reads P (reader >>= fun a => pure (g a)) (text ++ []) (g a) :=
    h.bind (reads_pure (g a)) fun rest hrest => hrest
  rwa [List.append_nil] at hbind

theorem reads_skip : Reads Anything skip [byte] () := by
  intro rest p size _ _
  exact ⟨p.after byte, rfl⟩

/-- Moving over a byte first. -/
theorem Reads.skip {r : Reader β} (h : Reads P r text b) :
    Reads P (do Reader.skip; r) (byte :: text) b :=
  reads_skip.bind h fun _ _ => trivial

/-- Looking at the byte ahead. -/
theorem Reads.peek {g : Option Char → Reader β}
    (h : Reads P (g (some (Char.ofUInt8 byte))) (byte :: text) b) :
    Reads P (peek? >>= g) (byte :: text) b := by
  intro rest p size hrest hsize
  exact h rest p size hrest hsize

/-- Reading the byte ahead. -/
theorem Reads.next {g : Option Char → Reader β}
    (h : Reads P (g (some (Char.ofUInt8 byte))) text b) :
    Reads P (next? >>= g) (byte :: text) b := by
  intro rest p size hrest hsize
  exact h rest (p.after byte) size hrest (Nat.le_of_succ_le hsize)

/-- The bytes with a property at the front of a text, and the rest. -/
theorem exists_eq_append (f : UInt8 → Prop) [DecidablePred f] (text : List UInt8) :
    ∃ front left, text = front ++ left ∧ (∀ b ∈ front, f b) ∧ ∀ b ∈ left.head?, ¬ f b := by
  induction text with
  | nil => exact ⟨[], [], rfl, List.forall_mem_nil _, fun b hb => by cases hb⟩
  | cons b text ih =>
    by_cases hb : f b
    · obtain ⟨front, left, rfl, hfront, hleft⟩ := ih
      exact ⟨b :: front, left, rfl, List.forall_mem_cons.mpr ⟨hb, hfront⟩, hleft⟩
    · refine ⟨[], b :: text, rfl, List.forall_mem_nil _, fun b' hb' => ?_⟩
      rwa [← Option.some.inj hb']

/-- Looking at the first byte after blanks moves over the blanks. -/
theorem run_peekToken? {front left : List UInt8} (hfront : ∀ b ∈ front, IsBlank b)
    (hleft : ∀ b ∈ left.head?, ¬ IsBlank b) (p : Position) (size : Nat) :
    ∃ q, peekToken?.run ⟨front ++ left, p, size⟩ =
      .ok (left.head?.map Char.ofUInt8, ⟨left, q, size⟩) := by
  obtain ⟨q, hq⟩ := Cursor.exists_skipWhile_append
    (fun c => c == ' ' || c == '\n' || c == '\t' || c == '\r') front left hfront
    (fun b hb => Bool.eq_false_iff.mpr (hleft b hb)) p size
  refine ⟨q, ?_⟩
  simp only [peekToken?, peek?, StateT.run_bind, StateT.run_modify, StateT.run_get, pure_bind, hq,
    Cursor.peek?]
  rfl

/-- Looking at the first byte after blanks. -/
theorem Reads.peekToken {g : Option Char → Reader β} (hblanks : ∀ c ∈ blanks, IsBlank c)
    (hbyte : ¬ IsBlank byte) (h : Reads P (g (some (Char.ofUInt8 byte))) (byte :: text) b) :
    Reads P (peekToken? >>= g) (blanks ++ byte :: text) b := by
  intro rest p size hrest hsize
  have hlength : (byte :: text ++ rest).length ≤ size := by
    simp only [List.length_append, List.length_cons] at hsize ⊢
    omega
  have hhead : ∀ c ∈ (byte :: text ++ rest).head?, ¬ IsBlank c := by
    intro c hc
    obtain rfl := Option.some.inj hc
    exact hbyte
  obtain ⟨q, hq⟩ := run_peekToken? hblanks hhead p size
  obtain ⟨q', hq'⟩ := h rest q size hrest hlength
  refine ⟨q', ?_⟩
  rw [List.append_assoc, StateT.run_bind, hq]
  exact hq'

/-- Looking at the first byte where no blank comes before it. -/
theorem Reads.token {g : Option Char → Reader β} (hbyte : ¬ IsBlank byte)
    (h : Reads P (g (some (Char.ofUInt8 byte))) (byte :: text) b) :
    Reads P (peekToken? >>= g) (byte :: text) b :=
  Reads.peekToken (List.forall_mem_nil _) hbyte h

/-- Asking for a bound on the steps that are left. -/
theorem Reads.fuel {g : Nat → Reader β}
    (h : ∀ n, text.length < n → Reads P (g n) text b) : Reads P (Reader.fuel >>= g) text b := by
  intro rest p size hrest hsize
  have hlt : text.length < size + 1 := by
    rw [List.length_append] at hsize
    omega
  exact h (size + 1) hlt rest p size hrest hsize

/-- The rest of a word of the grammar. -/
theorem reads_word (cs : List Char) (h : ∀ c ∈ cs, c.toNat < 0x80) :
    Reads Anything (word cs) (cs.map fun c => c.toNat.toUInt8) () := by
  induction cs with
  | nil => exact reads_pure ()
  | cons c cs ih =>
    obtain ⟨hc, hcs⟩ := List.forall_mem_cons.mp h
    rw [word, List.map_cons]
    refine Reads.next ?_
    rw [Text.ofUInt8_toUInt8 hc]
    simp only [if_true]
    exact ih hcs

/-! ### Whole texts -/

/-- Nothing but blanks may be left at the end. -/
theorem run_finish_eq_ok_iff {c : Cursor} :
    (∃ x, finish.run c = .ok x) ↔ ∀ b ∈ c.rest, IsBlank b := by
  obtain ⟨text, p, size⟩ := c
  obtain ⟨front, left, rfl, hfront, hleft⟩ := exists_eq_append IsBlank text
  obtain ⟨q, hq⟩ := run_peekToken? hfront hleft p size
  rw [finish, StateT.run_bind, hq]
  cases left with
  | nil =>
    -- only blanks are left, and they come before the end
    refine iff_of_true ⟨((), ⟨[], q, size⟩), rfl⟩ fun b hb => hfront b ?_
    rwa [List.append_nil] at hb
  | cons b left =>
    -- the byte that is left is reported
    refine iff_of_false ?_ fun h => hleft b rfl (h b (by simp))
    rintro ⟨x, hx⟩
    cases hx

end Reader

/-- A text is read as a whole when the reader leaves nothing but blanks. -/
theorem readAll_eq_ok_iff {α : Type} {reader : Reader α} {bytes : List UInt8} {a : α} :
    readAll reader bytes = .ok a ↔
      ∃ c, reader.run (Cursor.ofBytes bytes) = .ok (a, c) ∧ ∀ b ∈ c.rest, Reader.IsBlank b := by
  rw [readAll, StateT.run'_eq, StateT.run_bind, map_bind]
  constructor
  · intro h
    obtain ⟨⟨a', c⟩, hreader, hrest⟩ := bind_eq_ok_iff.mp h
    rw [StateT.run_bind, map_bind] at hrest
    obtain ⟨x, hfinish, hpure⟩ := bind_eq_ok_iff.mp hrest
    obtain rfl : a' = a := Except.ok.inj hpure
    exact ⟨c, hreader, Reader.run_finish_eq_ok_iff.mp ⟨x, hfinish⟩⟩
  · rintro ⟨c, hreader, hblanks⟩
    obtain ⟨x, hfinish⟩ := Reader.run_finish_eq_ok_iff.mpr hblanks
    rw [hreader]
    refine bind_eq_ok_iff.mpr ⟨(a, c), rfl, ?_⟩
    rw [StateT.run_bind, hfinish]
    rfl

/-- A reader that reads a whole text. -/
theorem Reader.Reads.readAll {α : Type} {P : List UInt8 → Prop} {reader : Reader α}
    {text : List UInt8} {a : α} (h : Reader.Reads P reader text a) (hP : P []) :
    readAll reader text = .ok a := by
  obtain ⟨q, hq⟩ := h [] Position.start text.length hP (by simp)
  rw [List.append_nil] at hq
  exact readAll_eq_ok_iff.mpr ⟨_, hq, List.forall_mem_nil _⟩

end Catalog.Json
