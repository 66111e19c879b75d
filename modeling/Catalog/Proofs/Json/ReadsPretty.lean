import Catalog.Proofs.Json.Bounded
import Catalog.Proofs.Json.ReadsNumber
import Catalog.Proofs.Json.ReadsString

/-!
# Indented documents read back

The indented form of a document reads back as the document if its keys are distinct, its numbers
read back and its containers do not nest too deep. The loops over items and over members are treated
for any reader of an item or a member, so that they serve the layouts as well.

## Main definitions

* `Reader.ReadsEach` — a reader of members reads them one after another.
* `Reader.commaTail` — what stands after the first item or member.

## Main results

* `Reader.reads_items`, `Reader.reads_membersWith` — arrays and objects.
* `Reader.reads_value` — **the indented form of a document reads back.**
* `parse_pretty` — a whole text.
-/

namespace Catalog.Json

namespace Reader

open Text

variable {α β σ : Type} {P : List UInt8 → Prop} {text rest gap close : List UInt8} {byte b : UInt8}
  {n : Nat}

/-! ### Blanks -/

/-- A blank before a reader that moves over blanks. -/
theorem Reads.blank {g : Option Char → Reader β} {x : β} (hbyte : ¬ IsBlank byte)
    (h : Reads P (peekToken? >>= g) (byte :: text) x) :
    Reads P (peekToken? >>= g) (0x20 :: byte :: text) x := by
  have hspace : ∀ c ∈ [0x20], IsBlank c := List.forall_mem_singleton.mpr (by decide)
  refine Reads.peekToken hspace hbyte fun rest p size hrest hsize => ?_
  -- there are no more blanks to move over
  have hskip : Cursor.skipWhile (fun c => c == ' ' || c == '\n' || c == '\t' || c == '\r')
      ⟨byte :: text ++ rest, p, size⟩ = ⟨byte :: text ++ rest, p, size⟩ := by
    have hstop : (Char.ofUInt8 byte == ' ' || Char.ofUInt8 byte == '\n' || Char.ofUInt8 byte == '\t'
        || Char.ofUInt8 byte == '\r') = false := Bool.eq_false_iff.mpr hbyte
    simp only [Cursor.skipWhile, List.cons_append, List.takeWhile_cons, hstop, Bool.false_eq_true,
      if_false]
    rfl
  have hpeek : peekToken?.run ⟨byte :: text ++ rest, p, size⟩ =
      .ok (some (Char.ofUInt8 byte), ⟨byte :: text ++ rest, p, size⟩) := by
    simp only [peekToken?, peek?, StateT.run_bind, StateT.run_modify, StateT.run_get, pure_bind,
      hskip, Cursor.peek?]
    rfl
  obtain ⟨q, hq⟩ := h rest p size hrest hsize
  rw [StateT.run_bind, hpeek] at hq
  exact ⟨q, hq⟩

/-- Neither a blank nor a mark after blanks continues a number. -/
theorem endsNumber_blanks (hclose : ∀ c ∈ close, IsBlank c) (hb : ¬ IsNumberByte b) :
    EndsNumber (close ++ b :: rest) := by
  intro c hc
  cases close with
  | nil =>
    obtain rfl := Option.some.inj hc
    exact hb
  | cons c' close =>
    obtain rfl := Option.some.inj hc
    exact not_isNumberByte_of_isBlank (hclose c' List.mem_cons_self)

/-- A comma before each of the texts, and a closing bracket. -/
def commaTail (gap close : List UInt8) (bracket : UInt8) (texts : List (List UInt8)) : List UInt8 :=
  texts.flatMap (fun t => 0x2c :: (gap ++ t)) ++ (close ++ [bracket])

/-- What stands after an item does not continue a number. -/
theorem endsNumber_commaTail (hclose : ∀ c ∈ close, IsBlank c) (hb : ¬ IsNumberByte b)
    (texts : List (List UInt8)) : EndsNumber (commaTail gap close b texts ++ rest) := by
  cases texts with
  | nil =>
    rw [commaTail, List.flatMap_nil, List.nil_append, List.append_assoc]
    exact endsNumber_blanks hclose hb
  | cons t texts =>
    intro c hc
    obtain rfl := Option.some.inj hc
    decide

theorem length_lt_commaTail (gap close : List UInt8) (bracket : UInt8) (texts : List (List UInt8)) :
    texts.length < (commaTail gap close bracket texts).length := by
  rw [commaTail, List.length_append, List.length_append]
  have hle : texts.length ≤ (texts.flatMap fun t => 0x2c :: (gap ++ t)).length := by
    induction texts with
    | nil => exact Nat.le_refl 0
    | cons t texts ih =>
      rw [List.flatMap_cons, List.length_append, List.length_cons, List.length_cons]
      omega
  rw [List.length_singleton]
  omega

/-! ### Arrays -/

/-- The text starts with neither a blank nor the end of an array. -/
def StartsItem (text : List UInt8) : Prop :=
  ∃ b more, text = b :: more ∧ ¬ IsBlank b ∧ Char.ofUInt8 b ≠ ']'

/-- The items after the first one. -/
theorem reads_itemsUntilEnd {item : Reader α} (hgap : ∀ c ∈ gap, IsBlank c)
    (hclose : ∀ c ∈ close, IsBlank c) {texts : List (List UInt8)} {xs : List α}
    (h : List.Forall₂ (fun t x => StartsItem t ∧ Reads EndsNumber item t x) texts xs)
    (acc : List α) (hacc : acc.isEmpty = false) (hn : texts.length < n) :
    Reads Anything (itemsUntilEnd item n acc) (commaTail gap close 0x5d texts)
      (acc.reverse ++ xs) := by
  induction h generalizing acc n with
  | nil =>
    obtain ⟨n, rfl⟩ := Nat.exists_eq_succ_of_ne_zero (Nat.ne_zero_of_lt hn)
    rw [commaTail, List.append_nil, List.flatMap_nil, List.nil_append]
    refine Reads.peekToken hclose (by decide) (Reads.skip ?_)
    exact reads_pure acc.reverse
  | @cons t x texts xs hx hxs ih =>
    obtain ⟨n, rfl⟩ := Nat.exists_eq_succ_of_ne_zero (Nat.ne_zero_of_lt hn)
    obtain ⟨⟨b, more, rfl, hblank, hend⟩, hitem⟩ := hx
    have hrest := ih (x :: acc) rfl (Nat.lt_of_succ_lt_succ hn)
    rw [List.reverse_cons, List.append_assoc] at hrest
    have hnext : Reads Anything (item >>= fun x => itemsUntilEnd item n (x :: acc))
        (b :: more ++ commaTail gap close 0x5d texts) (acc.reverse ++ x :: xs) :=
      hitem.bind hrest fun rest _ => endsNumber_commaTail hclose (by decide) texts
    have htext : commaTail gap close 0x5d ((b :: more) :: texts) =
        0x2c :: (gap ++ b :: (more ++ commaTail gap close 0x5d texts)) := by
      simp [commaTail]
    rw [htext]
    refine Reads.token (by decide) ?_
    have hcomma : Char.ofUInt8 0x2c = ',' := by decide
    simp only [hcomma, hacc, Bool.false_eq_true, if_false]
    refine Reads.skip (Reads.peekToken hgap hblank ?_)
    -- the byte ahead starts an item, so the array does not end here
    split
    · next h => cases h
    · next h => exact absurd (Option.some.inj h) hend
    · exact hnext

/-- The items of an array after its opening bracket. -/
theorem reads_items {item : Reader α} (hgap : ∀ c ∈ gap, IsBlank c)
    (hclose : ∀ c ∈ close, IsBlank c)
    {t : List UInt8} {texts : List (List UInt8)} {x : α} {xs : List α}
    (hstart : StartsItem t) (hitem : Reads EndsNumber item t x)
    (h : List.Forall₂ (fun t x => StartsItem t ∧ Reads EndsNumber item t x) texts xs) :
    Reads Anything (items item) (gap ++ (t ++ commaTail gap close 0x5d texts)) (x :: xs) := by
  obtain ⟨b, more, rfl, hblank, hend⟩ := hstart
  refine Reads.fuel fun n hn => ?_
  have hlength := length_lt_commaTail gap close 0x5d texts
  simp only [List.length_append, List.length_cons] at hn
  obtain ⟨n, rfl⟩ := Nat.exists_eq_succ_of_ne_zero (Nat.ne_zero_of_lt hn)
  have hrest := reads_itemsUntilEnd (n := n) hgap hclose h [x] rfl (by omega)
  have hnext : Reads Anything (item >>= fun x => itemsUntilEnd item n [x])
      (b :: more ++ commaTail gap close 0x5d texts) (x :: xs) :=
    hitem.bind hrest fun rest _ => endsNumber_commaTail hclose (by decide) texts
  refine Reads.peekToken hgap hblank ?_
  split
  · next h => cases h
  · next h => exact absurd (Option.some.inj h) hend
  · exact hnext

/-- The empty array. -/
theorem reads_items_nil (item : Reader α) : Reads Anything (items item) [0x5d] [] :=
  Reads.fuel fun n hn => by
    obtain ⟨n, rfl⟩ := Nat.exists_eq_succ_of_ne_zero (Nat.ne_zero_of_lt hn)
    exact Reads.token (by decide) (Reads.skip (reads_pure []))

/-! ### Objects -/

/-- The reader of members reads each of them, a key and a text, one after another. -/
def ReadsEach (member : σ → String → Reader σ) : σ → List (String × List UInt8) → σ → Prop
  | state, [], last => last = state
  | state, (key, text) :: entries, last =>
    ∃ next, Reads EndsNumber (member state key) text next ∧ ReadsEach member next entries last

/-- The text of a member. -/
def entryText (entry : String × List UInt8) : List UInt8 := utf8 (quote entry.1).toList ++ entry.2

/-- A member, with its key after the opening quote, and what is read after it. -/
theorem reads_entry {member : σ → String → Reader σ} {f : σ → Reader β} {state next : σ}
    {key : String} {more : List UInt8} {x : β}
    (hmember : Reads EndsNumber (member state key) text next)
    (hrest : Reads Anything (f next) more x) (hends : ∀ rest, EndsNumber (more ++ rest)) :
    Reads Anything (do skip; f (← member state (← stringBody)))
      (entryText (key, text) ++ more) x := by
  have hnext : Reads Anything (member state key >>= f) (text ++ more) x :=
    hmember.bind hrest fun rest _ => hends rest
  have hkey : Reads Anything (stringBody >>= fun key => member state key >>= f)
      (utf8 (key.toList.flatMap escapeChar) ++ [0x22] ++ (text ++ more)) x :=
    (reads_stringBody key).bind hnext fun _ _ => trivial
  have htext : entryText (key, text) ++ more =
      0x22 :: (utf8 (key.toList.flatMap escapeChar) ++ [0x22] ++ (text ++ more)) := by
    simp [entryText, utf8_quote]
  rw [htext]
  exact Reads.skip hkey

/-- A member starts with a quote. -/
theorem exists_entryText_eq_cons (entry : String × List UInt8) (more : List UInt8) :
    ∃ text, entryText entry ++ more = 0x22 :: text := by
  rw [entryText, utf8_quote]
  exact ⟨_, rfl⟩

/-- The members after the first one. -/
theorem reads_membersUntilEnd {member : σ → String → Reader σ} (hgap : ∀ c ∈ gap, IsBlank c)
    (hclose : ∀ c ∈ close, IsBlank c) {entries : List (String × List UInt8)} {state last : σ}
    (h : ReadsEach member state entries last) (hn : entries.length < n) :
    Reads Anything (membersUntilEnd member n false state)
      (commaTail gap close 0x7d (entries.map entryText)) last := by
  induction entries generalizing state n with
  | nil =>
    obtain ⟨n, rfl⟩ := Nat.exists_eq_succ_of_ne_zero (Nat.ne_zero_of_lt hn)
    rw [List.map_nil, commaTail, List.flatMap_nil, List.nil_append, show last = state from h]
    exact Reads.peekToken hclose (by decide) (Reads.skip (reads_pure state))
  | cons entry entries ih =>
    obtain ⟨n, rfl⟩ := Nat.exists_eq_succ_of_ne_zero (Nat.ne_zero_of_lt hn)
    obtain ⟨key, text⟩ := entry
    obtain ⟨next, hmember, hentries⟩ := h
    have hrest := ih hentries (Nat.lt_of_succ_lt_succ hn)
    have hnext := reads_entry (f := membersUntilEnd member n false) hmember hrest
      fun rest => endsNumber_commaTail hclose (by decide) _
    obtain ⟨more, hmore⟩ := exists_entryText_eq_cons (key, text)
      (commaTail gap close 0x7d (entries.map entryText))
    have htext : commaTail gap close 0x7d (((key, text) :: entries).map entryText) =
        0x2c :: (gap ++ 0x22 :: more) := by
      rw [← hmore]
      simp [commaTail]
    rw [hmore] at hnext
    rw [htext]
    refine Reads.token (by decide) ?_
    have hcomma : Char.ofUInt8 0x2c = ',' := by decide
    simp only [hcomma, Bool.false_eq_true, if_false]
    exact Reads.skip (Reads.peekToken hgap (by decide) hnext)

/-- The members of an object after its opening bracket. -/
theorem reads_membersWith {member : σ → String → Reader σ} (hgap : ∀ c ∈ gap, IsBlank c)
    (hclose : ∀ c ∈ close, IsBlank c) {entry : String × List UInt8}
    {entries : List (String × List UInt8)} {state last : σ}
    (h : ReadsEach member state (entry :: entries) last) :
    Reads Anything (membersWith member state)
      (gap ++ (entryText entry ++ commaTail gap close 0x7d (entries.map entryText))) last := by
  obtain ⟨key, text⟩ := entry
  obtain ⟨next, hmember, hentries⟩ := h
  refine Reads.fuel fun n hn => ?_
  have hlength := length_lt_commaTail gap close 0x7d (entries.map entryText)
  rw [List.length_map] at hlength
  rw [List.length_append, List.length_append] at hn
  obtain ⟨n, rfl⟩ := Nat.exists_eq_succ_of_ne_zero (Nat.ne_zero_of_lt hn)
  obtain ⟨more, hmore⟩ := exists_entryText_eq_cons (key, text)
    (commaTail gap close 0x7d (entries.map entryText))
  -- each member has a text, so there are enough steps for all of them
  have hpos : 0 < (entryText (key, text)).length := by
    simp [entryText, utf8_quote]
  have hrest := reads_membersUntilEnd (n := n) hgap hclose hentries (by omega)
  have hnext := reads_entry (f := membersUntilEnd member n false) hmember hrest
    fun rest => endsNumber_commaTail hclose (by decide) _
  rw [hmore] at hnext ⊢
  exact Reads.peekToken hgap (by decide) hnext

/-- The empty object. -/
theorem reads_membersWith_nil (member : σ → String → Reader σ) (state : σ) :
    Reads Anything (membersWith member state) [0x7d] state :=
  Reads.fuel fun n hn => by
    obtain ⟨n, rfl⟩ := Nat.exists_eq_succ_of_ne_zero (Nat.ne_zero_of_lt hn)
    exact Reads.token (by decide) (Reads.skip (reads_pure state))

/-! ### Indented forms -/

/-- The bytes of an indented form. -/
def prettyText (level : Nat) (v : Json) : List UInt8 := utf8 (prettyAt level v).toList

/-- The bytes of a new line. -/
def lineText (level : Nat) : List UInt8 := utf8 (newline level).toList

theorem isBlank_of_mem_lineText (level : Nat) : ∀ c ∈ lineText level, IsBlank c := by
  intro c hc
  have hline : (newline level).toList = '\n' :: List.replicate (2 * level) ' ' := by
    simp [newline]
  rw [lineText, hline, utf8_cons, List.mem_append] at hc
  rcases hc with hc | hc
  · rw [List.mem_singleton.mp (show c ∈ [0x0a] from hc)]
    decide
  · obtain ⟨d, hd, hcd⟩ := List.mem_flatMap.mp hc
    rw [List.eq_of_mem_replicate hd] at hcd
    rw [List.mem_singleton.mp (show c ∈ [0x20] from hcd)]
    decide

theorem utf8_intercalate (s t : String) (ts : List String) :
    utf8 (String.intercalate s (t :: ts)).toList =
      utf8 t.toList ++ ts.flatMap fun t => utf8 s.toList ++ utf8 t.toList := by
  induction ts generalizing t with
  | nil => simp
  | cons t' ts ih =>
    rw [String.intercalate_cons_cons, String.toList_append, String.toList_append, utf8_append,
      utf8_append, ih, List.flatMap_cons, List.append_assoc, List.append_assoc]

theorem prettyItems_eq_map (level : Nat) (xs : List Json) :
    prettyItems level xs = xs.map (prettyAt level) := by
  induction xs with
  | nil => rfl
  | cons x xs ih => rw [prettyItems, ih, List.map_cons]

theorem prettyMembers_eq_map (level : Nat) (ms : Members) :
    prettyMembers level ms = ms.map fun m => quote m.1 ++ ": " ++ prettyAt level m.2 := by
  induction ms with
  | nil => rfl
  | cons m ms ih =>
    obtain ⟨k, v⟩ := m
    rw [prettyMembers, ih, List.map_cons]

theorem prettyText_null (level : Nat) : prettyText level null = [0x6e, 0x75, 0x6c, 0x6c] := by
  rw [prettyText, prettyAt]
  decide

theorem prettyText_true (level : Nat) :
    prettyText level (bool true) = [0x74, 0x72, 0x75, 0x65] := by
  rw [prettyText, prettyAt]
  decide

theorem prettyText_false (level : Nat) :
    prettyText level (bool false) = [0x66, 0x61, 0x6c, 0x73, 0x65] := by
  rw [prettyText, prettyAt]
  decide

theorem prettyText_arr_nil (level : Nat) : prettyText level (arr []) = [0x5b, 0x5d] := by
  rw [prettyText, prettyAt]
  decide

theorem prettyText_obj_nil (level : Nat) : prettyText level (obj []) = [0x7b, 0x7d] := by
  rw [prettyText, prettyAt]
  decide

/-- An array item by item. -/
theorem prettyText_arr_cons (level : Nat) (x : Json) (xs : List Json) :
    prettyText level (arr (x :: xs)) =
      0x5b :: (lineText (level + 1) ++ (prettyText (level + 1) x ++
        commaTail (lineText (level + 1)) (lineText level) 0x5d
          (xs.map (prettyText (level + 1))))) := by
  have hopen : utf8 "[".toList = [0x5b] := by decide
  have hclose : utf8 "]".toList = [0x5d] := by decide
  have hcomma : utf8 ",".toList = [0x2c] := by decide
  rw [prettyText, prettyAt]
  · simp only [String.toList_append, utf8_append, prettyItems_eq_map, List.map_cons,
      utf8_intercalate, hopen, hclose, hcomma, commaTail, List.flatMap_map, List.append_assoc,
      lineText, prettyText, List.cons_append, List.nil_append]
  · intro h
    cases h

/-- A member after its key. -/
def memberText (level : Nat) (m : String × Json) : String × List UInt8 :=
  (m.1, 0x3a :: 0x20 :: prettyText level m.2)

/-- An object member by member. -/
theorem prettyText_obj_cons (level : Nat) (m : String × Json) (ms : Members) :
    prettyText level (obj (m :: ms)) =
      0x7b :: (lineText (level + 1) ++ (entryText (memberText (level + 1) m) ++
        commaTail (lineText (level + 1)) (lineText level) 0x7d
          ((ms.map (memberText (level + 1))).map entryText))) := by
  have hopen : utf8 "\x7b".toList = [0x7b] := by decide
  have hclose : utf8 "\x7d".toList = [0x7d] := by decide
  have hcomma : utf8 ",".toList = [0x2c] := by decide
  have hcolon : utf8 ": ".toList = [0x3a, 0x20] := by decide
  rw [prettyText, prettyAt]
  · simp only [String.toList_append, utf8_append, prettyMembers_eq_map, List.map_cons,
      utf8_intercalate, hopen, hclose, hcomma, hcolon, commaTail, List.flatMap_map, List.map_map,
      List.append_assoc, lineText, prettyText, List.cons_append, memberText,
      entryText, Function.comp_def, List.nil_append]
  · intro h
    cases h

/-! ### Documents -/

/-- The rest of a word in the place of a document. -/
theorem reads_word_pure (cs : List Char) (hcs : ∀ c ∈ cs, c.toNat < 0x80) (v : Json) :
    Reads EndsNumber (do word cs; return v) (cs.map fun c => c.toNat.toUInt8) v := by
  exact (reads_word cs hcs).bind_nil (reads_pure v) fun _ _ => trivial

theorem reads_value_null (depth : Nat) :
    Reads EndsNumber (value depth) [0x6e, 0x75, 0x6c, 0x6c] null := by
  rw [value.eq_def]
  exact Reads.token (by decide) (Reads.skip (reads_word_pure ['u', 'l', 'l'] (by simp) null))

theorem reads_value_true (depth : Nat) :
    Reads EndsNumber (value depth) [0x74, 0x72, 0x75, 0x65] (bool true) := by
  rw [value.eq_def]
  exact Reads.token (by decide)
    (Reads.skip (reads_word_pure ['r', 'u', 'e'] (by simp) (bool true)))

theorem reads_value_false (depth : Nat) :
    Reads EndsNumber (value depth) [0x66, 0x61, 0x6c, 0x73, 0x65] (bool false) := by
  rw [value.eq_def]
  exact Reads.token (by decide)
    (Reads.skip (reads_word_pure ['a', 'l', 's', 'e'] (by simp) (bool false)))

theorem reads_value_str (depth : Nat) (s : String) :
    Reads EndsNumber (value depth) (utf8 (quote s).toList) (str s) := by
  rw [value.eq_def, utf8_quote]
  have hbody := (reads_stringBody s).map (g := str)
  exact Reads.token (by decide) (Reads.skip (hbody.mono fun _ _ => trivial))

theorem reads_value_arr {depth : Nat} {text : List UInt8} {xs : List Json}
    (h : Reads Anything (items (value depth)) text xs) :
    Reads EndsNumber (value (depth + 1)) (0x5b :: text) (arr xs) := by
  rw [value.eq_def]
  exact Reads.token (by decide) (Reads.skip ((h.map (g := arr)).mono fun _ _ => trivial))

theorem reads_value_obj {depth : Nat} {text : List UInt8} {ms : Members}
    (h : Reads Anything (members (value depth)) text ms) :
    Reads EndsNumber (value (depth + 1)) (0x7b :: text) (obj ms) := by
  rw [value.eq_def]
  exact Reads.token (by decide) (Reads.skip ((h.map (g := obj)).mono fun _ _ => trivial))

theorem startsItem_cons (hb : ¬ IsBlank b) (hend : Char.ofUInt8 b ≠ ']') :
    StartsItem (b :: text) :=
  ⟨b, text, rfl, hb, hend⟩

/-- A number that reads back has a text. -/
theorem startsItem_number {m : Number} (h : m.ReadsBack) : StartsItem (utf8 m.text.toList) := by
  rw [Number.ReadsBack, parse, toUTF8_toList] at h
  have hbytes : ∀ b ∈ utf8 m.text.toList, IsNumberByte b := fun b => m.isNumberByte_of_mem_text
  generalize utf8 m.text.toList = text at h hbytes
  cases text with
  -- an empty text is no number
  | nil =>
    obtain ⟨c, hvalue, -⟩ := readAll_eq_ok_iff.mp h
    rw [run_value_eq_num_iff] at hvalue
    cases hvalue
  | cons b text =>
    have hb := hbytes b List.mem_cons_self
    refine startsItem_cons (fun hblank => not_isNumberByte_of_isBlank hblank hb) fun hend => ?_
    rw [IsNumberByte, hend] at hb
    exact absurd hb (by decide)

/-- A colon and the value of a member. -/
theorem reads_colon {item : Reader Json} {v : Json} (h : Reads EndsNumber item text v)
    (ms : Members) (key : String) :
    Reads EndsNumber (do colon; return Members.set ms key (← item)) (0x3a :: text)
      (Members.set ms key v) := by
  have hcolon : Reads Anything colon [0x3a] () := Reads.token (by decide) reads_skip
  have hset : Reads EndsNumber (do return Members.set ms key (← item)) text
      (Members.set ms key v) := h.map (g := Members.set ms key)
  exact hcolon.bind hset fun _ _ => trivial

/-- Members with distinct keys are read one after another. -/
theorem readsEach_members {member : Members → String → Reader Members} {level : Nat}
    {ms : Members} (start : Members) (hkeys : (start ++ ms).keys.Nodup)
    (hmember : ∀ m ∈ ms, ∀ start : Members, m.1 ∉ start.keys →
      Reads EndsNumber (member start m.1) (0x3a :: 0x20 :: prettyText level m.2)
        (start.set m.1 m.2)) :
    ReadsEach member start (ms.map (memberText level)) (start ++ ms) := by
  induction ms generalizing start with
  | nil => exact List.append_nil start
  | cons m ms ih =>
    -- the key is new, so setting the member puts it at the end
    have hnew : m.1 ∉ start.keys := by
      rw [Members.keys, List.map_append, List.map_cons] at hkeys
      exact fun hmem => List.disjoint_of_nodup_append hkeys hmem List.mem_cons_self
    have hmembers : start ++ m :: ms = start ++ [m] ++ ms := by
      rw [List.append_assoc, List.singleton_append]
    rw [hmembers] at hkeys ⊢
    refine ⟨start ++ [m], ?_, ih _ hkeys fun m' hm' => hmember m' (List.mem_cons_of_mem _ hm')⟩
    rw [← Members.set_of_notMem hnew]
    exact hmember m List.mem_cons_self start hnew

/-- **The indented form of a document reads back** if its numbers do. -/
theorem reads_value {depth : Nat} {v : Json} (h : Bounded Number.ReadsBack depth v) (level : Nat) :
    StartsItem (prettyText level v) ∧ Reads EndsNumber (value depth) (prettyText level v) v := by
  induction h generalizing level with
  | null =>
    rw [prettyText_null]
    exact ⟨startsItem_cons (by decide) (by decide), reads_value_null _⟩
  | bool b =>
    cases b with
    | true =>
      rw [prettyText_true]
      exact ⟨startsItem_cons (by decide) (by decide), reads_value_true _⟩
    | false =>
      rw [prettyText_false]
      exact ⟨startsItem_cons (by decide) (by decide), reads_value_false _⟩
  | num number =>
    rw [prettyText, prettyAt]
    exact ⟨startsItem_number number, reads_value_number number _⟩
  | str s =>
    rw [prettyText, prettyAt]
    refine ⟨?_, reads_value_str _ s⟩
    rw [utf8_quote]
    exact startsItem_cons (by decide) (by decide)
  | @arr depth xs items ih =>
    cases xs with
    | nil =>
      rw [prettyText_arr_nil]
      exact ⟨startsItem_cons (by decide) (by decide), reads_value_arr (reads_items_nil _)⟩
    | cons x xs =>
      obtain ⟨hstart, hitem⟩ := ih x List.mem_cons_self (level + 1)
      rw [prettyText_arr_cons]
      refine ⟨startsItem_cons (by decide) (by decide), reads_value_arr ?_⟩
      refine reads_items (isBlank_of_mem_lineText _)
        (isBlank_of_mem_lineText _) hstart hitem ?_
      rw [List.forall₂_map_left_iff, List.forall₂_same]
      exact fun x hx => ih x (List.mem_cons_of_mem _ hx) (level + 1)
  | @obj depth ms keys values ih =>
    cases ms with
    | nil =>
      rw [prettyText_obj_nil]
      exact ⟨startsItem_cons (by decide) (by decide), reads_value_obj (reads_membersWith_nil _ _)⟩
    | cons m ms =>
      rw [prettyText_obj_cons]
      refine ⟨startsItem_cons (by decide) (by decide), reads_value_obj ?_⟩
      refine reads_membersWith (isBlank_of_mem_lineText _)
        (isBlank_of_mem_lineText _) ?_
      refine readsEach_members [] keys fun m hm start _ => reads_colon ?_ start m.1
      -- a blank stands between the colon and the value
      obtain ⟨⟨b, more, htext, hblank, -⟩, hitem⟩ := ih m hm (level + 1)
      rw [htext] at hitem ⊢
      rw [value.eq_def] at hitem ⊢
      exact Reads.blank hblank hitem

end Reader

/-- The indented form of a document, as a whole text, reads back. -/
theorem parse_pretty {v : Json} (h : Bounded Number.ReadsBack Reader.maxDepth v) :
    parse v.pretty = .ok v := by
  rw [parse, parseBytes, Text.toUTF8_toList]
  exact (Reader.reads_value h 0).2.readAll Reader.endsNumber_nil

end Catalog.Json
