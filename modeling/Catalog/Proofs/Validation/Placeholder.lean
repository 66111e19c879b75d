import Catalog.Validation.Transport
import Mathlib.Data.List.Infix
import Mathlib.Data.List.Induction

/-!
# Placeholders of URLs

A URL is scanned once for its placeholders, character by character and without going back. The scan
finds every placeholder: a name has no braces, so whatever stands before it, it begins at the last
opening brace, and no two placeholders overlap.

The state of the scan after a text is what the end of the text says: the characters since the last
opening brace, as long as they can be a name. The laws of the scan are by induction on the text from
its end, where one more character is one more step.

## Main definitions

* `IsPlaceholder` — a text has a name in braces.
* `OccursFirst` — one name in braces occurs in a text before another one does.
* `PlaceholderScan.next`, `PlaceholderScan.name?` — a step of the scan: its next state, and the name
  that it completes.

## Main results

* `PlaceholderScan.stateAfter_eq_some_iff` — the state of the scan after a text.
* `PlaceholderScan.mem_placeholdersFrom_iff` — the scan finds the placeholders of a text.
* `PlaceholderScan.exists_prefix_placeholdersFrom` — it finds them in order.
* `mem_placeholders_iff`, `nodup_placeholders`, `pairwise_placeholders` — **the placeholders of a
  URL**, each once, in the order of their first occurrence.
-/

namespace Catalog

open Text

/-! ### Names in braces -/

/-- The characters of a name: neither braces nor blanks. -/
def IsNameChar (c : Char) : Prop := c ≠ '\x7b' ∧ c ≠ '\x7d' ∧ isBlank c = false

/-- A name in braces. -/
def braced (n : String) : List Char := '\x7b' :: n.toList ++ ['\x7d']

/-- A text has a name in braces. -/
structure IsPlaceholder (cs : List Char) (n : String) : Prop where
  ne_empty : n ≠ ""
  isNameChar : ∀ c ∈ n.toList, IsNameChar c
  occurs : braced n <:+: cs

/-- Some front of the text has the first name in braces, but not the second one. -/
def OccursFirst (cs : List Char) (m n : String) : Prop :=
  ∃ front, front <+: cs ∧ braced m <:+: front ∧ ¬ braced n <:+: front

variable {cs ds : List Char} {c d : Char} {n : String} {state : Option (List Char)}

theorem OccursFirst.irrefl : ¬ OccursFirst cs n n := fun ⟨_, _, hocc, hnot⟩ => hnot hocc

namespace PlaceholderScan

/-! ### Steps of the scan -/

/-- The state of the scan after one more character. -/
def next (state : Option (List Char)) (c : Char) : Option (List Char) :=
  if c = '\x7b' then some []
  else if c = '\x7d' then none
  else if isBlank c then none
  else state.map (c :: ·)

/-- The name that a character completes. -/
def name? (state : Option (List Char)) (c : Char) : Option String :=
  if c = '\x7d' then
    match state with
    | some (d :: ds) => some (String.ofList (d :: ds).reverse)
    | _ => none
  else none

/-- The state of the scan after a text. -/
def stateAfter (cs : List Char) : Option (List Char) := cs.foldl next none

theorem placeholdersFrom_cons (state : Option (List Char)) (c : Char) (cs : List Char) :
    placeholdersFrom state (c :: cs) =
      (name? state c).toList ++ placeholdersFrom (next state c) cs := by
  by_cases hopen : c = '\x7b'
  · have hclose : c ≠ '\x7d' := by rw [hopen]; decide
    cases state <;> simp [placeholdersFrom, name?, next, hopen]
  by_cases hclose : c = '\x7d'
  · cases state with
    | none => simp [placeholdersFrom, name?, next, hclose]
    | some ds => cases ds <;> simp [placeholdersFrom, name?, next, hclose]
  · cases state <;> cases hblank : isBlank c <;>
      simp [placeholdersFrom, name?, next, hopen, hclose, hblank]

theorem placeholdersFrom_append (state : Option (List Char)) (as bs : List Char) :
    placeholdersFrom state (as ++ bs) =
      placeholdersFrom state as ++ placeholdersFrom (as.foldl next state) bs := by
  induction as generalizing state with
  | nil => cases state <;> rfl
  | cons c as ih =>
    rw [List.cons_append, placeholdersFrom_cons, placeholdersFrom_cons, ih, List.append_assoc]
    rfl

/-- One more character of a text is one more step of the scan. -/
theorem placeholdersFrom_concat (cs : List Char) (c : Char) :
    placeholdersFrom none (cs ++ [c]) =
      placeholdersFrom none cs ++ (name? (stateAfter cs) c).toList := by
  have hnil : ∀ state, placeholdersFrom state [] = [] := fun state => by cases state <;> rfl
  rw [placeholdersFrom_append, placeholdersFrom_cons, hnil, List.append_nil]
  rfl

theorem stateAfter_concat (cs : List Char) (c : Char) :
    stateAfter (cs ++ [c]) = next (stateAfter cs) c :=
  List.foldl_concat ..

/-- A character begins a name, ends the chance of one, or is a part of one. -/
theorem next_cases (state : Option (List Char)) (c : Char) :
    c = '\x7b' ∧ next state c = some [] ∨
      c ≠ '\x7b' ∧ ¬ IsNameChar c ∧ next state c = none ∨
      IsNameChar c ∧ next state c = state.map (c :: ·) := by
  rw [next, IsNameChar]
  by_cases hopen : c = '\x7b'
  · exact .inl ⟨hopen, if_pos hopen⟩
  rw [if_neg hopen]
  by_cases hclose : c = '\x7d'
  · exact .inr (.inl ⟨hopen, fun h => h.2.1 hclose, if_pos hclose⟩)
  rw [if_neg hclose]
  cases hblank : isBlank c with
  | true => exact .inr (.inl ⟨hopen, fun h => absurd h.2.2 nofun, if_pos rfl⟩)
  | false => exact .inr (.inr ⟨⟨hopen, hclose, rfl⟩, if_neg nofun⟩)

theorem next_eq_some_nil_iff : next state c = some [] ↔ c = '\x7b' := by
  obtain ⟨hc, h⟩ | ⟨hc, -, h⟩ | ⟨hname, h⟩ := next_cases state c
  · exact iff_of_true h hc
  · rw [h]
    exact iff_of_false nofun hc
  · rw [h, Option.map_eq_some_iff]
    exact iff_of_false nofun hname.1

theorem next_eq_some_cons_iff :
    next state c = some (d :: ds) ↔ c = d ∧ IsNameChar d ∧ state = some ds := by
  obtain ⟨rfl, h⟩ | ⟨-, hnot, h⟩ | ⟨hname, h⟩ := next_cases state c
  · rw [h]
    refine iff_of_false nofun ?_
    rintro ⟨rfl, hname, -⟩
    exact hname.1 rfl
  · rw [h]
    refine iff_of_false nofun ?_
    rintro ⟨rfl, hname, -⟩
    exact hnot hname
  · rw [h, Option.map_eq_some_iff]
    constructor
    · rintro ⟨_, rfl, hcons⟩
      obtain ⟨rfl, rfl⟩ := List.cons.inj hcons
      exact ⟨rfl, hname, rfl⟩
    · rintro ⟨rfl, -, rfl⟩
      exact ⟨ds, rfl, rfl⟩

theorem name?_eq_some_iff :
    name? state c = some n ↔ c = '\x7d' ∧ n ≠ "" ∧ state = some n.toList.reverse := by
  have hempty : n = "" ↔ n.toList.reverse = [] := by simp
  unfold name?
  rw [Option.ite_none_right_eq_some, ne_eq, hempty]
  refine and_congr_right fun _ => ?_
  split
  · next d ds =>
    rw [Option.some.injEq, ← String.toList_inj, String.toList_ofList, Option.some.injEq]
    constructor
    · intro h
      rw [← h, List.reverse_reverse]
      exact ⟨List.cons_ne_nil d ds, rfl⟩
    · rintro ⟨-, h⟩
      rw [h, List.reverse_reverse]
  · next hstate =>
    refine iff_of_false nofun ?_
    rintro ⟨hne, rfl⟩
    obtain ⟨d, ds, hds⟩ := List.exists_cons_of_ne_nil hne
    exact hstate d ds (congrArg some hds)

/-! ### What the scan finds -/

theorem concat_suffix_concat_iff {as bs : List Char} {a b : Char} :
    as ++ [a] <:+ bs ++ [b] ↔ as <:+ bs ∧ a = b := by
  have hlength : [a].length = [b].length := rfl
  rw [List.suffix_append_inj_of_length_eq hlength, List.singleton_inj]

/-- The scan is inside of a name when the text ends with an opening brace and characters of
names. -/
theorem stateAfter_eq_some_iff :
    stateAfter cs = some ds ↔ (∀ c ∈ ds, IsNameChar c) ∧ '\x7b' :: ds.reverse <:+ cs := by
  induction cs using List.reverseRecOn generalizing ds with
  | nil => simp [stateAfter]
  | append_singleton cs c ih =>
    rw [stateAfter_concat]
    cases ds with
    | nil =>
      have hend : [] ++ ['\x7b'] <:+ cs ++ [c] ↔ [] <:+ cs ∧ '\x7b' = c := concat_suffix_concat_iff
      rw [next_eq_some_nil_iff, List.reverse_nil, ← List.nil_append ['\x7b'], hend]
      simp [eq_comm]
    | cons d ds =>
      rw [next_eq_some_cons_iff, ih, List.reverse_cons, ← List.cons_append,
        concat_suffix_concat_iff, List.forall_mem_cons, eq_comm]
      tauto

/-- The scan finds the placeholders of a text. -/
theorem mem_placeholdersFrom_iff : n ∈ placeholdersFrom none cs ↔ IsPlaceholder cs n := by
  induction cs using List.reverseRecOn with
  | nil =>
    refine iff_of_false nofun fun h => ?_
    exact absurd (List.infix_nil.mp h.occurs) (by simp [braced])
  | append_singleton cs c ih =>
    rw [placeholdersFrom_concat, List.mem_append, ih, Option.mem_toList, name?_eq_some_iff,
      stateAfter_eq_some_iff, List.reverse_reverse]
    have hend : braced n <:+ cs ++ [c] ↔ '\x7b' :: n.toList <:+ cs ∧ '\x7d' = c :=
      concat_suffix_concat_iff
    constructor
    · rintro (h | ⟨rfl, hne, hchars, hsuffix⟩)
      · exact { h with occurs := List.infix_concat_iff.mpr (.inr h.occurs) }
      · have hbraced : braced n <:+ cs ++ ['\x7d'] := hend.mpr ⟨hsuffix, rfl⟩
        exact ⟨hne, by simpa using hchars, hbraced.isInfix⟩
    · rintro ⟨hne, hchars, hocc⟩
      rcases List.infix_concat_iff.mp hocc with h | h
      · obtain ⟨hsuffix, rfl⟩ := hend.mp h
        exact .inr ⟨rfl, hne, by simpa using hchars, hsuffix⟩
      · exact .inl ⟨hne, hchars, h⟩

/-- The scan finds the placeholders in order: the first ones are those of a front of the text. -/
theorem exists_prefix_placeholdersFrom {names : List String}
    (h : names <+: placeholdersFrom none cs) :
    ∃ front, front <+: cs ∧ placeholdersFrom none front = names := by
  induction cs using List.reverseRecOn with
  | nil => exact ⟨[], List.prefix_rfl, (List.prefix_nil.mp h).symm⟩
  | append_singleton cs c ih =>
    have hcs : cs <+: cs ++ [c] := List.prefix_append cs [c]
    have hfewer : names <+: placeholdersFrom none cs →
        ∃ front, front <+: cs ++ [c] ∧ placeholdersFrom none front = names := by
      intro h
      obtain ⟨front, hfront, hnames⟩ := ih h
      exact ⟨front, hfront.trans hcs, hnames⟩
    have hconcat := placeholdersFrom_concat cs c
    cases hname : name? (stateAfter cs) c with
    | none =>
      rw [hconcat, hname, Option.toList_none, List.append_nil] at h
      exact hfewer h
    | some n =>
      rw [hconcat, hname, Option.toList_some, List.prefix_concat_iff] at h
      rcases h with rfl | h
      · exact ⟨cs ++ [c], List.prefix_rfl, by rw [hconcat, hname, Option.toList_some]⟩
      · exact hfewer h

end PlaceholderScan

/-! ### Lists without repetitions -/

section

variable {α : Type} [BEq α] [LawfulBEq α]

theorem eraseDups_concat (l : List α) (x : α) :
    (l ++ [x]).eraseDups = if x ∈ l then l.eraseDups else l.eraseDups ++ [x] := by
  rw [List.eraseDups_append, List.removeAll, List.filter_singleton]
  by_cases h : x ∈ l <;> simp [h, List.eraseDups_cons]

/-- Without repetitions the elements of a list come in the order of their first occurrence. -/
theorem pairwise_eraseDups (l : List α) :
    l.eraseDups.Pairwise fun x y => ∃ front, front <+: l ∧ x ∈ front ∧ y ∉ front := by
  induction l using List.reverseRecOn with
  | nil => exact List.Pairwise.nil
  | append_singleton l x ih =>
    have hl : l <+: l ++ [x] := List.prefix_append l [x]
    have hearlier : l.eraseDups.Pairwise fun y z =>
        ∃ front, front <+: l ++ [x] ∧ y ∈ front ∧ z ∉ front :=
      ih.imp fun ⟨front, hfront, hmem⟩ => ⟨front, hfront.trans hl, hmem⟩
    rw [eraseDups_concat]
    split
    · exact hearlier
    · next hx =>
      -- what is new comes after all that was there
      refine List.pairwise_append.mpr ⟨hearlier, List.pairwise_singleton .., fun y hy z hz => ?_⟩
      obtain rfl := List.mem_singleton.mp hz
      exact ⟨l, hl, List.mem_eraseDups.mp hy, hx⟩

end

/-! ### The placeholders of a URL -/

open PlaceholderScan

variable {url : String}

/-- The placeholders of a URL are its names in braces. -/
theorem mem_placeholders_iff : n ∈ placeholders url ↔ IsPlaceholder url.toList n := by
  rw [placeholders, List.mem_eraseDups, mem_placeholdersFrom_iff]

/-- Only the inner braces hold a name. -/
example : placeholders "http://\x7ba\x7bb\x7d\x7d/\x7b\x7d/\x7bb\x7d" = ["b"] := by decide

/-- They come in the order of their first occurrence. -/
theorem pairwise_placeholders (url : String) :
    (placeholders url).Pairwise (OccursFirst url.toList) := by
  refine (pairwise_eraseDups _).imp_of_mem fun {m n} hm hn ⟨names, hnames, hmem, hnotMem⟩ => ?_
  obtain ⟨front, hfront, rfl⟩ := exists_prefix_placeholdersFrom hnames
  have hn : IsPlaceholder url.toList n := mem_placeholders_iff.mp hn
  refine ⟨front, hfront, (mem_placeholdersFrom_iff.mp hmem).occurs, fun hocc => hnotMem ?_⟩
  exact mem_placeholdersFrom_iff.mpr { hn with occurs := hocc }

/-- Each of them is there once. -/
theorem nodup_placeholders (url : String) : (placeholders url).Nodup :=
  (pairwise_placeholders url).imp fun {m n} h => by
    rintro rfl
    exact h.irrefl

end Catalog
