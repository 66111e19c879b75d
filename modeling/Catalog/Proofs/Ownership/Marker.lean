import Catalog.Ownership.Declaration
import Catalog.Proofs.Text.Cut
import Mathlib.Tactic.IntervalCases

/-!
# The marker of an owner

A text declares an owner where the marker and the name of the owner stand in it and the name ends
there. The occurrences are searched one after another, each behind the end of the one before, so an
occurrence that begins within another one is passed over. There is such an occurrence only if the
marked name ends in a beginning of itself, behind which the name goes on.

## Main definitions

* `Declares` — the marked name occurs in the text, and the name ends there.
* `Overlaps` — the marked name can begin within itself, where the name goes on.

## Main results

* `occursAsName_append`, `occursAsName_cons` — one step of the search.
* `exists_of_occursAsName` — what is found is an occurrence that ends the name.
* `occursAsName_of_not_overlapsItself` — where the needle cannot overlap itself, all are found.
* `exists_of_overlapsItself` — otherwise there is a text in which one is passed over.
* `overlaps_iff` — whose marked names overlap themselves.
* `declaresOwner_finds_iff` — **which owners are found in every text that declares them.**
-/

namespace Catalog

open Text

variable {needle front rest cs : List Char} {c : Char} {text owner : String}

/-! ### One step of the search -/

/-- A name ends in front of the text. -/
def EndsName (rest : List Char) : Prop := ∀ c ∈ rest.head?, isNameChar c = false

theorem endsName_iff : EndsName rest ↔ (!rest.head?.any isNameChar) = true := by
  cases rest <;> simp [EndsName]

theorem occursAsName_nil (hne : needle ≠ []) (skip : Nat) :
    occursAsName needle skip [] = false := by
  cases skip <;> simp [occursAsName, hne]

/-- Characters that belong to an occurrence are skipped. -/
theorem occursAsName_eq_drop (hne : needle ≠ []) (skip : Nat) (cs : List Char) :
    occursAsName needle skip cs = occursAsName needle 0 (cs.drop skip) := by
  induction cs generalizing skip with
  | nil => rw [List.drop_nil, occursAsName_nil hne, occursAsName_nil hne]
  | cons c cs ih =>
    cases skip with
    | zero => rfl
    | succ skip => rw [occursAsName, ih, List.drop_succ_cons]

/-- At an occurrence: the name ends there, or the search goes on behind it. -/
theorem occursAsName_append (hne : needle ≠ []) (rest : List Char) :
    occursAsName needle 0 (needle ++ rest) = true ↔
      EndsName rest ∨ occursAsName needle 0 rest = true := by
  obtain ⟨c, cs, rfl⟩ := List.exists_cons_of_ne_nil hne
  have hfound : afterFront? (c :: cs) (c :: (cs ++ rest)) = some rest :=
    afterFront?_eq_some_iff.mpr rfl
  rw [List.cons_append, occursAsName, hfound]
  dsimp only
  rw [Bool.or_eq_true, ← endsName_iff, occursAsName_eq_drop hne, List.length_cons,
    Nat.add_sub_cancel, List.drop_left]

/-- Elsewhere the search goes on with the next character. -/
theorem occursAsName_cons (h : ¬ needle <+: c :: cs) :
    occursAsName needle 0 (c :: cs) = occursAsName needle 0 cs := by
  rw [occursAsName]
  split
  · next rest hrest => exact absurd ⟨rest, (afterFront?_eq_some_iff.mp hrest).symm⟩ h
  · rfl

/-! ### What is found -/

/-- The needle occurs in the text, and a name ends behind it. -/
def OccursEnded (needle cs : List Char) : Prop :=
  ∃ front rest, cs = front ++ needle ++ rest ∧ EndsName rest

theorem OccursEnded.append (h : OccursEnded needle cs) (front : List Char) :
    OccursEnded needle (front ++ cs) := by
  obtain ⟨front', rest, rfl, hends⟩ := h
  exact ⟨front ++ front', rest, by simp only [List.append_assoc], hends⟩

/-- What is found is an occurrence that ends the name. -/
theorem exists_of_occursAsName (hne : needle ≠ []) (h : occursAsName needle 0 cs = true) :
    OccursEnded needle cs := by
  induction hlength : cs.length using Nat.strongRecOn generalizing cs with
  | ind length ih =>
    by_cases hfront : needle <+: cs
    · obtain ⟨rest, rfl⟩ := hfront
      have hpos := List.length_pos_iff.mpr hne
      rw [List.length_append] at hlength
      rcases (occursAsName_append hne rest).mp h with hends | hlater
      · exact ⟨[], rest, rfl, hends⟩
      · exact (ih _ (by omega) hlater rfl).append needle
    · cases cs with
      | nil => rw [occursAsName_nil hne] at h; cases h
      | cons c cs =>
        rw [occursAsName_cons hfront] at h
        exact (ih _ (by rw [← hlength]; exact Nat.lt_succ_self _) h rfl).append [c]

/-- The needle can begin within itself, where a name goes on behind its first occurrence: one of its
beginnings is one of its ends as well, and a character of a name follows it. -/
def OverlapsItself (needle : List Char) : Prop :=
  ∃ i < needle.length, 0 < i ∧ needle.take i <:+ needle ∧
    (needle.drop i).head?.any isNameChar = true

instance (needle : List Char) : Decidable (OverlapsItself needle) :=
  inferInstanceAs (Decidable (∃ i < needle.length, 0 < i ∧ needle.take i <:+ needle ∧
    (needle.drop i).head?.any isNameChar = true))

/-- An occurrence that begins within an earlier one, behind which the name goes on. -/
theorem overlapsItself_of_append {rest' : List Char} (hfront : front ≠ [])
    (hlt : front.length < needle.length) (h : needle ++ rest = front ++ needle ++ rest')
    (hgoesOn : ¬ EndsName rest) : OverlapsItself needle := by
  have hpos := List.length_pos_iff.mpr hfront
  rw [List.append_assoc] at h
  rcases List.append_eq_append_iff.mp h with ⟨x, hx, -⟩ | ⟨b, hb, hrest⟩
  · have hlength := congrArg List.length hx
    rw [List.length_append] at hlength
    omega
  · have hlength := congrArg List.length hb
    rw [List.length_append] at hlength
    rcases List.append_eq_append_iff.mp hrest with ⟨a, ha, -⟩ | ⟨a, ha, hrest⟩
    · have hlength' := congrArg List.length ha
      rw [List.length_append] at hlength'
      omega
    · -- the needle begins with `b` and ends with it, and `a` comes behind the first one
      refine ⟨b.length, by omega, by omega, ?_, ?_⟩
      · rw [ha, List.take_left, ← ha]
        exact ⟨front, hb.symm⟩
      · rw [ha, List.drop_left]
        have hlength' := congrArg List.length ha
        rw [List.length_append] at hlength'
        obtain ⟨d, a, rfl⟩ := List.exists_cons_of_ne_nil
          (List.length_pos_iff.mp (show 0 < a.length by omega))
        rw [hrest, endsName_iff] at hgoesOn
        simpa using hgoesOn

/-- Where the needle cannot overlap itself, every occurrence that ends the name is found. -/
theorem occursAsName_of_not_overlapsItself (hne : needle ≠ []) (hoverlap : ¬ OverlapsItself needle)
    (h : OccursEnded needle cs) : occursAsName needle 0 cs = true := by
  obtain ⟨front, rest, rfl, hends⟩ := h
  -- the search gets nearer to the occurrence with every step
  induction hlength : front.length using Nat.strongRecOn generalizing front with
  | ind length ih =>
    by_cases hprefix : needle <+: front ++ needle ++ rest
    · obtain ⟨rest₁, hsplit⟩ := hprefix
      rw [← hsplit, occursAsName_append hne]
      by_cases hends₁ : EndsName rest₁
      · exact .inl hends₁
      · right
        have hfront : front ≠ [] := by
          rintro rfl
          rw [List.nil_append] at hsplit
          exact hends₁ (List.append_cancel_left hsplit ▸ hends)
        have hle : needle.length ≤ front.length :=
          Nat.le_of_not_lt fun hlt => hoverlap (overlapsItself_of_append hfront hlt hsplit hends₁)
        -- the earlier occurrence ends before the later one begins
        obtain ⟨front', rfl⟩ : needle <+: front := by
          refine List.prefix_of_prefix_length_le ⟨rest₁, hsplit⟩ ?_ hle
          rw [List.append_assoc]
          exact List.prefix_append _ _
        have hpos := List.length_pos_iff.mpr hne
        rw [List.length_append] at hlength
        simp only [List.append_assoc, List.append_cancel_left_eq] at hsplit
        rw [hsplit, ← List.append_assoc]
        exact ih _ (by omega) front' rfl
    · cases front with
      | nil => exact absurd (List.prefix_append needle rest) hprefix
      | cons c front =>
        rw [List.cons_append, List.cons_append] at hprefix ⊢
        rw [occursAsName_cons hprefix]
        exact ih _ (by rw [← hlength]; exact Nat.lt_succ_self _) front rfl

/-- Where the needle overlaps itself, there is a text in which its second occurrence ends the name
but is passed over. -/
theorem exists_of_overlapsItself (hne : needle ≠ []) (h : OverlapsItself needle) :
    ∃ cs, OccursEnded needle cs ∧ occursAsName needle 0 cs = false := by
  obtain ⟨i, hlt, hpos, ⟨front, hsuffix⟩, hgoesOn⟩ := h
  refine ⟨needle ++ needle.drop i, ⟨front, [], ?_, by simp [EndsName]⟩, ?_⟩
  · conv => lhs; lhs; rw [← hsuffix]
    rw [List.append_assoc, List.take_append_drop, List.append_nil]
  · rw [Bool.eq_false_iff]
    intro hfound
    rcases (occursAsName_append hne _).mp hfound with hends | hlater
    · rw [endsName_iff, hgoesOn] at hends
      cases hends
    · -- what is left is shorter than the needle
      obtain ⟨front', rest, hsplit, -⟩ := exists_of_occursAsName hne hlater
      have hlength := congrArg List.length hsplit
      simp only [List.length_drop, List.length_append] at hlength
      omega

/-! ### Owners -/

/-- The marker with the name of an owner behind it. -/
def marked (owner : String) : List Char := (ownershipMarker ++ " " ++ owner).toList

theorem marked_ne_nil (owner : String) : marked owner ≠ [] := by
  simp [marked, ownershipMarker]

/-- The text declares the owner: the marked name occurs in it, at any place, and it is not followed
by a character that continues a name. -/
def Declares (text owner : String) : Prop := OccursEnded (marked owner) text.toList

/-- A marked name can begin within an earlier one: some beginning of it is also an end of it, and is
followed by a character of a name in it. -/
def Overlaps (owner : String) : Prop := OverlapsItself (marked owner)

instance (owner : String) : Decidable (Overlaps owner) :=
  inferInstanceAs (Decidable (OverlapsItself (marked owner)))

/-- The characters in front of the name of an owner. -/
def marker : List Char := ['m', 'c', 'p', '-', 'n', 'a', 'm', 'e', ':', ' ']

theorem marked_eq (owner : String) : marked owner = marker ++ owner.toList := by
  rw [marked, String.toList_append]
  congr 1

theorem length_marked (owner : String) : (marked owner).length = owner.toList.length + 10 := by
  rw [marked_eq, List.length_append, Nat.add_comm]
  rfl

/-- No two characters of the marker behind its first one begin like the marker, and its last one
does not either. -/
theorem drop_marked_ne_take {k i : Nat} (hk : 0 < k) (hlt : k < 10) (hi : 0 < i)
    (htwo : k < 9 → 1 < i) : (marked owner).drop k ≠ (marked owner).take i := by
  intro h
  obtain ⟨i, rfl⟩ := Nat.exists_eq_succ_of_ne_zero (Nat.ne_of_gt hi)
  rw [marked_eq, marker] at h
  by_cases hsix : k = 6
  · -- the second `m` of the marker is followed by another character than the first one
    subst hsix
    obtain ⟨i, rfl⟩ := Nat.exists_eq_succ_of_ne_zero (show i ≠ 0 by omega)
    simp at h
  · interval_cases k <;> simp at h hsix

/-- A beginning of a marked name that is an end of it is an end of the owner. -/
theorem suffix_owner_of_take_suffix {i : Nat} (hpos : 0 < i) (hlt : i < (marked owner).length)
    (h : (marked owner).take i <:+ marked owner) : (marked owner).take i <:+ owner.toList := by
  have htake : ((marked owner).take i).length = i := by
    rw [List.length_take, Nat.min_eq_left (Nat.le_of_lt hlt)]
  have howner : owner.toList <:+ marked owner := ⟨marker, (marked_eq owner).symm⟩
  refine List.suffix_of_suffix_length_le h howner ?_
  rw [htake]
  by_contra hlong
  obtain ⟨front, hfront⟩ := h
  have hlength := congrArg List.length hfront
  rw [List.length_append, htake, length_marked] at hlength
  rw [length_marked] at hlt
  have hdrop : (marked owner).drop front.length = (marked owner).take i := by
    conv => lhs; rw [← hfront]
    exact List.drop_left
  exact drop_marked_ne_take (by omega) (by omega) hpos (by omega) hdrop

/-- **Which marked names overlap themselves**: those of owners that end in a beginning of the
marker, or in the marker and a beginning of the owner, and a character of a name follows that
beginning. -/
theorem overlaps_iff : Overlaps owner ↔
    (∃ i, 0 < i ∧ i < 10 ∧ marker.take i <:+ owner.toList ∧
      (marker.drop i).head?.any isNameChar = true) ∨
    ∃ j, marker ++ owner.toList.take j <:+ owner.toList ∧
      (owner.toList.drop j).head?.any isNameChar = true := by
  have howner : owner.toList <:+ marked owner := ⟨marker, (marked_eq owner).symm⟩
  have hten : marker.length = 10 := rfl
  have hfront : ∀ i < 10, (marked owner).take i = marker.take i ∧
      ((marked owner).drop i).head? = (marker.drop i).head? := fun i hi => by
    have hne : marker.drop i ≠ [] := by
      rw [ne_eq, List.drop_eq_nil_iff, hten]
      omega
    obtain ⟨c, cs, hc⟩ := List.exists_cons_of_ne_nil hne
    rw [marked_eq, List.take_append_of_le_length (by omega),
      List.drop_append_of_le_length (by omega), hc]
    exact ⟨rfl, rfl⟩
  have hwhole : ∀ j, (marked owner).take (10 + j) = marker ++ owner.toList.take j ∧
      (marked owner).drop (10 + j) = owner.toList.drop j := fun j => by
    rw [marked_eq, ← hten]
    exact ⟨List.take_length_add_append j, List.drop_length_add_append j⟩
  constructor
  · rintro ⟨i, hlt, hpos, hsuffix, hgoesOn⟩
    have hend := suffix_owner_of_take_suffix hpos hlt hsuffix
    rcases Nat.lt_or_ge i 10 with hi | hi
    · rw [(hfront i hi).1] at hend
      rw [(hfront i hi).2] at hgoesOn
      exact .inl ⟨i, hpos, hi, hend, hgoesOn⟩
    · obtain ⟨j, rfl⟩ := Nat.exists_eq_add_of_le hi
      rw [(hwhole j).1] at hend
      rw [(hwhole j).2] at hgoesOn
      exact .inr ⟨j, hend, hgoesOn⟩
  · rintro (⟨i, hpos, hi, hend, hgoesOn⟩ | ⟨j, hend, hgoesOn⟩)
    · refine ⟨i, by rw [length_marked]; omega, hpos, ?_, by rwa [(hfront i hi).2]⟩
      rw [(hfront i hi).1]
      exact hend.trans howner
    · refine ⟨10 + j, ?_, by omega, ?_, by rwa [(hwhole j).2]⟩
      · rw [length_marked]
        have hj : j < owner.toList.length := by
          by_contra hover
          rw [List.drop_eq_nil_of_le (by omega)] at hgoesOn
          cases hgoesOn
        omega
      · rw [(hwhole j).1]
        exact hend.trans howner

/-- **Which owners are found in every text that declares them.** Who is found is declared. All
declarations of an owner are found just when its marked name cannot overlap itself: otherwise there
is a text in which a declaration is passed over. -/
theorem declaresOwner_finds_iff (owner : String) :
    (∀ text, declaresOwner text owner = true → Declares text owner) ∧
      ((∀ text, Declares text owner → declaresOwner text owner = true) ↔ ¬ Overlaps owner) := by
  refine ⟨fun text => exists_of_occursAsName (marked_ne_nil owner), ?_, ?_⟩
  · intro hall hoverlaps
    obtain ⟨cs, hoccurs, hfound⟩ := exists_of_overlapsItself (marked_ne_nil owner) hoverlaps
    have htrue := hall (String.ofList cs) (by rwa [Declares, String.toList_ofList])
    rw [declaresOwner, String.toList_ofList, ← marked, hfound] at htrue
    cases htrue
  · exact fun hoverlaps text => occursAsName_of_not_overlapsItself (marked_ne_nil owner) hoverlaps

example : ¬ Overlaps "io.github.acme/weather" := by decide +kernel

/-- The second marked name in the text begins with the last letter of the first one. -/
theorem not_declaresOwner_iff_overlapping :
    ¬ ∀ text owner, declaresOwner text owner = true ↔ Declares text owner := by
  intro hall
  have hdeclares : Declares "mcp-name: io.github.acme/mcp-name: io.github.acme/m"
      "io.github.acme/m" :=
    ⟨"mcp-name: io.github.acme/".toList, [], by decide +kernel, by simp [EndsName]⟩
  have hpassed : declaresOwner "mcp-name: io.github.acme/mcp-name: io.github.acme/m"
      "io.github.acme/m" = false := by decide +kernel
  rw [(hall _ _).mpr hdeclares] at hpassed
  cases hpassed

end Catalog
