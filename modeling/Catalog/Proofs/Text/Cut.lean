import Catalog.Text.Cut

/-!
# Laws of cutting texts

What the fields of a text are, what its last field is, and where a marker that ends in a separator
can occur in a text that is put together around that separator.

## Main results

* `intercalate_fields`, `fields_intercalate` — cutting a text into fields and joining them again.
* `lastField_append_cons` — the last field of a text is that of its part after a separator.
* `afterFront?_eq_some_iff` — what is behind a front.
* `occursIn_iff` — `occursIn` decides whether one text is an infix of another.
* `infix_append_cons_iff` — where a marker occurs in two texts joined by its last character.
-/

namespace Catalog.Text

variable {c : Char} {a b cs m : List Char} {fs : List (List Char)}

/-! ### Fields -/

theorem fields_eq_splitOn (c : Char) (cs : List Char) : fields c cs = cs.splitOn c := by
  induction cs with
  | nil => simp [fields]
  | cons d ds ih =>
    -- there is always a first field
    obtain ⟨f, fs, hfs⟩ := List.exists_cons_of_ne_nil (List.splitOn_ne_nil c ds)
    rw [fields, ih, hfs, List.splitOn_cons_eq_if_modifyHead, hfs]
    simp

theorem fields_ne_nil (c : Char) (cs : List Char) : fields c cs ≠ [] := by
  rw [fields_eq_splitOn]
  exact List.splitOn_ne_nil c cs

/-- A separator at the front has an empty field before it. -/
theorem fields_cons_self (c : Char) (cs : List Char) : fields c (c :: cs) = [] :: fields c cs := by
  obtain ⟨f, fs, hfs⟩ := List.exists_cons_of_ne_nil (fields_ne_nil c cs)
  rw [fields, hfs]
  exact if_pos rfl

/-- Any other character at the front is a part of the first field. -/
theorem fields_cons_of_ne {d : Char} (h : d ≠ c) (cs : List Char) :
    fields c (d :: cs) = (fields c cs).modifyHead (d :: ·) := by
  obtain ⟨f, fs, hfs⟩ := List.exists_cons_of_ne_nil (fields_ne_nil c cs)
  rw [fields, hfs]
  exact if_neg h

/-- Characters without the separator at the front are a part of the first field. -/
theorem fields_append_of_notMem (h : c ∉ a) (b : List Char) :
    fields c (a ++ b) = (fields c b).modifyHead (a ++ ·) := by
  obtain ⟨f, fs, hfs⟩ := List.exists_cons_of_ne_nil (fields_ne_nil c b)
  induction a with
  | nil => simp [hfs]
  | cons d a ih =>
    rw [List.mem_cons, not_or] at h
    rw [List.cons_append, fields_cons_of_ne (Ne.symm h.1), ih h.2, hfs]
    rfl

/-- The fields joined by their separator are the text. -/
theorem intercalate_fields (c : Char) (cs : List Char) : [c].intercalate (fields c cs) = cs := by
  rw [fields_eq_splitOn, List.intercalate_splitOn]

/-- Parts without the separator are the fields of what they are joined to. -/
theorem fields_intercalate (hfs : fs ≠ []) (h : ∀ f ∈ fs, c ∉ f) :
    fields c ([c].intercalate fs) = fs := by
  rw [fields_eq_splitOn, List.splitOn_intercalate c h hfs]

theorem notMem_of_mem_fields (h : a ∈ fields c cs) : c ∉ a := by
  induction cs generalizing a with
  | nil => simp_all [fields]
  | cons d ds ih =>
    obtain ⟨f, fs, hfs⟩ := List.exists_cons_of_ne_nil (fields_ne_nil c ds)
    rw [hfs] at ih
    obtain ⟨hf, hrest⟩ := List.forall_mem_cons.mp fun a (ha : a ∈ f :: fs) => ih ha
    rw [fields, hfs] at h
    by_cases hd : d = c
    · rcases List.mem_cons.mp (by simpa only [if_pos hd] using h) with rfl | hmem
      · exact List.not_mem_nil
      · exact ih hmem
    · rcases List.mem_cons.mp (by simpa only [if_neg hd] using h) with rfl | hmem
      · simp [Ne.symm hd, hf]
      · exact hrest a hmem

theorem fields_of_notMem (h : c ∉ cs) : fields c cs = [cs] := by
  have hjoin : fields c ([c].intercalate [cs]) = [cs] :=
    fields_intercalate (List.cons_ne_nil cs []) (by simpa using h)
  simpa using hjoin

theorem fields_append_cons (h : c ∉ a) : fields c (a ++ c :: b) = a :: fields c b := by
  obtain ⟨f, fs, hfs⟩ := List.exists_cons_of_ne_nil (fields_ne_nil c b)
  have hb : [c].intercalate (f :: fs) = b := by rw [← hfs, intercalate_fields]
  have hjoin : [c].intercalate (a :: f :: fs) = a ++ c :: b := by
    rw [List.intercalate_cons_cons, hb, List.append_assoc, List.singleton_append]
  rw [← hjoin, hfs]
  refine fields_intercalate (List.cons_ne_nil a _) (List.forall_mem_cons.mpr ⟨h, ?_⟩)
  intro g hg
  exact notMem_of_mem_fields (by rwa [hfs])

/-- There is a second field just when the text can be cut, and then the first field is the part
before the cut. -/
theorem exists_fields_eq_cons_cons_iff :
    (∃ g gs, fields c cs = a :: g :: gs) ↔ ∃ rest, cutFirst c cs = some (a, rest) := by
  cases hcut : cutFirst c cs with
  | none =>
    rw [fields_of_notMem (cutFirst_eq_none_iff.mp hcut)]
    simp
  | some parts =>
    obtain ⟨x, y⟩ := parts
    obtain ⟨hx, rfl⟩ := cutFirst_eq_some_iff.mp hcut
    obtain ⟨g, gs, hgs⟩ := List.exists_cons_of_ne_nil (fields_ne_nil c y)
    rw [fields_append_cons hx, hgs]
    simp

theorem length_fields_eq_one_iff : (fields c cs).length = 1 ↔ c ∉ cs := by
  rw [← cutFirst_eq_none_iff]
  cases hcut : cutFirst c cs with
  | none => simp [fields_of_notMem (cutFirst_eq_none_iff.mp hcut)]
  | some parts =>
    obtain ⟨g, gs, hgs⟩ := exists_fields_eq_cons_cons_iff.mpr ⟨parts.2, hcut⟩
    simp [hgs]

/-- What is no separator is in a field. -/
theorem exists_mem_fields_of_mem {d : Char} (h : d ∈ cs) (hd : d ≠ c) :
    ∃ f ∈ fields c cs, d ∈ f := by
  rw [← intercalate_fields c cs] at h
  generalize fields c cs = fs at h
  induction fs with
  | nil => simp at h
  | cons f fs ih =>
    cases fs with
    | nil => exact ⟨f, by simp, by simpa using h⟩
    | cons g fs =>
      rw [List.intercalate_cons_cons] at h
      rcases List.mem_append.mp h with h | h
      · exact ⟨f, by simp, by simpa [hd] using h⟩
      · obtain ⟨f', hf', hmem⟩ := ih h
        exact ⟨f', List.mem_cons_of_mem f hf', hmem⟩

/-! ### The last field -/

theorem cutLast_eq_none_iff : cutLast c cs = none ↔ c ∉ cs := by
  rw [cutLast, Option.map_eq_none_iff, cutFirst_eq_none_iff, List.mem_reverse]

/-- A text cut at the last occurrence is its two parts with the character between them, and the
second part is free of it. -/
theorem cutLast_eq_some_iff : cutLast c cs = some (a, b) ↔ c ∉ b ∧ cs = a ++ c :: b := by
  rw [cutLast, Option.map_eq_some_iff]
  constructor
  · rintro ⟨⟨x, y⟩, hcut, heq⟩
    obtain ⟨rfl, rfl⟩ := Prod.mk.inj heq
    obtain ⟨hx, hrev⟩ := cutFirst_eq_some_iff.mp hcut
    refine ⟨by simpa using hx, ?_⟩
    rw [← List.reverse_reverse cs, hrev]
    simp
  · rintro ⟨hb, rfl⟩
    exact ⟨(b.reverse, a.reverse), cutFirst_eq_some_iff.mpr ⟨by simpa using hb, by simp⟩, by simp⟩

theorem lastField_of_notMem (h : c ∉ cs) : lastField c cs = cs := by
  rw [lastField, cutLast_eq_none_iff.mpr h]

/-- The last field is what follows a separator, if there is none in it. -/
theorem lastField_eq (h : c ∉ b) : lastField c (a ++ c :: b) = b := by
  rw [lastField, cutLast_eq_some_iff.mpr ⟨h, rfl⟩]

/-- A text with a separator is a front, a separator and its last field. -/
theorem exists_eq_append_lastField (h : c ∈ cs) :
    ∃ a, cs = a ++ c :: lastField c cs ∧ c ∉ lastField c cs := by
  cases hcut : cutLast c cs with
  | none => exact absurd h (cutLast_eq_none_iff.mp hcut)
  | some parts =>
    obtain ⟨a, b⟩ := parts
    obtain ⟨hb, hcs⟩ := cutLast_eq_some_iff.mp hcut
    have hlast : lastField c cs = b := by rw [lastField, hcut]
    rw [hlast]
    exact ⟨a, hcs, hb⟩

/-- Nothing before a text with a separator counts for the last field. -/
theorem lastField_append_of_mem (h : c ∈ b) : lastField c (a ++ b) = lastField c b := by
  obtain ⟨x, hb, hlast⟩ := exists_eq_append_lastField h
  conv => lhs; rw [hb, ← List.append_assoc, lastField_eq hlast]

/-- Nothing before a separator counts for the last field. -/
theorem lastField_append_cons : lastField c (a ++ c :: b) = lastField c b := by
  by_cases h : c ∈ b
  · rw [List.append_cons, lastField_append_of_mem h]
  · rw [lastField_eq h, lastField_of_notMem h]

/-- A text without a separator goes on with the last field. -/
theorem lastField_append (h : c ∉ b) : lastField c (a ++ b) = lastField c a ++ b := by
  by_cases ha : c ∈ a
  · obtain ⟨x, hx, hlast⟩ := exists_eq_append_lastField ha
    conv => lhs; rw [hx, List.append_assoc, List.cons_append]
    exact lastField_eq (by simp [hlast, h])
  · rw [lastField_of_notMem ha, lastField_of_notMem (by simp [ha, h])]

theorem mem_of_mem_lastField {d : Char} (h : d ∈ lastField c cs) : d ∈ cs := by
  by_cases hc : c ∈ cs
  · obtain ⟨a, hcs, -⟩ := exists_eq_append_lastField hc
    rw [hcs]
    exact List.mem_append_right _ (List.mem_cons_of_mem _ h)
  · rwa [lastField_of_notMem hc] at h

/-! ### Occurrences -/

theorem afterFront?_eq_some_iff : afterFront? a cs = some b ↔ cs = a ++ b := by
  induction a generalizing cs with
  | nil => simp [afterFront?]
  | cons f fs ih =>
    cases cs with
    | nil => simp [afterFront?]
    | cons c cs =>
      rw [afterFront?]
      split
      · next h => simp [ih, h]
      · next h => simp [Ne.symm h]

theorem occursIn_iff : occursIn m cs = true ↔ m <:+: cs := by
  induction cs with
  | nil => simp [occursIn]
  | cons d ds ih =>
    rw [occursIn, Bool.or_eq_true, ih, List.isPrefixOf_iff_prefix, List.infix_cons_iff]

/-- A marker that ends in a separator, and has none before, occurs in two texts joined by the
separator just when it is in one of them or the first text ends in its front. -/
theorem infix_append_cons_iff (hm : c ∉ m) :
    m ++ [c] <:+: a ++ c :: b ↔ m ++ [c] <:+: a ∨ m <:+ a ∨ m ++ [c] <:+: b := by
  constructor
  · rintro ⟨s, t, h⟩
    have h : (s ++ m) ++ c :: t = a ++ c :: b := by simpa using h
    rcases List.append_eq_append_iff.mp h with ⟨x, ha, hx⟩ | ⟨x, hs, hx⟩
    · -- the occurrence ends before the separator or at it
      cases x with
      | nil => exact Or.inr (Or.inl ⟨s, by simpa using ha.symm⟩)
      | cons d x =>
        obtain ⟨rfl, -⟩ := List.cons.inj hx
        exact Or.inl ⟨s, x, by simp [ha]⟩
    · cases x with
      | nil => exact Or.inr (Or.inl ⟨s, by simpa using hs⟩)
      | cons d x =>
        -- the occurrence ends behind the separator, so it has to start there too
        obtain ⟨rfl, hb⟩ := List.cons.inj hx
        rcases List.append_eq_append_iff.mp hs with ⟨y, -, hy⟩ | ⟨y, -, hy⟩
        · exact absurd (by rw [hy]; simp) hm
        · cases y with
          | nil => exact absurd (by rw [← List.nil_append m, ← hy]; simp) hm
          | cons e y =>
            obtain ⟨rfl, hx'⟩ := List.cons.inj hy
            exact Or.inr (Or.inr ⟨y, t, by simp [hb, hx']⟩)
  · rintro (⟨s, t, h⟩ | ⟨s, h⟩ | ⟨s, t, h⟩)
    · exact ⟨s, t ++ c :: b, by simp [← h]⟩
    · exact ⟨s, b, by simp [← h]⟩
    · exact ⟨a ++ c :: s, t, by simp [← h]⟩

/-- A text without a separator is at the end of two joined texts just when it is at the end of the
second one. -/
theorem suffix_append_cons_iff (hm : c ∉ m) : m <:+ a ++ c :: b ↔ m <:+ b := by
  constructor
  · rintro ⟨s, h⟩
    rcases List.append_eq_append_iff.mp h with ⟨x, -, hx⟩ | ⟨x, -, hx⟩
    · exact absurd (by rw [hx]; simp) hm
    · cases x with
      | nil => exact absurd (by rw [← List.nil_append m, ← hx]; simp) hm
      | cons d x => exact ⟨x, (List.cons.inj hx).2.symm⟩
  · rintro ⟨s, rfl⟩
    exact ⟨a ++ c :: s, by simp⟩

end Catalog.Text
