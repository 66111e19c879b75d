import Catalog.Json.Layout
import Catalog.Proofs.Json.ReadsPretty

/-!
# Layouts read back

The indented form of a document is also read back through a layout that the document has, be it a
text, any document, an array of one layout or a record.

## Main results

* `Layout.reads_string`, `Layout.reads_any` — the value of a member.
* `Layout.reads_list` — arrays.
* `Layout.reads_closedRecord` — records.
-/

namespace Catalog.Json.Layout

open Reader

variable {depth level : Nat} {v : Json} {l : Layout} {fields : List Field}

/-- A text as the value of a member. -/
theorem reads_string (depth level : Nat) (s : String) :
    Reads EndsNumber (string.read depth) (0x20 :: prettyText level (.str s)) (.str s) := by
  have hbody : Reads EndsNumber (do return .str (← stringBody) : Reader Json)
      (Text.utf8 (s.toList.flatMap escapeChar) ++ [0x22]) (.str s) :=
    ((reads_stringBody s).map (g := Json.str)).mono fun _ _ => trivial
  rw [prettyText, prettyAt, utf8_quote]
  exact Reads.blank (by decide)
    (Reads.token (by decide) (Reads.skip hbody))

/-- Any document as the value of a member. -/
theorem reads_any (h : Bounded Number.ReadsBack depth v) (level : Nat) :
    Reads EndsNumber (any.read depth) (0x20 :: prettyText level v) v := by
  obtain ⟨⟨b, more, htext, hblank, -⟩, hvalue⟩ := reads_value h level
  rw [htext] at hvalue ⊢
  rw [any]
  show Reads EndsNumber (value depth) _ _
  rw [value.eq_def] at hvalue ⊢
  exact Reads.blank hblank hvalue

/-- An array of documents of one layout. -/
theorem reads_list {xs : List Json} (h : ∀ x ∈ xs, StartsItem (prettyText (level + 1) x) ∧
      Reads EndsNumber (l.read depth) (prettyText (level + 1) x) x) :
    Reads EndsNumber ((list l).read (depth + 1)) (prettyText level (.arr xs)) (.arr xs) := by
  have harray : ∀ {text}, Reads Anything (Reader.items (l.read depth)) text xs →
      Reads EndsNumber ((list l).read (depth + 1)) (0x5b :: text) (.arr xs) := by
    intro text hitems
    exact Reads.token (by decide)
      (Reads.skip ((hitems.map (g := Json.arr)).mono fun _ _ => trivial))
  cases xs with
  | nil =>
    rw [prettyText_arr_nil]
    exact harray (reads_items_nil _)
  | cons x xs =>
    obtain ⟨hstart, hitem⟩ := h x List.mem_cons_self
    rw [prettyText_arr_cons]
    refine harray (reads_items (isBlank_of_mem_lineText _)
      (isBlank_of_mem_lineText _) hstart hitem ?_)
    rw [List.forall₂_map_left_iff, List.forall₂_same]
    exact fun y hy => h y (List.mem_cons_of_mem _ hy)

/-- The reader of one member of a record, which moves over members it does not know. -/
def fieldReader (fields : List Field) (depth : Nat) (ms : Members) (key : String) :
    Reader Members := do
  match fields.find? (·.name == key) with
  | some f =>
    if (ms.value? key).isSome then
      if (← peekToken?) = some '\x7d' then skip
      failHere (.duplicateField key)
    else
      colon
      return ms.set key (← f.layout.read depth)
  | none =>
    colon
    skipValue
    return ms

/-- An object with just the members of a record. -/
theorem reads_closedRecord {name : String} {m : String × Json} {ms : Members}
    (hkeys : Members.keys (m :: ms) |>.Nodup) (hmissing : missing? fields (m :: ms) = none)
    (hfields : ∀ m' ∈ m :: ms, ∃ f, fields.find? (·.name == m'.1) = some f ∧
      Reads EndsNumber (f.layout.read depth) (0x20 :: prettyText (level + 1) m'.2) m'.2) :
    Reads EndsNumber ((closedRecord name fields).read (depth + 1))
      (prettyText level (.obj (m :: ms))) (.obj (m :: ms)) := by
  have heach : ReadsEach (fieldReader fields depth) [] ((m :: ms).map (memberText (level + 1)))
      (m :: ms) := by
    refine readsEach_members [] hkeys fun m' hm' start hnew => ?_
    obtain ⟨f, hfind, hfield⟩ := hfields m' hm'
    have hread : fieldReader fields depth start m'.1 =
        (do colon; return start.set m'.1 (← f.layout.read depth)) := by
      have hnone : (start.value? m'.1).isSome = false := by
        rw [Members.value?_eq_none_iff.mpr hnew]
        rfl
      simp only [fieldReader, hfind, hnone, Bool.false_eq_true, if_false]
    rw [hread]
    exact reads_colon hfield start m'.1
  have hmembers := reads_membersWith (isBlank_of_mem_lineText (level + 1))
    (isBlank_of_mem_lineText level) heach
  rw [prettyText_obj_cons]
  refine Reads.token (by decide) (Reads.skip (hmembers.bind_nil ?_ fun _ _ => trivial))
  rw [hmissing]
  exact reads_pure _

end Catalog.Json.Layout
