import Catalog.Json.Layout
import Catalog.Proofs.Json.Bounded
import Catalog.Proofs.Json.ReadsNumber

/-!
# What readers yield

Whatever a reader of documents yields is bounded: the depth is that of the reader, a repeated key
keeps one place, and an integer is one that a 64-bit word holds.

## Main definitions

* `Reader.Yields` — all results of a reader have a property.
* `Number.InRange` — an integer that a signed or unsigned 64-bit word holds, or a double.

## Main results

* `Reader.yields_value` — **documents.**
* `Layout.yields_readMembers`, `Layout.yields_readItems` — records.
-/

namespace Catalog.Json

/-- The number is a double or an integer that a signed or unsigned 64-bit word holds. -/
def Number.InRange : Number → Prop
  | .int n => -9223372036854775808 ≤ n ∧ n ≤ 18446744073709551615
  | .float _ => True

namespace Reader

variable {α β σ : Type} {P : α → Prop} {Q : β → Prop} {I : σ → Prop} {r : Reader α}
  {f : α → Reader β} {depth : Nat}

/-- All results of the reader have the property. -/
def Yields (P : α → Prop) (r : Reader α) : Prop :=
  ∀ c a c', r.run c = .ok (a, c') → P a

theorem yields_true (r : Reader α) : Yields (fun _ => True) r :=
  fun _ _ _ _ => trivial

theorem Yields.mono {P' : α → Prop} (h : Yields P r) (hP : ∀ a, P a → P' a) : Yields P' r :=
  fun c a c' hok => hP a (h c a c' hok)

theorem yields_pure {a : α} (h : P a) : Yields P (pure a) := by
  intro c a' c' hok
  obtain ⟨rfl, -⟩ := Prod.mk.inj (Except.ok.inj hok)
  exact h

theorem yields_failHere (fault : Fault) : Yields P (failHere fault) :=
  fun c a c' hok => absurd hok (run_failHere_ne fault c (a, c'))

theorem yields_failAhead (fault : Fault) : Yields P (failAhead fault) :=
  fun c a c' hok => absurd hok (run_failAhead_ne fault c (a, c'))

/-- One reader after another. -/
theorem Yields.bind (h : Yields P r) (hf : ∀ a, P a → Yields Q (f a)) : Yields Q (r >>= f) := by
  intro c b c' hok
  rw [StateT.run_bind] at hok
  obtain ⟨⟨a, c₁⟩, hr, hb⟩ := bind_eq_ok_iff.mp hok
  exact hf a (h c a c₁ hr) c₁ b c' hb

/-- A reader after one whose result does not matter. -/
theorem Yields.after (hf : ∀ a, Yields Q (f a)) : Yields Q (r >>= f) :=
  (yields_true r).bind fun a _ => hf a

theorem Yields.map {g : α → β} (h : Yields P r) (hg : ∀ a, P a → Q (g a)) :
    Yields Q (do return g (← r)) :=
  h.bind fun a ha => yields_pure (hg a ha)

/-! ### Numbers -/

theorem yields_double (negative : Bool) (n : Nat) (e : Int) :
    Yields Number.InRange (double negative n e) := by
  rw [double]
  split
  · exact yields_pure trivial
  · exact yields_failHere _

theorem yields_wordOrDouble (negative : Bool) {n : Nat} (hn : n ≤ maxWord) :
    Yields Number.InRange (wordOrDouble negative n) := by
  rw [maxWord] at hn
  rw [wordOrDouble]
  split
  · split
    · next h => exact yields_pure (show _ ≤ _ ∧ _ ≤ _ by omega)
    · exact yields_double _ _ _
  · exact yields_pure (show _ ≤ _ ∧ _ ≤ _ by omega)

theorem yields_exponentAfterSign (negative : Bool) (n : Nat) (e : Int) (negativeExponent : Bool) :
    Yields Number.InRange (exponentAfterSign negative n e negativeExponent) := by
  rw [exponentAfterSign]
  refine Yields.after fun c => ?_
  split
  · exact yields_failHere _
  · split
    · exact yields_failHere _
    · refine Yields.after fun _ => Yields.after fun e' => ?_
      split
      · exact yields_double _ _ _
      · split
        · exact yields_failHere _
        · exact Yields.after fun _ => yields_pure trivial

theorem yields_exponentPart (negative : Bool) (n : Nat) (e : Int) :
    Yields Number.InRange (exponentPart negative n e) := by
  have hsign := yields_exponentAfterSign negative n e
  rw [exponentPart]
  refine Yields.after fun c => ?_
  split
  · exact Yields.after fun _ => Yields.after hsign
  · exact Yields.after fun _ => Yields.after hsign
  · exact Yields.after hsign

theorem yields_afterDigits (negative : Bool) (n : Nat) (e : Int) :
    Yields Number.InRange (afterDigits negative n e) := by
  rw [afterDigits]
  refine Yields.after fun c => ?_
  split
  · exact Yields.after fun _ => yields_exponentPart _ _ _
  · exact Yields.after fun _ => yields_exponentPart _ _ _
  · exact yields_double _ _ _

theorem yields_fractionPart (negative : Bool) (n : Nat) (e : Int) :
    Yields Number.InRange (fractionPart negative n e) := by
  rw [fractionPart]
  refine Yields.after fun ds => ?_
  split
  · refine Yields.after fun c => ?_
    split
    · exact yields_failAhead _
    · exact yields_failAhead _
  · exact yields_afterDigits _ _ _

/-- A significand stays a 64-bit word. -/
theorem absorb_le {n : Nat} (hn : n ≤ maxWord) (ds : List Nat) : (absorb n ds).1 ≤ maxWord := by
  induction ds generalizing n with
  | nil => exact hn
  | cons d ds ih =>
    rw [absorb]
    split
    · next h => exact ih h
    · exact hn

/-- The numbers that a reader yields are in range. -/
theorem yields_number (negative : Bool) : Yields Number.InRange (number negative) := by
  have hzero : Yields Number.InRange (wordOrDouble negative 0) :=
    yields_wordOrDouble negative (Nat.zero_le _)
  rw [number]
  refine Yields.after fun c => ?_
  split
  · exact yields_failHere _
  · refine Yields.after fun _ => Yields.after fun c => ?_
    split
    · exact Yields.after fun _ => yields_fractionPart _ _ _
    · exact Yields.after fun _ => yields_exponentPart _ _ _
    · exact Yields.after fun _ => yields_exponentPart _ _ _
    · split
      · exact yields_failAhead _
      · exact hzero
    · exact hzero
  · refine Yields.after fun ds => ?_
    split
    · exact Yields.after fun _ => yields_failHere _
    · refine Yields.after fun c => ?_
      split
      · exact Yields.after fun _ => yields_fractionPart _ _ _
      · exact Yields.after fun _ => yields_exponentPart _ _ _
      · exact Yields.after fun _ => yields_exponentPart _ _ _
      · split
        · exact yields_wordOrDouble _ (absorb_le (Nat.zero_le _) _)
        · exact yields_double _ _ _

/-! ### Containers -/

/-- All items of an array have what the reader of an item yields. -/
theorem yields_itemsUntilEnd {item : Reader α} (h : Yields P item) (n : Nat) (acc : List α)
    (hacc : ∀ a ∈ acc, P a) : Yields (fun as => ∀ a ∈ as, P a) (itemsUntilEnd item n acc) := by
  induction n generalizing acc with
  | zero => exact yields_failAhead _
  | succ n ih =>
    have hcons : ∀ a, P a → Yields (fun as => ∀ a ∈ as, P a) (itemsUntilEnd item n (a :: acc)) :=
      fun a ha => ih (a :: acc) (List.forall_mem_cons.mpr ⟨ha, hacc⟩)
    have hfirst : ∀ a, P a → Yields (fun as => ∀ a ∈ as, P a) (itemsUntilEnd item n [a]) :=
      fun a ha => ih [a] (List.forall_mem_singleton.mpr ha)
    rw [itemsUntilEnd]
    refine Yields.after fun c => ?_
    split
    · exact yields_failAhead _
    · exact Yields.after fun _ => yields_pure fun a ha => hacc a (List.mem_reverse.mp ha)
    · split
      · exact h.bind hfirst
      · split
        · refine Yields.after fun _ => Yields.after fun c => ?_
          split
          · exact yields_failAhead _
          · exact yields_failAhead _
          · exact h.bind hcons
        · exact yields_failAhead _

theorem yields_items {item : Reader α} (h : Yields P item) :
    Yields (fun as => ∀ a ∈ as, P a) (items item) :=
  Yields.after fun n => yields_itemsUntilEnd h n [] (List.forall_mem_nil _)

/-- A property that each member keeps holds of the members as a whole. -/
theorem yields_membersUntilEnd {member : σ → String → Reader σ}
    (h : ∀ state key, I state → Yields I (member state key)) (n : Nat) (first : Bool) (state : σ)
    (hstate : I state) : Yields I (membersUntilEnd member n first state) := by
  induction n generalizing first state with
  | zero => exact yields_failAhead _
  | succ n ih =>
    have hnext : Yields I
        (do skip; membersUntilEnd member n false (← member state (← stringBody))) :=
      Yields.after fun _ => Yields.after fun key =>
        (h state key hstate).bind fun state' hstate' => ih false state' hstate'
    rw [membersUntilEnd]
    refine Yields.after fun c => ?_
    split
    · exact yields_failAhead _
    · exact Yields.after fun _ => yields_pure hstate
    · split
      · split
        · exact hnext
        · exact yields_failAhead _
      · split
        · refine Yields.after fun _ => Yields.after fun c => ?_
          split
          · exact yields_failAhead _
          · exact hnext
          · exact yields_failAhead _
          · exact yields_failAhead _
        · exact yields_failAhead _

theorem yields_membersWith {member : σ → String → Reader σ}
    (h : ∀ state key, I state → Yields I (member state key)) {state : σ} (hstate : I state) :
    Yields I (membersWith member state) :=
  Yields.after fun n => yields_membersUntilEnd h n true state hstate

/-- The members of an object have distinct keys and what the reader of an item yields. -/
theorem yields_members {p : Number → Prop} {item : Reader Json}
    (h : Yields (Bounded p depth) item) :
    Yields (fun ms => Bounded p (depth + 1) (obj ms)) (members item) :=
  yields_membersWith
    (fun _ _ hms => Yields.after fun _ => h.map fun _ hv => hms.set hv) bounded_obj_nil

/-- A document, given what the reader of its inner documents yields. -/
theorem yields_value_step (h : ∀ d, depth = d + 1 → Yields (Bounded Number.InRange d) (value d)) :
    Yields (Bounded Number.InRange depth) (value depth) := by
  rw [value.eq_def]
  refine Yields.after fun c => ?_
  split
  · exact yields_failAhead _
  · exact Yields.after fun _ => Yields.after fun _ => yields_pure .null
  · exact Yields.after fun _ => Yields.after fun _ => yields_pure (.bool true)
  · exact Yields.after fun _ => Yields.after fun _ => yields_pure (.bool false)
  · exact Yields.after fun _ => (yields_number true).map fun _ hn => .num hn
  · exact Yields.after fun _ => (yields_true stringBody).map fun s _ => .str s
  · cases depth with
    | zero => exact yields_failAhead _
    | succ d => exact Yields.after fun _ => (yields_items (h d rfl)).map fun _ hxs => .arr hxs
  · cases depth with
    | zero => exact yields_failAhead _
    | succ d => exact Yields.after fun _ => (yields_members (h d rfl)).map fun _ hms => hms
  · split
    · exact (yields_number false).map fun _ hn => .num hn
    · exact yields_failAhead _

/-- **Whatever a reader of documents yields is bounded.** -/
theorem yields_value (depth : Nat) : Yields (Bounded Number.InRange depth) (value depth) := by
  induction depth with
  | zero => exact yields_value_step fun d hd => by cases hd
  | succ depth ih =>
    refine yields_value_step fun d hd => ?_
    obtain rfl := Nat.succ.inj hd
    exact ih

end Reader

/-! ### Layouts -/

namespace Layout

open Reader

variable {P Q : Json → Prop} {depth : Nat} {l : Layout} {fields : List Field}

/-- A mismatch is no result. -/
theorem yields_mismatch {α : Type} {P : α → Prop} (expected : String) :
    Yields P (mismatch expected) := by
  have hword : ∀ (w : List Char) (found : Found),
      Yields P (do Reader.skip; Reader.word w; Reader.failHere (.wrongType found expected)) :=
    fun w found => Yields.after fun _ => Yields.after fun _ => yields_failHere _
  refine Yields.after fun c => ?_
  split
  · exact hword ['u', 'l', 'l'] .null
  · exact hword ['r', 'u', 'e'] (.bool true)
  · exact hword ['a', 'l', 's', 'e'] (.bool false)
  · exact Yields.after fun _ => Yields.after fun _ => yields_failHere _
  · exact Yields.after fun _ => Yields.after fun _ => yields_failHere _
  · exact yields_failHere _
  · exact yields_failHere _
  · split
    · exact Yields.after fun _ => yields_failHere _
    · exact yields_failAhead _
  · exact yields_failAhead _

theorem yields_string (depth : Nat) : Yields (fun v => ∃ s, v = .str s) (string.read depth) := by
  refine Yields.after fun c => ?_
  split
  · exact Yields.after fun _ => (yields_true stringBody).map fun s _ => ⟨s, rfl⟩
  · exact yields_mismatch _

/-- The items of an array. -/
theorem yields_list (h : Yields P (l.read depth)) :
    Yields (fun v => ∀ x ∈ v.items, P x) ((list l).read (depth + 1)) := by
  refine Yields.after fun c => ?_
  split
  · exact Yields.after fun _ => (yields_items h).map fun _ hxs => hxs
  · exact yields_mismatch _

/-- The members of a record, given what the readers of its fields yield and what is done with other
members. -/
theorem yields_readMembers {others : Members → String → Reader Members}
    (h : ∀ f ∈ fields, Yields P (f.layout.read depth))
    (hothers : ∀ ms key, (∀ m ∈ ms, P m.2) → Yields (fun ms => ∀ m ∈ ms, P m.2) (others ms key)) :
    Yields (fun v => ∃ ms : Members, v = .obj ms ∧ ∀ m ∈ ms, P m.2)
      (readMembers fields depth others) := by
  rw [readMembers]
  refine Yields.bind (P := fun ms => ∀ m ∈ ms, P m.2) ?_ fun ms hms => ?_
  · refine yields_membersWith (fun ms key hms => ?_) (List.forall_mem_nil _)
    split
    · next f hfind =>
      split
      · refine Yields.after fun c => ?_
        split
        · exact Yields.after fun _ => yields_failHere _
        · exact yields_failHere _
      · refine Yields.after fun _ => (h f (List.mem_of_find?_eq_some hfind)).map fun v hv m hm => ?_
        -- only the member that was read is new
        rcases Members.mem_of_mem_set hm with hmem | rfl
        · exact hms m hmem
        · exact hv
    · exact Yields.after fun _ => hothers ms key hms
  · split
    · exact yields_failHere _
    · exact yields_pure ⟨ms, rfl, hms⟩

/-- The items of an array that stands for a record. -/
theorem yields_readItems {name : String} {all : List Field}
    (h : ∀ f ∈ fields, Yields P (f.layout.read depth)) (acc : List Json) (hacc : ∀ x ∈ acc, P x) :
    Yields (fun xs => ∀ x ∈ xs, P x) (readItems name all depth fields acc) := by
  induction fields generalizing acc with
  | nil =>
    rw [readItems]
    refine Yields.after fun c => ?_
    split
    · exact Yields.after fun _ => yields_pure hacc
    · refine Yields.after fun _ => Yields.after fun c => ?_
      split
      · exact yields_failAhead _
      · exact yields_failAhead _
    · exact yields_failAhead _
    · exact yields_failAhead _
  | cons f fields ih =>
    obtain ⟨hf, hfields⟩ := List.forall_mem_cons.mp h
    rw [readItems]
    refine Yields.after fun c => ?_
    split
    · exact yields_failAhead _
    · refine Yields.after fun _ => ?_
      split
      · exact yields_failHere _
      · exact yields_pure hacc
    · split
      · exact hf.bind fun v hv => ih hfields [v] (List.forall_mem_singleton.mpr hv)
      · split
        · refine Yields.after fun _ => Yields.after fun c => ?_
          split
          · exact yields_failAhead _
          · exact yields_failAhead _
          · refine hf.bind fun v hv => ih hfields (acc ++ [v]) fun x hx => ?_
            rcases List.mem_append.mp hx with hx | hx
            · exact hacc x hx
            · rwa [List.mem_singleton.mp hx]
        · exact yields_failAhead _

/-- The members of a closed record, be it written as an object or as an array. -/
theorem yields_closedRecord {name : String} (h : ∀ f ∈ fields, Yields P (f.layout.read depth)) :
    Yields (fun v => ∀ m ∈ recordMembers fields v, P m.2)
      ((closedRecord name fields).read (depth + 1)) := by
  refine Yields.after fun c => ?_
  split
  · have hothers : ∀ (ms : Members) (key : String), (∀ m ∈ ms, P m.2) →
        Yields (fun ms : Members => ∀ m ∈ ms, P m.2) (do Reader.skipValue; return ms) :=
      fun ms _ hms => Yields.after fun _ => yields_pure hms
    have hmembers := yields_readMembers h hothers
    refine Yields.after fun _ => hmembers.mono ?_
    rintro v ⟨ms, rfl, hms⟩
    exact hms
  · refine Yields.after fun _ => ?_
    refine (yields_readItems h [] (List.forall_mem_nil _)).map fun xs hxs m hm => ?_
    exact hxs m.2 (List.of_mem_zip hm).2
  · exact yields_mismatch _

end Layout

end Catalog.Json
