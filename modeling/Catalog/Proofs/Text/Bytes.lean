import Catalog.Text.Utf8
import Mathlib.Data.List.Basic

/-!
# Texts as bytes

The bytes of a text are the encodings of its characters one after another, and they read back as the
text. The characters below 128 are bytes of their own, and no other character has such a byte.

## Main results

* `toUTF8_toList` — the bytes of a text.
* `fromUTF8?_utf8` — **bytes read back as the text.**
* `utf8_singleton_of_lt`, `le_of_mem_utf8_singleton` — the bytes of one character.
-/

namespace Catalog.Text

@[simp] theorem utf8_nil : utf8 [] = [] := rfl

theorem utf8_cons (c : Char) (cs : List Char) : utf8 (c :: cs) = utf8 [c] ++ utf8 cs := by
  simp [utf8]

theorem utf8_append (cs ds : List Char) : utf8 (cs ++ ds) = utf8 cs ++ utf8 ds := by
  simp [utf8]

/-- The bytes of an array, as a list. -/
theorem byteArray_toList (a : ByteArray) : a.toList = a.data.toList := by
  have hsize : a.size = a.data.toList.length := Array.length_toList.symm
  have hloop : ∀ (n i : Nat) (r : List UInt8), a.size - i = n → i ≤ a.size →
      ByteArray.toList.loop a i r = r.reverse ++ a.data.toList.drop i := by
    intro n
    induction n with
    | zero =>
      intro i r hn hi
      have heq : i = a.data.toList.length := by omega
      rw [ByteArray.toList.loop, if_neg (by omega), heq, List.drop_length, List.append_nil]
    | succ n ih =>
      intro i r hn hi
      have hlt : i < a.data.toList.length := by omega
      have hget : a.get! i = a.data.toList[i] := by
        rw [ByteArray.get!, getElem!_pos a.data i (by rwa [← Array.length_toList]),
          Array.getElem_toList]
      rw [ByteArray.toList.loop, if_pos (by omega), ih (i + 1) _ (by omega) (by omega), hget,
        List.drop_eq_getElem_cons hlt, List.reverse_cons, List.append_assoc]
      rfl
  rw [ByteArray.toList, hloop _ 0 [] rfl (Nat.zero_le _)]
  rfl

/-- The bytes of a text. -/
theorem toUTF8_toList (s : String) : s.toUTF8.toList = utf8 s.toList := by
  rw [byteArray_toList, String.toUTF8_eq_toByteArray, ← String.utf8Encode_toList, List.utf8Encode,
    List.toList_data_toByteArray]
  rfl

/-- Bytes read back as the text. -/
theorem fromUTF8?_utf8 (cs : List Char) :
    String.fromUTF8? ⟨(utf8 cs).toArray⟩ = some (String.ofList cs) := by
  have hbytes : (⟨(utf8 cs).toArray⟩ : ByteArray) = cs.utf8Encode := by
    apply ByteArray.ext
    rw [← Array.toList_inj, List.utf8Encode, List.toList_data_toByteArray]
    rfl
  rw [hbytes, String.fromUTF8?, dif_pos ByteArray.isValidUTF8_utf8Encode]
  rfl

/-- A character below 128 is a byte of its own. -/
theorem utf8_singleton_of_lt {c : Char} (h : c.toNat < 0x80) : utf8 [c] = [c.toNat.toUInt8] := by
  have hle : c.val.toNat ≤ 0x7f := Nat.le_of_lt_succ h
  simp only [utf8, List.flatMap_cons, List.flatMap_nil, List.append_nil, String.utf8EncodeChar,
    if_pos hle]
  rfl

/-- All bytes of any other character are 128 at least. -/
theorem le_of_mem_utf8_singleton {c : Char} (h : 0x80 ≤ c.toNat) {b : UInt8}
    (hb : b ∈ utf8 [c]) : 0x80 ≤ b.toNat := by
  have hlt : ¬ c.val.toNat ≤ 0x7f := Nat.not_le.mpr h
  simp only [utf8, List.flatMap_cons, List.flatMap_nil, List.append_nil, String.utf8EncodeChar,
    if_neg hlt] at hb
  split at hb
  · simp only [List.mem_cons, List.not_mem_nil, or_false] at hb
    rcases hb with rfl | rfl <;> simp only [UInt8.toNat_ofNat'] <;> omega
  · split at hb
    · simp only [List.mem_cons, List.not_mem_nil, or_false] at hb
      rcases hb with rfl | rfl | rfl <;> simp only [UInt8.toNat_ofNat'] <;> omega
    · simp only [List.mem_cons, List.not_mem_nil, or_false] at hb
      rcases hb with rfl | rfl | rfl | rfl <;> simp only [UInt8.toNat_ofNat'] <;> omega

/-- The byte of a character below 128 stands for it. -/
theorem ofUInt8_toUInt8 {c : Char} (h : c.toNat < 0x80) : Char.ofUInt8 c.toNat.toUInt8 = c := by
  apply Char.ext
  apply UInt32.toNat_inj.mp
  show c.toNat.toUInt8.toUInt32.toNat = c.toNat
  rw [UInt8.toNat_toUInt32, UInt8.toNat_ofNat']
  exact Nat.mod_eq_of_lt (by omega)

end Catalog.Text
