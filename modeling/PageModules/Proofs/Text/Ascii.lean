import Mathlib.Data.List.Basic
import PageModules.Text.Basic

/-!
# Texts of ASCII characters

The characters of an ASCII text are its bytes (`toList_eq_byteChars`). To read off the bytes takes a
proof by evaluation much less than to decode the text.
-/

namespace PageModules.Text

/-- The bytes of a text. -/
def bytes (s : String) : List UInt8 := s.toByteArray.data.toList

/-- Whether all characters are ASCII. -/
def isAscii (s : String) : Bool := (bytes s).all fun b => Nat.blt b.toNat 128

/-- The bytes of a text as characters. -/
def byteChars (s : String) : List Char := (bytes s).map fun b => Char.ofNat b.toNat

theorem bytes_eq (s : String) : bytes s = s.toList.flatMap String.utf8EncodeChar := by
  have h : bytes (String.ofList s.toList) = s.toList.flatMap String.utf8EncodeChar := by
    rw [bytes, String.toByteArray_ofList, List.utf8Encode, List.toList_data_toByteArray]
  rwa [String.ofList_toList] at h

/-- Only a character of ASCII is written without a byte beyond ASCII, and it is that byte. -/
theorem map_utf8EncodeChar {c : Char} (h : ∀ b ∈ String.utf8EncodeChar c, b.toNat < 128) :
    (String.utf8EncodeChar c).map (fun b => Char.ofNat b.toNat) = [c] := by
  have hbyte {m : ℕ} (hlow : 128 ≤ m) (hhigh : m < 256) : ¬ (UInt8.ofNat m).toNat < 128 := by
    rw [UInt8.toNat_ofNat']
    omega
  unfold String.utf8EncodeChar at h ⊢
  dsimp only at h ⊢
  split at h
  case isTrue hascii =>
    have hmod : c.val.toNat % 2 ^ 8 = c.val.toNat := Nat.mod_eq_of_lt (by omega)
    rw [if_pos hascii, List.map_singleton, UInt8.toNat_ofNat', hmod]
    exact congrArg (fun c => [c]) c.ofNat_toNat
  case isFalse =>
    -- The first of several bytes is beyond ASCII.
    exfalso
    split at h
    · exact hbyte (by omega) (by omega) (h _ List.mem_cons_self)
    · split at h
      · exact hbyte (by omega) (by omega) (h _ List.mem_cons_self)
      · exact hbyte (by omega) (by omega) (h _ List.mem_cons_self)

theorem toList_eq_byteChars {s : String} (h : isAscii s = true) : s.toList = byteChars s := by
  rw [isAscii, bytes_eq, List.all_eq_true] at h
  rw [byteChars, bytes_eq, List.map_flatMap]
  have hchars : ∀ c ∈ s.toList,
      (String.utf8EncodeChar c).map (fun b => Char.ofNat b.toNat) = [c] := by
    intro c hc
    exact map_utf8EncodeChar fun b hb => Nat.blt_eq.mp (h b (List.mem_flatMap.mpr ⟨c, hc, hb⟩))
  rw [List.flatMap_congr hchars, List.flatMap_singleton']

theorem toNat_ofNat {n : ℕ} (h : n < 128) : (Char.ofNat n).toNat = n := by
  rw [Char.ofNat, dif_pos (Or.inl (by omega))]
  rfl

/-- A character of an ASCII text is one of its bytes. -/
theorem mem_bytes_of_mem {s : String} (h : isAscii s = true) {c : Char} (hc : c ∈ s.toList) :
    ∃ b ∈ bytes s, b.toNat = c.toNat := by
  rw [toList_eq_byteChars h] at hc
  obtain ⟨b, hb, rfl⟩ := List.mem_map.mp hc
  have hlt : b.toNat < 128 := Nat.blt_eq.mp (List.all_eq_true.mp h b hb)
  exact ⟨b, hb, (toNat_ofNat hlt).symm⟩

/-- Whether a text has characters, and only those of ASCII that can be seen. -/
def isVisible (s : String) : Bool :=
  !(bytes s).isEmpty && (bytes s).all fun b => Nat.ble 33 b.toNat && Nat.ble b.toNat 126

theorem toList_of_isVisible {s : String} (h : isVisible s = true) :
    s.toList ≠ [] ∧ ∀ c ∈ s.toList, 33 ≤ c.toNat ∧ c.toNat ≤ 126 := by
  rw [isVisible, Bool.and_eq_true, List.all_eq_true] at h
  obtain ⟨hne, hbytes⟩ := h
  have hbetween : ∀ b ∈ bytes s, 33 ≤ b.toNat ∧ b.toNat ≤ 126 := by
    intro b hb
    have h := hbytes b hb
    rwa [Bool.and_eq_true, Nat.ble_eq, Nat.ble_eq] at h
  have hascii : isAscii s = true := by
    refine List.all_eq_true.mpr fun b hb => Nat.blt_eq.mpr ?_
    have := (hbetween b hb).2
    omega
  rw [toList_eq_byteChars hascii, byteChars]
  constructor
  · intro hnil
    rw [List.map_eq_nil_iff.mp hnil] at hne
    cases hne
  · rw [List.forall_mem_map]
    intro b hb
    have hb := hbetween b hb
    rwa [toNat_ofNat (by omega)]

end PageModules.Text
