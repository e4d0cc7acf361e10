import Mathlib.Algebra.GroupWithZero.Nat
import Mathlib.Data.List.Basic

/-!
# Texts as Bytes

A text in UTF-8.  An ASCII character is one byte, and this byte is no part of any other character,
so a search for ASCII characters may look at one byte after the other.
-/

namespace ViewPreview.Text

/-- The number of bytes that a text takes in UTF-8. -/
def utf8Length (text : List Char) : Nat :=
  (text.map Char.utf8Size).sum

/-- The bytes of a text in UTF-8. -/
def bytes (text : List Char) : List UInt8 :=
  text.flatMap String.utf8EncodeChar

@[simp] theorem utf8Length_nil : utf8Length [] = 0 :=
  rfl

theorem utf8Length_cons (c : Char) (text : List Char) :
    utf8Length (c :: text) = c.utf8Size + utf8Length text := by
  rw [utf8Length, List.map_cons, List.sum_cons, ← utf8Length]

theorem utf8Length_append (first second : List Char) :
    utf8Length (first ++ second) = utf8Length first + utf8Length second := by
  rw [utf8Length, List.map_append, List.sum_append, ← utf8Length, ← utf8Length]

theorem length_le_utf8Length (text : List Char) : text.length ≤ utf8Length text := by
  induction text with
  | nil => exact Nat.le_refl 0
  | cons c text ih =>
    have := c.utf8Size_pos
    rw [List.length_cons, utf8Length_cons]
    omega

theorem utf8Length_le_of_isInfix {part whole : List Char} (inside : part <:+: whole) :
    utf8Length part ≤ utf8Length whole := by
  obtain ⟨front, back, rfl⟩ := inside
  rw [utf8Length_append, utf8Length_append]
  omega

theorem length_bytes (text : List Char) : (bytes text).length = utf8Length text := by
  rw [bytes, List.length_flatMap, utf8Length]
  simp only [String.length_utf8EncodeChar]

@[simp] theorem bytes_nil : bytes [] = [] :=
  rfl

theorem bytes_cons (c : Char) (text : List Char) :
    bytes (c :: text) = String.utf8EncodeChar c ++ bytes text :=
  List.flatMap_cons

theorem bytes_append (first second : List Char) :
    bytes (first ++ second) = bytes first ++ bytes second :=
  List.flatMap_append

/-- The bytes from a character on are those of the text from it on. -/
theorem drop_bytes (before rest : List Char) :
    (bytes (before ++ rest)).drop (utf8Length before) = bytes rest := by
  rw [bytes_append, ← length_bytes, List.drop_left]

/-! ## ASCII characters -/

theorem toNat_le_of_utf8Size {c : Char} (ascii : c.utf8Size = 1) : c.val.toNat ≤ 127 := by
  by_contra large
  have size : (String.utf8EncodeChar c).length = 1 := by
    rw [String.length_utf8EncodeChar, ascii]
  unfold String.utf8EncodeChar at size
  dsimp only at size
  rw [if_neg large] at size
  split at size
  · cases size
  · split at size
    · cases size
    · cases size

theorem toNat_toUInt8 {c : Char} (ascii : c.utf8Size = 1) : c.toUInt8.toNat = c.val.toNat := by
  have small := toNat_le_of_utf8Size ascii
  change c.val.toNat % 256 = c.val.toNat
  omega

theorem utf8EncodeChar_of_utf8Size {c : Char} (ascii : c.utf8Size = 1) :
    String.utf8EncodeChar c = [c.toUInt8] :=
  String.utf8EncodeChar_eq_singleton ascii

theorem bytes_cons_of_utf8Size {c : Char} (ascii : c.utf8Size = 1) (text : List Char) :
    bytes (c :: text) = c.toUInt8 :: bytes text := by
  rw [bytes_cons, utf8EncodeChar_of_utf8Size ascii]
  rfl

/-- The byte of an ASCII character stands for nothing else. -/
theorem eq_of_mem_utf8EncodeChar {c a : Char} (ascii : a.utf8Size = 1)
    (member : a.toUInt8 ∈ String.utf8EncodeChar c) : c = a := by
  have small := toNat_le_of_utf8Size ascii
  have value := toNat_toUInt8 ascii
  have large {n : Nat} (same : a.toUInt8 = UInt8.ofNat n) : n % 256 = a.val.toNat := by
    rw [← value, same]
    exact (UInt8.toNat_ofNat' ..).symm
  unfold String.utf8EncodeChar at member
  dsimp only at member
  split at member
  · next one =>
    have same := large (List.mem_singleton.mp member)
    apply Char.ext
    apply UInt32.toNat_inj.mp
    omega
  -- Every byte of a longer encoding is at least 128.
  · split at member
    · rcases List.mem_pair.mp member with first | second
      · have := large first
        omega
      · have := large second
        omega
    · split at member
      · simp only [List.mem_cons, List.not_mem_nil, or_false] at member
        rcases member with first | second | third
        · have := large first
          omega
        · have := large second
          omega
        · have := large third
          omega
      · simp only [List.mem_cons, List.not_mem_nil, or_false] at member
        rcases member with first | second | third | fourth
        · have := large first
          omega
        · have := large second
          omega
        · have := large third
          omega
        · have := large fourth
          omega

end ViewPreview.Text
