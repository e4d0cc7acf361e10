import Mathlib.Order.Bounds.Basic
import Mathlib.Order.Nat
import ViewPreview.Proofs.Call.Matching
import ViewPreview.Proofs.Passage.Bytes

/-!
# Where a Block Ends

The search for the end of a block counts two ASCII brackets among the bytes of a text.  It ends at
the first byte up to which as many brackets have been closed as have been opened, and finds nothing
exactly when there is no such byte.  The bytes in front of it are the text of the block, whose
brackets match, and the cursor goes on behind it.
-/

namespace ViewPreview.Passage

open ViewPreview.Text ViewPreview.Call

namespace Cursor

/-! ## Counting among bytes -/

/-- How many more opening than closing brackets there are among bytes. -/
def surplus (opening closing : UInt8) (bytes : List UInt8) : Int :=
  bytes.count opening - bytes.count closing

/-- Whether a byte closes the last of some brackets that are open in front of the bytes: up to it,
all of them and all that are opened on the way have been closed. -/
def ClosesAll (opening closing : UInt8) (depth : Nat) (bytes : List UInt8) (index : Nat) : Prop :=
  index < bytes.length ∧ depth + surplus opening closing (bytes.take (index + 1)) = 0

section Counting

variable {opening closing byte : UInt8} {rest : List UInt8} {depth deeper index : Nat}

theorem surplus_cons :
    surplus opening closing (byte :: rest) =
      surplus opening closing [byte] + surplus opening closing rest := by
  unfold surplus
  rw [← List.singleton_append, List.count_append, List.count_append]
  push_cast
  omega

theorem surplus_opening (distinct : closing ≠ opening) :
    surplus opening closing [opening] = 1 := by
  rw [surplus, List.count_singleton_self, List.count_singleton,
    beq_eq_false_iff_ne.mpr distinct.symm]
  rfl

theorem surplus_closing (distinct : closing ≠ opening) :
    surplus opening closing [closing] = -1 := by
  rw [surplus, List.count_singleton_self, List.count_singleton, beq_eq_false_iff_ne.mpr distinct]
  rfl

theorem surplus_other (noOpening : byte ≠ opening) (noClosing : byte ≠ closing) :
    surplus opening closing [byte] = 0 := by
  rw [surplus, List.count_singleton, List.count_singleton, beq_eq_false_iff_ne.mpr noOpening,
    beq_eq_false_iff_ne.mpr noClosing]
  rfl

/-- A byte that leaves brackets open is not the last one, and the others go on from the new
depth. -/
theorem closesAll_cons (changed : (depth : Int) + surplus opening closing [byte] = deeper)
    (remain : deeper ≠ 0) :
    ClosesAll opening closing depth (byte :: rest) index ↔
      ∃ behind, index = 1 + behind ∧ ClosesAll opening closing deeper rest behind := by
  cases index with
  | zero =>
    refine iff_of_false ?_ fun ⟨behind, same, _⟩ ↦ by omega
    rintro ⟨-, closed⟩
    rw [List.take_succ_cons, List.take_zero, changed] at closed
    omega
  | succ index =>
    have counted : (depth : Int) + surplus opening closing ((byte :: rest).take (index + 1 + 1)) =
        deeper + surplus opening closing (rest.take (index + 1)) := by
      rw [List.take_succ_cons, surplus_cons]
      omega
    rw [ClosesAll, counted, List.length_cons, Nat.add_lt_add_iff_right]
    constructor
    · intro closes
      exact ⟨index, Nat.add_comm index 1, closes⟩
    · rintro ⟨behind, same, closes⟩
      obtain rfl : index = behind := by omega
      exact closes

/-- The least number with a property that is another one from some number on. -/
theorem isLeast_shift {first second : Nat → Prop} {shift : Nat}
    (same : ∀ number, first number ↔ ∃ behind, number = shift + behind ∧ second behind)
    (number : Nat) :
    IsLeast {number | first number} number ↔
      ∃ behind, number = shift + behind ∧ IsLeast {number | second number} behind := by
  constructor
  · rintro ⟨holds, least⟩
    obtain ⟨behind, rfl, isSecond⟩ := (same _).mp holds
    refine ⟨behind, rfl, isSecond, fun other otherSecond ↦ ?_⟩
    exact Nat.le_of_add_le_add_left (least ((same _).mpr ⟨other, rfl, otherSecond⟩))
  · rintro ⟨behind, rfl, isSecond, least⟩
    refine ⟨(same _).mpr ⟨behind, rfl, isSecond⟩, fun other holds ↦ ?_⟩
    obtain ⟨otherBehind, rfl, otherSecond⟩ := (same _).mp holds
    exact Nat.add_le_add_left (least otherSecond) shift

/-- There is a first number with a property when there is any. -/
theorem isSome_iff_of_isLeast {holds : Nat → Prop} {first? : Option Nat}
    (isFirst : ∀ number, first? = some number ↔ IsLeast {number | holds number} number) :
    first?.isSome = true ↔ ∃ number, holds number := by
  rw [Option.isSome_iff_exists]
  constructor
  · rintro ⟨number, found⟩
    exact ⟨number, ((isFirst number).mp found).1⟩
  · intro present
    classical
    exact ⟨_, (isFirst _).mpr (Nat.isLeast_find present)⟩

/-- Whether a search from a cursor on, with some brackets open, goes well and ends at the first byte
that closes all of them, if there is one. -/
def FindsEnd (opening closing : UInt8) (depth cursor : Nat) (bytes : List UInt8)
    (search : Checked (Option Nat)) : Prop :=
  ∃ found, search = .ok found ∧ ∀ stop, found = some stop ↔ ∃ index, stop = cursor + index ∧
    IsLeast {index | ClosesAll opening closing depth bytes index} index

theorem findsEnd_nil {cursor : Nat} : FindsEnd opening closing depth cursor [] (.ok none) := by
  refine ⟨none, rfl, fun stop ↦ iff_of_false (nomatch ·) ?_⟩
  rintro ⟨index, -, ⟨inside, -⟩, -⟩
  exact Nat.not_lt_zero index inside

/-- The search goes on behind a byte that leaves brackets open. -/
theorem FindsEnd.cons {cursor : Nat} {search : Checked (Option Nat)}
    (behind : FindsEnd opening closing deeper (cursor + 1) rest search)
    (changed : (depth : Int) + surplus opening closing [byte] = deeper) (remain : deeper ≠ 0) :
    FindsEnd opening closing depth cursor (byte :: rest) search := by
  obtain ⟨found, searched, isFirst⟩ := behind
  refine ⟨found, searched, fun stop ↦ (isFirst stop).trans ?_⟩
  have shifted (index : Nat) : ClosesAll opening closing depth (byte :: rest) index ↔
      ∃ behind, index = 1 + behind ∧ ClosesAll opening closing deeper rest behind :=
    closesAll_cons changed remain
  simp only [isLeast_shift shifted]
  constructor
  · rintro ⟨index, rfl, least⟩
    exact ⟨1 + index, Nat.add_assoc .., index, rfl, least⟩
  · rintro ⟨-, rfl, index, rfl, least⟩
    exact ⟨index, (Nat.add_assoc ..).symm, least⟩

/-- The search ends at a byte that closes the last bracket. -/
theorem findsEnd_closing {cursor : Nat} (distinct : closing ≠ opening) :
    FindsEnd opening closing 1 cursor (closing :: rest) (.ok (some cursor)) := by
  have here : IsLeast {index | ClosesAll opening closing 1 (closing :: rest) index} 0 := by
    refine ⟨⟨Nat.succ_pos _, ?_⟩, fun index _ ↦ Nat.zero_le index⟩
    rw [List.take_succ_cons, List.take_zero, surplus_closing distinct]
    rfl
  refine ⟨some cursor, rfl, fun stop ↦ ?_⟩
  rw [Option.some.injEq]
  constructor
  · rintro rfl
    exact ⟨0, rfl, here⟩
  · rintro ⟨index, rfl, least⟩
    rw [least.unique here]
    rfl

/-- The search ends at the first byte that closes all brackets.  It never takes one from a depth of
zero, whatever the bytes are. -/
theorem findsEnd_closingPlace? (distinct : closing ≠ opening) (depth cursor : Nat)
    (bytes : List UInt8) :
    FindsEnd opening closing (depth + 1) cursor bytes
      (closingPlace? opening closing (depth + 1) cursor bytes) := by
  induction bytes generalizing depth cursor with
  | nil => exact findsEnd_nil
  | cons byte rest ih =>
    by_cases opens : byte = opening
    · subst opens
      rw [closingPlace?, if_pos rfl]
      refine (ih (depth + 1) (cursor + 1)).cons ?_ (Nat.succ_ne_zero _)
      rw [surplus_opening distinct]
      rfl
    · by_cases closes : byte = closing
      · subst closes
        have taken : subtract (depth + 1) 1 = .ok depth := subtract_eq (Nat.succ_pos depth)
        rw [closingPlace?, if_neg opens, if_pos rfl, taken, ok_bind]
        cases depth with
        | zero => exact findsEnd_closing distinct
        | succ depth =>
          rw [if_neg (Nat.succ_ne_zero depth)]
          refine (ih depth (cursor + 1)).cons ?_ (Nat.succ_ne_zero _)
          rw [surplus_closing distinct]
          push_cast
          omega
      · rw [closingPlace?, if_neg opens, if_neg closes]
        refine (ih depth (cursor + 1)).cons ?_ (Nat.succ_ne_zero _)
        rw [surplus_other opens closes, Int.add_zero]

end Counting

/-! ## The end of a block -/

/-- An ASCII character among the bytes of a text is one of its characters. -/
theorem exists_of_getElem?_bytes {a : Char} (ascii : a.utf8Size = 1) {text : List Char}
    {cursor : Nat} (found : (bytes text)[cursor]? = some a.toUInt8) :
    ∃ before rest, text = before ++ a :: rest ∧ cursor = utf8Length before := by
  induction text generalizing cursor with
  | nil => cases found
  | cons c text ih =>
    rw [bytes_cons] at found
    by_cases inside : cursor < (String.utf8EncodeChar c).length
    · rw [List.getElem?_append_left inside] at found
      obtain rfl := eq_of_mem_utf8EncodeChar ascii (List.mem_of_getElem? found)
      rw [String.length_utf8EncodeChar, ascii] at inside
      exact ⟨[], text, rfl, Nat.lt_one_iff.mp inside⟩
    · rw [Nat.not_lt] at inside
      rw [List.getElem?_append_right inside] at found
      obtain ⟨before, rest, rfl, place⟩ := ih found
      rw [String.length_utf8EncodeChar] at inside place
      refine ⟨c :: before, rest, rfl, ?_⟩
      rw [utf8Length_cons, ← place]
      omega

/-- Whether a place in a passage is a later one up to which as many brackets have been closed as
have been opened from a cursor on, both included. -/
def Settled (opening closing : Char) (whole : Passage) (cursor stop : Nat) : Prop :=
  cursor < stop ∧ stop < utf8Length whole.text ∧
    surplus opening.toUInt8 closing.toUInt8 (((bytes whole.text).take (stop + 1)).drop cursor) = 0

/-- A block at a cursor: what stands between the opening bracket there and the first place where the
brackets are settled, and the place behind it. -/
structure IsBlock (opening closing : Char) (whole : Passage) (cursor : Nat) (inner : List Char)
    (next : Nat) : Prop where
  written : ∃ before rest, whole.text = before ++ opening :: (inner ++ closing :: rest) ∧
    utf8Length before = cursor
  first : IsLeast {stop | Settled opening closing whole cursor stop}
    (cursor + 1 + utf8Length inner)
  matched : Matched opening closing inner
  behind : next = cursor + 1 + utf8Length inner + 1

section Block

variable {opening closing : Char} {whole : Passage} {cursor : Nat}

/-- The brackets are settled where the bytes behind the opening one close it. -/
theorem settled_iff {rest : List UInt8} (distinct : closing.toUInt8 ≠ opening.toUInt8)
    (opens : bytesFrom whole cursor = opening.toUInt8 :: rest) (stop : Nat) :
    Settled opening closing whole cursor stop ↔ ∃ index, stop = cursor + 1 + index ∧
      ClosesAll opening.toUInt8 closing.toUInt8 1 rest index := by
  have size : utf8Length whole.text = cursor + 1 + rest.length := by
    have dropped := congrArg List.length opens
    rw [bytesFrom, List.length_drop, length_bytes, List.length_cons] at dropped
    omega
  have counted (index : Nat) : surplus opening.toUInt8 closing.toUInt8
      (((bytes whole.text).take (cursor + 1 + index + 1)).drop cursor) =
        1 + surplus opening.toUInt8 closing.toUInt8 (rest.take (index + 1)) := by
    have length : cursor + 1 + index + 1 - cursor = index + 1 + 1 := by omega
    rw [List.drop_take, ← bytesFrom, opens, length, List.take_succ_cons, surplus_cons,
      surplus_opening distinct]
  constructor
  · rintro ⟨later, inside, settled⟩
    obtain ⟨index, rfl⟩ := Nat.exists_eq_add_of_le (Nat.succ_le_of_lt later)
    rw [counted] at settled
    exact ⟨index, rfl, by omega, settled⟩
  · rintro ⟨index, rfl, inside, settled⟩
    refine ⟨by omega, by omega, ?_⟩
    rw [counted]
    exact settled

/-- From an opening bracket on, the block is found that ends at the first place where the brackets
are settled, and nothing when they are settled nowhere. -/
theorem block_of_opens (asciiOpening : opening.utf8Size = 1) (asciiClosing : closing.utf8Size = 1)
    (distinct : closing.toUInt8 ≠ opening.toUInt8)
    (opens : (bytes whole.text)[cursor]? = some opening.toUInt8) :
    ∃ found, block opening closing whole cursor = .ok found ∧
      (found.isSome = true ↔ ∃ stop, Settled opening closing whole cursor stop) ∧
      ∀ inner next, found = some (inner, next) →
        IsBlock opening closing whole cursor inner.text next := by
  obtain ⟨before, text, written, rfl⟩ := exists_of_getElem?_bytes asciiOpening opens
  have place : At whole (utf8Length before) (whole.moveTo (opening :: text)) := .of_append written
  have front : bytesFrom whole (utf8Length before) = opening.toUInt8 :: bytes text := by
    rw [place.bytesFrom_eq, text_moveTo, bytes_cons_of_utf8Size asciiOpening]
  obtain ⟨end?, searched, isEnd⟩ :=
    findsEnd_closingPlace? distinct 0 (utf8Length before + 1) (bytes text)
  rw [closingPlace?_bytes asciiOpening asciiClosing distinct, Except.ok.injEq] at searched
  have isFirst (stop : Nat) : end? = some stop ↔
      IsLeast {stop | Settled opening closing whole (utf8Length before) stop} stop :=
    (isEnd stop).trans (isLeast_shift (settled_iff distinct front) stop).symm
  rw [block_eq place asciiOpening asciiClosing distinct, block?_of_cons (text_moveTo whole _)]
  refine ⟨_, rfl, ?found, ?shape⟩
  case found =>
    rw [← isSome_iff_of_isLeast isFirst, ← searched]
    simp only [reached, Option.isSome_map]
  case shape =>
    intro inner next found
    rw [reached, Option.map_map, Option.map_eq_some_iff] at found
    obtain ⟨⟨content, rest⟩, split, same⟩ := found
    obtain ⟨rfl, rfl⟩ := Prod.mk.inj same
    rw [split] at searched
    obtain rfl : text = content ++ closing :: rest := append_of_splitClosing? split
    have block : (whole.moveTo (opening :: (content ++ closing :: rest))).text =
        (opening :: (content ++ [closing])) ++ rest := by
      rw [text_moveTo, List.cons_append, List.append_assoc, List.singleton_append]
    refine ⟨⟨before, rest, written, rfl⟩, (isFirst _).mp searched.symm,
      (splitClosing?_eq_some_iff_matched ?_).mp split, ?_⟩
    · exact fun same ↦ distinct (congrArg Char.toUInt8 same)
    · show utf8Length before + Passage.distance _ _ =
        utf8Length before + 1 + utf8Length content + 1
      rw [distance_moveTo block, utf8Length_cons, utf8Length_append, utf8Length_cons,
        utf8Length_nil, asciiOpening, asciiClosing]
      omega

end Block

/-- What the search for a block finds, in any text and from any cursor on, also one inside of a
character or behind the end.  It never fails: no count goes below zero, and text is taken only
between characters.  It finds a block exactly when the opening bracket stands at the cursor and the
brackets are settled at some later place.  The block ends at the first such place, so it is what
stands in front of the closing bracket there; its brackets match; and the cursor goes on just behind
that bracket.  From a place between two characters on, this is the block that is read off the
passage. -/
theorem block_first_settled {opening closing : Char} (asciiOpening : opening.utf8Size = 1)
    (asciiClosing : closing.utf8Size = 1) (distinct : closing ≠ opening) (whole : Passage)
    (cursor : Nat) :
    ∃ found, block opening closing whole cursor = .ok found ∧
      (found.isSome = true ↔ (bytes whole.text)[cursor]? = some opening.toUInt8 ∧
        ∃ stop, Settled opening closing whole cursor stop) ∧
      (∀ inner next, found = some (inner, next) →
        IsBlock opening closing whole cursor inner.text next) ∧
      ∀ passage, At whole cursor passage →
        found = reached cursor passage (passage.block? opening closing) := by
  have distinctBytes : closing.toUInt8 ≠ opening.toUInt8 := by
    intro same
    apply distinct
    apply eq_of_mem_utf8EncodeChar asciiOpening
    rw [utf8EncodeChar_of_utf8Size asciiClosing, same]
    exact List.mem_singleton_self _
  have read {found : Option (Passage × Nat)}
      (searched : block opening closing whole cursor = .ok found) (passage : Passage)
      (place : At whole cursor passage) :
      found = reached cursor passage (passage.block? opening closing) := by
    rw [block_eq place asciiOpening asciiClosing distinctBytes] at searched
    exact (Except.ok.inj searched).symm
  by_cases opens : (bytes whole.text)[cursor]? = some opening.toUInt8
  · obtain ⟨found, searched, isSome, isBlock⟩ :=
      block_of_opens asciiOpening asciiClosing distinctBytes opens
    exact ⟨found, searched, isSome.trans (and_iff_right opens).symm, isBlock, read searched⟩
  · have other : ¬(bytesFrom whole cursor).head? = some opening.toUInt8 := by
      rwa [bytesFrom, List.head?_drop]
    have searched : block opening closing whole cursor = .ok none := if_neg other
    refine ⟨none, searched, iff_of_false Bool.false_ne_true fun found ↦ opens found.1, ?_,
      read searched⟩
    intro inner next found
    cases found

/-- Braces around braces, in a text with characters of two bytes. -/
def bracedText : Passage :=
  ⟨some 1, "é{a{b}ü}c".toList⟩

theorem block_first_settled_bracedText :
    block '{' '}' bracedText 2 = .ok (some (⟨some 1, "a{b}ü".toList⟩, 10)) ∧
      IsBlock '{' '}' bracedText 2 "a{b}ü".toList 10 ∧
      IsLeast {stop | Settled '{' '}' bracedText 2 stop} 9 := by
  have asciiOpening : '{'.utf8Size = 1 := by decide
  have asciiClosing : '}'.utf8Size = 1 := by decide
  obtain ⟨found, searched, -, isBlock, -⟩ :=
    block_first_settled asciiOpening asciiClosing (by decide) bracedText 2
  have computed : block '{' '}' bracedText 2 = .ok (some (⟨some 1, "a{b}ü".toList⟩, 10)) := by
    decide
  rw [computed, Except.ok.injEq] at searched
  have block := isBlock _ _ searched.symm
  exact ⟨computed, block, block.first⟩

end Cursor

end ViewPreview.Passage
