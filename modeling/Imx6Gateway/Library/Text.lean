import Mathlib.Algebra.GroupWithZero.Nat
import Mathlib.Data.List.Basic

namespace Imx6Gateway
namespace Library

/-!
# Texts in fixed-size buffers

A C program keeps a text in a character array and copies into it with a
bound on the number of *bytes*.  Here a text is a `String`, its length is the
number of bytes of its UTF-8 form, and `clip` is the copy into a bounded
buffer.  The copy stops before a character that does not fit as a whole; a
byte-wise copy would keep the first bytes of that character.  The two agree
on every text that fits, and a cut text differs from its source under both.
-/

/-- Bytes of the UTF-8 form of a character sequence. -/
def byteLength (characters : List Char) : Nat :=
  (characters.map Char.utf8Size).sum

@[simp]
theorem byteLength_nil : byteLength [] = 0 := rfl

@[simp]
theorem byteLength_cons (head : Char) (tail : List Char) :
    byteLength (head :: tail) = head.utf8Size + byteLength tail := by
  simp only [byteLength, List.map_cons, List.sum_cons]

theorem byteLength_replicate (count : Nat) (character : Char) :
    byteLength (List.replicate count character) = count * character.utf8Size := by
  induction count with
  | zero => rw [Nat.zero_mul]; rfl
  | succ count ih => rw [List.replicate_succ, byteLength_cons, ih, Nat.succ_mul, Nat.add_comm]

/-- The longest initial part of at most `room` bytes. -/
def clipCharacters : Nat -> List Char -> List Char
  | _, [] => []
  | room, head :: tail =>
      if head.utf8Size ≤ room then
        head :: clipCharacters (room - head.utf8Size) tail
      else []

theorem clipCharacters_of_fits (room : Nat) (characters : List Char)
    (fits : byteLength characters ≤ room) :
    clipCharacters room characters = characters := by
  induction characters generalizing room with
  | nil => rfl
  | cons head tail ih =>
      rw [byteLength_cons] at fits
      have headFits : head.utf8Size ≤ room := by omega
      rw [clipCharacters, if_pos headFits, ih (room - head.utf8Size) (by omega)]

theorem byteLength_clipCharacters_le (room : Nat) (characters : List Char) :
    byteLength (clipCharacters room characters) ≤ room := by
  induction characters generalizing room with
  | nil => exact Nat.zero_le room
  | cons head tail ih =>
      rw [clipCharacters]
      split
      · rename_i headFits
        have tailFits := ih (room - head.utf8Size)
        rw [byteLength_cons]
        omega
      · exact Nat.zero_le room

/-- A character takes at most four bytes, so a result that leaves four bytes
free was not cut. -/
theorem clipCharacters_eq_of_short (room : Nat) (characters : List Char)
    (short : byteLength (clipCharacters room characters) + 4 ≤ room) :
    clipCharacters room characters = characters := by
  induction characters generalizing room with
  | nil => rfl
  | cons head tail ih =>
      have headSize := head.utf8Size_le_four
      by_cases headFits : head.utf8Size ≤ room
      · rw [clipCharacters, if_pos headFits, byteLength_cons] at short
        rw [clipCharacters, if_pos headFits, ih (room - head.utf8Size) (by omega)]
      · rw [clipCharacters, if_neg headFits, byteLength_nil] at short
        omega

/-- Bytes of a text. -/
def textBytes (text : String) : Nat :=
  byteLength text.toList

/-- The copy of a text into a buffer with room for `room` bytes. -/
def clip (room : Nat) (text : String) : String :=
  String.ofList (clipCharacters room text.toList)

theorem clip_of_fits (room : Nat) (text : String) (fits : textBytes text ≤ room) :
    clip room text = text := by
  rw [clip, clipCharacters_of_fits room text.toList fits, String.ofList_toList]

theorem textBytes_clip_le (room : Nat) (text : String) : textBytes (clip room text) ≤ room := by
  rw [textBytes, clip, String.toList_ofList]
  exact byteLength_clipCharacters_le room text.toList

theorem clip_eq_of_short (room : Nat) (text : String)
    (short : textBytes (clip room text) + 4 ≤ room) : clip room text = text := by
  rw [textBytes, clip, String.toList_ofList] at short
  rw [clip, clipCharacters_eq_of_short room text.toList short, String.ofList_toList]

/-- A copied text can be copied again without loss. -/
theorem clip_clip (room : Nat) (text : String) : clip room (clip room text) = clip room text :=
  clip_of_fits room (clip room text) (textBytes_clip_le room text)

/-- A buffer of at least four bytes keeps a nonempty text nonempty. -/
theorem clip_ne_empty (room : Nat) (text : String) (nonempty : text ≠ "") (wide : 4 ≤ room) :
    clip room text ≠ "" := by
  intro clipped
  have uncut := clip_eq_of_short room text (by rw [clipped]; exact wide)
  exact nonempty (uncut.symm.trans clipped)

end Library
end Imx6Gateway
