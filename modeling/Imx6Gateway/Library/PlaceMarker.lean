import Mathlib.Data.List.Basic

namespace Imx6Gateway
namespace Library

/-!
# Texts with numbered place markers

A template marks the places for its arguments with a percent sign and a number
of at most two digits, with an `L` in between where the argument is localised.
An argument goes to all markers of the lowest number, also to markers that an
earlier argument has brought in.
-/

namespace PlaceMarker

inductive Piece where
  | plain (char : Char)
  | marker (number : Nat) (text : List Char)

/-- The number of a marker and the characters it takes, after the percent sign. -/
def number? (text : List Char) : Option (Nat × Nat) :=
  let localised := text.head? = some 'L'
  let width := if localised then 1 else 0
  match if localised then text.tail else text with
  | [] => none
  | first :: more =>
      if !first.isDigit then none
      else
        match more.head? with
        | none => some (first.toNat - 48, width + 1)
        | some second =>
            if second.isDigit then
              some (10 * (first.toNat - 48) + (second.toNat - 48), width + 2)
            else some (first.toNat - 48, width + 1)

/-- The pieces of a text whose first characters belong to a marker already read. -/
def pieces : Nat -> List Char -> List Piece
  | _, [] => []
  | skipped + 1, _ :: rest => pieces skipped rest
  | 0, char :: rest =>
      if char = '%' then
        match number? rest with
        | some (number, width) => .marker number (char :: rest.take width) :: pieces width rest
        | none => .plain char :: pieces 0 rest
      else .plain char :: pieces 0 rest

def lowest : List Piece -> Option Nat
  | [] => none
  | .plain _ :: rest => lowest rest
  | .marker number _ :: rest => some (((lowest rest).map (min number)).getD number)

def fill (number : Nat) (value : List Char) : Piece -> List Char
  | .plain char => [char]
  | .marker found text => if found = number then value else text

/-- `QString::arg` with one argument. -/
def arg (template value : String) : String :=
  let found := pieces 0 template.toList
  match lowest found with
  | none => template
  | some number => String.ofList (found.flatMap (fill number value.toList))

end PlaceMarker
end Library
end Imx6Gateway
