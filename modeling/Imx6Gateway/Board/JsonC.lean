import Imx6Gateway.Library.JsonText

namespace Imx6Gateway
namespace Board

open Library

/-!
# The JSON library of the board

The board's C code uses json-c, which is not part of the repository.  Its
printer and parser are a parameter (`JsonCodec`), together with the default
print `json_object_get_string` falls back to.  The typed accessors follow the
library's documented conversions between node types.
-/

/-- json-c: `print` is `JSON_C_TO_STRING_PLAIN`, `display` the default print. -/
structure JsonC extends JsonCodec where
  display : Json -> String

namespace JsonC

def int64Min : Int := -2 ^ 63
def int64Max : Int := 2 ^ 63 - 1

def clampInt64 (value : Int) : Int :=
  max int64Min (min int64Max value)

/-- Digits of a number text, with the value read so far. -/
def readDigits : Nat -> List Char -> Nat
  | value, digit :: rest =>
      if digit.isDigit then readDigits (value * 10 + (digit.toNat - '0'.toNat)) rest else value
  | value, [] => value

/-- The C function `isspace`. -/
def isSpace (character : Char) : Bool :=
  character = ' ' || (9 ≤ character.toNat && character.toNat ≤ 13)

/-- The C function `strtoll` in base ten: an initial part that looks like an
integer counts, anything else reads as zero. -/
def strtoll (text : String) : Int :=
  match text.toList.dropWhile isSpace with
  | '-' :: rest => clampInt64 (-(readDigits 0 rest))
  | '+' :: rest => clampInt64 (readDigits 0 rest)
  | rest => clampInt64 (readDigits 0 rest)

/-- `json_object_get_int64`. -/
def getInt64 : Json -> Int
  | .int value => clampInt64 value
  | .real value => clampInt64 (value.num.tdiv value.den)
  | .bool value => if value then 1 else 0
  | .str text => strtoll text
  | _ => 0

/-- `json_object_get_boolean`. -/
def getBoolean : Json -> Bool
  | .bool value => value
  | .int value => value ≠ 0
  | .real value => value ≠ 0
  | .str text => text ≠ ""
  | _ => false

/-- `json_object_get_string`; `none` is the `NULL` of a JSON null. -/
def getString (library : JsonC) : Json -> Option String
  | .null => none
  | .str text => some text
  | other => some (library.display other)

/-- A library that runs. -/
def jsonText : JsonC where
  toJsonCodec := JsonText.codec true
  display := JsonText.print true

end JsonC
end Board
end Imx6Gateway
