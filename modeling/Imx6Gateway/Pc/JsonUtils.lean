import Imx6Gateway.Library.Json
import Imx6Gateway.Library.Separator

namespace Imx6Gateway
namespace Pc

open Library

/-!
# Reading and writing JSON in Pc_data

Pc_data parses with rapidjson and writes most texts through a stream, with
`jsonEscape` for strings and rapidjson's writer for whole values.  Neither
rapidjson nor the stream is part of the repository: both are the printer and
parser of a `JsonCodec`, and the messages are modelled as the trees that are
written.  The typed accessors are those of `JsonUtils.cpp`.
-/

/-- Conversion of a `double` to a 32-bit integer on the target machine. -/
def toInt (value : Int) : Int :=
  if -2 ^ 31 ≤ value ∧ value < 2 ^ 31 then value else -2 ^ 31

def toInt64 (value : Int) : Int :=
  if -2 ^ 63 ≤ value ∧ value < 2 ^ 63 then value else -2 ^ 63

def truncate (value : Rat) : Int :=
  value.num.tdiv value.den

/-- `GetDouble` of an integer node. -/
def doubleOfInt (value : Int) : Rat :=
  ((FloatFormat.binary64.round value).map Subtype.val).getD 0

def getJsonInt64 (object : Json) (key : String) (defaultValue : Int) : Int :=
  match object.lookup key with
  | some (.int value) => toInt64 value
  | some (.real value) => toInt64 (truncate value)
  | _ => defaultValue

def getJsonInt (object : Json) (key : String) (defaultValue : Int) : Int :=
  match object.lookup key with
  | some (.int value) => toInt value
  | some (.real value) => toInt (truncate value)
  | _ => defaultValue

def getJsonBool (object : Json) (key : String) (defaultValue : Bool) : Bool :=
  match object.lookup key with
  | some (.bool value) => value
  | some (.int value) => if -2 ^ 31 ≤ value ∧ value < 2 ^ 31 then value ≠ 0 else defaultValue
  | _ => defaultValue

def getJsonString (object : Json) (key : String) : String :=
  match object.lookup key with
  | some (.str text) => text
  | _ => ""

/-- The accessors with several keys ask the first one that is there. -/
def firstMember (object : Json) (keys : List String) : Option String :=
  keys.find? fun key => (object.lookup key).isSome

def getJsonInt64Any (object : Json) (keys : List String) (defaultValue : Int) : Int :=
  match firstMember object keys with
  | some key => getJsonInt64 object key defaultValue
  | none => defaultValue

def getJsonIntAny (object : Json) (keys : List String) (defaultValue : Int) : Int :=
  match firstMember object keys with
  | some key => getJsonInt object key defaultValue
  | none => defaultValue

def getJsonBoolAny (object : Json) (keys : List String) (defaultValue : Bool) : Bool :=
  match firstMember object keys with
  | some key => getJsonBool object key defaultValue
  | none => defaultValue

/-- The first text that is not empty. -/
def getJsonStringAny (object : Json) : List String -> String
  | [] => ""
  | key :: keys =>
      if getJsonString object key ≠ "" then getJsonString object key
      else getJsonStringAny object keys

/-- A member that is an object. -/
def memberObject (object : Json) (key : String) : Option Json :=
  match object.lookup key with
  | some (.obj members) => some (.obj members)
  | _ => none

/-- A member that is an array. -/
def memberArray (object : Json) (key : String) : Option (List Json) :=
  match object.lookup key with
  | some (.arr items) => some items
  | _ => none

theorem toInt_of_range {value : Int} (low : -2 ^ 31 ≤ value) (high : value < 2 ^ 31) :
    toInt value = value :=
  if_pos ⟨low, high⟩

theorem toInt64_of_range {value : Int} (low : -2 ^ 63 ≤ value) (high : value < 2 ^ 63) :
    toInt64 value = value :=
  if_pos ⟨low, high⟩

/-- The values of a 32-bit integer. -/
def IsInt (value : Int) : Prop :=
  -2 ^ 31 ≤ value ∧ value < 2 ^ 31

theorem isInt_toInt (value : Int) : IsInt (toInt value) := by
  unfold toInt
  split
  · assumption
  · exact ⟨le_refl _, by decide⟩

theorem isInt_getJsonInt (object : Json) (key : String) {defaultValue : Int}
    (default : IsInt defaultValue) : IsInt (getJsonInt object key defaultValue) := by
  unfold getJsonInt
  split
  · exact isInt_toInt _
  · exact isInt_toInt _
  · exact default

theorem isInt_getJsonIntAny (object : Json) (keys : List String) {defaultValue : Int}
    (default : IsInt defaultValue) : IsInt (getJsonIntAny object keys defaultValue) := by
  unfold getJsonIntAny
  split
  · exact isInt_getJsonInt _ _ default
  · exact default

@[simp]
theorem getJsonString_of_lookup {object : Json} {key text : String}
    (found : object.lookup key = some (.str text)) : getJsonString object key = text := by
  rw [getJsonString, found]

theorem getJsonInt_of_lookup {object : Json} {key : String} {value : Int} (defaultValue : Int)
    (found : object.lookup key = some (.int value)) :
    getJsonInt object key defaultValue = toInt value := by
  rw [getJsonInt, found]

theorem getJsonBool_of_lookup {object : Json} {key : String} {value : Bool} (defaultValue : Bool)
    (found : object.lookup key = some (.bool value)) :
    getJsonBool object key defaultValue = value := by
  rw [getJsonBool, found]

/-! ## Looking into a text

`extractJsonStringValue` does not parse: it looks for the first place where
the key stands in quotes and takes the next text in quotes after a colon. -/

/-- What follows the first place where the pattern stands. -/
def findAfter (pattern : List Char) : List Char -> Option (List Char)
  | [] => afterFront pattern []
  | head :: tail =>
      match afterFront pattern (head :: tail) with
      | some rest => some rest
      | none => findAfter pattern tail

/-- The characters up to a quote.  A backslash is dropped and keeps the next
character. -/
def scanString : List Char -> List Char
  | [] => []
  | '"' :: _ => []
  | '\\' :: [] => []
  | '\\' :: escaped :: rest => escaped :: scanString rest
  | head :: rest => head :: scanString rest

def extractJsonStringValue (json key : String) : String :=
  match findAfter (quoted key) json.toList with
  | none => ""
  | some rest =>
      match cutAt ':' rest with
      | none => ""
      | some (_, rest) =>
          match cutAt '"' rest with
          | none => ""
          | some (_, rest) => String.ofList (scanString rest)

theorem scanString_plain {text : String} (plain : Plain text) (rest : List Char) :
    scanString (text.toList ++ '"' :: rest) = text.toList := by
  unfold Plain at plain
  revert plain
  generalize text.toList = characters
  intro plain
  induction characters with
  | nil => rw [List.nil_append, scanString]
  | cons head tail ih =>
      have here := plain head List.mem_cons_self
      rw [List.cons_append, scanString,
        ih (fun character member => plain character (List.mem_cons_of_mem head member))]
      · exact here.1
      · rintro same -
        exact here.2.1 same
      · rintro _ _ same -
        exact here.2.1 same

/-- A member that is found where it stands. -/
theorem extract_found {json key text : String} {rest : List Char} (plain : Plain text)
    (found : findAfter (quoted key) json.toList = some (':' :: (quoted text ++ rest))) :
    extractJsonStringValue json key = text := by
  have split : quoted text ++ rest = '"' :: (text.toList ++ '"' :: rest) := by
    rw [quoted, List.cons_append, List.append_assoc, List.singleton_append]
  have colon : cutAt ':' (':' :: (quoted text ++ rest)) = some ([], quoted text ++ rest) := by
    rw [cutAt, if_pos rfl]
  have quote : cutAt '"' (quoted text ++ rest) = some ([], text.toList ++ '"' :: rest) := by
    rw [split, cutAt, if_pos rfl]
  unfold extractJsonStringValue
  simp only [found, colon, quote, scanString_plain plain, String.ofList_toList]

/-- The first member of a printed object. -/
theorem extract_first {json key text : String} {rest : List Char}
    (others : List (String × String)) (plain : Plain text)
    (shape : json.toList = '\x7b' :: (frontText (key, text) others ++ rest)) :
    extractJsonStringValue json key = text := by
  have here : frontText (key, text) others ++ rest = quoted key ++ ':' ::
      (quoted text ++ ((others.flatMap fun member => ',' :: stringMemberText member) ++ rest)) := by
    simp only [frontText, stringMemberText, List.append_assoc, List.cons_append]
  have notHere : afterFront (quoted key) ('\x7b' :: (frontText (key, text) others ++ rest)) = none := by
    rw [quoted, afterFront, if_neg (by decide)]
  have starts : forall rest, findAfter (quoted key) (quoted key ++ rest) = some rest := by
    intro rest
    have front := afterFront_append (quoted key) rest
    rw [quoted, List.cons_append] at front ⊢
    rw [findAfter, front]
  apply extract_found plain
  rw [shape, findAfter, notHere, here]
  exact starts _

end Pc
end Imx6Gateway
