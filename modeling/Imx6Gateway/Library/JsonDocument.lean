import Imx6Gateway.Library.JsonText

namespace Imx6Gateway
namespace Library

/-!
# JSON documents

A reader of every JSON text: white space between the tokens, all escapes, pairs
of surrogates, fractions and exponents, any nesting.  It refuses what the
grammar refuses, such as bare control characters in a string, leading zeros or
a lone surrogate.  A whole number without exponent stays an integer, any other
number becomes the nearest `double`, and one that is too large for a `double`
is no number.  The members of the outermost object are also given with the
place where their values stand in the text.
-/

namespace JsonDocument

open JsonText (isSpace skipSpace hexValue unescape prependTo readElements readSequence sequenceText
  tailText natText fractionText signed intText)

/-! ## Numbers -/

/-- Digits without a leading zero. -/
def readWhole (text : List Char) : Option (Nat × List Char) :=
  match text.takeWhile Char.isDigit with
  | [] => none
  | '0' :: _ :: _ => none
  | digits => some (Nat.ofDigitChars 10 digits 0, text.dropWhile Char.isDigit)

/-- At least one digit: how many there are, and their value. -/
def readDigits (text : List Char) : Option ((Nat × Nat) × List Char) :=
  let digits := text.takeWhile Char.isDigit
  if digits = [] then none
  else some ((digits.length, Nat.ofDigitChars 10 digits 0), text.dropWhile Char.isDigit)

def readFraction : List Char -> Option (Option Rat × List Char)
  | '.' :: rest => (readDigits rest).map fun read => (some (read.1.2 / 10 ^ read.1.1), read.2)
  | rest => some (none, rest)

def readPower : List Char -> Option (Int × List Char)
  | '-' :: rest => (readDigits rest).map fun read => (-(read.1.2 : Int), read.2)
  | '+' :: rest => (readDigits rest).map fun read => ((read.1.2 : Int), read.2)
  | rest => (readDigits rest).map fun read => ((read.1.2 : Int), read.2)

def readExponent : List Char -> Option (Option Int × List Char)
  | [] => some (none, [])
  | head :: rest =>
      if head = 'e' ∨ head = 'E' then (readPower rest).map fun read => (some read.1, read.2)
      else some (none, head :: rest)

/-- The value of a number from its parts. -/
def number (negative : Bool) (whole : Nat) : Option Rat -> Option Int -> Option Json
  | none, none => some (.int (if negative then -whole else whole))
  | fraction, exponent =>
      (FloatFormat.binary64.round ((if negative then -1 else 1) * (whole + fraction.getD 0) *
        10 ^ exponent.getD 0)).map fun value => .real value.1

def readUnsigned (negative : Bool) (text : List Char) : Option (Json × List Char) :=
  (readWhole text).bind fun whole =>
    (readFraction whole.2).bind fun fraction =>
      (readExponent fraction.2).bind fun exponent =>
        (number negative whole.1 fraction.1 exponent.1).map fun value => (value, exponent.2)

def readNumber : List Char -> Option (Json × List Char)
  | '-' :: body => readUnsigned true body
  | body => readUnsigned false body

/-! ## Strings -/

/-- The unit that four hexadecimal digits stand for. -/
def codeUnit (first second third fourth : Char) : Option Nat := do
  let a ← hexValue first
  let b ← hexValue second
  let c ← hexValue third
  let d ← hexValue fourth
  return ((a * 16 + b) * 16 + c) * 16 + d

def IsHigh (unit : Nat) : Bool :=
  0xD800 ≤ unit && unit < 0xDC00

def IsLow (unit : Nat) : Bool :=
  0xDC00 ≤ unit && unit < 0xE000

/-- The character of a pair of surrogates. -/
def paired (high low : Nat) : Char :=
  Char.ofNat (0x10000 + (high - 0xD800) * 0x400 + (low - 0xDC00))

/-- The content of a string up to the closing quote. -/
def readText : List Char -> Option (List Char × List Char)
  | [] => none
  | '"' :: rest => some ([], rest)
  | '\\' :: 'u' :: a :: b :: c :: d :: rest =>
      (codeUnit a b c d).bind fun unit =>
        if IsLow unit then none
        else if IsHigh unit then
          match rest with
          | '\\' :: 'u' :: e :: f :: g :: h :: rest =>
              (codeUnit e f g h).bind fun low =>
                if IsLow low then (readText rest).map (prependTo (paired unit low)) else none
          | _ => none
        else (readText rest).map (prependTo (Char.ofNat unit))
  | '\\' :: escaped :: rest =>
      (unescape escaped).bind fun character => (readText rest).map (prependTo character)
  | character :: rest =>
      if character.toNat < 32 then none else (readText rest).map (prependTo character)

/-! ## Values -/

/-- A member of an object, with the text from its value on. -/
structure Entry where
  key : String
  place : List Char
  value : Json

def Entry.member (entry : Entry) : String × Json :=
  (entry.key, entry.value)

def readEntry (readValue : List Char -> Option (Json × List Char)) (text : List Char) :
    Option (Entry × List Char) :=
  match skipSpace text with
  | '"' :: rest =>
      (readText rest).bind fun key =>
        match skipSpace key.2 with
        | ':' :: rest =>
            (readValue (skipSpace rest)).map fun read =>
              (⟨String.ofList key.1, skipSpace rest, read.1⟩, read.2)
        | _ => none
  | _ => none

def readMember (readValue : List Char -> Option (Json × List Char)) (text : List Char) :
    Option ((String × Json) × List Char) :=
  (readEntry readValue text).map fun read => (read.1.member, read.2)

/-- One value, in which containers stand in at most `depth` others. -/
def readValue (depth : Nat) (text : List Char) : Option (Json × List Char) :=
  match skipSpace text with
  | 'n' :: 'u' :: 'l' :: 'l' :: rest => some (.null, rest)
  | 't' :: 'r' :: 'u' :: 'e' :: rest => some (.bool true, rest)
  | 'f' :: 'a' :: 'l' :: 's' :: 'e' :: rest => some (.bool false, rest)
  | '"' :: rest => (readText rest).map fun read => (.str (String.ofList read.1), read.2)
  | '[' :: rest =>
      match depth with
      | 0 => none
      | depth + 1 => (readSequence ']' (readValue depth) rest).map fun read => (.arr read.1, read.2)
  | '\x7b' :: rest =>
      match depth with
      | 0 => none
      | depth + 1 =>
          (readSequence '\x7d' (readMember (readValue depth)) rest).map fun read =>
            (.obj read.1, read.2)
  | rest => readNumber rest

/-- The whole text must be one value.  A text has fewer containers around a
value than it has characters. -/
def parse (text : String) : Option Json :=
  (readValue text.toList.length text.toList).bind fun read =>
    if skipSpace read.2 = [] then some read.1 else none

/-- The members of a text that is an object. -/
def objectEntries (text : String) : Option (List Entry) :=
  match skipSpace text.toList with
  | '\x7b' :: rest =>
      (readSequence '\x7d' (readEntry (readValue (text.toList.length - 1))) rest).bind fun read =>
        if skipSpace read.2 = [] then some read.1 else none
  | _ => none

/-! ## Written numbers -/

/-- What may stand behind a value. -/
def Ends (rest : List Char) : Prop :=
  forall head tail, rest = head :: tail -> head = ',' ∨ head = ']' ∨ head = '\x7d'

theorem ends_nil : Ends [] := by
  intro head tail impossible
  cases impossible

theorem ends_cons {head : Char} (tail : List Char)
    (delimiter : head = ',' ∨ head = ']' ∨ head = '\x7d') : Ends (head :: tail) := by
  intro other rest same
  cases same
  exact delimiter

/-- A number as it is written, with `places` digits behind the point. -/
structure Numeral where
  negative : Bool
  whole : Nat
  places : Nat
  fraction : Nat
  exponent : Option Int
  bounded : fraction < 10 ^ places

namespace Numeral

def fractionDigits (numeral : Numeral) : List Char :=
  if numeral.places = 0 then [] else '.' :: fractionText numeral.places numeral.fraction

/-- An exponent has a sign and at least two digits. -/
def exponentText : Option Int -> List Char
  | none => []
  | some power => 'e' :: (if power < 0 then '-' else '+') :: fractionText 2 power.natAbs

def text (numeral : Numeral) : List Char :=
  signed numeral.negative
    (natText numeral.whole ++ (numeral.fractionDigits ++ exponentText numeral.exponent))

def fractionValue (numeral : Numeral) : Rat :=
  numeral.fraction / 10 ^ numeral.places

def value (numeral : Numeral) : Rat :=
  (if numeral.negative then -1 else 1) * (numeral.whole + numeral.fractionValue) *
    10 ^ numeral.exponent.getD 0

def json (numeral : Numeral) : Option Json :=
  number numeral.negative numeral.whole
    (if numeral.places = 0 then none else some numeral.fractionValue) numeral.exponent

end Numeral

/-- Only zero is written with a leading zero. -/
theorem natText_leading {value : Nat} (positive : 0 < value) (rest : List Char) :
    natText value ≠ '0' :: rest := by
  induction value using Nat.strongRecOn generalizing rest with
  | ind value ih =>
      by_cases small : value < 10
      · have noZero : forall digit, digit < 10 -> 0 < digit -> digit.digitChar ≠ '0' := by decide
        rw [natText, Nat.toDigits_of_lt_base small]
        intro same
        exact noZero value small positive (List.cons.inj same).1
      · have large : 10 ≤ value := not_lt.mp small
        have earlier := ih (value / 10) (by omega) (by omega)
        rw [natText, Nat.toDigits_of_base_le (by decide) large]
        intro same
        have nonempty : natText (value / 10) ≠ [] := Nat.toDigits_ne_nil
        cases shape : natText (value / 10) with
        | nil => exact nonempty shape
        | cons head tail =>
            rw [show Nat.toDigits 10 (value / 10) = head :: tail from shape, List.cons_append] at same
            rw [(List.cons.inj same).1] at shape
            exact earlier tail shape

theorem readWhole_natText (value : Nat) {rest : List Char}
    (stops : forall head tail, rest = head :: tail -> head.isDigit = false) :
    readWhole (natText value ++ rest) = some (value, rest) := by
  have split := JsonText.takeWhile_digits rest (JsonText.natText_digits value) stops
  have back : Nat.ofDigitChars 10 (natText value) 0 = value := Nat.ofDigitChars_ten_toDigits
  unfold readWhole
  rw [split.1, split.2]
  split
  · rename_i empty
    exact absurd empty Nat.toDigits_ne_nil
  · rename_i next tail shape
    by_cases positive : 0 < value
    · exact absurd shape (natText_leading positive _)
    · have zero : value = 0 := by omega
      subst zero
      cases shape
  · rw [back]

theorem readDigits_fractionText (places value : Nat) {rest : List Char}
    (stops : forall head tail, rest = head :: tail -> head.isDigit = false) :
    readDigits (fractionText places value ++ rest) =
      some (((fractionText places value).length, value), rest) := by
  have split := JsonText.takeWhile_digits rest (JsonText.fractionText_digits places value) stops
  have nonempty : fractionText places value ≠ [] := by
    have number : natText value ≠ [] := Nat.toDigits_ne_nil
    rw [fractionText]
    exact List.append_ne_nil_of_right_ne_nil _ number
  unfold readDigits
  rw [split.1, split.2, if_neg nonempty, JsonText.ofDigitChars_fractionText]

theorem readExponent_text (exponent : Option Int) {rest : List Char} (ends : Ends rest) :
    readExponent (Numeral.exponentText exponent ++ rest) = some (exponent, rest) := by
  cases exponent with
  | none =>
      cases rest with
      | nil => rfl
      | cons head tail =>
          rw [Numeral.exponentText, List.nil_append, readExponent, if_neg]
          rcases ends head tail rfl with rfl | rfl | rfl <;> decide
  | some power =>
      have digits := @readDigits_fractionText 2 power.natAbs rest (by
        rintro head tail rfl
        rcases ends head tail rfl with rfl | rfl | rfl <;> rfl)
      by_cases negative : power < 0
      · have back : -(power.natAbs : Int) = power := by omega
        simp only [Numeral.exponentText, if_pos negative, List.cons_append, readExponent, true_or,
          if_true, readPower, digits, Option.map_some, back]
      · have back : (power.natAbs : Int) = power := by omega
        simp only [Numeral.exponentText, if_neg negative, List.cons_append, readExponent, true_or,
          if_true, readPower, digits, Option.map_some, back]

theorem readFraction_text (numeral : Numeral) {rest : List Char} (stops : JsonText.Stops rest) :
    readFraction (numeral.fractionDigits ++ rest) =
      some (if numeral.places = 0 then none else some numeral.fractionValue, rest) := by
  unfold Numeral.fractionDigits
  by_cases whole : numeral.places = 0
  · simp only [if_pos whole, List.nil_append]
    cases rest with
    | nil => rfl
    | cons head tail =>
        have point := (stops head tail rfl).2
        unfold readFraction
        split
        · rename_i same
          cases same
          exact absurd rfl point
        · rfl
  · have digits := readDigits_fractionText numeral.places numeral.fraction
      fun head tail same => (stops head tail same).1
    have length := JsonText.fractionText_length (Nat.pos_of_ne_zero whole) numeral.bounded
    simp only [if_neg whole, List.cons_append, readFraction, digits, Option.map_some, length,
      Numeral.fractionValue]

/-- A number is read as what it stands for. -/
theorem readNumber_text (numeral : Numeral) {rest : List Char} (ends : Ends rest) :
    readNumber (numeral.text ++ rest) = numeral.json.map fun value => (value, rest) := by
  have behind : JsonText.Stops (Numeral.exponentText numeral.exponent ++ rest) := by
    cases numeral.exponent with
    | none =>
        rintro head tail same
        rcases ends head tail same with rfl | rfl | rfl <;> exact ⟨rfl, by decide⟩
    | some power => exact JsonText.stops_cons _ rfl (by decide)
  have noDigit : forall head tail, numeral.fractionDigits ++
      (Numeral.exponentText numeral.exponent ++ rest) = head :: tail -> head.isDigit = false := by
    intro head tail same
    unfold Numeral.fractionDigits at same
    split at same
    · exact (behind head tail same).1
    · cases same
      rfl
  have unsigned : forall negative, readUnsigned negative (natText numeral.whole ++
      (numeral.fractionDigits ++ (Numeral.exponentText numeral.exponent ++ rest))) =
      (number negative numeral.whole (if numeral.places = 0 then none
        else some numeral.fractionValue) numeral.exponent).map fun value => (value, rest) := by
    intro negative
    simp only [readUnsigned, readWhole_natText numeral.whole noDigit,
      readFraction_text numeral behind, readExponent_text numeral.exponent ends, Option.bind_some]
  have shape : numeral.text ++ rest = signed numeral.negative (natText numeral.whole ++
      (numeral.fractionDigits ++ (Numeral.exponentText numeral.exponent ++ rest))) := by
    unfold Numeral.text signed
    split <;> simp only [List.append_assoc, List.cons_append]
  rw [shape, Numeral.json]
  cases numeral.negative with
  | true => exact unsigned true
  | false =>
      rw [← unsigned false]
      simp only [signed, Bool.false_eq_true, if_false]
      cases digits : natText numeral.whole with
      | nil => exact absurd digits Nat.toDigits_ne_nil
      | cons head tail =>
          have digit := JsonText.natText_digits numeral.whole head
            (digits ▸ List.mem_cons_self)
          rw [List.cons_append]
          unfold readNumber
          split
          · rename_i same
            cases same
            cases digit
          · rfl

theorem number_rounded (negative : Bool) (whole : Nat) {fraction : Option Rat}
    {exponent : Option Int} (parts : fraction ≠ none ∨ exponent ≠ none) :
    number negative whole fraction exponent =
      (FloatFormat.binary64.round ((if negative then -1 else 1) * (whole + fraction.getD 0) *
        10 ^ exponent.getD 0)).map fun value => .real value.1 := by
  cases fraction with
  | some fraction => rfl
  | none =>
      cases exponent with
      | some power => rfl
      | none => rcases parts with absent | absent <;> exact absurd rfl absent

/-- An integer keeps its value, any other number is rounded. -/
theorem exists_json {numeral : Numeral} {rounded : FloatFormat.Value FloatFormat.binary64}
    (round : FloatFormat.binary64.round numeral.value = some rounded) :
    exists json, numeral.json = some json ∧
      (json = .real rounded.1 ∨
        exists integer : Int, json = .int integer ∧ (integer : Rat) = numeral.value) := by
  have fraction : (if numeral.places = 0 then none else some numeral.fractionValue).getD 0 =
      numeral.fractionValue := by
    split
    · rename_i whole
      have bound := numeral.bounded
      rw [whole, pow_zero, Nat.lt_one_iff] at bound
      rw [Numeral.fractionValue, bound, Nat.cast_zero, zero_div, Option.getD_none]
    · rw [Option.getD_some]
  by_cases inexact : (if numeral.places = 0 then none else some numeral.fractionValue) ≠ none ∨
      numeral.exponent ≠ none
  · refine ⟨.real rounded.1, ?_, .inl rfl⟩
    rw [Numeral.json, number_rounded _ _ inexact, fraction]
    exact Option.map_eq_some_iff.mpr ⟨rounded, round, rfl⟩
  · rw [not_or, not_not, not_not] at inexact
    rw [inexact.1, Option.getD_none] at fraction
    refine ⟨.int (if numeral.negative then -numeral.whole else numeral.whole), ?_, .inr ⟨_, rfl, ?_⟩⟩
    · rw [Numeral.json, inexact.1, inexact.2]
      rfl
    · rw [Numeral.value, ← fraction, inexact.2, Option.getD_none, zpow_zero, mul_one, add_zero]
      split <;> simp

/-! ## Written values -/

/-- The text is read as the value wherever it stands, or refused if there is
no value. -/
structure Shows (depth : Nat) (text : List Char) (value : Option Json) : Prop where
  visible : exists head tail, text = head :: tail ∧ isSpace head = false ∧ head ≠ ']'
  read : forall rest, Ends rest ->
    readValue depth (text ++ rest) = value.map fun json => (json, rest)

def boolText : Bool -> List Char
  | true => ['t', 'r', 'u', 'e']
  | false => ['f', 'a', 'l', 's', 'e']

def arrayText (items : List (List Char)) : List Char :=
  '[' :: sequenceText ']' items

def memberText (member : String × List Char) : List Char :=
  quoted member.1 ++ ':' :: member.2

def objectText (members : List (String × List Char)) : List Char :=
  '\x7b' :: sequenceText '\x7d' (members.map memberText)

theorem shows_bool (depth : Nat) (value : Bool) :
    Shows depth (boolText value) (some (.bool value)) := by
  cases value with
  | true => exact ⟨⟨'t', _, rfl, rfl, by decide⟩, fun rest _ => by cases depth <;> rfl⟩
  | false => exact ⟨⟨'f', _, rfl, rfl, by decide⟩, fun rest _ => by cases depth <;> rfl⟩

theorem shows_string (depth : Nat) {body : List Char} {characters : Option (List Char)}
    (read : forall rest, readText (body ++ '"' :: rest) =
      characters.map fun content => (content, rest)) :
    Shows depth ('"' :: (body ++ ['"']))
      (characters.map fun content => .str (String.ofList content)) := by
  refine ⟨⟨'"', _, rfl, rfl, by decide⟩, ?_⟩
  intro rest _
  rw [List.cons_append, List.append_assoc, List.singleton_append, readValue.eq_def,
    JsonText.skipSpace_cons (show isSpace '"' = false from rfl)]
  simp only [read, Option.map_map]
  rfl

theorem readValue_number {depth : Nat} {head : Char} {tail : List Char}
    (starts : JsonText.startsNumber head = true) :
    readValue depth (head :: tail) = readNumber (head :: tail) := by
  rw [readValue.eq_def]
  simp only [JsonText.skipSpace_cons (JsonText.startsNumber_visible starts).1]
  split <;> first | rfl | (rename_i same; cases same; cases starts)

theorem shows_numeral (depth : Nat) (numeral : Numeral) :
    Shows depth numeral.text numeral.json := by
  have digits : forall digit, digit ∈ (natText numeral.whole ++ (numeral.fractionDigits ++
      Numeral.exponentText numeral.exponent)).head? -> digit.isDigit = true := by
    intro digit member
    rw [List.head?_append_of_ne_nil _ (show natText numeral.whole ≠ [] from Nat.toDigits_ne_nil)]
      at member
    exact JsonText.natText_head _ digit member
  have nonempty : natText numeral.whole ++ (numeral.fractionDigits ++
      Numeral.exponentText numeral.exponent) ≠ [] :=
    List.append_ne_nil_of_left_ne_nil Nat.toDigits_ne_nil _
  rcases JsonText.signed_head numeral.negative digits nonempty with ⟨head, tail, text, starts⟩
  have visible := JsonText.startsNumber_visible starts
  refine ⟨⟨head, tail, text, visible.1, visible.2.1⟩, ?_⟩
  intro rest ends
  have read := readNumber_text numeral ends
  change numeral.text = head :: tail at text
  rw [text, List.cons_append] at read ⊢
  rw [readValue_number starts, read]

theorem shows_int (depth : Nat) (value : Int) :
    Shows depth (intText value) (some (.int value)) := by
  have shows := shows_numeral depth ⟨value < 0, value.natAbs, 0, 0, none, Nat.one_pos⟩
  have text : Numeral.text ⟨value < 0, value.natAbs, 0, 0, none, Nat.one_pos⟩ = intText value := by
    simp only [Numeral.text, Numeral.fractionDigits, if_true, Numeral.exponentText,
      List.append_nil, intText]
  have same : (if decide (value < 0) = true then -(value.natAbs : Int) else value.natAbs) =
      value := by
    by_cases negative : value < 0
    · rw [if_pos (decide_eq_true negative)]
      omega
    · rw [if_neg (by simpa using negative)]
      omega
  have json : Numeral.json ⟨value < 0, value.natAbs, 0, 0, none, Nat.one_pos⟩ =
      some (.int value) := congrArg (fun integer => some (Json.int integer)) same
  rwa [text, json] at shows

section Sequences

variable {ι β : Type} {result : ι -> Option β} {elements : List ι}

theorem mapM_eq_some {value : ι -> β}
    (all : forall element, element ∈ elements -> result element = some (value element)) :
    elements.mapM result = some (elements.map value) := by
  induction elements with
  | nil => rfl
  | cons head tail ih =>
      have later := ih fun element inside => all element (List.mem_cons_of_mem head inside)
      rw [List.mapM_cons, all head List.mem_cons_self, later]
      rfl

theorem mapM_eq_none {element : ι} (inside : element ∈ elements) (fails : result element = none) :
    elements.mapM result = none := by
  induction elements with
  | nil => cases inside
  | cons head tail ih =>
      rw [List.mapM_cons]
      rcases List.mem_cons.mp inside with rfl | later
      · rw [fails]
        rfl
      · rw [ih later]
        cases result head <;> rfl

theorem isSome_mapM_iff :
    (elements.mapM result).isSome = true ↔
      forall element, element ∈ elements -> (result element).isSome = true := by
  constructor
  · intro whole element inside
    cases read : result element with
    | none =>
        rw [mapM_eq_none inside read] at whole
        cases whole
    | some value => rfl
  · intro all
    induction elements with
    | nil => rfl
    | cons head tail ih =>
        have here := all head List.mem_cons_self
        have later := ih fun element inside => all element (List.mem_cons_of_mem head inside)
        rcases Option.isSome_iff_exists.mp here with ⟨first, read⟩
        rcases Option.isSome_iff_exists.mp later with ⟨rest, reads⟩
        rw [List.mapM_cons, read, reads]
        rfl

end Sequences

section Containers

variable {ι : Type} {depth : Nat} {text : ι -> List Char} {value : ι -> Option Json}

theorem shows_array (items : List ι)
    (shows : forall item, item ∈ items -> Shows depth (text item) (value item)) :
    Shows (depth + 1) (arrayText (items.map text)) ((items.mapM value).map Json.arr) := by
  refine ⟨⟨'[', _, rfl, rfl, by decide⟩, ?_⟩
  intro rest _
  have read := JsonText.readSequence_delimited ']' (readValue depth) text value rfl (by decide) items
    (fun item member => (shows item member).visible) (by
      intro item member next rest delimiter
      apply (shows item member).read
      apply ends_cons
      exact delimiter.imp_right Or.inl) rest
  rw [arrayText, List.cons_append, readValue,
    JsonText.skipSpace_cons (show isSpace '[' = false from rfl)]
  simp only [read, Option.map_map]
  rfl

theorem readText_visible {head : Char} (tail : List Char) (quote : head ≠ '"')
    (backslash : head ≠ '\\') (printable : 32 ≤ head.toNat) :
    readText (head :: tail) = (readText tail).map (prependTo head) := by
  rw [readText.eq_def]
  split
  · rename_i same
    cases same
  · rename_i same
    cases same
    exact absurd rfl quote
  · rename_i same
    cases same
    exact absurd rfl backslash
  · rename_i same
    cases same
    exact absurd rfl backslash
  · rename_i same
    cases same
    rw [if_neg (not_lt.mpr printable)]

theorem readText_plain {key : String} (plain : Plain key) (rest : List Char) :
    readText (key.toList ++ '"' :: rest) = some (key.toList, rest) := by
  unfold Plain at plain
  generalize key.toList = characters at plain ⊢
  induction characters with
  | nil => rw [List.nil_append, readText]
  | cons head tail ih =>
      have here := plain head List.mem_cons_self
      rw [List.cons_append, readText_visible _ here.1 here.2.1 here.2.2.2,
        ih fun character member => plain character (List.mem_cons_of_mem head member)]
      rfl

theorem readMember_text {key : String} (plain : Plain key) {content : List Char}
    {value : Option Json} (shows : Shows depth content value) {rest : List Char} (ends : Ends rest) :
    readMember (readValue depth) (memberText (key, content) ++ rest) =
      (value.map fun json => (key, json)).map fun member => (member, rest) := by
  rcases shows.visible with ⟨head, tail, shape, visible, -⟩
  have read := shows.read rest ends
  have split : memberText (key, content) ++ rest =
      '"' :: (key.toList ++ '"' :: ':' :: (content ++ rest)) := by
    simp only [memberText, quoted, List.cons_append, List.append_assoc, List.nil_append]
  have skipped : skipSpace (content ++ rest) = content ++ rest := by
    rw [shape, List.cons_append, JsonText.skipSpace_cons visible]
  rw [split, readMember, readEntry, JsonText.skipSpace_cons (show isSpace '"' = false from rfl)]
  simp only [readText_plain plain, Option.bind_some,
    JsonText.skipSpace_cons (show isSpace ':' = false from rfl), skipped, read, Option.map_map]
  simp only [Function.comp_def, Entry.member, String.ofList_toList]

theorem shows_object (members : List ι) (key : ι -> String)
    (plain : forall member, member ∈ members -> Plain (key member))
    (shows : forall member, member ∈ members -> Shows depth (text member) (value member)) :
    Shows (depth + 1) (objectText (members.map fun member => (key member, text member)))
      ((members.mapM fun member => (value member).map fun json => (key member, json)).map
        Json.obj) := by
  refine ⟨⟨'\x7b', _, rfl, rfl, by decide⟩, ?_⟩
  intro rest _
  have read := JsonText.readSequence_delimited '\x7d' (readMember (readValue depth))
    (fun member => memberText (key member, text member))
    (fun member => (value member).map fun json => (key member, json)) rfl (by decide) members
    (fun member _ => ⟨'"', _, rfl, rfl, by decide⟩) (by
      intro member inside next rest delimiter
      apply readMember_text (plain member inside) (shows member inside)
      apply ends_cons
      exact delimiter.imp_right Or.inr) rest
  rw [objectText, List.cons_append, readValue, List.map_map,
    JsonText.skipSpace_cons (show isSpace '\x7b' = false from rfl)]
  simp only [Function.comp_def, read, Option.map_map]

end Containers

/-- A written value is a whole document. -/
theorem parse_shows {text : String} {value : Option Json}
    (shows : Shows text.toList.length text.toList value) : parse text = value := by
  have read := shows.read [] ends_nil
  rw [List.append_nil] at read
  rw [parse, read]
  cases value <;> rfl

/-! ## The members of a document -/

section Elements

variable {α β : Type} {closing : Char} {readElement : List Char -> Option (α × List Char)}

/-- Every element of a sequence was read somewhere. -/
theorem mem_readElements {fuel : Nat} {text rest : List Char} {elements : List α} {element : α}
    (read : readElements closing readElement fuel text = some (elements, rest))
    (inside : element ∈ elements) : exists start behind, readElement start = some (element, behind) := by
  induction fuel generalizing text elements with
  | zero => cases read
  | succ fuel ih =>
      rw [readElements] at read
      split at read
      · cases read
      · rename_i first behind found
        split at read
        · cases read
        · rename_i head tail _
          split at read
          · rcases Option.map_eq_some_iff.mp read with ⟨others, later, same⟩
            cases same
            rcases List.mem_cons.mp inside with rfl | deeper
            · exact ⟨text, behind, found⟩
            · exact ih later deeper
          · split at read
            · cases read
              rw [List.mem_singleton.mp inside]
              exact ⟨text, behind, found⟩
            · cases read

theorem mem_readSequence {text rest : List Char} {elements : List α} {element : α}
    (read : readSequence closing readElement text = some (elements, rest))
    (inside : element ∈ elements) : exists start behind, readElement start = some (element, behind) := by
  unfold readSequence at read
  split at read
  · cases read
  · split at read
    · cases read
      cases inside
    · exact mem_readElements read inside

variable (closing readElement) in
theorem readElements_map (shown : α -> β) (fuel : Nat) (text : List Char) :
    readElements closing (fun start => (readElement start).map fun read => (shown read.1, read.2))
        fuel text =
      (readElements closing readElement fuel text).map fun read => (read.1.map shown, read.2) := by
  induction fuel generalizing text with
  | zero => rfl
  | succ fuel ih =>
      rw [readElements, readElements]
      cases readElement text with
      | none => rfl
      | some first =>
          simp only [Option.map_some]
          cases skipSpace first.2 with
          | nil => rfl
          | cons head tail =>
              simp only [ih]
              split
              · rw [Option.map_map, Option.map_map]
                rfl
              · split <;> rfl

variable (closing readElement) in
theorem readSequence_map (shown : α -> β) (text : List Char) :
    readSequence closing (fun start => (readElement start).map fun read => (shown read.1, read.2))
        text =
      (readSequence closing readElement text).map fun read => (read.1.map shown, read.2) := by
  unfold readSequence
  split
  · rfl
  · split
    · rfl
    · exact readElements_map closing readElement shown _ _

end Elements

theorem readNumber_ne_obj {text rest : List Char} {members : List (String × Json)} :
    readNumber text ≠ some (.obj members, rest) := by
  have unsigned : forall negative body, readUnsigned negative body ≠ some (.obj members, rest) := by
    intro negative body read
    unfold readUnsigned at read
    rcases Option.bind_eq_some_iff.mp read with ⟨whole, -, read⟩
    rcases Option.bind_eq_some_iff.mp read with ⟨fraction, -, read⟩
    rcases Option.bind_eq_some_iff.mp read with ⟨exponent, -, read⟩
    rcases Option.map_eq_some_iff.mp read with ⟨value, number, same⟩
    cases same
    unfold JsonDocument.number at number
    split at number
    · cases number
    · rcases Option.map_eq_some_iff.mp number with ⟨rounded, -, impossible⟩
      cases impossible
  unfold readNumber
  split <;> exact unsigned _ _

theorem readMember_eq (readValue : List Char -> Option (Json × List Char)) :
    readMember readValue = fun start =>
      (readEntry readValue start).map fun read => (read.1.member, read.2) := rfl

theorem readValue_obj_iff {depth : Nat} {text rest : List Char} {members : List (String × Json)} :
    readValue depth text = some (.obj members, rest) ↔
      exists below body entries, depth = below + 1 ∧ skipSpace text = '\x7b' :: body ∧
        readSequence '\x7d' (readEntry (readValue below)) body = some (entries, rest) ∧
        members = entries.map Entry.member := by
  rw [readValue.eq_def]
  constructor
  · intro read
    split at read
    · cases read
    · cases read
    · cases read
    · rcases Option.map_eq_some_iff.mp read with ⟨_, -, impossible⟩
      cases impossible
    · split at read
      · cases read
      · rcases Option.map_eq_some_iff.mp read with ⟨_, -, impossible⟩
        cases impossible
    · rename_i body start
      split at read
      · cases read
      · rename_i below
        rw [readMember_eq, readSequence_map] at read
        rcases Option.map_eq_some_iff.mp read with ⟨inner, found, same⟩
        rcases Option.map_eq_some_iff.mp found with ⟨entries, sequence, rfl⟩
        cases same
        exact ⟨below, body, entries.1, rfl, start, sequence, rfl⟩
    · exact absurd read readNumber_ne_obj
  · rintro ⟨below, body, entries, rfl, start, sequence, rfl⟩
    rw [start]
    simp only [readMember_eq, readSequence_map, sequence, Option.map_some]

/-- A text that is an object has exactly the members of its entries. -/
theorem parse_obj_iff {text : String} {members : List (String × Json)} :
    parse text = some (.obj members) ↔
      exists entries, objectEntries text = some entries ∧ members = entries.map Entry.member := by
  unfold parse objectEntries
  generalize text.toList = characters
  constructor
  · intro parsed
    rcases Option.bind_eq_some_iff.mp parsed with ⟨⟨json, rest⟩, read, whole⟩
    split at whole
    · rename_i finished
      cases whole
      rcases readValue_obj_iff.mp read with ⟨below, body, entries, depth, start, sequence, same⟩
      refine ⟨entries, ?_, same⟩
      rw [start]
      simp only [depth, Nat.add_sub_cancel, sequence, Option.bind_some, finished, if_true]
    · cases whole
  · rintro ⟨entries, read, rfl⟩
    split at read
    · rename_i body start
      rcases Option.bind_eq_some_iff.mp read with ⟨⟨found, rest⟩, sequence, whole⟩
      split at whole
      · rename_i finished
        cases whole
        have depth : characters.length = characters.length - 1 + 1 := by
          cases characters with
          | nil => cases start
          | cons head tail => rfl
        have object := readValue_obj_iff.mpr ⟨_, body, found, depth, start, sequence, rfl⟩
        rw [object, Option.bind_some, if_pos finished]
      · cases whole
    · cases read

/-- The value of an entry was read at its place. -/
theorem exists_read_place {text : String} {entries : List Entry} {entry : Entry}
    (object : objectEntries text = some entries) (inside : entry ∈ entries) :
    exists depth rest, readValue depth entry.place = some (entry.value, rest) := by
  unfold objectEntries at object
  split at object
  · rcases Option.bind_eq_some_iff.mp object with ⟨⟨found, rest⟩, sequence, whole⟩
    split at whole
    · cases whole
      rcases mem_readSequence sequence inside with ⟨start, behind, read⟩
      unfold readEntry at read
      split at read
      · rcases Option.bind_eq_some_iff.mp read with ⟨key, -, read⟩
        split at read
        · rcases Option.map_eq_some_iff.mp read with ⟨value, found, same⟩
          cases same
          exact ⟨_, _, found⟩
        · cases read
      · cases read
    · cases whole
  · cases object

/-- A string was read behind its opening quote. -/
theorem readText_place {depth : Nat} {place rest : List Char} {content : String}
    (read : readValue depth ('"' :: place) = some (.str content, rest)) :
    readText place = some (content.toList, rest) := by
  rw [readValue.eq_def, JsonText.skipSpace_cons (show isSpace '"' = false from rfl)] at read
  rcases Option.map_eq_some_iff.mp read with ⟨⟨characters, behind⟩, found, same⟩
  cases same
  rw [found, String.toList_ofList]

end JsonDocument
end Library
end Imx6Gateway
