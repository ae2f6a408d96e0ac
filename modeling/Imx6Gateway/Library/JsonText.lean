import Imx6Gateway.Library.Json
import Mathlib.Data.Nat.Cast.Field
import Mathlib.Tactic.Linarith

namespace Imx6Gateway
namespace Library

/-!
# A concrete JSON library

`JsonText` prints compact JSON and reads it back.  It is one `JsonCodec`, for
the places where a development needs a library that runs.  Reading accepts
white space between tokens; it does not accept exponents or escaped
surrogates, which the printer never writes.  The nesting bound of `Wire`
drives both recursions: a container at depth zero can only be empty.
-/

namespace JsonText

def isSpace (character : Char) : Bool :=
  character = ' ' || character = '\n' || character = '\t' || character = '\r'

def skipSpace (text : List Char) : List Char :=
  text.dropWhile isSpace

theorem skipSpace_cons {head : Char} (visible : isSpace head = false) (tail : List Char) :
    skipSpace (head :: tail) = head :: tail := by
  rw [skipSpace, List.dropWhile_cons_of_neg (by rw [visible]; exact Bool.false_ne_true)]

/-! ## Numbers -/

/-- The text after a number does not continue it. -/
def Stops (rest : List Char) : Prop :=
  forall head tail, rest = head :: tail -> head.isDigit = false ∧ head ≠ '.'

theorem stops_nil : Stops [] := by
  intro head tail impossible
  cases impossible

theorem stops_cons {head : Char} (tail : List Char) (digit : head.isDigit = false)
    (point : head ≠ '.') : Stops (head :: tail) := by
  intro other rest same
  cases same
  exact ⟨digit, point⟩

theorem takeWhile_digits {digits : List Char} (rest : List Char)
    (allDigits : forall digit, digit ∈ digits -> digit.isDigit = true)
    (stops : forall head tail, rest = head :: tail -> head.isDigit = false) :
    (digits ++ rest).takeWhile Char.isDigit = digits ∧
      (digits ++ rest).dropWhile Char.isDigit = rest := by
  rw [List.takeWhile_append_of_pos allDigits, List.dropWhile_append_of_pos allDigits]
  cases rest with
  | nil => simp
  | cons head tail =>
      have stop := stops head tail rfl
      simp [stop]

def natText (value : Nat) : List Char :=
  Nat.toDigits 10 value

theorem natText_digits (value : Nat) :
    forall digit, digit ∈ natText value -> digit.isDigit = true :=
  fun _ member => Nat.isDigit_of_mem_toDigits (by decide) (by decide) member

/-- Digits after the point, in exactly `places` places. -/
def fractionText (places value : Nat) : List Char :=
  List.replicate (places - (natText value).length) '0' ++ natText value

theorem fractionText_digits (places value : Nat) :
    forall digit, digit ∈ fractionText places value -> digit.isDigit = true := by
  intro digit member
  rcases List.mem_append.mp member with zero | rest
  · rw [(List.mem_replicate.mp zero).2]
    rfl
  · exact natText_digits value digit rest

theorem fractionText_length {places value : Nat} (positive : 0 < places)
    (bounded : value < 10 ^ places) : (fractionText places value).length = places := by
  have short : (natText value).length ≤ places :=
    (Nat.length_toDigits_le_iff (by decide) positive).mpr bounded
  rw [fractionText, List.length_append, List.length_replicate]
  omega

theorem ofDigitChars_fractionText (places value : Nat) :
    Nat.ofDigitChars 10 (fractionText places value) 0 = value := by
  rw [fractionText, Nat.ofDigitChars_append, Nat.ofDigitChars_replicate_zero, Nat.mul_zero]
  exact Nat.ofDigitChars_ten_toDigits

/-- Places that are enough for a fraction with a power of two below the line. -/
def decimalPlaces (value : Rat) : Nat :=
  max 1 (Nat.log2 value.den)

/-- The absolute value in units of the last printed place. -/
def decimalUnits (value : Rat) : Nat :=
  value.num.natAbs * 10 ^ decimalPlaces value / value.den

def unsignedRealText (value : Rat) : List Char :=
  natText (decimalUnits value / 10 ^ decimalPlaces value) ++
    '.' :: fractionText (decimalPlaces value) (decimalUnits value % 10 ^ decimalPlaces value)

def signed (negative : Bool) (text : List Char) : List Char :=
  if negative then '-' :: text else text

def intText (value : Int) : List Char :=
  signed (value < 0) (natText value.natAbs)

def realText (value : Rat) : List Char :=
  signed (value < 0) (unsignedRealText value)

/-- A number without its sign: `inr` when it has a fraction part. -/
def readUnsigned (text : List Char) : Option ((Nat ⊕ Rat) × List Char) :=
  let whole := text.takeWhile Char.isDigit
  let rest := text.dropWhile Char.isDigit
  if whole = [] then none
  else
    match rest with
    | '.' :: rest =>
        let fraction := rest.takeWhile Char.isDigit
        if fraction = [] then none
        else
          some (.inr (Nat.ofDigitChars 10 whole 0 +
            Nat.ofDigitChars 10 fraction 0 / 10 ^ fraction.length), rest.dropWhile Char.isDigit)
    | rest => some (.inl (Nat.ofDigitChars 10 whole 0), rest)

def signedJson (negative : Bool) : Nat ⊕ Rat -> Json
  | .inl value => .int (if negative then -value else value)
  | .inr value => .real (if negative then -value else value)

def readNumber (text : List Char) : Option (Json × List Char) :=
  match text with
  | '-' :: body => (readUnsigned body).map fun read => (signedJson true read.1, read.2)
  | body => (readUnsigned body).map fun read => (signedJson false read.1, read.2)

theorem readUnsigned_natText (value : Nat) {rest : List Char} (stops : Stops rest) :
    readUnsigned (natText value ++ rest) = some (.inl value, rest) := by
  have split := takeWhile_digits _ (natText_digits value) (fun head tail same => (stops head tail same).1)
  have nonempty : natText value ≠ [] := Nat.toDigits_ne_nil
  unfold readUnsigned
  rw [split.1, split.2]
  simp only [nonempty, if_false]
  cases rest with
  | nil => rw [natText, Nat.ofDigitChars_ten_toDigits]
  | cons head tail =>
      have point := (stops head tail rfl).2
      split
      · rename_i same
        cases same
        exact absurd rfl point
      · rw [natText, Nat.ofDigitChars_ten_toDigits]

theorem readUnsigned_point (whole fraction rest : List Char)
    (wholeDigits : forall digit, digit ∈ whole -> digit.isDigit = true)
    (fractionDigits : forall digit, digit ∈ fraction -> digit.isDigit = true)
    (wholeNonempty : whole ≠ []) (fractionNonempty : fraction ≠ []) (stops : Stops rest) :
    readUnsigned (whole ++ '.' :: (fraction ++ rest)) =
      some (.inr (Nat.ofDigitChars 10 whole 0 +
        Nat.ofDigitChars 10 fraction 0 / 10 ^ fraction.length), rest) := by
  have first := takeWhile_digits ('.' :: (fraction ++ rest)) wholeDigits (by
    intro head tail same
    cases same
    rfl)
  have second := takeWhile_digits rest fractionDigits (fun head tail same => (stops head tail same).1)
  unfold readUnsigned
  rw [first.1, first.2]
  simp only [wholeNonempty, if_false, second.1, second.2, fractionNonempty]

theorem readNumber_signed (negative : Bool) {text : List Char} (rest : List Char)
    (digits : forall digit, digit ∈ text.head? -> digit.isDigit = true) (nonempty : text ≠ []) :
    readNumber (signed negative text ++ rest) =
      (readUnsigned (text ++ rest)).map fun read => (signedJson negative read.1, read.2) := by
  cases negative with
  | true => rfl
  | false =>
      cases text with
      | nil => exact absurd rfl nonempty
      | cons head tail =>
          have digit := digits head rfl
          have noSign : head ≠ '-' := by
            rintro rfl
            cases digit
          simp only [signed, Bool.false_eq_true, if_false, List.cons_append, readNumber]
          split
          · rename_i same
            cases same
            exact absurd rfl noSign
          · rfl

theorem natText_head (value : Nat) :
    forall digit, digit ∈ (natText value).head? -> digit.isDigit = true :=
  fun digit member => natText_digits value digit (List.mem_of_mem_head? member)

theorem readNumber_intText (value : Int) {rest : List Char} (stops : Stops rest) :
    readNumber (intText value ++ rest) = some (.int value, rest) := by
  rw [intText, readNumber_signed _ rest (natText_head _) Nat.toDigits_ne_nil,
    readUnsigned_natText _ stops, Option.map_some]
  by_cases negative : value < 0
  · have same : -(value.natAbs : Int) = value := by omega
    simp only [signedJson, negative, decide_true, if_true, same]
  · have same : (value.natAbs : Int) = value := by omega
    simp only [signedJson, negative, decide_false, Bool.false_eq_true, if_false, same]

theorem decimalUnits_eq {value : Rat} (representable : FloatFormat.binary64.Representable value) :
    (decimalUnits value : Rat) = |value| * 10 ^ decimalPlaces value := by
  rcases FloatFormat.den_eq_two_pow representable with ⟨power, den⟩
  have enough : power ≤ decimalPlaces value := by
    rw [decimalPlaces, den, Nat.log2_two_pow]
    exact le_max_right 1 power
  have divides : value.den ∣ value.num.natAbs * 10 ^ decimalPlaces value := by
    have inTen : 2 ^ power ∣ 10 ^ decimalPlaces value :=
      (Nat.pow_dvd_pow 2 enough).trans (pow_dvd_pow_of_dvd (by decide) _)
    rw [den]
    exact inTen.trans (Nat.dvd_mul_left _ _)
  have nonzero : (value.den : Rat) ≠ 0 := by
    exact_mod_cast value.den_nz
  rw [decimalUnits, Nat.cast_div divides nonzero, Rat.abs_def]
  push_cast
  rw [Rat.divInt_eq_div, Nat.cast_natAbs]
  push_cast
  ring

theorem readUnsigned_realText {value : Rat}
    (representable : FloatFormat.binary64.Representable value) {rest : List Char}
    (stops : Stops rest) :
    readUnsigned (unsignedRealText value ++ rest) = some (.inr |value|, rest) := by
  have positive : 0 < decimalPlaces value := by
    unfold decimalPlaces
    omega
  have inPlaces : decimalUnits value % 10 ^ decimalPlaces value < 10 ^ decimalPlaces value :=
    Nat.mod_lt _ (Nat.pow_pos (by decide))
  have length := fractionText_length positive inPlaces
  have nonempty : fractionText (decimalPlaces value)
      (decimalUnits value % 10 ^ decimalPlaces value) ≠ [] := by
    intro empty
    rw [empty, List.length_nil] at length
    omega
  rw [unsignedRealText, List.append_assoc, List.cons_append,
    readUnsigned_point _ _ rest (natText_digits _) (fractionText_digits _ _)
      Nat.toDigits_ne_nil nonempty stops]
  have whole : Nat.ofDigitChars 10 (natText (decimalUnits value / 10 ^ decimalPlaces value)) 0 =
      decimalUnits value / 10 ^ decimalPlaces value := Nat.ofDigitChars_ten_toDigits
  have parts : ((decimalUnits value / 10 ^ decimalPlaces value : Nat) : Rat) *
      10 ^ decimalPlaces value + (decimalUnits value % 10 ^ decimalPlaces value : Nat) =
      decimalUnits value := by
    exact_mod_cast Nat.div_add_mod' (decimalUnits value) (10 ^ decimalPlaces value)
  have scale : (10 : Rat) ^ decimalPlaces value ≠ 0 := pow_ne_zero _ (by norm_num)
  rw [whole, ofDigitChars_fractionText, length]
  congr 3
  rw [decimalUnits_eq representable] at parts
  field_simp
  linarith

theorem readNumber_realText {value : Rat}
    (representable : FloatFormat.binary64.Representable value) {rest : List Char}
    (stops : Stops rest) :
    readNumber (realText value ++ rest) = some (.real value, rest) := by
  have head : forall digit, digit ∈ (unsignedRealText value).head? -> digit.isDigit = true := by
    intro digit member
    have whole : natText (decimalUnits value / 10 ^ decimalPlaces value) ≠ [] :=
      Nat.toDigits_ne_nil
    rw [unsignedRealText, List.head?_append_of_ne_nil _ whole] at member
    exact natText_head _ digit member
  have nonempty : unsignedRealText value ≠ [] := by simp [unsignedRealText]
  rw [realText, readNumber_signed _ rest head nonempty, readUnsigned_realText representable stops,
    Option.map_some]
  by_cases negative : value < 0
  · simp only [signedJson, negative, decide_true, if_true, abs_of_neg negative, neg_neg]
  · simp only [signedJson, negative, decide_false, Bool.false_eq_true, if_false,
      abs_of_nonneg (not_lt.mp negative)]

/-! ## Strings -/

def hexDigit (value : Nat) : Char :=
  if value < 10 then Char.ofNat ('0'.toNat + value) else Char.ofNat ('a'.toNat + (value - 10))

def hexValue (digit : Char) : Option Nat :=
  if digit.isDigit then some (digit.toNat - '0'.toNat)
  else if 'a' ≤ digit ∧ digit ≤ 'f' then some (digit.toNat - 'a'.toNat + 10)
  else if 'A' ≤ digit ∧ digit ≤ 'F' then some (digit.toNat - 'A'.toNat + 10)
  else none

/-- One character inside quotes.  json-c writes a slash with a backslash,
other libraries do not. -/
def escape (slash : Bool) (character : Char) : List Char :=
  if character = '"' then ['\\', '"']
  else if character = '\\' then ['\\', '\\']
  else if character = '/' then if slash then ['\\', '/'] else ['/']
  else if character = '\n' then ['\\', 'n']
  else if character = '\r' then ['\\', 'r']
  else if character = '\t' then ['\\', 't']
  else if character.toNat = 8 then ['\\', 'b']
  else if character.toNat = 12 then ['\\', 'f']
  else if character.toNat < 32 then
    ['\\', 'u', '0', '0', hexDigit (character.toNat / 16), hexDigit (character.toNat % 16)]
  else [character]

def stringText (slash : Bool) (text : String) : List Char :=
  '"' :: (text.toList.flatMap (escape slash) ++ ['"'])

/-- The character after a backslash, except for numeric escapes. -/
def unescape : Char -> Option Char
  | '"' => some '"'
  | '\\' => some '\\'
  | '/' => some '/'
  | 'b' => some (Char.ofNat 8)
  | 'f' => some (Char.ofNat 12)
  | 'n' => some '\n'
  | 'r' => some '\r'
  | 't' => some '\t'
  | _ => none

/-- A numeric escape of a character that is no surrogate. -/
def readHex (first second third fourth : Char) : Option Char := do
  let a ← hexValue first
  let b ← hexValue second
  let c ← hexValue third
  let d ← hexValue fourth
  let code := ((a * 16 + b) * 16 + c) * 16 + d
  if Nat.isValidChar code then some (Char.ofNat code) else none

def prependTo (character : Char) (read : List Char × List Char) : List Char × List Char :=
  (character :: read.1, read.2)

/-- The content of a string up to the closing quote. -/
def readString : List Char -> Option (List Char × List Char)
  | [] => none
  | '"' :: rest => some ([], rest)
  | '\\' :: 'u' :: a :: b :: c :: d :: rest =>
      (readHex a b c d).bind fun character => (readString rest).map (prependTo character)
  | '\\' :: escaped :: rest =>
      (unescape escaped).bind fun character => (readString rest).map (prependTo character)
  | character :: rest =>
      if character.toNat < 32 then none else (readString rest).map (prependTo character)

theorem readHex_control : forall code, code < 32 ->
    readHex '0' '0' (hexDigit (code / 16)) (hexDigit (code % 16)) = some (Char.ofNat code) := by
  decide

theorem readString_escape (slash : Bool) (character : Char) (rest : List Char) :
    readString (escape slash character ++ rest) = (readString rest).map (prependTo character) := by
  unfold escape
  by_cases quote : character = '"'
  · subst quote
    rfl
  by_cases backslash : character = '\\'
  · subst backslash
    rfl
  by_cases isSlash : character = '/'
  · subst isSlash
    cases slash <;> rfl
  by_cases newline : character = '\n'
  · subst newline
    rfl
  by_cases carriage : character = '\r'
  · subst carriage
    rfl
  by_cases tab : character = '\t'
  · subst tab
    rfl
  simp only [quote, backslash, isSlash, newline, carriage, tab, if_false]
  have restored : Char.ofNat character.toNat = character := Char.ofNat_toNat character
  split
  · rename_i backspace
    rw [← restored, backspace]
    rfl
  split
  · rename_i feed
    rw [← restored, feed]
    rfl
  split
  · rename_i control
    have read := readHex_control character.toNat control
    rw [restored] at read
    simp only [List.cons_append, List.nil_append, readString, read, Option.bind_some]
  · rename_i printable
    simp only [List.cons_append, List.nil_append]
    rw [readString.eq_def]
    split
    · rename_i same
      cases same
    · rename_i same
      cases same
      exact absurd rfl quote
    · rename_i same
      cases same
      exact absurd rfl backslash
    · rename_i same
      cases same
      exact absurd rfl backslash
    · rename_i same
      cases same
      rw [if_neg printable]

theorem readString_stringText (slash : Bool) (characters rest : List Char) :
    readString (characters.flatMap (escape slash) ++ '"' :: rest) = some (characters, rest) := by
  induction characters with
  | nil => rfl
  | cons head tail ih =>
      rw [List.flatMap_cons, List.append_assoc, readString_escape, ih]
      rfl

/-! ## Sequences -/

section Sequences

variable {β : Type}

/-- The texts of a sequence after its first one. -/
def tailText : List (List Char) -> List Char
  | [] => []
  | head :: tail => ',' :: (head ++ tailText tail)

/-- A sequence with its closing character. -/
def sequenceText (closing : Char) : List (List Char) -> List Char
  | [] => [closing]
  | head :: tail => head ++ (tailText tail ++ [closing])

/-- At least one element, up to the closing character. -/
def readElements (closing : Char) (readElement : List Char -> Option (β × List Char)) :
    Nat -> List Char -> Option (List β × List Char)
  | 0, _ => none
  | fuel + 1, text =>
      match readElement text with
      | none => none
      | some (element, rest) =>
          match skipSpace rest with
          | [] => none
          | head :: rest =>
              if head = ',' then
                (readElements closing readElement fuel rest).map fun read =>
                  (element :: read.1, read.2)
              else if head = closing then some ([element], rest)
              else none

def readSequence (closing : Char) (readElement : List Char -> Option (β × List Char))
    (text : List Char) : Option (List β × List Char) :=
  match skipSpace text with
  | [] => none
  | head :: rest =>
      if head = closing then some ([], rest)
      else readElements closing readElement (head :: rest).length (head :: rest)

theorem length_le_tailText (texts : List (List Char)) : texts.length ≤ (tailText texts).length := by
  induction texts with
  | nil => exact Nat.le_refl 0
  | cons head tail ih =>
      rw [tailText, List.length_cons, List.length_cons, List.length_append]
      omega

variable {ι : Type} {closing : Char} {readElement : List Char -> Option (β × List Char)}
  {elementText : ι -> List Char} {result : ι -> Option β}

/-- Elements are read one by one, each in front of a comma or of the closing
character, and one that cannot be read spoils the sequence. -/
theorem readElements_delimited (visible : isSpace closing = false) (noComma : closing ≠ ',')
    (head : ι) (tail : List ι)
    (reads : forall element, element ∈ head :: tail -> forall next rest,
      next = ',' ∨ next = closing -> readElement (elementText element ++ next :: rest) =
        (result element).map fun value => (value, next :: rest))
    (fuel : Nat) (enough : tail.length < fuel) (rest : List Char) :
    readElements closing readElement fuel
        (elementText head ++ (tailText (tail.map elementText) ++ closing :: rest)) =
      ((head :: tail).mapM result).map fun values => (values, rest) := by
  induction tail generalizing head fuel with
  | nil =>
      cases fuel with
      | zero => cases enough
      | succ fuel =>
          have read := reads head (List.mem_singleton.mpr rfl) closing rest (.inr rfl)
          rw [List.map_nil, tailText, List.nil_append, readElements, read, List.mapM_cons,
            List.mapM_nil]
          cases result head with
          | none => rfl
          | some value =>
              simp only [Option.map_some, skipSpace_cons visible, noComma, if_false, if_true]
              rfl
  | cons next tail ih =>
      cases fuel with
      | zero => cases enough
      | succ fuel =>
          have inner := ih next (fun element member => reads element (List.mem_cons_of_mem _ member))
            fuel (by rw [List.length_cons] at enough; omega)
          have read := reads head List.mem_cons_self ','
            (elementText next ++ (tailText (tail.map elementText) ++ closing :: rest)) (.inl rfl)
          rw [List.map_cons, tailText, List.cons_append, List.append_assoc, readElements, read,
            List.mapM_cons]
          cases result head with
          | none => rfl
          | some value =>
              simp only [Option.map_some, skipSpace_cons (show isSpace ',' = false from rfl),
                if_true, inner, Option.bind_eq_bind, Option.bind_some]
              cases (next :: tail).mapM result <;> rfl

variable (closing readElement elementText result) in
theorem readSequence_delimited (visible : isSpace closing = false) (noComma : closing ≠ ',')
    (elements : List ι)
    (heads : forall element, element ∈ elements -> exists head tail,
      elementText element = head :: tail ∧ isSpace head = false ∧ head ≠ closing)
    (reads : forall element, element ∈ elements -> forall next rest,
      next = ',' ∨ next = closing -> readElement (elementText element ++ next :: rest) =
        (result element).map fun value => (value, next :: rest))
    (rest : List Char) :
    readSequence closing readElement
        (sequenceText closing (elements.map elementText) ++ rest) =
      (elements.mapM result).map fun values => (values, rest) := by
  cases elements with
  | nil =>
      rw [List.map_nil, sequenceText, List.cons_append, List.nil_append, readSequence,
        skipSpace_cons visible]
      simp only [if_true]
      rfl
  | cons first others =>
      rcases heads first List.mem_cons_self with ⟨head, tail, text, headVisible, different⟩
      rw [List.map_cons, sequenceText, List.append_assoc, List.append_assoc, List.cons_append,
        List.nil_append]
      have length : others.length <
          (elementText first ++ (tailText (others.map elementText) ++ closing :: rest)).length := by
        have bound := length_le_tailText (others.map elementText)
        rw [List.length_map] at bound
        simp only [List.length_append, List.length_cons]
        omega
      have read := readElements_delimited visible noComma first others reads _ length rest
      rw [text, List.cons_append] at read ⊢
      rw [readSequence, skipSpace_cons headVisible]
      simp only [different, if_false]
      exact read

variable (closing readElement) in
theorem readSequence_text (elementText : β -> List Char) (visible : isSpace closing = false)
    (noDigit : closing.isDigit = false) (noPoint : closing ≠ '.') (noComma : closing ≠ ',')
    (elements : List β)
    (heads : forall element, element ∈ elements -> exists head tail,
      elementText element = head :: tail ∧ isSpace head = false ∧ head ≠ closing)
    (reads : forall element, element ∈ elements -> forall rest, Stops rest ->
      readElement (elementText element ++ rest) = some (element, rest)) (rest : List Char) :
    readSequence closing readElement
        (sequenceText closing (elements.map elementText) ++ rest) = some (elements, rest) := by
  have delimited := readSequence_delimited closing readElement elementText some visible noComma
    elements heads (by
      intro element member next rest delimiter
      apply reads element member
      rcases delimiter with rfl | rfl
      · exact stops_cons rest rfl (by decide)
      · exact stops_cons rest noDigit noPoint) rest
  have all : elements.mapM some = some elements := by
    exact List.mapM_pure.trans (congrArg some elements.map_id)
  rwa [all] at delimited

end Sequences

/-! ## Values -/

def memberText (slash : Bool) (valueText : Json -> List Char) (member : String × Json) :
    List Char :=
  stringText slash member.1 ++ ':' :: valueText member.2

/-- The compact text, down to the given depth. -/
def valueText (slash : Bool) : Nat -> Json -> List Char
  | _, .null => ['n', 'u', 'l', 'l']
  | _, .bool true => ['t', 'r', 'u', 'e']
  | _, .bool false => ['f', 'a', 'l', 's', 'e']
  | _, .int value => intText value
  | _, .real value => realText value
  | _, .str text => stringText slash text
  | 0, .arr _ => ['[', ']']
  | 0, .obj _ => ['\x7b', '\x7d']
  | depth + 1, .arr items => '[' :: sequenceText ']' (items.map (valueText slash depth))
  | depth + 1, .obj members =>
      '\x7b' :: sequenceText '\x7d' (members.map (memberText slash (valueText slash depth)))

def readMember (readValue : List Char -> Option (Json × List Char)) (text : List Char) :
    Option ((String × Json) × List Char) :=
  match skipSpace text with
  | '"' :: rest =>
      (readString rest).bind fun key =>
        match skipSpace key.2 with
        | ':' :: rest => (readValue rest).map fun read => ((String.ofList key.1, read.1), read.2)
        | _ => none
  | _ => none

/-- One value with at most the given nesting. -/
def readValue (depth : Nat) (text : List Char) : Option (Json × List Char) :=
  match skipSpace text with
  | 'n' :: 'u' :: 'l' :: 'l' :: rest => some (.null, rest)
  | 't' :: 'r' :: 'u' :: 'e' :: rest => some (.bool true, rest)
  | 'f' :: 'a' :: 'l' :: 's' :: 'e' :: rest => some (.bool false, rest)
  | '"' :: rest => (readString rest).map fun read => (.str (String.ofList read.1), read.2)
  | '[' :: rest =>
      match depth with
      | 0 => (readSequence ']' (fun _ => none) rest).map fun read => (.arr read.1, read.2)
      | depth + 1 => (readSequence ']' (readValue depth) rest).map fun read => (.arr read.1, read.2)
  | '\x7b' :: rest =>
      match depth with
      | 0 => (readSequence '\x7d' (fun _ => none) rest).map fun read => (.obj read.1, read.2)
      | depth + 1 =>
          (readSequence '\x7d' (readMember (readValue depth)) rest).map fun read =>
            (.obj read.1, read.2)
  | rest => readNumber rest

/-- A character that can start a number. -/
def startsNumber (character : Char) : Bool :=
  character.isDigit || character = '-'

theorem startsNumber_visible {head : Char} (starts : startsNumber head = true) :
    isSpace head = false ∧ head ≠ ']' ∧ head ≠ '\x7d' := by
  refine ⟨?_, ?_, ?_⟩
  · cases space : isSpace head with
    | false => rfl
    | true =>
        simp only [isSpace, Bool.or_eq_true, decide_eq_true_eq] at space
        rcases space with ((rfl | rfl) | rfl) | rfl <;> cases starts
  · rintro rfl
    cases starts
  · rintro rfl
    cases starts

theorem signed_head (negative : Bool) {text : List Char}
    (digits : forall digit, digit ∈ text.head? -> digit.isDigit = true) (nonempty : text ≠ []) :
    exists head tail, signed negative text = head :: tail ∧ startsNumber head = true := by
  cases negative with
  | true => exact ⟨'-', text, rfl, rfl⟩
  | false =>
      cases text with
      | nil => exact absurd rfl nonempty
      | cons head tail =>
          refine ⟨head, tail, rfl, ?_⟩
          rw [startsNumber, digits head rfl, Bool.true_or]

theorem realText_head (value : Rat) :
    exists head tail, realText value = head :: tail ∧ startsNumber head = true := by
  have whole : natText (decimalUnits value / 10 ^ decimalPlaces value) ≠ [] :=
    Nat.toDigits_ne_nil
  apply signed_head
  · intro digit member
    rw [unsignedRealText, List.head?_append_of_ne_nil _ whole] at member
    exact natText_head _ digit member
  · simp [unsignedRealText]

theorem intText_head (value : Int) :
    exists head tail, intText value = head :: tail ∧ startsNumber head = true :=
  signed_head _ (natText_head _) Nat.toDigits_ne_nil

theorem valueText_head (slash : Bool) (depth : Nat) (json : Json) :
    exists head tail, valueText slash depth json = head :: tail ∧ isSpace head = false ∧
      head ≠ ']' := by
  cases json with
  | null => cases depth <;> exact ⟨'n', _, rfl, rfl, by decide⟩
  | bool value => cases value <;> cases depth <;> exact ⟨_, _, rfl, rfl, by decide⟩
  | int value =>
      rcases intText_head value with ⟨head, tail, text, starts⟩
      refine ⟨head, tail, ?_, (startsNumber_visible starts).1, (startsNumber_visible starts).2.1⟩
      cases depth <;> exact text
  | real value =>
      rcases realText_head value with ⟨head, tail, text, starts⟩
      refine ⟨head, tail, ?_, (startsNumber_visible starts).1, (startsNumber_visible starts).2.1⟩
      cases depth <;> exact text
  | str text => cases depth <;> exact ⟨'"', _, rfl, rfl, by decide⟩
  | arr items => cases depth <;> exact ⟨'[', _, rfl, rfl, by decide⟩
  | obj members => cases depth <;> exact ⟨'\x7b', _, rfl, rfl, by decide⟩

theorem readValue_number {depth : Nat} {text : List Char} {head : Char} {tail : List Char}
    (starts : text = head :: tail) (number : startsNumber head = true) :
    readValue depth text = readNumber text := by
  subst starts
  have visible := (startsNumber_visible number).1
  rw [readValue.eq_def]
  simp only [skipSpace_cons visible]
  split <;> first | rfl | (rename_i same; cases same; cases number)

theorem readMember_text (slash : Bool) {valueText : Json -> List Char}
    {readValue : List Char -> Option (Json × List Char)} (member : String × Json)
    {rest : List Char}
    (reads : readValue (valueText member.2 ++ rest) = some (member.2, rest)) :
    readMember readValue (memberText slash valueText member ++ rest) = some (member, rest) := by
  have split : memberText slash valueText member ++ rest =
      '"' :: (member.1.toList.flatMap (escape slash) ++
        '"' :: ':' :: (valueText member.2 ++ rest)) := by
    simp only [memberText, stringText, List.cons_append, List.append_assoc, List.nil_append]
  rw [split, readMember, skipSpace_cons (show isSpace '"' = false from rfl)]
  simp only [readString_stringText, Option.bind_some,
    skipSpace_cons (show isSpace ':' = false from rfl), reads, Option.map_some,
    String.ofList_toList]

theorem readValue_stringText (slash : Bool) (depth : Nat) (text : String) (rest : List Char) :
    readValue depth (stringText slash text ++ rest) = some (.str text, rest) := by
  have split : stringText slash text ++ rest =
      '"' :: (text.toList.flatMap (escape slash) ++ '"' :: rest) := by
    simp only [stringText, List.cons_append, List.append_assoc, List.nil_append]
  rw [split, readValue.eq_def, skipSpace_cons (show isSpace '"' = false from rfl)]
  simp only [readString_stringText, Option.map_some, String.ofList_toList]

/-- Values without content are read at any depth. -/
theorem readValue_scalar (slash : Bool) (depth : Nat) (json : Json) (wire : json.Wire depth)
    (noArr : forall items, json ≠ .arr items) (noObj : forall members, json ≠ .obj members)
    (rest : List Char) (stops : Stops rest) :
    readValue depth (valueText slash depth json ++ rest) = some (json, rest) := by
  cases json with
  | null => cases depth <;> rfl
  | bool value => cases value <;> cases depth <;> rfl
  | int value =>
      rcases intText_head value with ⟨head, tail, text, starts⟩
      have shown : valueText slash depth (.int value) = intText value := by cases depth <;> rfl
      rw [shown, readValue_number (by rw [text, List.cons_append]) starts]
      exact readNumber_intText value stops
  | real value =>
      rcases realText_head value with ⟨head, tail, text, starts⟩
      have shown : valueText slash depth (.real value) = realText value := by cases depth <;> rfl
      rw [shown, readValue_number (by rw [text, List.cons_append]) starts]
      exact readNumber_realText ((Json.wire_real depth value).mp wire) stops
  | str text =>
      have shown : valueText slash depth (.str text) = stringText slash text := by
        cases depth <;> rfl
      rw [shown]
      exact readValue_stringText slash depth text rest
  | arr items => exact absurd rfl (noArr items)
  | obj members => exact absurd rfl (noObj members)

/-- Every tree within the bounds is read back from its text.  The induction
is on the nesting that is left. -/
theorem readValue_valueText (slash : Bool) (depth : Nat) (json : Json) (wire : json.Wire depth)
    (rest : List Char) (stops : Stops rest) :
    readValue depth (valueText slash depth json ++ rest) = some (json, rest) := by
  induction depth generalizing json rest with
  | zero =>
      cases json with
      | arr items =>
          have empty : items = [] := wire
          subst empty
          rfl
      | obj members =>
          have empty : members = [] := wire
          subst empty
          rfl
      | _ => exact readValue_scalar slash 0 _ wire (by simp) (by simp) rest stops
  | succ depth ih =>
      cases json with
      | arr items =>
          have reads := readSequence_text ']' (readValue depth) (valueText slash depth) rfl rfl
            (by decide) (by decide) items
            (fun item _ => valueText_head slash depth item)
            (fun item member rest stops => ih item (wire item member) rest stops) rest
          rw [valueText, List.cons_append, readValue,
            skipSpace_cons (show isSpace '[' = false from rfl)]
          simp only [reads, Option.map_some]
      | obj members =>
          have reads := readSequence_text '\x7d' (readMember (readValue depth))
            (memberText slash (valueText slash depth)) rfl rfl (by decide) (by decide) members
            (fun member _ => ⟨'"', _, rfl, rfl, by decide⟩)
            (fun member inside rest stops =>
              readMember_text slash member (ih member.2 (wire.2 member inside) rest stops)) rest
          rw [valueText, List.cons_append, readValue,
            skipSpace_cons (show isSpace '\x7b' = false from rfl)]
          simp only [reads, Option.map_some]
      | _ => exact readValue_scalar slash (depth + 1) _ wire (by simp) (by simp) rest stops

/-! ## The library -/

def print (slash : Bool) (json : Json) : String :=
  String.ofList (valueText slash Json.maxDepth json)

/-- The whole text must be one value that the library can hold. -/
def parse (text : String) : Option Json :=
  match readValue Json.maxDepth text.toList with
  | some (json, rest) =>
      if skipSpace rest = [] ∧ json.Wire Json.maxDepth then some json else none
  | none => none

theorem parse_print (slash : Bool) (json : Json) (wire : json.Wire Json.maxDepth) :
    parse (print slash json) = some json := by
  have read := readValue_valueText slash Json.maxDepth json wire [] stops_nil
  rw [List.append_nil] at read
  simp only [parse, print, String.toList_ofList, read, skipSpace, List.dropWhile_nil, wire,
    and_self, if_true]

/-- White space after the value is skipped. -/
theorem parse_print_line (slash : Bool) (json : Json) (wire : json.Wire Json.maxDepth) :
    parse (print slash json ++ "\n") = some json := by
  have read := readValue_valueText slash Json.maxDepth json wire ['\n']
    (stops_cons [] (by decide) (by decide))
  have line : (print slash json ++ "\n").toList = valueText slash Json.maxDepth json ++ ['\n'] := by
    rw [String.toList_append, print, String.toList_ofList]
    rfl
  have blank : skipSpace ['\n'] = [] := by decide
  simp only [parse, line, read, blank, wire, and_self, if_true]

theorem wire_of_parse (text : String) (json : Json) (parsed : parse text = some json) :
    json.Wire Json.maxDepth := by
  unfold parse at parsed
  split at parsed
  · split at parsed
    · rename_i accepted
      cases parsed
      exact accepted.2
    · cases parsed
  · cases parsed

/-- The codec with or without a backslash before slashes. -/
def codec (slash : Bool) : JsonCodec where
  print := print slash
  parse := parse
  parse_print := parse_print slash
  parse_wire := wire_of_parse
  parse_empty := rfl

/-! ## The beginning of an object -/

theorem escape_plain (slash : Bool) {character : Char}
    (plain : character ≠ '"' ∧ character ≠ '\\' ∧ character ≠ '/' ∧ 32 ≤ character.toNat) :
    escape slash character = [character] := by
  have code : forall other : Char, other.toNat < 32 -> character ≠ other := by
    rintro other small rfl
    omega
  unfold escape
  rw [if_neg plain.1, if_neg plain.2.1, if_neg plain.2.2.1, if_neg (code '\n' (by decide)),
    if_neg (code '\r' (by decide)), if_neg (code '\t' (by decide)), if_neg (by omega),
    if_neg (by omega), if_neg (by omega)]

theorem stringText_plain (slash : Bool) {text : String} (plain : Plain text) :
    stringText slash text = quoted text := by
  have same : text.toList.flatMap (escape slash) = text.toList := by
    unfold Plain at plain
    revert plain
    generalize text.toList = characters
    intro plain
    induction characters with
    | nil => rfl
    | cons head tail ih =>
        rw [List.flatMap_cons, escape_plain slash (plain head List.mem_cons_self),
          ih (fun character member => plain character (List.mem_cons_of_mem head member))]
        rfl
  rw [stringText, same, quoted]

theorem memberText_stringMember (slash : Bool) (depth : Nat) {member : String × String}
    (plain : Plain member.1 ∧ Plain member.2) :
    memberText slash (valueText slash depth) (stringMember member) = stringMemberText member := by
  have value : valueText slash depth (.str member.2) = stringText slash member.2 := by
    cases depth <;> rfl
  rw [memberText, stringMember, value, stringText_plain slash plain.1,
    stringText_plain slash plain.2, stringMemberText]

theorem tailText_append (first second : List (List Char)) :
    tailText (first ++ second) = tailText first ++ tailText second := by
  induction first with
  | nil => rfl
  | cons head tail ih =>
      rw [List.cons_append, tailText, tailText, ih, List.cons_append, List.append_assoc]

theorem codec_compact (slash : Bool) : (codec slash).Compact := by
  intro first others more plain
  have firstText := memberText_stringMember slash 30 (plain first List.mem_cons_self)
  have othersText : tailText ((others.map stringMember).map
      (memberText slash (valueText slash 30))) =
      others.flatMap fun member => ',' :: stringMemberText member := by
    have rest : forall member, member ∈ others -> Plain member.1 ∧ Plain member.2 :=
      fun member inside => plain member (List.mem_cons_of_mem first inside)
    clear firstText plain
    induction others with
    | nil => rfl
    | cons head tail ih =>
        rw [List.map_cons, List.map_cons, tailText, List.flatMap_cons,
          memberText_stringMember slash 30 (rest head List.mem_cons_self),
          ih (fun member inside => rest member (List.mem_cons_of_mem head inside)),
          List.cons_append]
  refine ⟨tailText (more.map (memberText slash (valueText slash 30))) ++ ['\x7d'], ?_⟩
  simp only [codec, print, String.toList_ofList, Json.maxDepth, valueText, List.map_cons,
    List.map_append, sequenceText, tailText_append, firstText, othersText, frontText,
    List.append_assoc]

end JsonText
end Library
end Imx6Gateway
