import Imx6Gateway.Library.JsonDocument
import Imx6Gateway.Pc.JsonUtils

namespace Imx6Gateway
namespace Pc

open Library JsonDocument

/-!
# The type of a message

`MqttMessageHandler::handle` does not parse a payload before it knows its type.
It looks for the first `"type"` in the text, then for the next colon, then for
the next quote, and takes what stands in quotes there with all backslashes
dropped.  This file compares what is found so with the member of the object.
-/

/-! ## Where the search ends -/

/-- The text behind the first quote behind the first colon behind the first
place where the key stands in quotes. -/
def ReachesKey (key : String) (text place : List Char) : Prop :=
  exists front between gap,
    text = front ++ (quoted key ++ (between ++ ':' :: (gap ++ '"' :: place))) ∧
      (forall earlier rest, text = earlier ++ (quoted key ++ rest) ->
        front.length ≤ earlier.length) ∧
      ':' ∉ between ∧ '"' ∉ gap

theorem afterFront_eq_some_iff {front text rest : List Char} :
    afterFront front text = some rest ↔ text = front ++ rest := by
  constructor
  · intro found
    induction front generalizing text with
    | nil =>
        cases found
        rfl
    | cons expected front ih =>
        cases text with
        | nil => cases found
        | cons head tail =>
            rw [afterFront] at found
            split at found
            · rename_i same
              rw [same, ih found]
              rfl
            · cases found
  · rintro rfl
    exact afterFront_append front rest

/-- What `findAfter` returns follows the first occurrence. -/
theorem findAfter_eq_some_iff {pattern text rest : List Char} :
    findAfter pattern text = some rest ↔ exists front, text = front ++ (pattern ++ rest) ∧
      forall earlier later, text = earlier ++ (pattern ++ later) ->
        front.length ≤ earlier.length := by
  induction text with
  | nil =>
      rw [findAfter, afterFront_eq_some_iff]
      constructor
      · exact fun same => ⟨[], same, fun _ _ _ => Nat.zero_le _⟩
      · rintro ⟨front, same, -⟩
        exact (List.append_eq_nil_iff.mp same.symm).2.symm
  | cons head tail ih =>
      rw [findAfter]
      cases here : afterFront pattern (head :: tail) with
      | some found =>
          have start := afterFront_eq_some_iff.mp here
          constructor
          · rintro same
            cases same
            exact ⟨[], start, fun _ _ _ => Nat.zero_le _⟩
          · rintro ⟨front, same, first⟩
            have empty : front = [] := List.length_eq_zero_iff.mp (Nat.le_zero.mp (first [] found start))
            rw [empty, List.nil_append] at same
            exact (congrArg some (List.append_cancel_left (start.symm.trans same)))
      | none =>
          have notHere : forall later, head :: tail ≠ pattern ++ later := by
            intro later same
            rw [afterFront_eq_some_iff.mpr same] at here
            cases here
          rw [ih]
          constructor
          · rintro ⟨front, same, first⟩
            refine ⟨head :: front, congrArg (head :: ·) same, ?_⟩
            intro earlier later split
            cases earlier with
            | nil => exact absurd split (notHere later)
            | cons next earlier =>
                exact Nat.succ_le_succ (first earlier later (List.cons.inj split).2)
          · rintro ⟨front, same, first⟩
            cases front with
            | nil => exact absurd same (notHere rest)
            | cons next front =>
                refine ⟨front, (List.cons.inj same).2, ?_⟩
                intro earlier later split
                exact Nat.le_of_succ_le_succ
                  (first (head :: earlier) later (congrArg (head :: ·) split))

/-- The place where the search of `extractJsonStringValue` ends. -/
def reached (key : String) (text : List Char) : Option (List Char) :=
  (findAfter (quoted key) text).bind fun rest =>
    (cutAt ':' rest).bind fun parts => (cutAt '"' parts.2).map Prod.snd

theorem reached_iff {key : String} {text place : List Char} :
    reached key text = some place ↔ ReachesKey key text place := by
  constructor
  · intro found
    rcases Option.bind_eq_some_iff.mp found with ⟨rest, key, found⟩
    rcases Option.bind_eq_some_iff.mp found with ⟨⟨between, behind⟩, colon, found⟩
    rcases Option.map_eq_some_iff.mp found with ⟨⟨gap, place⟩, quote, rfl⟩
    rcases findAfter_eq_some_iff.mp key with ⟨front, text, first⟩
    have colons := cutAt_eq_some colon
    have quotes : behind = gap ++ '"' :: place ∧ '"' ∉ gap := cutAt_eq_some quote
    refine ⟨front, between, gap, ?_, first, colons.2, quotes.2⟩
    rw [text, colons.1, quotes.1]
  · rintro ⟨front, between, gap, text, first, colon, quote⟩
    have key := findAfter_eq_some_iff.mpr ⟨front, text, first⟩
    rw [reached, key, Option.bind_some, cutAt_append _ colon, Option.bind_some,
      cutAt_append _ quote]
    rfl

theorem extract_reached (json key : String) :
    extractJsonStringValue json key =
      match reached key json.toList with
      | none => ""
      | some place => String.ofList (scanString place) := by
  unfold extractJsonStringValue reached
  cases findAfter (quoted key) json.toList with
  | none => rfl
  | some rest =>
      rw [Option.bind_some]
      cases colon : cutAt ':' rest with
      | none => simp only [colon, Option.bind_none]
      | some parts =>
          simp only [colon, Option.bind_some]
          cases cutAt '"' parts.2 <;> rfl

/-! ## What is read there -/

/-- Up to the closing quote a backslash stands only before a quote, a backslash
or a slash, which are the characters that stand for themselves. -/
def plainEscapes : List Char -> Bool
  | [] => true
  | '"' :: _ => true
  | '\\' :: escaped :: rest =>
      (escaped = '"' || escaped = '\\' || escaped = '/') && plainEscapes rest
  | _ :: rest => plainEscapes rest

theorem hexValue_some {digit : Char} {value : Nat} (hex : JsonText.hexValue digit = some value) :
    digit ≠ '"' ∧ digit ≠ '\\' := by
  constructor
  · rintro rfl
    cases hex
  · rintro rfl
    cases hex

theorem scanString_bare {head : Char} (tail : List Char) (quote : head ≠ '"')
    (backslash : head ≠ '\\') : scanString (head :: tail) = head :: scanString tail := by
  rw [scanString]
  · exact quote
  · rintro same -
    exact backslash same
  · rintro _ _ same -
    exact backslash same

theorem plainEscapes_bare {head : Char} (tail : List Char) (quote : head ≠ '"')
    (backslash : head ≠ '\\') : plainEscapes (head :: tail) = plainEscapes tail := by
  rw [plainEscapes]
  · exact quote
  · rintro _ _ same -
    exact backslash same

/-- The digits of an escape are not dropped. -/
theorem scanString_unit {a b c d : Char} {unit : Nat} (rest : List Char)
    (read : codeUnit a b c d = some unit) :
    scanString ('\\' :: 'u' :: a :: b :: c :: d :: rest) =
      'u' :: a :: b :: c :: d :: scanString rest := by
  unfold codeUnit at read
  rcases Option.bind_eq_some_iff.mp read with ⟨first, ha, read⟩
  rcases Option.bind_eq_some_iff.mp read with ⟨second, hb, read⟩
  rcases Option.bind_eq_some_iff.mp read with ⟨third, hc, read⟩
  rcases Option.bind_eq_some_iff.mp read with ⟨fourth, hd, -⟩
  rw [scanString, scanString_bare _ (hexValue_some ha).1 (hexValue_some ha).2,
    scanString_bare _ (hexValue_some hb).1 (hexValue_some hb).2,
    scanString_bare _ (hexValue_some hc).1 (hexValue_some hc).2,
    scanString_bare _ (hexValue_some hd).1 (hexValue_some hd).2]

/-- The escapes that stand for the character behind the backslash. -/
theorem unescape_self {escaped character : Char}
    (meaning : JsonText.unescape escaped = some character) :
    (escaped = '"' || escaped = '\\' || escaped = '/') = true ↔ escaped = character := by
  unfold JsonText.unescape at meaning
  split at meaning <;> cases meaning <;> decide

/-- A string is read at most as long as it is scanned, and both agree exactly if
all escapes are plain. -/
theorem readText_scan {text content rest : List Char} (read : readText text = some (content, rest)) :
    content.length ≤ (scanString text).length ∧
      (scanString text = content ↔ plainEscapes text = true) := by
  induction text using readText.induct generalizing content with
  | case1 => cases read
  | case2 rest =>
      cases read
      exact ⟨Nat.le_refl 0, iff_of_true rfl rfl⟩
  | case3 a b c d start pair ih =>
      rw [readText] at read
      rcases Option.bind_eq_some_iff.mp read with ⟨unit, digits, read⟩
      have scanned := scanString_unit start digits
      have shorter : content.length <
          (scanString ('\\' :: 'u' :: a :: b :: c :: d :: start)).length := by
        rw [scanned]
        split at read
        · cases read
        split at read
        · split at read
          · rename_i e f g h behind _
            rcases Option.bind_eq_some_iff.mp read with ⟨low, lowDigits, read⟩
            split at read
            · rcases Option.map_eq_some_iff.mp read with ⟨inner, found, same⟩
              cases same
              have bound := (pair found).1
              rw [scanString_unit behind lowDigits]
              simp only [List.length_cons]
              omega
            · cases read
          · cases read
        · rcases Option.map_eq_some_iff.mp read with ⟨inner, found, same⟩
          cases same
          have bound := (ih found).1
          simp only [List.length_cons]
          omega
      refine ⟨Nat.le_of_lt shorter, iff_of_false ?_ ?_⟩
      · intro same
        rw [same] at shorter
        exact Nat.lt_irrefl _ shorter
      · exact Bool.false_ne_true
  | case4 escaped start noUnit ih =>
      rw [readText] at read
      · rcases Option.bind_eq_some_iff.mp read with ⟨character, meaning, read⟩
        rcases Option.map_eq_some_iff.mp read with ⟨inner, found, same⟩
        cases same
        have deeper := ih found
        rw [scanString, plainEscapes]
        refine ⟨Nat.succ_le_succ deeper.1, ?_⟩
        rw [Bool.and_eq_true, ← deeper.2, unescape_self meaning]
        exact ⟨fun same => List.cons.inj same, fun same => congrArg₂ _ same.1 same.2⟩
      · exact noUnit
  | case5 character start quote noUnit noEscape control =>
      rw [readText, if_pos control] at read
      · cases read
      · exact quote
      · exact noUnit
      · exact noEscape
  | case6 character start quote noUnit noEscape printable ih =>
      rw [readText, if_neg printable] at read
      · rcases Option.map_eq_some_iff.mp read with ⟨inner, found, same⟩
        cases same
        have deeper := ih found
        have backslash : character ≠ '\\' := by
          rintro rfl
          cases start with
          | nil => cases found
          | cons next start => exact noEscape next start rfl rfl
        rw [scanString_bare start quote backslash, plainEscapes_bare start quote backslash]
        refine ⟨Nat.succ_le_succ deeper.1, ?_⟩
        rw [← deeper.2]
        exact ⟨fun same => (List.cons.inj same).2, congrArg (character :: ·)⟩
      · exact quote
      · exact noUnit
      · exact noEscape

/-- The characters up to the next bare quote or the end, without backslashes. -/
inductive Spells : List Char -> List Char -> Prop where
  | ended : Spells [] []
  | closed (rest : List Char) : Spells ('"' :: rest) []
  | cut : Spells ['\\'] []
  | escaped (character : Char) {rest content : List Char} (spells : Spells rest content) :
      Spells ('\\' :: character :: rest) (character :: content)
  | bare (character : Char) {rest content : List Char} (quote : character ≠ '"')
      (backslash : character ≠ '\\') (spells : Spells rest content) :
      Spells (character :: rest) (character :: content)

theorem spells_scanString (text : List Char) : Spells text (scanString text) := by
  induction text using scanString.induct with
  | case1 => exact .ended
  | case2 rest => exact .closed rest
  | case3 => exact .cut
  | case4 escaped rest ih => exact .escaped escaped ih
  | case5 head rest quote last escape ih =>
      have backslash : head ≠ '\\' := by
        rintro rfl
        cases rest with
        | nil => exact last rfl rfl
        | cons next rest => exact escape next rest rfl rfl
      rw [scanString_bare rest quote backslash]
      exact .bare head quote backslash ih

theorem spells_iff {text content : List Char} : Spells text content ↔ scanString text = content := by
  constructor
  · intro spells
    induction spells with
    | ended => rfl
    | closed rest => rfl
    | cut => rfl
    | escaped character spells ih => rw [scanString, ih]
    | bare character quote backslash spells ih => rw [scanString_bare _ quote backslash, ih]
  · rintro rfl
    exact spells_scanString text

/-! ## The member of the object -/

/-- The place is the content of the object's own member. -/
def Own (payload : String) (place : List Char) : Prop :=
  exists entries entry text, objectEntries payload = some entries ∧
    entries.find? (fun entry => entry.key = "type") = some entry ∧
    entry.value = .str text ∧ entry.place = '"' :: place

/-- The search ends at the member, which has no escapes but plain ones, or at
another text with the same characters, or nowhere, and the type is empty. -/
inductive Found (payload type : String) : Prop where
  | own (place : List Char) (reaches : ReachesKey "type" payload.toList place)
      (own : Own payload place) (plain : plainEscapes place = true)
  | twin (place : List Char) (reaches : ReachesKey "type" payload.toList place)
      (other : ¬Own payload place) (spells : Spells place type.toList)
  | nowhere (none : forall place, ¬ReachesKey "type" payload.toList place) (empty : type = "")

theorem lookup_entries (key : String) (entries : List Entry) :
    (entries.map Entry.member).lookup key =
      (entries.find? fun entry => entry.key = key).map Entry.value := by
  induction entries with
  | nil => rfl
  | cons head tail ih =>
      rw [List.map_cons, List.find?_cons]
      by_cases here : head.key = key
      · have same : (key == head.key) = true := by simpa using here.symm
        rw [Entry.member, List.lookup_cons, same, decide_eq_true here]
        rfl
      · have different : (key == head.key) = false := by simpa using Ne.symm here
        rw [Entry.member, List.lookup_cons, different, decide_eq_false here]
        exact ih

/-- What stands at the member's own place is the member. -/
theorem own_read {payload : String} {members : List (String × Json)} {place : List Char}
    (object : parse payload = some (.obj members)) (own : Own payload place) :
    exists rest, readText place = some ((getJsonString (.obj members) "type").toList, rest) := by
  rcases own with ⟨entries, entry, text, listed, first, value, start⟩
  rcases parse_obj_iff.mp object with ⟨found, same, rfl⟩
  cases listed.symm.trans same
  have member : (Json.obj (entries.map Entry.member)).lookup "type" = some (.str text) := by
    rw [Json.lookup_obj, lookup_entries, first, Option.map_some, value]
  rcases exists_read_place listed (List.mem_of_find?_eq_some first) with ⟨depth, rest, read⟩
  rw [start, value] at read
  rw [getJsonString_of_lookup member]
  exact ⟨rest, readText_place read⟩

/-- For every JSON object, the type that is looked up in its text is the member
of the object exactly if the search finds it. -/
theorem message_type_iff (payload : String) (members : List (String × Json))
    (object : parse payload = some (.obj members)) :
    extractJsonStringValue payload "type" = getJsonString (.obj members) "type" ↔
      Found payload (getJsonString (.obj members) "type") := by
  rw [extract_reached]
  cases search : reached "type" payload.toList with
  | none =>
      have nowhere : forall place, ¬ReachesKey "type" payload.toList place := by
        intro place reaches
        rw [reached_iff.mpr reaches] at search
        cases search
      constructor
      · exact fun empty => .nowhere nowhere empty.symm
      · intro found
        cases found with
        | own place reaches => exact absurd reaches (nowhere place)
        | twin place reaches => exact absurd reaches (nowhere place)
        | nowhere _ empty => exact empty.symm
  | some place =>
      have reaches := reached_iff.mp search
      have only : forall other, ReachesKey "type" payload.toList other -> other = place := by
        intro other there
        rw [reached_iff.mpr there] at search
        exact Option.some.inj search
      have texts : String.ofList (scanString place) = getJsonString (.obj members) "type" ↔
          scanString place = (getJsonString (.obj members) "type").toList := by
        rw [← String.toList_inj, String.toList_ofList]
      simp only [texts]
      by_cases own : Own payload place
      · rcases own_read object own with ⟨rest, read⟩
        rw [(readText_scan read).2]
        constructor
        · exact fun plain => .own place reaches own plain
        · intro found
          cases found with
          | own other there _ plain => exact only other there ▸ plain
          | twin other there different => exact absurd (only other there ▸ own) different
          | nowhere none => exact absurd reaches (none place)
      · constructor
        · exact fun same => .twin place reaches own (spells_iff.mpr same)
        · intro found
          cases found with
          | own other there its => exact absurd (only other there ▸ its) own
          | twin other there _ spells => exact spells_iff.mp (only other there ▸ spells)
          | nowhere none => exact absurd reaches (none place)

theorem ack_type_found :
    extractJsonStringValue "\x7b\"type\": \"ack\"\x7d" "type" = "ack" ↔
      Found "\x7b\"type\": \"ack\"\x7d" "ack" :=
  message_type_iff "\x7b\"type\": \"ack\"\x7d" [("type", .str "ack")] rfl

def innerTypeFirst : String :=
  "\x7b\"data\":\x7b\"type\":\"log\"\x7d,\"type\":\"ack\"\x7d"

/-- The member of an inner object comes first, and `log` is taken for the type. -/
theorem inner_type_found : exists members, parse innerTypeFirst = some (.obj members) ∧
    extractJsonStringValue innerTypeFirst "type" ≠ getJsonString (.obj members) "type" :=
  ⟨[("data", .obj [("type", .str "log")]), ("type", .str "ack")], rfl, by decide⟩

end Pc
end Imx6Gateway
