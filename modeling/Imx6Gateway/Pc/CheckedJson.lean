import Imx6Gateway.Library.PartialRun
import Imx6Gateway.Pc.JsonUtils

namespace Imx6Gateway
namespace Pc

open Library

/-!
# The readers with the checks of rapidjson

An accessor of rapidjson asserts that the value has its type, and a `double`
may be converted only to an integer type that holds it.  The readers of
`JsonUtils.cpp` are written here once more over accessors that can fail.  Only
the readers of integers ever do: they ask for the type of a number, but not
for its range.
-/

namespace Rapidjson

/-- `HasMember`, which asserts an object. -/
def hasMember? : Json -> String -> Option Bool
  | .obj members, key => some (members.lookup key).isSome
  | _, _ => none

/-- `operator[]`, which asserts an object with the member. -/
def member? : Json -> String -> Option Json
  | .obj members, key => members.lookup key
  | _, _ => none

def getObject? : Json -> Option Json
  | .obj members => some (.obj members)
  | _ => none

def getArray? : Json -> Option (List Json)
  | .arr items => some items
  | _ => none

def getString? : Json -> Option String
  | .str text => some text
  | _ => none

def getBool? : Json -> Option Bool
  | .bool value => some value
  | _ => none

def isArray : Json -> Bool
  | .arr _ => true
  | _ => false

def isString : Json -> Bool
  | .str _ => true
  | _ => false

def isBool : Json -> Bool
  | .bool _ => true
  | _ => false

def isNumber : Json -> Bool
  | .int _ => true
  | .real _ => true
  | _ => false

/-- `IsInt` and `IsInt64`, for the type from `low` up to `high`. -/
def isInteger (low high : Int) : Json -> Bool
  | .int value => low ≤ value && value < high
  | _ => false

/-- `GetInt` and `GetInt64`. -/
def getInteger? (low high : Int) : Json -> Option Int
  | .int value => if low ≤ value ∧ value < high then some value else none
  | _ => none

/-- `static_cast` of `GetDouble()`.  The `double` of an integer that the type
does not hold lies outside the type as well. -/
def castDouble? (low high : Int) : Json -> Option Int
  | .int value => if low ≤ value ∧ value < high then some value else none
  | .real value =>
      if low ≤ truncate value ∧ truncate value < high then some (truncate value) else none
  | _ => none

end Rapidjson

section Readers

open Rapidjson

def getJsonString? (object : Json) (key : String) : Option String :=
  if !object.isObj then some ""
  else do
    if !(← hasMember? object key) then some ""
    else
      let value ← member? object key
      if isString value then getString? value else some ""

def getJsonBool? (object : Json) (key : String) (defaultValue : Bool) : Option Bool :=
  if !object.isObj then some defaultValue
  else do
    if !(← hasMember? object key) then some defaultValue
    else
      let value ← member? object key
      if isBool value then getBool? value
      else if isInteger (-2 ^ 31) (2 ^ 31) value then do
        let number ← getInteger? (-2 ^ 31) (2 ^ 31) value
        some (number ≠ 0)
      else some defaultValue

/-- `HasMember` and `IsObject` in front of a member. -/
def memberObject? (object : Json) (key : String) : Option (Option Json) :=
  if !object.isObj then some none
  else do
    if !(← hasMember? object key) then some none
    else
      let value ← member? object key
      if value.isObj then (getObject? value).map some else some none

/-- `HasMember` and `IsArray` in front of a member. -/
def memberArray? (object : Json) (key : String) : Option (Option (List Json)) :=
  if !object.isObj then some none
  else do
    if !(← hasMember? object key) then some none
    else
      let value ← member? object key
      if isArray value then (getArray? value).map some else some none

/-- `getJsonInt` and `getJsonInt64`. -/
def getJsonNumber? (low high : Int) (object : Json) (key : String) (defaultValue : Int) :
    Option Int :=
  if !object.isObj then some defaultValue
  else do
    if !(← hasMember? object key) then some defaultValue
    else
      let value ← member? object key
      if isInteger low high value then getInteger? low high value
      else if isNumber value then castDouble? low high value
      else some defaultValue

def getJsonInt? : Json -> String -> Int -> Option Int :=
  getJsonNumber? (-2 ^ 31) (2 ^ 31)

def getJsonInt64? : Json -> String -> Int -> Option Int :=
  getJsonNumber? (-2 ^ 63) (2 ^ 63)

/-- The readers with several keys ask the first one that is there. -/
def readAny? {α : Type} (read? : Json -> String -> α -> Option α) (object : Json) :
    List String -> α -> Option α
  | [], defaultValue => some defaultValue
  | key :: keys, defaultValue =>
      if !object.isObj then some defaultValue
      else do
        if ← hasMember? object key then read? object key defaultValue
        else readAny? read? object keys defaultValue

def getJsonIntAny? : Json -> List String -> Int -> Option Int :=
  readAny? getJsonInt?

def getJsonInt64Any? : Json -> List String -> Int -> Option Int :=
  readAny? getJsonInt64?

def getJsonBoolAny? : Json -> List String -> Bool -> Option Bool :=
  readAny? getJsonBool?

end Readers

/-! ## The readers that never fail -/

theorem lookup_of_no_obj {object : Json} (other : object.isObj = false) (key : String) :
    object.lookup key = none := by
  cases object with
  | obj members => cases other
  | null => rfl
  | bool value => rfl
  | int value => rfl
  | real value => rfl
  | str text => rfl
  | arr items => rfl

/-- A reader that looks at a member only if it is there. -/
theorem guarded_member {α : Type} (object : Json) (key : String) (absent : Option α)
    (present : Json -> Option α) :
    (if !object.isObj then absent
      else do
        if !(← Rapidjson.hasMember? object key) then absent
        else
          let value ← Rapidjson.member? object key
          present value) =
      match object.lookup key with
      | none => absent
      | some value => present value := by
  cases isObj : object.isObj with
  | true =>
      rcases Json.isObj_iff.mp isObj with ⟨members, rfl⟩
      rw [Rapidjson.hasMember?, Rapidjson.member?, Json.lookup_obj]
      cases members.lookup key with
      | none => rfl
      | some value => rfl
  | false =>
      rw [lookup_of_no_obj isObj]
      rfl

@[simp]
theorem getJsonString?_eq (object : Json) (key : String) :
    getJsonString? object key = some (getJsonString object key) := by
  unfold getJsonString? getJsonString
  rw [guarded_member]
  cases object.lookup key with
  | none => rfl
  | some value => cases value <;> rfl

@[simp]
theorem getJsonBool?_eq (object : Json) (key : String) (defaultValue : Bool) :
    getJsonBool? object key defaultValue = some (getJsonBool object key defaultValue) := by
  unfold getJsonBool? getJsonBool
  rw [guarded_member]
  cases object.lookup key with
  | none => rfl
  | some value =>
      cases value with
      | int value =>
          simp only [Rapidjson.isBool, Rapidjson.isInteger, Rapidjson.getInteger?,
            Bool.false_eq_true, if_false, Bool.and_eq_true, decide_eq_true_eq]
          by_cases fits : -2 ^ 31 ≤ value ∧ value < 2 ^ 31
          · rw [if_pos fits, if_pos fits, if_pos fits]
            rfl
          · rw [if_neg fits, if_neg fits]
      | bool value => rfl
      | null => rfl
      | real value => rfl
      | str text => rfl
      | arr items => rfl
      | obj members => rfl

@[simp]
theorem memberObject?_eq (object : Json) (key : String) :
    memberObject? object key = some (memberObject object key) := by
  unfold memberObject? memberObject
  rw [guarded_member]
  cases object.lookup key with
  | none => rfl
  | some value => cases value <;> rfl

@[simp]
theorem memberArray?_eq (object : Json) (key : String) :
    memberArray? object key = some (memberArray object key) := by
  unfold memberArray? memberArray
  rw [guarded_member]
  cases object.lookup key with
  | none => rfl
  | some value => cases value <;> rfl

/-! ## The readers of integers -/

/-- A number that the type holds after truncation; what is no number is not read. -/
def NumberFits (low high : Int) : Json -> Prop
  | .int value => low ≤ value ∧ value < high
  | .real value => low ≤ truncate value ∧ truncate value < high
  | _ => True

/-- The member is read into the type without a loss. -/
def MemberFits (low high : Int) (object : Json) (key : String) : Prop :=
  forall value, object.lookup key = some value -> NumberFits low high value

/-- The member fits an `int`. -/
def IntFits : Json -> String -> Prop :=
  MemberFits (-2 ^ 31) (2 ^ 31)

/-- The member fits an `int64_t`. -/
def Int64Fits : Json -> String -> Prop :=
  MemberFits (-2 ^ 63) (2 ^ 63)

/-- The first of the members that is there fits. -/
def IntAnyFits (object : Json) (keys : List String) : Prop :=
  forall key, firstMember object keys = some key -> IntFits object key

def Int64AnyFits (object : Json) (keys : List String) : Prop :=
  forall key, firstMember object keys = some key -> Int64Fits object key

/-- The number of a member. -/
def numberOr (object : Json) (key : String) (defaultValue : Int) : Int :=
  match object.lookup key with
  | some (.int value) => value
  | some (.real value) => truncate value
  | _ => defaultValue

theorem getJsonNumber?_runs (low high : Int) (object : Json) (key : String) (defaultValue : Int) :
    RunsTo (getJsonNumber? low high object key defaultValue) (MemberFits low high object key)
      (numberOr object key defaultValue) := by
  unfold getJsonNumber? MemberFits numberOr
  rw [guarded_member]
  cases object.lookup key with
  | none => exact (RunsTo.of_some defaultValue).congr (by simp) fun _ => rfl
  | some value =>
      have same : (forall found, some value = some found -> NumberFits low high found) ↔
          NumberFits low high value := by simp
      rw [same]
      cases value with
      | int value =>
          simp only [Rapidjson.isInteger, Rapidjson.getInteger?, Rapidjson.isNumber,
            Rapidjson.castDouble?, if_true, ite_self, NumberFits]
          by_cases fits : low ≤ value ∧ value < high
          · rw [if_pos fits]
            exact (RunsTo.of_some value).congr (by simp [fits]) fun _ => rfl
          · rw [if_neg fits]
            exact RunsTo.of_none fits value
      | real value =>
          simp only [Rapidjson.isInteger, Rapidjson.isNumber, Rapidjson.castDouble?, if_true,
            Bool.false_eq_true, if_false, NumberFits]
          by_cases fits : low ≤ truncate value ∧ truncate value < high
          · rw [if_pos fits]
            exact (RunsTo.of_some _).congr (by simp [fits]) fun _ => rfl
          · rw [if_neg fits]
            exact RunsTo.of_none fits _
      | null => exact RunsTo.of_some defaultValue
      | bool value => exact RunsTo.of_some defaultValue
      | str text => exact RunsTo.of_some defaultValue
      | arr items => exact RunsTo.of_some defaultValue
      | obj members => exact RunsTo.of_some defaultValue

theorem numberOr_eq_getJsonInt {object : Json} {key : String} (fits : IntFits object key)
    (defaultValue : Int) : numberOr object key defaultValue = getJsonInt object key defaultValue := by
  unfold numberOr getJsonInt
  cases found : object.lookup key with
  | none => rfl
  | some value =>
      have range := fits value found
      cases value with
      | int value => exact (toInt_of_range range.1 range.2).symm
      | real value => exact (toInt_of_range range.1 range.2).symm
      | null => rfl
      | bool value => rfl
      | str text => rfl
      | arr items => rfl
      | obj members => rfl

theorem numberOr_eq_getJsonInt64 {object : Json} {key : String} (fits : Int64Fits object key)
    (defaultValue : Int) :
    numberOr object key defaultValue = getJsonInt64 object key defaultValue := by
  unfold numberOr getJsonInt64
  cases found : object.lookup key with
  | none => rfl
  | some value =>
      have range := fits value found
      cases value with
      | int value => exact (toInt64_of_range range.1 range.2).symm
      | real value => exact (toInt64_of_range range.1 range.2).symm
      | null => rfl
      | bool value => rfl
      | str text => rfl
      | arr items => rfl
      | obj members => rfl

theorem getJsonInt?_runs (object : Json) (key : String) (defaultValue : Int) :
    RunsTo (getJsonInt? object key defaultValue) (IntFits object key)
      (getJsonInt object key defaultValue) :=
  (getJsonNumber?_runs _ _ object key defaultValue).congr Iff.rfl fun fits =>
    numberOr_eq_getJsonInt fits defaultValue

theorem getJsonInt64?_runs (object : Json) (key : String) (defaultValue : Int) :
    RunsTo (getJsonInt64? object key defaultValue) (Int64Fits object key)
      (getJsonInt64 object key defaultValue) :=
  (getJsonNumber?_runs _ _ object key defaultValue).congr Iff.rfl fun fits =>
    numberOr_eq_getJsonInt64 fits defaultValue

/-! ## The readers with several keys -/

theorem firstMember_of_no_obj {object : Json} (other : object.isObj = false)
    (keys : List String) : firstMember object keys = none := by
  unfold firstMember
  rw [List.find?_eq_none]
  intro key _
  rw [lookup_of_no_obj other]
  exact Bool.false_ne_true

section ReadAny

variable {α : Type} {read? : Json -> String -> α -> Option α} {read : Json -> String -> α -> α}
  {fits : Json -> String -> Prop} {object : Json} {defaultValue : α}

theorem default_runs (read : Json -> String -> α -> α) {keys : List String} (absent : firstMember object keys = none) :
    RunsTo (some defaultValue) (forall key, firstMember object keys = some key -> fits object key)
      (match firstMember object keys with
      | some key => read object key defaultValue
      | none => defaultValue) := by
  rw [absent]
  apply (RunsTo.of_some defaultValue).congr
  · refine iff_of_true trivial ?_
    intro key found
    cases found
  · exact fun _ => rfl

theorem readAny?_runs (keys : List String)
    (each : forall key, RunsTo (read? object key defaultValue) (fits object key)
      (read object key defaultValue)) :
    RunsTo (readAny? read? object keys defaultValue)
      (forall key, firstMember object keys = some key -> fits object key)
      (match firstMember object keys with
      | some key => read object key defaultValue
      | none => defaultValue) := by
  cases isObj : object.isObj with
  | false =>
      have absent := firstMember_of_no_obj isObj keys
      cases keys with
      | nil => exact default_runs read absent
      | cons key keys =>
          rw [readAny?, isObj]
          exact default_runs read absent
  | true =>
      rcases Json.isObj_iff.mp isObj with ⟨members, rfl⟩
      induction keys with
      | nil => exact default_runs read rfl
      | cons key keys ih =>
          rw [readAny?, isObj, Rapidjson.hasMember?]
          cases there : (members.lookup key).isSome with
          | true =>
              have first : firstMember (.obj members) (key :: keys) = some key :=
                List.find?_cons_of_pos there
              rw [first]
              apply (each key).congr
              · exact ⟨fun fits _ same => Option.some.inj same ▸ fits, fun fits => fits key rfl⟩
              · exact fun _ => rfl
          | false =>
              have later : firstMember (.obj members) (key :: keys) =
                  firstMember (.obj members) keys :=
                List.find?_cons_of_neg (by
                  rw [Json.lookup_obj, there]
                  exact Bool.false_ne_true)
              rw [later]
              exact ih

end ReadAny

theorem getJsonIntAny?_runs (object : Json) (keys : List String) (defaultValue : Int) :
    RunsTo (getJsonIntAny? object keys defaultValue) (IntAnyFits object keys)
      (getJsonIntAny object keys defaultValue) :=
  readAny?_runs keys fun key => getJsonInt?_runs object key defaultValue

theorem getJsonInt64Any?_runs (object : Json) (keys : List String) (defaultValue : Int) :
    RunsTo (getJsonInt64Any? object keys defaultValue) (Int64AnyFits object keys)
      (getJsonInt64Any object keys defaultValue) :=
  readAny?_runs keys fun key => getJsonInt64?_runs object key defaultValue

@[simp]
theorem getJsonBoolAny?_eq (object : Json) (keys : List String) (defaultValue : Bool) :
    getJsonBoolAny? object keys defaultValue =
      some (getJsonBoolAny object keys defaultValue) := by
  have reads : forall key, RunsTo (getJsonBool? object key defaultValue) True
      (getJsonBool object key defaultValue) := by
    intro key
    rw [getJsonBool?_eq]
    exact RunsTo.of_some _
  have runs := @readAny?_runs Bool getJsonBool? getJsonBool (fun _ _ => True) object defaultValue
    keys reads
  exact runs.run_eq fun _ _ => trivial

end Pc
end Imx6Gateway
