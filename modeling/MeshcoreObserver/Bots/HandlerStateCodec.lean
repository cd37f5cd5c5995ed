import MeshcoreObserver.Bots.CommandHandlers
import MeshcoreObserver.Json.JsonText
import MeshcoreObserver.Utf8
import Mathlib.Algebra.Group.Nat.Defs
import Mathlib.Algebra.Ring.Int.Defs

/-!
# The codec of handler states

`restore` as it is called with what the `handler_state_json` column says: the
bound on its bytes, `JSON.parse`, and the schema of the handler. The model of
`HandlerState.restore` agrees with it on every state that is serialised.

Validation reads the decimal a number says. A 64-bit integer is rounded to an
integer, so this decides the same.

What the validator reports is left out of the text of the last error.
-/

namespace MeshcoreObserver

open JsonText

def isString : Json → Bool
  | .string _ => true
  | _ => false

def isInteger : Json → Bool
  | .number mantissa exponent =>
      0 ≤ exponent || mantissa % ((10 ^ (-exponent).toNat : Nat) : Int) = 0
  | _ => false

/-- `{ type: 'integer', minimum: 0 }`. -/
def isCount : Json → Bool
  | .number mantissa exponent => isInteger (.number mantissa exponent) && 0 ≤ mantissa
  | _ => false

/-- `{ const: value }`. -/
def isNumber (value : Int) : Json → Bool
  | .number mantissa exponent =>
      mantissa * ((10 ^ exponent.toNat : Nat) : Int) =
        value * ((10 ^ (-exponent).toNat : Nat) : Int)
  | _ => false

def orNull (valid : Json → Bool) (value : Json) : Bool := value = .null || valid value

/-- An object with these properties, all of them required, and no others. -/
def closedObject (properties : List (Text × (Json → Bool))) : Json → Bool
  | .object members =>
      (members.names.all fun name => properties.any fun property => property.1 = name) &&
        properties.all fun property => (members.get? property.1).any property.2
  | _ => false

def queryProperty : Text × (Json → Bool) := ("query".toList, isString)

def lookupOutcomes : List Text :=
  ["found".toList, "not_found".toList, "ambiguous".toList, "invalid".toList]

/-- The properties of a lookup that was resolved before it was queued. -/
def lookupSnapshotProperties : List (Text × (Json → Bool)) :=
  [queryProperty,
    ("outcome".toList, fun value => lookupOutcomes.any fun outcome => value = .string outcome),
    ("name".toList, orNull isString),
    ("matchCount".toList, orNull isCount),
    ("lastHeardAt".toList, orNull isInteger),
    ("nodePrefix".toList, orNull isString),
    ("repeaterCount".toList, orNull isCount)]

def dataSchema : CommandKind → Json → Bool
  | .exact => closedObject []
  | .lookup => fun data =>
      closedObject [queryProperty] data || closedObject lookupSnapshotProperties data
  | .stats => closedObject [queryProperty]

/-- `validate(state)`. -/
def validState (kind : CommandKind) : Json → Bool :=
  closedObject
    [("kind".toList, fun value => value = .string kind.name), ("version".toList, isNumber 1),
      ("data".toList, dataSchema kind)]

def property (name : Text) : Json → Option Json
  | .object members => members.get? name
  | _ => none

/-- `restore(serialized)`. -/
def restoreSerialized (kind : CommandKind) : Option Text → Except Text Json
  | none => .error "queued command handler state is not a string".toList
  | some serialized =>
      if maxHandlerStateBytes < serialized.utf8.length then
        .error "queued command handler state exceeds the maximum serialized size".toList
      else
        match parse serialized with
        | none => .error "queued command handler state is not valid JSON".toList
        | some state =>
            if validState kind state then .ok ((property "data".toList state).getD .null)
            else .error "queued command handler state is invalid".toList

/-- The query of the data that are restored. -/
def queryOf (data : Json) : Option Text :=
  match property "query".toList data with
  | some (.string query) => some query
  | _ => none

/-- `{ kind, version: 1, data }`. -/
def stateJson (kind : CommandKind) (data : Json) : Json :=
  .object (.cons "kind".toList (.string kind.name)
    (.cons "version".toList (.number 1 0) (.cons "data".toList data .nil)))

theorem property_data (kind : CommandKind) (data : Json) :
    property "data".toList (stateJson kind data) = some data := rfl

theorem CommandKind.name_inj {kind other : CommandKind} :
    other.name = kind.name ↔ other = kind := by
  cases kind <;> cases other <;> decide

theorem validState_stateJson (kind other : CommandKind) (data : Json) :
    validState kind (stateJson other data) = (decide (other = kind) && dataSchema kind data) := by
  have kinds : decide (Json.string other.name = .string kind.name) = decide (other = kind) := by
    rw [decide_eq_decide, Json.string.injEq, CommandKind.name_inj]
  have checked : validState kind (stateJson other data) =
      (decide (Json.string other.name = .string kind.name) &&
        (isNumber 1 (.number 1 0) && (dataSchema kind data && true))) := rfl
  have version : isNumber 1 (.number 1 0) = true := by decide
  rw [checked, kinds, version, Bool.true_and, Bool.and_true]

/-- A state that is written is restored when it is small enough and its data satisfy the schema of
the handler. -/
theorem restoreSerialized_stateJson (kind other : CommandKind) (data : Json) :
    restoreSerialized kind (some (stateJson other data).text) =
      if maxHandlerStateBytes < (Text.utf8 (stateJson other data).text).length then
        .error "queued command handler state exceeds the maximum serialized size".toList
      else if other = kind ∧ dataSchema kind data then .ok data
      else .error "queued command handler state is invalid".toList := by
  rw [restoreSerialized, parse_text]
  simp only [validState_stateJson, property_data, Option.getD_some, Bool.and_eq_true,
    decide_eq_true_eq]

namespace HandlerState

def data (state : HandlerState) : Json :=
  match state.query with
  | none => .object .nil
  | some query => .object (.cons "query".toList (.string query) .nil)

theorem hex_control {value : Nat} (control : value < 0x20) :
    Text.hex [UInt8.ofNat value] = [hexDigit (value / 16), hexDigit (value % 16)] := by
  have byte : (UInt8.ofNat value).toNat = value := Utf8.toNat_ofNat (by omega)
  simp only [Text.hex, List.flatMap_cons, List.flatMap_nil, List.append_nil, byte]
  rfl

theorem jsonChar_eq_escape (char : Char) : jsonChar char = escape char := by
  rw [jsonChar, escape]
  repeat' split
  all_goals first
    | rfl
    | rename_i control
      rw [hex_control control]
      rfl

theorem jsonText_eq_quote (text : Text) : jsonText text = quote text := by
  have same : jsonChar = escape := funext jsonChar_eq_escape
  rw [jsonText, quote, same]

theorem text_stateJson (state : HandlerState) :
    (stateJson state.kind state.data).text = state.json := by
  have opens : "\x7b\"kind\":".toList = '\x7b' :: (quote "kind".toList ++ [':']) := by
    decide +kernel
  have follows : ",\"version\":1,\"data\":\x7b".toList =
      ',' :: (quote "version".toList ++ ':' :: (numberText 1 0 ++
        ',' :: (quote "data".toList ++ [':', '\x7b']))) := by decide +kernel
  have names : "\"query\":".toList = quote "query".toList ++ [':'] := by decide +kernel
  have closes : "\x7d\x7d".toList = ['\x7d', '\x7d'] := by decide +kernel
  delta HandlerState.json
  simp only [opens, follows, closes, names, stateJson, data, Json.text, Members.text,
    jsonText_eq_quote]
  cases state.query with
  | none =>
      simp only [Json.text, Members.text, List.cons_append, List.append_assoc, List.nil_append]
  | some query =>
      simp only [Json.text, Members.text, List.cons_append, List.append_assoc, List.nil_append]

theorem dataSchema_data (kind : CommandKind) (state : HandlerState) :
    dataSchema kind state.data = decide (state.query = none ↔ kind = .exact) := by
  rw [data]
  cases state.query with
  | none => cases kind <;> rfl
  | some query => cases kind <;> rfl

/-- The model of `restore` on states and the one on texts agree. -/
theorem restoreSerialized_json (kind : CommandKind) (state : HandlerState) :
    restoreSerialized kind (some state.json) =
      (HandlerState.restore kind state).map HandlerState.data := by
  rw [← text_stateJson, restoreSerialized_stateJson, text_stateJson, HandlerState.restore]
  split
  · rfl
  · simp only [dataSchema_data, decide_eq_true_eq]
    split
    · rfl
    · rfl

end HandlerState

end MeshcoreObserver
