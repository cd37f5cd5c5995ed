import MeshcoreObserver.CaseMapping
import MeshcoreObserver.JsNumber

/-!
# Environment variables

The readers of `src/config/index.js`. A variable that is empty counts as one that
is not set. An integer is read as the double that is nearest to its digits, which
is no number of the configuration when it is infinite.

What a reader returns depends on its own variable, and the error it throws names
that variable.
-/

namespace MeshcoreObserver

open JsonText

/-- `process.env`. -/
abbrev Environment := Text → Option Text

namespace Environment

variable (mapping : CaseMapping) (env : Environment)

def readString (key : Text) : Option Text :=
  match env key with
  | none => none
  | some value => if value = [] then none else some value

def readBoolean (key : Text) (fallback : Bool) : Except Text Bool :=
  match env.readString key with
  | none => .ok fallback
  | some value =>
      if mapping.toLowerCase value.trim = "true".toList then .ok true
      else if mapping.toLowerCase value.trim = "false".toList then .ok false
      else
        .error (key ++ " must be \"true\" or \"false\", got \"".toList ++ value ++ "\"".toList)

/-- What `INTEGER_PATTERN` matches, as the integer its digits say. -/
def integerOf (text : Text) : Option Int :=
  let digits := (readMinus text).2
  if digits ≠ [] ∧ digits.all Char.isDigit then
    some (signed (readMinus text).1 (natural digits))
  else none

/-- `readInteger` without its fallback: nothing when the variable is not set. -/
def readIntegerValue (key : Text) : Except Text (Option JsNumber) :=
  match env.readString key with
  | none => .ok none
  | some value =>
      match integerOf value.trim with
      | none => .error (key ++ " must be an integer, got \"".toList ++ value ++ "\"".toList)
      | some integer => .ok (some (JsNumber.round integer))

def readInteger (key : Text) (fallback : Int) : Except Text JsNumber :=
  (env.readIntegerValue key).map fun value => value.getD (.finite fallback)

def readList (key : Text) : List Text :=
  match env.readString key with
  | none => []
  | some value => ((value.splitOn ',').map Text.trim).filter fun item => item ≠ []

variable {mapping env}

theorem readString_ne_nil {key value : Text} (read : env.readString key = some value) :
    value ≠ [] := by
  simp only [readString] at read
  split at read
  · cases read
  · split at read
    · cases read
    · rename_i filled
      cases read
      exact filled

section Agree

variable {other : Environment} {key : Text}

theorem readBoolean_congr (same : env.readString key = other.readString key) (fallback : Bool) :
    env.readBoolean mapping key fallback = other.readBoolean mapping key fallback := by
  simp only [readBoolean, same]

theorem readIntegerValue_congr (same : env.readString key = other.readString key) :
    env.readIntegerValue key = other.readIntegerValue key := by
  simp only [readIntegerValue, same]

theorem readInteger_congr (same : env.readString key = other.readString key) (fallback : Int) :
    env.readInteger key fallback = other.readInteger key fallback := by
  simp only [readInteger, readIntegerValue_congr same]

theorem readList_congr (same : env.readString key = other.readString key) :
    env.readList key = other.readList key := by
  simp only [readList, same]

end Agree

end Environment

end MeshcoreObserver
