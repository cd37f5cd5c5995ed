import MeshcoreObserver.Text
import MeshcoreObserver.Json.JsonText

/-!
# The structured logger

`createLogger` writes one JSON line for each call at or above its level. The
metadata of a line goes through `redact`, which puts a placeholder in the place
of every value under a key that looks sensitive, down to a fixed depth.

Metadata is plain data: objects, arrays and scalars. The entries of an object
stand in the order of `Object.entries`, under pairwise different keys. How a
number is written is left to the caller. An own entry `__proto__` of an object
is no entry of its redaction, since the assignment sets the prototype instead.
-/

namespace MeshcoreObserver

universe u

inductive LogScalar (Number : Type u) where
  | null
  | undefined
  | boolean (value : Bool)
  | number (value : Number)
  | bigint (value : Int)
  | string (value : Text)
  deriving DecidableEq, Repr

mutual

inductive LogValue (Number : Type u) where
  | scalar (value : LogScalar Number)
  | array (items : LogItems Number)
  | object (entries : LogEntries Number)
  deriving DecidableEq, Repr

inductive LogItems (Number : Type u) where
  | nil
  | cons (item : LogValue Number) (items : LogItems Number)
  deriving DecidableEq, Repr

inductive LogEntries (Number : Type u) where
  | nil
  | cons (key : Text) (value : LogValue Number) (entries : LogEntries Number)
  deriving DecidableEq, Repr

end

def LogEntries.keys {Number : Type u} : LogEntries Number → List Text
  | .nil => []
  | .cons key _ entries => key :: entries.keys

/-- A piece of a pattern: a letter in either case, or `.?`. -/
inductive KeyPiece where
  | letter (lower : Char)
  | optionalAny
  deriving DecidableEq, Repr

/-- What `.` matches: one code unit that ends no line. -/
def matchesDot (char : Char) : Bool :=
  char.toNat < 0x10000 ∧ char.toNat ≠ 0xA ∧ char.toNat ≠ 0xD ∧ char.toNat ≠ 0x2028 ∧
    char.toNat ≠ 0x2029

def matchesHere : List KeyPiece → Text → Bool
  | [], _ => true
  | .letter _ :: _, [] => false
  | .letter lower :: pieces, char :: text =>
      (char = lower ∨ char = lower.toUpper) && matchesHere pieces text
  | .optionalAny :: pieces, [] => matchesHere pieces []
  | .optionalAny :: pieces, char :: text =>
      (matchesDot char && matchesHere pieces text) || matchesHere pieces (char :: text)

def word (letters : String) : List KeyPiece := letters.toList.map .letter

/-- The alternatives of `SENSITIVE_KEY_PATTERN`. -/
def sensitiveKeyPattern : List (List KeyPiece) :=
  [word "jwt", word "token", word "password", word "secret",
    word "private" ++ .optionalAny :: word "key", word "bearer", word "authorization",
    word "api" ++ .optionalAny :: word "key", word "channel" ++ .optionalAny :: word "key",
    word "session"]

/-- `SENSITIVE_KEY_PATTERN.test(key)`. -/
def isSensitive : Text → Bool
  | [] => sensitiveKeyPattern.any fun pieces => matchesHere pieces []
  | char :: key =>
      (sensitiveKeyPattern.any fun pieces => matchesHere pieces (char :: key)) || isSensitive key

def redacted : Text := ['[', 'R', 'E', 'D', 'A', 'C', 'T', 'E', 'D', ']']

def maxRedactDepth : Nat := 6

variable {Number : Type u}

mutual

def LogValue.redact (depth : Nat) : LogValue Number → LogValue Number
  | .scalar value => .scalar value
  | .array items =>
      if maxRedactDepth ≤ depth then .array items else .array (items.redact (depth + 1))
  | .object entries =>
      if maxRedactDepth ≤ depth then .object entries else .object (entries.redact (depth + 1))

def LogItems.redact (depth : Nat) : LogItems Number → LogItems Number
  | .nil => .nil
  | .cons item items => .cons (item.redact depth) (items.redact depth)

def LogEntries.redact (depth : Nat) : LogEntries Number → LogEntries Number
  | .nil => .nil
  | .cons key value entries =>
      if key = protoKey then entries.redact depth
      else
        .cons key (if isSensitive key then .scalar (.string redacted) else value.redact depth)
          (entries.redact depth)

end

/-- What `JSON.stringify` writes for a scalar, if anything. A `bigint` never gets that far. -/
def LogScalar.text (numberText : Number → Text) : LogScalar Number → Option Text
  | .null => some ['n', 'u', 'l', 'l']
  | .undefined => none
  | .boolean true => some ['t', 'r', 'u', 'e']
  | .boolean false => some ['f', 'a', 'l', 's', 'e']
  | .number value => some (numberText value)
  | .bigint value => some (Text.ofInt value)
  | .string value => some (JsonText.quote value)

/-- A member of an object, left out when its value has no text. -/
def addMember (key : Text) (value : Option Text) (members : List Text) : List Text :=
  match value with
  | none => members
  | some text => (JsonText.quote key ++ ':' :: text) :: members

mutual

def LogValue.text (numberText : Number → Text) : LogValue Number → Option Text
  | .scalar value => value.text numberText
  | .array items => some ('[' :: Text.join [','] (items.texts numberText) ++ [']'])
  | .object entries => some ('\x7b' :: Text.join [','] (entries.texts numberText) ++ ['\x7d'])

def LogItems.texts (numberText : Number → Text) : LogItems Number → List Text
  | .nil => []
  | .cons item items =>
      (item.text numberText).getD ['n', 'u', 'l', 'l'] :: items.texts numberText

def LogEntries.texts (numberText : Number → Text) : LogEntries Number → List Text
  | .nil => []
  | .cons key value entries =>
      addMember key (value.text numberText) (entries.texts numberText)

end

mutual

/-- `JSON.stringify` meets a `bigint` and throws. -/
def LogValue.throws : LogValue Number → Bool
  | .scalar (.bigint _) => true
  | .scalar _ => false
  | .array items => items.throws
  | .object entries => entries.throws

def LogItems.throws : LogItems Number → Bool
  | .nil => false
  | .cons item items => item.throws || items.throws

def LogEntries.throws : LogEntries Number → Bool
  | .nil => false
  | .cons _ value entries => value.throws || entries.throws

end

inductive LogLevel where
  | debug
  | info
  | warn
  | error
  deriving DecidableEq, Repr

namespace LogLevel

def value : LogLevel → Nat
  | .debug => 10
  | .info => 20
  | .warn => 30
  | .error => 40

def name : LogLevel → Text
  | .debug => "debug".toList
  | .info => "info".toList
  | .warn => "warn".toList
  | .error => "error".toList

end LogLevel

/-- What one call of the logger does. -/
inductive LogOutput where
  | suppressed
  | throws
  | written (toStderr : Bool) (line : Text)
  deriving DecidableEq, Repr

/-- `meta && Object.keys(meta).length > 0`. -/
def LogValue.hasKeys : LogValue Number → Bool
  | .scalar (.string value) => value ≠ []
  | .scalar _ => false
  | .array items => match items with
      | .nil => false
      | .cons _ _ => true
  | .object entries => entries.keys ≠ []

/-- The entries of the line. -/
def logLine (timestamp : Text) (level : LogLevel) (source message : Text)
    (metadata : LogValue Number) : LogEntries Number :=
  .cons "timestamp".toList (.scalar (.string timestamp)) <|
    .cons "level".toList (.scalar (.string level.name)) <|
      .cons "source".toList (.scalar (.string source)) <|
        .cons "message".toList (.scalar (.string message)) <|
          if metadata.hasKeys then .cons "meta".toList (metadata.redact 0) .nil else .nil

/-- `write(logLevel, source, message, meta)` of the logger with the level `threshold`. -/
def writeLog (numberText : Number → Text) (threshold : LogLevel) (timestamp : Text)
    (level : LogLevel) (source message : Text) (metadata : LogValue Number) : LogOutput :=
  if level.value < threshold.value then .suppressed
  else
    let line := logLine timestamp level source message metadata
    if line.throws then .throws
    else
      .written (level = .error ∨ level = .warn)
        ('\x7b' :: Text.join [','] (line.texts numberText) ++ ['\x7d'])

example : (["jwt", "mqttPassword", "Private_Key", "sessionId", "apiKey"].map fun key =>
    isSensitive key.toList) = [true, true, true, true, true] := by decide +kernel

end MeshcoreObserver
