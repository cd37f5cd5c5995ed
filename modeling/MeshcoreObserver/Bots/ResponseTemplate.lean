import MeshcoreObserver.Text

/-!
# Response templates

`renderTemplate` fills the `{placeholder}` tokens of a template, and
`renderResponse` degrades in stages until the message fits the byte budget. The
values of a template are the own properties of an object, as the texts `String`
makes of them, in front of the properties every object inherits: `key in values`
holds of both.
-/

namespace MeshcoreObserver

abbrev TemplateValues := List (Text × Text)

def prototypeMethods : List Text :=
  ["__defineGetter__".toList, "__defineSetter__".toList, "hasOwnProperty".toList,
    "__lookupGetter__".toList, "__lookupSetter__".toList, "isPrototypeOf".toList,
    "propertyIsEnumerable".toList, "toString".toList, "valueOf".toList, "toLocaleString".toList]

/-- `String(object[key])` for an inherited key. -/
def inheritedValue (key : Text) : Option Text :=
  if key = "constructor".toList then some "function Object() { [native code] }".toList
  else if key = "__proto__".toList then some "[object Object]".toList
  else if prototypeMethods.contains key then
    some ("function ".toList ++ key ++ "() { [native code] }".toList)
  else none

/-- `key in values`, and then `String(values[key])`. -/
def lookupValue (values : TemplateValues) (key : Text) : Option Text :=
  match values.find? fun value => value.1 = key with
  | some value => some value.2
  | none => inheritedValue key

def isWordChar (char : Char) : Bool :=
  char.isAlphanum ∨ char = '_'

/-- The replacement of `/\x7b(\w+)\x7d/g`. The first argument is what has been read of a token
behind its opening brace. -/
def fillTemplate (values : TemplateValues) : Option Text → Text → Text
  | none, [] => []
  | some key, [] => '{' :: key
  | none, char :: template =>
      if char = '{' then fillTemplate values (some []) template
      else char :: fillTemplate values none template
  | some key, char :: template =>
      if char = '}' ∧ key ≠ [] then
        (lookupValue values key).getD ('{' :: key ++ ['}']) ++ fillTemplate values none template
      else if isWordChar char then fillTemplate values (some (key ++ [char])) template
      else if char = '{' then '{' :: key ++ fillTemplate values (some []) template
      else '{' :: key ++ char :: fillTemplate values none template

def renderTemplate (template : Text) (values : TemplateValues) : Text :=
  fillTemplate values none template

/-- The loop of `truncateToUtf8Bytes`, with the bytes used so far. -/
def truncateFrom (maxBytes : Nat) : Nat → Text → Text
  | _, [] => []
  | bytes, char :: text =>
      if maxBytes < bytes + char.utf8Size then []
      else char :: truncateFrom maxBytes (bytes + char.utf8Size) text

def truncateToUtf8Bytes (text : Text) (maxBytes : Nat) : Text := truncateFrom maxBytes 0 text

def defaultMaxMessageBytes : Nat := 120

structure RenderedResponse where
  message : Text
  degraded : Bool
  deriving DecidableEq, Repr

/-- The short form of a response: as it is, or cut off. -/
def degrade (text : Text) (maxBytes : Nat) : RenderedResponse :=
  if text.utf8.length ≤ maxBytes then ⟨text, true⟩
  else ⟨truncateToUtf8Bytes text maxBytes, true⟩

def withoutPath (values : TemplateValues) : TemplateValues :=
  values.map fun value => if value.1 = "path".toList then (value.1, []) else value

/-- `renderResponse(...)`. An absent or empty overflow template counts as none, and so does the
path. -/
def renderResponse (template : Text) (overflowTemplate : Option Text) (values : TemplateValues)
    (maxBytes : Nat) : RenderedResponse :=
  let full := renderTemplate template values
  if full.utf8.length ≤ maxBytes then ⟨full, false⟩
  else if overflowTemplate.getD [] ≠ [] then
    degrade (renderTemplate (overflowTemplate.getD []) values) maxBytes
  else if ((values.find? fun value => value.1 = "path".toList).map Prod.snd).getD [] ≠ [] then
    degrade (renderTemplate template (withoutPath values)) maxBytes
  else ⟨truncateToUtf8Bytes full maxBytes, true⟩

end MeshcoreObserver
