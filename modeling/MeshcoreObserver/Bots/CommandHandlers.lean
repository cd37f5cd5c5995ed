import MeshcoreObserver.Bots.BotsConfig
import MeshcoreObserver.Bots.ResponseTemplate

/-!
# Command handlers

The three handlers of `createDefaultCommandHandlers`. `match` finds the command
a text is meant for and serialises the state the reply is queued with; `restore`
reads the state back, and `execute` chooses the template and its values when the
reply is sent. A state is kept as what its JSON says; its text only counts
towards the size bound.

The node registry and the statistics are read through their results.
-/

namespace MeshcoreObserver

def CommandKind.name : CommandKind → Text
  | .exact => "exact".toList
  | .lookup => "lookup".toList
  | .stats => "stats".toList

/-- A durable state of version 1. Only the data of an exact command has no query. -/
structure HandlerState where
  kind : CommandKind
  query : Option Text
  deriving DecidableEq, Repr

def jsonChar (char : Char) : Text :=
  if char = '"' ∨ char = '\\' then ['\\', char]
  else if char.toNat = 8 then "\\b".toList
  else if char.toNat = 9 then "\\t".toList
  else if char.toNat = 10 then "\\n".toList
  else if char.toNat = 12 then "\\f".toList
  else if char.toNat = 13 then "\\r".toList
  else if char.toNat < 0x20 then "\\u00".toList ++ Text.hex [UInt8.ofNat char.toNat]
  else [char]

def jsonText (text : Text) : Text := '"' :: text.flatMap jsonChar ++ ['"']

def HandlerState.json (state : HandlerState) : Text :=
  "\x7b\"kind\":".toList ++ jsonText state.kind.name ++ ",\"version\":1,\"data\":\x7b".toList ++
    (match state.query with
    | none => []
    | some query => "\"query\":".toList ++ jsonText query) ++ "\x7d\x7d".toList

def maxHandlerStateBytes : Nat := 4096

/-- `serialize(data)`. The data the handlers pass satisfy their schema. -/
def HandlerState.serialize (state : HandlerState) : Except Text HandlerState :=
  if maxHandlerStateBytes < state.json.utf8.length then
    .error "command handler state exceeds the maximum serialized size".toList
  else .ok state

def HandlerState.restore (kind : CommandKind) (state : HandlerState) : Except Text HandlerState :=
  if maxHandlerStateBytes < state.json.utf8.length then
    .error "queued command handler state exceeds the maximum serialized size".toList
  else if state.kind = kind ∧ (state.query = none ↔ kind = .exact) then .ok state
  else .error "queued command handler state is invalid".toList

structure CommandMatch where
  command : CommandConfig
  state : HandlerState
  deriving DecidableEq, Repr

def matchExact (commands : List CommandConfig) (text : Text) :
    Except Text (Option CommandMatch) :=
  match commands.find? fun candidate =>
      candidate.kindOrExact = .exact ∧ candidate.trigger = text with
  | none => .ok none
  | some command =>
      (HandlerState.serialize ⟨.exact, none⟩).map fun state => some ⟨command, state⟩

/-- The text behind a trigger: nothing, or what follows one blank. -/
def queryAfter (trigger text : Text) : Option Text :=
  if text = trigger then some []
  else if (trigger ++ [' ']).isPrefixOf text then some (Text.trim (text.drop (trigger.length + 1)))
  else none

/-- The loop of the handlers whose commands take an argument. -/
def matchQuery (kind : CommandKind) (text : Text) :
    List CommandConfig → Except Text (Option CommandMatch)
  | [] => .ok none
  | command :: commands =>
      if command.kind = some kind then
        match queryAfter command.trigger text with
        | some query =>
            (HandlerState.serialize ⟨kind, some query⟩).map fun state => some ⟨command, state⟩
        | none => matchQuery kind text commands
      else matchQuery kind text commands

def matchLookup (commands : List CommandConfig) (text : Text) :
    Except Text (Option CommandMatch) :=
  matchQuery .lookup text commands

def matchStats (commands : List CommandConfig) (text : Text) :
    Except Text (Option CommandMatch) :=
  matchQuery .stats text commands

/-- The first handler with a match, in the order of the handler map. -/
def matchCommand (commands : List CommandConfig) (text : Text) :
    Except Text (Option CommandMatch) :=
  match matchExact commands text with
  | .ok none =>
      match matchLookup commands text with
      | .ok none => matchStats commands text
      | found => found
  | found => found

structure ActionResult where
  template : Option Text
  overflowTemplate : Option Text
  values : TemplateValues
  deriving DecidableEq, Repr

def executeExact (command : CommandConfig) : ActionResult :=
  { template := command.response, overflowTemplate := command.overflowResponse, values := [] }

inductive LookupStatus where
  | found
  | notFound
  | ambiguous
  | invalid
  deriving DecidableEq, Repr

structure RegistryNode where
  name : Option Text
  lastHeardAt : Option Int
  publicKeyHex : Option Text
  deriving DecidableEq, Repr

structure LookupResult where
  status : LookupStatus
  node : Option RegistryNode
  matchCount : Option Nat
  query : Option Text
  deriving DecidableEq, Repr

structure NodeRegistry where
  findByPrefix : Text → LookupResult
  countRepeaters : Nat

def textOrNull (value : Option Text) : Text := value.getD "null".toList

def lookupResponseTemplate (command : CommandConfig) : LookupStatus → Option Text
  | .found => command.foundResponse
  | .notFound => command.notFoundResponse
  | .ambiguous => command.ambiguousResponse
  | .invalid => command.invalidResponse

def ageUnits : List (Text × Int) :=
  [("y".toList, 31536000000), ("mo".toList, 2592000000), ("d".toList, 86400000),
    ("h".toList, 3600000), ("m".toList, 60000)]

def formatRelativeAge (timestamp : Option Int) (now : Int) : Text :=
  match timestamp with
  | none => "unknown".toList
  | some timestamp =>
      let ageMs := max 0 (now - timestamp)
      match ageUnits.find? fun unit => unit.2 ≤ ageMs with
      | none => "just now".toList
      | some unit => Text.ofInt (ageMs / unit.2) ++ unit.1 ++ " ago".toList

def executeLookup (registry : NodeRegistry) (command : CommandConfig) (query : Text) (now : Int) :
    ActionResult :=
  if query = [] then
    { template := command.invalidResponse, overflowTemplate := none
      values := [("query".toList, query)] }
  else
    let result := registry.findByPrefix query
    let normalized := result.query.getD query
    let nodePrefix :=
      if result.status = .found ∧ Text.utf16Length query < 4 then
        ((result.node.bind RegistryNode.publicKeyHex).map (List.take 4)).getD normalized
      else normalized
    { template := lookupResponseTemplate command result.status
      overflowTemplate := none
      values :=
        [("query".toList, query),
          ("name".toList, textOrNull (result.node.bind RegistryNode.name)),
          ("matchCount".toList, textOrNull (result.matchCount.map fun count => Text.ofInt count)),
          ("lastHeard".toList, formatRelativeAge (result.node.bind RegistryNode.lastHeardAt) now),
          ("nodePrefix".toList, nodePrefix),
          ("repeaterCount".toList,
            if result.status = .notFound then Text.ofInt registry.countRepeaters
            else "undefined".toList)] }

/-- A resolved range. The start of a range named like an inherited property is not a number. -/
structure StatsWindow where
  start : Option Int
  finish : Int
  deriving DecidableEq, Repr

def rangeDurationsMs : List (Text × Int) :=
  [("1h".toList, 3600000), ("6h".toList, 21600000), ("1d".toList, 86400000),
    ("3d".toList, 259200000)]

def resolveStatsRange (toLowerCase : Text → Text) (token : Text) (now : Int)
    (earliestSampleAt : Option Int) : Option StatsWindow :=
  if token = [] then none
  else
    let normalized := toLowerCase token
    if normalized = "all".toList then some ⟨some (earliestSampleAt.getD now), now⟩
    else
      match rangeDurationsMs.find? fun range => range.1 = normalized with
      | some range => some ⟨some (now - range.2), now⟩
      | none => (inheritedValue normalized).map fun _ => ⟨none, now⟩

structure StatsReporter where
  earliestSampleAt : Option Int
  summarize : StatsWindow → TemplateValues

def executeStats (toLowerCase : Text → Text) (reporter : StatsReporter) (command : CommandConfig)
    (query : Text) (now : Int) : ActionResult :=
  match resolveStatsRange toLowerCase query now reporter.earliestSampleAt with
  | none =>
      { template := command.usageResponse, overflowTemplate := none
        values := [("query".toList, query)] }
  | some window =>
      { template := command.response, overflowTemplate := command.overflowResponse
        values := reporter.summarize window ++ [("range".toList, query)] }

end MeshcoreObserver
