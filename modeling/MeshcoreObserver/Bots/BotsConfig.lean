import MeshcoreObserver.Text
import Mathlib.Data.List.Nodup

/-!
# The bots configuration

`loadBotsConfig` on what `JSON.parse` returns. A value of `BotConfig` has the
properties and types that `botConfigSchema` admits and no others; what is left
of the schema are its minima. The texts of the schema errors come from the
validator and are parameters.
-/

namespace MeshcoreObserver

inductive CommandKind where
  | exact
  | lookup
  | stats
  deriving DecidableEq, Repr

inductive ResponseField where
  | response
  | overflowResponse
  | foundResponse
  | notFoundResponse
  | ambiguousResponse
  | invalidResponse
  | usageResponse
  deriving DecidableEq, Repr

def ResponseField.name : ResponseField → Text
  | .response => "response".toList
  | .overflowResponse => "overflowResponse".toList
  | .foundResponse => "foundResponse".toList
  | .notFoundResponse => "notFoundResponse".toList
  | .ambiguousResponse => "ambiguousResponse".toList
  | .invalidResponse => "invalidResponse".toList
  | .usageResponse => "usageResponse".toList

structure CommandConfig where
  trigger : Text
  kind : Option CommandKind
  response : Option Text
  overflowResponse : Option Text
  foundResponse : Option Text
  notFoundResponse : Option Text
  ambiguousResponse : Option Text
  invalidResponse : Option Text
  usageResponse : Option Text
  deriving DecidableEq, Repr

namespace CommandConfig

def field (command : CommandConfig) : ResponseField → Option Text
  | .response => command.response
  | .overflowResponse => command.overflowResponse
  | .foundResponse => command.foundResponse
  | .notFoundResponse => command.notFoundResponse
  | .ambiguousResponse => command.ambiguousResponse
  | .invalidResponse => command.invalidResponse
  | .usageResponse => command.usageResponse

def kindOrExact (command : CommandConfig) : CommandKind := command.kind.getD .exact

def bare (trigger : Text) (kind : Option CommandKind) : CommandConfig :=
  { trigger, kind, response := none, overflowResponse := none, foundResponse := none
    notFoundResponse := none, ambiguousResponse := none, invalidResponse := none
    usageResponse := none }

end CommandConfig

structure BotConfig where
  name : Text
  channel : Text
  enabled : Bool
  minHops : Nat
  maxMessageBytes : Option Nat
  commands : List CommandConfig
  deriving DecidableEq, Repr

def responseFields : List ResponseField :=
  [.response, .overflowResponse, .foundResponse, .notFoundResponse, .ambiguousResponse,
    .invalidResponse, .usageResponse]

def lookupResponseFields : List ResponseField :=
  [.foundResponse, .notFoundResponse, .ambiguousResponse, .invalidResponse]

def statsResponseFields : List ResponseField := [.response, .usageResponse]

/-- The minima of `botConfigSchema`. -/
def BotConfig.SchemaValid (bot : BotConfig) : Prop :=
  bot.name ≠ [] ∧ bot.channel ≠ [] ∧ (∀ bytes ∈ bot.maxMessageBytes, 1 ≤ bytes) ∧
    bot.commands ≠ [] ∧ ∀ command ∈ bot.commands, command.trigger ≠ [] ∧
      ∀ field ∈ responseFields, command.field field ≠ some []

instance BotConfig.decidableSchemaValid (bot : BotConfig) : Decidable bot.SchemaValid :=
  inferInstanceAs (Decidable (_ ∧ _ ∧ _ ∧ _ ∧ _))

def CommandConfig.present (command : CommandConfig) (fields : List ResponseField) :
    List ResponseField :=
  fields.filter fun field => (command.field field).isSome

def CommandConfig.missing (command : CommandConfig) (fields : List ResponseField) :
    List ResponseField :=
  fields.filter fun field => (command.field field).isNone

def joinFields (fields : List ResponseField) : Text :=
  Text.join ", ".toList (fields.map ResponseField.name)

def commandContext (command : CommandConfig) (botName filePath : Text) : Text :=
  "command \"".toList ++ command.trigger ++ "\" for bot \"".toList ++ botName ++
    "\" in \"".toList ++ filePath ++ "\"".toList

def validateCommandFieldsForKind (command : CommandConfig) (botName filePath : Text) :
    Except Text Unit :=
  let context := commandContext command botName filePath
  let extraLookupFields := command.present lookupResponseFields
  match command.kind with
  | some .lookup =>
      let missing := command.missing lookupResponseFields
      if missing ≠ [] then
        .error (context ++ " is kind \"lookup\" but is missing ".toList ++ joinFields missing)
      else if command.response.isSome ∨ command.overflowResponse.isSome then
        .error (context ++
          " is kind \"lookup\" and must not have response/overflowResponse".toList)
      else .ok ()
  | some .stats =>
      let missing := command.missing statsResponseFields
      if missing ≠ [] then
        .error (context ++ " is kind \"stats\" but is missing ".toList ++ joinFields missing)
      else if extraLookupFields ≠ [] then
        .error (context ++ " is kind \"stats\" and must not have ".toList ++
          joinFields extraLookupFields)
      else .ok ()
  | _ =>
      if command.response.isNone then
        .error (context ++ " is missing a response template".toList)
      else if extraLookupFields ≠ [] then
        .error (context ++ " is not kind \"lookup\" but has ".toList ++
          joinFields extraLookupFields)
      else
        let extraStatsFields :=
          (command.present statsResponseFields).filter fun field => field ≠ .response
        if extraStatsFields ≠ [] then
          .error (context ++ " is not kind \"stats\" but has ".toList ++
            joinFields extraStatsFields)
        else .ok ()

/-- The loop over the commands of a bot, with the triggers seen so far. -/
def validateCommands (botName filePath : Text) :
    List Text → List CommandConfig → Except Text Unit
  | _, [] => .ok ()
  | triggers, command :: commands =>
      if command.trigger ∈ triggers then
        .error ("Duplicate trigger \"".toList ++ command.trigger ++ "\" for bot \"".toList ++
          botName ++ "\" in \"".toList ++ filePath ++ "\"".toList)
      else
        match validateCommandFieldsForKind command botName filePath with
        | .error message => .error message
        | .ok () => validateCommands botName filePath (command.trigger :: triggers) commands

/-- The loop over the bots, with the names seen so far. -/
def validateBots (filePath : Text) : List Text → List BotConfig → Except Text Unit
  | _, [] => .ok ()
  | names, bot :: bots =>
      if bot.name ∈ names then
        .error ("Duplicate bot name \"".toList ++ bot.name ++ "\" in bots config file \"".toList ++
          filePath ++ "\"".toList)
      else
        match validateCommands bot.name filePath [] bot.commands with
        | .error message => .error message
        | .ok () => validateBots filePath (bot.name :: names) bots

/-- What is found at the path of the configuration. -/
inductive BotsFile where
  | missing
  | unreadable (message : Text)
  | notJson (message : Text)
  | illTyped (errors : Text)
  | bots (bots : List BotConfig) (errors : Text)
  deriving DecidableEq, Repr

def loadBotsConfig (filePath : Text) : BotsFile → Except Text (List BotConfig)
  | .missing => .ok []
  | .unreadable message =>
      .error ("Failed to read bots config file \"".toList ++ filePath ++ "\": ".toList ++ message)
  | .notJson message =>
      .error
        ("Bots config file \"".toList ++ filePath ++ "\" is not valid JSON: ".toList ++ message)
  | .illTyped errors =>
      .error ("Invalid bots config file \"".toList ++ filePath ++ "\": ".toList ++ errors)
  | .bots bots errors =>
      if ∀ bot ∈ bots, bot.SchemaValid then
        match validateBots filePath [] bots with
        | .error message => .error message
        | .ok () => .ok bots
      else .error ("Invalid bots config file \"".toList ++ filePath ++ "\": ".toList ++ errors)

variable {botName filePath : Text}

theorem nodup_apart_cons {Key Item : Type} {key : Item → Key} {seen : List Key} {first : Key}
    {items : List Item} :
    ((items.map key).Nodup ∧ ∀ item ∈ items, key item ∉ first :: seen) ↔
      (first ∉ items.map key ∧ (items.map key).Nodup) ∧ ∀ item ∈ items, key item ∉ seen := by
  simp only [List.mem_cons, not_or, List.mem_map, not_exists, not_and]
  constructor
  · rintro ⟨distinct, apart⟩
    refine ⟨⟨?_, distinct⟩, fun other otherMem => (apart other otherMem).2⟩
    intro other otherMem
    exact (apart other otherMem).1
  · rintro ⟨⟨apart, distinct⟩, unseen⟩
    exact ⟨distinct, fun other otherMem => ⟨apart other otherMem, unseen other otherMem⟩⟩

theorem validateCommands_eq_ok {triggers : List Text} {commands : List CommandConfig} :
    validateCommands botName filePath triggers commands = .ok () ↔
      (commands.map CommandConfig.trigger).Nodup ∧
        (∀ command ∈ commands, command.trigger ∉ triggers) ∧
          ∀ command ∈ commands, validateCommandFieldsForKind command botName filePath = .ok () := by
  induction commands generalizing triggers with
  | nil => simp [validateCommands]
  | cons command commands ih =>
      simp only [validateCommands, List.map_cons, List.nodup_cons, List.forall_mem_cons]
      split
      · rename_i duplicate
        simp [duplicate]
      · rename_i fresh
        split
        · rename_i message invalid
          simp [invalid]
        · rename_i valid
          rw [ih, ← and_assoc, nodup_apart_cons]
          simp only [fresh, valid, not_false_eq_true, true_and, and_assoc]

theorem validateBots_eq_ok {names : List Text} {bots : List BotConfig} :
    validateBots filePath names bots = .ok () ↔
      (bots.map BotConfig.name).Nodup ∧ (∀ bot ∈ bots, bot.name ∉ names) ∧
        ∀ bot ∈ bots, validateCommands bot.name filePath [] bot.commands = .ok () := by
  induction bots generalizing names with
  | nil => simp [validateBots]
  | cons bot bots ih =>
      simp only [validateBots, List.map_cons, List.nodup_cons, List.forall_mem_cons]
      split
      · rename_i duplicate
        simp [duplicate]
      · rename_i fresh
        split
        · rename_i message invalid
          simp [invalid]
        · rename_i valid
          rw [ih, ← and_assoc, nodup_apart_cons]
          simp only [fresh, valid, not_false_eq_true, true_and, and_assoc]

/-- An accepted configuration has distinct bot names, distinct triggers within each bot, and in
each command the templates of its kind. -/
theorem accepted_of_loadBotsConfig {file : BotsFile} {bots : List BotConfig}
    (loaded : loadBotsConfig filePath file = .ok bots) :
    (bots.map BotConfig.name).Nodup ∧ ∀ bot ∈ bots, bot.SchemaValid ∧
      (bot.commands.map CommandConfig.trigger).Nodup ∧ ∀ command ∈ bot.commands,
        validateCommandFieldsForKind command bot.name filePath = .ok () := by
  cases file with
  | missing =>
      cases loaded
      simp
  | unreadable message => cases loaded
  | notJson message => cases loaded
  | illTyped errors => cases loaded
  | bots parsed errors =>
      simp only [loadBotsConfig] at loaded
      split at loaded
      · rename_i schema
        split at loaded
        · cases loaded
        · rename_i valid
          cases loaded
          rcases validateBots_eq_ok.mp valid with ⟨names, _, commands⟩
          refine ⟨names, ?_⟩
          intro bot botMem
          rcases validateCommands_eq_ok.mp (commands bot botMem) with ⟨triggers, _, fields⟩
          exact ⟨schema bot botMem, triggers, fields⟩
      · cases loaded

end MeshcoreObserver
