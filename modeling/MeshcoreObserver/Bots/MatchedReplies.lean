import MeshcoreObserver.Bots.HandlerStateCodec
import MeshcoreObserver.Bots.OwnReplies
import MeshcoreObserver.Metrics.StatsReporter
import MeshcoreObserver.Nodes.NodeLookup

/-!
# Replies to what is matched

A handler that matches a text and the one that renders the reply are the same,
but the reply is rendered later, from what the queue has kept: the trigger and
the text of the state. The state of a text of at most 600 units fits the bound of
the codec, the trigger finds the command again because the triggers of a bot are
distinct, and each template a handler chooses is one the configuration was
checked to have.
-/

namespace MeshcoreObserver

open Transition

namespace Text

theorem utf16Length_sublist {part whole : Text} (sublist : part.Sublist whole) :
    part.utf16Length ≤ whole.utf16Length := by
  induction sublist with
  | slnil => exact Nat.le_refl _
  | cons char sublist ih =>
      simp only [utf16Length]
      omega
  | cons_cons char sublist ih =>
      simp only [utf16Length]
      omega

theorem trim_sublist (text : Text) : text.trim.Sublist text := by
  have shortened : ((text.dropWhile isWhitespace).reverse.dropWhile isWhitespace).Sublist
      (text.dropWhile isWhitespace).reverse := List.dropWhile_sublist isWhitespace
  have trimmed := shortened.reverse
  rw [List.reverse_reverse] at trimmed
  exact trimmed.trans (List.dropWhile_sublist isWhitespace)

theorem length_utf8_append (first second : Text) :
    (Text.utf8 (first ++ second)).length = first.utf8.length + second.utf8.length := by
  simp only [utf8, List.flatMap_append, List.length_append]

end Text

theorem queryAfter_sublist {trigger text query : Text}
    (behind : queryAfter trigger text = some query) : query.Sublist text := by
  simp only [queryAfter] at behind
  split at behind
  · cases behind
    exact List.nil_sublist text
  · split at behind
    · cases behind
      exact (Text.trim_sublist _).trans (List.drop_sublist _ text)
    · cases behind

theorem length_utf8_hex {value : Nat} (control : value < 0x20) :
    (Text.utf8 (Text.hex [UInt8.ofNat value])).length = 2 := by
  have all : ∀ value < 0x20, (Text.utf8 (Text.hex [UInt8.ofNat value])).length = 2 := by decide
  exact all value control

theorem length_utf8_jsonChar (char : Char) : (Text.utf8 (jsonChar char)).length ≤ 6 := by
  have size := char.utf8Size_le_four
  simp only [jsonChar]
  split
  · simp only [Text.utf8, List.flatMap_cons, List.flatMap_nil, List.append_nil,
      List.length_append, String.length_utf8EncodeChar]
    have backslash : '\\'.utf8Size = 1 := rfl
    omega
  · repeat' split
    all_goals first
      | exact (by decide)
      | rename_i control
        rw [Text.length_utf8_append, length_utf8_hex control]
        exact (by decide)
      | simp only [Text.utf8, List.flatMap_cons, List.flatMap_nil, List.append_nil,
          String.length_utf8EncodeChar]
        omega

/-- The JSON of a text takes at most six bytes for each of its units, and its quotes. -/
theorem length_utf8_jsonText (text : Text) :
    (Text.utf8 (jsonText text)).length ≤ 6 * text.utf16Length + 2 := by
  have escaped : (Text.utf8 (text.flatMap jsonChar)).length ≤ 6 * text.utf16Length := by
    induction text with
    | nil => exact Nat.le_refl _
    | cons char text ih =>
        have one := length_utf8_jsonChar char
        simp only [List.flatMap_cons, Text.length_utf8_append, Text.utf16Length]
        split <;> omega
  have quote : (Text.utf8 ['"']).length = 1 := by decide
  have quoted : jsonText text = ['"'] ++ text.flatMap jsonChar ++ ['"'] := rfl
  rw [quoted, Text.length_utf8_append, Text.length_utf8_append, quote]
  omega

theorem HandlerState.length_utf8_json (state : HandlerState) :
    (Text.utf8 state.json).length =
      8 + (Text.utf8 (jsonText state.kind.name)).length + 21 +
        (match state.query with
        | none => 0
        | some query => 8 + (Text.utf8 (jsonText query)).length) + 2 := by
  have opens : (Text.utf8 "\x7b\"kind\":".toList).length = 8 := by decide +kernel
  have follows : (Text.utf8 ",\"version\":1,\"data\":\x7b".toList).length = 21 := by
    decide +kernel
  have name : (Text.utf8 "\"query\":".toList).length = 8 := by decide +kernel
  have closes : (Text.utf8 "\x7d\x7d".toList).length = 2 := by decide +kernel
  rcases state with ⟨kind, query⟩
  delta HandlerState.json
  cases query with
  | none =>
      simp only [Text.length_utf8_append, opens, follows, closes]
      rfl
  | some query => simp only [Text.length_utf8_append, opens, follows, name, closes]

/-- A state of a query of at most 600 units fits the bound of the codec. -/
theorem HandlerState.small {state : HandlerState}
    (short : ∀ query, state.query = some query → Text.utf16Length query ≤ 600) :
    (Text.utf8 state.json).length ≤ maxHandlerStateBytes := by
  have kind := length_utf8_jsonText state.kind.name
  have kindUnits : Text.utf16Length state.kind.name ≤ 6 := by
    cases state.kind <;> decide
  rw [HandlerState.length_utf8_json, maxHandlerStateBytes]
  cases query : state.query with
  | none =>
      simp only
      omega
  | some text =>
      have quoted := length_utf8_jsonText text
      have units := short text query
      simp only
      omega

theorem HandlerState.serialize_small {state : HandlerState}
    (short : ∀ query, state.query = some query → Text.utf16Length query ≤ 600) :
    state.serialize = .ok state :=
  if_neg (Nat.not_lt.mpr (HandlerState.small short))

/-- `match` of the handler of a kind. -/
def matchOfKind : CommandKind → List CommandConfig → Text → Except Text (Option CommandMatch)
  | .exact => matchExact
  | .lookup => matchLookup
  | .stats => matchStats

/-- What a handler returns for a text: one of the commands, of its kind, and a state with what
stands in the text behind the trigger. -/
structure CommandMatch.MatchedBy (found : CommandMatch) (kind : CommandKind)
    (commands : List CommandConfig) (text : Text) : Prop where
  configured : found.command ∈ commands
  commandKind : found.command.kindOrExact = kind
  stateKind : found.state.kind = kind
  argument : found.state.query = none ↔ kind = .exact
  behind : ∀ query, found.state.query = some query → query.Sublist text

section Matching

variable {commands : List CommandConfig} {text : Text}

theorem CommandMatch.MatchedBy.short {found : CommandMatch} {kind : CommandKind}
    (matched : found.MatchedBy kind commands text) (short : text.utf16Length ≤ 600) :
    ∀ query, found.state.query = some query → Text.utf16Length query ≤ 600 := by
  intro query stored
  exact Nat.le_trans (Text.utf16Length_sublist (matched.behind query stored)) short

theorem matchExact_small (commands : List CommandConfig) (text : Text) :
    ∃ result, matchExact commands text = .ok result ∧
      ∀ found, result = some found → found.MatchedBy .exact commands text := by
  have fits : HandlerState.serialize ⟨.exact, none⟩ = .ok ⟨.exact, none⟩ :=
    HandlerState.serialize_small nofun
  simp only [matchExact]
  split
  · refine ⟨none, rfl, ?_⟩
    rintro found ⟨⟩
  · rename_i command present
    refine ⟨some ⟨command, ⟨.exact, none⟩⟩, by rw [fits]; rfl, ?_⟩
    rintro found ⟨⟩
    have selected := List.find?_some present
    simp only [decide_eq_true_eq] at selected
    exact
      { configured := List.mem_of_find?_eq_some present
        commandKind := selected.1
        stateKind := rfl
        argument := by simp
        behind := nofun }

theorem matchQuery_small (kind : CommandKind) (argued : kind ≠ .exact)
    (commands : List CommandConfig) (short : text.utf16Length ≤ 600) :
    ∃ result, matchQuery kind text commands = .ok result ∧
      ∀ found, result = some found → found.MatchedBy kind commands text := by
  induction commands with
  | nil =>
      refine ⟨none, rfl, ?_⟩
      rintro found ⟨⟩
  | cons command commands ih =>
      rcases ih with ⟨result, rest, matchedBy⟩
      have skipped : ∃ result, matchQuery kind text commands = .ok result ∧
          ∀ found, result = some found → found.MatchedBy kind (command :: commands) text := by
        refine ⟨result, rest, ?_⟩
        intro found returned
        have matched := matchedBy found returned
        exact { matched with configured := List.mem_cons_of_mem _ matched.configured }
      simp only [matchQuery]
      split
      · rename_i sameKind
        split
        · rename_i query behind
          have sublist := queryAfter_sublist behind
          have fits : HandlerState.serialize ⟨kind, some query⟩ = .ok ⟨kind, some query⟩ := by
            apply HandlerState.serialize_small
            rintro _ ⟨⟩
            exact Nat.le_trans (Text.utf16Length_sublist sublist) short
          refine ⟨some ⟨command, ⟨kind, some query⟩⟩, by rw [fits]; rfl, ?_⟩
          rintro found ⟨⟩
          exact
            { configured := List.mem_cons_self
              commandKind := by rw [CommandConfig.kindOrExact, sameKind, Option.getD_some]
              stateKind := rfl
              argument := by simp [argued]
              behind := by
                rintro _ ⟨⟩
                exact sublist }
        · exact skipped
      · exact skipped

/-- No handler throws on a text of at most 600 units, and what it returns is a match. -/
theorem matchOfKind_small (kind : CommandKind) (commands : List CommandConfig)
    (short : text.utf16Length ≤ 600) :
    ∃ result, matchOfKind kind commands text = .ok result ∧
      ∀ found, result = some found → found.MatchedBy kind commands text := by
  cases kind with
  | exact => exact matchExact_small commands text
  | lookup => exact matchQuery_small .lookup (by decide) commands short
  | stats => exact matchQuery_small .stats (by decide) commands short

/-- The first match is the one of some handler. -/
theorem matchOfKind_of_matchCommand {found : CommandMatch}
    (matched : matchCommand commands text = .ok (some found)) :
    ∃ kind, matchOfKind kind commands text = .ok (some found) := by
  simp only [matchCommand] at matched
  split at matched
  · split at matched
    · exact ⟨.stats, matched⟩
    · exact ⟨.lookup, matched⟩
  · exact ⟨.exact, matched⟩

end Matching

/-- The fields a handler takes its templates from. -/
def templateFields : CommandKind → List ResponseField
  | .exact => [.response]
  | .lookup => lookupResponseFields
  | .stats => statsResponseFields

theorem missing_eq_nil {command : CommandConfig} {fields : List ResponseField} :
    command.missing fields = [] ↔ ∀ field ∈ fields, (command.field field).isSome := by
  simp [CommandConfig.missing, List.filter_eq_nil_iff, Option.isSome_iff_ne_none]

theorem isSome_response {command : CommandConfig} (present : ¬command.response.isNone = true) :
    ∀ field ∈ templateFields .exact, (command.field field).isSome := by
  intro field fieldMem
  simp only [templateFields, List.mem_singleton] at fieldMem
  subst field
  rw [CommandConfig.field, Option.isSome_iff_ne_none]
  simpa using present

/-- A checked command has every template of its kind. -/
theorem isSome_of_validateCommandFieldsForKind {command : CommandConfig} {botName filePath : Text}
    (valid : validateCommandFieldsForKind command botName filePath = .ok ()) :
    ∀ field ∈ templateFields command.kindOrExact, (command.field field).isSome := by
  simp only [validateCommandFieldsForKind] at valid
  cases kind : command.kind with
  | none =>
      simp only [kind, CommandConfig.kindOrExact, Option.getD_none] at valid ⊢
      split at valid
      · cases valid
      · rename_i present
        exact isSome_response present
  | some given =>
      cases given with
      | exact =>
          simp only [kind, CommandConfig.kindOrExact, Option.getD_some] at valid ⊢
          split at valid
          · cases valid
          · rename_i present
            exact isSome_response present
      | lookup =>
          simp only [kind, CommandConfig.kindOrExact, Option.getD_some] at valid ⊢
          split at valid
          · cases valid
          · rename_i complete
            exact missing_eq_nil.mp (not_not.mp complete)
      | stats =>
          simp only [kind, CommandConfig.kindOrExact, Option.getD_some] at valid ⊢
          split at valid
          · cases valid
          · rename_i complete
            exact missing_eq_nil.mp (not_not.mp complete)

/-- Whatever the outcome, the template is that of one of the fields of the kind. -/
theorem ChannelBot.template_execute (runtime : BotRuntime) (registry : NodeRegistry)
    (reporter : StatsReporter) (command : CommandConfig) (state : HandlerState) (now : Int) :
    ∃ field ∈ templateFields command.kindOrExact,
      (ChannelBot.execute runtime registry reporter command state now).template =
        command.field field := by
  simp only [ChannelBot.execute]
  cases command.kindOrExact with
  | exact => exact ⟨.response, List.mem_singleton_self _, rfl⟩
  | lookup =>
      simp only [executeLookup]
      split
      · exact ⟨.invalidResponse, by decide, rfl⟩
      · cases (registry.findByPrefix (state.query.getD [])).status with
        | found => exact ⟨.foundResponse, by decide, rfl⟩
        | notFound => exact ⟨.notFoundResponse, by decide, rfl⟩
        | ambiguous => exact ⟨.ambiguousResponse, by decide, rfl⟩
        | invalid => exact ⟨.invalidResponse, by decide, rfl⟩
  | stats =>
      simp only [executeStats]
      split
      · exact ⟨.usageResponse, by decide, rfl⟩
      · exact ⟨.response, by decide, rfl⟩

/-- The integers which the queries of `findByPrefix` and `countRepeaters` return. -/
def lookupIntegers (nodes : NodeTable) (query : Text) : List Int :=
  match normalizeQuery query with
  | none => []
  | some normalized =>
      match findNodesByPublicKeyPrefix nodes normalized repeaterType with
      | [] => [(countRepeaters nodes : Int)]
      | matching => matching.flatMap fun node => [node.2.firstHeardAt, node.2.lastHeardAt]

def ChannelBot.integersRead (runtime : BotRuntime) (tables : StoreTables)
    (command : CommandConfig) (state : HandlerState) (now : Int) : List Int :=
  match command.kindOrExact with
  | .exact => []
  | .lookup => lookupIntegers tables.nodes (state.query.getD [])
  | .stats =>
      tables.getEarliestSampleAt.toList ++
        match resolveStatsRange runtime.toLowerCase (state.query.getD []) now
            tables.getEarliestSampleAt with
        | none => []
        | some window => tables.summaryIntegers window

/-- `execute` over `node:sqlite`, which may throw. -/
def ChannelBot.executeReading (runtime : BotRuntime) (tables : StoreTables)
    (command : CommandConfig) (state : HandlerState) (now : Int) : Option ActionResult :=
  if (integersRead runtime tables command state now).all isSafeInteger then
    some (execute runtime (registryOf tables.nodes) tables.statsReporter command state now)
  else none

theorem StoreTables.SafeIntegers.lookup {tables : StoreTables} (safe : tables.SafeIntegers)
    (query : Text) : ∀ value ∈ lookupIntegers tables.nodes query, isSafeInteger value := by
  intro value valueMem
  simp only [lookupIntegers] at valueMem
  split at valueMem
  · cases valueMem
  · rename_i normalized _
    split at valueMem
    · rw [List.mem_singleton] at valueMem
      subst value
      apply isSafeInteger_of_le _ safe.nodes
      exact List.length_filter_le _ _
    · rcases List.mem_flatMap.mp valueMem with ⟨node, nodeMem, timeMem⟩
      have stored : node ∈ tables.nodes := by
        rw [findNodesByPublicKeyPrefix, List.mem_insertionSort] at nodeMem
        exact List.mem_of_mem_filter nodeMem
      rcases safe.heard node stored with ⟨first, last⟩
      simp only [List.mem_cons, List.not_mem_nil, or_false] at timeMem
      rcases timeMem with rfl | rfl
      · exact first
      · exact last

/-- Over a store with safe integers `execute` does not throw. -/
theorem ChannelBot.executeReading_eq {tables : StoreTables} (safe : tables.SafeIntegers)
    (runtime : BotRuntime) (command : CommandConfig) (state : HandlerState) (now : Int) :
    executeReading runtime tables command state now =
      some (execute runtime (registryOf tables.nodes) tables.statsReporter command state now) := by
  have allSafe : (integersRead runtime tables command state now).all isSafeInteger := by
    rw [List.all_eq_true]
    intro value valueMem
    rw [integersRead] at valueMem
    cases kind : command.kindOrExact with
    | exact => simp [kind] at valueMem
    | lookup =>
        simp only [kind] at valueMem
        exact safe.lookup _ value valueMem
    | stats =>
        simp only [kind] at valueMem
        rcases List.mem_append.mp valueMem with earliest | summary
        · exact safe.earliest value earliest
        · split at summary
          · cases summary
          · exact safe.summary _ value summary
  rw [executeReading, if_pos allSafe]

/-- A match of a bot is looked up again, restored and executed with whatever the store holds, and
every reply that was queued with it is rendered. Reading the store throws only where an integer
of it is not safe. -/
structure ChannelBot.Renders (bot : ChannelBot) (runtime : BotRuntime) (found : CommandMatch) :
    Prop where
  command : (bot.commands.find? fun command => command.trigger = found.command.trigger) =
    some found.command
  restored : restoreSerialized found.command.kindOrExact (some found.state.json) =
    .ok found.state.data
  query : queryOf found.state.data = found.state.query
  template : ∀ (tables : StoreTables) (now : Int), ∃ template, template ≠ [] ∧
    (ChannelBot.execute runtime (registryOf tables.nodes) tables.statsReporter found.command
      found.state now).template = some template
  executed : ∀ tables : StoreTables, tables.SafeIntegers → ∀ now : Int,
    ChannelBot.executeReading runtime tables found.command found.state now =
      some (ChannelBot.execute runtime (registryOf tables.nodes) tables.statsReporter
        found.command found.state now)
  reply : ∀ (tables : StoreTables) (now : Int) (item : QueuedReply),
    item.trigger = found.command.trigger → item.handlerState = found.state →
      ∃ rendered, bot.renderQueuedReply runtime (registryOf tables.nodes) tables.statsReporter item
        now = .ok rendered

theorem find?_trigger {commands : List CommandConfig} {command : CommandConfig}
    (distinct : (commands.map CommandConfig.trigger).Nodup) (commandMem : command ∈ commands) :
    (commands.find? fun other => other.trigger = command.trigger) = some command := by
  have found : (commands.find? fun other => other.trigger = command.trigger).isSome := by
    apply List.find?_isSome.mpr
    exact ⟨command, commandMem, by simp⟩
  rcases Option.isSome_iff_exists.mp found with ⟨other, present⟩
  have same := List.find?_some present
  simp only [decide_eq_true_eq] at same
  have otherMem := List.mem_of_find?_eq_some present
  rw [present, List.inj_on_of_nodup_map distinct otherMem commandMem same]

theorem mem_responseFields (field : ResponseField) : field ∈ responseFields := by
  cases field <;> decide

/-- The commands of a bot: distinct triggers, every template of their kinds, and none empty. -/
structure ChannelBot.Accepted (commands : List CommandConfig) : Prop where
  distinct : (commands.map CommandConfig.trigger).Nodup
  complete : ∀ command ∈ commands, ∀ field ∈ templateFields command.kindOrExact,
    (command.field field).isSome
  nonempty : ∀ command ∈ commands, ∀ field, command.field field ≠ some []

theorem ChannelBot.Accepted.of_loadBotsConfig {filePath : Text} {file : BotsFile}
    {bots : List BotConfig} (loaded : loadBotsConfig filePath file = .ok bots) {config : BotConfig}
    (configMem : config ∈ bots) : ChannelBot.Accepted config.commands := by
  rcases (accepted_of_loadBotsConfig loaded).2 config configMem with
    ⟨⟨_, _, _, _, fields⟩, distinct, valid⟩
  exact
    { distinct
      complete := fun command commandMem =>
        isSome_of_validateCommandFieldsForKind (valid command commandMem)
      nonempty := fun command commandMem field =>
        (fields command commandMem).2 field (mem_responseFields field) }

section Rendering

variable {bot : ChannelBot} {runtime : BotRuntime} {found : CommandMatch} {kind : CommandKind}
  {text : Text}

theorem CommandMatch.MatchedBy.restore (matched : found.MatchedBy kind bot.commands text)
    (short : text.utf16Length ≤ 600) :
    found.state.restore found.command.kindOrExact = .ok found.state := by
  have small := HandlerState.small (matched.short short)
  rw [matched.commandKind, HandlerState.restore, if_neg (Nat.not_lt.mpr small),
    if_pos ⟨matched.stateKind, matched.argument⟩]

theorem ChannelBot.Accepted.template (accepted : ChannelBot.Accepted bot.commands)
    (configured : found.command ∈ bot.commands) (runtime : BotRuntime) (registry : NodeRegistry)
    (reporter : StatsReporter) (state : HandlerState) (now : Int) :
    ∃ template, template ≠ [] ∧
      (ChannelBot.execute runtime registry reporter found.command state now).template =
        some template := by
  rcases ChannelBot.template_execute runtime registry reporter found.command state now with
    ⟨field, fieldMem, chosen⟩
  rcases Option.isSome_iff_exists.mp (accepted.complete _ configured field fieldMem) with
    ⟨template, present⟩
  refine ⟨template, ?_, chosen.trans present⟩
  rintro rfl
  exact accepted.nonempty _ configured field present

theorem HandlerState.queryOf_data (state : HandlerState) : queryOf state.data = state.query := by
  rcases state with ⟨kind, query⟩
  cases query with
  | none => rfl
  | some text => rfl

theorem ChannelBot.Accepted.renders (accepted : ChannelBot.Accepted bot.commands)
    (matched : found.MatchedBy kind bot.commands text) (short : text.utf16Length ≤ 600) :
    bot.Renders runtime found where
  command := find?_trigger accepted.distinct matched.configured
  restored := by
    rw [HandlerState.restoreSerialized_json, matched.restore short]
    rfl
  query := found.state.queryOf_data
  template := fun tables now =>
    accepted.template matched.configured runtime _ tables.statsReporter found.state now
  executed := fun _ safe now => ChannelBot.executeReading_eq safe runtime found.command _ now
  reply := by
    intro tables now item trigger state
    rcases accepted.template matched.configured runtime (registryOf tables.nodes)
      tables.statsReporter found.state now with ⟨template, _, executed⟩
    simp only [ChannelBot.renderQueuedReply, trigger,
      find?_trigger accepted.distinct matched.configured, state, matched.restore short, executed]
    exact ⟨_, rfl⟩

end Rendering

/-- What a bot enqueues was matched by one of its handlers. -/
theorem ChannelBot.matched_of_enqueued {bot : ChannelBot} {runtime : BotRuntime} {packet : Packet}
    {decrypted : DecryptedGroupText} {repeatCheckedAt deduplicatedAt : Int} {item : QueuedReply}
    (enqueued : (bot.handleDecrypted runtime packet decrypted repeatCheckedAt deduplicatedAt).2 =
      some item) :
    ∃ kind found, matchOfKind kind bot.commands decrypted.text = .ok (some found) ∧
      item.trigger = found.command.trigger ∧ item.handlerState = found.state := by
  have kept : (bot.checkForRepeat decrypted.text repeatCheckedAt).commands = bot.commands := rfl
  simp only [ChannelBot.handleDecrypted, kept] at enqueued
  split at enqueued
  · cases enqueued
  · split at enqueued
    · rename_i found matched
      rcases matchOfKind_of_matchCommand matched with ⟨kind, matched⟩
      refine ⟨kind, found, matched, ?_⟩
      simp only [ChannelBot.acceptMatch] at enqueued
      split at enqueued
      · cases enqueued
      · split at enqueued
        · cases enqueued
        · cases enqueued
          exact ⟨rfl, rfl⟩
    · cases enqueued

/-- No handler of the bot throws on a text of at most 600 units, and what one returns is rendered.
A reply that is enqueued for such a text is rendered at any later moment, so that sending it only
fails with the radio. -/
structure ChannelBot.RendersMatches (config : BotConfig) (runtime : BotRuntime)
    (bot : ChannelBot) : Prop where
  handlers : ∀ text : Text, text.utf16Length ≤ 600 → ∀ kind,
    ∃ result, matchOfKind kind bot.commands text = .ok result ∧
      ∀ found, result = some found → bot.Renders runtime found
  replies : ∀ push packet decrypted repeatCheckedAt deduplicatedAt item,
    bot.heardGroupText runtime push = some (packet, decrypted) →
    Text.utf16Length decrypted.text ≤ 600 →
    (bot.handleRawPacket runtime push repeatCheckedAt deduplicatedAt).2 = some item →
    ∀ later, (botSystem runtime config).Reachable later → ∀ (tables : StoreTables) (now : Int),
      ∃ rendered, later.renderQueuedReply runtime (registryOf tables.nodes) tables.statsReporter
        item now = .ok rendered

/-- Every bot of an accepted configuration renders what it matches, in every state of every
run. -/
theorem renders_what_it_matches {filePath : Text} {file : BotsFile} {bots : List BotConfig}
    (loaded : loadBotsConfig filePath file = .ok bots) (runtime : BotRuntime) :
    ∀ config ∈ bots, ∀ bot, (botSystem runtime config).Reachable bot →
      bot.RendersMatches config runtime := by
  intro config configMem bot reachable
  have accepted : ∀ reached, (botSystem runtime config).Reachable reached →
      ChannelBot.Accepted reached.commands := by
    intro reached isReached
    have accepted := ChannelBot.Accepted.of_loadBotsConfig loaded configMem
    rw [(ChannelBot.configured_of_reachable isReached).commands, commandMap_eq accepted.distinct]
    exact accepted
  have rendered : ∀ reached, (botSystem runtime config).Reachable reached → ∀ text : Text,
      text.utf16Length ≤ 600 → ∀ kind, ∃ result,
        matchOfKind kind reached.commands text = .ok result ∧
          ∀ found, result = some found → reached.Renders runtime found := by
    intro reached isReached text short kind
    rcases matchOfKind_small kind reached.commands short with ⟨result, returned, matched⟩
    refine ⟨result, returned, ?_⟩
    intro found same
    exact (accepted reached isReached).renders (matched found same) short
  constructor
  · exact rendered bot reachable
  · intro push packet decrypted repeatCheckedAt deduplicatedAt item heard short enqueued later
      isReached tables now
    rw [ChannelBot.handleRawPacket_eq_heard, heard] at enqueued
    rcases ChannelBot.matched_of_enqueued enqueued with ⟨kind, found, matched, trigger, state⟩
    rw [(ChannelBot.configured_of_reachable reachable).commands,
      ← (ChannelBot.configured_of_reachable isReached).commands] at matched
    rcases rendered later isReached decrypted.text short kind with ⟨result, returned, renders⟩
    rw [matched, Except.ok.injEq] at returned
    exact (renders found returned.symm).reply tables now item trigger state

/-- A range that is the name of an inherited property. -/
theorem renders_what_it_matches_of_stats :
    ∃ result, matchOfKind .stats (ChannelBot.new statsBot 10000).commands
        "!stats constructor".toList = .ok result ∧
      ∀ found, result = some found → (ChannelBot.new statsBot 10000).Renders echoRuntime found := by
  have loaded : loadBotsConfig [] (.bots [statsBot] []) = .ok [statsBot] := by decide +kernel
  have reachable : (botSystem echoRuntime statsBot).Reachable (.new statsBot 10000) :=
    ⟨_, ⟨10000, rfl⟩, Relation.ReflTransGen.refl⟩
  have renders := renders_what_it_matches loaded echoRuntime statsBot (List.mem_singleton_self _)
    (.new statsBot 10000) reachable
  exact renders.handlers _ (by decide) .stats

end MeshcoreObserver
