import MeshcoreObserver.Bots.ReplyTtl
import MeshcoreObserver.Config.Secrets
import MeshcoreObserver.Radio.RadioManager

/-!
# What is accepted

Everything the services take for granted about a configuration that `loadConfig`
returns: the connection can be opened, the numbers are integers in their ranges,
each broker has what its method of authentication needs, and a password is the
value of the one variable that belongs to its broker.
-/

namespace MeshcoreObserver

namespace JsNumber

theorem within_eq_true {minimum : Int} {maximum : Option Int} {number : JsNumber} :
    number.within minimum maximum = true ↔
      ∃ value : Int, number = .finite value ∧ minimum ≤ value ∧
        ∀ bound ∈ maximum, value ≤ bound := by
  simp only [within, Option.any_eq_true, toInt?_eq_some, Bool.and_eq_true, decide_eq_true_eq]
  constructor
  · rintro ⟨value, integral, atLeast, atMost⟩
    refine ⟨value, integral, atLeast, ?_⟩
    rintro bound rfl
    simpa using atMost
  · rintro ⟨value, integral, atLeast, atMost⟩
    refine ⟨value, integral, atLeast, ?_⟩
    cases maximum with
    | none => rfl
    | some bound => simpa using atMost bound rfl

theorem less_finite (first second : Int) :
    less (.finite first) (.finite second) = decide (first < second) := by
  simp [less]

end JsNumber

theorem bind_eq_ok {Error Value Result : Type} {step : Except Error Value}
    {next : Value → Except Error Result} {result : Result} :
    step.bind next = .ok result ↔ ∃ value, step = .ok value ∧ next value = .ok result := by
  cases step with
  | error message => simp [Except.bind]
  | ok value => simp [Except.bind]

/-- The broker of an entry can authenticate. Its password is what the variable of its position, or
the one that the entry names, is set to. -/
structure BrokerConfig.Ready (env : Environment) (number : Nat) (entry : BrokerEntry)
    (broker : BrokerConfig) : Prop where
  schema : entry.SchemaValid
  complete : entry.Complete
  withoutPassword : entry.auth.method ≠ .password → broker = normalizeBroker entry
  password : entry.auth.method = .password → ∃ password, password ≠ [] ∧
    env.readString (passwordKey (normalizeBroker entry) number) = some password ∧
      broker = (normalizeBroker entry).withPassword password

section Brokers

variable {files : ConfigFiles} {env : Environment}

theorem readPassword_eq_ok {broker ready : BrokerConfig} {number : Nat} :
    readPassword env broker number = .ok ready ↔
      (broker.auth.method ≠ .password ∧ ready = broker) ∨
        (broker.auth.method = .password ∧ ∃ password,
          env.readString (passwordKey broker number) = some password ∧
            ready = broker.withPassword password) := by
  simp only [readPassword]
  split
  · rename_i method
    cases read : env.readString (passwordKey broker number) with
    | none => simp [method]
    | some password => simp [method, eq_comm]
  · rename_i method
    simp [method, eq_comm]

theorem readPasswords_eq_ok {brokers ready : List BrokerConfig} {number : Nat}
    (read : readPasswords env number brokers = .ok ready) :
    ready.length = brokers.length ∧ ∀ (index : Nat) (broker : BrokerConfig),
      brokers[index]? = some broker → ∃ own, ready[index]? = some own ∧
        readPassword env broker (number + index) = .ok own := by
  induction brokers generalizing number ready with
  | nil =>
      cases read
      simp
  | cons broker brokers ih =>
      rcases bind_eq_ok.mp read with ⟨first, firstRead, onward⟩
      rcases bind_eq_ok.mp onward with ⟨rest, restRead, combined⟩
      cases combined
      rcases ih restRead with ⟨length, each⟩
      refine ⟨by simp [length], ?_⟩
      intro index other atIndex
      cases index with
      | zero =>
          cases atIndex
          exact ⟨first, rfl, firstRead⟩
      | succ index =>
          rcases each index other atIndex with ⟨own, ownAt, ownRead⟩
          refine ⟨own, ownAt, ?_⟩
          rw [← ownRead]
          congr 1
          omega

theorem ready_of_readPassword {entry : BrokerEntry} {broker : BrokerConfig} {number : Nat}
    (schema : entry.SchemaValid) (complete : entry.Complete)
    (read : readPassword env (normalizeBroker entry) number = .ok broker) :
    broker.Ready env number entry := by
  rcases readPassword_eq_ok.mp read with ⟨method, same⟩ | ⟨method, password, found, same⟩
  · refine ⟨schema, complete, fun _ => same, ?_⟩
    intro needed
    exact absurd needed method
  · refine ⟨schema, complete, ?_, fun _ => ⟨password, ?_, found, same⟩⟩
    · intro unneeded
      exact absurd method unneeded
    · exact Environment.readString_ne_nil found

/-- The entries of the file are accepted, and each broker is ready, in the order of the file. -/
structure BrokersLoaded (env : Environment) (entries : List BrokerEntry)
    (brokers : List BrokerConfig) : Prop where
  ids : (entries.map BrokerEntry.id).Nodup
  length : brokers.length = entries.length
  ready : ∀ (index : Nat) (entry : BrokerEntry), entries[index]? = some entry →
    ∃ broker, brokers[index]? = some broker ∧ broker.Ready env (index + 1) entry

theorem loaded_of_readBrokers {brokers : List BrokerConfig}
    (read : readBrokers files env = .ok brokers) :
    BrokersLoaded env (files.brokers (brokersPath env)).entries brokers := by
  simp only [readBrokers] at read
  split at read
  · cases read
  · rcases bind_eq_ok.mp read with ⟨normalized, loaded, passwords⟩
    rcases entries_of_loadBrokersConfig loaded with ⟨rfl, ids, wellFormed⟩
    rcases readPasswords_eq_ok passwords with ⟨length, each⟩
    refine ⟨ids, by simpa using length, ?_⟩
    intro index entry atIndex
    rcases wellFormed entry (List.mem_of_getElem? atIndex) with ⟨schema, complete⟩
    rcases each index (normalizeBroker entry) (by simp [atIndex]) with ⟨broker, brokerAt, own⟩
    rw [Nat.add_comm] at own
    exact ⟨broker, brokerAt, ready_of_readPassword schema complete own⟩

end Brokers

def ReplyQueueConfig.ofIntegers (config : BotReplyQueueConfig) : ReplyQueueConfig :=
  { quietMs := .finite config.quietMs
    ttlMs := .finite config.ttlMs
    repeatCheckTimeoutMs := .finite config.repeatCheckTimeoutMs }

def ReconnectNumbers.ofNaturals (config : ReconnectConfig) : ReconnectNumbers :=
  { maxRetries := .finite config.maxRetries
    initialDelayMs := .finite config.initialDelayMs
    maxDelayMs := .finite config.maxDelayMs }

/-- The connection can be opened. -/
structure RadioConfig.Accepted (radio : RadioConfig) : Prop where
  type : radio.type = "serial".toList ∨ radio.type = "tcp".toList
  serial : radio.type = "serial".toList → radio.serialPorts ≠ []
  ports : ∀ port ∈ radio.serialPorts, port ≠ []
  tcp : radio.type = "tcp".toList → ∃ (host : Text) (port : Int), radio.tcpHost = some host ∧
    host ≠ [] ∧ radio.tcpPort = some (.finite port) ∧ 1 ≤ port ∧ port ≤ 65535
  reconnect : ∃ reconnect : ReconnectConfig, radio.reconnect = ReconnectNumbers.ofNaturals reconnect

structure MetricsUiConfig.Accepted (ui : MetricsUiConfig) : Prop where
  host : ui.host ≠ []
  dbPath : ui.dbPath ≠ []
  port : ∃ port : Int, ui.port = .finite port ∧ 1 ≤ port ∧ port ≤ 65535
  sampleIntervalMs : ∃ interval : Int, ui.sampleIntervalMs = .finite interval ∧ 1000 ≤ interval
  retentionDays : ∃ days : Nat, ui.retentionDays = .finite days
  maxChartBuckets : ∃ buckets : Int, ui.maxChartBuckets = .finite buckets ∧
    10 ≤ buckets ∧ buckets ≤ 1000

/-- What `loadConfig` promises its callers. -/
structure ApplicationConfig.Accepted (files : ConfigFiles) (env : Environment)
    (config : ApplicationConfig) : Prop where
  radio : config.radio.Accepted
  iata : ∃ iata, config.observer.iata = some iata ∧ iata ≠ []
  loggingLevel : config.loggingLevel ∈ ApplicationConfig.logLevels
  brokers : BrokersLoaded env (files.brokers (brokersPath env)).entries config.brokers
  names : (config.bots.map BotConfig.name).Nodup
  bots : ∀ bot ∈ config.bots, bot.SchemaValid ∧
    (bot.commands.map CommandConfig.trigger).Nodup ∧ ∀ command ∈ bot.commands,
      validateCommandFieldsForKind command bot.name (botsPath env) = .ok ()
  metricsUi : config.metricsUi.Accepted
  botReplyQueue : ∃ bounds : BotReplyQueueConfig,
    config.botReplyQueue = ReplyQueueConfig.ofIntegers bounds ∧ bounds.loadConfig = .ok bounds
  intervalHours : ∃ hours : Int, config.intervalHours = .finite hours ∧
    (hours = 0 ∨ 47 ≤ hours ∧ hours ≤ 168)

theorem within_zero {number : JsNumber} :
    number.within 0 none = true ↔ ∃ value : Nat, number = .finite value := by
  rw [JsNumber.within_eq_true]
  constructor
  · rintro ⟨value, rfl, natural, _⟩
    refine ⟨value.toNat, ?_⟩
    rw [← Int.cast_natCast, Int.toNat_of_nonneg natural]
  · rintro ⟨value, rfl⟩
    exact ⟨value, rfl, by omega, fun bound boundMem => nomatch boundMem⟩

theorem within_bounds {minimum maximum : Int} {number : JsNumber} :
    number.within minimum (some maximum) = true ↔
      ∃ value : Int, number = .finite value ∧ minimum ≤ value ∧ value ≤ maximum := by
  rw [JsNumber.within_eq_true]
  simp

theorem ApplicationConfig.refusal_eq_none {errors : Text} {config : ApplicationConfig} :
    config.refusal errors = none ↔
      ¬(config.radio.type = "serial".toList ∧ config.radio.serialPorts = []) ∧
        ¬(config.radio.type = "tcp".toList ∧ (config.radio.tcpHost = none ∨
          config.radio.tcpPort.all fun port => port = .finite 0)) ∧
        config.observer.iata ≠ none ∧
        config.botReplyQueue.ttlMs.less config.botReplyQueue.quietMs = false ∧
        config.schemaValid = true := by
  simp only [refusal]
  split
  · rename_i portless
    simp [portless]
  · rename_i ports
    split
    · rename_i unreachable
      simp [unreachable]
    · rename_i reachable
      split
      · rename_i nowhere
        simp [nowhere]
      · rename_i somewhere
        split
        · rename_i short
          simp [short]
        · rename_i long
          split
          · rename_i valid
            exact iff_of_true rfl
              ⟨ports, reachable, somewhere, Bool.eq_false_iff.mpr long, valid⟩
          · rename_i invalid
            simp [invalid]

theorem RadioConfig.accepted {radio : RadioConfig} (schema : radio.schemaValid = true)
    (ports : ¬(radio.type = "serial".toList ∧ radio.serialPorts = []))
    (reachable : ¬(radio.type = "tcp".toList ∧ (radio.tcpHost = none ∨
      radio.tcpPort.all fun port => port = .finite 0))) :
    radio.Accepted := by
  simp only [RadioConfig.schemaValid, ReconnectNumbers.schemaValid, Bool.and_eq_true,
    Bool.or_eq_true, decide_eq_true_eq, List.all_eq_true, Option.all_eq_true, within_zero,
    within_bounds] at schema
  rcases schema with ⟨⟨⟨⟨type, named⟩, hosts⟩, numbers⟩,
    ⟨⟨maxRetries, retries⟩, initialDelayMs, initial⟩, maxDelayMs, longest⟩
  refine ⟨type, fun serial none => ports ⟨serial, none⟩, named, ?_, ?_⟩
  · intro tcp
    cases host : radio.tcpHost with
    | none => exact absurd ⟨tcp, .inl host⟩ reachable
    | some name =>
        cases number : radio.tcpPort with
        | none => exact absurd ⟨tcp, .inr (by rw [number]; rfl)⟩ reachable
        | some found =>
            rcases numbers found number with ⟨port, rfl, least, most⟩
            exact ⟨name, port, rfl, hosts name host, rfl, least, most⟩
  · refine ⟨⟨maxRetries, initialDelayMs, maxDelayMs⟩, ?_⟩
    rw [ReconnectNumbers.ofNaturals, ← retries, ← initial, ← longest]

theorem MetricsUiConfig.accepted {ui : MetricsUiConfig} (schema : ui.schemaValid = true) :
    ui.Accepted := by
  simp only [MetricsUiConfig.schemaValid, Bool.and_eq_true, decide_eq_true_eq, within_zero,
    within_bounds] at schema
  rcases schema with ⟨⟨⟨⟨⟨host, port⟩, interval⟩, dbPath⟩, retention⟩, buckets⟩
  rcases JsNumber.within_eq_true.mp interval with ⟨milliseconds, integral, least, _⟩
  exact ⟨host, dbPath, port, ⟨milliseconds, integral, least⟩, retention, buckets⟩

theorem ReplyQueueConfig.accepted {queue : ReplyQueueConfig} (schema : queue.schemaValid = true)
    (long : queue.ttlMs.less queue.quietMs = false) :
    ∃ bounds : BotReplyQueueConfig, queue = ReplyQueueConfig.ofIntegers bounds ∧
      bounds.loadConfig = .ok bounds := by
  simp only [ReplyQueueConfig.schemaValid, Bool.and_eq_true, within_zero] at schema
  rcases schema with ⟨⟨⟨quietMs, quiet⟩, ⟨ttlMs, ttl⟩⟩, ⟨timeoutMs, timeout⟩⟩
  have order : (quietMs : Int) ≤ ttlMs := by
    rw [quiet, ttl] at long
    have less := JsNumber.less_finite ttlMs quietMs
    simp only [Int.cast_natCast] at less
    rw [less] at long
    simpa using long
  refine ⟨⟨quietMs, ttlMs, timeoutMs⟩, ?_, ?_⟩
  · cases queue
    simp_all [ReplyQueueConfig.ofIntegers]
  · exact BotReplyQueueConfig.loadConfig_eq_ok.mpr
      ⟨rfl, order, by simp only; omega, by simp only; omega, by simp only; omega⟩

theorem accepted_of_readBots {files : ConfigFiles} {env : Environment} {bots : List BotConfig}
    (read : readBots files env = .ok bots) :
    (bots.map BotConfig.name).Nodup ∧ ∀ bot ∈ bots, bot.SchemaValid ∧
      (bot.commands.map CommandConfig.trigger).Nodup ∧ ∀ command ∈ bot.commands,
        validateCommandFieldsForKind command bot.name (botsPath env) = .ok () := by
  simp only [readBots] at read
  split at read
  · cases read
  · exact accepted_of_loadBotsConfig read

theorem accepted_of_loadConfig {mapping : CaseMapping} {files : ConfigFiles}
    {errors : ApplicationConfig → Text} {env : Environment} {config : ApplicationConfig}
    (loaded : loadConfig mapping files errors env = .ok config) :
    config.Accepted files env := by
  rcases bind_eq_ok.mp loaded with ⟨built, read, checked⟩
  have complaint : built.refusal (errors built) = none ∧ built = config := by
    simp only [ApplicationConfig.check] at checked
    split at checked
    · cases checked
    · rename_i silent
      exact ⟨silent, Except.ok.inj checked⟩
  rcases complaint with ⟨silent, rfl⟩
  rcases ApplicationConfig.refusal_eq_none.mp silent with ⟨ports, reachable, _, long, valid⟩
  simp only [ApplicationConfig.schemaValid, Bool.and_eq_true, Bool.or_eq_true] at valid
  rcases valid with ⟨⟨⟨⟨⟨⟨⟨radio, iata⟩, level⟩, queue⟩, hours⟩, ui⟩, _⟩, _⟩
  rcases bind_eq_ok.mp read with ⟨ownRadio, _, read⟩
  rcases bind_eq_ok.mp read with ⟨brokers, readBrokers, read⟩
  rcases bind_eq_ok.mp read with ⟨bots, readBots, read⟩
  rcases bind_eq_ok.mp read with ⟨metricsUi, _, read⟩
  rcases bind_eq_ok.mp read with ⟨botReplyQueue, _, read⟩
  rcases bind_eq_ok.mp read with ⟨intervalHours, _, combined⟩
  cases combined
  rcases accepted_of_readBots readBots with ⟨names, commands⟩
  exact
    { radio := RadioConfig.accepted radio ports reachable
      iata := by
        rcases (Option.any_eq_true _ _).mp iata with ⟨code, given, filled⟩
        exact ⟨code, given, of_decide_eq_true filled⟩
      loggingLevel := by simpa using level
      brokers := loaded_of_readBrokers readBrokers
      names := names
      bots := commands
      metricsUi := MetricsUiConfig.accepted ui
      botReplyQueue := ReplyQueueConfig.accepted queue long
      intervalHours := by
        rcases hours with zero | interval
        · rcases within_bounds.mp zero with ⟨value, integral, least, most⟩
          exact ⟨value, integral, .inl (by omega)⟩
        · rcases within_bounds.mp interval with ⟨value, integral, bounds⟩
          exact ⟨value, integral, .inr bounds⟩ }

theorem accepted_of_loadConfig_password :
    ∃ config, loadConfig .asciiOnly passwordFiles (fun _ => [])
        (passwordEnvironment "observatory".toList) = .ok config ∧
      config.Accepted passwordFiles (passwordEnvironment "observatory".toList) := by
  obtain ⟨config, loaded⟩ : ∃ config, loadConfig .asciiOnly passwordFiles (fun _ => [])
      (passwordEnvironment "observatory".toList) = .ok config := ⟨_, rfl⟩
  exact ⟨config, loaded, accepted_of_loadConfig loaded⟩

end MeshcoreObserver
