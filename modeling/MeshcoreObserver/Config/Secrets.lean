import MeshcoreObserver.Config.LoadConfig

/-!
# Secrets of the configuration

Which variables `loadConfig` depends on, and what of them can be seen. Both are
one statement about a way to look at passwords: where two environments look the
same, so do the results, the messages of errors included. Looked at as they are,
this says that no other variable matters; with the passwords covered, that no
password shows in a message or anywhere but in its own broker.
-/

namespace MeshcoreObserver

def radioKeys : List Text :=
  ["PACKETCAPTURE_CONNECTION_TYPE".toList, "PACKETCAPTURE_SERIAL_PORTS".toList,
    "PACKETCAPTURE_TCP_HOST".toList, "PACKETCAPTURE_TCP_PORT".toList,
    "PACKETCAPTURE_MAX_CONNECTION_RETRIES".toList, "PACKETCAPTURE_CONNECTION_RETRY_DELAY".toList,
    "PACKETCAPTURE_CONNECTION_RETRY_DELAY_MAX".toList]

def serviceKeys : List Text :=
  ["PACKETCAPTURE_IATA".toList, "PACKETCAPTURE_OWNER_EMAIL".toList,
    "PACKETCAPTURE_LOG_LEVEL".toList, "PACKETCAPTURE_FLOOD_ADVERT_INTERVAL_HOURS".toList]

def fileKeys : List Text :=
  ["PACKETCAPTURE_BROKERS_CONFIG_FILE".toList, "PACKETCAPTURE_BOTS_CONFIG_FILE".toList]

def metricsUiKeys : List Text :=
  ["PACKETCAPTURE_METRICS_UI_ENABLED".toList, "PACKETCAPTURE_METRICS_UI_HOST".toList,
    "PACKETCAPTURE_METRICS_UI_PORT".toList, "PACKETCAPTURE_METRICS_UI_SAMPLE_INTERVAL_MS".toList,
    "PACKETCAPTURE_METRICS_UI_DB_PATH".toList, "PACKETCAPTURE_METRICS_UI_RETENTION_DAYS".toList,
    "PACKETCAPTURE_METRICS_UI_MAX_CHART_BUCKETS".toList]

def botReplyQueueKeys : List Text :=
  ["PACKETCAPTURE_BOT_REPLY_QUIET_MS".toList, "PACKETCAPTURE_BOT_REPLY_TTL_MS".toList,
    "PACKETCAPTURE_BOT_REPLY_REPEAT_CHECK_MS".toList]

/-- The variables of the configuration. The passwords have variables of their own. -/
def configurationKeys : List Text :=
  radioKeys ++ serviceKeys ++ fileKeys ++ metricsUiKeys ++ botReplyQueueKeys

/-- The variables of the passwords, from the broker with this number on. -/
def passwordKeysFrom : Nat → List BrokerConfig → List Text
  | _, [] => []
  | number, broker :: brokers =>
      (if broker.auth.method = .password then [passwordKey broker number] else []) ++
        passwordKeysFrom (number + 1) brokers

def passwordKeys (files : ConfigFiles) (env : Environment) : List Text :=
  match loadBrokersConfig (brokersPath env) (files.brokers (brokersPath env)) with
  | .error _ => []
  | .ok brokers => passwordKeysFrom 1 brokers

/-- Steps that look the same, one after the other. -/
theorem map_bind_congr {Error Value Result View Display : Type}
    {first second : Except Error Value} {next other : Value → Except Error Result}
    {look : Value → View} {display : Result → Display}
    (same : first.map look = second.map look)
    (onward : ∀ value foreign, look value = look foreign →
      (next value).map display = (other foreign).map display) :
    (first.bind next).map display = (second.bind other).map display := by
  cases first with
  | error message =>
      cases second with
      | error foreign => simpa [Except.map, Except.bind] using same
      | ok foreign => cases same
  | ok value =>
      cases second with
      | error foreign => cases same
      | ok foreign =>
          apply onward
          simpa [Except.map] using same

theorem map_bind_congr_next {Error Value Result Display : Type} {step : Except Error Value}
    {next other : Value → Except Error Result} {display : Result → Display}
    (onward : ∀ value, (next value).map display = (other value).map display) :
    (step.bind next).map display = (step.bind other).map display := by
  cases step with
  | error message => rfl
  | ok value => exact onward value

section Seen

variable (see : Text → Text)

def BrokerConfig.seen (broker : BrokerConfig) : BrokerConfig :=
  { broker with auth := { broker.auth with password := broker.auth.password.map see } }

def ApplicationConfig.seen (config : ApplicationConfig) : ApplicationConfig :=
  { config with brokers := config.brokers.map (BrokerConfig.seen see) }

/-- The environments have the same values for these variables. -/
def Environment.AgreeOn (keys : List Text) (env other : Environment) : Prop :=
  ∀ key ∈ keys, env.readString key = other.readString key

/-- The environments agree on the configuration, and look the same on the passwords. -/
structure LookTheSame (files : ConfigFiles) (env other : Environment) : Prop where
  configuration : Environment.AgreeOn configurationKeys env other
  passwords : ∀ key ∈ passwordKeys files env,
    (env.readString key).map see = (other.readString key).map see

variable {see} {env other : Environment}

theorem readPassword_seen {broker : BrokerConfig} {number : Nat}
    (same : broker.auth.method = .password →
      (env.readString (passwordKey broker number)).map see =
        (other.readString (passwordKey broker number)).map see) :
    (readPassword env broker number).map (BrokerConfig.seen see) =
      (readPassword other broker number).map (BrokerConfig.seen see) := by
  simp only [readPassword]
  split
  · rename_i method
    have looks := same method
    cases first : env.readString (passwordKey broker number) with
    | none =>
        rw [first, Option.map_none, eq_comm, Option.map_eq_none_iff] at looks
        rw [looks]
    | some password =>
        rw [first, Option.map_some, eq_comm, Option.map_eq_some_iff] at looks
        rcases looks with ⟨otherPassword, second, covered⟩
        simp [second, Except.map, BrokerConfig.withPassword, BrokerConfig.seen, covered]
  · rfl

theorem readPasswords_seen {brokers : List BrokerConfig} {number : Nat}
    (same : ∀ key ∈ passwordKeysFrom number brokers,
      (env.readString key).map see = (other.readString key).map see) :
    (readPasswords env number brokers).map (List.map (BrokerConfig.seen see)) =
      (readPasswords other number brokers).map (List.map (BrokerConfig.seen see)) := by
  induction brokers generalizing number with
  | nil => rfl
  | cons broker brokers ih =>
      have rest := ih fun key keyMem => same key (List.mem_append_right _ keyMem)
      have first : (readPassword env broker number).map (BrokerConfig.seen see) =
          (readPassword other broker number).map (BrokerConfig.seen see) := by
        apply readPassword_seen
        intro method
        apply same
        simp [passwordKeysFrom, method]
      apply map_bind_congr first
      intro ownFirst otherFirst firstSame
      apply map_bind_congr rest
      intro ownRest otherRest restSame
      simp [Except.map, pure, Except.pure, firstSame, restSame]

variable {files : ConfigFiles}

theorem agree_parts (same : Environment.AgreeOn configurationKeys env other) :
    Environment.AgreeOn radioKeys env other ∧ Environment.AgreeOn serviceKeys env other ∧
      Environment.AgreeOn fileKeys env other ∧ Environment.AgreeOn metricsUiKeys env other ∧
        Environment.AgreeOn botReplyQueueKeys env other := by
  simpa only [Environment.AgreeOn, configurationKeys, List.forall_mem_append, and_assoc] using same

theorem paths_congr (same : Environment.AgreeOn fileKeys env other) :
    brokersPath env = brokersPath other ∧ botsPath env = botsPath other := by
  simp only [Environment.AgreeOn, fileKeys, List.forall_mem_cons] at same
  rcases same with ⟨brokers, bots, _⟩
  simp only [brokersPath, botsPath, brokers, bots, and_self]

theorem readBrokers_seen (same : LookTheSame see files env other) :
    (readBrokers files env).map (List.map (BrokerConfig.seen see)) =
      (readBrokers files other).map (List.map (BrokerConfig.seen see)) := by
  have paths := (agree_parts same.configuration).2.2.1
  have samePath := (paths_congr paths).1
  have path := (List.forall_mem_cons.mp paths).1
  simp only [readBrokers, path, samePath]
  split
  · rfl
  · cases loaded : loadBrokersConfig (brokersPath other) (files.brokers (brokersPath other)) with
    | error message => rfl
    | ok brokers =>
        apply readPasswords_seen
        intro key keyMem
        apply same.passwords
        simpa [passwordKeys, samePath, loaded] using keyMem

theorem readRadio_congr (same : Environment.AgreeOn radioKeys env other) :
    readRadio env = readRadio other := by
  simp only [Environment.AgreeOn, radioKeys, List.forall_mem_cons] at same
  rcases same with ⟨type, ports, host, port, retries, delay, longest, _⟩
  have samePorts := Environment.readList_congr ports
  have samePort := Environment.readIntegerValue_congr port
  have sameRetries := Environment.readInteger_congr retries 0
  have sameDelay := Environment.readInteger_congr delay 3000
  have sameLongest := Environment.readInteger_congr longest 15000
  simp only [readRadio, type, samePorts, host, samePort, sameRetries, sameDelay, sameLongest]

theorem readMetricsUi_congr (mapping : CaseMapping)
    (same : Environment.AgreeOn metricsUiKeys env other) :
    readMetricsUi mapping env = readMetricsUi mapping other := by
  simp only [Environment.AgreeOn, metricsUiKeys, List.forall_mem_cons] at same
  rcases same with ⟨enabled, host, port, interval, path, retention, buckets, _⟩
  have sameEnabled : env.readBoolean mapping "PACKETCAPTURE_METRICS_UI_ENABLED".toList false =
      other.readBoolean mapping "PACKETCAPTURE_METRICS_UI_ENABLED".toList false :=
    Environment.readBoolean_congr enabled false
  have samePort := Environment.readInteger_congr port 8090
  have sameInterval := Environment.readInteger_congr interval 10000
  have sameRetention := Environment.readInteger_congr retention 0
  have sameBuckets := Environment.readInteger_congr buckets 180
  simp only [readMetricsUi, sameEnabled, host, samePort, sameInterval, path, sameRetention,
    sameBuckets]

theorem readBotReplyQueue_congr (same : Environment.AgreeOn botReplyQueueKeys env other) :
    readBotReplyQueue env = readBotReplyQueue other := by
  simp only [Environment.AgreeOn, botReplyQueueKeys, List.forall_mem_cons] at same
  rcases same with ⟨quiet, ttl, timeout, _⟩
  have sameQuiet := Environment.readInteger_congr quiet 5000
  have sameTtl := Environment.readInteger_congr ttl 60000
  have sameTimeout := Environment.readInteger_congr timeout 10000
  simp only [readBotReplyQueue, sameQuiet, sameTtl, sameTimeout]

theorem readBots_congr (same : Environment.AgreeOn fileKeys env other) :
    readBots files env = readBots files other := by
  have samePath := (paths_congr same).2
  have path := (List.forall_mem_cons.mp (List.forall_mem_cons.mp same).2).1
  simp only [readBots, path, samePath]

theorem readServices_congr (same : Environment.AgreeOn serviceKeys env other) :
    readObserver env = readObserver other ∧ readLogging env = readLogging other ∧
      readFloodAdvert env = readFloodAdvert other := by
  simp only [Environment.AgreeOn, serviceKeys, List.forall_mem_cons] at same
  rcases same with ⟨iata, email, level, hours, _⟩
  have sameHours := Environment.readInteger_congr hours 47
  simp only [readObserver, readLogging, readFloodAdvert, iata, email, level, sameHours, and_self]

theorem readConfig_seen (mapping : CaseMapping) (same : LookTheSame see files env other) :
    (readConfig mapping files env).map (ApplicationConfig.seen see) =
      (readConfig mapping files other).map (ApplicationConfig.seen see) := by
  rcases agree_parts same.configuration with ⟨radioSame, services, paths, uiSame, queueSame⟩
  rcases readServices_congr services with ⟨observer, logging, hours⟩
  simp only [readConfig, readRadio_congr radioSame, readBots_congr paths, observer, logging, hours,
    readMetricsUi_congr mapping uiSame, readBotReplyQueue_congr queueSame]
  apply map_bind_congr_next
  intro radio
  apply map_bind_congr (readBrokers_seen same)
  intro brokers otherBrokers brokersSame
  apply map_bind_congr_next
  intro bots
  apply map_bind_congr_next
  intro metricsUi
  apply map_bind_congr_next
  intro botReplyQueue
  apply map_bind_congr_next
  intro intervalHours
  simp [Except.map, pure, Except.pure, ApplicationConfig.seen, brokersSame]

theorem brokersValid_seen (brokers : List BrokerConfig) :
    (brokers.map (BrokerConfig.seen see)).all BrokerConfig.schemaValid =
      brokers.all BrokerConfig.schemaValid := by
  rw [List.all_map]
  rfl

theorem refusal_seen (errors : Text) (config : ApplicationConfig) :
    (config.seen see).refusal errors = config.refusal errors := by
  have brokers : (config.seen see).brokers.all BrokerConfig.schemaValid =
      config.brokers.all BrokerConfig.schemaValid := brokersValid_seen config.brokers
  have valid : (config.seen see).schemaValid = config.schemaValid := by
    rw [ApplicationConfig.schemaValid, brokers]
    rfl
  rw [ApplicationConfig.refusal, valid]
  rfl

/-- The checks do not look at passwords. -/
theorem check_seen (errors : ApplicationConfig → Text) (config : ApplicationConfig) :
    (config.check errors).map (ApplicationConfig.seen see) =
      match (config.seen see).refusal (errors config) with
      | some message => .error message
      | none => .ok (config.seen see) := by
  simp only [ApplicationConfig.check, refusal_seen]
  cases config.refusal (errors config) with
  | none => rfl
  | some message => rfl

/-- Environments that look the same give configurations and messages that look the same, provided
that the validator says the same of configurations that look the same. -/
theorem loadConfig_seen (mapping : CaseMapping) {errors : ApplicationConfig → Text}
    (blind : ∀ config foreign : ApplicationConfig, config.seen see = foreign.seen see →
      errors config = errors foreign)
    (same : LookTheSame see files env other) :
    (loadConfig mapping files errors env).map (ApplicationConfig.seen see) =
      (loadConfig mapping files errors other).map (ApplicationConfig.seen see) := by
  apply map_bind_congr (readConfig_seen mapping same)
  intro config foreign looks
  rw [check_seen, check_seen, looks, blind config foreign looks]

end Seen

def passwordBroker : BrokerEntry :=
  { id := "okimesh".toList
    enabled := true
    host := "mqtt1.okimesh.org".toList
    port := 1883
    transport := none
    tls := none
    websocketPath := none
    keepalive := none
    qos := none
    retain := none
    clientIdPrefix := none
    auth :=
      { method := .password
        username := some "observer".toList
        audience := none
        tokenTtlSeconds := none
        passwordEnv := none } }

def passwordFiles : ConfigFiles where
  brokers := fun _ => .brokers [passwordBroker] []
  bots := fun _ => .missing

def passwordEnvironment (password : Text) : Environment := fun key =>
  if key = "PACKETCAPTURE_SERIAL_PORTS".toList then some "/dev/ttyUSB0".toList
  else if key = "PACKETCAPTURE_IATA".toList then some "OKA".toList
  else if key = "PACKETCAPTURE_MQTT1_PASSWORD".toList then some password
  else none

theorem passwordEnvironment_of_ne {key : Text}
    (apart : key ≠ "PACKETCAPTURE_MQTT1_PASSWORD".toList) (first second : Text) :
    (passwordEnvironment first).readString key = (passwordEnvironment second).readString key := by
  simp only [Environment.readString, passwordEnvironment, if_neg apart]

theorem lookTheSame_password {first second : Text} (given : first ≠ []) (other : second ≠ []) :
    LookTheSame (fun _ => []) passwordFiles (passwordEnvironment first)
      (passwordEnvironment second) := by
  constructor
  · intro key keyMem
    apply passwordEnvironment_of_ne
    rintro rfl
    revert keyMem
    decide
  · intro key _
    by_cases password : key = "PACKETCAPTURE_MQTT1_PASSWORD".toList
    · have value (text : Text) :
          passwordEnvironment text "PACKETCAPTURE_MQTT1_PASSWORD".toList = some text := rfl
      rw [password]
      simp only [Environment.readString, value, if_neg given, if_neg other, Option.map_some]
    · rw [passwordEnvironment_of_ne password first second]

theorem loadConfig_seen_password :
    (loadConfig .asciiOnly passwordFiles (fun _ => [])
        (passwordEnvironment "first".toList)).map (ApplicationConfig.seen fun _ => []) =
      (loadConfig .asciiOnly passwordFiles (fun _ => [])
        (passwordEnvironment "second".toList)).map (ApplicationConfig.seen fun _ => []) :=
  loadConfig_seen .asciiOnly (fun _ _ _ => rfl)
    (lookTheSame_password (by decide) (by decide))

end MeshcoreObserver
