import MeshcoreObserver.Config.Environment
import MeshcoreObserver.Mqtt.BrokersConfig

/-!
# Loading the configuration

`loadConfig`: the environment variables and the two files as the configuration of
the application, or the message of a `ConfigError`. The readers run in the order
of the source, then the manual checks, then the schema. The texts of the schema
errors come from the validator and are a parameter.

A configuration that is accepted has everything the services rely on.
-/

namespace MeshcoreObserver

structure ReconnectNumbers where
  maxRetries : JsNumber
  initialDelayMs : JsNumber
  maxDelayMs : JsNumber
  deriving DecidableEq, Repr

structure RadioConfig where
  type : Text
  serialPorts : List Text
  tcpHost : Option Text
  tcpPort : Option JsNumber
  reconnect : ReconnectNumbers
  deriving DecidableEq, Repr

structure ObserverConfig where
  iata : Option Text
  ownerEmail : Option Text
  deriving DecidableEq, Repr

structure MetricsUiConfig where
  enabled : Bool
  host : Text
  port : JsNumber
  sampleIntervalMs : JsNumber
  dbPath : Text
  retentionDays : JsNumber
  maxChartBuckets : JsNumber
  deriving DecidableEq, Repr

structure ReplyQueueConfig where
  quietMs : JsNumber
  ttlMs : JsNumber
  repeatCheckTimeoutMs : JsNumber
  deriving DecidableEq, Repr

structure ApplicationConfig where
  radio : RadioConfig
  observer : ObserverConfig
  loggingLevel : Text
  brokers : List BrokerConfig
  bots : List BotConfig
  metricsUi : MetricsUiConfig
  botReplyQueue : ReplyQueueConfig
  intervalHours : JsNumber
  deriving DecidableEq, Repr

/-- What is found at each path. -/
structure ConfigFiles where
  brokers : Text → BrokersFile
  bots : Text → BotsFile

section Reading

variable (mapping : CaseMapping) (files : ConfigFiles) (env : Environment)

def readRadio : Except Text RadioConfig := do
  let tcpPort ← env.readIntegerValue "PACKETCAPTURE_TCP_PORT".toList
  let maxRetries ← env.readInteger "PACKETCAPTURE_MAX_CONNECTION_RETRIES".toList 0
  let initialDelayMs ← env.readInteger "PACKETCAPTURE_CONNECTION_RETRY_DELAY".toList 3000
  let maxDelayMs ← env.readInteger "PACKETCAPTURE_CONNECTION_RETRY_DELAY_MAX".toList 15000
  return {
    type := (env.readString "PACKETCAPTURE_CONNECTION_TYPE".toList).getD "serial".toList
    serialPorts := env.readList "PACKETCAPTURE_SERIAL_PORTS".toList
    tcpHost := env.readString "PACKETCAPTURE_TCP_HOST".toList
    tcpPort
    reconnect := { maxRetries, initialDelayMs, maxDelayMs } }

def readObserver : ObserverConfig where
  iata := env.readString "PACKETCAPTURE_IATA".toList
  ownerEmail := env.readString "PACKETCAPTURE_OWNER_EMAIL".toList

def readLogging : Text := (env.readString "PACKETCAPTURE_LOG_LEVEL".toList).getD "info".toList

def readBotReplyQueue : Except Text ReplyQueueConfig := do
  let quietMs ← env.readInteger "PACKETCAPTURE_BOT_REPLY_QUIET_MS".toList 5000
  let ttlMs ← env.readInteger "PACKETCAPTURE_BOT_REPLY_TTL_MS".toList 60000
  let repeatCheckTimeoutMs ← env.readInteger "PACKETCAPTURE_BOT_REPLY_REPEAT_CHECK_MS".toList 10000
  return { quietMs, ttlMs, repeatCheckTimeoutMs }

def readFloodAdvert : Except Text JsNumber :=
  env.readInteger "PACKETCAPTURE_FLOOD_ADVERT_INTERVAL_HOURS".toList 47

def readMetricsUi : Except Text MetricsUiConfig := do
  let enabled ← env.readBoolean mapping "PACKETCAPTURE_METRICS_UI_ENABLED".toList false
  let port ← env.readInteger "PACKETCAPTURE_METRICS_UI_PORT".toList 8090
  let sampleIntervalMs ←
    env.readInteger "PACKETCAPTURE_METRICS_UI_SAMPLE_INTERVAL_MS".toList 10000
  let retentionDays ← env.readInteger "PACKETCAPTURE_METRICS_UI_RETENTION_DAYS".toList 0
  let maxChartBuckets ← env.readInteger "PACKETCAPTURE_METRICS_UI_MAX_CHART_BUCKETS".toList 180
  return {
    enabled
    host := (env.readString "PACKETCAPTURE_METRICS_UI_HOST".toList).getD "127.0.0.1".toList
    port
    sampleIntervalMs
    dbPath :=
      (env.readString "PACKETCAPTURE_METRICS_UI_DB_PATH".toList).getD "data/metrics.sqlite3".toList
    retentionDays
    maxChartBuckets }

/-- The variable of a broker's password, by the position of the broker. -/
def passwordKey (broker : BrokerConfig) (number : Nat) : Text :=
  broker.auth.passwordEnv.getD
    ("PACKETCAPTURE_MQTT".toList ++ Text.ofInt number ++ "_PASSWORD".toList)

def passwordContext (broker : BrokerConfig) (number : Nat) : Text :=
  (match broker.auth.passwordEnv with
    | some _ => "named variable ".toList
    | none => "position ".toList ++ Text.ofInt number ++ " variable ".toList) ++
    passwordKey broker number

/-- A broker with its password, in place of the selector. -/
def BrokerConfig.withPassword (broker : BrokerConfig) (password : Text) : BrokerConfig :=
  { broker with auth := { broker.auth with password := some password, passwordEnv := none } }

def readPassword (broker : BrokerConfig) (number : Nat) : Except Text BrokerConfig :=
  if broker.auth.method = .password then
    match env.readString (passwordKey broker number) with
    | none =>
        .error ("Broker \"".toList ++ broker.id ++ "\" uses password auth, but ".toList ++
          passwordContext broker number ++ " is not set or is empty".toList)
    | some password => .ok (broker.withPassword password)
  else .ok broker

/-- `brokers.map(…)`, from the broker with this number on. -/
def readPasswords : Nat → List BrokerConfig → Except Text (List BrokerConfig)
  | _, [] => .ok []
  | number, broker :: brokers => do
      let first ← readPassword env broker number
      let rest ← readPasswords (number + 1) brokers
      return first :: rest

def pathMissing (key path : Text) : Text :=
  key ++ " is set to \"".toList ++ path ++ "\", but that file does not exist".toList

def brokersPath : Text :=
  (env.readString "PACKETCAPTURE_BROKERS_CONFIG_FILE".toList).getD "brokers.config.json".toList

def botsPath : Text :=
  (env.readString "PACKETCAPTURE_BOTS_CONFIG_FILE".toList).getD "bots.config.json".toList

def readBrokers : Except Text (List BrokerConfig) :=
  let path := brokersPath env
  if (env.readString "PACKETCAPTURE_BROKERS_CONFIG_FILE".toList).isSome ∧
      files.brokers path = .missing then
    .error (pathMissing "PACKETCAPTURE_BROKERS_CONFIG_FILE".toList path)
  else (loadBrokersConfig path (files.brokers path)).bind (readPasswords env 1)

def readBots : Except Text (List BotConfig) :=
  let path := botsPath env
  if (env.readString "PACKETCAPTURE_BOTS_CONFIG_FILE".toList).isSome ∧
      files.bots path = .missing then
    .error (pathMissing "PACKETCAPTURE_BOTS_CONFIG_FILE".toList path)
  else loadBotsConfig path (files.bots path)

def readConfig : Except Text ApplicationConfig := do
  let radio ← readRadio env
  let brokers ← readBrokers files env
  let bots ← readBots files env
  let metricsUi ← readMetricsUi mapping env
  let botReplyQueue ← readBotReplyQueue env
  let intervalHours ← readFloodAdvert env
  return {
    radio
    observer := readObserver env
    loggingLevel := readLogging env
    brokers
    bots
    metricsUi
    botReplyQueue
    intervalHours }

end Reading

/-- `type: 'integer'` with its bounds. -/
def JsNumber.within (minimum : Int) (maximum : Option Int) (number : JsNumber) : Bool :=
  number.toInt?.any fun value => minimum ≤ value && maximum.all fun bound => value ≤ bound

/-- `first < second`. -/
def JsNumber.less : JsNumber → JsNumber → Bool
  | .finite first, .finite second => first < second
  | .infinity true, .finite _ => true
  | .finite _, .infinity false => true
  | .infinity true, .infinity false => true
  | _, _ => false

def BrokerConfig.schemaValid (broker : BrokerConfig) : Bool :=
  broker.id ≠ [] && broker.host ≠ [] && (1 ≤ broker.port && broker.port ≤ 65535) &&
    0 ≤ broker.keepalive && broker.clientIdPrefix ≠ [] && broker.auth.passwordEnv = none &&
      broker.auth.tokenTtlSeconds.all fun ttl => 1 ≤ ttl

/-- `configSchema`, apart from what the types say. -/
def ReconnectNumbers.schemaValid (reconnect : ReconnectNumbers) : Bool :=
  reconnect.maxRetries.within 0 none && reconnect.initialDelayMs.within 0 none &&
    reconnect.maxDelayMs.within 0 none

def RadioConfig.schemaValid (radio : RadioConfig) : Bool :=
  (radio.type = "serial".toList || radio.type = "tcp".toList) &&
    (radio.serialPorts.all fun port => port ≠ []) && (radio.tcpHost.all fun host => host ≠ []) &&
      (radio.tcpPort.all fun port => port.within 1 (some 65535)) && radio.reconnect.schemaValid

def ReplyQueueConfig.schemaValid (queue : ReplyQueueConfig) : Bool :=
  queue.quietMs.within 0 none && queue.ttlMs.within 0 none &&
    queue.repeatCheckTimeoutMs.within 0 none

def MetricsUiConfig.schemaValid (ui : MetricsUiConfig) : Bool :=
  ui.host ≠ [] && ui.port.within 1 (some 65535) && ui.sampleIntervalMs.within 1000 none &&
    ui.dbPath ≠ [] && ui.retentionDays.within 0 none && ui.maxChartBuckets.within 10 (some 1000)

namespace ApplicationConfig

def logLevels : List Text := ["debug".toList, "info".toList, "warn".toList, "error".toList]

def schemaValid (config : ApplicationConfig) : Bool :=
  config.radio.schemaValid && (config.observer.iata.any fun iata => iata ≠ []) &&
    logLevels.contains config.loggingLevel && config.botReplyQueue.schemaValid &&
    (config.intervalHours.within 0 (some 0) || config.intervalHours.within 47 (some 168)) &&
    config.metricsUi.schemaValid && config.brokers.all BrokerConfig.schemaValid &&
    config.bots.all fun bot => bot.SchemaValid

/-- The first check of `loadConfig` that fails, as its message. -/
def refusal (errors : Text) (config : ApplicationConfig) : Option Text :=
  if config.radio.type = "serial".toList ∧ config.radio.serialPorts = [] then
    some ("PACKETCAPTURE_SERIAL_PORTS must list at least one port when ".toList ++
      "PACKETCAPTURE_CONNECTION_TYPE=serial".toList)
  else if config.radio.type = "tcp".toList ∧
      (config.radio.tcpHost = none ∨ config.radio.tcpPort.all fun port => port = .finite 0) then
    some ("PACKETCAPTURE_TCP_HOST and PACKETCAPTURE_TCP_PORT are required when ".toList ++
      "PACKETCAPTURE_CONNECTION_TYPE=tcp".toList)
  else if config.observer.iata = none then some "PACKETCAPTURE_IATA is required".toList
  else if config.botReplyQueue.ttlMs.less config.botReplyQueue.quietMs then
    some ("PACKETCAPTURE_BOT_REPLY_TTL_MS must be greater than or equal to ".toList ++
      "PACKETCAPTURE_BOT_REPLY_QUIET_MS (otherwise a queued reply would always expire ".toList ++
      "before a quiet window could ever be observed)".toList)
  else if config.schemaValid then none
  else some ("Invalid configuration: ".toList ++ errors)

def check (errors : ApplicationConfig → Text) (config : ApplicationConfig) :
    Except Text ApplicationConfig :=
  match config.refusal (errors config) with
  | some message => .error message
  | none => .ok config

end ApplicationConfig

def loadConfig (mapping : CaseMapping) (files : ConfigFiles) (errors : ApplicationConfig → Text)
    (env : Environment) : Except Text ApplicationConfig :=
  (readConfig mapping files env).bind (ApplicationConfig.check errors)

end MeshcoreObserver
