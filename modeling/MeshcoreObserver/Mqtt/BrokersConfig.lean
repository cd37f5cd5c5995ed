import MeshcoreObserver.Bots.BotsConfig

/-!
# The brokers configuration

`loadBrokersConfig` on what `JSON.parse` returns. A value of `BrokerEntry` has the
properties and types that `brokersConfigSchema` admits and no others; what is left
of the schema are its minima, and that only a password may come from a variable
of its own. The texts of the schema errors come from the validator and are
parameters.
-/

namespace MeshcoreObserver

inductive BrokerTransport where
  | tcp
  | wss
  deriving DecidableEq, Repr

inductive AuthMethod where
  | none
  | token
  | password
  deriving DecidableEq, Repr

inductive QualityOfService where
  | atMostOnce
  | atLeastOnce
  | exactlyOnce
  deriving DecidableEq, Repr

structure AuthEntry where
  method : AuthMethod
  username : Option Text
  audience : Option Text
  tokenTtlSeconds : Option Int
  passwordEnv : Option Text
  deriving DecidableEq, Repr

/-- A broker as it stands in the file. -/
structure BrokerEntry where
  id : Text
  enabled : Bool
  host : Text
  port : Int
  transport : Option BrokerTransport
  tls : Option Bool
  websocketPath : Option Text
  keepalive : Option Int
  qos : Option QualityOfService
  retain : Option Bool
  clientIdPrefix : Option Text
  auth : AuthEntry
  deriving DecidableEq, Repr

structure BrokerAuth where
  method : AuthMethod
  username : Option Text
  password : Option Text
  passwordEnv : Option Text
  audience : Option Text
  tokenTtlSeconds : Option Int
  deriving DecidableEq, Repr

structure BrokerConfig where
  id : Text
  enabled : Bool
  host : Text
  port : Int
  transport : BrokerTransport
  tls : Bool
  websocketPath : Option Text
  keepalive : Int
  qos : QualityOfService
  retain : Bool
  clientIdPrefix : Text
  auth : BrokerAuth
  deriving DecidableEq, Repr

/-- `^[A-Z_][A-Z0-9_]*$`. -/
def isVariableName : Text → Bool
  | [] => false
  | first :: rest =>
      (first.isUpper || first = '_') &&
        rest.all fun char => char.isUpper || char.isDigit || char = '_'

/-- The minima of `brokersConfigSchema`, its pattern and its condition. -/
def BrokerEntry.SchemaValid (broker : BrokerEntry) : Prop :=
  broker.id ≠ [] ∧ broker.host ≠ [] ∧ (1 ≤ broker.port ∧ broker.port ≤ 65535) ∧
    broker.websocketPath ≠ some [] ∧ (∀ keepalive ∈ broker.keepalive, 0 ≤ keepalive) ∧
      broker.clientIdPrefix ≠ some [] ∧ broker.auth.username ≠ some [] ∧
        broker.auth.audience ≠ some [] ∧ (∀ ttl ∈ broker.auth.tokenTtlSeconds, 1 ≤ ttl) ∧
          (∀ key ∈ broker.auth.passwordEnv, isVariableName key) ∧
            (broker.auth.passwordEnv.isSome → broker.auth.method = .password)

instance BrokerEntry.decidableSchemaValid (broker : BrokerEntry) : Decidable broker.SchemaValid :=
  inferInstanceAs (Decidable (_ ∧ _ ∧ _ ∧ _ ∧ _ ∧ _ ∧ _ ∧ _ ∧ _ ∧ _ ∧ _))

def normalizeBroker (broker : BrokerEntry) : BrokerConfig :=
  { id := broker.id
    enabled := broker.enabled
    host := broker.host
    port := broker.port
    transport := broker.transport.getD .tcp
    tls := broker.tls.getD false
    websocketPath := broker.websocketPath
    keepalive := broker.keepalive.getD 60
    qos := broker.qos.getD .atMostOnce
    retain := broker.retain.getD true
    clientIdPrefix := broker.clientIdPrefix.getD "meshcore-observer".toList
    auth :=
      { method := broker.auth.method
        username := broker.auth.username
        password := none
        passwordEnv := broker.auth.passwordEnv.filter fun key => key ≠ []
        audience := broker.auth.audience
        tokenTtlSeconds := broker.auth.tokenTtlSeconds } }

/-- A value that `if (!value)` lets pass. -/
def Text.given (value : Option Text) : Bool := value.any fun text => text ≠ []

/-- The loop over the brokers, with the ids seen so far. -/
def validateBrokers (filePath : Text) : List Text → List BrokerEntry → Except Text Unit
  | _, [] => .ok ()
  | ids, broker :: brokers =>
      if ids.contains broker.id then
        .error ("Duplicate broker id \"".toList ++ broker.id ++
          "\" in brokers config file \"".toList ++ filePath ++ "\"".toList)
      else if broker.auth.method = .password ∧ Text.given broker.auth.username = false then
        .error ("Broker \"".toList ++ broker.id ++
          "\" uses password auth but has no username configured".toList)
      else if broker.auth.method = .token ∧ Text.given broker.auth.audience = false then
        .error ("Broker \"".toList ++ broker.id ++
          "\" uses token auth but has no audience configured".toList)
      else validateBrokers filePath (broker.id :: ids) brokers

/-- What is found at the path of the configuration. -/
inductive BrokersFile where
  | missing
  | unreadable (message : Text)
  | notJson (message : Text)
  | illTyped (errors : Text)
  | brokers (brokers : List BrokerEntry) (errors : Text)
  deriving DecidableEq, Repr

def loadBrokersConfig (filePath : Text) : BrokersFile → Except Text (List BrokerConfig)
  | .missing => .ok []
  | .unreadable message =>
      .error
        ("Failed to read brokers config file \"".toList ++ filePath ++ "\": ".toList ++ message)
  | .notJson message =>
      .error
        ("Brokers config file \"".toList ++ filePath ++ "\" is not valid JSON: ".toList ++ message)
  | .illTyped errors =>
      .error ("Invalid brokers config file \"".toList ++ filePath ++ "\": ".toList ++ errors)
  | .brokers brokers errors =>
      if ∀ broker ∈ brokers, broker.SchemaValid then
        match validateBrokers filePath [] brokers with
        | .error message => .error message
        | .ok () => .ok (brokers.map normalizeBroker)
      else .error ("Invalid brokers config file \"".toList ++ filePath ++ "\": ".toList ++ errors)

/-- A broker has what its method of authentication needs. -/
structure BrokerEntry.Complete (broker : BrokerEntry) : Prop where
  username : broker.auth.method = .password → Text.given broker.auth.username = true
  audience : broker.auth.method = .token → Text.given broker.auth.audience = true

theorem validateBrokers_eq_ok {filePath : Text} {ids : List Text} {brokers : List BrokerEntry} :
    validateBrokers filePath ids brokers = .ok () ↔
      (brokers.map BrokerEntry.id).Nodup ∧ (∀ broker ∈ brokers, broker.id ∉ ids) ∧
        ∀ broker ∈ brokers, broker.Complete := by
  induction brokers generalizing ids with
  | nil => simp [validateBrokers]
  | cons broker brokers ih =>
      simp only [validateBrokers, List.map_cons, List.nodup_cons, List.forall_mem_cons,
        List.contains_iff_mem]
      split
      · rename_i duplicate
        simp [duplicate]
      · rename_i fresh
        split
        · rename_i nameless
          simp only [reduceCtorEq, false_iff]
          rintro ⟨_, _, complete, _⟩
          rw [complete.username nameless.1] at nameless
          cases nameless.2
        · rename_i named
          split
          · rename_i unheard
            simp only [reduceCtorEq, false_iff]
            rintro ⟨_, _, complete, _⟩
            rw [complete.audience unheard.1] at unheard
            cases unheard.2
          · rename_i heard
            have complete : broker.Complete :=
              ⟨fun method => by simpa [method] using named,
                fun method => by simpa [method] using heard⟩
            rw [ih, ← and_assoc, nodup_apart_cons]
            simp only [fresh, complete, not_false_eq_true, true_and, and_assoc]

def BrokersFile.entries : BrokersFile → List BrokerEntry
  | .brokers entries _ => entries
  | _ => []

/-- The brokers that are loaded are the entries of the file, which are well formed. -/
theorem entries_of_loadBrokersConfig {filePath : Text} {file : BrokersFile}
    {brokers : List BrokerConfig} (loaded : loadBrokersConfig filePath file = .ok brokers) :
    brokers = file.entries.map normalizeBroker ∧ (file.entries.map BrokerEntry.id).Nodup ∧
      ∀ entry ∈ file.entries, entry.SchemaValid ∧ entry.Complete := by
  cases file with
  | missing =>
      cases loaded
      exact ⟨rfl, List.nodup_nil, fun entry entryMem => nomatch entryMem⟩
  | unreadable message => cases loaded
  | notJson message => cases loaded
  | illTyped errors => cases loaded
  | brokers entries errors =>
      simp only [loadBrokersConfig] at loaded
      split at loaded
      · rename_i schema
        split at loaded
        · cases loaded
        · rename_i valid
          cases loaded
          rcases validateBrokers_eq_ok.mp valid with ⟨ids, _, complete⟩
          exact ⟨rfl, ids, fun entry entryMem =>
            ⟨schema entry entryMem, complete entry entryMem⟩⟩
      · cases loaded

end MeshcoreObserver
