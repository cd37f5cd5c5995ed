import MeshcoreObserver.Counting.Counts

/-!
# Metrics samples

The counters of `ServiceHealth`, its snapshots, and the sample which the
sampler takes of two snapshots: what each counter has grown by. Packet types
are counted by code and sampled by bucket.

A snapshot keeps the state of each broker in a plain object. Assigning to
`__proto__` sets the prototype of such an object and makes no key of it, so a
broker of that name has no entry.
-/

namespace MeshcoreObserver

open Counting

inductive DeliveryOutcome where
  | sent
  | skipped
  | failed
  deriving DecidableEq, Repr

structure Deliveries where
  sent : Int
  skipped : Int
  failed : Int
  deriving DecidableEq, Repr

namespace Deliveries

def zero : Deliveries := { sent := 0, skipped := 0, failed := 0 }

def count (deliveries : Deliveries) : DeliveryOutcome → Int
  | .sent => deliveries.sent
  | .skipped => deliveries.skipped
  | .failed => deliveries.failed

def increment (deliveries : Deliveries) : DeliveryOutcome → Deliveries
  | .sent => { deliveries with sent := deliveries.sent + 1 }
  | .skipped => { deliveries with skipped := deliveries.skipped + 1 }
  | .failed => { deliveries with failed := deliveries.failed + 1 }

def minus (deliveries former : Deliveries) : Deliveries :=
  { sent := deliveries.sent - former.sent
    skipped := deliveries.skipped - former.skipped
    failed := deliveries.failed - former.failed }

def anyPositive (deliveries : Deliveries) : Bool :=
  0 < deliveries.sent || 0 < deliveries.skipped || 0 < deliveries.failed

theorem count_increment (deliveries : Deliveries) (outcome other : DeliveryOutcome) :
    (deliveries.increment outcome).count other =
      deliveries.count other + if other = outcome then 1 else 0 := by
  cases outcome with
  | sent => cases other <;> simp [increment, count]
  | skipped => cases other <;> simp [increment, count]
  | failed => cases other <;> simp [increment, count]

theorem count_minus (deliveries former : Deliveries) (outcome : DeliveryOutcome) :
    (deliveries.minus former).count outcome = deliveries.count outcome - former.count outcome := by
  cases outcome with
  | sent => rfl
  | skipped => rfl
  | failed => rfl

end Deliveries

/-- The counters of `ServiceHealth`, with the ids of the configured brokers. -/
structure ServiceHealth where
  brokers : List String
  packetsReceived : Int
  packetsDecoded : Int
  packetsByType : List (String × Int)
  brokerDeliveries : List (String × Deliveries)
  deriving DecidableEq, Repr

/-- What a snapshot reads fresh. -/
structure Gauges where
  radioConnected : Bool
  connectedBrokers : List String
  botsReady : List Bool
  replyQueueSize : Nat
  deriving DecidableEq, Repr

structure BrokerHealth where
  connected : Bool
  deliveries : Deliveries
  deriving DecidableEq, Repr

structure Snapshot where
  radioConnected : Bool
  packetsReceived : Int
  packetsDecoded : Int
  packetsByType : List (String × Int)
  mqtt : List (String × BrokerHealth)
  botsReady : List Bool
  replyQueueSize : Nat
  deriving DecidableEq, Repr

namespace ServiceHealth

def new (brokers : List String) : ServiceHealth :=
  { brokers, packetsReceived := 0, packetsDecoded := 0, packetsByType := [],
    brokerDeliveries := [] }

def packetReceived (health : ServiceHealth) : ServiceHealth :=
  { health with packetsReceived := health.packetsReceived + 1 }

def packetDecoded (health : ServiceHealth) (packetType : String) : ServiceHealth :=
  { health with
    packetsDecoded := health.packetsDecoded + 1
    packetsByType := add packetType 1 health.packetsByType }

def recordPublishResult (health : ServiceHealth) (brokerId : String)
    (outcome : DeliveryOutcome) : ServiceHealth :=
  { health with
    brokerDeliveries :=
      update brokerId (fun counts => (counts.getD .zero).increment outcome)
        health.brokerDeliveries }

def recordPublishResults (health : ServiceHealth) (results : List (String × DeliveryOutcome)) :
    ServiceHealth :=
  results.foldl (fun health result => health.recordPublishResult result.1 result.2) health

def deliveries (health : ServiceHealth) (brokerId : String) : Deliveries :=
  (find? brokerId health.brokerDeliveries).getD .zero

def snapshot (health : ServiceHealth) (gauges : Gauges) : Snapshot :=
  { radioConnected := gauges.radioConnected
    packetsReceived := health.packetsReceived
    packetsDecoded := health.packetsDecoded
    packetsByType := health.packetsByType
    mqtt :=
      (health.brokers.filter fun brokerId => brokerId ≠ "__proto__").map fun brokerId =>
        (brokerId,
          { connected := gauges.connectedBrokers.contains brokerId
            deliveries := health.deliveries brokerId })
    botsReady := gauges.botsReady
    replyQueueSize := gauges.replyQueueSize }

end ServiceHealth

inductive PacketTypeBucket where
  | advert
  | txtMsg
  | grpTxt
  | ack
  | path
  | trace
  | grpData
  | other
  deriving DecidableEq, Repr

def packetTypeBuckets : List (PacketTypeBucket × List String) :=
  [(.advert, ["4"]), (.txtMsg, ["2"]), (.grpTxt, ["5"]), (.ack, ["3"]), (.path, ["8"]),
    (.trace, ["9"]), (.grpData, ["6"]), (.other, ["0", "1", "7", "15"])]

def bucketKeyForCode (code : String) : PacketTypeBucket :=
  ((packetTypeBuckets.find? fun bucket => bucket.2.contains code).map Prod.fst).getD .other

def bucketPacketsByType (packetsByType : List (String × Int)) : List (PacketTypeBucket × Int) :=
  regroup bucketKeyForCode packetsByType

/-- The columns of `metrics_samples`. -/
structure SampleColumns where
  sampleAt : Int
  intervalMs : Int
  packetsReceived : Int
  packetsDecoded : Int
  radioConnected : Bool
  brokersConnected : Nat
  brokersTotal : Nat
  botsReady : Nat
  botsTotal : Nat
  replyQueueSize : Nat
  deriving DecidableEq, Repr

structure PacketSample extends SampleColumns where
  packetsByType : List (PacketTypeBucket × Int)
  brokerDeliveries : List (String × Deliveries)
  deriving DecidableEq, Repr

/-- A persisted sample with the rows of its two other tables. -/
structure StoredSample extends SampleColumns where
  packetTypes : List (PacketTypeBucket × Int)
  deliveries : List ((String × DeliveryOutcome) × Int)
  deriving DecidableEq, Repr

/-- What the snapshot before had counted, 0 where there is none. -/
def prevPacketsReceived (prevSnapshot : Option Snapshot) : Int :=
  (prevSnapshot.map Snapshot.packetsReceived).getD 0

def prevPacketsDecoded (prevSnapshot : Option Snapshot) : Int :=
  (prevSnapshot.map Snapshot.packetsDecoded).getD 0

def prevPacketsByType (prevSnapshot : Option Snapshot) : List (String × Int) :=
  (prevSnapshot.map Snapshot.packetsByType).getD []

def prevDeliveries (prevSnapshot : Option Snapshot) (brokerId : String) : Deliveries :=
  ((prevSnapshot.bind fun snapshot => find? brokerId snapshot.mqtt).map
    BrokerHealth.deliveries).getD .zero

def deliveriesDelta (prevSnapshot : Option Snapshot) (mqtt : List (String × BrokerHealth)) :
    List (String × Deliveries) :=
  mqtt.filterMap fun state =>
    let delta := state.2.deliveries.minus (prevDeliveries prevSnapshot state.1)
    if delta.anyPositive then some (state.1, delta) else none

def computeSampleDelta (prevSnapshot : Option Snapshot) (snapshot : Snapshot)
    (sampleAt intervalMs : Int) : PacketSample :=
  { sampleAt
    intervalMs
    packetsReceived := snapshot.packetsReceived - prevPacketsReceived prevSnapshot
    packetsDecoded := snapshot.packetsDecoded - prevPacketsDecoded prevSnapshot
    radioConnected := snapshot.radioConnected
    brokersConnected := (snapshot.mqtt.filter fun state => state.2.connected).length
    brokersTotal := snapshot.mqtt.length
    botsReady := (snapshot.botsReady.filter id).length
    botsTotal := snapshot.botsReady.length
    replyQueueSize := snapshot.replyQueueSize
    packetsByType :=
      bucketPacketsByType (difference (prevPacketsByType prevSnapshot) snapshot.packetsByType)
    brokerDeliveries := deliveriesDelta prevSnapshot snapshot.mqtt }

def deliveryRows (brokerId : String) (counts : Deliveries) :
    List ((String × DeliveryOutcome) × Int) :=
  [((brokerId, .sent), counts.sent), ((brokerId, .skipped), counts.skipped),
    ((brokerId, .failed), counts.failed)].filter fun row => 0 < row.2

/-- The rows a `recordPacketSample` writes when it does not throw. -/
def recordPacketSample (sample : PacketSample) : StoredSample :=
  { toSampleColumns := sample.toSampleColumns
    packetTypes := sample.packetsByType.filter fun row => 0 < row.2
    deliveries := sample.brokerDeliveries.flatMap fun entry => deliveryRows entry.1 entry.2 }

end MeshcoreObserver
