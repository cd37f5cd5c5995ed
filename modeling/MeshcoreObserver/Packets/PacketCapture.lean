import MeshcoreObserver.CaseMapping
import MeshcoreObserver.HexText
import MeshcoreObserver.Json.JsonText
import MeshcoreObserver.Metrics.PacketAccounting
import MeshcoreObserver.Mqtt.ObserverTopics

/-!
# Packet capture

A raw push on its way to the brokers: it is normalized and decoded, and the decoded
packet is written as the JSON text of a message. A subscriber who reads the message
finds the bytes of the frame and everything else that was written.

The hash of a packet depends on its type and payload, and on the length of the path
for a trace. It does not depend on the route by which the packet came.
-/

namespace MeshcoreObserver

open JsonText

/-- The functions of the capture that are not part of the repository: the parser of a frame, which
throws where it is `none`, a digest, and the conversions of a number and of letters. -/
structure CaptureRuntime where
  fromBytes : List UInt8 → Option Packet
  sha256 : List UInt8 → List UInt8
  numberText : ℚ → Text
  mapping : CaseMapping

structure NormalizedEvent where
  receivedAt : Text
  snr : ℚ
  rssi : ℚ
  frameHex : Text
  deriving DecidableEq, Repr

/-- `rawPacketEventSchema`. -/
def NormalizedEvent.SchemaValid (event : NormalizedEvent) : Prop :=
  event.receivedAt ≠ [] ∧ Text.isHexPairs event.frameHex = true

instance (event : NormalizedEvent) : Decidable event.SchemaValid := by
  unfold NormalizedEvent.SchemaValid
  infer_instance

/-- `normalizeRawPacketEvent(rawPush)`. A number that is missing or not finite is not valid. -/
def normalizedEvent (receivedAt : Text) (push : RawPush) : Option NormalizedEvent :=
  match push.lastSnr, push.lastRssi with
  | some snr, some rssi =>
      let event : NormalizedEvent := { receivedAt, snr, rssi, frameHex := Text.upperHex push.raw }
      if event.SchemaValid then some event else none
  | _, _ => none

def routeCode (routeType : Text) : Text :=
  if routeType = "TRANSPORT_FLOOD".toList then "F".toList
  else if routeType = "FLOOD".toList then "F".toList
  else if routeType = "DIRECT".toList then "D".toList
  else if routeType = "TRANSPORT_DIRECT".toList then "T".toList
  else "U".toList

structure CapturedPacket where
  origin : Text
  originId : Text
  timestamp : Text
  type : Text
  direction : Text
  len : Text
  packetType : Text
  route : Text
  payloadLen : Nat
  raw : Text
  snr : Text
  rssi : Text
  hash : Text
  deriving DecidableEq, Repr

def decodePacket (runtime : CaptureRuntime) (event : NormalizedEvent)
    (observer : ObserverIdentity) : Option CapturedPacket :=
  let frameBytes := Text.bytesOfHex event.frameHex
  (runtime.fromBytes frameBytes).map fun packet =>
    { origin := observer.origin
      originId := runtime.mapping.toUpperCase observer.originId
      timestamp := event.receivedAt
      type := "PACKET".toList
      direction := "rx".toList
      len := Text.ofInt frameBytes.length
      packetType := Text.ofInt packet.payloadType
      route := routeCode packet.routeType
      payloadLen := packet.payload.length
      raw := event.frameHex
      snr := runtime.numberText event.snr
      rssi := runtime.numberText event.rssi
      hash :=
        calculatePacketHash runtime.sha256 packet.payloadType packet.pathLen packet.payload }

/-- The packet `handleRawPacket(rawPush)` emits, if any. -/
def capturePacket (runtime : CaptureRuntime) (observer : Option ObserverIdentity)
    (receivedAt : Text) (push : RawPush) : Option CapturedPacket :=
  match normalizedEvent receivedAt push with
  | none => none
  | some normalized =>
      match observer with
      | none => none
      | some observer => decodePacket runtime normalized observer

namespace CapturedPacket

def json (packet : CapturedPacket) : Json :=
  .object
    (.cons "origin".toList (.string packet.origin)
      (.cons "origin_id".toList (.string packet.originId)
        (.cons "timestamp".toList (.string packet.timestamp)
          (.cons "type".toList (.string packet.type)
            (.cons "direction".toList (.string packet.direction)
              (.cons "len".toList (.string packet.len)
                (.cons "packet_type".toList (.string packet.packetType)
                  (.cons "route".toList (.string packet.route)
                    (.cons "payload_len".toList (.number packet.payloadLen 0)
                      (.cons "raw".toList (.string packet.raw)
                        (.cons "SNR".toList (.string packet.snr)
                          (.cons "RSSI".toList (.string packet.rssi)
                            (.cons "hash".toList (.string packet.hash) .nil)))))))))))))

end CapturedPacket

/-- A message as it is handed to the client of a broker. -/
structure Publication where
  topic : Text
  payload : Text
  retain : Bool
  deriving DecidableEq, Repr

/-- The message of `publishPacket(packet)`. -/
def packetPublication (iata : Text) (packet : CapturedPacket) : Except Text Publication :=
  (resolveTopic packetsTopicTemplate (topicVars iata packet.originId)).map fun topic =>
    { topic, payload := packet.json.text, retain := false }

def readText (name : Text) (members : Members) : Option Text :=
  match members.get? name with
  | some (.string value) => some value
  | _ => none

def readCount (name : Text) (members : Members) : Option Nat :=
  match members.get? name with
  | some (.number value 0) => value.toNat?
  | _ => none

/-- What a subscriber reads in the payload of a message. -/
def readPacket (payload : Text) : Option CapturedPacket :=
  match parse payload with
  | some (.object members) => do
      let origin ← readText "origin".toList members
      let originId ← readText "origin_id".toList members
      let timestamp ← readText "timestamp".toList members
      let type ← readText "type".toList members
      let direction ← readText "direction".toList members
      let len ← readText "len".toList members
      let packetType ← readText "packet_type".toList members
      let route ← readText "route".toList members
      let payloadLen ← readCount "payload_len".toList members
      let raw ← readText "raw".toList members
      let snr ← readText "SNR".toList members
      let rssi ← readText "RSSI".toList members
      let hash ← readText "hash".toList members
      return { origin, originId, timestamp, type, direction, len, packetType, route, payloadLen,
               raw, snr, rssi, hash }
  | _ => none

/-- A subscriber reads the packet that was written. -/
theorem readPacket_text (packet : CapturedPacket) : readPacket packet.json.text = some packet := by
  have count : (packet.payloadLen : Int).toNat? = some packet.payloadLen := rfl
  rw [readPacket, parse_text]
  simp [CapturedPacket.json, readText, readCount, Members.get?, count]

section Captured

variable {runtime : CaptureRuntime} {observer : Option ObserverIdentity} {receivedAt : Text}
  {push : RawPush} {packet : CapturedPacket}

/-- What is normalized has the form that is checked, so that the numbers and the time decide. -/
theorem normalizedEvent_eq_some {event : NormalizedEvent} :
    normalizedEvent receivedAt push = some event ↔
      receivedAt ≠ [] ∧ ∃ snr rssi, push.lastSnr = some snr ∧ push.lastRssi = some rssi ∧
        event = { receivedAt, snr, rssi, frameHex := Text.upperHex push.raw } := by
  rcases push with ⟨lastSnr, lastRssi, raw⟩
  cases lastSnr with
  | none => simp [normalizedEvent]
  | some snr =>
      cases lastRssi with
      | none => simp [normalizedEvent]
      | some rssi =>
          simp [normalizedEvent, NormalizedEvent.SchemaValid, Text.isHexPairs_upperHex, eq_comm]

/-- The pipeline that is counted is the pipeline that is captured. -/
theorem isSome_capturePacket (timed : receivedAt ≠ []) :
    (capturePacket runtime observer receivedAt push).isSome =
      (PacketPipeline.handleRawPacket runtime.fromBytes observer push).isSome := by
  rcases push with ⟨lastSnr, lastRssi, raw⟩
  cases lastSnr with
  | none => simp [capturePacket, normalizedEvent, PacketPipeline.handleRawPacket,
      normalizeRawPacketEvent]
  | some snr =>
      cases lastRssi with
      | none => simp [capturePacket, normalizedEvent, PacketPipeline.handleRawPacket,
          normalizeRawPacketEvent]
      | some rssi =>
          have normalized : normalizedEvent receivedAt ⟨some snr, some rssi, raw⟩ =
              some { receivedAt, snr, rssi, frameHex := Text.upperHex raw } :=
            normalizedEvent_eq_some.mpr ⟨timed, snr, rssi, rfl, rfl, rfl⟩
          cases observer with
          | none => simp [capturePacket, normalized, PacketPipeline.handleRawPacket,
              normalizeRawPacketEvent]
          | some observer =>
              simp [capturePacket, normalized, decodePacket, PacketPipeline.handleRawPacket,
                normalizeRawPacketEvent, Text.bytesOfHex_upperHex]

/-- What a captured packet says about the push and about the packet in its frame. -/
structure Captures (runtime : CaptureRuntime) (observer : ObserverIdentity) (receivedAt : Text)
    (push : RawPush) (frame : Packet) (packet : CapturedPacket) : Prop where
  timed : receivedAt ≠ []
  parsed : runtime.fromBytes push.raw = some frame
  raw : Text.bytesOfHex packet.raw = push.raw
  origin : packet.origin = observer.origin
  originId : packet.originId = runtime.mapping.toUpperCase observer.originId
  timestamp : packet.timestamp = receivedAt
  snr : push.lastSnr.map runtime.numberText = some packet.snr
  rssi : push.lastRssi.map runtime.numberText = some packet.rssi
  len : packet.len = Text.ofInt push.raw.length
  packetType : packet.packetType = Text.ofInt frame.payloadType
  route : packet.route = routeCode frame.routeType
  payloadLen : packet.payloadLen = frame.payload.length
  hash : packet.hash =
    calculatePacketHash runtime.sha256 frame.payloadType frame.pathLen frame.payload

theorem capturePacket_eq_some (captured : capturePacket runtime observer receivedAt push =
    some packet) :
    ∃ identity frame, observer = some identity ∧
      Captures runtime identity receivedAt push frame packet := by
  simp only [capturePacket] at captured
  cases normalized : normalizedEvent receivedAt push with
  | none =>
      rw [normalized] at captured
      cases captured
  | some event =>
      rw [normalized] at captured
      rcases normalizedEvent_eq_some.mp normalized with ⟨timed, snr, rssi, snrSome, rssiSome, rfl⟩
      cases observer with
      | none => cases captured
      | some identity =>
          rcases Option.map_eq_some_iff.mp captured with ⟨frame, parsed, rfl⟩
          simp only [Text.bytesOfHex_upperHex] at parsed
          refine ⟨identity, frame, rfl, ?_⟩
          constructor <;> simp [timed, parsed, snrSome, rssiSome, Text.bytesOfHex_upperHex]

end Captured

section Hash

variable {sha256 : List UInt8 → List UInt8}

/-- The bytes that are hashed. -/
def hashInput (payloadType pathLen : Nat) (payload : List UInt8) : List UInt8 :=
  let traced := if payloadType = payloadTypeTrace then
    [UInt8.ofNat pathLen, UInt8.ofNat (pathLen / 256)] else []
  UInt8.ofNat payloadType :: traced ++ payload

/-- Two hashes agree where the first eight bytes of the digests do. -/
theorem calculatePacketHash_eq_iff {payloadType pathLen otherType otherLen : Nat}
    {payload other : List UInt8} :
    calculatePacketHash sha256 payloadType pathLen payload =
        calculatePacketHash sha256 otherType otherLen other ↔
      (sha256 (hashInput payloadType pathLen payload)).take 8 =
        (sha256 (hashInput otherType otherLen other)).take 8 := by
  have hashed (payloadType pathLen : Nat) (payload : List UInt8) :
      calculatePacketHash sha256 payloadType pathLen payload =
        Text.upperHex ((sha256 (hashInput payloadType pathLen payload)).take 8) := by
    rw [calculatePacketHash, Text.upperHex_eq, Text.upperHex_eq]
    exact Text.take_hexPairs _ 8 _
  rw [hashed, hashed]
  constructor
  · intro same
    have bytes := congrArg Text.bytesOfHex same
    rwa [Text.bytesOfHex_upperHex, Text.bytesOfHex_upperHex] at bytes
  · intro same
    rw [same]

theorem ofNat_injective {first second : Nat} (firstSmall : first < 256) (secondSmall : second < 256)
    (same : UInt8.ofNat first = UInt8.ofNat second) : first = second := by
  have values := congrArg UInt8.toNat same
  simp only [UInt8.toNat_ofNat'] at values
  omega

/-- What is hashed determines the type and the payload, and the length of the path of a trace. -/
theorem hashInput_eq_iff {payloadType pathLen otherType otherLen : Nat}
    {payload other : List UInt8} (typeSmall : payloadType < 256) (lenSmall : pathLen < 65536)
    (otherTypeSmall : otherType < 256) (otherLenSmall : otherLen < 65536) :
    hashInput payloadType pathLen payload = hashInput otherType otherLen other ↔
      payloadType = otherType ∧ payload = other ∧
        (payloadType = payloadTypeTrace → pathLen = otherLen) := by
  constructor
  · intro same
    simp only [hashInput, List.cons_append, List.cons.injEq] at same
    rcases same with ⟨first, rest⟩
    have types := ofNat_injective typeSmall otherTypeSmall first
    subst otherType
    by_cases traced : payloadType = payloadTypeTrace
    · simp only [traced, if_true, List.cons_append, List.nil_append, List.cons.injEq] at rest
      rcases rest with ⟨low, high, payloads⟩
      have lows := congrArg UInt8.toNat low
      have highs := congrArg UInt8.toNat high
      simp only [UInt8.toNat_ofNat'] at lows highs
      exact ⟨rfl, payloads, fun _ => by omega⟩
    · simp only [traced, if_false, List.nil_append] at rest
      exact ⟨rfl, rest, fun trace => absurd trace traced⟩
  · rintro ⟨rfl, rfl, lens⟩
    by_cases traced : payloadType = payloadTypeTrace
    · rw [lens traced]
    · simp [hashInput, traced]

end Hash

end MeshcoreObserver
