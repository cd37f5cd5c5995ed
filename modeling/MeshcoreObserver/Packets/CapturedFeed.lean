import MeshcoreObserver.Bots.OwnReplies
import MeshcoreObserver.Mqtt.MqttBroker
import MeshcoreObserver.Packets.PacketCapture
import Mathlib.Data.List.Forall2

/-!
# The captured feed

The observer from the radio to its brokers: every packet that is heard is captured and
published to the brokers that are connected. In the feed of a broker there is one
message for every valid packet that was heard while the broker took messages, in the
order in which they were heard; a packet that is heard again is published again.
-/

namespace MeshcoreObserver

open Transition

/-- A broker with the messages that were handed to its client. `client` tells whether it has one. -/
structure FeedBroker where
  state : BrokerState
  client : Bool
  feed : List Publication
  deriving DecidableEq, Repr

/-- A raw push as it was heard, and whether each of the brokers took messages then. -/
structure HeardPush where
  observer : Option ObserverIdentity
  receivedAt : Text
  push : RawPush
  taking : List Bool
  deriving DecidableEq, Repr

structure CapturedFeed where
  observer : Option ObserverIdentity
  brokers : List FeedBroker
  heard : List HeardPush
  deriving DecidableEq, Repr

inductive FeedEvent where
  | deviceInfo (observer : Option ObserverIdentity)
  | brokerChanges (position : Nat) (state : BrokerState) (client : Bool)
  | radioPacket (receivedAt : Text) (push : RawPush)

namespace FeedBroker

/-- Neither a broker that is not connected nor one without a client is handed a message. -/
def takes (broker : FeedBroker) : Bool := broker.state = .connected && broker.client

def publish (broker : FeedBroker) (publication : Publication) : FeedBroker :=
  if broker.takes then { broker with feed := broker.feed ++ [publication] } else broker

end FeedBroker

namespace CapturedFeed

def new (states : List BrokerState) : CapturedFeed :=
  { observer := none
    brokers := states.map fun state => { state, client := false, feed := [] }
    heard := [] }

/-- The message for a push, where the pipeline emits a packet and its topic resolves. -/
def publication (runtime : CaptureRuntime) (iata : Text) (observer : Option ObserverIdentity)
    (receivedAt : Text) (push : RawPush) : Option Publication :=
  match capturePacket runtime observer receivedAt push with
  | none => none
  | some packet => (packetPublication iata packet).toOption

/-- The listeners of `radio.packet` and `packet` that publish. -/
def radioPacket (runtime : CaptureRuntime) (iata : Text) (feed : CapturedFeed) (receivedAt : Text)
    (push : RawPush) : CapturedFeed :=
  { feed with
    brokers :=
      match publication runtime iata feed.observer receivedAt push with
      | none => feed.brokers
      | some publication => feed.brokers.map fun broker => broker.publish publication
    heard :=
      feed.heard ++
        [{ observer := feed.observer
           receivedAt
           push
           taking := feed.brokers.map FeedBroker.takes }] }

def step (runtime : CaptureRuntime) (iata : Text) (feed : CapturedFeed) :
    FeedEvent → Option CapturedFeed
  | .deviceInfo observer => some { feed with observer }
  | .brokerChanges position state client =>
      some
        { feed with
          brokers := feed.brokers.modify position fun broker => { broker with state, client } }
  | .radioPacket receivedAt push => some (feed.radioPacket runtime iata receivedAt push)

end CapturedFeed

def feedSystem (runtime : CaptureRuntime) (iata : Text) : EventSystem CapturedFeed FeedEvent where
  Initial feed := ∃ states, feed = .new states
  step := CapturedFeed.step runtime iata

namespace HeardPush

variable {runtime : CaptureRuntime} {iata : Text}

/-- A push with its numbers, of a device with a key, whose frame is parsed. -/
def valid (runtime : CaptureRuntime) (heard : HeardPush) : Bool :=
  heard.receivedAt ≠ [] && heard.push.lastSnr.isSome && heard.push.lastRssi.isSome &&
    (heard.observer.any fun identity => runtime.mapping.toUpperCase identity.originId ≠ []) &&
    (runtime.fromBytes heard.push.raw).isSome

/-- The broker in this position took messages. -/
def takenBy (position : Nat) (heard : HeardPush) : Bool := heard.taking.getD position false

/-- What a message tells of the push it was published for. -/
def ReportedBy (runtime : CaptureRuntime) (iata : Text) (heard : HeardPush)
    (publication : Publication) : Prop :=
  ∃ identity frame packet, heard.observer = some identity ∧
    readPacket publication.payload = some packet ∧
    Captures runtime identity heard.receivedAt heard.push frame packet ∧
    publication.topic =
      deviceTopic iata (runtime.mapping.toUpperCase identity.originId) "/packets".toList ∧
    publication.retain = false

theorem valid_iff {heard : HeardPush} : heard.valid runtime = true ↔
    heard.receivedAt ≠ [] ∧ heard.push.lastSnr.isSome ∧ heard.push.lastRssi.isSome ∧
      (∃ identity, heard.observer = some identity ∧
        runtime.mapping.toUpperCase identity.originId ≠ []) ∧
      (runtime.fromBytes heard.push.raw).isSome := by
  simp [valid, Option.any_eq_true, and_assoc]

/-- A message that is published reports its push. -/
theorem reportedBy_of_publication (heard : HeardPush) (coded : iata ≠ [])
    {publication : Publication}
    (published : CapturedFeed.publication runtime iata heard.observer heard.receivedAt heard.push =
      some publication) :
    heard.valid runtime = true ∧ heard.ReportedBy runtime iata publication := by
  cases captured : capturePacket runtime heard.observer heard.receivedAt heard.push with
  | none => simp [CapturedFeed.publication, captured] at published
  | some packet =>
      simp only [CapturedFeed.publication, captured, packetPublication] at published
      rcases capturePacket_eq_some captured with ⟨identity, frame, observed, captures⟩
      have timed := captures.timed
      have keyed : packet.originId ≠ [] := by
        intro keyless
        rw [keyless, resolveTopic_packets_keyless coded] at published
        cases published
      rw [resolveTopic_packets coded keyed] at published
      cases published
      constructor
      · rw [valid_iff]
        rcases Option.map_eq_some_iff.mp captures.snr with ⟨snr, snrSome, _⟩
        rcases Option.map_eq_some_iff.mp captures.rssi with ⟨rssi, rssiSome, _⟩
        rw [captures.originId] at keyed
        simp [timed, snrSome, rssiSome, observed, keyed, captures.parsed]
      · refine ⟨identity, frame, packet, observed, readPacket_text packet, captures, ?_, rfl⟩
        rw [captures.originId]

/-- A valid push is published. -/
theorem publication_of_valid (heard : HeardPush) (coded : iata ≠ [])
    (isValid : heard.valid runtime = true) :
    ∃ publication, CapturedFeed.publication runtime iata heard.observer heard.receivedAt
      heard.push = some publication := by
  rcases valid_iff.mp isValid with ⟨timed, snr, rssi, ⟨identity, observed, keyed⟩, parsed⟩
  have captured : (capturePacket runtime heard.observer heard.receivedAt heard.push).isSome := by
    rw [isSome_capturePacket timed, PacketPipeline.handleRawPacket, normalizeRawPacketEvent,
      if_pos ⟨snr, rssi⟩, observed]
    exact parsed
  rcases Option.isSome_iff_exists.mp captured with ⟨packet, packetSome⟩
  rcases capturePacket_eq_some packetSome with ⟨own, frame, ownObserved, captures⟩
  cases observed.symm.trans ownObserved
  have key : packet.originId ≠ [] := by
    rw [captures.originId]
    exact keyed
  simp [CapturedFeed.publication, packetSome, packetPublication, resolveTopic_packets coded key,
    Except.map, Except.toOption]

end HeardPush

namespace CapturedFeed

variable {runtime : CaptureRuntime} {iata : Text} {feed after : CapturedFeed} {event : FeedEvent}

/-- The pushes that the broker in this position is to report. -/
def reportable (runtime : CaptureRuntime) (feed : CapturedFeed) (position : Nat) :
    List HeardPush :=
  feed.heard.filter fun heard => heard.takenBy position && heard.valid runtime

/-- One message for every push that is to be reported, in their order. -/
def Reports (runtime : CaptureRuntime) (iata : Text) (feed : CapturedFeed) : Prop :=
  ∀ position broker, feed.brokers[position]? = some broker →
    List.Forall₂ (fun publication heard => HeardPush.ReportedBy runtime iata heard publication)
      broker.feed (feed.reportable runtime position)

theorem reports_new (states : List BrokerState) : Reports runtime iata (.new states) := by
  intro position broker found
  rcases List.mem_map.mp (List.mem_of_getElem? found) with ⟨state, _, rfl⟩
  exact .nil

theorem Reports.radioPacket (reports : feed.Reports runtime iata) (coded : iata ≠ [])
    (receivedAt : Text) (push : RawPush) :
    (feed.radioPacket runtime iata receivedAt push).Reports runtime iata := by
  intro position broker found
  let heard : HeardPush :=
    { observer := feed.observer
      receivedAt
      push
      taking := feed.brokers.map FeedBroker.takes }
  have reportable : (feed.radioPacket runtime iata receivedAt push).reportable runtime position =
      feed.reportable runtime position ++
        if heard.takenBy position && heard.valid runtime then [heard] else [] := by
    simp only [CapturedFeed.reportable, CapturedFeed.radioPacket, List.filter_append,
      List.filter_cons, List.filter_nil]
    rfl
  rw [reportable]
  cases published : publication runtime iata feed.observer receivedAt push with
  | none =>
      have invalid : heard.valid runtime = false := by
        by_contra valid
        rcases heard.publication_of_valid coded (by simpa using valid) with ⟨publication, some⟩
        cases published.symm.trans some
      simp only [CapturedFeed.radioPacket, published] at found
      simpa [invalid] using reports position broker found
  | some publication =>
      have reported := heard.reportedBy_of_publication coded published
      simp only [CapturedFeed.radioPacket, published, List.getElem?_map,
        Option.map_eq_some_iff] at found
      rcases found with ⟨former, formerFound, rfl⟩
      have taken : heard.takenBy position = former.takes := by
        simp [heard, HeardPush.takenBy, formerFound]
      rw [taken, reported.1, Bool.and_true, FeedBroker.publish]
      have earlier := reports position former formerFound
      cases former.takes with
      | true => exact List.rel_append earlier (.cons reported.2 .nil)
      | false => simpa using earlier

theorem Reports.step (reports : feed.Reports runtime iata) (coded : iata ≠ [])
    (stepped : feed.step runtime iata event = some after) : after.Reports runtime iata := by
  cases event with
  | deviceInfo observer =>
      cases stepped
      exact reports
  | brokerChanges changed state client =>
      cases stepped
      intro position broker found
      cases formerFound : feed.brokers[position]? with
      | none => simp [List.getElem?_modify, formerFound] at found
      | some former =>
          simp only [List.getElem?_modify, formerFound, Option.map_eq_map, Option.map_some,
            Option.some.injEq] at found
          subst broker
          have earlier := reports position former formerFound
          split
          · exact earlier
          · exact earlier
  | radioPacket receivedAt push =>
      cases stepped
      exact reports.radioPacket coded receivedAt push

/--
In the feed of a broker there is one message for every valid push that was heard while it
took messages, and its subscriber reads in it what was heard.
-/
theorem reports_what_is_heard (coded : iata ≠ [])
    (reachable : (feedSystem runtime iata).Reachable feed) : feed.Reports runtime iata := by
  refine reachable.invariant ?_ ?_
  · rintro initial ⟨states, rfl⟩
    exact reports_new states
  · intro before event after reports _ stepped
    exact reports.step coded stepped

/-- The frame of a text, and the same text behind a hop. -/
def greeting : List UInt8 := [0x09, 0x00, 0x68, 0x69]

def relayedGreeting : List UInt8 := [0x09, 0x01, 0xAA, 0x68, 0x69]

/-- A runtime that behaves as the real one does on the greetings. -/
def greetingRuntime : CaptureRuntime where
  fromBytes := parseFrame
  sha256 input :=
    if input = [0x02, 0x68, 0x69] then
      [0x76, 0xA9, 0xB7, 0x5C, 0xFB, 0xD6, 0xB4, 0xF1, 0x0E, 0xA0, 0xA7, 0xCF, 0xD0, 0xF1, 0x70,
        0xC7, 0x20, 0xF0, 0x92, 0xCA, 0xCD, 0x4E, 0x1E, 0xE7, 0x5C, 0x13, 0x7F, 0x03, 0xD0, 0x88,
        0xB5, 0xDE]
    else []
  numberText value := Text.ofInt value.num
  mapping := .asciiOnly

/-- A greeting that comes twice, the second time by a relay and to two brokers. -/
def greetings : List FeedEvent :=
  [.radioPacket "2026-10-01T12:00:00.000Z".toList ⟨some 5, some (-90), greeting⟩,
    .deviceInfo (some ⟨"Hilltop".toList, "ab12".toList⟩), .brokerChanges 0 .connected true,
    .radioPacket "2026-10-01T12:00:01.000Z".toList ⟨some 5, some (-90), greeting⟩,
    .brokerChanges 1 .connected true,
    .radioPacket "2026-10-01T12:00:02.000Z".toList ⟨some 5, none, greeting⟩,
    .radioPacket "2026-10-01T12:00:03.000Z".toList ⟨some 4, some (-95), relayedGreeting⟩]

theorem isSome_greetings :
    ((feedSystem greetingRuntime "OKC".toList).run EventSystem.anyStep
      (.new [.connecting, .connecting]) greetings).isSome := by
  decide +kernel

theorem reports_what_is_heard_of_greetings :
    ∃ feed : CapturedFeed, feed.brokers.map (fun broker => broker.feed.length) = [2, 1] ∧
      feed.Reports greetingRuntime "OKC".toList := by
  have initial : (feedSystem greetingRuntime "OKC".toList).Initial
      (.new [.connecting, .connecting]) := ⟨_, rfl⟩
  have reachable := EventSystem.reachableWhen_get initial isSome_greetings
  exact ⟨_, by decide +kernel, reports_what_is_heard (by decide) reachable⟩

end CapturedFeed

/-- What the parser makes of a frame fits into the bytes that are hashed. -/
def CaptureRuntime.Bounded (runtime : CaptureRuntime) : Prop :=
  ∀ bytes packet, runtime.fromBytes bytes = some packet →
    packet.payloadType < 256 ∧ packet.pathLen < 65536

/-- The same packet, whatever its route. -/
def Packet.Same (packet other : Packet) : Prop :=
  packet.payloadType = other.payloadType ∧ packet.payload = other.payload ∧
    (packet.payloadType = payloadTypeTrace → packet.pathLen = other.pathLen)

instance (packet other : Packet) : Decidable (packet.Same other) := by
  unfold Packet.Same
  infer_instance

/-- The first eight bytes of the digests of these two packets tell them apart. -/
def Packet.Apart (sha256 : List UInt8 → List UInt8) (packet other : Packet) : Prop :=
  let input := hashInput packet.payloadType packet.pathLen packet.payload
  let otherInput := hashInput other.payloadType other.pathLen other.payload
  (sha256 input).take 8 = (sha256 otherInput).take 8 → input = otherInput

/--
Two messages have the same hash exactly when they report the same packet, by whatever
route and whenever it was heard.
-/
theorem hash_eq_iff_same {runtime : CaptureRuntime} {iata : Text} {heard other : HeardPush}
    {publication otherPublication : Publication} {frame otherFrame : Packet}
    (bounded : runtime.Bounded) (apart : frame.Apart runtime.sha256 otherFrame)
    (parsed : runtime.fromBytes heard.push.raw = some frame)
    (otherParsed : runtime.fromBytes other.push.raw = some otherFrame)
    (reported : heard.ReportedBy runtime iata publication)
    (otherReported : other.ReportedBy runtime iata otherPublication) :
    (readPacket publication.payload).map CapturedPacket.hash =
        (readPacket otherPublication.payload).map CapturedPacket.hash ↔
      frame.Same otherFrame := by
  rcases reported with ⟨identity, own, packet, _, read, captures, _⟩
  rcases otherReported with ⟨otherIdentity, otherOwn, otherPacket, _, otherRead, otherCaptures, _⟩
  cases parsed.symm.trans captures.parsed
  cases otherParsed.symm.trans otherCaptures.parsed
  rcases bounded _ _ parsed with ⟨typeSmall, lenSmall⟩
  rcases bounded _ _ otherParsed with ⟨otherTypeSmall, otherLenSmall⟩
  have inputs : hashInput frame.payloadType frame.pathLen frame.payload =
      hashInput otherFrame.payloadType otherFrame.pathLen otherFrame.payload ↔
        frame.Same otherFrame :=
    hashInput_eq_iff typeSmall lenSmall otherTypeSmall otherLenSmall
  rw [read, otherRead, Option.map_some, Option.map_some, Option.some.injEq, captures.hash,
    otherCaptures.hash, calculatePacketHash_eq_iff]
  constructor
  · intro same
    exact inputs.mp (apart same)
  · intro same
    rw [inputs.mpr same]

section Greetings

theorem parsePath_bounded {payloadType : Nat} {routeType : Text} {bytes : List UInt8}
    {packet : Packet} (parsed : parsePath payloadType routeType bytes = some packet) :
    packet.payloadType = payloadType ∧ packet.pathLen < 256 := by
  cases bytes with
  | nil => cases parsed
  | cons pathLen bytes =>
      simp only [parsePath, Option.ite_none_left_eq_some, Option.some.injEq] at parsed
      rcases parsed with ⟨_, rfl⟩
      exact ⟨rfl, pathLen.toNat_lt⟩

theorem bounded_greetingRuntime : CapturedFeed.greetingRuntime.Bounded := by
  intro bytes packet parsed
  cases bytes with
  | nil => cases parsed
  | cons header bytes =>
      have path : ∃ routeType rest,
          parsePath (header.toNat / 4 % 16) routeType rest = some packet := by
        simp only [CapturedFeed.greetingRuntime, parseFrame] at parsed
        split at parsed
        · exact ⟨_, _, parsed⟩
        · exact ⟨_, _, parsed⟩
        · exact ⟨_, _, parsed⟩
        · exact ⟨_, _, parsed⟩
      rcases path with ⟨routeType, rest, own⟩
      have small := parsePath_bounded own
      omega

def heardGreeting (receivedAt : Text) (frame : List UInt8) : HeardPush where
  observer := some ⟨"Hilltop".toList, "ab12".toList⟩
  receivedAt
  push := ⟨some 5, some (-90), frame⟩
  taking := [true]

def greetingPacket (pathHashes : List (List UInt8)) : Packet where
  payloadType := 2
  routeType := "FLOOD".toList
  pathLen := pathHashes.length
  pathHashCount := pathHashes.length
  pathHashes
  payload := [0x68, 0x69]

theorem valid_heardGreeting :
    (heardGreeting "12:00".toList CapturedFeed.greeting).valid CapturedFeed.greetingRuntime = true ∧
      (heardGreeting "12:01".toList CapturedFeed.relayedGreeting).valid
        CapturedFeed.greetingRuntime = true := by
  decide +kernel

theorem hash_eq_iff_same_of_greetings :
    ∃ publication relayed,
      (heardGreeting "12:00".toList CapturedFeed.greeting).ReportedBy
          CapturedFeed.greetingRuntime "OKC".toList publication ∧
        (heardGreeting "12:01".toList CapturedFeed.relayedGreeting).ReportedBy
          CapturedFeed.greetingRuntime "OKC".toList relayed ∧
        (readPacket publication.payload).map CapturedPacket.hash =
          (readPacket relayed.payload).map CapturedPacket.hash := by
  have coded : "OKC".toList ≠ [] := by decide
  rcases HeardPush.publication_of_valid _ coded valid_heardGreeting.1 with
    ⟨publication, published⟩
  rcases HeardPush.publication_of_valid _ coded valid_heardGreeting.2 with ⟨relayed, again⟩
  have reported := (HeardPush.reportedBy_of_publication _ coded published).2
  have relayedReported := (HeardPush.reportedBy_of_publication _ coded again).2
  refine ⟨publication, relayed, reported, relayedReported, ?_⟩
  have parsed : CapturedFeed.greetingRuntime.fromBytes
      (heardGreeting "12:00".toList CapturedFeed.greeting).push.raw =
        some (greetingPacket []) := by decide
  have relayedParsed : CapturedFeed.greetingRuntime.fromBytes
      (heardGreeting "12:01".toList CapturedFeed.relayedGreeting).push.raw =
        some (greetingPacket [[0xAA]]) := by decide
  have apart : (greetingPacket []).Apart CapturedFeed.greetingRuntime.sha256
      (greetingPacket [[0xAA]]) := fun _ => rfl
  exact (hash_eq_iff_same bounded_greetingRuntime apart parsed relayedParsed reported
    relayedReported).mpr (by decide)

end Greetings

end MeshcoreObserver
