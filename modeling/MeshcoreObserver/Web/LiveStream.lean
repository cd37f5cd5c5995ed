import MeshcoreObserver.EventStream
import MeshcoreObserver.Json.PrintedJson
import MeshcoreObserver.Text
import MeshcoreObserver.Transition.EventSystem

/-!
# The live stream

`MetricsServer` from its start to its stop, as far as `/api/metrics/stream` is
concerned. A request is answered with the snapshot of that moment, and its response
is registered; every sample of the sampler is written to the registered responses.

A page dispatches the snapshot it was answered with and every sample since then,
once and in order. A page whose connection has ended has dispatched the first of
them, wherever the connection broke off.

A server that is closed still answers the requests of the connections it has. A
response to such a late request is registered with nobody to write to it, until
the next start or stop; its page dispatches some of the samples.
-/

namespace MeshcoreObserver

open JsonText Transition

inductive ServerStage where
  | closed
  | starting
  | listening
  deriving DecidableEq, Repr

/-- A response to a request for the stream. Its `joined` first samples are older than it is; it is
`late` when it is answered while no server listens. -/
structure StreamClient where
  number : Nat
  late : Bool
  first : Option Json
  joined : Nat
  written : Text
  ended : Bool
  gone : Bool
  deriving DecidableEq

/-- The server with its sampler, which has `listeners` for its samples. Once a server has listened
there may be connections. -/
structure LiveStream where
  sampler : Bool
  server : ServerStage
  listened : Bool
  onSample : Bool
  listeners : Nat
  samples : List Json
  requests : Nat
  sseClients : List StreamClient
  removed : List StreamClient
  deriving DecidableEq

inductive LiveEvent where
  | start
  | listening
  | startFails
  | stop
  /-- A request for the stream. `none` is a snapshot that throws, and so may the write. -/
  | request (snapshot : Option Json) (writes : Bool)
  /-- A tick of the sampler. The writes to the `broken` responses throw. -/
  | sample (snapshot : Json) (broken : List Nat)
  /-- `close` or `error` of a response. -/
  | gone (number : Nat)

def payload (snapshot : Json) : Text := EventStream.message snapshot.text

namespace LiveStream

def new (sampler : Bool) : LiveStream :=
  { sampler
    server := .closed
    listened := false
    onSample := false
    listeners := 0
    samples := []
    requests := 0
    sseClients := []
    removed := [] }

def start (stream : LiveStream) : LiveStream :=
  if stream.server ≠ .closed then stream
  else if stream.sampler then
    { stream with server := .starting, onSample := true, listeners := stream.listeners + 1 }
  else { stream with server := .starting }

def stop (stream : LiveStream) : LiveStream :=
  { stream with
    server := .closed
    onSample := false
    listeners := if stream.onSample then stream.listeners - 1 else stream.listeners
    sseClients := []
    removed := stream.removed ++ stream.sseClients.map fun client => { client with ended := true } }

/-- `#handleStream` in `#handleRequest`, which ends a response whose handler has thrown. -/
def handleStream (stream : LiveStream) (snapshot : Option Json) (writes : Bool) : LiveStream :=
  let client : StreamClient :=
    { number := stream.requests
      late := stream.server ≠ .listening
      first := none
      joined := stream.samples.length
      written := []
      ended := false
      gone := false }
  let thrown :=
    { stream with
      requests := stream.requests + 1
      removed := stream.removed ++ [{ client with ended := true }] }
  match snapshot with
  | none => thrown
  | some snapshot =>
      if writes then
        { stream with
          requests := stream.requests + 1
          sseClients :=
            stream.sseClients ++
              [{ client with first := some snapshot, written := payload snapshot }] }
      else thrown

/-- `sseClients.delete(res)` for the responses which have failed. -/
def delete (stream : LiveStream) (failed : Nat → Bool) : LiveStream :=
  { stream with
    sseClients := stream.sseClients.filter fun client => !failed client.number
    removed :=
      stream.removed ++
        (stream.sseClients.filter fun client => failed client.number).map fun client =>
          { client with gone := true } }

def broadcastSnapshot (stream : LiveStream) (snapshot : Json) (broken : List Nat) : LiveStream :=
  let kept := stream.delete broken.contains
  { kept with
    sseClients :=
      kept.sseClients.map fun client =>
        { client with written := client.written ++ payload snapshot } }

/-- The listeners for the sample are called one after the other. -/
def emit (snapshot : Json) (broken : List Nat) : Nat → LiveStream → LiveStream
  | 0, stream => stream
  | listeners + 1, stream =>
      emit snapshot broken listeners (stream.broadcastSnapshot snapshot broken)

def step (stream : LiveStream) : LiveEvent → Option LiveStream
  | .start => some stream.start
  | .listening =>
      if stream.server = .starting then
        some { stream with server := .listening, listened := true }
      else none
  | .startFails =>
      if stream.server = .starting then some { stream with server := .closed } else none
  | .stop => some stream.stop
  | .request snapshot writes =>
      if stream.listened then some (stream.handleStream snapshot writes) else none
  | .sample snapshot broken =>
      if stream.sampler then
        some
          { emit snapshot broken stream.listeners stream with
            samples := stream.samples ++ [snapshot] }
      else none
  | .gone number => some (stream.delete fun other => other = number)

/--
A start that has failed is not repeated without a stop in between, since its listener
stays with the sampler, and a start under way is not stopped.
-/
def Orderly (stream : LiveStream) : LiveEvent → Prop
  | .start => stream.server = .closed → stream.onSample = false
  | .stop => stream.server ≠ .starting
  | _ => True

instance (stream : LiveStream) (event : LiveEvent) : Decidable (stream.Orderly event) := by
  cases event <;> unfold Orderly <;> infer_instance

def liveSystem : EventSystem LiveStream LiveEvent where
  Initial stream := ∃ sampler, stream = .new sampler
  step := step

end LiveStream

namespace StreamClient

/-- The snapshot of the answer, and the samples since then. -/
def owed (client : StreamClient) (samples : List Json) : List Json :=
  client.first.toList ++ samples.drop client.joined

/-- Some of what is owed has been written, in its order, and from its beginning unless the response
is late. -/
def Sent (client : StreamClient) (samples : List Json) : Prop :=
  client.joined ≤ samples.length ∧
    ∃ snapshots, snapshots.Sublist (client.owed samples) ∧
      (client.late = false → snapshots <+: client.owed samples) ∧
      client.written = snapshots.flatMap payload

/-- All of what is owed has been written, or some of it if the response is late. -/
def UpToDate (client : StreamClient) (samples : List Json) : Prop :=
  client.joined ≤ samples.length ∧
    ∃ snapshots, snapshots.Sublist (client.owed samples) ∧
      (client.late = false → snapshots = client.owed samples) ∧
      client.written = snapshots.flatMap payload

variable {client : StreamClient} {samples : List Json}

theorem owed_append (joined : client.joined ≤ samples.length) (snapshot : Json) :
    client.owed (samples ++ [snapshot]) = client.owed samples ++ [snapshot] := by
  simp [owed, List.drop_append_of_le_length joined]

theorem UpToDate.sent (upToDate : client.UpToDate samples) : client.Sent samples := by
  rcases upToDate with ⟨joined, snapshots, some, all, written⟩
  exact ⟨joined, snapshots, some, fun prompt => all prompt ▸ List.prefix_rfl, written⟩

theorem Sent.append (sent : client.Sent samples) (snapshot : Json) :
    client.Sent (samples ++ [snapshot]) := by
  rcases sent with ⟨joined, snapshots, some, first, written⟩
  refine ⟨by simp; omega, snapshots, ?_, fun prompt => ?_, written⟩
  · rw [owed_append joined]
    exact some.trans (List.sublist_append_left _ _)
  · rw [owed_append joined]
    exact (first prompt).trans (List.prefix_append _ _)

theorem UpToDate.append (upToDate : client.UpToDate samples) (snapshot : Json) :
    { client with written := client.written ++ payload snapshot }.UpToDate
      (samples ++ [snapshot]) := by
  rcases upToDate with ⟨joined, snapshots, some, all, written⟩
  have owed := client.owed_append joined snapshot
  refine ⟨by simp; omega, snapshots ++ [snapshot], ?_, fun prompt => ?_, ?_⟩
  · simp only [StreamClient.owed] at owed some ⊢
    rw [owed]
    exact some.append (List.Sublist.refl _)
  · have every := all prompt
    simp only [StreamClient.owed] at owed every ⊢
    rw [owed, every]
  · rw [List.flatMap_append, written, List.flatMap_singleton]

/-- A sample that nobody writes is missed by late responses only. -/
theorem UpToDate.missed (upToDate : client.UpToDate samples) (late : client.late = true)
    (snapshot : Json) : client.UpToDate (samples ++ [snapshot]) := by
  rcases upToDate with ⟨joined, snapshots, some, _, written⟩
  refine ⟨by simp; omega, snapshots, ?_, fun prompt => ?_, written⟩
  · rw [owed_append joined]
    exact some.trans (List.sublist_append_left _ _)
  · rw [late] at prompt
    cases prompt

end StreamClient

namespace LiveStream

variable {stream after : LiveStream} {event : LiveEvent}

structure Delivering (stream : LiveStream) : Prop where
  listeners : stream.listeners = if stream.onSample then 1 else 0
  subscribed : stream.server ≠ .closed → stream.onSample = stream.sampler
  closed : stream.server ≠ .listening → ∀ client ∈ stream.sseClients, client.late = true
  registered : ∀ client ∈ stream.sseClients, client.UpToDate stream.samples
  removed : ∀ client ∈ stream.removed,
    client.Sent stream.samples ∧ (client.ended = true ∨ client.gone = true)

theorem delivering_new (sampler : Bool) : Delivering (.new sampler) := by
  constructor <;> simp [new]

theorem Delivering.start (delivering : stream.Delivering)
    (orderly : stream.server = .closed → stream.onSample = false) :
    stream.start.Delivering := by
  simp only [LiveStream.start]
  split
  · exact delivering
  · rename_i closed
    have closed : stream.server = .closed := not_not.mp closed
    have unsubscribed := orderly closed
    have late := delivering.closed (by simp [closed])
    have listeners := delivering.listeners
    split
    · rename_i sampler
      constructor
      · simp [listeners, unsubscribed]
      · simp [sampler]
      · exact fun _ => late
      · exact delivering.registered
      · exact delivering.removed
    · rename_i sampler
      constructor
      · exact listeners
      · simp [unsubscribed, sampler]
      · exact fun _ => late
      · exact delivering.registered
      · exact delivering.removed

theorem Delivering.stop (delivering : stream.Delivering) : stream.stop.Delivering := by
  have listeners := delivering.listeners
  constructor
  · cases subscribed : stream.onSample with
    | true => simp [LiveStream.stop, subscribed, listeners]
    | false => simp [LiveStream.stop, subscribed, listeners]
  · simp [LiveStream.stop]
  · simp [LiveStream.stop]
  · simp [LiveStream.stop]
  · intro client mem
    rcases List.mem_append.mp mem with earlier | ended
    · exact delivering.removed client earlier
    · rcases List.mem_map.mp ended with ⟨registered, registeredMem, rfl⟩
      exact ⟨(delivering.registered registered registeredMem).sent, .inl rfl⟩

theorem Delivering.handleStream (delivering : stream.Delivering) (snapshot : Option Json)
    (writes : Bool) : (stream.handleStream snapshot writes).Delivering := by
  have thrown : ∀ client ∈ stream.removed ++
      [({ number := stream.requests, late := stream.server ≠ .listening, first := none
          joined := stream.samples.length, written := [], ended := true
          gone := false } : StreamClient)],
      client.Sent stream.samples ∧ (client.ended = true ∨ client.gone = true) := by
    intro client mem
    rcases List.mem_append.mp mem with earlier | new
    · exact delivering.removed client earlier
    · rw [List.mem_singleton.mp new]
      exact ⟨⟨Nat.le_refl _, [], List.nil_sublist _, fun _ => List.nil_prefix, rfl⟩, .inl rfl⟩
  cases snapshot with
  | none =>
      exact ⟨delivering.listeners, delivering.subscribed, delivering.closed, delivering.registered,
        thrown⟩
  | some snapshot =>
      cases writes with
      | false =>
          exact ⟨delivering.listeners, delivering.subscribed, delivering.closed,
            delivering.registered, thrown⟩
      | true =>
          constructor
          · exact delivering.listeners
          · exact delivering.subscribed
          · intro closed client mem
            rcases List.mem_append.mp mem with earlier | new
            · exact delivering.closed closed client earlier
            · rw [List.mem_singleton.mp new]
              exact decide_eq_true closed
          · intro client mem
            rcases List.mem_append.mp mem with earlier | new
            · exact delivering.registered client earlier
            · rw [List.mem_singleton.mp new]
              refine ⟨Nat.le_refl _, [snapshot], ?_, fun _ => ?_, ?_⟩
              · simp [StreamClient.owed, LiveStream.handleStream]
              · simp [StreamClient.owed, LiveStream.handleStream]
              · rw [List.flatMap_singleton]
          · exact delivering.removed

theorem Delivering.delete (delivering : stream.Delivering) (failed : Nat → Bool) :
    (stream.delete failed).Delivering := by
  constructor
  · exact delivering.listeners
  · exact delivering.subscribed
  · intro closed client mem
    exact delivering.closed closed client (List.mem_filter.mp mem).1
  · intro client mem
    exact delivering.registered client (List.mem_filter.mp mem).1
  · intro client mem
    rcases List.mem_append.mp mem with earlier | deleted
    · exact delivering.removed client earlier
    · rcases List.mem_map.mp deleted with ⟨registered, registeredMem, rfl⟩
      have upToDate := delivering.registered registered (List.mem_filter.mp registeredMem).1
      exact ⟨upToDate.sent, .inr rfl⟩

/-- A sample is written once, since the sampler has at most one listener of the server. -/
theorem Delivering.sample (delivering : stream.Delivering) (sampler : stream.sampler = true)
    (snapshot : Json) (broken : List Nat) :
    Delivering
      { emit snapshot broken stream.listeners stream with
        samples := stream.samples ++ [snapshot] } := by
  have removed {clients : List StreamClient} (each : ∀ client ∈ clients,
      client.Sent stream.samples ∧ (client.ended = true ∨ client.gone = true)) :
      ∀ client ∈ clients, client.Sent (stream.samples ++ [snapshot]) ∧
        (client.ended = true ∨ client.gone = true) :=
    fun client mem => ⟨(each client mem).1.append snapshot, (each client mem).2⟩
  have listeners := delivering.listeners
  cases subscribed : stream.onSample with
  | true =>
      have kept := delivering.delete broken.contains
      rw [subscribed, if_pos rfl] at listeners
      rw [listeners]
      constructor
      · exact kept.listeners
      · exact kept.subscribed
      · intro closed client mem
        rcases List.mem_map.mp mem with ⟨earlier, earlierMem, rfl⟩
        exact kept.closed closed earlier earlierMem
      · intro client mem
        rcases List.mem_map.mp mem with ⟨earlier, earlierMem, rfl⟩
        exact (kept.registered earlier earlierMem).append snapshot
      · exact removed kept.removed
  | false =>
      have closed : stream.server = .closed := by
        by_contra runs
        have same := delivering.subscribed runs
        rw [subscribed, sampler] at same
        cases same
      have late := delivering.closed (by simp [closed])
      rw [subscribed] at listeners
      simp only [Bool.false_eq_true, if_false] at listeners
      rw [listeners]
      constructor
      · simp [emit, listeners, subscribed]
      · exact delivering.subscribed
      · exact delivering.closed
      · intro client mem
        exact (delivering.registered client mem).missed (late client mem) snapshot
      · exact removed delivering.removed

theorem Delivering.step (delivering : stream.Delivering) (orderly : stream.Orderly event)
    (stepped : stream.step event = some after) : after.Delivering := by
  cases event with
  | start =>
      cases stepped
      exact delivering.start orderly
  | listening =>
      simp only [LiveStream.step, Option.ite_none_right_eq_some, Option.some.injEq] at stepped
      rcases stepped with ⟨starting, rfl⟩
      have subscribed := delivering.subscribed (by simp [starting])
      exact ⟨delivering.listeners, fun _ => subscribed, fun closed => absurd rfl closed,
        delivering.registered, delivering.removed⟩
  | startFails =>
      simp only [LiveStream.step, Option.ite_none_right_eq_some, Option.some.injEq] at stepped
      rcases stepped with ⟨starting, rfl⟩
      have late := delivering.closed (by simp [starting])
      exact ⟨delivering.listeners, fun runs => absurd rfl runs, fun _ => late,
        delivering.registered, delivering.removed⟩
  | stop =>
      cases stepped
      exact delivering.stop
  | request snapshot writes =>
      simp only [LiveStream.step, Option.ite_none_right_eq_some, Option.some.injEq] at stepped
      rcases stepped with ⟨_, rfl⟩
      exact delivering.handleStream snapshot writes
  | sample snapshot broken =>
      simp only [LiveStream.step, Option.ite_none_right_eq_some, Option.some.injEq] at stepped
      rcases stepped with ⟨sampler, rfl⟩
      exact delivering.sample sampler snapshot broken
  | gone number =>
      cases stepped
      exact delivering.delete _

theorem delivering_of_reachable (reachable : liveSystem.ReachableWhen Orderly stream) :
    stream.Delivering := by
  refine reachable.invariant ?_ ?_
  · rintro initial ⟨sampler, rfl⟩
    exact delivering_new sampler
  · intro before event after delivering orderly stepped
    exact delivering.step orderly stepped

end LiveStream

/-- What a page parses of the messages which its event source dispatches. -/
def dispatched (text : Text) : List (Option Json) := (EventStream.messages text).map JsonText.parse

theorem flatMap_payload (snapshots : List Json) :
    snapshots.flatMap payload = (snapshots.map Json.text).flatMap EventStream.message := by
  rw [List.flatMap_map]
  rfl

theorem isLine_texts (snapshots : List Json) :
    ∀ text ∈ snapshots.map Json.text, EventStream.IsLine text := by
  intro text mem
  rcases List.mem_map.mp mem with ⟨snapshot, _, rfl⟩
  exact snapshot.not_break

theorem parse_texts (snapshots : List Json) :
    (snapshots.map Json.text).map JsonText.parse = snapshots.map some := by
  simp [JsonText.parse_text]

theorem dispatched_payloads (snapshots : List Json) :
    dispatched (snapshots.flatMap payload) = snapshots.map some := by
  rw [dispatched, flatMap_payload, EventStream.messages_flatMap (isLine_texts snapshots),
    parse_texts]

theorem dispatched_of_broken {snapshots : List Json} {text : Text}
    (received : text <+: snapshots.flatMap payload) :
    dispatched text <+: snapshots.map some := by
  rw [flatMap_payload] at received
  have first := EventStream.messages_of_broken (isLine_texts snapshots) received
  rw [dispatched, ← parse_texts]
  exact first.map JsonText.parse

/-- Late or not, a page dispatches nothing twice and nothing that is not owed to it. -/
theorem StreamClient.Sent.sublist {client : StreamClient} {samples : List Json}
    (sent : client.Sent samples) {text : Text} (received : text <+: client.written) :
    (dispatched text).Sublist ((client.owed samples).map some) := by
  rcases sent with ⟨_, snapshots, some, _, written⟩
  rw [written] at received
  exact (dispatched_of_broken received).sublist.trans (some.map _)

theorem StreamClient.Sent.dispatched {client : StreamClient} {samples : List Json}
    (sent : client.Sent samples) (prompt : client.late = false) {text : Text}
    (received : text <+: client.written) :
    dispatched text <+: (client.owed samples).map some := by
  rcases sent with ⟨_, snapshots, _, first, written⟩
  rw [written] at received
  exact (dispatched_of_broken received).trans ((first prompt).map some)

namespace LiveStream

variable {stream : LiveStream}

/--
A page whose response is registered, and was answered while the server listened, is sent
what is owed to it. Whatever has been received of any such response, the page has
dispatched the first of what is owed; of a late response it has dispatched some of it, in
order. A response which is no longer registered has been ended or has failed, and only late
ones are registered where the server does not listen.
-/
theorem dispatches_samples (reachable : liveSystem.ReachableWhen Orderly stream) :
    (∀ client ∈ stream.sseClients, client.late = false →
      dispatched client.written = (client.owed stream.samples).map some) ∧
      (∀ client ∈ stream.sseClients ++ stream.removed, ∀ text, text <+: client.written →
        (dispatched text).Sublist ((client.owed stream.samples).map some) ∧
          (client.late = false → dispatched text <+: (client.owed stream.samples).map some)) ∧
      (∀ client ∈ stream.removed, client.ended = true ∨ client.gone = true) ∧
      (stream.server ≠ .listening → ∀ client ∈ stream.sseClients, client.late = true) := by
  have delivering := delivering_of_reachable reachable
  have sent : ∀ client ∈ stream.sseClients ++ stream.removed, client.Sent stream.samples := by
    intro client mem
    rcases List.mem_append.mp mem with registered | removed
    · exact (delivering.registered client registered).sent
    · exact (delivering.removed client removed).1
  refine ⟨?_, ?_, ?_, delivering.closed⟩
  · intro client mem prompt
    rcases delivering.registered client mem with ⟨_, snapshots, _, all, written⟩
    rw [written, all prompt]
    exact dispatched_payloads _
  · intro client mem text received
    exact ⟨(sent client mem).sublist received,
      fun prompt => (sent client mem).dispatched prompt received⟩
  · intro client mem
    exact (delivering.removed client mem).2

/-- Two pages, the second of which comes between two samples, and its connection fails. A third one
comes after the stop, and stays over the next start. -/
def threePages : List LiveEvent :=
  [.start, .listening, .request (some (.number 1 0)) true, .sample (.string ['\n']) [],
    .request (some (.number 2 0)) true, .sample (.bool true) [1], .sample .null [], .stop,
    .request (some (.number 3 0)) true, .sample (.bool false) [], .start, .listening,
    .request (some (.number 4 0)) true, .sample .null []]

theorem isSome_threePages : (liveSystem.run Orderly (.new true) threePages).isSome := by
  decide +kernel

theorem dispatches_samples_of_threePages :
    ∃ stream : LiveStream, stream.sseClients.map StreamClient.late = [true, false] ∧
      stream.removed.length = 2 ∧
      (∀ client ∈ stream.sseClients, client.late = false →
        dispatched client.written = (client.owed stream.samples).map some) ∧
      (∀ client ∈ stream.sseClients ++ stream.removed, ∀ text, text <+: client.written →
        (dispatched text).Sublist ((client.owed stream.samples).map some) ∧
          (client.late = false → dispatched text <+: (client.owed stream.samples).map some)) := by
  have initial : liveSystem.Initial (.new true) := ⟨true, rfl⟩
  have reachable := EventSystem.reachableWhen_get initial isSome_threePages
  have dispatches := dispatches_samples reachable
  exact ⟨_, by decide +kernel, by decide +kernel, dispatches.1, dispatches.2.1⟩

end LiveStream

end MeshcoreObserver
