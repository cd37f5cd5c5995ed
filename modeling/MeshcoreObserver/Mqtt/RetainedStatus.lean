import MeshcoreObserver.Mqtt.ObserverPresence

/-!
# The retained status

The status a broker keeps tells the truth: it is not online when the session has
ended, and it is online when the client is connected and its messages have
arrived. After the shutdown it is offline, provided that no broker connects once
this was announced, and that the radio is still the one the observer reports.
-/

namespace MeshcoreObserver

open Counting Transition

namespace Presence

variable {mapping : CaseMapping} {iata : Text} {presence after : Presence} {event : PresenceEvent}

/-- What the broker keeps under the topic when all these messages have arrived. -/
def finalStatus (topic : Text) (retained : List (Text × ObserverStatus))
    (wire : List StatusMessage) : Option ObserverStatus :=
  wire.foldl (fun status message => if message.topic = topic then some message.status else status)
    (find? topic retained)

section Final

variable {topic : Text} {retained : List (Text × ObserverStatus)} {wire : List StatusMessage}

theorem finalStatus_nil : finalStatus topic retained [] = find? topic retained := rfl

theorem finalStatus_cons (message : StatusMessage) :
    finalStatus topic retained (message :: wire) =
      finalStatus topic (update message.topic (fun _ => message.status) retained) wire := by
  simp only [finalStatus, List.foldl_cons, find?_update]
  by_cases same : message.topic = topic
  · simp [same]
  · simp [same, Ne.symm same]

theorem finalStatus_append (message : StatusMessage) :
    finalStatus topic retained (wire ++ [message]) =
      if message.topic = topic then some message.status else finalStatus topic retained wire := by
  simp only [finalStatus, List.foldl_append, List.foldl_cons, List.foldl_nil]

end Final

/-- No retained status says online. -/
def NobodyOnline (presence : Presence) : Prop :=
  ∀ topic, find? topic presence.retained ≠ some .online

/-- The process has not told the brokers yet that it is offline. -/
def Up (presence : Presence) : Prop := presence.stage = .running ∨ presence.stage = .stopping

/-- The observer reports the device that its will is about, or none. -/
def OwnTopic (mapping : CaseMapping) (iata : Text) (presence : Presence) : Prop :=
  presence.reported = none ∧ presence.will = none ∨
    ∃ publicKey topic, presence.reported = some publicKey ∧
      statusTopic mapping iata publicKey = .ok topic ∧ presence.will = some topic

structure Linked (mapping : CaseMapping) (iata : Text) (presence : Presence) : Prop where
  own : presence.OwnTopic mapping iata
  unstarted : presence.mqttStarted = false → presence.will = none
  linked : presence.opened = true ∨ presence.session = true ∨ presence.connected = true ∨
    presence.acknowledged = true → presence.will ≠ none
  published : ∀ message ∈ presence.published, message.status = .online →
    presence.will = some message.topic
  wire : ∀ message ∈ presence.wire, message ∈ presence.published
  kept : ∀ message ∈ presence.kept, message ∈ presence.published
  retained : ∀ topic, find? topic presence.retained = some .online → presence.will = some topic
  ended : presence.session = false → presence.stage ≠ .closed → presence.NobodyOnline
  farewell : presence.farewell = true → presence.stage = .closed

structure Lawful (mapping : CaseMapping) (iata : Text) (presence : Presence) : Prop
    extends Linked mapping iata presence where
  online : presence.connected = true → presence.session = true → presence.Up →
    ∀ topic ∈ presence.will, finalStatus topic presence.retained presence.wire = some .online

theorem lawful_started {retained : List (Text × ObserverStatus)}
    (nobody : ∀ topic, find? topic retained ≠ some .online) :
    Lawful mapping iata (started retained) where
  own := .inl ⟨rfl, rfl⟩
  unstarted _ := rfl
  linked := by simp [started]
  published := by simp [started]
  wire := by simp [started]
  kept := by simp [started]
  retained topic online := absurd online (nobody topic)
  ended _ _ := nobody
  farewell := by simp [started]
  online := by simp [started]

/-- Where a will is left, nobody is online. -/
theorem nobodyOnline_loseSession (retained : ∀ topic,
      find? topic presence.retained = some .online → presence.will = some topic)
    (will : presence.will ≠ none) : presence.loseSession.NobodyOnline := by
  intro topic online
  cases own : presence.will with
  | none => exact will own
  | some willTopic =>
      simp only [loseSession, own, find?_update] at online
      split at online
      · cases online
      · rename_i other
        have same := retained topic online
        rw [own] at same
        exact other (Option.some.inj same).symm

theorem Linked.loseSession (linked : Linked mapping iata presence)
    (session : presence.session = true) : Linked mapping iata presence.loseSession := by
  have nobody := nobodyOnline_loseSession linked.retained (linked.linked (.inr (.inl session)))
  constructor
  · exact linked.own
  · exact linked.unstarted
  · rintro (opened | ended | connected | acknowledged)
    · exact linked.linked (.inl opened)
    · cases ended
    · exact linked.linked (.inr (.inr (.inl connected)))
    · exact linked.linked (.inr (.inr (.inr acknowledged)))
  · exact linked.published
  · intro message messageMem
    cases messageMem
  · exact linked.kept
  · intro topic online
    exact absurd online (nobody topic)
  · exact fun _ _ => nobody
  · intro farewell
    cases farewell

/-- What a report of the observer adds. -/
theorem reportOnline_cases (own : presence.OwnTopic mapping iata) :
    presence.reportOnline mapping iata = presence ∧
        (presence.connected = false ∨ presence.will = none) ∨
      presence.connected = true ∧ ∃ topic, presence.will = some topic ∧
        presence.reportOnline mapping iata =
          { presence with
            published := presence.published ++ [⟨topic, .online⟩]
            wire := presence.wire ++ [⟨topic, .online⟩] } := by
  rcases own with ⟨unreported, will⟩ | ⟨publicKey, topic, reported, resolved, will⟩
  · refine .inl ⟨?_, .inr will⟩
    rw [reportOnline, unreported]
  · cases connected : presence.connected with
    | false =>
        refine .inl ⟨?_, .inl rfl⟩
        simp [reportOnline, reported, publishStatus, resolved, connected]
    | true =>
        refine .inr ⟨rfl, topic, will, ?_⟩
        simp [reportOnline, reported, publishStatus, resolved, connected]

/-- A message of the observer about its own topic. -/
theorem Linked.publish (linked : Linked mapping iata presence) {topic : Text}
    (own : presence.will = some topic) (status : ObserverStatus) :
    Linked mapping iata
      { presence with
        published := presence.published ++ [⟨topic, status⟩]
        wire := presence.wire ++ [⟨topic, status⟩] } := by
  constructor
  · exact linked.own
  · exact linked.unstarted
  · exact linked.linked
  · intro message messageMem online
    rcases List.mem_append.mp messageMem with old | new
    · exact linked.published message old online
    · cases List.mem_singleton.mp new
      exact own
  · intro message messageMem
    rcases List.mem_append.mp messageMem with old | new
    · exact List.mem_append_left _ (linked.wire message old)
    · exact List.mem_append_right _ new
  · exact fun message messageMem => List.mem_append_left _ (linked.kept message messageMem)
  · exact linked.retained
  · exact linked.ended
  · exact linked.farewell

/-- A report of the observer is the last word, if it is connected. -/
theorem Linked.reportOnline (linked : Linked mapping iata presence) :
    Lawful mapping iata (presence.reportOnline mapping iata) := by
  rcases reportOnline_cases linked.own with ⟨same, silent⟩ | ⟨_, topic, will, told⟩
  · rw [same]
    refine ⟨linked, ?_⟩
    intro connected _ _ topic topicMem
    rcases silent with apart | unknown
    · rw [apart] at connected
      cases connected
    · rw [unknown] at topicMem
      cases topicMem
  · rw [told]
    refine ⟨linked.publish will .online, ?_⟩
    intro _ _ _ own ownMem
    simp only [will, Option.mem_some] at ownMem
    simp [finalStatus_append, ownMem]

theorem Lawful.radioReady (lawful : Lawful mapping iata presence) (publicKey : Text) :
    Lawful mapping iata (presence.radioReady mapping iata publicKey) := by
  cases started : presence.mqttStarted with
  | true => simpa [Presence.radioReady, started] using lawful
  | false =>
      have unknown := lawful.unstarted started
      have silent (message : StatusMessage) (messageMem : message ∈ presence.published) :
          message.status ≠ .online := by
        intro online
        have will := lawful.published message messageMem online
        rw [unknown] at will
        cases will
      have nobody : presence.NobodyOnline := by
        intro topic online
        have will := lawful.retained topic online
        rw [unknown] at will
        cases will
      have apart : presence.connected = false := by
        by_contra connected
        exact lawful.linked (.inr (.inr (.inl (by simpa using connected)))) unknown
      cases resolved : statusTopic mapping iata publicKey with
      | error message =>
          simp only [Presence.radioReady, started, resolved]
          exact ⟨⟨lawful.own, fun _ => unknown, lawful.linked, lawful.published, lawful.wire,
            lawful.kept, lawful.retained, lawful.ended, lawful.farewell⟩, lawful.online⟩
      | ok topic =>
          simp only [Presence.radioReady, started, resolved]
          refine ⟨⟨.inr ⟨publicKey, topic, rfl, resolved, rfl⟩, ?_, ?_, ?_, lawful.wire,
            lawful.kept, ?_, lawful.ended, lawful.farewell⟩, ?_⟩
          · intro unstarted
            cases unstarted
          · intro _ none
            cases none
          · intro message messageMem online
            exact absurd online (silent message messageMem)
          · intro other online
            exact absurd online (nobody other)
          · intro connected
            rw [apart] at connected
            cases connected

theorem dropSession_keeps (presence : Presence) :
    presence.dropSession.connected = presence.connected ∧
      presence.dropSession.will = presence.will ∧
        presence.dropSession.stage = presence.stage := by
  rw [dropSession]
  split
  · exact ⟨rfl, rfl, rfl⟩
  · exact ⟨rfl, rfl, rfl⟩

theorem Linked.dropSession (linked : Linked mapping iata presence) :
    Linked mapping iata presence.dropSession := by
  rw [Presence.dropSession]
  split
  · rename_i session
    exact linked.loseSession session
  · exact linked

theorem Lawful.accept (lawful : Lawful mapping iata presence)
    (opened : presence.opened = true) (apart : presence.connected = false) :
    Lawful mapping iata presence.accept := by
  have dropped := lawful.dropSession
  rcases dropSession_keeps presence with ⟨connection, willSame, _⟩
  refine ⟨⟨dropped.own, dropped.unstarted, ?_, dropped.published, ?_, dropped.kept,
    dropped.retained, ?_, dropped.farewell⟩, ?_⟩
  · intro _ none
    exact lawful.linked (.inl opened) (willSame.symm.trans none)
  · intro message messageMem
    cases messageMem
  · intro ended
    cases ended
  · intro connected
    have same := connection.symm.trans connected
    rw [apart] at same
    cases same

theorem Lawful.connect (lawful : Lawful mapping iata presence)
    (acknowledged : presence.acknowledged = true) :
    Lawful mapping iata (presence.connect mapping iata) := by
  have will := lawful.linked (.inr (.inr (.inr acknowledged)))
  apply Linked.reportOnline
  refine ⟨lawful.own, lawful.unstarted, fun _ => will, lawful.published, ?_, ?_, lawful.retained,
    lawful.ended, lawful.farewell⟩
  · intro message messageMem
    rcases List.mem_append.mp messageMem with sent | kept
    · exact lawful.wire message sent
    · exact lawful.kept message kept
  · intro message messageMem
    cases messageMem

/-- A message about being offline, under whatever topic. -/
theorem Linked.publishOffline (linked : Linked mapping iata presence) (topic : Text) :
    Linked mapping iata
      { presence with
        published := presence.published ++ [⟨topic, .offline⟩]
        wire := presence.wire ++ [⟨topic, .offline⟩] } := by
  refine ⟨linked.own, linked.unstarted, linked.linked, ?_, ?_, ?_, linked.retained, linked.ended,
    linked.farewell⟩
  · intro message messageMem online
    rcases List.mem_append.mp messageMem with old | new
    · exact linked.published message old online
    · cases List.mem_singleton.mp new
      cases online
  · intro message messageMem
    rcases List.mem_append.mp messageMem with old | new
    · exact List.mem_append_left _ (linked.wire message old)
    · exact List.mem_append_right _ new
  · exact fun message messageMem => List.mem_append_left _ (linked.kept message messageMem)

/-- The observer says that it is offline, unless this reaches nobody. -/
theorem announce_cases (others : Bool) :
    presence.announce mapping iata others = { presence with stage := .announced } ∧
        (presence.connected = false ∨ ∀ publicKey topic, presence.device = some publicKey →
          statusTopic mapping iata publicKey ≠ .ok topic) ∨
      ∃ publicKey topic, presence.device = some publicKey ∧
        statusTopic mapping iata publicKey = .ok topic ∧
          presence.announce mapping iata others =
            { presence with
              stage := .announced
              published := presence.published ++ [⟨topic, .offline⟩]
              wire := presence.wire ++ [⟨topic, .offline⟩] } := by
  cases known : presence.device with
  | none => exact .inl ⟨by simp [announce, known], .inr (by simp)⟩
  | some publicKey =>
      cases resolved : statusTopic mapping iata publicKey with
      | error message =>
          refine .inl ⟨by simp [announce, known, publishStatus, resolved], .inr ?_⟩
          rintro _ topic ⟨⟩ found
          rw [resolved] at found
          cases found
      | ok topic =>
          cases connected : presence.connected with
          | false =>
              exact .inl ⟨by simp [announce, known, publishStatus, resolved, connected], .inl rfl⟩
          | true =>
              refine .inr ⟨publicKey, topic, rfl, resolved, ?_⟩
              simp [announce, known, publishStatus, resolved, connected]

theorem Lawful.announce (lawful : Lawful mapping iata presence)
    (stopping : presence.stage = .stopping) (others : Bool) :
    Lawful mapping iata (presence.announce mapping iata others) := by
  have unclosed : presence.stage ≠ .closed := by
    rw [stopping]
    decide
  have announced : Linked mapping iata { presence with stage := .announced } :=
    ⟨lawful.own, lawful.unstarted, lawful.linked, lawful.published, lawful.wire, lawful.kept,
      lawful.retained, fun ended _ => lawful.ended ended unclosed,
      fun farewell => absurd (lawful.farewell farewell) unclosed⟩
  have silenced (later : Presence) (stage : later.stage = .announced) : ¬later.Up := by
    simp [Up, stage]
  rcases announce_cases others with ⟨same, _⟩ | ⟨publicKey, topic, _, _, told⟩
  · rw [same]
    exact ⟨announced, fun _ _ up => absurd up (silenced _ rfl)⟩
  · rw [told]
    exact ⟨announced.publishOffline topic, fun _ _ up => absurd up (silenced _ rfl)⟩

theorem Lawful.close (lawful : Lawful mapping iata presence) :
    Lawful mapping iata presence.close := by
  refine ⟨⟨lawful.own, lawful.unstarted, ?_, lawful.published, lawful.wire, lawful.kept,
    lawful.retained, fun _ unclosed => absurd rfl unclosed, fun _ => rfl⟩, ?_⟩
  · rintro (opened | session | connected | acknowledged)
    · cases opened
    · exact lawful.linked (.inr (.inl session))
    · cases connected
    · cases acknowledged
  · intro connected
    cases connected

theorem Lawful.arrive (lawful : Lawful mapping iata presence) {message : StatusMessage}
    {wire : List StatusMessage} (session : presence.session = true)
    (sent : presence.wire = message :: wire) :
    Lawful mapping iata
      { presence with
        wire
        retained := update message.topic (fun _ => message.status) presence.retained } := by
  refine ⟨⟨lawful.own, lawful.unstarted, lawful.linked, lawful.published, ?_, lawful.kept, ?_, ?_,
    lawful.farewell⟩, ?_⟩
  · intro other otherMem
    apply lawful.wire
    rw [sent]
    exact List.mem_cons_of_mem _ otherMem
  · intro topic online
    simp only [find?_update] at online
    split at online
    · rename_i same
      rw [same]
      apply lawful.published message
      · apply lawful.wire
        rw [sent]
        exact List.mem_cons_self
      · exact Option.some.inj online
    · exact lawful.retained topic online
  · intro ended
    have ceased : presence.session = false := ended
    rw [session] at ceased
    cases ceased
  · intro connected _ up topic topicMem
    have final := lawful.online connected session up topic topicMem
    rwa [sent, finalStatus_cons] at final

theorem Lawful.step (lawful : Lawful mapping iata presence)
    (stepped : presence.step mapping iata event = some after) : Lawful mapping iata after := by
  cases event with
  | identified publicKey =>
      cases stepped
      exact ⟨⟨lawful.own, lawful.unstarted, lawful.linked, lawful.published, lawful.wire,
        lawful.kept, lawful.retained, lawful.ended, lawful.farewell⟩, lawful.online⟩
  | radioConnected =>
      rcases Option.map_eq_some_iff.mp stepped with ⟨publicKey, _, ready⟩
      rw [← ready]
      exact lawful.radioReady publicKey
  | accepted =>
      simp only [Presence.step, Option.ite_none_right_eq_some, Option.some.injEq] at stepped
      rcases stepped with ⟨⟨opened, apart, _⟩, rfl⟩
      exact lawful.accept opened apart
  | connects =>
      simp only [Presence.step, Option.ite_none_right_eq_some, Option.some.injEq] at stepped
      rcases stepped with ⟨acknowledged, rfl⟩
      exact lawful.connect acknowledged
  | otherConnects =>
      simp only [Presence.step, Option.ite_none_right_eq_some, Option.some.injEq] at stepped
      rcases stepped with ⟨_, rfl⟩
      exact lawful.reportOnline
  | arrives =>
      simp only [Presence.step] at stepped
      split at stepped
      · rename_i message wire session sent
        cases stepped
        exact lawful.arrive session sent
      · cases stepped
  | sessionLost =>
      simp only [Presence.step, Option.ite_none_right_eq_some, Option.some.injEq] at stepped
      rcases stepped with ⟨session, rfl⟩
      refine ⟨lawful.loseSession session, ?_⟩
      intro _ ceased
      cases ceased
  | connectionLost kept =>
      simp only [Presence.step, Option.ite_none_right_eq_some, Option.some.injEq] at stepped
      rcases stepped with ⟨⟨lost, known⟩, rfl⟩
      have will : presence.will ≠ none := by
        rcases lost with connected | acknowledged
        · exact lawful.linked (.inr (.inr (.inl connected)))
        · exact lawful.linked (.inr (.inr (.inr acknowledged)))
      refine ⟨⟨lawful.own, lawful.unstarted, fun _ => will, lawful.published, lawful.wire, ?_,
        lawful.retained, lawful.ended, lawful.farewell⟩, ?_⟩
      · intro message messageMem
        simpa using List.all_eq_true.mp known message messageMem
      · intro connected
        cases connected
  | farewellArrives =>
      simp only [Presence.step, Option.ite_none_right_eq_some, Option.some.injEq] at stepped
      rcases stepped with ⟨⟨session, farewell, _⟩, rfl⟩
      have closed := lawful.farewell farewell
      refine ⟨⟨lawful.own, lawful.unstarted, fun _ => lawful.linked (.inr (.inl session)),
        lawful.published, lawful.wire, lawful.kept, lawful.retained,
        fun _ unclosed => absurd closed unclosed, fun _ => closed⟩, ?_⟩
      intro _ ceased
      cases ceased
  | signal =>
      simp only [Presence.step, Option.ite_none_right_eq_some, Option.some.injEq] at stepped
      rcases stepped with ⟨running, rfl⟩
      have unclosed : presence.stage ≠ .closed := by
        rw [running]
        decide
      exact ⟨⟨lawful.own, lawful.unstarted, lawful.linked, lawful.published, lawful.wire,
        lawful.kept, lawful.retained, fun ended _ => lawful.ended ended unclosed,
        fun farewell => absurd (lawful.farewell farewell) unclosed⟩,
        fun connected session _ => lawful.online connected session (.inl running)⟩
  | announces others =>
      simp only [Presence.step, Option.ite_none_right_eq_some, Option.some.injEq] at stepped
      rcases stepped with ⟨stopping, rfl⟩
      exact lawful.announce stopping others
  | closes =>
      simp only [Presence.step, Option.ite_none_right_eq_some, Option.some.injEq] at stepped
      rcases stepped with ⟨_, rfl⟩
      exact lawful.close

theorem lawful_of_reachable {condition : Presence → PresenceEvent → Prop}
    (reachable : (presenceSystem mapping iata).ReachableWhen condition presence) :
    Lawful mapping iata presence := by
  apply reachable.invariant
  · rintro _ ⟨retained, nobody, rfl⟩
    exact lawful_started nobody
  · intro before event next lawful _ stepped
    exact lawful.step stepped

/-- As long as the shutdown is not announced, the retained status is online for the reported device
when the client is connected and all has arrived, and for no device once the session has ended. -/
theorem status_tells_truth (presence : Presence)
    (reachable : (presenceSystem mapping iata).Reachable presence) (up : presence.Up) :
    (presence.session = false → presence.NobodyOnline) ∧
      (presence.connected = true → presence.session = true → presence.wire = [] →
        ∃ publicKey topic, presence.reported = some publicKey ∧
          statusTopic mapping iata publicKey = .ok topic ∧
            ∀ other, find? other presence.retained = some .online ↔ other = topic) := by
  have lawful := lawful_of_reachable reachable
  constructor
  · intro ended
    apply lawful.ended ended
    rcases up with running | stopping
    · simp [running]
    · simp [stopping]
  · intro connected session arrived
    rcases lawful.own with ⟨_, unknown⟩ | ⟨publicKey, topic, reported, resolved, will⟩
    · exact absurd unknown (lawful.linked (.inr (.inl session)))
    · have final := lawful.online connected session up topic will
      rw [arrived, finalStatus_nil] at final
      refine ⟨publicKey, topic, reported, resolved, ?_⟩
      intro other
      constructor
      · intro online
        have own := lawful.retained other online
        rw [will] at own
        exact (Option.some.inj own).symm
      · rintro rfl
        exact final

/-- Once the shutdown is announced, no broker connects any more; and it is announced for the device
that is reported. -/
def Undisturbed (mapping : CaseMapping) (presence : Presence) : PresenceEvent → Prop
  | .connects => presence.Up
  | .otherConnects => presence.Up
  | .announces _ => ∀ publicKey ∈ presence.reported,
      presence.device.map mapping.toUpperCase = some (mapping.toUpperCase publicKey)
  | _ => True

instance decidableUndisturbed (mapping : CaseMapping) (presence : Presence) :
    (event : PresenceEvent) → Decidable (Undisturbed mapping presence event)
  | .connects => inferInstanceAs (Decidable (_ ∨ _))
  | .otherConnects => inferInstanceAs (Decidable (_ ∨ _))
  | .announces _ => inferInstanceAs (Decidable (∀ publicKey ∈ presence.reported, _ = some _))
  | .identified _ => isTrue trivial
  | .radioConnected => isTrue trivial
  | .accepted => isTrue trivial
  | .arrives => isTrue trivial
  | .sessionLost => isTrue trivial
  | .connectionLost _ => isTrue trivial
  | .farewellArrives => isTrue trivial
  | .signal => isTrue trivial
  | .closes => isTrue trivial

/-- What is under way will leave nobody online. -/
structure Settled (presence : Presence) : Prop where
  announced : presence.stage = .announced → presence.connected = true →
    presence.session = true → ∀ topic ∈ presence.will,
      finalStatus topic presence.retained presence.wire ≠ some .online
  farewell : presence.farewell = true → presence.session = true → ∀ topic ∈ presence.will,
    finalStatus topic presence.retained presence.wire ≠ some .online
  ceased : presence.stage = .closed → presence.session = false → presence.NobodyOnline

theorem settled_of_up (lawful : Lawful mapping iata presence) (up : presence.Up) :
    presence.Settled := by
  have unclosed : presence.stage ≠ .closed := by
    rcases up with running | stopping
    · simp [running]
    · simp [stopping]
  refine ⟨?_, fun farewell => absurd (lawful.farewell farewell) unclosed,
    fun closed => absurd closed unclosed⟩
  intro announced
  rcases up with running | stopping
  · simp [running] at announced
  · simp [stopping] at announced

theorem Settled.announce (lawful : Lawful mapping iata presence)
    (stopping : presence.stage = .stopping) (others : Bool)
    (same : ∀ publicKey ∈ presence.reported,
      presence.device.map mapping.toUpperCase = some (mapping.toUpperCase publicKey)) :
    (presence.announce mapping iata others).Settled := by
  have unclosed : presence.stage ≠ .closed := by simp [stopping]
  have ownTopic (topic : Text) (will : presence.will = some topic) :
      ∃ publicKey, presence.device = some publicKey ∧
        statusTopic mapping iata publicKey = .ok topic := by
    rcases lawful.own with ⟨_, unknown⟩ | ⟨reported, own, known, resolved, ownWill⟩
    · rw [unknown] at will
      cases will
    · rcases Option.map_eq_some_iff.mp (same reported known) with ⟨publicKey, device, upper⟩
      refine ⟨publicKey, device, ?_⟩
      rw [ownWill, Option.some.injEq] at will
      rw [statusTopic, upper, ← will]
      exact resolved
  rcases announce_cases others with ⟨told, silent⟩ | ⟨publicKey, topic, device, resolved, told⟩
  · rw [told]
    refine ⟨?_, fun farewell => absurd (lawful.farewell farewell) unclosed,
      fun closed => nomatch closed⟩
    intro _ connected _ topic will
    rcases ownTopic topic will with ⟨publicKey, device, resolved⟩
    rcases silent with apart | unresolved
    · have contrary : presence.connected = true := connected
      rw [apart] at contrary
      cases contrary
    · exact absurd resolved (unresolved publicKey topic device)
  · rw [told]
    refine ⟨?_, fun farewell => absurd (lawful.farewell farewell) unclosed,
      fun closed => nomatch closed⟩
    intro _ _ _ own will
    rcases ownTopic own will with ⟨ownKey, ownDevice, ownResolved⟩
    rw [device, Option.some.injEq] at ownDevice
    rw [← ownDevice, resolved, Except.ok.injEq] at ownResolved
    simp [finalStatus_append, ownResolved]

theorem stage_reportOnline (presence : Presence) :
    (presence.reportOnline mapping iata).stage = presence.stage := by
  rw [reportOnline]
  split
  · rfl
  · rw [publishStatus]
    split
    · rfl
    · split
      · rfl
      · rfl

/-- Before the first identified radio there is no connection. -/
theorem Settled.radioReady (settled : presence.Settled) (lawful : Lawful mapping iata presence)
    (publicKey : Text) : (presence.radioReady mapping iata publicKey).Settled := by
  simp only [Presence.radioReady]
  split
  · exact settled
  · rename_i unstarted
    have unlinked := mt lawful.linked (not_not.mpr (lawful.unstarted (by simpa using unstarted)))
    simp only [not_or, Bool.not_eq_true] at unlinked
    rcases unlinked with ⟨_, sessionless, apart, _⟩
    split
    · exact ⟨settled.announced, settled.farewell, settled.ceased⟩
    · refine ⟨?_, ?_, settled.ceased⟩
      · intro _ connected
        cases apart.symm.trans connected
      · intro _ session
        cases sessionless.symm.trans session

/-- A session of a client that was not told that it is connected says nothing. -/
theorem Settled.accept (settled : presence.Settled) (lawful : Lawful mapping iata presence)
    (apart : presence.connected = false) : presence.accept.Settled := by
  rcases dropSession_keeps presence with ⟨connection, _, _⟩
  refine ⟨?_, ?_, (fun _ ended => nomatch ended)⟩
  · intro _ connected
    cases apart.symm.trans (connection.symm.trans connected)
  · intro farewell _ topic _ online
    cases session : presence.session with
    | true => simp [Presence.accept, dropSession, session, loseSession] at farewell
    | false =>
        simp only [Presence.accept, dropSession, session, Bool.false_eq_true, if_false]
          at farewell online
        exact settled.ceased (lawful.farewell farewell) session topic online

theorem Settled.step (lawful : Lawful mapping iata presence) (settled : presence.Settled)
    (undisturbed : presence.Undisturbed mapping event)
    (stepped : presence.step mapping iata event = some after) : after.Settled := by
  have later := lawful.step stepped
  cases event with
  | identified publicKey =>
      cases stepped
      exact ⟨settled.announced, settled.farewell, settled.ceased⟩
  | radioConnected =>
      rcases Option.map_eq_some_iff.mp stepped with ⟨publicKey, _, rfl⟩
      exact settled.radioReady lawful publicKey
  | accepted =>
      simp only [Presence.step, Option.ite_none_right_eq_some, Option.some.injEq] at stepped
      rcases stepped with ⟨⟨_, apart, _⟩, rfl⟩
      exact settled.accept lawful apart
  | connects =>
      simp only [Presence.step, Option.ite_none_right_eq_some, Option.some.injEq] at stepped
      rcases stepped with ⟨_, rfl⟩
      have up : presence.Up := undisturbed
      apply settled_of_up later
      simpa only [Up, connect, stage_reportOnline] using up
  | otherConnects =>
      simp only [Presence.step, Option.ite_none_right_eq_some, Option.some.injEq] at stepped
      rcases stepped with ⟨_, rfl⟩
      have up : presence.Up := undisturbed
      apply settled_of_up later
      simpa only [Up, stage_reportOnline] using up
  | arrives =>
      simp only [Presence.step] at stepped
      split at stepped
      · rename_i message wire session sent
        cases stepped
        have final (topic : Text) : finalStatus topic
            (update message.topic (fun _ => message.status) presence.retained) wire =
              finalStatus topic presence.retained presence.wire := by
          rw [sent, finalStatus_cons]
        refine ⟨?_, ?_, ?_⟩
        · intro announced connected _ topic will
          rw [final]
          exact settled.announced announced connected session topic will
        · intro farewell _ topic will
          rw [final]
          exact settled.farewell farewell session topic will
        · intro _ ended
          have ceased : presence.session = false := ended
          rw [session] at ceased
          cases ceased
      · cases stepped
  | sessionLost =>
      simp only [Presence.step, Option.ite_none_right_eq_some, Option.some.injEq] at stepped
      rcases stepped with ⟨session, rfl⟩
      have will := lawful.linked (.inr (.inl session))
      exact ⟨(fun _ _ lost => nomatch lost), (fun lost => nomatch lost),
        fun _ _ => nobodyOnline_loseSession lawful.retained will⟩
  | connectionLost kept =>
      simp only [Presence.step, Option.ite_none_right_eq_some, Option.some.injEq] at stepped
      rcases stepped with ⟨_, rfl⟩
      exact ⟨(fun _ connected => nomatch connected), settled.farewell, settled.ceased⟩
  | farewellArrives =>
      simp only [Presence.step, Option.ite_none_right_eq_some, Option.some.injEq] at stepped
      rcases stepped with ⟨⟨session, farewell, arrived⟩, rfl⟩
      refine ⟨?_, ?_, ?_⟩
      · intro _ _ ceased
        cases ceased
      · intro left
        cases left
      · intro _ _ topic online
        have will := lawful.retained topic online
        apply settled.farewell farewell session topic will
        rw [arrived]
        exact online
  | signal =>
      simp only [Presence.step, Option.ite_none_right_eq_some, Option.some.injEq] at stepped
      rcases stepped with ⟨_, rfl⟩
      exact settled_of_up later (.inr rfl)
  | announces others =>
      simp only [Presence.step, Option.ite_none_right_eq_some, Option.some.injEq] at stepped
      rcases stepped with ⟨stopping, rfl⟩
      exact Settled.announce lawful stopping others undisturbed
  | closes =>
      simp only [Presence.step, Option.ite_none_right_eq_some, Option.some.injEq] at stepped
      rcases stepped with ⟨announced, rfl⟩
      have unclosed : presence.stage ≠ .closed := by simp [announced]
      exact ⟨(fun stage => nomatch stage), settled.announced announced,
        fun _ ended => lawful.ended ended unclosed⟩

/-- After the shutdown, nobody is online on a broker whose session has ended. -/
theorem offline_after_shutdown (presence : Presence)
    (reachable : (presenceSystem mapping iata).ReachableWhen (Undisturbed mapping) presence)
    (closed : presence.stage = .closed) (ended : presence.session = false) :
    presence.NobodyOnline := by
  have invariant : Lawful mapping iata presence ∧ presence.Settled := by
    apply reachable.invariant
    · rintro _ ⟨retained, nobody, rfl⟩
      have lawful : Lawful mapping iata (started retained) := lawful_started nobody
      exact ⟨lawful, settled_of_up lawful (.inl rfl)⟩
    · rintro before event next ⟨lawful, settled⟩ undisturbed stepped
      exact ⟨lawful.step stepped, settled.step lawful undisturbed stepped⟩
  exact invariant.2.ceased closed ended

def connectingEvents : List PresenceEvent :=
  [.identified "ab".toList, .radioConnected, .accepted, .connects, .arrives]

def leavingEvents : List PresenceEvent :=
  connectingEvents ++ [.signal, .announces false, .closes, .arrives, .farewellArrives]

theorem connecting_arrives :
    ((presenceSystem .asciiOnly "OKA".toList).run (Undisturbed .asciiOnly) (started [])
      connectingEvents).isSome = true := by
  decide

theorem leaving_arrives :
    ((presenceSystem .asciiOnly "OKA".toList).run (Undisturbed .asciiOnly) (started [])
      leavingEvents).isSome = true := by
  decide

theorem initial_started : (presenceSystem mapping iata).Initial (started []) :=
  ⟨[], by simp [find?], rfl⟩

def connectedOnce : Presence :=
  ((presenceSystem .asciiOnly "OKA".toList).run (Undisturbed .asciiOnly) (started [])
    connectingEvents).get connecting_arrives

def leftOnce : Presence :=
  ((presenceSystem .asciiOnly "OKA".toList).run (Undisturbed .asciiOnly) (started [])
    leavingEvents).get leaving_arrives

theorem status_tells_truth_of_connectedOnce :
    (connectedOnce.session = false → connectedOnce.NobodyOnline) ∧
      (connectedOnce.connected = true → connectedOnce.session = true → connectedOnce.wire = [] →
        ∃ publicKey topic, connectedOnce.reported = some publicKey ∧
          statusTopic .asciiOnly "OKA".toList publicKey = .ok topic ∧
            ∀ other, find? other connectedOnce.retained = some .online ↔ other = topic) := by
  have reachable : (presenceSystem .asciiOnly "OKA".toList).ReachableWhen _ connectedOnce :=
    EventSystem.reachableWhen_get initial_started connecting_arrives
  exact status_tells_truth connectedOnce (reachable.weaken fun _ _ _ => trivial)
    (.inl (by decide +kernel))

/-- A broker that connects between the two steps of the shutdown leaves the observer online. -/
example : ((presenceSystem .asciiOnly "OKA".toList).run EventSystem.anyStep (started [])
    (connectingEvents ++ [.signal, .announces false, .otherConnects, .closes, .arrives, .arrives,
      .farewellArrives])).map Presence.retained =
    some [("meshcore/OKA/AB/status".toList, .online)] := by
  decide

theorem offline_after_shutdown_of_leftOnce : leftOnce.NobodyOnline :=
  offline_after_shutdown leftOnce
    (EventSystem.reachableWhen_get initial_started leaving_arrives)
    (by decide +kernel) (by decide +kernel)

end Presence

end MeshcoreObserver
