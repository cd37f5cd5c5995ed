import MeshcoreObserver.Radio.OneConnection

/-!
# What `'radio.connected'` says

An attempt publishes its connection, awaits the clock synchronisation and the
device query, whose failures it swallows, and then announces the connection
without looking whether it is still there. A disconnection or a `stop()` between
the publication and the announcement makes the announcement false. In runs
without one it tells the truth, it alternates with `'radio.disconnected'`, and
the flood-advert scheduler, which only listens to these two, is right about the
connection.
-/

namespace MeshcoreObserver

open Transition

namespace RadioWorld

/-- The last of the announcements, losses and stops, newest first, is an announcement. -/
def announces : List RadioEntry → Bool
  | [] => false
  | .connected _ _ _ :: _ => true
  | .disconnected :: _ => false
  | .stopped :: _ => false
  | .packet _ _ :: older => announces older
  | .error _ :: older => announces older

/-- Every announcement is made by a running manager about its current connection, with the device
info of that connection. Without `stop()` there is a loss between two announcements, and the
scheduler is connected only while the manager is. -/
structure Truthful (world : RadioWorld) : Prop where
  honest : ∀ info current running, .connected info current running ∈ world.log →
    running = true ∧ ∃ connection query, current = some connection ∧
      info = some ⟨connection, query⟩ ∧ (query = none ∨ query = some connection)
  alternates : .stopped ∉ world.log →
    ∀ newer between older info current running info' current' running',
      world.log = newer ++ .connected info current running :: between ++
        .connected info' current' running' :: older → .disconnected ∈ between
  scheduler : .stopped ∉ world.log → world.schedulerConnected = true →
    world.manager.connection ≠ none

/-- An orderly step in which, too, the manager still runs when an attempt comes to announce its
connection and no listener throws out of `'radio.disconnected'`. -/
def Attended (world : RadioWorld) (event : RadioEvent) : Prop :=
  world.Orderly event ∧
    match event with
    | .commandSettles _ _ _ => world.announcesNext = true → world.manager.running = true
    | .disconnects connection listeners =>
        world.manager.connection = some connection → listeners = .finish
    | _ => True

instance (world : RadioWorld) (event : RadioEvent) : Decidable (world.Attended event) :=
  match event with
  | .commandSettles .. => inferInstanceAs (Decidable (_ ∧ (_ → _)))
  | .disconnects _ _ => inferInstanceAs (Decidable (_ ∧ (_ → _)))
  | .start | .stop | .transportOpens _ | .transportFails .. | .commandStarts
  | .closeSettles .. | .retryFires _ | .pushes _ | .runCommand =>
      inferInstanceAs (Decidable (_ ∧ True))

def Unannouncing (entry : RadioEntry) : Prop :=
  ∀ info current running, entry ≠ .connected info current running

/-- Between two announcements there is a loss or a stop. -/
def Alternating : List RadioEntry → Prop
  | [] => True
  | entry :: older => Alternating older ∧ (announces older = true → Unannouncing entry)

/-- Until `stop()`, the published connection of an attempt is the current one. -/
def Synced (world : RadioWorld) (connection : Nat) : Prop :=
  (world.manager.running = true → world.manager.connection = some connection) ∧
    ∃ query, world.manager.deviceInfo = some ⟨connection, query⟩ ∧
      (query = none ∨ query = some connection)

structure Announced (world : RadioWorld) : Prop where
  honest : ∀ info current running, .connected info current running ∈ world.log →
    running = true ∧ ∃ connection query, current = some connection ∧
      info = some ⟨connection, query⟩ ∧ (query = none ∨ query = some connection)
  synced : ∀ attempt ∈ world.attempts, ∀ connection, attempt.phase.Synchronises connection →
    world.Synced connection
  standing : announces world.log = true →
    world.manager.connection ≠ none ∧ world.attempts = []
  alternating : Alternating world.log
  scheduler : world.schedulerConnected = true →
    .stopped ∈ world.log ∨ world.manager.connection ≠ none

theorem announced_new (config : ReconnectConfig) : (new config).Announced where
  honest := nofun
  synced := nofun
  standing := nofun
  alternating := trivial
  scheduler := nofun

variable {world after : RadioWorld}

theorem Alternating.split {newer older : List RadioEntry} {info : Option DeviceInfo}
    {current : Option Nat} {running : Bool}
    (alternating : Alternating (newer ++ .connected info current running :: older)) :
    announces older = false := by
  induction newer with
  | nil =>
      by_contra announced
      exact alternating.2 (by simpa using announced) info current running rfl
  | cons entry newer ih => exact ih alternating.1

theorem Alternating.append {entries log : List RadioEntry}
    (quiet : ∀ entry ∈ entries, Unannouncing entry) (alternating : Alternating log) :
    Alternating (entries ++ log) := by
  induction entries with
  | nil => exact alternating
  | cons entry entries ih =>
      refine ⟨ih fun other otherMem => quiet other (List.mem_cons_of_mem _ otherMem), ?_⟩
      intro _
      exact quiet entry List.mem_cons_self

theorem announces_append {entries log : List RadioEntry}
    (quiet : ∀ entry ∈ entries, Unannouncing entry) (silent : announces log = false) :
    announces (entries ++ log) = false := by
  induction entries with
  | nil => exact silent
  | cons entry entries ih =>
      have ih := ih fun other otherMem => quiet other (List.mem_cons_of_mem _ otherMem)
      cases entry with
      | connected info current running =>
          exact absurd rfl (quiet _ List.mem_cons_self info current running)
      | disconnected => rfl
      | packet _ _ => exact ih
      | error _ => exact ih
      | stopped => rfl

theorem disconnected_mem_of_announces {between older : List RadioEntry}
    {info : Option DeviceInfo} {current : Option Nat} {running : Bool}
    (silent : announces (between ++ .connected info current running :: older) = false)
    (unstopped : .stopped ∉ between) : .disconnected ∈ between := by
  induction between with
  | nil => simp [announces] at silent
  | cons entry between ih =>
      have rest : .stopped ∉ between := fun stopped =>
        unstopped (List.mem_cons_of_mem _ stopped)
      cases entry with
      | connected _ _ _ => simp [announces] at silent
      | disconnected => exact List.mem_cons_self
      | packet _ _ => exact List.mem_cons_of_mem _ (ih silent rest)
      | error _ => exact List.mem_cons_of_mem _ (ih silent rest)
      | stopped => simp at unstopped

theorem Announced.truthful (announced : world.Announced) : world.Truthful where
  honest := announced.honest
  alternates := by
    intro unstopped newer between older info current running info' current' running' log
    rw [List.append_assoc, List.cons_append] at log
    have silent := Alternating.split (log ▸ announced.alternating)
    apply disconnected_mem_of_announces silent
    intro stopped
    apply unstopped
    rw [log]
    simp [stopped]
  scheduler := by
    intro unstopped connected
    exact (announced.scheduler connected).resolve_left unstopped

theorem Announced.silent (announced : world.Announced)
    (busy : world.manager.connection = none ∨ world.attempts ≠ []) :
    announces world.log = false := by
  by_contra standing
  rcases announced.standing (by simpa using standing) with ⟨connected, attempts⟩
  rcases busy with unconnected | busy
  · exact connected unconnected
  · exact busy attempts

theorem Announced.move (announced : world.Announced) (silent : announces world.log = false)
    {entries : List RadioEntry} (log : after.log = entries ++ world.log)
    (quiet : ∀ entry ∈ entries, Unannouncing entry)
    (synced : ∀ attempt ∈ after.attempts, ∀ connection,
      attempt.phase.Synchronises connection → after.Synced connection)
    (scheduler : after.schedulerConnected = true →
      .stopped ∈ after.log ∨ after.manager.connection ≠ none) : after.Announced where
  honest := by
    intro info current running entryMem
    rw [log] at entryMem
    rcases List.mem_append.mp entryMem with new | old
    · exact absurd rfl (quiet _ new info current running)
    · exact announced.honest info current running old
  synced
  standing := by
    intro standing
    rw [log, announces_append quiet silent] at standing
    cases standing
  alternating := by
    rw [log]
    exact announced.alternating.append quiet
  scheduler

theorem Announced.keep (announced : world.Announced) (silent : announces world.log = false)
    (log : after.log = world.log)
    (synced : ∀ attempt ∈ after.attempts, ∀ connection,
      attempt.phase.Synchronises connection → after.Synced connection)
    (scheduler : after.schedulerConnected = true →
      .stopped ∈ world.log ∨ after.manager.connection ≠ none) : after.Announced := by
  have entries : after.log = [] ++ world.log := log
  apply announced.move silent entries nofun synced
  rw [log]
  exact scheduler

theorem Announced.reportFailure (announced : world.Announced) (owned : world.Owned)
    {number : Nat} {phase : AttemptPhase} (attemptMem : ⟨number, phase⟩ ∈ world.attempts)
    (errorThrows fatalThrows : Bool) :
    (world.reportFailure number errorThrows fatalThrows).Announced := by
  have only := (owned.attempts_eq attemptMem).1
  rcases world.reportFailure_spec number errorThrows fatalThrows with
    ⟨manager, timers, nextTimer, entries, same, connection, errors⟩
  have quiet : ∀ entry ∈ entries, Unannouncing entry := by
    intro entry entryMem
    rcases errors entry entryMem with ⟨fatal, rfl⟩
    exact nofun
  rw [same, finishAttempt_eq ⟨phase, only⟩]
  refine announced.move (announced.silent (Or.inr (by simp [only]))) ?_ quiet ?_ ?_
  · rfl
  · exact nofun
  · intro connected
    refine (announced.scheduler connected).imp ?_ ?_
    · intro stopped
      exact List.mem_append_right _ stopped
    · intro current
      simpa only [connection] using current

theorem Announced.leave (announced : world.Announced) (owned : world.Owned)
    {number : Nat} {phase next : AttemptPhase} (attemptMem : ⟨number, phase⟩ ∈ world.attempts)
    (idle : ∀ connection, ¬next.Synchronises connection) (connection : Nat) :
    ((world.close connection).setPhase number next).Announced := by
  have only := (owned.attempts_eq attemptMem).1
  rw [setPhase_eq]
  case only => exact ⟨phase, only⟩
  apply announced.keep (announced.silent (Or.inr (by simp [only])))
  · rfl
  · intro attempt otherMem other synchronises
    rw [List.mem_singleton] at otherMem
    subst attempt
    exact absurd synchronises (idle other)
  · exact announced.scheduler

theorem Announced.synchronise (announced : world.Announced) (owned : world.Owned)
    {number connection : Nat} {phase next : AttemptPhase} {purpose : CommandPurpose}
    (attemptMem : ⟨number, phase⟩ ∈ world.attempts)
    (synchronises : phase.Synchronises connection) (goesOn : next.Synchronises connection) :
    ((world.submit connection purpose).setPhase number next).Announced := by
  have only := (owned.attempts_eq attemptMem).1
  rw [setPhase_eq]
  case only => exact ⟨phase, only⟩
  apply announced.keep (announced.silent (Or.inr (by simp [only])))
  · rfl
  · intro attempt otherMem other otherSynchronises
    rw [List.mem_singleton] at otherMem
    subst attempt
    have same : other = connection := by
      rcases goesOn with rfl | rfl | rfl
      all_goals simpa [AttemptPhase.Synchronises, eq_comm] using otherSynchronises
    subst other
    exact announced.synced _ attemptMem connection synchronises
  · exact announced.scheduler

theorem Announced.publish (announced : world.Announced) (owned : world.Owned)
    {number connection : Nat} (attemptMem : ⟨number, .handshaking connection⟩ ∈ world.attempts) :
    (world.publish number connection).Announced := by
  have only := (owned.attempts_eq attemptMem).1
  simp only [RadioWorld.publish]
  split
  · rw [setPhase_eq]
    case only => exact ⟨_, only⟩
    apply announced.keep (announced.silent (Or.inr (by simp [only])))
    · rfl
    · intro attempt otherMem other synchronises
      rw [List.mem_singleton] at otherMem
      subst attempt
      have same : other = connection := by
        simpa [AttemptPhase.Synchronises, eq_comm] using synchronises
      subst other
      exact ⟨fun _ => rfl, none, rfl, Or.inl rfl⟩
    · intro _
      exact Or.inr (by simp [submit])
  · exact announced.leave owned attemptMem (by simp [AttemptPhase.Synchronises]) connection

theorem Announced.announce (announced : world.Announced) (owned : world.Owned)
    {number connection : Nat} (attemptMem : ⟨number, .querying connection⟩ ∈ world.attempts)
    (running : world.manager.running = true) (outcome : Outcome) :
    ((world.readDeviceQuery connection outcome).emitConnected number connection
      .finish).Announced := by
  have only := (owned.attempts_eq attemptMem).1
  have silent := announced.silent (Or.inr (by simp [only]))
  rcases announced.synced _ attemptMem connection (Or.inr (Or.inr rfl)) with
    ⟨published, query, info, own⟩
  have current := published running
  have read : ∃ deviceInfo query, world.readDeviceQuery connection outcome =
      { world with manager := { world.manager with deviceInfo } } ∧
        deviceInfo = some ⟨connection, query⟩ ∧ (query = none ∨ query = some connection) := by
    cases outcome with
    | resolved =>
        refine ⟨_, some connection, rfl, ?_, Or.inr rfl⟩
        simp [info]
    | rejected => exact ⟨_, query, rfl, info, own⟩
  rcases read with ⟨deviceInfo, query, same, info, own⟩
  rw [same]
  have none : (world.attempts.filter fun attempt => attempt.number ≠ number) = [] := by simp [only]
  simp only [emitConnected, finishAttempt, none]
  exact
    { honest := by
        intro otherInfo otherCurrent otherRunning entryMem
        rcases List.mem_cons.mp entryMem with entry | old
        · simp only [RadioEntry.connected.injEq] at entry
          rcases entry with ⟨rfl, rfl, rfl⟩
          exact ⟨running, connection, query, current, info, own⟩
        · exact announced.honest _ _ _ old
      synced := by
        intro attempt attemptMem
        cases attemptMem
      standing := by
        intro _
        exact ⟨by simp [current], rfl⟩
      alternating := by
        refine ⟨announced.alternating, ?_⟩
        intro standing
        rw [silent] at standing
        cases standing
      scheduler := by
        intro _
        exact Or.inr (by simp [current]) }

theorem Announced.continueWith (announced : world.Announced) (owned : world.Owned)
    {command : DeviceCommand} (served : command.Served world.attempts)
    (running : ∀ number, command.purpose = .deviceQuery number → world.manager.running = true)
    (outcome : Outcome) (behind : Bool) :
    (world.continueWith command outcome behind .finish).Announced := by
  rcases command with ⟨connection, purpose⟩
  cases purpose with
  | getSelfInfo number =>
      have attemptMem : ⟨number, .handshaking connection⟩ ∈ world.attempts := served
      cases outcome with
      | resolved => exact announced.publish owned attemptMem
      | rejected =>
          exact announced.leave owned attemptMem (by simp [AttemptPhase.Synchronises]) connection
  | getDeviceTime number =>
      have attemptMem : ⟨number, .readingClock connection⟩ ∈ world.attempts := served
      have query : (world.fetchDeviceQuery number connection).Announced :=
        announced.synchronise owned attemptMem (Or.inl rfl) (Or.inr (Or.inr rfl))
      cases outcome with
      | resolved =>
          simp only [RadioWorld.continueWith]
          split
          · exact announced.synchronise owned attemptMem (Or.inl rfl) (Or.inr (Or.inl rfl))
          · exact query
      | rejected => exact query
  | setDeviceTime number =>
      have attemptMem : ⟨number, .settingClock connection⟩ ∈ world.attempts := served
      exact announced.synchronise owned attemptMem (Or.inr (Or.inl rfl)) (Or.inr (Or.inr rfl))
  | deviceQuery number =>
      have attemptMem : ⟨number, .querying connection⟩ ∈ world.attempts := served
      exact announced.announce owned attemptMem (running number rfl) outcome
  | runCommand => exact announced

theorem Announced.attemptConnect (announced : world.Announced)
    (silent : announces world.log = false) : world.attemptConnect.Announced := by
  rcases world.attemptConnect_spec with ⟨attempts, nextAttempt, same, attemptsMem⟩
  rw [same]
  apply announced.keep silent
  · rfl
  · intro attempt attemptMem connection synchronises
    rcases attemptsMem attempt attemptMem with old | opening
    · exact announced.synced attempt old connection synchronises
    · simp [AttemptPhase.Synchronises, opening] at synchronises
  · exact announced.scheduler

theorem Announced.start (announced : world.Announced) (owned : world.Owned)
    (orderly : world.manager.running = true ∨ world.attempts = []) : world.start.Announced := by
  simp only [RadioWorld.start]
  split
  · exact announced
  · rename_i stopped
    have attempts := orderly.resolve_left stopped
    have silent := announced.silent (Or.inl (owned.idle (by simpa using stopped)).1)
    apply Announced.attemptConnect
    · apply announced.keep silent
      · rfl
      · simp [attempts]
      · exact announced.scheduler
    · exact silent

theorem Announced.stop (announced : world.Announced) : world.stop.Announced where
  honest := by
    intro info current running entryMem
    rcases List.mem_cons.mp entryMem with entry | old
    · cases entry
    · exact announced.honest info current running old
  synced := by
    intro attempt attemptMem connection synchronises
    exact ⟨nofun, (announced.synced attempt attemptMem connection synchronises).2⟩
  standing := by
    intro announces
    cases announces
  alternating := by
    refine ⟨announced.alternating, ?_⟩
    intro _ info current running same
    cases same
  scheduler := fun _ => Or.inl List.mem_cons_self

theorem Announced.disconnects (announced : world.Announced) {connection : Nat}
    {listeners : Listeners}
    (orderly : world.manager.connection = some connection → world.attempts = [])
    (finishes : world.manager.connection = some connection → listeners = .finish)
    (stepped : world.step (.disconnects connection listeners) = some after) :
    after.Announced := by
  rcases (disconnects_eq_some stepped).2 with ⟨lost, rfl⟩ | ⟨_, rfl⟩
  · have attempts := orderly lost.2
    rw [finishes lost.2]
    have heard : ∀ attempt, Announced { world with
        disconnected := connection :: world.disconnected
        manager := { world.manager with connection := none, attempt }
        log := .disconnected :: world.log
        schedulerConnected := false } := by
      intro attempt
      exact
        { honest := by
            intro info current running entryMem
            rcases List.mem_cons.mp entryMem with entry | old
            · cases entry
            · exact announced.honest info current running old
          synced := by simp [attempts]
          standing := by
            intro announces
            cases announces
          alternating := by
            refine ⟨announced.alternating, ?_⟩
            intro _ info current running same
            cases same
          scheduler := by
            intro connected
            cases connected }
    simp only [loseConnection]
    split
    · exact (heard 0).attemptConnect rfl
    · exact heard _
  · exact { announced with }

theorem Announced.closeSettles (announced : world.Announced) (owned : world.Owned) {number : Nat}
    {outcome : Outcome} {errorThrows fatalThrows : Bool}
    (stepped : world.step (.closeSettles number outcome errorThrows fatalThrows) = some after) :
    after.Announced := by
  rcases closeSettles_eq_some stepped with
    ⟨connection, attemptMem, rfl⟩ | ⟨connection, attemptMem, settled⟩
  · exact announced.reportFailure owned attemptMem errorThrows fatalThrows
  · have only := (owned.attempts_eq attemptMem).1
    rcases settled with rfl | rfl
    · rw [finishAttempt_eq ⟨_, only⟩]
      apply announced.keep (announced.silent (Or.inr (by simp [only])))
      · rfl
      · intro attempt attemptMem
        cases attemptMem
      · exact announced.scheduler
    · exact announced.leave owned attemptMem (by simp [AttemptPhase.Synchronises]) connection

theorem Announced.step {event : RadioEvent} (announced : world.Announced) (owned : world.Owned)
    (attended : world.Attended event) (stepped : world.step event = some after) :
    after.Announced := by
  rcases attended with ⟨orderly, attended⟩
  cases event with
  | start =>
      simp only [RadioWorld.step, Option.some.injEq] at stepped
      subst after
      exact announced.start owned orderly
  | stop =>
      simp only [RadioWorld.step, Option.some.injEq] at stepped
      subst after
      exact announced.stop
  | transportOpens number =>
      rcases transportOpens_eq_some stepped with ⟨attemptMem, rfl⟩
      have only := (owned.attempts_eq attemptMem).1
      rw [setPhase_eq]
      case only => exact ⟨_, only⟩
      apply announced.keep (announced.silent (Or.inr (by simp [only])))
      · rfl
      · simp [AttemptPhase.Synchronises]
      · exact announced.scheduler
  | transportFails number errorThrows fatalThrows =>
      rcases transportFails_eq_some stepped with ⟨attemptMem, rfl⟩
      exact announced.reportFailure owned attemptMem errorThrows fatalThrows
  | commandStarts =>
      rcases commandStarts_eq_some stepped with ⟨commands, _, rfl⟩
      exact { announced with }
  | commandSettles outcome behind listeners =>
      rw [commandSettles_finish orderly] at stepped
      rcases commandSettles_eq_some stepped with ⟨command, taken, rfl⟩
      have settled : Announced { world with commands := { world.commands with running := none } } :=
        { announced with }
      apply settled.continueWith
      · exact owned.settled taken
      · exact owned.queued.served command (SerialQueue.mem_tasks_of_running taken)
      · intro number query
        rcases command with ⟨connection, purpose⟩
        simp only at query
        subst purpose
        exact attended (by simp only [announcesNext, taken])
  | closeSettles number outcome errorThrows fatalThrows =>
      exact announced.closeSettles owned stepped
  | disconnects connection listeners =>
      exact announced.disconnects orderly attended stepped
  | retryFires number =>
      rcases retryFires_eq_some stepped with ⟨fired, rfl⟩
      rcases List.mem_map.mp fired with ⟨timer, timerMem, _⟩
      have unconnected := owned.unconnected_of_timer timerMem
      apply Announced.attemptConnect
      · exact { announced with }
      · exact announced.silent (Or.inl unconnected)
  | pushes connection =>
      rcases pushes_eq_some stepped with rfl | ⟨_, rfl⟩
      · exact announced
      · exact
          { honest := by
              intro info current running entryMem
              rcases List.mem_cons.mp entryMem with entry | old
              · cases entry
              · exact announced.honest info current running old
            synced := announced.synced
            standing := announced.standing
            alternating := by
              refine ⟨announced.alternating, ?_⟩
              intro _ info current running same
              cases same
            scheduler := fun connected =>
              (announced.scheduler connected).imp_left (List.mem_cons_of_mem _) }
  | runCommand =>
      rcases runCommand_eq_some stepped with rfl | ⟨connection, _, rfl⟩
      · exact announced
      · exact { announced with }

/-- In every attended run, in every state: an announcement was made by a running manager about
its current connection and with its device info; without `stop()`, a loss lies between any two of
them, and the flood-advert scheduler is connected only while the manager is. -/
theorem truthful_of_attended {config : ReconnectConfig}
    (reachable : (radioSystem config).ReachableWhen Attended world) : world.Truthful := by
  have invariant : world.Owned ∧ world.Announced := by
    apply reachable.invariant
    · rintro initial rfl
      exact ⟨owned_new config, announced_new config⟩
    · rintro before event next ⟨owned, announced⟩ attended stepped
      exact ⟨owned.step attended.1 stepped, announced.step owned attended stepped⟩
  exact invariant.2.truthful

theorem truthful_of_reconnect :
    Truthful (((radioSystem ⟨0, 1, 8⟩).run Attended (.new ⟨0, 1, 8⟩)
      (connects ++ [.commandSettles .rejected false .finish, .runCommand, .commandStarts,
        .commandSettles .rejected false (.throw false), .disconnects 0 .finish,
        .transportOpens 1, .commandStarts, .commandSettles .resolved false .finish,
        .commandStarts, .commandSettles .rejected false .finish, .commandStarts,
        .stop])).get rfl) := by
  apply truthful_of_attended
  exact EventSystem.reachableWhen_get rfl _

/-- The connection is lost while the clock is read, and the attempt announces it nevertheless. -/
def lostBeforeAnnouncement : List RadioEvent :=
  [.start, .transportOpens 0, .commandStarts, .commandSettles .resolved false .finish,
    .commandStarts, .disconnects 0 .finish, .commandSettles .rejected false .finish,
    .commandStarts, .commandSettles .rejected false .finish]

def stoppedBeforeAnnouncement : List RadioEvent :=
  connects ++ [.stop, .commandSettles .rejected false .finish]

/-- Without a connection, and after `stop()`, an announcement is made. The scheduler then believes
in a connection that is not there. -/
theorem false_announcements :
    (∃ world, (radioSystem ⟨0, 1, 8⟩).Reachable world ∧ .stopped ∉ world.log ∧
      world.schedulerConnected = true ∧ world.manager.connection = none ∧ ¬world.Truthful) ∧
    ∃ world, (radioSystem ⟨0, 1, 8⟩).Reachable world ∧ .disconnected ∉ world.log ∧
      ¬world.Truthful := by
  refine ⟨⟨((radioSystem ⟨0, 1, 8⟩).run EventSystem.anyStep (.new ⟨0, 1, 8⟩)
      lostBeforeAnnouncement).get rfl, ?_, by decide, rfl, rfl, ?_⟩,
    ⟨((radioSystem ⟨0, 1, 8⟩).run EventSystem.anyStep (.new ⟨0, 1, 8⟩)
      stoppedBeforeAnnouncement).get rfl, ?_, by decide, ?_⟩⟩
  · exact EventSystem.reachableWhen_get rfl _
  · intro truthful
    exact truthful.scheduler (by decide) rfl rfl
  · exact EventSystem.reachableWhen_get rfl _
  · intro truthful
    have honest := truthful.honest (some ⟨0, none⟩) none false (by decide)
    cases honest.1

end RadioWorld

end MeshcoreObserver
