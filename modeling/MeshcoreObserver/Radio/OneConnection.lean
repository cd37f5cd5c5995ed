import MeshcoreObserver.Radio.RadioManager

/-!
# One live connection

Nothing in `RadioManager` keeps two attempts apart. A second one begins while the
first is under way when the current connection disconnects during the clock
synchronisation or the device query, or when `start()` follows `stop()` before
the first returned; and a listener that throws out of `'radio.connected'` leads
the attempt to close the connection it has published and to schedule a retry
beside it. In runs without these three the manager owns its connection: an open
connection is the current one or the one of the attempt that shakes hands on it.
-/

namespace MeshcoreObserver

open Transition

def AttemptPhase.connection : AttemptPhase → Option Nat
  | .opening => none
  | .handshaking connection => some connection
  | .abandoning connection => some connection
  | .readingClock connection => some connection
  | .settingClock connection => some connection
  | .querying connection => some connection
  | .closing connection => some connection

/-- The attempt has published its connection and not yet announced it. -/
def AttemptPhase.Synchronises (phase : AttemptPhase) (connection : Nat) : Prop :=
  phase = .readingClock connection ∨ phase = .settingClock connection ∨
    phase = .querying connection

namespace RadioWorld

def packets (world : RadioWorld) : List (Nat × Option Nat) :=
  world.log.filterMap fun entry =>
    match entry with
    | .packet connection current => some (connection, current)
    | _ => none

/-- `close()` has not been called on the connection and it has not emitted `'disconnected'`. -/
def IsOpen (world : RadioWorld) (connection : Nat) : Prop :=
  connection < world.opened ∧ connection ∉ world.closed ∧ connection ∉ world.disconnected

/-- At most one connection is open, packets come from the current connection, at most one connect
procedure exists, and beside a current connection only the attempt that opened it. -/
structure OneConnection (world : RadioWorld) : Prop where
  oneOpen : ∀ first second, world.IsOpen first → world.IsOpen second → first = second
  ownPackets : ∀ packet ∈ world.packets, packet.2 = some packet.1
  procedures : world.attempts.length + world.timers.length ≤ 1
  beside : ∀ connection, world.manager.connection = some connection →
    world.timers = [] ∧ ∀ attempt ∈ world.attempts, attempt.phase.connection = some connection

/-- The command that runs is a device query, after which its attempt announces the connection. -/
def announcesNext (world : RadioWorld) : Bool :=
  match world.commands.running with
  | some ⟨_, .deviceQuery _⟩ => true
  | _ => false

/-- No attempt is under way when `start()` begins another one or when the current connection
disconnects, and no listener throws out of `'radio.connected'`. -/
def Orderly (world : RadioWorld) : RadioEvent → Prop
  | .start => world.manager.running = true ∨ world.attempts = []
  | .disconnects connection _ =>
      world.manager.connection = some connection → world.attempts = []
  | .commandSettles _ _ listeners => world.announcesNext = true → listeners = .finish
  | _ => True

/-- An orderly step in which, of the connections whose packets are heard, only open ones push. -/
def Undivided (world : RadioWorld) (event : RadioEvent) : Prop :=
  world.Orderly event ∧
    match event with
    | .pushes connection =>
        connection ∈ world.wired → connection ∉ world.closed ∧ connection ∉ world.disconnected
    | _ => True

instance (world : RadioWorld) (event : RadioEvent) : Decidable (world.Orderly event) :=
  match event with
  | .start => inferInstanceAs (Decidable (_ ∨ _))
  | .disconnects _ _ => inferInstanceAs (Decidable (_ → _))
  | .commandSettles .. => inferInstanceAs (Decidable (_ → _))
  | .stop | .transportOpens _ | .transportFails .. | .commandStarts | .closeSettles ..
  | .retryFires _ | .pushes _ | .runCommand => inferInstanceAs (Decidable True)

instance (world : RadioWorld) (event : RadioEvent) : Decidable (world.Undivided event) :=
  match event with
  | .pushes _ => inferInstanceAs (Decidable (_ ∧ (_ → ¬_ ∧ ¬_)))
  | .start | .stop | .transportOpens _ | .transportFails .. | .commandStarts | .commandSettles ..
  | .closeSettles .. | .disconnects .. | .retryFires _ | .runCommand =>
      inferInstanceAs (Decidable (_ ∧ True))

end RadioWorld

/-- The attempt a command belongs to waits for it. -/
def DeviceCommand.Served (command : DeviceCommand) (attempts : List Attempt) : Prop :=
  match command.purpose with
  | .getSelfInfo number => ⟨number, .handshaking command.connection⟩ ∈ attempts
  | .getDeviceTime number => ⟨number, .readingClock command.connection⟩ ∈ attempts
  | .setDeviceTime number => ⟨number, .settingClock command.connection⟩ ∈ attempts
  | .deviceQuery number => ⟨number, .querying command.connection⟩ ∈ attempts
  | .runCommand => True

def Plain (tasks : List DeviceCommand) : Prop :=
  ∀ command ∈ tasks, command.purpose = .runCommand

/-- At most one command on the queue belongs to an attempt, and the attempt waits for it. -/
structure Queued (attempts : List Attempt) (tasks : List DeviceCommand) : Prop where
  served : ∀ command ∈ tasks, command.Served attempts
  single : (tasks.filter fun command => command.purpose ≠ .runCommand).length ≤ 1

namespace Queued

variable {attempts : List Attempt} {tasks : List DeviceCommand} {command : DeviceCommand}

theorem of_plain (plain : Plain tasks) (attempts : List Attempt) : Queued attempts tasks where
  served := by
    intro command commandMem
    simp only [DeviceCommand.Served, plain command commandMem]
  single := by
    have none : (tasks.filter fun command => command.purpose ≠ .runCommand) = [] := by
      apply List.filter_eq_nil_iff.mpr
      intro command commandMem
      simp [plain command commandMem]
    rw [none]
    exact Nat.zero_le 1

theorem submit (plain : Plain tasks) (served : command.Served attempts) :
    Queued attempts (tasks ++ [command]) where
  served := by
    intro other otherMem
    rcases List.mem_append.mp otherMem with before | new
    · exact (of_plain plain attempts).served other before
    · rw [List.mem_singleton] at new
      subst other
      exact served
  single := by
    have none : (tasks.filter fun command => command.purpose ≠ .runCommand) = [] := by
      apply List.filter_eq_nil_iff.mpr
      intro command commandMem
      simp [plain command commandMem]
    rw [List.filter_append, none, List.nil_append]
    exact List.length_filter_le _ _

theorem runCommand (queued : Queued attempts tasks) (connection : Nat) :
    Queued attempts (tasks ++ [⟨connection, .runCommand⟩]) where
  served := by
    intro other otherMem
    rcases List.mem_append.mp otherMem with before | new
    · exact queued.served other before
    · rw [List.mem_singleton] at new
      subst other
      trivial
  single := by simpa using queued.single

theorem plain_tail (queued : Queued attempts (command :: tasks))
    (owned : command.purpose ≠ .runCommand) : Plain tasks := by
  intro other otherMem
  by_contra otherOwned
  have single := queued.single
  have second : other ∈ tasks.filter fun command => command.purpose ≠ .runCommand := by
    simp [otherMem, otherOwned]
  have length := List.length_pos_of_mem second
  rw [List.filter_cons_of_pos (by simpa using owned), List.length_cons] at single
  omega

theorem tail (queued : Queued attempts (command :: tasks)) : Queued attempts tasks where
  served := fun other otherMem => queued.served other (List.mem_cons_of_mem _ otherMem)
  single := by
    have single := queued.single
    rw [List.filter_cons] at single
    split at single
    · rw [List.length_cons] at single
      omega
    · exact single

theorem plain_of_phase {number : Nat} {phase : AttemptPhase}
    (queued : Queued [⟨number, phase⟩] tasks)
    (unawaited : ∀ connection, phase ≠ .handshaking connection ∧
      ¬phase.Synchronises connection) : Plain tasks := by
  intro command commandMem
  have served := queued.served command commandMem
  have unawaited := unawaited command.connection
  simp only [AttemptPhase.Synchronises, not_or] at unawaited
  cases purpose : command.purpose with
  | runCommand => rfl
  | getSelfInfo other =>
      simp only [DeviceCommand.Served, purpose, List.mem_singleton, Attempt.mk.injEq] at served
      exact absurd served.2.symm unawaited.1
  | getDeviceTime other =>
      simp only [DeviceCommand.Served, purpose, List.mem_singleton, Attempt.mk.injEq] at served
      exact absurd served.2.symm unawaited.2.1
  | setDeviceTime other =>
      simp only [DeviceCommand.Served, purpose, List.mem_singleton, Attempt.mk.injEq] at served
      exact absurd served.2.symm unawaited.2.2.1
  | deviceQuery other =>
      simp only [DeviceCommand.Served, purpose, List.mem_singleton, Attempt.mk.injEq] at served
      exact absurd served.2.symm unawaited.2.2.2

theorem plain_of_none (queued : Queued [] tasks) : Plain tasks := by
  intro command commandMem
  have served := queued.served command commandMem
  cases purpose : command.purpose with
  | runCommand => rfl
  | _ => simp only [DeviceCommand.Served, purpose, List.not_mem_nil] at served

end Queued

namespace RadioWorld

structure Owned (world : RadioWorld) : Prop where
  procedures : world.attempts.length + world.timers.length ≤ 1
  armed : world.timers.map RetryTimer.number = world.manager.retryTimer.toList
  idle : world.manager.running = false →
    world.manager.connection = none ∧ world.timers = []
  known : ∀ connection ∈ world.wired, connection < world.opened
  handshaking : ∀ attempt ∈ world.attempts, ∀ connection,
    attempt.phase = .handshaking connection → connection < world.opened ∧
      connection ∉ world.wired
  owned : ∀ connection, world.IsOpen connection → world.manager.connection = some connection ∨
    ∃ attempt ∈ world.attempts, attempt.phase = .handshaking connection
  current : ∀ connection, world.manager.connection = some connection →
    world.timers = [] ∧ ∀ attempt ∈ world.attempts, attempt.phase.Synchronises connection
  queued : Queued world.attempts world.commands.tasks

theorem owned_new (config : ReconnectConfig) : (new config).Owned where
  procedures := Nat.zero_le _
  armed := rfl
  idle := fun _ => ⟨rfl, rfl⟩
  known := nofun
  handshaking := nofun
  owned := by
    intro connection isOpen
    exact absurd isOpen.1 (Nat.not_lt_zero _)
  current := nofun
  queued := .of_plain (by simp [Plain, new]) []

variable {world after : RadioWorld}

theorem Owned.attempts_eq (owned : world.Owned) {attempt : Attempt}
    (attemptMem : attempt ∈ world.attempts) : world.attempts = [attempt] ∧ world.timers = [] := by
  have procedures := owned.procedures
  match attempts : world.attempts with
  | [] => simp [attempts] at attemptMem
  | [only] =>
      simp only [attempts, List.mem_singleton] at attemptMem
      simp only [attempts, List.length_singleton] at procedures
      refine ⟨by rw [attemptMem], ?_⟩
      apply List.eq_nil_of_length_eq_zero
      omega
  | _ :: _ :: _ =>
      simp only [attempts, List.length_cons] at procedures
      omega

theorem setPhase_eq {number : Nat} (only : ∃ phase, world.attempts = [⟨number, phase⟩])
    (next : AttemptPhase) :
    world.setPhase number next = { world with attempts := [⟨number, next⟩] } := by
  rcases only with ⟨phase, only⟩
  simp [setPhase, only]

theorem finishAttempt_eq {number : Nat} (only : ∃ phase, world.attempts = [⟨number, phase⟩]) :
    world.finishAttempt number = { world with attempts := [] } := by
  rcases only with ⟨phase, only⟩
  simp [finishAttempt, only]

theorem Owned.unconnected (owned : world.Owned) {attempt : Attempt}
    (attemptMem : attempt ∈ world.attempts)
    (unpublished : ∀ connection, ¬attempt.phase.Synchronises connection) :
    world.manager.connection = none := by
  by_contra connected
  rcases Option.ne_none_iff_exists'.mp connected with ⟨connection, current⟩
  exact unpublished connection ((owned.current connection current).2 attempt attemptMem)

theorem Owned.oneConnection (owned : world.Owned)
    (ownPackets : ∀ packet ∈ world.packets, packet.2 = some packet.1) : world.OneConnection where
  oneOpen := by
    intro first second firstOpen secondOpen
    rcases owned.owned first firstOpen with current | ⟨attempt, attemptMem, phase⟩
    · rcases owned.owned second secondOpen with secondCurrent | ⟨attempt, attemptMem, phase⟩
      · exact Option.some.inj (current.symm.trans secondCurrent)
      · have synchronises := (owned.current first current).2 attempt attemptMem
        simp [AttemptPhase.Synchronises, phase] at synchronises
    · rcases owned.owned second secondOpen with current | ⟨other, otherMem, otherPhase⟩
      · have synchronises := (owned.current second current).2 attempt attemptMem
        simp [AttemptPhase.Synchronises, phase] at synchronises
      · rw [(owned.attempts_eq attemptMem).1, List.mem_singleton] at otherMem
        subst other
        simpa [phase] using otherPhase
  ownPackets
  procedures := owned.procedures
  beside := by
    intro connection current
    rcases owned.current connection current with ⟨timers, synchronises⟩
    refine ⟨timers, ?_⟩
    intro attempt attemptMem
    rcases synchronises attempt attemptMem with phase | phase | phase
    all_goals simp only [phase, AttemptPhase.connection]

theorem Owned.attemptConnect (owned : world.Owned) (attempts : world.attempts = [])
    (timers : world.timers = []) (unconnected : world.manager.connection = none) :
    world.attemptConnect.Owned := by
  simp only [RadioWorld.attemptConnect]
  split
  · have plain : Plain world.commands.tasks := Queued.plain_of_none (attempts ▸ owned.queued)
    exact
      { procedures := by simp [attempts, timers]
        armed := owned.armed
        idle := owned.idle
        known := owned.known
        handshaking := by simp [attempts]
        owned := by
          intro connection isOpen
          rcases owned.owned connection isOpen with current | ⟨attempt, attemptMem, _⟩
          · exact Or.inl current
          · simp [attempts] at attemptMem
        current := by
          intro connection current
          simp [unconnected] at current
        queued := .of_plain plain _ }
  · exact owned

theorem Owned.finishAttempt (owned : world.Owned) {number : Nat} {phase : AttemptPhase}
    (attemptMem : ⟨number, phase⟩ ∈ world.attempts)
    (closed : ∀ connection, phase ≠ .handshaking connection)
    (plain : Plain world.commands.tasks) :
    (world.finishAttempt number).Owned := by
  rcases owned.attempts_eq attemptMem with ⟨only, timers⟩
  rw [finishAttempt_eq ⟨phase, only⟩]
  exact
    { procedures := by simp [timers]
      armed := owned.armed
      idle := owned.idle
      known := owned.known
      handshaking := nofun
      owned := by
        intro connection isOpen
        rcases owned.owned connection isOpen with current | ⟨attempt, otherMem, handshaking⟩
        · exact Or.inl current
        · rw [only, List.mem_singleton] at otherMem
          subst attempt
          exact absurd handshaking (closed connection)
      current := fun connection current => ⟨(owned.current connection current).1, nofun⟩
      queued := .of_plain plain _ }

theorem Owned.scheduleRetry (owned : world.Owned) (attempts : world.attempts = [])
    (timers : world.timers = []) (unconnected : world.manager.connection = none)
    (fatalThrows : Bool) : (world.scheduleRetry fatalThrows).Owned := by
  simp only [RadioWorld.scheduleRetry]
  split
  · split
    · exact
        { owned with
          idle := fun _ => ⟨unconnected, timers⟩ }
    · rename_i running _
      exact
        { procedures := by simp [attempts, timers]
          armed := by simp [timers]
          idle := by
            intro stopped
            simp [running] at stopped
          known := owned.known
          handshaking := owned.handshaking
          owned := owned.owned
          current := by
            intro connection current
            simp [unconnected] at current
          queued := owned.queued }
  · exact owned

theorem Owned.reportFailure (owned : world.Owned) {number : Nat} {phase : AttemptPhase}
    (attemptMem : ⟨number, phase⟩ ∈ world.attempts)
    (closed : ∀ connection, phase ≠ .handshaking connection)
    (unpublished : ∀ connection, ¬phase.Synchronises connection)
    (errorThrows fatalThrows : Bool) :
    (world.reportFailure number errorThrows fatalThrows).Owned := by
  rcases owned.attempts_eq attemptMem with ⟨only, timers⟩
  have plain : Plain world.commands.tasks :=
    Queued.plain_of_phase (only ▸ owned.queued) fun connection =>
      ⟨closed connection, unpublished connection⟩
  have logged : Owned { world with log := .error false :: world.log } := { owned with }
  have finished := logged.finishAttempt attemptMem closed plain
  simp only [RadioWorld.reportFailure]
  split
  · exact finished
  · apply finished.scheduleRetry
    · simp [RadioWorld.finishAttempt, only]
    · exact timers
    · exact owned.unconnected attemptMem unpublished

theorem Owned.close (owned : world.Owned) {number : Nat} {phase next : AttemptPhase}
    (attemptMem : ⟨number, phase⟩ ∈ world.attempts) (connection : Nat)
    (unpublished : ∀ other, ¬phase.Synchronises other)
    (own : ∀ other, phase = .handshaking other → other = connection)
    (closing : next = .closing connection ∨ next = .abandoning connection)
    (plain : Plain world.commands.tasks) :
    ((world.close connection).setPhase number next).Owned := by
  rcases owned.attempts_eq attemptMem with ⟨only, timers⟩
  have unconnected := owned.unconnected attemptMem unpublished
  have unawaited : ∀ other, next ≠ .handshaking other := by
    intro other
    rcases closing with rfl | rfl <;> simp
  rw [setPhase_eq]
  case only => exact ⟨phase, only⟩
  exact
    { procedures := by simp [RadioWorld.close, timers]
      armed := owned.armed
      idle := owned.idle
      known := owned.known
      handshaking := by
        intro attempt attemptMem other handshaking
        rw [List.mem_singleton] at attemptMem
        subst attempt
        exact absurd handshaking (unawaited other)
      owned := by
        intro other isOpen
        rcases isOpen with ⟨bound, unclosed, connected⟩
        simp only [RadioWorld.close] at unclosed
        have different : other ≠ connection := by
          rintro rfl
          exact unclosed List.mem_cons_self
        have wasOpen : world.IsOpen other :=
          ⟨bound, fun closed => unclosed (List.mem_cons_of_mem _ closed), connected⟩
        rcases owned.owned other wasOpen with current | ⟨attempt, otherMem, handshaking⟩
        · exact Or.inl current
        · rw [only, List.mem_singleton] at otherMem
          subst attempt
          exact absurd (own other handshaking) different
      current := by
        intro other current
        simp [RadioWorld.close, unconnected] at current
      queued := .of_plain plain _ }

theorem Owned.transportOpens (owned : world.Owned) {number : Nat}
    (attemptMem : ⟨number, .opening⟩ ∈ world.attempts) :
    ((submit { world with opened := world.opened + 1 } world.opened
      (.getSelfInfo number)).setPhase number (.handshaking world.opened)).Owned := by
  rcases owned.attempts_eq attemptMem with ⟨only, timers⟩
  have unconnected := owned.unconnected attemptMem (by simp [AttemptPhase.Synchronises])
  have plain : Plain world.commands.tasks :=
    Queued.plain_of_phase (only ▸ owned.queued) (by simp [AttemptPhase.Synchronises])
  rw [setPhase_eq]
  case only => exact ⟨_, only⟩
  exact
    { procedures := by simp [submit, timers]
      armed := owned.armed
      idle := owned.idle
      known := fun connection wired => Nat.lt_succ_of_lt (owned.known connection wired)
      handshaking := by
        intro attempt otherMem connection phase
        rw [List.mem_singleton] at otherMem
        subst attempt
        simp only [AttemptPhase.handshaking.injEq] at phase
        subst connection
        refine ⟨Nat.lt_succ_self _, ?_⟩
        intro wired
        exact Nat.lt_irrefl _ (owned.known _ wired)
      owned := by
        intro connection isOpen
        rcases isOpen with ⟨bound, unclosed, connected⟩
        rcases Nat.lt_succ_iff_lt_or_eq.mp bound with old | rfl
        · rcases owned.owned connection ⟨old, unclosed, connected⟩ with current | handshaking
          · exact Or.inl current
          · simp [only] at handshaking
        · exact Or.inr ⟨_, List.mem_singleton_self _, rfl⟩
      current := by
        intro connection current
        simp [submit, unconnected] at current
      queued := by
        simp only [submit, SerialQueue.tasks_submit]
        apply Queued.submit plain
        exact List.mem_singleton_self _ }

theorem Owned.publish (owned : world.Owned) {number connection : Nat}
    (attemptMem : ⟨number, .handshaking connection⟩ ∈ world.attempts)
    (plain : Plain world.commands.tasks) : (world.publish number connection).Owned := by
  rcases owned.attempts_eq attemptMem with ⟨only, timers⟩
  rcases owned.handshaking _ attemptMem connection rfl with ⟨bound, _⟩
  simp only [RadioWorld.publish]
  split
  · rename_i running
    rw [setPhase_eq]
    case only => exact ⟨_, only⟩
    exact
      { procedures := by simp [submit, timers]
        armed := owned.armed
        idle := by
          intro stopped
          simp [submit, running] at stopped
        known := by
          intro other wired
          rcases List.mem_cons.mp wired with rfl | before
          · exact bound
          · exact owned.known other before
        handshaking := by simp
        owned := by
          intro other isOpen
          rcases owned.owned other isOpen with current | ⟨attempt, otherMem, handshaking⟩
          · have unconnected := owned.unconnected attemptMem (by simp [AttemptPhase.Synchronises])
            simp [unconnected] at current
          · rw [only, List.mem_singleton] at otherMem
            subst attempt
            simp only [AttemptPhase.handshaking.injEq] at handshaking
            exact Or.inl (handshaking ▸ rfl)
        current := by
          intro other current
          simp only [submit, Option.some.injEq] at current
          subst other
          refine ⟨timers, ?_⟩
          intro attempt otherMem
          rw [List.mem_singleton] at otherMem
          subst attempt
          exact Or.inl rfl
        queued := by
          simp only [submit, SerialQueue.tasks_submit]
          apply Queued.submit plain
          exact List.mem_singleton_self _ }
  · apply owned.close attemptMem connection
    · simp [AttemptPhase.Synchronises]
    · simp
    · exact Or.inr rfl
    · exact plain

theorem Owned.synchronise (owned : world.Owned) {number connection : Nat}
    {phase next : AttemptPhase} {purpose : CommandPurpose}
    (attemptMem : ⟨number, phase⟩ ∈ world.attempts)
    (synchronises : phase.Synchronises connection) (goesOn : next.Synchronises connection)
    (served : DeviceCommand.Served ⟨connection, purpose⟩ [⟨number, next⟩])
    (plain : Plain world.commands.tasks) :
    ((world.submit connection purpose).setPhase number next).Owned := by
  rcases owned.attempts_eq attemptMem with ⟨only, timers⟩
  have unshaken : ∀ {phase : AttemptPhase} {other : Nat}, phase.Synchronises connection →
      phase ≠ .handshaking other := by
    rintro phase other (rfl | rfl | rfl) <;> simp
  rw [setPhase_eq]
  case only => exact ⟨phase, only⟩
  exact
    { procedures := by simp [submit, timers]
      armed := owned.armed
      idle := owned.idle
      known := owned.known
      handshaking := by
        intro attempt otherMem other handshaking
        rw [List.mem_singleton] at otherMem
        subst attempt
        exact absurd handshaking (unshaken goesOn)
      owned := by
        intro other isOpen
        rcases owned.owned other isOpen with current | ⟨attempt, otherMem, handshaking⟩
        · exact Or.inl current
        · rw [only, List.mem_singleton] at otherMem
          subst attempt
          exact absurd handshaking (unshaken synchronises)
      current := by
        intro other current
        refine ⟨timers, ?_⟩
        intro attempt otherMem
        rw [List.mem_singleton] at otherMem
        subst attempt
        have before := (owned.current other current).2 _ attemptMem
        have same : other = connection := by
          rcases synchronises with rfl | rfl | rfl
          all_goals simpa [AttemptPhase.Synchronises, eq_comm] using before
        exact same ▸ goesOn
      queued := by
        simp only [submit, SerialQueue.tasks_submit]
        exact Queued.submit plain served }

theorem Owned.emitConnected (owned : world.Owned) {number connection : Nat}
    (attemptMem : ⟨number, .querying connection⟩ ∈ world.attempts)
    (plain : Plain world.commands.tasks) :
    (world.emitConnected number connection .finish).Owned := by
  have emitted : Owned { world with
      log := .connected world.manager.deviceInfo world.manager.connection world.manager.running ::
        world.log
      schedulerConnected := true } := { owned with }
  exact emitted.finishAttempt attemptMem (by simp) plain

theorem Owned.readDeviceQuery (owned : world.Owned) (connection : Nat) (outcome : Outcome) :
    (world.readDeviceQuery connection outcome).Owned ∧
      (world.readDeviceQuery connection outcome).attempts = world.attempts ∧
      (world.readDeviceQuery connection outcome).commands = world.commands := by
  cases outcome with
  | resolved => exact ⟨{ owned with }, rfl, rfl⟩
  | rejected => exact ⟨owned, rfl, rfl⟩

theorem Owned.continueWith (owned : world.Owned) {command : DeviceCommand}
    (served : command.Served world.attempts)
    (plain : command.purpose ≠ .runCommand → Plain world.commands.tasks) (outcome : Outcome)
    (behind : Bool) : (world.continueWith command outcome behind .finish).Owned := by
  rcases command with ⟨connection, purpose⟩
  cases purpose with
  | getSelfInfo number =>
      have attemptMem : ⟨number, .handshaking connection⟩ ∈ world.attempts := served
      have plain := plain nofun
      cases outcome with
      | resolved => exact owned.publish attemptMem plain
      | rejected =>
          apply owned.close attemptMem connection
          · simp [AttemptPhase.Synchronises]
          · simp
          · exact Or.inl rfl
          · exact plain
  | getDeviceTime number =>
      have attemptMem : ⟨number, .readingClock connection⟩ ∈ world.attempts := served
      have plain := plain nofun
      have query : (world.fetchDeviceQuery number connection).Owned := by
        apply owned.synchronise attemptMem (Or.inl rfl) (Or.inr (Or.inr rfl)) _ plain
        exact List.mem_singleton_self _
      cases outcome with
      | resolved =>
          simp only [RadioWorld.continueWith]
          split
          · apply owned.synchronise attemptMem (Or.inl rfl) (Or.inr (Or.inl rfl)) _ plain
            exact List.mem_singleton_self _
          · exact query
      | rejected => exact query
  | setDeviceTime number =>
      have attemptMem : ⟨number, .settingClock connection⟩ ∈ world.attempts := served
      have plain := plain nofun
      simp only [RadioWorld.continueWith]
      apply owned.synchronise attemptMem (Or.inr (Or.inl rfl)) (Or.inr (Or.inr rfl)) _ plain
      exact List.mem_singleton_self _
  | deviceQuery number =>
      have attemptMem : ⟨number, .querying connection⟩ ∈ world.attempts := served
      have plain := plain nofun
      rcases owned.readDeviceQuery connection outcome with ⟨read, attempts, commands⟩
      simp only [RadioWorld.continueWith]
      apply read.emitConnected
      · rw [attempts]
        exact attemptMem
      · rw [commands]
        exact plain
  | runCommand => exact owned

/-- Listeners are called only when a device query settles. -/
theorem commandSettles_finish {outcome : Outcome} {behind : Bool} {listeners : Listeners}
    (quiet : world.announcesNext = true → listeners = .finish) :
    world.step (.commandSettles outcome behind listeners) =
      world.step (.commandSettles outcome behind .finish) := by
  simp only [RadioWorld.step]
  cases running : world.commands.running with
  | none => rfl
  | some command =>
      rcases command with ⟨connection, purpose⟩
      cases purpose with
      | deviceQuery number =>
          have finishes := quiet (by simp only [announcesNext, running])
          rw [finishes]
      | getSelfInfo number => cases outcome <;> rfl
      | getDeviceTime number => cases outcome <;> rfl
      | setDeviceTime number => rfl
      | runCommand => rfl

theorem Owned.settled (owned : world.Owned) {command : DeviceCommand}
    (running : world.commands.running = some command) :
    Owned { world with commands := { world.commands with running := none } } := by
  have tasks : world.commands.tasks = command :: world.commands.waiting := by
    simp [SerialQueue.tasks, running]
  exact { owned with queued := (tasks ▸ owned.queued).tail }

theorem Owned.commandSettles (owned : world.Owned) {outcome : Outcome} {behind : Bool}
    (stepped : world.step (.commandSettles outcome behind .finish) = some after) :
    after.Owned := by
  rcases commandSettles_eq_some stepped with ⟨command, running, rfl⟩
  have tasks : world.commands.tasks = command :: world.commands.waiting := by
    simp [SerialQueue.tasks, running]
  have queued := owned.queued
  rw [tasks] at queued
  apply (owned.settled running).continueWith
  · exact queued.served command List.mem_cons_self
  · exact queued.plain_tail

theorem Owned.start (owned : world.Owned)
    (orderly : world.manager.running = true ∨ world.attempts = []) : world.start.Owned := by
  simp only [RadioWorld.start]
  split
  · exact owned
  · rename_i stopped
    rcases orderly with running | attempts
    · exact absurd running stopped
    · rcases owned.idle (by simpa using stopped) with ⟨unconnected, timers⟩
      have running : Owned { world with
          manager := { world.manager with running := true, attempt := 0 } } :=
        { owned with idle := nofun }
      exact running.attemptConnect attempts timers unconnected

theorem Owned.stop (owned : world.Owned) : world.stop.Owned := by
  have cleared : world.stop.timers = [] := by
    simp only [RadioWorld.stop, List.filter_eq_nil_iff]
    intro timer timerMem
    have armed := owned.armed
    cases retryTimer : world.manager.retryTimer with
    | none => simp [retryTimer] at armed; simp [armed] at timerMem
    | some number =>
        have numberMem := List.mem_map_of_mem (f := RetryTimer.number) timerMem
        rw [armed, retryTimer, Option.toList_some, List.mem_singleton] at numberMem
        simp [numberMem]
  exact
    { procedures := by
        have procedures := owned.procedures
        rw [cleared]
        simp only [RadioWorld.stop, List.length_nil]
        omega
      armed := by
        rw [cleared]
        rfl
      idle := fun _ => ⟨rfl, cleared⟩
      known := owned.known
      handshaking := owned.handshaking
      owned := by
        intro connection isOpen
        rcases isOpen with ⟨bound, unclosed, connected⟩
        simp only [RadioWorld.stop, List.mem_append, Option.mem_toList, not_or] at unclosed
        rcases owned.owned connection ⟨bound, unclosed.2, connected⟩ with current | handshaking
        · exact absurd current unclosed.1
        · exact Or.inr handshaking
      current := nofun
      queued := owned.queued }

theorem Owned.disconnects (owned : world.Owned) {connection : Nat} {listeners : Listeners}
    (orderly : world.manager.connection = some connection → world.attempts = [])
    (stepped : world.step (.disconnects connection listeners) = some after) : after.Owned := by
  have marked : Owned { world with disconnected := connection :: world.disconnected } :=
    { owned with
      owned := by
        intro other isOpen
        rcases isOpen with ⟨bound, unclosed, connected⟩
        apply owned.owned other
        exact ⟨bound, unclosed, fun gone => connected (List.mem_cons_of_mem _ gone)⟩ }
  rcases (disconnects_eq_some stepped).2 with ⟨lost, rfl⟩ | ⟨_, rfl⟩
  · have attempts := orderly lost.2
    have timers := (owned.current connection lost.2).1
    have none : Owned { world with
        disconnected := connection :: world.disconnected
        manager := { world.manager with connection := none } } :=
      { marked with
        idle := fun _ => ⟨rfl, timers⟩
        owned := by
          intro other isOpen
          rcases marked.owned other isOpen with current | handshaking
          · rw [lost.2, Option.some.injEq] at current
            subst other
            exact absurd List.mem_cons_self isOpen.2.2
          · exact Or.inr handshaking
        current := nofun }
    cases listeners with
    | throw schedulerCalled => exact { none with }
    | finish =>
        simp only [loseConnection]
        split
        · have heard : Owned { world with
              disconnected := connection :: world.disconnected
              manager := { world.manager with connection := Option.none, attempt := 0 }
              log := .disconnected :: world.log
              schedulerConnected := false } := { none with }
          exact heard.attemptConnect attempts timers rfl
        · exact { none with }
  · exact marked

theorem Owned.unconnected_of_timer (owned : world.Owned) {timer : RetryTimer}
    (timerMem : timer ∈ world.timers) : world.manager.connection = none := by
  by_contra connected
  rcases Option.ne_none_iff_exists'.mp connected with ⟨connection, current⟩
  simp [(owned.current connection current).1] at timerMem

theorem Owned.retryFires (owned : world.Owned) {number : Nat}
    (stepped : world.step (.retryFires number) = some after) : after.Owned := by
  rcases retryFires_eq_some stepped with ⟨fired, rfl⟩
  rcases List.mem_map.mp fired with ⟨timer, timerMem, rfl⟩
  have procedures := owned.procedures
  have positive := List.length_pos_of_mem timerMem
  have attempts : world.attempts = [] := List.eq_nil_of_length_eq_zero (by omega)
  have timers : world.timers = [timer] := by
    rcases List.length_eq_one_iff.mp (show world.timers.length = 1 by omega) with ⟨only, timers⟩
    rw [timers, List.mem_singleton] at timerMem
    rw [timers, timerMem]
  have unconnected := owned.unconnected_of_timer timerMem
  have cleared : (world.timers.filter fun other => other.number ≠ timer.number) = [] := by
    simp [timers]
  rw [cleared]
  have fired : Owned { world with
      manager := { world.manager with retryTimer := none }
      timers := [] } :=
    { owned with
      procedures := by simp [attempts]
      armed := rfl
      idle := fun _ => ⟨unconnected, rfl⟩
      current := fun connection current => ⟨rfl, (owned.current connection current).2⟩ }
  exact fired.attemptConnect attempts rfl unconnected

theorem Owned.closeSettles (owned : world.Owned) {number : Nat} {outcome : Outcome}
    {errorThrows fatalThrows : Bool}
    (stepped : world.step (.closeSettles number outcome errorThrows fatalThrows) = some after) :
    after.Owned := by
  rcases closeSettles_eq_some stepped with
    ⟨connection, attemptMem, rfl⟩ | ⟨connection, attemptMem, settled⟩
  · apply owned.reportFailure attemptMem
    · simp
    · simp [AttemptPhase.Synchronises]
  · have plain : Plain world.commands.tasks :=
      Queued.plain_of_phase ((owned.attempts_eq attemptMem).1 ▸ owned.queued)
        (by simp [AttemptPhase.Synchronises])
    rcases settled with rfl | rfl
    · exact owned.finishAttempt attemptMem (by simp) plain
    · apply owned.close attemptMem connection
      · simp [AttemptPhase.Synchronises]
      · simp
      · exact Or.inl rfl
      · exact plain

theorem Owned.step {event : RadioEvent} (owned : world.Owned) (orderly : world.Orderly event)
    (stepped : world.step event = some after) : after.Owned := by
  cases event with
  | start =>
      simp only [RadioWorld.step, Option.some.injEq] at stepped
      subst after
      exact owned.start orderly
  | stop =>
      simp only [RadioWorld.step, Option.some.injEq] at stepped
      subst after
      exact owned.stop
  | transportOpens number =>
      rcases transportOpens_eq_some stepped with ⟨attemptMem, rfl⟩
      exact owned.transportOpens attemptMem
  | transportFails number errorThrows fatalThrows =>
      rcases transportFails_eq_some stepped with ⟨attemptMem, rfl⟩
      apply owned.reportFailure attemptMem
      · simp
      · simp [AttemptPhase.Synchronises]
  | commandStarts =>
      rcases commandStarts_eq_some stepped with ⟨commands, starts, rfl⟩
      exact { owned with queued := SerialQueue.tasks_start starts ▸ owned.queued }
  | commandSettles outcome behind listeners =>
      rw [commandSettles_finish orderly] at stepped
      exact owned.commandSettles stepped
  | closeSettles number outcome errorThrows fatalThrows => exact owned.closeSettles stepped
  | disconnects connection listeners => exact owned.disconnects orderly stepped
  | retryFires number => exact owned.retryFires stepped
  | pushes connection =>
      rcases pushes_eq_some stepped with rfl | ⟨_, rfl⟩
      · exact owned
      · exact { owned with }
  | runCommand =>
      rcases runCommand_eq_some stepped with rfl | ⟨connection, _, rfl⟩
      · exact owned
      · exact
          { owned with
            queued := by
              simp only [submit, SerialQueue.tasks_submit]
              exact owned.queued.runCommand _ }

theorem attemptConnect_packets (world : RadioWorld) :
    world.attemptConnect.packets = world.packets := by
  simp only [RadioWorld.attemptConnect]
  split <;> rfl

theorem start_packets (world : RadioWorld) : world.start.packets = world.packets := by
  simp only [RadioWorld.start]
  split
  · rfl
  · rw [attemptConnect_packets]
    rfl

theorem scheduleRetry_packets (world : RadioWorld) (fatalThrows : Bool) :
    (world.scheduleRetry fatalThrows).packets = world.packets := by
  simp only [RadioWorld.scheduleRetry]
  split
  · split <;> rfl
  · rfl

theorem reportFailure_packets (world : RadioWorld) (number : Nat)
    (errorThrows fatalThrows : Bool) :
    (world.reportFailure number errorThrows fatalThrows).packets = world.packets := by
  simp only [RadioWorld.reportFailure]
  split
  · rfl
  · rw [scheduleRetry_packets]
    rfl

theorem continueWith_packets (world : RadioWorld) (command : DeviceCommand) (outcome : Outcome)
    (behind : Bool) (listeners : Listeners) :
    (world.continueWith command outcome behind listeners).packets = world.packets := by
  rcases command with ⟨connection, purpose⟩
  cases purpose with
  | getSelfInfo number =>
      cases outcome with
      | resolved =>
          simp only [RadioWorld.continueWith, RadioWorld.publish]
          split <;> rfl
      | rejected => rfl
  | getDeviceTime number =>
      cases outcome with
      | resolved =>
          simp only [RadioWorld.continueWith]
          split <;> rfl
      | rejected => rfl
  | setDeviceTime number => rfl
  | deviceQuery number => cases outcome <;> cases listeners <;> rfl
  | runCommand => rfl

theorem loseConnection_packets (world : RadioWorld) (listeners : Listeners) :
    (world.loseConnection listeners).packets = world.packets := by
  cases listeners with
  | throw schedulerCalled => rfl
  | finish =>
      simp only [loseConnection]
      split
      · rw [attemptConnect_packets]
        rfl
      · rfl

theorem step_packets {event : RadioEvent} (stepped : world.step event = some after) :
    after.packets = world.packets ∨ ∃ connection, event = .pushes connection ∧
      connection ∈ world.wired ∧
        after.packets = (connection, world.manager.connection) :: world.packets := by
  cases event with
  | pushes connection =>
      rcases pushes_eq_some stepped with rfl | ⟨wired, rfl⟩
      · exact Or.inl rfl
      · exact Or.inr ⟨connection, rfl, wired, rfl⟩
  | start =>
      simp only [RadioWorld.step, Option.some.injEq] at stepped
      subst after
      exact Or.inl world.start_packets
  | stop =>
      simp only [RadioWorld.step, Option.some.injEq] at stepped
      subst after
      exact Or.inl rfl
  | transportOpens number =>
      rcases transportOpens_eq_some stepped with ⟨_, rfl⟩
      exact Or.inl rfl
  | transportFails number errorThrows fatalThrows =>
      rcases transportFails_eq_some stepped with ⟨_, rfl⟩
      exact Or.inl (world.reportFailure_packets _ _ _)
  | commandStarts =>
      rcases commandStarts_eq_some stepped with ⟨commands, _, rfl⟩
      exact Or.inl rfl
  | commandSettles outcome behind listeners =>
      rcases commandSettles_eq_some stepped with ⟨command, _, rfl⟩
      exact Or.inl (continueWith_packets _ _ _ _ _)
  | closeSettles number outcome errorThrows fatalThrows =>
      rcases closeSettles_eq_some stepped with ⟨_, _, rfl⟩ | ⟨_, _, rfl | rfl⟩
      · exact Or.inl (world.reportFailure_packets _ _ _)
      · exact Or.inl rfl
      · exact Or.inl rfl
  | disconnects connection listeners =>
      rcases (disconnects_eq_some stepped).2 with ⟨_, rfl⟩ | ⟨_, rfl⟩
      · exact Or.inl (loseConnection_packets _ _)
      · exact Or.inl rfl
  | retryFires number =>
      rcases retryFires_eq_some stepped with ⟨_, rfl⟩
      exact Or.inl (attemptConnect_packets _)
  | runCommand =>
      rcases runCommand_eq_some stepped with rfl | ⟨connection, _, rfl⟩
      · exact Or.inl rfl
      · exact Or.inl rfl

theorem Owned.current_of_wired (owned : world.Owned) {connection : Nat}
    (wired : connection ∈ world.wired) (unclosed : connection ∉ world.closed)
    (connected : connection ∉ world.disconnected) :
    world.manager.connection = some connection := by
  have isOpen : world.IsOpen connection := ⟨owned.known connection wired, unclosed, connected⟩
  rcases owned.owned connection isOpen with current | ⟨attempt, attemptMem, handshaking⟩
  · exact current
  · exact absurd wired (owned.handshaking attempt attemptMem connection handshaking).2

/-- In every undivided run, in every state: at most one connection is open, every packet was
emitted for the connection current at that moment, and at most one connect procedure exists,
beside a current connection only the attempt that opened it. -/
theorem one_connection_of_undivided {config : ReconnectConfig}
    (reachable : (radioSystem config).ReachableWhen Undivided world) : world.OneConnection := by
  have invariant : world.Owned ∧ ∀ packet ∈ world.packets, packet.2 = some packet.1 := by
    apply reachable.invariant
    · rintro initial rfl
      exact ⟨owned_new config, nofun⟩
    · rintro before event next ⟨owned, ownPackets⟩ ⟨orderly, pushes⟩ stepped
      refine ⟨owned.step orderly stepped, ?_⟩
      rcases step_packets stepped with same | ⟨connection, rfl, wired, pushed⟩
      · rw [same]
        exact ownPackets
      · rw [pushed]
        intro packet packetMem
        rcases List.mem_cons.mp packetMem with rfl | old
        · rcases pushes wired with ⟨unclosed, connected⟩
          exact owned.current_of_wired wired unclosed connected
        · exact ownPackets packet old
  exact invariant.1.oneConnection invariant.2

theorem one_connection_of_reconnect :
    OneConnection (((radioSystem ⟨0, 1, 8⟩).run Undivided (.new ⟨0, 1, 8⟩)
      [.start, .transportOpens 0, .commandStarts, .commandSettles .rejected false .finish,
        .closeSettles 0 .resolved false false, .retryFires 0, .transportOpens 1, .commandStarts,
        .commandSettles .resolved false .finish, .commandStarts,
        .commandSettles .resolved true .finish, .commandStarts,
        .commandSettles .resolved false .finish, .commandStarts,
        .commandSettles .resolved false .finish, .pushes 1, .runCommand, .commandStarts,
        .commandSettles .rejected false (.throw true), .disconnects 1 .finish, .pushes 0,
        .transportOpens 2]).get rfl) := by
  apply one_connection_of_undivided
  exact EventSystem.reachableWhen_get rfl _

def connects : List RadioEvent :=
  [.start, .transportOpens 0, .commandStarts, .commandSettles .resolved false .finish,
    .commandStarts, .commandSettles .resolved false .finish, .commandStarts]

def disconnectWhileSynchronising : List RadioEvent :=
  [.start, .transportOpens 0, .commandStarts, .commandSettles .resolved false .finish,
    .commandStarts, .disconnects 0 .finish]

/-- `start()` follows `stop()` while the first attempt still opens its transport. -/
def restartWhileOpening : List RadioEvent :=
  [.start, .stop, .start, .transportOpens 0, .transportOpens 1, .commandStarts,
    .commandSettles .resolved false .finish, .commandStarts,
    .commandSettles .resolved false .finish, .pushes 0]

def throwingListener : List RadioEvent :=
  connects ++ [.commandSettles .resolved false (.throw true), .closeSettles 0 .resolved false false]

def pushAfterStop : List RadioEvent :=
  connects ++ [.commandSettles .resolved false .finish, .stop, .pushes 0]

/-- Without each part of the condition the ownership is lost: two attempts at once, two open
connections, a retry beside the current connection, a packet of no current connection. -/
theorem ownership_lost :
    (∃ world, (radioSystem ⟨0, 1, 8⟩).Reachable world ∧ world.attempts.length = 2 ∧
      ¬world.OneConnection) ∧
    (∃ world, (radioSystem ⟨0, 1, 8⟩).Reachable world ∧ world.IsOpen 0 ∧ world.IsOpen 1 ∧
      ¬world.OneConnection) ∧
    (∃ world, (radioSystem ⟨0, 1, 8⟩).Reachable world ∧ world.manager.connection = some 0 ∧
      world.timers ≠ [] ∧ ¬world.OneConnection) ∧
    ∃ world, (radioSystem ⟨0, 1, 8⟩).Reachable world ∧ (0, none) ∈ world.packets ∧
      ¬world.OneConnection := by
  refine ⟨⟨((radioSystem ⟨0, 1, 8⟩).run EventSystem.anyStep (.new ⟨0, 1, 8⟩)
      disconnectWhileSynchronising).get rfl, ?_, rfl, ?_⟩,
    ⟨((radioSystem ⟨0, 1, 8⟩).run EventSystem.anyStep (.new ⟨0, 1, 8⟩)
      restartWhileOpening).get rfl, ?_, ⟨by decide, by decide, by decide⟩,
      ⟨by decide, by decide, by decide⟩, ?_⟩,
    ⟨((radioSystem ⟨0, 1, 8⟩).run EventSystem.anyStep (.new ⟨0, 1, 8⟩)
      throwingListener).get rfl, ?_, rfl, by decide, ?_⟩,
    ⟨((radioSystem ⟨0, 1, 8⟩).run EventSystem.anyStep (.new ⟨0, 1, 8⟩)
      pushAfterStop).get rfl, ?_, by decide, ?_⟩⟩
  · exact EventSystem.reachableWhen_get rfl _
  · intro one
    exact absurd one.procedures (by decide)
  · exact EventSystem.reachableWhen_get rfl _
  · intro one
    have same := one.oneOpen 0 1 ⟨by decide, by decide, by decide⟩
      ⟨by decide, by decide, by decide⟩
    cases same
  · exact EventSystem.reachableWhen_get rfl _
  · intro one
    exact absurd (one.beside 0 rfl).1 (by decide)
  · exact EventSystem.reachableWhen_get rfl _
  · intro one
    exact absurd (one.ownPackets (0, none) (by decide)) (by decide)

end RadioWorld

end MeshcoreObserver
