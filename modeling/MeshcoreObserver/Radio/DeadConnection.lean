import MeshcoreObserver.Radio.RadioManager

/-!
# Commands of dead connections

`runCommand` binds a command to the connection that is current when it is
submitted, and nothing takes the command off the queue when that connection goes
away. If the command never settles, everything behind it waits for ever, the
handshake of the next connection included; if it does, the commands behind it
still start on the connection that is gone. Neither happens in runs in which a
connection that goes away has at most the command under way on the queue, and that
one has settled before anything is submitted again.
-/

namespace MeshcoreObserver

open Transition

namespace RadioWorld

/-- No command bound to a connection that has emitted `'disconnected'` is ahead of one for a later
connection, and a command that starts now is bound to the current connection or to one that has
never been current. -/
structure Unwedged (world : RadioWorld) : Prop where
  unblocked : ∀ before later behind, world.commands.tasks = before ++ later :: behind →
    ∀ blocker ∈ before, blocker.connection ∈ world.disconnected →
      ¬blocker.connection < later.connection
  attached : ∀ started, world.commands.start = some started →
    ∀ command, started.running = some command →
      world.manager.connection = some command.connection ∨ command.connection ∉ world.wired

/-- No command waits for the current connection. -/
def NoneWaits (world : RadioWorld) : Prop :=
  ∀ command ∈ world.commands.waiting, world.manager.connection ≠ some command.connection

/-- No command of an earlier connection that has disconnected is on the queue. -/
def Clears (world : RadioWorld) (connection : Nat) : Prop :=
  ∀ command ∈ world.commands.tasks, command.connection ∈ world.disconnected →
    ¬command.connection < connection

instance (world : RadioWorld) : Decidable world.NoneWaits :=
  inferInstanceAs (Decidable (∀ command ∈ _, _))

instance (world : RadioWorld) (connection : Nat) : Decidable (world.Clears connection) :=
  inferInstanceAs (Decidable (∀ command ∈ _, _))

/-- The current connection goes away, by its own `'disconnected'`, by `stop()` or by the success
of the handshake on another one, only when no command waits for it, and a connection disconnects
only when none of its commands is ahead of one for a later connection. What is submitted is
submitted for a connection that has not gone, behind no command of a dead one. -/
def Drained (world : RadioWorld) : RadioEvent → Prop
  | .disconnects connection _ =>
      (world.manager.connection = some connection → world.NoneWaits) ∧
        world.commands.tasks.Pairwise fun blocker later =>
          blocker.connection = connection → ¬connection < later.connection
  | .stop => world.NoneWaits
  | .transportOpens _ => world.Clears world.opened
  | .runCommand => ∀ connection ∈ world.manager.connection, world.Clears connection
  | .commandSettles outcome _ _ =>
      match world.commands.running with
      | some ⟨connection, .getSelfInfo _⟩ =>
          outcome = .resolved ∧ world.manager.running → world.NoneWaits ∧ world.Clears connection
      | some ⟨connection, .getDeviceTime _⟩ | some ⟨connection, .setDeviceTime _⟩ =>
          world.manager.connection = some connection ∧ world.Clears connection
      | _ => True
  | _ => True

instance (world : RadioWorld) (event : RadioEvent) : Decidable (world.Drained event) := by
  simp only [Drained]
  split
  · infer_instance
  · infer_instance
  · infer_instance
  · infer_instance
  · split <;> infer_instance
  · infer_instance

structure Attached (world : RadioWorld) : Prop where
  waiting : ∀ command ∈ world.commands.waiting,
    world.manager.connection = some command.connection ∨ command.connection ∉ world.wired
  ordered : world.commands.tasks.Pairwise fun blocker later =>
    blocker.connection ∈ world.disconnected → ¬blocker.connection < later.connection
  bounded : ∀ command ∈ world.commands.tasks, command.connection < world.opened
  opened : ∀ connection, connection ∈ world.wired ∨ connection ∈ world.disconnected →
    connection < world.opened
  current : ∀ connection, world.manager.connection = some connection → connection ∈ world.wired

theorem attached_new (config : ReconnectConfig) : (new config).Attached where
  waiting := by simp [new]
  ordered := by simp [new]
  bounded := by simp [new]
  opened := by simp [new]
  current := nofun

variable {world after : RadioWorld}

theorem Attached.unwedged (attached : world.Attached) : world.Unwedged where
  unblocked := by
    intro before later behind tasks blocker blockerMem dead
    have ordered := attached.ordered
    rw [tasks, List.pairwise_append] at ordered
    exact ordered.2.2 blocker blockerMem later List.mem_cons_self dead
  attached := by
    intro started starts command running
    apply attached.waiting command
    rcases SerialQueue.start_eq_some starts with ⟨first, waiting, queue, rfl⟩
    simp only [Option.some.injEq] at running
    subst command
    rw [queue]
    exact List.mem_cons_self

theorem Attached.frame (attached : world.Attached)
    (connection : after.manager.connection = world.manager.connection)
    (opened : after.opened = world.opened) (wired : after.wired = world.wired)
    (disconnected : after.disconnected = world.disconnected)
    (waiting : after.commands.waiting ⊆ world.commands.waiting)
    (tasks : after.commands.tasks.Sublist world.commands.tasks) : after.Attached where
  waiting := by
    intro command commandMem
    rw [connection, wired]
    exact attached.waiting command (waiting commandMem)
  ordered := by
    rw [disconnected]
    exact attached.ordered.sublist tasks
  bounded := by
    intro command commandMem
    rw [opened]
    exact attached.bounded command (tasks.subset commandMem)
  opened := by
    rw [opened, wired, disconnected]
    exact attached.opened
  current := by
    rw [connection, wired]
    exact attached.current

theorem Attached.submit (attached : world.Attached) {connection : Nat}
    (attends : world.manager.connection = some connection ∨ connection ∉ world.wired)
    (bound : connection < world.opened) (clears : world.Clears connection)
    (purpose : CommandPurpose) : (world.submit connection purpose).Attached where
  waiting := by
    intro command commandMem
    rcases List.mem_append.mp commandMem with old | new
    · exact attached.waiting command old
    · rw [List.mem_singleton.mp new]
      exact attends
  ordered := by
    rw [RadioWorld.submit, SerialQueue.tasks_submit]
    refine List.pairwise_append.mpr ⟨attached.ordered, List.pairwise_singleton _ _, ?_⟩
    intro blocker blockerMem later laterMem
    rw [List.mem_singleton.mp laterMem]
    exact clears blocker blockerMem
  bounded := by
    intro command commandMem
    rw [RadioWorld.submit, SerialQueue.tasks_submit] at commandMem
    rcases List.mem_append.mp commandMem with old | new
    · exact attached.bounded command old
    · rw [List.mem_singleton.mp new]
      exact bound
  opened := attached.opened
  current := attached.current

theorem Attached.setPhase (attached : world.Attached) (number : Nat) (phase : AttemptPhase) :
    (world.setPhase number phase).Attached := { attached with }

theorem Attached.attemptConnect (attached : world.Attached) :
    world.attemptConnect.Attached := by
  rcases world.attemptConnect_spec with ⟨attempts, nextAttempt, same, _⟩
  rw [same]
  exact { attached with }

theorem Attached.reportFailure (attached : world.Attached) (number : Nat)
    (errorThrows fatalThrows : Bool) :
    (world.reportFailure number errorThrows fatalThrows).Attached := by
  rcases world.reportFailure_spec number errorThrows fatalThrows with
    ⟨manager, timers, nextTimer, entries, same, connection, _⟩
  rw [same]
  exact attached.frame connection rfl rfl rfl (List.Subset.refl _) (List.Sublist.refl _)

/-- The settled command leaves the queue. -/
theorem Attached.settle (attached : world.Attached) :
    Attached { world with commands := { world.commands with running := none } } := by
  refine attached.frame rfl rfl rfl rfl ?_ ?_
  · exact List.Subset.refl _
  · exact List.sublist_append_right _ _

theorem Clears.settle {connection : Nat} (clears : world.Clears connection) :
    Clears { world with commands := { world.commands with running := none } } connection := by
  intro command commandMem
  exact clears command (List.mem_append_right _ commandMem)

theorem Attached.publish (attached : world.Attached) {number connection : Nat}
    (bound : connection < world.opened)
    (drained : world.manager.running → world.NoneWaits ∧ world.Clears connection) :
    (world.publish number connection).Attached := by
  simp only [RadioWorld.publish]
  split
  · rename_i running
    rcases drained running with ⟨noneWaits, clears⟩
    apply Attached.setPhase
    apply Attached.submit
    · exact
        { waiting := by
            intro command commandMem
            rcases attached.waiting command commandMem with current | unwired
            · exact absurd current (noneWaits command commandMem)
            · by_cases same : command.connection = connection
              · exact Or.inl (congrArg some same.symm)
              · exact Or.inr (by simp [same, unwired])
          ordered := attached.ordered
          bounded := attached.bounded
          opened := by
            intro other known
            rcases known with wired | disconnected
            · rcases List.mem_cons.mp wired with rfl | wired
              · exact bound
              · exact attached.opened other (Or.inl wired)
            · exact attached.opened other (Or.inr disconnected)
          current := by
            intro other current
            simp only [Option.some.injEq] at current
            subst other
            exact List.mem_cons_self }
    · exact Or.inl rfl
    · exact bound
    · exact clears
  · exact { attached with }

theorem Attached.fetchDeviceQuery (attached : world.Attached) {number connection : Nat}
    (current : world.manager.connection = some connection) (clears : world.Clears connection) :
    (world.fetchDeviceQuery number connection).Attached := by
  have bound := attached.opened connection (Or.inl (attached.current connection current))
  exact (attached.submit (Or.inl current) bound clears _).setPhase _ _

theorem Attached.commandSettles (attached : world.Attached) {outcome : Outcome} {behind : Bool}
    {listeners : Listeners} (drained : world.Drained (.commandSettles outcome behind listeners))
    (stepped : world.step (.commandSettles outcome behind listeners) = some after) :
    after.Attached := by
  rcases commandSettles_eq_some stepped with ⟨⟨connection, purpose⟩, running, rfl⟩
  have settled := attached.settle
  have bound := attached.bounded _ (SerialQueue.mem_tasks_of_running running)
  cases purpose with
  | getSelfInfo number =>
      simp only [Drained, running] at drained
      cases outcome with
      | resolved =>
          apply settled.publish bound
          intro isRunning
          have drained := drained ⟨rfl, isRunning⟩
          exact ⟨drained.1, drained.2.settle⟩
      | rejected => exact { settled with }
  | getDeviceTime number =>
      simp only [Drained, running] at drained
      have clears := drained.2.settle
      cases outcome with
      | resolved =>
          simp only [RadioWorld.continueWith]
          split
          · exact (settled.submit (Or.inl drained.1) bound clears _).setPhase _ _
          · exact settled.fetchDeviceQuery drained.1 clears
      | rejected => exact settled.fetchDeviceQuery drained.1 clears
  | setDeviceTime number =>
      simp only [Drained, running] at drained
      exact settled.fetchDeviceQuery drained.1 drained.2.settle
  | deviceQuery number =>
      cases outcome with
      | resolved => cases listeners <;> exact { settled with }
      | rejected => cases listeners <;> exact { settled with }
  | runCommand => exact settled

theorem Attached.disconnects (attached : world.Attached) {connection : Nat}
    {listeners : Listeners} (drained : world.Drained (.disconnects connection listeners))
    (stepped : world.step (.disconnects connection listeners) = some after) :
    after.Attached := by
  rcases disconnects_eq_some stepped with ⟨bound, lost⟩
  rcases drained with ⟨noneWaits, unblocking⟩
  have ordered : world.commands.tasks.Pairwise fun blocker later =>
      blocker.connection ∈ connection :: world.disconnected →
        ¬blocker.connection < later.connection := by
    apply (attached.ordered.and unblocking).imp
    rintro blocker later ⟨old, new⟩ dead
    rcases List.mem_cons.mp dead with same | dead
    · rw [same]
      exact new same
    · exact old dead
  have opened : ∀ other, other ∈ world.wired ∨ other ∈ connection :: world.disconnected →
      other < world.opened := by
    intro other known
    rcases known with wired | disconnected
    · exact attached.opened other (Or.inl wired)
    · rcases List.mem_cons.mp disconnected with rfl | disconnected
      · exact bound
      · exact attached.opened other (Or.inr disconnected)
  rcases lost with ⟨lost, rfl⟩ | ⟨kept, rfl⟩
  · have none : Attached { world with
        disconnected := connection :: world.disconnected
        manager := { world.manager with connection := none } } :=
      { waiting := by
          intro command commandMem
          rcases attached.waiting command commandMem with current | unwired
          · exact absurd current (noneWaits lost.2 command commandMem)
          · exact Or.inr unwired
        ordered
        bounded := attached.bounded
        opened
        current := nofun }
    cases listeners with
    | throw schedulerCalled => exact { none with }
    | finish =>
        simp only [loseConnection]
        split
        · apply Attached.attemptConnect
          exact { none with }
        · exact { none with }
  · exact { attached with ordered, opened }

theorem Attached.step {event : RadioEvent} (attached : world.Attached)
    (drained : world.Drained event) (stepped : world.step event = some after) :
    after.Attached := by
  cases event with
  | start =>
      simp only [RadioWorld.step, Option.some.injEq] at stepped
      subst after
      simp only [RadioWorld.start]
      split
      · exact attached
      · apply Attached.attemptConnect
        exact { attached with }
  | stop =>
      simp only [RadioWorld.step, Option.some.injEq] at stepped
      subst after
      exact
        { attached with
          waiting := by
            intro command commandMem
            rcases attached.waiting command commandMem with current | unwired
            · exact absurd current (drained command commandMem)
            · exact Or.inr unwired
          current := by
            intro connection current
            cases current }
  | transportOpens number =>
      rcases transportOpens_eq_some stepped with ⟨_, rfl⟩
      apply Attached.setPhase
      apply Attached.submit
      · exact
          { attached with
            bounded := fun command commandMem =>
              Nat.lt_succ_of_lt (attached.bounded command commandMem)
            opened := fun connection known =>
              Nat.lt_succ_of_lt (attached.opened connection known) }
      · right
        intro wired
        exact Nat.lt_irrefl _ (attached.opened _ (Or.inl wired))
      · exact Nat.lt_succ_self _
      · exact drained
  | transportFails number errorThrows fatalThrows =>
      rcases transportFails_eq_some stepped with ⟨_, rfl⟩
      exact attached.reportFailure _ _ _
  | commandStarts =>
      rcases commandStarts_eq_some stepped with ⟨commands, starts, rfl⟩
      have tasks := SerialQueue.tasks_start starts
      rcases SerialQueue.start_eq_some starts with ⟨command, waiting, queue, rfl⟩
      refine attached.frame rfl rfl rfl rfl ?_ ?_
      · rw [queue]
        exact List.subset_cons_self _ _
      · exact tasks ▸ List.Sublist.refl _
  | commandSettles outcome behind listeners => exact attached.commandSettles drained stepped
  | closeSettles number outcome errorThrows fatalThrows =>
      rcases closeSettles_eq_some stepped with ⟨_, _, rfl⟩ | ⟨_, _, rfl | rfl⟩
      · exact attached.reportFailure _ _ _
      · exact { attached with }
      · exact { attached with }
  | disconnects connection listeners => exact attached.disconnects drained stepped
  | retryFires number =>
      rcases retryFires_eq_some stepped with ⟨_, rfl⟩
      apply Attached.attemptConnect
      exact { attached with }
  | pushes connection =>
      rcases pushes_eq_some stepped with rfl | ⟨_, rfl⟩
      · exact attached
      · exact { attached with }
  | runCommand =>
      rcases runCommand_eq_some stepped with rfl | ⟨connection, current, rfl⟩
      · exact attached
      · have wired := attached.current connection current
        exact attached.submit (Or.inl current) (attached.opened connection (Or.inl wired))
          (drained connection current) _

/-- In every drained run, in every state: no command of a dead connection keeps one for a later
connection from starting, and no command starts on a connection that is no longer current. -/
theorem unwedged_of_drained {config : ReconnectConfig}
    (reachable : (radioSystem config).ReachableWhen Drained world) : world.Unwedged := by
  have attached : world.Attached := by
    apply reachable.invariant
    · rintro initial rfl
      exact attached_new config
    · intro before event next attached drained stepped
      exact attached.step drained stepped
  exact attached.unwedged

def settles : List RadioEvent :=
  [.start, .transportOpens 0, .commandStarts, .commandSettles .resolved false .finish,
    .commandStarts, .commandSettles .resolved false .finish, .commandStarts,
    .commandSettles .resolved false .finish]

theorem unwedged_of_reconnect :
    Unwedged (((radioSystem ⟨0, 1, 8⟩).run Drained (.new ⟨0, 1, 8⟩)
      (settles ++ [.runCommand, .commandStarts, .disconnects 0 .finish,
        .commandSettles .rejected false .finish, .transportOpens 1, .commandStarts])).get rfl) := by
  apply unwedged_of_drained
  exact EventSystem.reachableWhen_get rfl _

/-- A command is under way when its connection disconnects. -/
def disconnectDuringCommand : List RadioEvent :=
  settles ++ [.runCommand, .runCommand, .commandStarts, .disconnects 0 .finish, .transportOpens 1]

/-- The handshake of the next connection waits behind the command of the dead one; and when that
command settles, the next one starts on the dead connection. -/
theorem wedged :
    (∃ world, (radioSystem ⟨0, 1, 8⟩).Reachable world ∧ world.commands.start = none ∧
      world.commands.running = some ⟨0, .runCommand⟩ ∧ 0 ∈ world.disconnected ∧
      ⟨1, .getSelfInfo 1⟩ ∈ world.commands.waiting ∧ ¬world.Unwedged) ∧
    ∃ world, (radioSystem ⟨0, 1, 8⟩).Reachable world ∧
      world.commands.running = none ∧ ¬world.Unwedged := by
  refine ⟨⟨((radioSystem ⟨0, 1, 8⟩).run EventSystem.anyStep (.new ⟨0, 1, 8⟩)
      disconnectDuringCommand).get rfl, ?_, rfl, rfl, by decide, by decide, ?_⟩,
    ⟨((radioSystem ⟨0, 1, 8⟩).run EventSystem.anyStep (.new ⟨0, 1, 8⟩)
      (disconnectDuringCommand ++ [.commandSettles .rejected false .finish])).get rfl, ?_, rfl, ?_⟩⟩
  · exact EventSystem.reachableWhen_get rfl _
  · intro unwedged
    exact unwedged.unblocked [⟨0, .runCommand⟩, ⟨0, .runCommand⟩] ⟨1, .getSelfInfo 1⟩ [] rfl
      ⟨0, .runCommand⟩ List.mem_cons_self (by decide) (by decide)
  · exact EventSystem.reachableWhen_get rfl _
  · intro unwedged
    rcases unwedged.attached _ rfl ⟨0, .runCommand⟩ rfl with current | unwired
    · cases current
    · exact unwired (by decide)

end RadioWorld

end MeshcoreObserver
