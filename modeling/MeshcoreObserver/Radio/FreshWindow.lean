import MeshcoreObserver.Radio.OutboundRadio

/-!
# Fresh quiet windows

The coordinator looks at the quiet window when it grants the air. The command of
the granted operation runs later, possibly behind other commands, and nothing
looks again; and the completion of a command does not count as activity. So the
window in front of an invocation is fresh in the runs that leave no packet in
the wait between a grant and its invocation and no completion in the window in
front of a grant, and it need not be in the others.
-/

namespace MeshcoreObserver

open Transition

namespace OutboundWorld

/-- No packet and no completed transmission in the quiet window before an invocation. -/
def FreshWindows (quietMs : Int) (world : OutboundWorld) : Prop :=
  ∀ number now, .invoked number now ∈ world.log → ∀ entry ∈ world.log, entry.Disturbs →
    ¬(now - quietMs < entry.time ∧ entry.time < now)

/-- The transmissions that keep their windows. When the command of a transmission starts, every
packet heard since its grant is at least a window old or arrives at that very time; when the air
is granted, every transmission completed at least a window ago. -/
def Undisturbed (quietMs : Int) (world : OutboundWorld) : OutboundEvent → Prop
  | .commandStarts now => world.transmissionNext = true →
      ∀ heardAt ∈ world.heardSinceGrant, heardAt + quietMs ≤ now ∨ heardAt = now
  | .tryRunWhenQuiet _ checkedAt notedAt =>
      (world.air.coordinator.tryRunWhenQuiet checkedAt notedAt).isSome →
        ∀ completedAt ∈ world.completions, completedAt + quietMs ≤ checkedAt
  | _ => True

instance (quietMs : Int) (world : OutboundWorld) (event : OutboundEvent) :
    Decidable (world.Undisturbed quietMs event) := by
  cases event <;> simp only [Undisturbed] <;> infer_instance

def Uninvoked (world : OutboundWorld) : Prop :=
  (∃ operation ∈ world.air.operations, operation.phase = .reserved) ∨
    ∃ number, .transmission number ∈ world.commands.waiting

/-- The relation between the record, the reservation and the command queue. -/
structure Windowed (quietMs : Int) (world : OutboundWorld) : Prop where
  reserved : world.air.Reserved quietMs
  fresh : world.FreshWindows quietMs
  past : ∀ entry ∈ world.log, entry.time ≤ world.air.clock
  noted : ∀ now, .heard now ∈ world.log → .noted now ∈ world.air.history
  commanded : ∀ number, .transmission number ∈ world.commands.tasks →
    ∃ operation ∈ world.air.operations, operation.number = number ∧ operation.phase = .running
  single : (world.commands.tasks.filter fun command => command ≠ .other).length ≤ 1
  waited : world.Uninvoked → ∀ entry ∈ world.log, entry.Disturbs →
    (∃ heardAt ∈ world.heardSinceGrant, entry = .heard heardAt) ∨
      entry.time + quietMs ≤ world.air.clock

variable {quietMs : Int} {world after : OutboundWorld}

theorem windowed_new (quietMs now : Int) : (new quietMs now).Windowed quietMs where
  reserved := AirtimeWorld.reserved_new quietMs now
  fresh := by simp [FreshWindows, new]
  past := by simp [new]
  noted := by simp [new]
  commanded := by simp [new]
  single := by simp [new]
  waited := by simp [new]

theorem FreshWindows.cons (fresh : world.FreshWindows quietMs)
    (past : ∀ entry ∈ world.log, entry.time ≤ world.air.clock) (entry : OutboundEntry)
    (later : world.air.clock ≤ entry.time) (uninvoked : ∀ number now, entry ≠ .invoked number now)
    (air : AirtimeWorld Sender) (commands : SerialQueue OutboundCommand) :
    FreshWindows quietMs { air, commands, log := entry :: world.log } := by
  intro number now invoked other otherMem disturbs
  rcases List.mem_cons.mp invoked with same | invokedBefore
  · exact absurd same.symm (uninvoked number now)
  · rcases List.mem_cons.mp otherMem with rfl | otherBefore
    · have before : now ≤ world.air.clock := past _ invokedBefore
      omega
    · exact fresh number now invokedBefore other otherBefore disturbs

theorem FreshWindows.cons_invoked (fresh : world.FreshWindows quietMs) {number : Nat} {now : Int}
    (quiet : ∀ entry ∈ world.log, entry.Disturbs → entry.time + quietMs ≤ now ∨ entry.time = now)
    (air : AirtimeWorld Sender) (commands : SerialQueue OutboundCommand) :
    FreshWindows quietMs { air, commands, log := .invoked number now :: world.log } := by
  intro other otherNow invoked entry entryMem disturbs
  rcases List.mem_cons.mp entryMem with rfl | entryMem
  · exact absurd disturbs id
  · rcases List.mem_cons.mp invoked with same | invokedBefore
    · simp only [OutboundEntry.invoked.injEq] at same
      have quiet := quiet entry entryMem disturbs
      omega
    · exact fresh other otherNow invokedBefore entry entryMem disturbs

theorem Windowed.past_cons (windowed : world.Windowed quietMs) {entry : OutboundEntry}
    (later : world.air.clock ≤ entry.time) :
    ∀ other ∈ entry :: world.log, other.time ≤ entry.time := by
  intro other otherMem
  rcases List.mem_cons.mp otherMem with rfl | old
  · exact Int.le_refl _
  · exact Int.le_trans (windowed.past other old) later

theorem Windowed.noted_cons (windowed : world.Windowed quietMs) {entry : OutboundEntry}
    (unheard : ∀ now, entry ≠ .heard now) :
    ∀ now, .heard now ∈ entry :: world.log → .noted now ∈ world.air.history := by
  intro now heard
  rcases List.mem_cons.mp heard with same | old
  · exact absurd same.symm (unheard now)
  · exact windowed.noted now old

theorem heardSinceGrant_heard (air : AirtimeWorld Sender)
    (commands : SerialQueue OutboundCommand) (log : List OutboundEntry) (now : Int) :
    heardSinceGrant { air, commands, log := .heard now :: log } =
      now :: heardSinceGrant { air, commands, log } := rfl

theorem mem_completions {entry : OutboundEntry} (entryMem : entry ∈ world.log)
    (disturbs : entry.Disturbs) :
    (∃ now, entry = .heard now) ∨ entry.time ∈ world.completions := by
  cases entry with
  | heard now => exact Or.inl ⟨now, rfl⟩
  | granted number checkedAt => exact absurd disturbs id
  | invoked number now => exact absurd disturbs id
  | completed number now =>
      right
      exact List.mem_filterMap.mpr ⟨_, entryMem, rfl⟩

theorem Windowed.idle_of_reserved (windowed : world.Windowed quietMs)
    {operation : Operation Sender} (operationMem : operation ∈ world.air.operations)
    (phase : operation.phase ≠ .running) (number : Nat) :
    .transmission number ∉ world.commands.tasks := by
  intro commandMem
  rcases windowed.commanded number commandMem with ⟨other, otherMem, _, running⟩
  rw [windowed.reserved.operations_eq operationMem, List.mem_singleton] at otherMem
  subst other
  exact phase running

theorem Windowed.packetHeard (windowed : world.Windowed quietMs) {now : Int}
    (stepped : world.step (.packetHeard now) = some after) : after.Windowed quietMs := by
  simp only [step, Option.map_eq_some_iff] at stepped
  rcases stepped with ⟨air, heard, rfl⟩
  have reserved := windowed.reserved.step heard
  simp only [AirtimeWorld.step, Option.ite_none_right_eq_some, Option.some.injEq] at heard
  rcases heard with ⟨later, rfl⟩
  exact
    { reserved
      fresh := windowed.fresh.cons windowed.past (.heard now) later (by simp) _ _
      past := windowed.past_cons later
      noted := by
        intro heardAt heard
        rcases List.mem_cons.mp heard with same | old
        · simp only [OutboundEntry.heard.injEq] at same
          subst heardAt
          exact List.mem_cons_self
        · exact List.mem_cons_of_mem _ (windowed.noted heardAt old)
      commanded := windowed.commanded
      single := windowed.single
      waited := by
        intro uninvoked entry entryMem disturbs
        rcases List.mem_cons.mp entryMem with rfl | old
        · left
          refine ⟨now, ?_, rfl⟩
          rw [heardSinceGrant_heard]
          exact List.mem_cons_self
        · rcases windowed.waited uninvoked entry old disturbs with ⟨heardAt, since, rfl⟩ | quiet
          · left
            refine ⟨heardAt, ?_, rfl⟩
            rw [heardSinceGrant_heard]
            exact List.mem_cons_of_mem now since
          · right
            exact Int.le_trans quiet later }

theorem Windowed.tryRunWhenQuiet (windowed : world.Windowed quietMs) {sender : Sender}
    {checkedAt notedAt : Int}
    (quiet : (world.air.coordinator.tryRunWhenQuiet checkedAt notedAt).isSome →
      ∀ completedAt ∈ world.completions, completedAt + quietMs ≤ checkedAt)
    (stepped : world.step (.tryRunWhenQuiet sender checkedAt notedAt) = some after) :
    after.Windowed quietMs := by
  simp only [step, Option.map_eq_some_iff] at stepped
  rcases stepped with ⟨air, asked, rfl⟩
  have reserved := windowed.reserved.step asked
  simp only [AirtimeWorld.step, Option.ite_none_right_eq_some, Option.some.injEq] at asked
  rcases asked with ⟨⟨later, ordered⟩, rfl⟩
  cases answer : world.air.coordinator.tryRunWhenQuiet checkedAt notedAt with
  | none =>
      have refused : world.air.request sender checkedAt notedAt =
          { world.air with clock := checkedAt } := by
        simp only [AirtimeWorld.request, answer]
      have entries : world.grantEntries { world.air with clock := checkedAt } checkedAt = [] := by
        simp [grantEntries]
      rw [refused] at reserved ⊢
      rw [entries, List.nil_append]
      exact
        { windowed with
          reserved
          past := fun entry entryMem => Int.le_trans (windowed.past entry entryMem) later
          waited := by
            intro uninvoked entry entryMem disturbs
            refine (windowed.waited uninvoked entry entryMem disturbs).imp_right ?_
            intro old
            exact Int.le_trans old later }
  | some coordinator =>
      rcases AirtimeCoordinator.tryRunWhenQuiet_eq_some.mp answer with ⟨free, silent, _⟩
      have idle : world.air.operations = [] := by
        by_contra occupied
        simp [windowed.reserved.sending.mpr occupied] at free
      have granted : world.air.request sender checkedAt notedAt =
          { coordinator, clock := notedAt, granted := world.air.granted + 1
            operations := [⟨world.air.granted, sender, .reserved⟩]
            history := .granted sender checkedAt notedAt :: world.air.history } := by
        simp [AirtimeWorld.request, answer, idle]
      rw [granted] at reserved ⊢
      simp only [grantEntries, Nat.succ_ne_self, if_false, List.singleton_append]
      have untransmitted : ∀ number, .transmission number ∉ world.commands.tasks := by
        intro number commandMem
        rcases windowed.commanded number commandMem with ⟨operation, operationMem, _⟩
        simp [idle] at operationMem
      exact
        { reserved
          fresh := windowed.fresh.cons windowed.past (.granted _ checkedAt) later (by simp) _ _
          past := by
            intro entry entryMem
            rcases List.mem_cons.mp entryMem with rfl | old
            · exact ordered
            · exact Int.le_trans (windowed.past entry old) (Int.le_trans later ordered)
          noted := by
            intro heardAt heard
            exact List.mem_cons_of_mem _ (windowed.noted_cons (by simp) heardAt heard)
          commanded := fun number commandMem => absurd commandMem (untransmitted number)
          single := windowed.single
          waited := by
            intro _ entry entryMem disturbs
            right
            rcases List.mem_cons.mp entryMem with rfl | old
            · exact absurd disturbs id
            · rcases mem_completions old disturbs with ⟨now, rfl⟩ | completed
              · have latest := windowed.reserved.latest _ (windowed.noted now old)
                have window := windowed.reserved.window
                simp only [AirtimeEntry.activityAt, OutboundEntry.time] at latest ⊢
                omega
              · exact Int.le_trans (quiet (by simp [answer]) _ completed) ordered }

theorem Windowed.sendStarts (windowed : world.Windowed quietMs) {number : Nat}
    (stepped : world.step (.sendStarts number) = some after) : after.Windowed quietMs := by
  simp only [step, Option.map_eq_some_iff] at stepped
  rcases stepped with ⟨air, started, rfl⟩
  have reserved := windowed.reserved.step started
  simp only [AirtimeWorld.step, AirtimeWorld.advance, Option.ite_none_right_eq_some,
    Option.some.injEq] at started
  rcases started with ⟨present, rfl⟩
  rcases List.any_eq_true.mp present with ⟨operation, operationMem, matched⟩
  simp only [Bool.decide_and, Bool.and_eq_true, decide_eq_true_eq] at matched
  rcases matched with ⟨rfl, phase⟩
  have only := windowed.reserved.operations_eq operationMem
  have untransmitted := windowed.idle_of_reserved operationMem (by simp [phase])
  exact
    { reserved
      fresh := windowed.fresh
      past := windowed.past
      noted := windowed.noted
      commanded := by
        intro number commandMem
        simp only [SerialQueue.tasks_submit, List.mem_append, List.mem_singleton,
          OutboundCommand.transmission.injEq] at commandMem
        rcases commandMem with old | rfl
        · exact absurd old (untransmitted number)
        · simp [only]
      single := by
        have none : (world.commands.tasks.filter fun command => command ≠ .other) = [] := by
          rw [List.filter_eq_nil_iff]
          intro command commandMem
          cases command with
          | transmission number => exact absurd commandMem (untransmitted number)
          | other => simp
        simp only [SerialQueue.tasks_submit, List.filter_append, none, List.nil_append]
        exact List.length_filter_le _ _
      waited := by
        intro _ entry entryMem disturbs
        exact windowed.waited (Or.inl ⟨operation, operationMem, phase⟩) entry entryMem disturbs }

theorem Windowed.frame_air (windowed : world.Windowed quietMs) {air : AirtimeWorld Sender}
    (reserved : air.Reserved quietMs) (clock : air.clock = world.air.clock)
    (history : air.history = world.air.history)
    (untransmitted : ∀ number, .transmission number ∉ world.commands.tasks)
    (unreserved : ∀ operation ∈ air.operations, operation.phase ≠ .reserved) :
    Windowed quietMs { world with air } where
  reserved := reserved
  fresh := windowed.fresh
  past := by simpa only [clock] using windowed.past
  noted := by simpa only [history] using windowed.noted
  commanded := fun number commandMem => absurd commandMem (untransmitted number)
  single := windowed.single
  waited := by
    rintro (⟨operation, operationMem, phase⟩ | ⟨number, commandMem⟩)
    · exact absurd phase (unreserved operation operationMem)
    · exact absurd (List.mem_append_right _ commandMem) (untransmitted number)

theorem Windowed.sendReturns (windowed : world.Windowed quietMs) {number : Nat}
    {outcome : Outcome} (stepped : world.step (.sendReturns number outcome) = some after) :
    after.Windowed quietMs := by
  simp only [step, Option.map_eq_some_iff, Option.bind_eq_some_iff] at stepped
  rcases stepped with ⟨air, ⟨middle, started, settled⟩, rfl⟩
  have reserved := (windowed.reserved.step started).step settled
  simp only [AirtimeWorld.step, AirtimeWorld.advance, Option.ite_none_right_eq_some,
    Option.some.injEq] at started settled
  rcases started with ⟨present, rfl⟩
  rcases settled with ⟨_, rfl⟩
  rcases List.any_eq_true.mp present with ⟨operation, operationMem, matched⟩
  simp only [Bool.decide_and, Bool.and_eq_true, decide_eq_true_eq] at matched
  rcases matched with ⟨rfl, phase⟩
  have only := windowed.reserved.operations_eq operationMem
  apply windowed.frame_air reserved rfl rfl
  · exact windowed.idle_of_reserved operationMem (by simp [phase])
  · simp [only]

theorem Windowed.released (windowed : world.Windowed quietMs) {number : Nat}
    (stepped : world.step (.released number) = some after) : after.Windowed quietMs := by
  simp only [step, Option.map_eq_some_iff] at stepped
  rcases stepped with ⟨air, released, rfl⟩
  have reserved := windowed.reserved.step released
  simp only [AirtimeWorld.step, Option.ite_none_right_eq_some, Option.some.injEq] at released
  rcases released with ⟨present, rfl⟩
  rcases List.any_eq_true.mp present with ⟨operation, operationMem, matched⟩
  simp only [Bool.decide_and, Bool.decide_or, Bool.and_eq_true, Bool.or_eq_true,
    decide_eq_true_eq] at matched
  rcases matched with ⟨rfl, settled⟩
  have only := windowed.reserved.operations_eq operationMem
  apply windowed.frame_air reserved rfl rfl
  · apply windowed.idle_of_reserved operationMem
    rcases settled with settled | settled <;> simp [settled]
  · simp [only]

theorem Windowed.otherCommand (windowed : world.Windowed quietMs) :
    Windowed quietMs { world with commands := world.commands.submit .other } where
  reserved := windowed.reserved
  fresh := windowed.fresh
  past := windowed.past
  noted := windowed.noted
  commanded := by
    intro number commandMem
    simp only [SerialQueue.tasks_submit, List.mem_append, List.mem_singleton, reduceCtorEq,
      or_false] at commandMem
    exact windowed.commanded number commandMem
  single := by simpa using windowed.single
  waited := by
    intro uninvoked
    apply windowed.waited
    refine uninvoked.imp_right ?_
    rintro ⟨number, commandMem⟩
    simp only [SerialQueue.submit, List.mem_append, List.mem_singleton, reduceCtorEq,
      or_false] at commandMem
    exact ⟨number, commandMem⟩

theorem Windowed.later (windowed : world.Windowed quietMs) {now : Int}
    (later : world.air.clock ≤ now) :
    Windowed quietMs { world with air := { world.air with clock := now } } where
  reserved := { windowed.reserved with clocked := Int.le_trans windowed.reserved.clocked later }
  fresh := windowed.fresh
  past := fun entry entryMem => Int.le_trans (windowed.past entry entryMem) later
  noted := windowed.noted
  commanded := windowed.commanded
  single := windowed.single
  waited := by
    intro uninvoked entry entryMem disturbs
    refine (windowed.waited uninvoked entry entryMem disturbs).imp_right ?_
    intro quiet
    exact Int.le_trans quiet later

theorem Windowed.queue (windowed : world.Windowed quietMs)
    {commands : SerialQueue OutboundCommand} (tasks : commands.tasks.Sublist world.commands.tasks)
    (waiting : commands.waiting.Sublist world.commands.waiting) :
    Windowed quietMs { world with commands } where
  reserved := windowed.reserved
  fresh := windowed.fresh
  past := windowed.past
  noted := windowed.noted
  commanded := fun number commandMem => windowed.commanded number (tasks.subset commandMem)
  single := Nat.le_trans (tasks.filter _).length_le windowed.single
  waited := by
    intro uninvoked
    apply windowed.waited
    refine uninvoked.imp_right ?_
    rintro ⟨number, commandMem⟩
    exact ⟨number, waiting.subset commandMem⟩

theorem Windowed.alone (windowed : world.Windowed quietMs) {first : Nat}
    {tasks : List OutboundCommand} (queued : world.commands.tasks = .transmission first :: tasks)
    (number : Nat) : .transmission number ∉ tasks := by
  intro commandMem
  have single := windowed.single
  have second : .transmission number ∈ tasks.filter fun command => command ≠ .other := by
    simpa using commandMem
  have length := List.length_pos_of_mem second
  rw [queued, List.filter_cons_of_pos (by simp), List.length_cons] at single
  omega

theorem Windowed.commandStarts (windowed : world.Windowed quietMs) {now : Int}
    (quiet : world.transmissionNext = true →
      ∀ heardAt ∈ world.heardSinceGrant, heardAt + quietMs ≤ now ∨ heardAt = now)
    (stepped : world.step (.commandStarts now) = some after) : after.Windowed quietMs := by
  simp only [step, Option.ite_none_right_eq_some, Option.map_eq_some_iff] at stepped
  rcases stepped with ⟨later, commands, starts, rfl⟩
  have tasks := SerialQueue.tasks_start starts
  rcases SerialQueue.start_eq_some starts with ⟨command, waiting, queue, rfl⟩
  cases command with
  | other =>
      apply (windowed.later later).queue
      · exact tasks ▸ List.Sublist.refl _
      · rw [queue]
        exact List.sublist_cons_self _ _
  | transmission number =>
      have queued : world.commands.tasks = .transmission number :: waiting := by rw [queue]; rfl
      have uninvoked : world.Uninvoked := Or.inr ⟨number, by simp [queue]⟩
      have quiet := quiet (by simp [transmissionNext, queue])
      exact
        { reserved := (windowed.later later).reserved
          fresh := by
            apply windowed.fresh.cons_invoked
            intro entry entryMem disturbs
            rcases windowed.waited uninvoked entry entryMem disturbs with
              ⟨heardAt, since, rfl⟩ | old
            · exact quiet heardAt since
            · exact Or.inl (Int.le_trans old later)
          past := windowed.past_cons later
          noted := windowed.noted_cons (by simp)
          commanded := fun other commandMem => windowed.commanded other (tasks ▸ commandMem)
          single := tasks ▸ windowed.single
          waited := by
            rintro (⟨operation, operationMem, phase⟩ | ⟨other, commandMem⟩)
            · have absent := windowed.idle_of_reserved operationMem (by simp [phase]) number
              exact absurd (queued ▸ List.mem_cons_self) absent
            · exact absurd commandMem (windowed.alone queued other) }

theorem Windowed.commandSettles (windowed : world.Windowed quietMs) {now : Int}
    {outcome : Outcome} (stepped : world.step (.commandSettles now outcome) = some after) :
    after.Windowed quietMs := by
  simp only [step, settle, Option.ite_none_right_eq_some] at stepped
  rcases stepped with ⟨later, stepped⟩
  split at stepped
  · cases stepped
  · rename_i running
    simp only [Option.some.injEq] at stepped
    subst after
    apply (windowed.later later).queue
    · simp [SerialQueue.tasks]
    · exact List.Sublist.refl _
  · rename_i number running
    simp only [Option.map_eq_some_iff] at stepped
    rcases stepped with ⟨air, settled, rfl⟩
    have reserved := windowed.reserved.step settled
    simp only [AirtimeWorld.step, AirtimeWorld.advance, Option.ite_none_right_eq_some,
      Option.some.injEq] at settled
    rcases settled with ⟨present, rfl⟩
    rcases List.any_eq_true.mp present with ⟨operation, operationMem, matched⟩
    simp only [Bool.decide_and, Bool.and_eq_true, decide_eq_true_eq] at matched
    rcases matched with ⟨rfl, phase⟩
    have only := windowed.reserved.operations_eq operationMem
    have queued : world.commands.tasks =
        .transmission operation.number :: world.commands.waiting := by
      simp [SerialQueue.tasks, running]
    have alone := windowed.alone queued
    exact
      { reserved := { reserved with clocked := Int.le_trans reserved.clocked later }
        fresh := windowed.fresh.cons windowed.past (.completed _ now) later (by simp) _ _
        past := windowed.past_cons later
        noted := windowed.noted_cons (by simp)
        commanded := fun number commandMem => absurd commandMem (alone number)
        single := by
          have single := windowed.single
          rw [queued, List.filter_cons_of_pos (by simp), List.length_cons] at single
          exact Nat.le_of_succ_le single
        waited := by
          rintro (⟨other, otherMem, reservedPhase⟩ | ⟨number, commandMem⟩)
          · simp only [only, List.map_cons, List.map_nil, if_true, List.mem_singleton] at otherMem
            subst other
            cases reservedPhase
          · exact absurd commandMem (alone number) }

theorem Windowed.step {event : OutboundEvent} (windowed : world.Windowed quietMs)
    (undisturbed : world.Undisturbed quietMs event) (stepped : world.step event = some after) :
    after.Windowed quietMs := by
  cases event with
  | packetHeard now => exact windowed.packetHeard stepped
  | tryRunWhenQuiet sender checkedAt notedAt => exact windowed.tryRunWhenQuiet undisturbed stepped
  | sendStarts number => exact windowed.sendStarts stepped
  | sendReturns number outcome => exact windowed.sendReturns stepped
  | otherCommand =>
      simp only [OutboundWorld.step, Option.some.injEq] at stepped
      subst after
      exact windowed.otherCommand
  | commandStarts now => exact windowed.commandStarts undisturbed stepped
  | commandSettles now outcome => exact windowed.commandSettles stepped
  | released number => exact windowed.released stepped

/-- In every run whose transmissions are undisturbed, no packet and no completed transmission lies
in the quiet window before an invocation. -/
theorem fresh_windows_of_undisturbed
    (reachable : (outboundSystem quietMs).ReachableWhen (Undisturbed quietMs) world) :
    world.FreshWindows quietMs := by
  have windowed : world.Windowed quietMs :=
    reachable.invariant
      (fun _ ⟨now, starts⟩ => starts ▸ windowed_new quietMs now)
      (fun _ _ _ windowed undisturbed stepped => windowed.step undisturbed stepped)
  exact windowed.fresh

theorem fresh_windows_of_two_transmissions :
    FreshWindows 10 (((outboundSystem 10).run (Undisturbed 10) (.new 10 0)
      [.packetHeard 1, .otherCommand, .commandStarts 1, .tryRunWhenQuiet .replyQueue 11 11,
        .sendStarts 0, .commandSettles 15 .resolved, .commandStarts 15,
        .commandSettles 20 .resolved, .tryRunWhenQuiet .floodAdvert 20 20, .released 0,
        .tryRunWhenQuiet .floodAdvert 30 30, .sendStarts 1, .commandStarts 31]).get rfl) := by
  apply fresh_windows_of_undisturbed
  refine EventSystem.reachableWhen_get ?_ _
  exact ⟨0, rfl⟩

def slowTransmission : List OutboundEvent :=
  [.tryRunWhenQuiet .replyQueue 10 10, .sendStarts 0, .commandStarts 10,
    .commandSettles 30 .resolved, .released 0, .tryRunWhenQuiet .floodAdvert 30 30, .sendStarts 1,
    .commandStarts 31]

def packetDuringWait : List OutboundEvent :=
  [.otherCommand, .commandStarts 5, .tryRunWhenQuiet .replyQueue 10 10, .sendStarts 0,
    .packetHeard 15, .commandSettles 20 .resolved, .commandStarts 20]

/-- Either of the two disturbances takes the fresh window away: a slow transmission without any
packet, and a packet without any completed transmission. -/
theorem stale_windows :
    (∃ world, (outboundSystem 10).Reachable world ∧
      world.log.filterMap OutboundEntry.heardAt = [] ∧ ¬world.FreshWindows 10) ∧
    ∃ world, (outboundSystem 10).Reachable world ∧
      world.log.filterMap OutboundEntry.completedAt = [] ∧ ¬world.FreshWindows 10 := by
  constructor
  · refine ⟨((outboundSystem 10).run EventSystem.anyStep (.new 10 0) slowTransmission).get rfl,
      ?_, ?_, ?_⟩
    · refine EventSystem.reachableWhen_get ?_ _
      exact ⟨0, rfl⟩
    · decide
    · intro fresh
      exact fresh 1 31 (by decide) (.completed 0 30) (by decide) trivial (by decide)
  · refine ⟨((outboundSystem 10).run EventSystem.anyStep (.new 10 0) packetDuringWait).get rfl,
      ?_, ?_, ?_⟩
    · refine EventSystem.reachableWhen_get ?_ _
      exact ⟨0, rfl⟩
    · decide
    · intro fresh
      exact fresh 0 20 (by decide) (.heard 15) (by decide) trivial (by decide)

end OutboundWorld

end MeshcoreObserver
