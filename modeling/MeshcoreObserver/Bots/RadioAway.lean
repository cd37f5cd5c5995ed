import MeshcoreObserver.Bots.ReplyDelivery
import MeshcoreObserver.Bots.ReplyLifecycle

/-!
# Replies while the radio is away

A tick asks the coordinator for the air, not the radio manager for a connection.
Without a connection no packet is heard, the air is soon quiet, and the granted
reply is rejected by `runCommand` and marked failed. In the runs in which no
granted reply comes to that while the radio is away, and none has failed or settled
unrecorded when the connection is lost, a pending reply waits for the next connection
or expires.
-/

namespace MeshcoreObserver

open Transition

universe u

/-- What becomes of a row while the radio is away: it stays as it is, or it expires when due. -/
inductive ReplyRow.Waits {Item : Type u} (row : ReplyRow Item) : ReplyRow Item → Prop where
  | same : Waits row row
  | expired {now : Int} (pending : row.status = .pending) (due : row.expiresAt ≤ now) :
      Waits row (row.resolve .expired now (now - row.enqueuedAt))

theorem ReplyRow.Waits.trans {Item : Type u} {first second third : ReplyRow Item}
    (before : first.Waits second) (after : second.Waits third) : first.Waits third := by
  cases before with
  | same => exact after
  | expired pending due =>
      cases after with
      | same => exact .expired pending due
      | expired again _ => cases again

def Transmission.isSettled {Item : Type u} (transmission : Transmission Item) : Bool :=
  match transmission.phase with
  | .settled _ => true
  | _ => false

namespace ReplyWorld

variable {Item : Type u} {world after : ReplyWorld Item}

/-- No dispatch has settled that its tick has not recorded. -/
def Unsettled (world : ReplyWorld Item) : Prop :=
  ∀ transmission ∈ world.transmissions, transmission.isSettled = false

instance (world : ReplyWorld Item) : Decidable world.Unsettled :=
  inferInstanceAs (Decidable (∀ transmission ∈ _, _))

/-- Every row of the one table is, perhaps expired, in the other, and no dispatch has settled. -/
structure Spares (world after : ReplyWorld Item) : Prop where
  unsettled : world.Unsettled → after.Unsettled
  rows : ∀ row ∈ world.everyRow, ∃ later ∈ after.everyRow, row.Waits later

theorem spares_of_rows (transmissions : after.transmissions = world.transmissions)
    (rows : after.rows = world.rows) (pruned : after.pruned = world.pruned) :
    world.Spares after where
  unsettled := by
    rw [Unsettled, Unsettled, transmissions]
    exact id
  rows := by
    intro row rowMem
    refine ⟨row, ?_, .same⟩
    rw [everyRow, rows, pruned]
    exact rowMem

theorem startTimer_transmissions (world : ReplyWorld Item) :
    world.startTimer.transmissions = world.transmissions := by
  simp only [ReplyWorld.startTimer]
  split <;> rfl

theorem spares_start (world : ReplyWorld Item) : world.Spares world.start := by
  simp only [ReplyWorld.start]
  split
  · exact spares_of_rows rfl rfl rfl
  · split
    · exact spares_of_rows world.startTimer_transmissions world.startTimer_rows
        world.startTimer_pruned
    · exact spares_of_rows rfl rfl rfl

theorem spares_enqueue (world : ReplyWorld Item) (item : Item) (now : Int) :
    world.Spares (world.enqueue item now) := by
  simp only [ReplyWorld.enqueue]
  split
  · exact spares_of_rows rfl rfl rfl
  · constructor
    · rw [Unsettled, Unsettled, startTimer_transmissions]
      exact id
    · intro row rowMem
      refine ⟨row, ?_, .same⟩
      simp only [everyRow, startTimer_rows, startTimer_pruned, BotReplies.enqueueReplyItem,
        List.mem_append] at rowMem ⊢
      exact rowMem.imp_left Or.inl

theorem spares_expireStale (world : ReplyWorld Item) (now : Int) :
    world.Spares (world.expireStale now) where
  unsettled := id
  rows := by
    intro row rowMem
    rcases List.mem_append.mp rowMem with kept | pruned
    · refine ⟨_, List.mem_append_left _ (List.mem_map_of_mem kept), ?_⟩
      split
      · rename_i due
        exact .expired due.1 due.2
      · exact .same
    · exact ⟨row, List.mem_append_right _ pruned, .same⟩

theorem unsettled_requestAir (unsettled : world.Unsettled) (now checkedAt notedAt : Int) :
    (world.requestAir now checkedAt notedAt).Unsettled := by
  simp only [requestAir]
  split
  · exact unsettled
  · split
    · exact unsettled
    · split
      · exact unsettled
      · intro transmission transmissionMem
        rcases List.mem_append.mp transmissionMem with old | new
        · exact unsettled transmission old
        · rw [List.mem_singleton.mp new]
          rfl

theorem spares_tick (world : ReplyWorld Item) (now checkedAt notedAt : Int) :
    world.Spares (world.tick now checkedAt notedAt) := by
  simp only [ReplyWorld.tick]
  split
  · exact spares_of_rows rfl rfl rfl
  · have expired := world.spares_expireStale now
    constructor
    · intro unsettled
      exact unsettled_requestAir (expired.unsettled unsettled) now checkedAt notedAt
    · rw [everyRow, everyRow, requestAir_rows, requestAir_pruned]
      exact expired.rows

theorem spares_prune (world : ReplyWorld Item) (cutoffMs : Int) :
    world.Spares { world with
      rows := world.rows.pruneOlderThan cutoffMs
      pruned := world.pruned ++ world.rows.filter (BotReplies.prunable cutoffMs) } := by
  refine ⟨id, ?_⟩
  intro row rowMem
  exact ⟨row, (world.prune_perm cutoffMs).mem_iff.mpr rowMem, .same⟩

theorem spares_dispatchStarts {number : Nat}
    (stepped : world.step (.dispatchStarts number) = some after) : world.Spares after := by
  simp only [ReplyWorld.step, advance, Option.map_eq_some_iff,
    Option.ite_none_right_eq_some, Option.some.injEq] at stepped
  rcases stepped with ⟨_, ⟨_, rfl⟩, rfl⟩
  constructor
  · intro unsettled transmission transmissionMem
    rcases List.mem_map.mp transmissionMem with ⟨old, oldMem, rfl⟩
    split
    · rfl
    · exact unsettled old oldMem
  · intro row rowMem
    exact ⟨row, rowMem, .same⟩

theorem spares_step {event : ReplyEvent Item} (unsettled : world.Unsettled)
    (silent : ∀ number outcome, event ≠ .dispatchSettles number outcome)
    (stepped : world.step event = some after) : world.Spares after := by
  cases event with
  | start =>
      simp only [ReplyWorld.step, Option.some.injEq] at stepped
      subst after
      exact world.spares_start
  | enqueue item now =>
      simp only [ReplyWorld.step, Option.ite_none_right_eq_some, Option.some.injEq] at stepped
      rcases stepped with ⟨_, rfl⟩
      exact world.spares_enqueue item now
  | packetHeard now =>
      simp only [ReplyWorld.step, Option.ite_none_right_eq_some, Option.some.injEq] at stepped
      rcases stepped with ⟨_, rfl⟩
      exact spares_of_rows rfl rfl rfl
  | tick timer now checkedAt notedAt =>
      simp only [ReplyWorld.step, Option.ite_none_right_eq_some, Option.some.injEq] at stepped
      rcases stepped with ⟨_, rfl⟩
      exact world.spares_tick now checkedAt notedAt
  | dispatchStarts number => exact spares_dispatchStarts stepped
  | dispatchSettles number outcome => exact absurd rfl (silent number outcome)
  | tickResumes number now =>
      simp only [ReplyWorld.step] at stepped
      split at stepped
      · rename_i row tickedAt outcome found
        cases unsettled _ (List.mem_of_find?_eq_some found)
      · cases stepped
  | pruneOlderThan cutoffMs =>
      simp only [ReplyWorld.step, Option.some.injEq] at stepped
      subst after
      exact world.spares_prune cutoffMs
  | stop =>
      simp only [ReplyWorld.step, Option.some.injEq] at stepped
      subst after
      simp only [ReplyWorld.stop]
      split <;> exact spares_of_rows rfl rfl rfl
  | stopResolves =>
      simp only [ReplyWorld.step, Option.ite_none_right_eq_some, Option.some.injEq] at stepped
      rcases stepped with ⟨_, rfl⟩
      exact spares_of_rows rfl rfl rfl
  | restart ttlMs quietMs now =>
      simp only [ReplyWorld.step, Option.ite_none_right_eq_some, Option.some.injEq] at stepped
      rcases stepped with ⟨_, rfl⟩
      exact spares_of_rows rfl rfl rfl
  | otherGranted checkedAt notedAt =>
      rcases ReplyWorld.otherGranted_eq_some stepped with ⟨air, otherSending, clock, rfl⟩
      exact spares_of_rows rfl rfl rfl
  | otherReleased =>
      simp only [ReplyWorld.step, Option.ite_none_right_eq_some, Option.some.injEq] at stepped
      rcases stepped with ⟨_, rfl⟩
      exact spares_of_rows rfl rfl rfl

theorem Spares.refl (world : ReplyWorld Item) : world.Spares world :=
  spares_of_rows rfl rfl rfl

theorem Spares.trans {middle : ReplyWorld Item} (first : world.Spares middle)
    (second : middle.Spares after) : world.Spares after where
  unsettled := second.unsettled ∘ first.unsettled
  rows := by
    intro row rowMem
    rcases first.rows row rowMem with ⟨between, betweenMem, before⟩
    rcases second.rows between betweenMem with ⟨later, laterMem, afterwards⟩
    exact ⟨later, laterMem, before.trans afterwards⟩

end ReplyWorld

namespace DeliveryWorld

variable {world after : DeliveryWorld}

/-- Every row pending before is, perhaps expired, on record after. -/
def PendingKept (before after : DeliveryWorld) : Prop :=
  ∀ row ∈ before.replies.rows, row.status = .pending →
    ∃ later ∈ after.replies.everyRow, row.Waits later

/-- While the radio is away no granted reply comes to `runCommand`, none is dispatched to a bot
that is missing, and no send settles; and a connection is lost only when no dispatch has failed or
settled unrecorded. -/
def Spared (world : DeliveryWorld) : DeliveryEvent → Prop
  | .dispatchStarts number => world.connection = none →
      ∀ transmission ∈ world.replies.transmissions, transmission.row.item.number = number →
        (world.findBot transmission.row.item.item).isSome
  | .executeSettles _ _ => world.connection ≠ none
  | .commandSettles _ _ => world.connection = none →
      match world.commands.running with
      | some ⟨_, .sendChannelTextMessage _ _⟩ => False
      | _ => True
  | .connectionLost => world.rejecting = [] ∧ world.replies.Unsettled
  | _ => True

instance (world : DeliveryWorld) (event : DeliveryEvent) : Decidable (world.Spared event) := by
  simp only [Spared]
  split
  · infer_instance
  · infer_instance
  · split <;> infer_instance
  · infer_instance
  · infer_instance

def Away (world : DeliveryWorld) (event : DeliveryEvent) : Prop :=
  world.connection = none ∧ world.Spared event

instance (world : DeliveryWorld) (event : DeliveryEvent) : Decidable (world.Away event) :=
  inferInstanceAs (Decidable (_ ∧ _))

def Parked (world : DeliveryWorld) : Prop :=
  world.connection = none → world.rejecting = [] ∧ world.replies.Unsettled

/-- What a step leaves as it is that concerns no reply and no connection. -/
structure Aside (world after : DeliveryWorld) : Prop where
  connection : after.connection = world.connection
  replies : after.replies = world.replies
  rejecting : after.rejecting = world.rejecting

theorem aside_of_setup {name : Text} (stepped : world.setup name = some after) :
    world.Aside after := by
  simp only [DeliveryWorld.setup] at stepped
  split at stepped
  · cases stepped
  · simp only [Option.ite_none_right_eq_some] at stepped
    rcases stepped with ⟨_, stepped⟩
    split at stepped
    all_goals
      simp only [Option.some.injEq] at stepped
      subst after
      exact ⟨rfl, rfl, rfl⟩

theorem aside_of_setupResumes {toLowerCase : Text → Text} {number : Nat}
    (stepped : world.setupResumes toLowerCase number = some after) : world.Aside after := by
  simp only [DeliveryWorld.setupResumes] at stepped
  split at stepped
  · cases stepped
  · split at stepped
    · split at stepped
      all_goals
        simp only [Option.some.injEq] at stepped
        subst after
        exact ⟨rfl, rfl, rfl⟩
    · simp only [Option.some.injEq] at stepped
      subst after
      exact ⟨rfl, rfl, rfl⟩
    · cases stepped

theorem aside_of_commandStarts (stepped : world.commandStarts = some after) :
    world.Aside after := by
  simp only [DeliveryWorld.commandStarts, Option.map_eq_some_iff] at stepped
  rcases stepped with ⟨commands, _, rfl⟩
  split
  · exact ⟨rfl, rfl, rfl⟩
  · exact ⟨rfl, rfl, rfl⟩

theorem connection_executeSettles {number : Nat} {outcome : Outcome}
    (stepped : world.executeSettles number outcome = some after) :
    after.connection = world.connection := by
  simp only [DeliveryWorld.executeSettles] at stepped
  split at stepped
  · cases stepped
  · split at stepped
    all_goals
      simp only [Option.some.injEq] at stepped
      subst after
      rfl

/-- Only the settlement of a send concerns a reply. -/
theorem aside_of_commandSettles {outcome : Outcome} {channels : List ChannelSlot}
    (stepped : world.commandSettles outcome channels = some after) :
    world.Aside after ∨ after.connection = world.connection ∧ ∃ connection number name,
      world.commands.running = some ⟨connection, .sendChannelTextMessage number name⟩ := by
  simp only [DeliveryWorld.commandSettles] at stepped
  split at stepped
  · cases stepped
  · simp only [Option.some.injEq] at stepped
    subst after
    exact Or.inl ⟨rfl, rfl, rfl⟩
  · simp only [Option.some.injEq] at stepped
    subst after
    exact Or.inl ⟨rfl, rfl, rfl⟩
  · rename_i running
    simp only [Option.map_eq_some_iff] at stepped
    rcases stepped with ⟨replies, _, rfl⟩
    exact Or.inr ⟨rfl, _, _, _, running⟩
  · simp only [Option.some.injEq] at stepped
    subst after
    exact Or.inl ⟨rfl, rfl, rfl⟩

theorem dispatchStarts_cases {number : Nat} (stepped : world.dispatchStarts number = some after) :
    after.connection = world.connection ∧
      world.replies.step (.dispatchStarts number) = some after.replies ∧
      (after.rejecting = world.rejecting ∨ ∃ transmission ∈ world.replies.transmissions,
        transmission.row.item.number = number ∧
          world.findBot transmission.row.item.item = none) := by
  simp only [DeliveryWorld.dispatchStarts] at stepped
  split at stepped
  · cases stepped
  · rename_i transmission found
    simp only [Option.map_eq_some_iff] at stepped
    rcases stepped with ⟨replies, started, rfl⟩
    split
    · exact ⟨rfl, started, Or.inl rfl⟩
    · rename_i missing
      have same := List.find?_some found
      exact ⟨rfl, started, Or.inr ⟨transmission, List.mem_of_find?_eq_some found,
        of_decide_eq_true same, missing⟩⟩

/-- A step that spares the replies, and leaves no dispatch to reject. -/
structure Waits (world after : DeliveryWorld) : Prop where
  replies : world.replies.Spares after.replies
  rejecting : after.rejecting = []

theorem Aside.waits (aside : world.Aside after) (none : world.rejecting = []) :
    world.Waits after where
  replies := by
    rw [aside.replies]
    exact .refl _
  rejecting := aside.rejecting.trans none

theorem Away.step {toLowerCase : Text → Text} {event : DeliveryEvent} (away : world.Away event)
    (parked : world.Parked) (stepped : world.step toLowerCase event = some after) :
    world.Waits after := by
  rcases away with ⟨away, spared⟩
  rcases parked away with ⟨none, unsettled⟩
  cases event with
  | reply event =>
      simp only [DeliveryWorld.step, Option.ite_none_right_eq_some,
        Option.map_eq_some_iff] at stepped
      rcases stepped with ⟨admitted, replies, stepped, rfl⟩
      refine ⟨ReplyWorld.spares_step unsettled ?_ stepped, none⟩
      rintro number outcome rfl
      cases admitted
  | dispatchStarts number =>
      rcases dispatchStarts_cases stepped with ⟨_, started, same | missing⟩
      · exact ⟨ReplyWorld.spares_dispatchStarts started, same.trans none⟩
      · rcases missing with ⟨transmission, transmissionMem, same, missing⟩
        have present := spared away transmission transmissionMem same
        simp [missing] at present
  | executeSettles number outcome => exact absurd away spared
  | dispatchRejects number =>
      simp [DeliveryWorld.step, DeliveryWorld.dispatchRejects, none] at stepped
  | connects =>
      simp only [DeliveryWorld.step, Option.some.injEq] at stepped
      subst after
      exact ⟨.refl _, none⟩
  | connectionLost =>
      simp only [DeliveryWorld.step, away, Option.map_none, reduceCtorEq] at stepped
  | setup name => exact (aside_of_setup stepped).waits none
  | setupResumes number => exact (aside_of_setupResumes stepped).waits none
  | stopBot name =>
      simp only [DeliveryWorld.step, Option.some.injEq] at stepped
      subst after
      exact ⟨.refl _, none⟩
  | runCommand =>
      simp only [DeliveryWorld.step, away, Option.map_none, reduceCtorEq] at stepped
  | commandStarts => exact (aside_of_commandStarts stepped).waits none
  | commandSettles outcome channels =>
      rcases aside_of_commandSettles stepped with aside | ⟨_, connection, number, name, running⟩
      · exact aside.waits none
      · have unsent := spared away
        simp only [running] at unsent
  | processStarts configuration ttlMs quietMs now =>
      simp only [DeliveryWorld.step, Option.ite_none_right_eq_some, Option.some.injEq] at stepped
      rcases stepped with ⟨_, rfl⟩
      refine ⟨⟨?_, ?_⟩, rfl⟩
      · intro _ transmission transmissionMem
        cases transmissionMem
      · intro row rowMem
        exact ⟨row, rowMem, .same⟩

theorem connection_of_step {toLowerCase : Text → Text} {event : DeliveryEvent}
    (stepped : world.step toLowerCase event = some after) :
    after.connection = world.connection ∨ event = .connects ∨ event = .connectionLost ∨
      ∃ configuration ttlMs quietMs now,
        event = .processStarts configuration ttlMs quietMs now := by
  cases event with
  | connects => exact Or.inr (Or.inl rfl)
  | connectionLost => exact Or.inr (Or.inr (Or.inl rfl))
  | processStarts configuration ttlMs quietMs now =>
      exact Or.inr (Or.inr (Or.inr ⟨configuration, ttlMs, quietMs, now, rfl⟩))
  | reply event =>
      simp only [DeliveryWorld.step, Option.ite_none_right_eq_some,
        Option.map_eq_some_iff] at stepped
      rcases stepped with ⟨_, replies, _, rfl⟩
      exact Or.inl rfl
  | dispatchStarts number => exact Or.inl (dispatchStarts_cases stepped).1
  | executeSettles number outcome => exact Or.inl (connection_executeSettles stepped)
  | dispatchRejects number =>
      simp only [DeliveryWorld.step, DeliveryWorld.dispatchRejects, Option.ite_none_right_eq_some,
        Option.map_eq_some_iff] at stepped
      rcases stepped with ⟨_, replies, _, rfl⟩
      exact Or.inl rfl
  | setup name => exact Or.inl (aside_of_setup stepped).connection
  | setupResumes number => exact Or.inl (aside_of_setupResumes stepped).connection
  | stopBot name =>
      simp only [DeliveryWorld.step, Option.some.injEq] at stepped
      subst after
      exact Or.inl rfl
  | runCommand =>
      simp only [DeliveryWorld.step, Option.map_eq_some_iff] at stepped
      rcases stepped with ⟨_, _, rfl⟩
      exact Or.inl rfl
  | commandStarts => exact Or.inl (aside_of_commandStarts stepped).connection
  | commandSettles outcome channels =>
      rcases aside_of_commandSettles stepped with aside | ⟨same, _⟩
      · exact Or.inl aside.connection
      · exact Or.inl same

theorem Parked.step {toLowerCase : Text → Text} {event : DeliveryEvent} (parked : world.Parked)
    (spared : world.Spared event) (stepped : world.step toLowerCase event = some after) :
    after.Parked := by
  intro away
  cases connection : world.connection with
  | none =>
      have waits := Away.step ⟨connection, spared⟩ parked stepped
      exact ⟨waits.rejecting, waits.replies.unsettled (parked connection).2⟩
  | some current =>
      rcases connection_of_step stepped with
        same | rfl | rfl | ⟨configuration, ttlMs, quietMs, now, rfl⟩
      · rw [same, connection] at away
        cases away
      · simp only [DeliveryWorld.step, Option.some.injEq] at stepped
        subst after
        cases away
      · simp only [DeliveryWorld.step, connection, Option.map_some, Option.some.injEq] at stepped
        subst after
        exact spared
      · simp only [DeliveryWorld.step, Option.ite_none_right_eq_some, Option.some.injEq] at stepped
        rcases stepped with ⟨_, rfl⟩
        exact ⟨rfl, nofun⟩

/-- Along any stretch of a spared run in which the radio is away, up to the event that brings it
back, every pending reply waits or expires when due. -/
theorem pending_kept_of_spared {toLowerCase : Text → Text}
    (reachable : (deliverySystem toLowerCase).ReachableWhen Spared world)
    (lead : (deliverySystem toLowerCase).Leads Away world after) : world.PendingKept after := by
  have parked : world.Parked := by
    apply reachable.invariant
    · rintro initial ⟨configuration, ttlMs, quietMs, now, rfl⟩ _
      exact ⟨rfl, nofun⟩
    · intro before event next parked spared stepped
      exact parked.step spared stepped
  have invariant : after.Parked ∧ world.replies.Spares after.replies := by
    induction lead with
    | refl => exact ⟨parked, .refl _⟩
    | tail _ moved ih =>
        rcases moved with ⟨event, away, stepped⟩
        rcases ih with ⟨parked, spares⟩
        exact ⟨parked.step away.2 stepped, spares.trans (away.step parked stepped).replies⟩
  intro row rowMem _
  exact invariant.2.rows row (List.mem_append_left _ rowMem)

/-- Two replies are in the table when the next process starts: the first falls due before the
radio connects, and the second is granted the air before and handed over after. -/
def resumesTwoReplies : List DeliveryEvent :=
  connectsAndSetsUp 0 0 ++ [.reply (.enqueue "echo".toList 5), .reply (.enqueue "echo".toList 15),
    .processStarts (echoBot true) 60 10 20, .reply .start]

theorem pending_kept_of_restart :
    PendingKept
      (((deliverySystem id).run Spared (.new (echoBot true) 60 10 0) resumesTwoReplies).get rfl)
      (((deliverySystem id).run Away
        (((deliverySystem id).run Spared (.new (echoBot true) 60 10 0) resumesTwoReplies).get rfl)
        [.reply (.tick 1 66 66 66), .dispatchStarts 1, .connects]).get rfl) := by
  apply pending_kept_of_spared
  · refine EventSystem.reachableWhen_get ?_ _
    exact ⟨echoBot true, 60, 10, 0, rfl⟩
  · apply EventSystem.leads_get

def resumesOneReply : List DeliveryEvent :=
  connectsAndSetsUp 0 0 ++ [.reply (.enqueue "echo".toList 5),
    .processStarts (echoBot true) 60 10 6, .reply .start]

/-- A tick before the first connection burns the reply. -/
theorem pending_burned :
    ∃ before after, (deliverySystem id).Reachable before ∧
      (deliverySystem id).Leads (fun world _ => world.connection = none) before after ∧
      (before.replies.rows.map ReplyRow.status = [.pending] ∧
        after.replies.rows.map ReplyRow.status = [.failed]) ∧
      ¬before.PendingKept after := by
  refine ⟨((deliverySystem id).run EventSystem.anyStep (.new (echoBot true) 60 10 0)
      resumesOneReply).get rfl,
    ((deliverySystem id).run (fun world _ => world.connection = none)
      (((deliverySystem id).run EventSystem.anyStep (.new (echoBot true) 60 10 0)
        resumesOneReply).get rfl)
      [.reply (.tick 1 20 20 20), .dispatchStarts 0, .executeSettles 0 .resolved,
        .dispatchRejects 0, .reply (.tickResumes 0 20)]).get rfl, ?_, ?_, ⟨rfl, rfl⟩, ?_⟩
  · refine EventSystem.reachableWhen_get ?_ _
    exact ⟨echoBot true, 60, 10, 0, rfl⟩
  · apply EventSystem.leads_get
  · intro kept
    rcases kept _ List.mem_cons_self rfl with ⟨later, laterMem, waits⟩
    rcases List.mem_singleton.mp laterMem with rfl
    cases waits

end DeliveryWorld

end MeshcoreObserver
