import MeshcoreObserver.Bots.ReplyInvariant
import MeshcoreObserver.Text

/-!
# Does a time to live leave a quiet window

A reply is expired by the tick that finds `expires_at <= now`, before that tick
asks for the air. The air is granted from `lastActivityAt + quietMs` on, so a
reply enqueued at `t` can be sent at the times from there that come before
`t + ttlMs`. The check of `loadConfig` admits equal bounds. These leave no such
time when the last activity is the moment of the enqueueing itself.
-/

namespace MeshcoreObserver

open Transition

universe u

structure BotReplyQueueConfig where
  quietMs : Int
  ttlMs : Int
  repeatCheckTimeoutMs : Int
  deriving DecidableEq, Repr

namespace BotReplyQueueConfig

/-- What the schema finds in a field whose minimum is zero. -/
def belowMinimum (field : Text) (value : Int) : List Text :=
  if value < 0 then ["/botReplyQueue/".toList ++ field ++ " must be >= 0".toList] else []

def schemaErrors (config : BotReplyQueueConfig) : List Text :=
  belowMinimum "quietMs".toList config.quietMs ++ belowMinimum "ttlMs".toList config.ttlMs ++
    belowMinimum "repeatCheckTimeoutMs".toList config.repeatCheckTimeoutMs

/-- What `loadConfig` makes of the integers `readBotReplyQueue` has read. -/
def loadConfig (config : BotReplyQueueConfig) : Except Text BotReplyQueueConfig :=
  if config.ttlMs < config.quietMs then
    .error ("PACKETCAPTURE_BOT_REPLY_TTL_MS must be greater than or equal to ".toList ++
      "PACKETCAPTURE_BOT_REPLY_QUIET_MS (otherwise a queued reply would always expire ".toList ++
      "before a quiet window could ever be observed)".toList)
  else if config.schemaErrors = [] then .ok config
  else
    .error ("Invalid configuration: ".toList ++ Text.join "; ".toList config.schemaErrors)

theorem belowMinimum_eq_nil {field : Text} {value : Int} :
    belowMinimum field value = [] ↔ 0 ≤ value := by
  simp only [belowMinimum]
  split
  · rename_i negative
    simp only [reduceCtorEq, false_iff]
    omega
  · rename_i natural
    simp only [true_iff]
    omega

theorem loadConfig_eq_ok {config loaded : BotReplyQueueConfig} :
    config.loadConfig = .ok loaded ↔
      loaded = config ∧ config.quietMs ≤ config.ttlMs ∧ 0 ≤ config.quietMs ∧
        0 ≤ config.ttlMs ∧ 0 ≤ config.repeatCheckTimeoutMs := by
  simp only [loadConfig]
  split
  · rename_i short
    simp only [reduceCtorEq, false_iff]
    omega
  · rename_i bounds
    simp only [schemaErrors, List.append_eq_nil_iff, belowMinimum_eq_nil]
    split
    · rename_i minima
      simp only [Except.ok.injEq]
      constructor
      · rintro rfl
        exact ⟨rfl, by omega, minima.1.1, minima.1.2, minima.2⟩
      · rintro ⟨rfl, _⟩
        rfl
    · rename_i minima
      simp only [reduceCtorEq, false_iff]
      rintro ⟨_, _, quiet, ttl, timeout⟩
      exact minima ⟨⟨quiet, ttl⟩, timeout⟩

end BotReplyQueueConfig

namespace ReplyWorld

variable {Item : Type u}

/-- An empty queue and a free coordinator with loaded bounds, and nothing heard or sent after
`t`. -/
structure EmptyAt (world : ReplyWorld Item) (config : BotReplyQueueConfig) (t : Int) : Prop where
  ttlMs : world.queue.ttlMs = config.ttlMs
  quietMs : world.air.quietMs = config.quietMs
  running : world.queue.stopped = false
  empty : world.rows.countPendingReplyItems = 0
  free : world.air.sending = false
  activity : world.air.lastActivityAt ≤ t
  current : world.clock ≤ t

/-- A reply is enqueued at `t`, and the tick that runs at `u` dispatches it. -/
def SentAt (world : ReplyWorld Item) (item : Item) (t u : Int) : Prop :=
  ∃ timer after,
    (replySystem Item).run EventSystem.anyStep world
      [.enqueue item t, .tick timer u u u, .dispatchStarts world.accepted] = some after ∧
    (world.accepted, u) ∈ after.dispatches

theorem tick_transmissions {world : ReplyWorld Item} {row : ReplyRow (Numbered Item)}
    (idle : world.queue.sending = false) (only : world.rows.pending = [row])
    (now checkedAt notedAt : Int) :
    (world.tick now checkedAt notedAt).transmissions =
      world.transmissions ++
        if now < row.expiresAt ∧ world.air.sending = false ∧
            world.air.lastActivityAt + world.air.quietMs ≤ checkedAt then
          [⟨row, now, .reserved⟩]
        else [] := by
  have left := BotReplies.pending_expire world.rows now
  rw [only] at left
  simp only [tick, idle, Bool.false_eq_true, if_false, requestAir, expireStale,
    BotReplies.countPendingReplyItems, BotReplies.peekOldestPendingReplyItem, left]
  by_cases fresh : now < row.expiresAt
  · cases granted : world.air.tryRunWhenQuiet checkedAt notedAt with
    | none =>
        have refused : ¬(world.air.sending = false ∧
            world.air.lastActivityAt + world.air.quietMs ≤ checkedAt) := by
          rintro ⟨free, quiet⟩
          have accepted : world.air.tryRunWhenQuiet checkedAt notedAt = some _ :=
            AirtimeCoordinator.tryRunWhenQuiet_eq_some.mpr ⟨free, quiet, rfl⟩
          rw [granted] at accepted
          cases accepted
        simp [fresh, refused, BotReplies.orderByEnqueuedAt]
    | some air =>
        rcases AirtimeCoordinator.tryRunWhenQuiet_eq_some.mp granted with ⟨free, quiet, _⟩
        simp [fresh, free, quiet, BotReplies.orderByEnqueuedAt]
  · simp [fresh, clearTimer]

/-- A pending reply that is granted the air is the one whose dispatch starts next. -/
theorem dispatchStarts_isSome {world : ReplyWorld Item} {row : ReplyRow (Numbered Item)}
    {tickedAt : Int} {sent : Prop} [Decidable sent]
    (transmissions : world.transmissions = if sent then [⟨row, tickedAt, .reserved⟩] else []) :
    (∃ after, world.step (.dispatchStarts row.item.number) = some after ∧
      (row.item.number, tickedAt) ∈ after.dispatches) ↔ sent := by
  by_cases granted : sent
  · simp [step, advance, transmissions, granted]
  · simp [step, advance, transmissions, granted]

theorem enqueue_eq {world : ReplyWorld Item} (lawful : world.Lawful)
    (running : world.queue.stopped = false) (item : Item) (now : Int) :
    ∃ timer nextTimer, world.enqueue item now =
      { world with
        rows := world.rows.enqueueReplyItem ⟨world.accepted, item⟩ now (now + world.queue.ttlMs)
        clock := now
        accepted := world.accepted + 1
        queue := { world.queue with timer := some timer }
        intervals := [timer]
        nextTimer } := by
  have timers := lawful.scheduled.timers
  rcases world with
    ⟨rows, ⟨ttlMs, armed, sending, stopped⟩, air, otherSending, intervals, nextTimer⟩
  simp only at timers running
  subst intervals running
  cases armed with
  | some timer => exact ⟨timer, nextTimer, rfl⟩
  | none => exact ⟨nextTimer, nextTimer + 1, rfl⟩

theorem sentAt_iff {world : ReplyWorld Item} {config : BotReplyQueueConfig} {t u : Int}
    (lawful : world.Lawful) (emptyAt : world.EmptyAt config t) (item : Item) :
    world.SentAt item t u ↔
      t ≤ u ∧ u < t + config.ttlMs ∧ world.air.lastActivityAt + config.quietMs ≤ u := by
  have idle : world.queue.sending = false := by
    by_contra sending
    rcases List.exists_mem_of_ne_nil _ (lawful.scheduled.sending.mp (by simpa using sending))
      with ⟨transmission, transmissionMem⟩
    rcases lawful.recorded.inFlight transmission transmissionMem with ⟨rowMem, waiting, _⟩
    have pendingMem := BotReplies.mem_pending.mpr ⟨rowMem, waiting⟩
    rw [List.length_eq_zero_iff.mp emptyAt.empty] at pendingMem
    cases pendingMem
  have unsent := lawful.scheduled.unsent idle
  rcases enqueue_eq lawful emptyAt.running item t with ⟨timer, nextTimer, enqueued⟩
  have accepts : world.step (.enqueue item t) = some (world.enqueue item t) :=
    if_pos emptyAt.current
  have only : (world.enqueue item t).rows.pending =
      [⟨world.rows.nextId, ⟨world.accepted, item⟩, t, t + world.queue.ttlMs, .pending,
        none, none⟩] := by
    rw [enqueued]
    simp only [BotReplies.pending_enqueueReplyItem, List.length_eq_zero_iff.mp emptyAt.empty,
      List.nil_append]
  have stillIdle : (world.enqueue item t).queue.sending = false := by
    rw [enqueued]
    exact idle
  have ticked := tick_transmissions stillIdle only u u u
  have before : (world.enqueue item t).transmissions = [] := by rw [enqueued]; exact unsent
  have air : (world.enqueue item t).air = world.air := by rw [enqueued]
  rw [before, List.nil_append, air] at ticked
  rw [emptyAt.ttlMs, emptyAt.quietMs] at ticked
  have starts : (∃ after, ((world.enqueue item t).tick u u u).step
      (.dispatchStarts world.accepted) = some after ∧ (world.accepted, u) ∈ after.dispatches) ↔
      u < t + config.ttlMs ∧ world.air.sending = false ∧
        world.air.lastActivityAt + config.quietMs ≤ u :=
    dispatchStarts_isSome ticked
  have armed : (world.enqueue item t).intervals = [timer] := by rw [enqueued]
  have clock : (world.enqueue item t).clock = t := by rw [enqueued]
  constructor
  · rintro ⟨other, after, ran, sent⟩
    simp only [EventSystem.run_anyStep_cons, replySystem, accepts, Option.bind_some] at ran
    rcases Option.bind_eq_some_iff.mp ran with ⟨middle, ticks, rest⟩
    rcases Option.bind_eq_some_iff.mp rest with ⟨last, dispatches, done⟩
    simp only [step, Option.ite_none_right_eq_some, Option.some.injEq] at ticks
    rcases ticks with ⟨⟨_, later, _⟩, rfl⟩
    cases done
    rcases starts.mp ⟨after, dispatches, sent⟩ with ⟨fresh, _, quiet⟩
    exact ⟨clock ▸ later, fresh, quiet⟩
  · rintro ⟨later, fresh, quiet⟩
    rcases starts.mpr ⟨fresh, emptyAt.free, quiet⟩ with ⟨after, dispatches, sent⟩
    have ticks : (world.enqueue item t).step (.tick timer u u u) =
        some ((world.enqueue item t).tick u u u) := by
      apply if_pos
      rw [armed, clock]
      exact ⟨List.mem_singleton_self timer, later, Int.le_refl u, Int.le_refl u⟩
    refine ⟨timer, after, ?_, sent⟩
    simp only [EventSystem.run_anyStep_cons, replySystem, accepts, Option.bind_some, ticks,
      dispatches]
    rfl

/-- Some tick can send the reply exactly when the air comes free before it expires. -/
theorem exists_sentAt_iff {world : ReplyWorld Item} {config : BotReplyQueueConfig} {t : Int}
    (lawful : world.Lawful) (emptyAt : world.EmptyAt config t) (item : Item) :
    (∃ u, t ≤ u ∧ world.SentAt item t u) ↔
      0 < config.ttlMs ∧ world.air.lastActivityAt + config.quietMs < t + config.ttlMs := by
  constructor
  · rintro ⟨u, _, sent⟩
    rcases (sentAt_iff lawful emptyAt item).mp sent with ⟨later, fresh, quiet⟩
    constructor
    · omega
    · omega
  · rintro ⟨lives, quiet⟩
    refine ⟨max t (world.air.lastActivityAt + config.quietMs), le_max_left _ _, ?_⟩
    apply (sentAt_iff lawful emptyAt item).mpr
    exact ⟨le_max_left _ _, by omega, le_max_right _ _⟩

theorem emptyAt_new {quietMs ttlMs repeatCheckTimeoutMs now : Int} :
    (new ttlMs quietMs now : ReplyWorld Item).EmptyAt ⟨quietMs, ttlMs, repeatCheckTimeoutMs⟩ now
    where
  ttlMs := rfl
  quietMs := rfl
  running := rfl
  empty := rfl
  free := rfl
  activity := Int.le_refl now
  current := Int.le_refl now

end ReplyWorld

open ReplyWorld in
/-- With bounds that `loadConfig` accepts, a reply to a quiet radio can be sent exactly when the
quiet window ends before the time to live does. It always does so exactly for unequal bounds. -/
theorem reply_sendable_iff {Item : Type u} {read config : BotReplyQueueConfig}
    (loaded : read.loadConfig = .ok config) (item : Item) :
    (∀ (world : ReplyWorld Item) (t : Int), (replySystem Item).Reachable world →
      world.EmptyAt config t →
        ((∃ u, t ≤ u ∧ world.SentAt item t u) ↔
          0 < config.ttlMs ∧
            world.air.lastActivityAt + config.quietMs < t + config.ttlMs)) ∧
      ((∀ (world : ReplyWorld Item) (t : Int), (replySystem Item).Reachable world →
        world.EmptyAt config t → ∃ u, t ≤ u ∧ world.SentAt item t u) ↔
          config.quietMs < config.ttlMs) := by
  rcases BotReplyQueueConfig.loadConfig_eq_ok.mp loaded with ⟨rfl, _, quietMs, _⟩
  constructor
  · intro world t reachable emptyAt
    exact exists_sentAt_iff (lawful_of_reachable reachable) emptyAt item
  · constructor
    · intro always
      have emptyAt : (new config.ttlMs config.quietMs 0 : ReplyWorld Item).EmptyAt config 0 :=
        emptyAt_new
      have sent := always _ 0 ⟨_, ⟨_, _, _, rfl⟩, Relation.ReflTransGen.refl⟩ emptyAt
      rcases (exists_sentAt_iff (lawful_new _ _ _) emptyAt item).mp sent with ⟨_, quiet⟩
      simp only [new, AirtimeCoordinator.new] at quiet
      omega
    · intro bounds world t reachable emptyAt
      apply (exists_sentAt_iff (lawful_of_reachable reachable) emptyAt item).mpr
      have := emptyAt.activity
      constructor
      · omega
      · omega

open ReplyWorld in
theorem reply_sendable_by_default :
    ∃ u, 0 ≤ u ∧ (new 60000 5000 0 : ReplyWorld Unit).SentAt () 0 u := by
  have loaded : BotReplyQueueConfig.loadConfig ⟨5000, 60000, 10000⟩ = .ok _ := rfl
  apply ((reply_sendable_iff loaded ()).1 _ 0 ?_ emptyAt_new).mpr
  · decide
  · exact ⟨_, ⟨_, _, _, rfl⟩, Relation.ReflTransGen.refl⟩

open ReplyWorld in
/-- A reply to a message heard in the same millisecond, with equal bounds: it always expires. -/
theorem reply_unsendable :
    BotReplyQueueConfig.loadConfig ⟨5000, 5000, 10000⟩ = .ok ⟨5000, 5000, 10000⟩ ∧
      (replySystem Unit).Reachable (new 5000 5000 0) ∧
      (new 5000 5000 0 : ReplyWorld Unit).EmptyAt ⟨5000, 5000, 10000⟩ 0 ∧
      ¬∃ u, 0 ≤ u ∧ (new 5000 5000 0 : ReplyWorld Unit).SentAt () 0 u := by
  refine ⟨rfl, ⟨_, ⟨_, _, _, rfl⟩, Relation.ReflTransGen.refl⟩, emptyAt_new, ?_⟩
  have emptyAt : (new 5000 5000 0 : ReplyWorld Unit).EmptyAt ⟨5000, 5000, 10000⟩ 0 := emptyAt_new
  rw [exists_sentAt_iff (lawful_new 5000 5000 0) emptyAt ()]
  decide

end MeshcoreObserver
