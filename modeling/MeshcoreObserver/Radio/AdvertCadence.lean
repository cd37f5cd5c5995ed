import MeshcoreObserver.Radio.FloodAdvertScheduler

/-!
# The cadence of flood adverts

Attempts are spaced by the interval, and an attempt which its process did not
resolve by the longer interval of an uncertain attempt. The spacing is kept by
`next_due_at`: while no attempt is under way it clears every attempt before it,
and no attempt starts before it.
-/

namespace MeshcoreObserver

open Transition

variable {intervalMs : Int}

/-- How long after an attempt the next one may start. -/
def AdvertAttempt.gapMs (intervalMs : Int) (attempt : AdvertAttempt) : Int :=
  if attempt.interrupted then uncertainAttemptIntervalMs intervalMs else intervalMs

/-- The earliest time after all of the attempts. -/
def Clears (intervalMs : Int) (attempts : List AdvertAttempt) (time : Int) : Prop :=
  ∀ attempt ∈ attempts, attempt.startedAt + attempt.gapMs intervalMs ≤ time

/-- Newest first, every attempt comes after the gaps of those before it. -/
def Spaced (intervalMs : Int) (attempts : List AdvertAttempt) : Prop :=
  attempts.Pairwise fun later earlier =>
    earlier.startedAt + earlier.gapMs intervalMs ≤ later.startedAt

theorem interval_le_uncertain (intervalMs : Int) :
    intervalMs ≤ uncertainAttemptIntervalMs intervalMs :=
  Int.le_max_left _ _

theorem interval_le_gapMs (attempt : AdvertAttempt) : intervalMs ≤ attempt.gapMs intervalMs := by
  rw [AdvertAttempt.gapMs]
  split
  · exact interval_le_uncertain intervalMs
  · exact Int.le_refl _

theorem gapMs_le_uncertain (attempt : AdvertAttempt) :
    attempt.gapMs intervalMs ≤ uncertainAttemptIntervalMs intervalMs := by
  rw [AdvertAttempt.gapMs]
  split
  · exact Int.le_refl _
  · exact interval_le_uncertain intervalMs

namespace FloodAdvertState

variable {row : FloodAdvertState}

theorem wellFormed_new : WellFormed new where
  idle := fun _ => ⟨rfl, rfl⟩
  pending := fun pending => by cases pending
  sending := fun sending => by cases sending

theorem WellFormed.requestFloodAdvert (wellFormed : row.WellFormed) (requestedAt : Int) :
    (row.requestFloodAdvert requestedAt).WellFormed := by
  rw [FloodAdvertState.requestFloodAdvert]
  split
  · rename_i idle
    exact
      { idle := fun other => by cases other
        pending := fun _ => ⟨rfl, (wellFormed.idle idle).2⟩
        sending := fun other => by cases other }
  · exact wellFormed

theorem startFloodAdvertAttempt_eq_some {attemptStartedAt : Int} {claimed : FloodAdvertState}
    (claims : row.startFloodAdvertAttempt attemptStartedAt = some claimed) :
    row.status = .pending ∧
      claimed =
        { row with
          status := .sending
          attemptStartedAt := some attemptStartedAt
          lastAttemptAt := some attemptStartedAt } := by
  rw [startFloodAdvertAttempt, Option.ite_none_right_eq_some] at claims
  rcases claims with ⟨pending, same⟩
  exact ⟨pending, (Option.some.inj same).symm⟩

theorem WellFormed.startFloodAdvertAttempt (wellFormed : row.WellFormed)
    {attemptStartedAt : Int} {claimed : FloodAdvertState}
    (claims : row.startFloodAdvertAttempt attemptStartedAt = some claimed) :
    claimed.WellFormed := by
  rcases startFloodAdvertAttempt_eq_some claims with ⟨pending, rfl⟩
  exact
    { idle := fun other => by cases other
      pending := fun other => by cases other
      sending := fun _ => ⟨(wellFormed.pending pending).1, rfl⟩ }

theorem WellFormed.resolveFloodAdvertAttempt (wellFormed : row.WellFormed)
    (resolvedAt intervalMs : Int) (sent : Bool) :
    (row.resolveFloodAdvertAttempt resolvedAt intervalMs sent).WellFormed := by
  rw [FloodAdvertState.resolveFloodAdvertAttempt]
  split
  · exact
      { idle := fun _ => ⟨rfl, rfl⟩
        pending := fun other => by cases other
        sending := fun other => by cases other }
  · exact wellFormed

/-- A recovered row is idle until the uncertain interval is over. -/
theorem recoverFloodAdvertAttempt_eq (row : FloodAdvertState)
    (intervalMs uncertainAttemptIntervalMs : Int) :
    row.recoverFloodAdvertAttempt intervalMs uncertainAttemptIntervalMs = row ∧
        (row.status = .sending → row.attemptStartedAt = none) ∨
      ∃ startedAt, row.status = .sending ∧ row.attemptStartedAt = some startedAt ∧
        row.recoverFloodAdvertAttempt intervalMs uncertainAttemptIntervalMs =
          { row with
            status := .idle
            requestedAt := none
            attemptStartedAt := none
            lastAttemptAt := some startedAt
            nextDueAt := some (startedAt + max intervalMs uncertainAttemptIntervalMs) } := by
  cases status : row.status with
  | idle =>
      left
      simp only [recoverFloodAdvertAttempt, status, reduceCtorEq, false_implies, and_self]
  | pending =>
      left
      simp only [recoverFloodAdvertAttempt, status, reduceCtorEq, false_implies, and_self]
  | sending =>
      cases started : row.attemptStartedAt with
      | none =>
          left
          simp only [recoverFloodAdvertAttempt, status, started, implies_true, and_self]
      | some startedAt =>
          right
          refine ⟨startedAt, rfl, rfl, ?_⟩
          simp only [recoverFloodAdvertAttempt, status, started]

end FloodAdvertState

/-- What every run keeps of the row and the attempts. -/
structure AdvertInvariant (intervalMs : Int) (world : AdvertWorld) : Prop where
  wellFormed : world.row.WellFormed
  spaced : Spaced intervalMs world.attempts
  past : ∀ attempt ∈ world.attempts, attempt.startedAt ≤ world.clock
  due : world.row.status ≠ .sending → world.attempts ≠ [] →
    ∃ time, world.row.nextDueAt = some time ∧ Clears intervalMs world.attempts time
  current : world.row.status = .sending → ∃ last earlier, world.attempts = last :: earlier ∧
    world.row.attemptStartedAt = some last.startedAt ∧
      (world.process.isSome → last.interrupted = false)
  granted : ∀ process, world.process = some process → process.tick = some .granted →
    world.row.status = .pending ∧ ∀ time, world.row.nextDueAt = some time → time ≤ world.clock
  sent : ∀ sentAt, world.row.lastSentAt = some sentAt →
    (world.row.status ≠ .sending →
      ∃ time, world.row.nextDueAt = some time ∧ sentAt + intervalMs ≤ time) ∧
    (world.row.status = .sending →
      ∀ startedAt, world.row.attemptStartedAt = some startedAt → sentAt + intervalMs ≤ startedAt)
  sentBefore : ∀ attempt ∈ world.attempts, ∀ sentAt, attempt.lastSentAt = some sentAt →
    sentAt + intervalMs ≤ attempt.startedAt

variable {world after : AdvertWorld}

/-- Steps that at most ask for an advert. -/
theorem AdvertInvariant.requesting (invariant : AdvertInvariant intervalMs world)
    (row : after.row = world.row ∨
      ∃ requestedAt, after.row = world.row.requestFloodAdvert requestedAt)
    (attempts : after.attempts = world.attempts) (clock : world.clock ≤ after.clock)
    (process : after.process.isSome → world.process.isSome)
    (granted : ∀ process, after.process = some process → process.tick = some .granted →
      after.row.status = .pending ∧ ∀ time, after.row.nextDueAt = some time → time ≤ after.clock) :
    AdvertInvariant intervalMs after := by
  have columns : after.row.WellFormed ∧ after.row.nextDueAt = world.row.nextDueAt ∧
      after.row.lastSentAt = world.row.lastSentAt ∧
      after.row.attemptStartedAt = world.row.attemptStartedAt ∧
      (after.row.status = .sending ↔ world.row.status = .sending) := by
    rcases row with same | ⟨requestedAt, requested⟩
    · rw [same]
      exact ⟨invariant.wellFormed, rfl, rfl, rfl, Iff.rfl⟩
    · refine ⟨?_, ?_⟩
      · rw [requested]
        exact invariant.wellFormed.requestFloodAdvert requestedAt
      · rw [requested, FloodAdvertState.requestFloodAdvert]
        split
        · rename_i idle
          simp only [idle, reduceCtorEq, and_self]
        · exact ⟨rfl, rfl, rfl, Iff.rfl⟩
  rcases columns with ⟨wellFormed, nextDueAt, lastSentAt, attemptStartedAt, sending⟩
  exact
    { wellFormed
      spaced := by
        rw [attempts]
        exact invariant.spaced
      past := by
        rw [attempts]
        exact fun attempt attemptMem => Int.le_trans (invariant.past attempt attemptMem) clock
      due := by
        rw [attempts, nextDueAt, ne_eq, sending]
        exact invariant.due
      current := by
        rw [sending, attempts, attemptStartedAt]
        intro under
        rcases invariant.current under with ⟨last, earlier, split, started, live⟩
        exact ⟨last, earlier, split, started, fun some => live (process some)⟩
      granted
      sent := by
        rw [lastSentAt, nextDueAt, attemptStartedAt, ne_eq, sending]
        exact invariant.sent
      sentBefore := by
        rw [attempts]
        exact invariant.sentBefore }

/-- An attempt starts once everything before it is cleared. -/
theorem AdvertInvariant.claiming (invariant : AdvertInvariant intervalMs world)
    {process next : AdvertProcess} {now : Int} {row : FloodAdvertState}
    (works : world.process = some process) (tick : process.tick = some .granted)
    (nextTick : next.tick = some .commanding) (clock : world.clock ≤ now)
    (claims : world.row.startFloodAdvertAttempt now = some row) :
    AdvertInvariant intervalMs
      { world with
        row
        process := some next
        clock := now
        attempts := ⟨process.number, now, world.row.lastSentAt, false⟩ :: world.attempts } := by
  have wellFormed := invariant.wellFormed.startFloodAdvertAttempt claims
  rcases FloodAdvertState.startFloodAdvertAttempt_eq_some claims with ⟨pending, rfl⟩
  have waiting : world.row.status ≠ .sending := by
    rw [pending]
    simp only [ne_eq, reduceCtorEq, not_false_eq_true]
  have ready := (invariant.granted process works tick).2
  have cleared : Clears intervalMs world.attempts now := by
    intro attempt attemptMem
    rcases invariant.due waiting (List.ne_nil_of_mem attemptMem) with ⟨time, due, clears⟩
    exact Int.le_trans (clears attempt attemptMem) (Int.le_trans (ready time due) clock)
  have sentBefore : ∀ sentAt, world.row.lastSentAt = some sentAt → sentAt + intervalMs ≤ now := by
    intro sentAt sent
    rcases (invariant.sent sentAt sent).1 waiting with ⟨time, due, le⟩
    exact Int.le_trans le (Int.le_trans (ready time due) clock)
  refine
    { wellFormed
      spaced := List.pairwise_cons.mpr ⟨cleared, invariant.spaced⟩
      past := ?_
      due := fun idle => absurd rfl idle
      current := fun _ => ⟨_, _, rfl, rfl, fun _ => rfl⟩
      granted := ?_
      sent := fun sentAt sent => ⟨fun idle => absurd rfl idle, ?_⟩
      sentBefore := ?_ }
  · intro attempt attemptMem
    rcases List.mem_cons.mp attemptMem with rfl | former
    · exact Int.le_refl _
    · exact Int.le_trans (invariant.past attempt former) clock
  · intro other same grants
    cases same
    rw [nextTick] at grants
    cases grants
  · intro _ startedAt started
    cases started
    exact sentBefore sentAt sent
  · intro attempt attemptMem
    rcases List.mem_cons.mp attemptMem with rfl | former
    · exact sentBefore
    · exact invariant.sentBefore attempt former

theorem AdvertInvariant.resolving (nonneg : 0 ≤ intervalMs)
    (invariant : AdvertInvariant intervalMs world) {process next : AdvertProcess} {now : Int}
    (works : world.process = some process)
    (nextTick : next.tick = some .returned) (clock : world.clock ≤ now) (sent : Bool) :
    AdvertInvariant intervalMs
      { world with
        row := world.row.resolveFloodAdvertAttempt now intervalMs sent
        process := some next
        clock := now } := by
  have wellFormed := invariant.wellFormed.resolveFloodAdvertAttempt now intervalMs sent
  have ungranted : ∀ other, some next = some other → other.tick = some .granted →
      (world.row.resolveFloodAdvertAttempt now intervalMs sent).status = .pending ∧
        ∀ time, (world.row.resolveFloodAdvertAttempt now intervalMs sent).nextDueAt = some time →
          time ≤ now := by
    intro other same grants
    cases same
    rw [nextTick] at grants
    cases grants
  by_cases sending : world.row.status = .sending
  · rcases invariant.current sending with ⟨last, earlier, attempts, started, live⟩
    have resolved : world.row.resolveFloodAdvertAttempt now intervalMs sent =
        { world.row with
          status := .idle
          requestedAt := none
          attemptStartedAt := none
          lastSentAt := if sent then some now else world.row.lastSentAt
          nextDueAt := some (now + intervalMs) } := by
      rw [FloodAdvertState.resolveFloodAdvertAttempt, if_pos sending]
    have spaced := invariant.spaced
    rw [attempts] at spaced
    have lastPast : last.startedAt ≤ world.clock :=
      invariant.past last (attempts ▸ List.mem_cons_self)
    have lastGap : last.gapMs intervalMs = intervalMs := by
      rw [AdvertAttempt.gapMs, live (works ▸ rfl)]
      rfl
    refine
      { wellFormed
        spaced := invariant.spaced
        past := fun attempt attemptMem =>
          Int.le_trans (invariant.past attempt attemptMem) clock
        due := ?_
        current := ?_
        granted := ungranted
        sent := ?_
        sentBefore := invariant.sentBefore }
    · intro _ _
      refine ⟨now + intervalMs, by rw [resolved], fun attempt attemptMem => ?_⟩
      have attemptMem : attempt ∈ last :: earlier := attempts ▸ attemptMem
      rcases List.mem_cons.mp attemptMem with rfl | former
      · rw [lastGap]
        omega
      · have clears := (List.pairwise_cons.mp spaced).1 attempt former
        omega
    · intro under
      rw [resolved] at under
      cases under
    · intro sentAt sentBy
      rw [resolved] at sentBy ⊢
      refine ⟨fun _ => ⟨now + intervalMs, rfl, ?_⟩, fun under => by cases under⟩
      cases sent with
      | true =>
          cases sentBy
          exact Int.le_refl _
      | false =>
          have former := (invariant.sent sentAt sentBy).2 sending last.startedAt started
          omega
  · have same : world.row.resolveFloodAdvertAttempt now intervalMs sent = world.row := by
      rw [FloodAdvertState.resolveFloodAdvertAttempt, if_neg sending]
    refine invariant.requesting (.inl same) rfl clock (fun _ => works ▸ rfl) ?_
    exact ungranted

theorem AdvertInvariant.starting (nonneg : 0 ≤ intervalMs)
    (invariant : AdvertInvariant intervalMs world) (idle : world.process = none)
    (starts : world.starts intervalMs = some after) : AdvertInvariant intervalMs after := by
  simp only [AdvertWorld.starts, idle, Option.some.injEq] at starts
  subst after
  have ungranted : ∀ process, some
      ({ number := world.processes, running := true, connected := false, timer := true,
         startupRequested := false, tick := none } : AdvertProcess) = some process →
      process.tick ≠ some .granted := by
    intro process same
    cases same
    simp only [ne_eq, reduceCtorEq, not_false_eq_true]
  rcases FloodAdvertState.recoverFloodAdvertAttempt_eq world.row intervalMs
    (uncertainAttemptIntervalMs intervalMs) with ⟨same, unset⟩ | ⟨startedAt, sending, started, row⟩
  · rw [same]
    have waiting : world.row.status ≠ .sending := by
      intro sending
      have set := (invariant.wellFormed.sending sending).2
      rw [unset sending] at set
      cases set
    exact
      { wellFormed := invariant.wellFormed
        spaced := invariant.spaced
        past := invariant.past
        due := invariant.due
        current := fun sending => absurd sending waiting
        granted := fun process same grants => absurd grants (ungranted process same)
        sent := invariant.sent
        sentBefore := invariant.sentBefore }
  · rw [row]
    rcases invariant.current sending with ⟨last, earlier, attempts, current, _⟩
    rw [started] at current
    cases current
    have spaced := invariant.spaced
    rw [attempts] at spaced
    have uncertain : max intervalMs (uncertainAttemptIntervalMs intervalMs) =
        uncertainAttemptIntervalMs intervalMs :=
      Int.max_eq_right (interval_le_uncertain intervalMs)
    have lastGap : last.gapMs intervalMs ≤ uncertainAttemptIntervalMs intervalMs :=
      gapMs_le_uncertain last
    have longer := interval_le_uncertain intervalMs
    refine
      { wellFormed := ?_
        spaced := invariant.spaced
        past := invariant.past
        due := ?_
        current := fun under => by cases under
        granted := fun process same grants => absurd grants (ungranted process same)
        sent := ?_
        sentBefore := invariant.sentBefore }
    · exact
        { idle := fun _ => ⟨rfl, rfl⟩
          pending := fun other => by cases other
          sending := fun other => by cases other }
    · intro _ _
      refine ⟨_, rfl, fun attempt attemptMem => ?_⟩
      have attemptMem : attempt ∈ last :: earlier := attempts ▸ attemptMem
      rw [uncertain]
      rcases List.mem_cons.mp attemptMem with rfl | former
      · omega
      · have clears := (List.pairwise_cons.mp spaced).1 attempt former
        omega
    · intro sentAt sent
      refine ⟨fun _ => ⟨_, rfl, ?_⟩, fun under => by cases under⟩
      have former := (invariant.sent sentAt sent).2 sending last.startedAt started
      rw [uncertain]
      omega

theorem AdvertInvariant.exiting (invariant : AdvertInvariant intervalMs world) :
    AdvertInvariant intervalMs world.exits := by
  by_cases sending : world.row.status = .sending
  · rcases invariant.current sending with ⟨last, earlier, attempts, started, _⟩
    have exits : world.exits =
        { world with
          process := none
          attempts := { last with interrupted := true } :: earlier } := by
      rw [AdvertWorld.exits, if_pos sending, attempts]
      rfl
    have spaced := invariant.spaced
    rw [attempts] at spaced
    have past := invariant.past
    rw [attempts] at past
    have sentBefore := invariant.sentBefore
    rw [attempts] at sentBefore
    rw [exits]
    refine
      { wellFormed := invariant.wellFormed
        spaced := ?_
        past := ?_
        due := fun waiting => absurd sending waiting
        current := fun _ => ⟨_, _, rfl, started, fun some => by cases some⟩
        granted := fun process same => by cases same
        sent := invariant.sent
        sentBefore := ?_ }
    · exact List.pairwise_cons.mpr (List.pairwise_cons.mp spaced)
    · intro attempt attemptMem
      rcases List.mem_cons.mp attemptMem with rfl | former
      · exact past last List.mem_cons_self
      · exact past attempt (List.mem_cons_of_mem last former)
    · intro attempt attemptMem
      rcases List.mem_cons.mp attemptMem with rfl | former
      · exact sentBefore last List.mem_cons_self
      · exact sentBefore attempt (List.mem_cons_of_mem last former)
  · have exits : world.exits = { world with process := none } := by
      rw [AdvertWorld.exits, if_neg sending]
    rw [exits]
    exact invariant.requesting (.inl rfl) rfl (Int.le_refl _) (fun some => by cases some)
      fun process same => by cases same

/-- A granted tick has seen a request that is due. -/
theorem tick_eq_some {process : AdvertProcess} {checkedAt requestedAt readyAt : Int}
    {quiet : Bool}
    (ticks : world.tick intervalMs process checkedAt requestedAt readyAt quiet = some after) :
    after = world ∨
      ∃ row next, after = { world with row, process := some next, clock := readyAt } ∧
        (row = world.row ∨
          0 < intervalMs ∧ row = world.row.requestFloodAdvert requestedAt) ∧
        (next = process ∧ process.tick = none ∨
          next = { process with tick := some .granted } ∧ process.connected = true ∧
            row.status = .pending ∧ ∀ time, row.nextDueAt = some time → time ≤ readyAt) := by
  rw [AdvertWorld.tick, Option.ite_none_right_eq_some] at ticks
  rcases ticks with ⟨_, ticks⟩
  split at ticks
  · cases ticks
    exact .inl rfl
  · rename_i free
    simp only [not_or, Option.isSome_iff_ne_none, ne_eq, not_not] at free
    right
    cases ticks
    refine ⟨_, _, rfl, ?_, ?_⟩
    · rw [AdvertWorld.requestDue]
      split
      · rename_i due
        exact .inr ⟨due.2.1, rfl⟩
      · exact .inl rfl
    · split
      · exact .inl ⟨rfl, free.2⟩
      · rename_i ready
        simp only [Bool.or_eq_true, Bool.not_eq_true', decide_eq_true_eq, not_or, not_not,
          Bool.not_eq_false] at ready
        rcases ready with ⟨⟨⟨connected, pending⟩, due⟩, _⟩
        refine .inr ⟨rfl, connected, pending, fun time next => ?_⟩
        rw [next, Option.any_some, decide_eq_true_eq] at due
        omega

theorem attemptStarts_eq_some {process : AdvertProcess} {now : Int}
    (starts : world.attemptStarts process now = some after) :
    process.tick = some .granted ∧
      ((∃ clock, (clock = world.clock ∨ clock = now) ∧
        after =
          { world with process := some { process with tick := some .returned }, clock }) ∨
      ∃ row, process.connected = true ∧ world.row.startFloodAdvertAttempt now = some row ∧
        after =
          { world with
            row
            process := some { process with tick := some .commanding }
            clock := now
            attempts :=
              ⟨process.number, now, world.row.lastSentAt, false⟩ :: world.attempts }) := by
  rw [AdvertWorld.attemptStarts, Option.ite_none_right_eq_some] at starts
  rcases starts with ⟨granted, starts⟩
  refine ⟨granted, ?_⟩
  split at starts
  · cases starts
    exact .inl ⟨world.clock, .inl rfl, rfl⟩
  · rename_i going
    simp only [not_or, Bool.not_eq_false] at going
    split at starts
    · cases starts
      exact .inl ⟨now, .inr rfl, rfl⟩
    · rename_i row claims
      cases starts
      exact .inr ⟨row, going.2, claims, rfl⟩

theorem withProcess_eq_some {act : AdvertProcess → Option AdvertWorld}
    (acts : world.withProcess act = some after) :
    ∃ process, world.process = some process ∧ act process = some after :=
  Option.bind_eq_some_iff.mp acts

/-- What a process does between its attempts: the row is left or asked for, and a tick that is
granted the air has seen a request that is due. -/
structure Proceeds (intervalMs : Int) (world : AdvertWorld) (process next : AdvertProcess)
    (row : FloodAdvertState) (clock : Int) : Prop where
  later : world.clock ≤ clock
  number : next.number = process.number
  requested : row = world.row ∨ ∃ requestedAt, row = world.row.requestFloodAdvert requestedAt
  startup : (process.connected = true → process.startupRequested = true) →
    next.connected = true → next.startupRequested = true
  kept : process.startupRequested = true → next.startupRequested = true
  unasked : intervalMs = 0 → process.startupRequested = true → world.row.status ≠ .pending →
    row = world.row
  granted : next.tick = some .granted →
    (process.tick = some .granted ∧ (world.row.status = .pending → row = world.row)) ∨
      (row.status = .pending ∧ ∀ time, row.nextDueAt = some time → time ≤ clock)

theorem Proceeds.same_row {process next : AdvertProcess} {clock : Int}
    (later : world.clock ≤ clock) (number : next.number = process.number)
    (connected : next.connected = true → process.connected = true)
    (startup : next.startupRequested = process.startupRequested)
    (granted : next.tick = some .granted → process.tick = some .granted) :
    Proceeds intervalMs world process next world.row clock where
  later := later
  number := number
  requested := .inl rfl
  startup := by
    intro requests still
    rw [startup]
    exact requests (connected still)
  kept := by
    intro requested
    rw [startup]
    exact requested
  unasked := fun _ _ _ => rfl
  granted := fun grants => .inl ⟨granted grants, fun _ => rfl⟩

/-- The kinds of steps. -/
inductive AdvertStep (intervalMs : Int) (world : AdvertWorld) : AdvertWorld → Prop where
  | starts {after : AdvertWorld} (idle : world.process = none)
      (starts : world.starts intervalMs = some after) : AdvertStep intervalMs world after
  | exits : AdvertStep intervalMs world world.exits
  | idles : AdvertStep intervalMs world world
  | proceeds {process next : AdvertProcess} {row : FloodAdvertState} {clock : Int}
      (works : world.process = some process)
      (proceeds : Proceeds intervalMs world process next row clock) :
      AdvertStep intervalMs world { world with row, process := some next, clock }
  | claims {process : AdvertProcess} {now : Int} {row : FloodAdvertState}
      (works : world.process = some process) (granted : process.tick = some .granted)
      (connected : process.connected = true) (clock : world.clock ≤ now)
      (claims : world.row.startFloodAdvertAttempt now = some row) :
      AdvertStep intervalMs world
        { world with
          row
          process := some { process with tick := some .commanding }
          clock := now
          attempts := ⟨process.number, now, world.row.lastSentAt, false⟩ :: world.attempts }
  | resolves {process : AdvertProcess} {now : Int} (works : world.process = some process)
      (clock : world.clock ≤ now) (sent : Bool) :
      AdvertStep intervalMs world
        { world with
          row := world.row.resolveFloodAdvertAttempt now intervalMs sent
          process := some { process with tick := some .returned }
          clock := now }

theorem proceeds_of_onConnected {process : AdvertProcess} {now : Int}
    (clock : world.clock ≤ now) :
    Proceeds intervalMs world process
      { process with connected := true, startupRequested := true, timer := true }
      (if process.startupRequested = false ∧ world.row.status ≠ .pending then
        world.row.requestFloodAdvert now else world.row) now where
  later := clock
  number := rfl
  requested := by
    split
    · exact .inr ⟨now, rfl⟩
    · exact .inl rfl
  startup := fun _ _ => rfl
  kept := fun _ => rfl
  unasked := by
    intro _ requested _
    rw [requested, if_neg fun both => Bool.noConfusion both.1]
  granted := by
    intro grants
    exact .inl ⟨grants, fun pending => if_neg fun both => both.2 pending⟩

theorem advertStep_of_step {event : AdvertEvent}
    (stepped : world.step intervalMs event = some after) : AdvertStep intervalMs world after := by
  cases event with
  | starts =>
      refine .starts ?_ stepped
      cases idle : world.process with
      | none => rfl
      | some process =>
          simp only [AdvertWorld.step, AdvertWorld.starts, idle, reduceCtorEq] at stepped
  | exits =>
      rcases withProcess_eq_some stepped with ⟨process, _, exits⟩
      cases exits
      exact .exits
  | stop =>
      rcases withProcess_eq_some stepped with ⟨process, works, stops⟩
      cases stops
      exact .proceeds works (.same_row (Int.le_refl _) rfl id rfl id)
  | radioConnected now =>
      rcases withProcess_eq_some stepped with ⟨process, works, connects⟩
      rw [Option.ite_none_right_eq_some] at connects
      rcases connects with ⟨clock, connects⟩
      cases connects
      rw [AdvertWorld.onConnected]
      split
      · exact .proceeds works (proceeds_of_onConnected clock)
      · exact .idles
  | radioDisconnected =>
      rcases withProcess_eq_some stepped with ⟨process, works, disconnects⟩
      cases disconnects
      rw [AdvertWorld.onDisconnected]
      split
      · exact .proceeds works
          (.same_row (Int.le_refl _) rfl (fun connected => by cases connected) rfl id)
      · exact .proceeds works (.same_row (Int.le_refl _) rfl id rfl id)
  | tick checkedAt requestedAt readyAt quiet =>
      rcases withProcess_eq_some stepped with ⟨process, works, ticks⟩
      rw [Option.ite_none_right_eq_some] at ticks
      rcases ticks with ⟨clock, ticks⟩
      rcases tick_eq_some ticks with rfl | ⟨row, next, rfl, asked, outcome⟩
      · exact .idles
      · refine .proceeds works ?_
        have requested : row = world.row ∨
            ∃ requestedAt, row = world.row.requestFloodAdvert requestedAt :=
          asked.imp_right fun asks => ⟨requestedAt, asks.2⟩
        have unasked : intervalMs = 0 → row = world.row := by
          intro zero
          rcases asked with same | ⟨positive, _⟩
          · exact same
          · omega
        rcases outcome with ⟨rfl, free⟩ | ⟨rfl, _, pending, ready⟩
        · refine ⟨by omega, rfl, requested, id, id, fun zero _ _ => unasked zero, ?_⟩
          intro grants
          rw [free] at grants
          cases grants
        · exact ⟨by omega, rfl, requested, id, id, fun zero _ _ => unasked zero,
            fun _ => .inr ⟨pending, ready⟩⟩
  | attemptStarts now =>
      rcases withProcess_eq_some stepped with ⟨process, works, starts⟩
      rw [Option.ite_none_right_eq_some] at starts
      rcases starts with ⟨clock, starts⟩
      rcases attemptStarts_eq_some starts with
        ⟨granted, ⟨reading, readings, rfl⟩ | ⟨row, connected, claims, rfl⟩⟩
      · refine .proceeds works (.same_row ?_ rfl id rfl fun grants => by cases grants)
        rcases readings with rfl | rfl
        · exact Int.le_refl _
        · exact clock
      · exact .claims works granted connected clock claims
  | commandSettles outcome now =>
      rcases withProcess_eq_some stepped with ⟨process, works, settles⟩
      rw [Option.ite_none_right_eq_some] at settles
      rcases settles with ⟨clock, settles⟩
      rw [AdvertWorld.commandSettles, Option.ite_none_right_eq_some] at settles
      rcases settles with ⟨_, settles⟩
      cases settles
      exact .resolves works clock _
  | tickEnds =>
      rcases withProcess_eq_some stepped with ⟨process, works, ends⟩
      rw [AdvertWorld.tickEnds, Option.ite_none_right_eq_some] at ends
      rcases ends with ⟨_, ends⟩
      cases ends
      exact .proceeds works
        (.same_row (Int.le_refl _) rfl id rfl fun grants => by cases grants)

theorem AdvertInvariant.step (nonneg : 0 ≤ intervalMs)
    (invariant : AdvertInvariant intervalMs world) {event : AdvertEvent}
    (stepped : world.step intervalMs event = some after) : AdvertInvariant intervalMs after := by
  cases advertStep_of_step stepped with
  | starts idle starts => exact invariant.starting nonneg idle starts
  | exits => exact invariant.exiting
  | idles => exact invariant
  | proceeds works proceeds =>
      refine invariant.requesting proceeds.requested rfl proceeds.later (fun _ => works ▸ rfl) ?_
      intro other same grants
      cases same
      rcases proceeds.granted grants with ⟨granted, kept⟩ | due
      · rcases invariant.granted _ works granted with ⟨pending, ready⟩
        simp only [kept pending]
        exact ⟨pending, fun time due => Int.le_trans (ready time due) proceeds.later⟩
      · exact due
  | claims works granted _ clock claims => exact invariant.claiming works granted rfl clock claims
  | resolves works clock sent => exact invariant.resolving nonneg works rfl clock sent

/-- Without an interval, a process that has started an attempt asks for no other. -/
structure OnceInvariant (intervalMs : Int) (world : AdvertWorld) : Prop where
  numbered : ∀ attempt ∈ world.attempts, attempt.process < world.processes
  number : ∀ process, world.process = some process → process.number + 1 = world.processes
  startup : ∀ process, world.process = some process → process.connected = true →
    process.startupRequested = true
  granted : ∀ process, world.process = some process → process.tick = some .granted →
    world.row.status = .pending
  spent : intervalMs = 0 → ∀ process, world.process = some process →
    process.number ∈ world.attempts.map AdvertAttempt.process →
      process.startupRequested = true ∧ world.row.status ≠ .pending
  once : intervalMs = 0 → (world.attempts.map AdvertAttempt.process).Nodup

/-- Steps of a process that start no attempt. -/
theorem OnceInvariant.same_attempts (invariant : OnceInvariant intervalMs world)
    {process next : AdvertProcess} (works : world.process = some process)
    (worksNext : after.process = some next) (attempts : after.attempts = world.attempts)
    (processes : after.processes = world.processes) (number : next.number = process.number)
    (startup : next.connected = true → next.startupRequested = true)
    (kept : process.startupRequested = true → next.startupRequested = true)
    (granted : next.tick = some .granted → after.row.status = .pending)
    (pending : intervalMs = 0 → process.startupRequested = true →
      world.row.status ≠ .pending → after.row.status ≠ .pending) :
    OnceInvariant intervalMs after where
  numbered := by
    rw [attempts, processes]
    exact invariant.numbered
  number := by
    intro other same
    rw [worksNext] at same
    cases same
    rw [number, processes]
    exact invariant.number process works
  startup := by
    intro other same
    rw [worksNext] at same
    cases same
    exact startup
  granted := by
    intro other same
    rw [worksNext] at same
    cases same
    exact granted
  spent := by
    intro zero other same attempted
    rw [worksNext] at same
    cases same
    rw [attempts, number] at attempted
    rcases invariant.spent zero process works attempted with ⟨requested, unasked⟩
    exact ⟨kept requested, pending zero requested unasked⟩
  once := by
    rw [attempts]
    exact invariant.once

theorem map_process_interruptLast (attempts : List AdvertAttempt) :
    (AdvertWorld.interruptLast attempts).map AdvertAttempt.process =
      attempts.map AdvertAttempt.process := by
  cases attempts with
  | nil => rfl
  | cons last earlier => rfl

theorem numbered_iff {attempts : List AdvertAttempt} {processes : Nat} :
    (∀ attempt ∈ attempts, attempt.process < processes) ↔
      ∀ number ∈ attempts.map AdvertAttempt.process, number < processes := by
  simp only [List.mem_map, forall_exists_index, and_imp, forall_apply_eq_imp_iff₂]

theorem OnceInvariant.exiting (invariant : OnceInvariant intervalMs world) :
    OnceInvariant intervalMs world.exits := by
  have attempts : world.exits.attempts.map AdvertAttempt.process =
      world.attempts.map AdvertAttempt.process := by
    simp only [AdvertWorld.exits]
    split
    · exact map_process_interruptLast _
    · rfl
  exact
    { numbered := by
        rw [numbered_iff, attempts, ← numbered_iff]
        exact invariant.numbered
      number := fun process same => by cases same
      startup := fun process same => by cases same
      granted := fun process same => by cases same
      spent := fun _ process same => by cases same
      once := by
        rw [attempts]
        exact invariant.once }

theorem OnceInvariant.starting (invariant : OnceInvariant intervalMs world)
    (starts : world.starts intervalMs = some after) : OnceInvariant intervalMs after := by
  cases idle : world.process with
  | some process => simp only [AdvertWorld.starts, idle, reduceCtorEq] at starts
  | none =>
      simp only [AdvertWorld.starts, idle, Option.some.injEq] at starts
      subst after
      refine
        { numbered := fun attempt attemptMem =>
            Nat.lt_succ_of_lt (invariant.numbered attempt attemptMem)
          number := ?_
          startup := ?_
          granted := ?_
          spent := ?_
          once := invariant.once }
      · intro process same
        cases same
        rfl
      · intro process same connected
        cases same
        cases connected
      · intro process same grants
        cases same
        cases grants
      · intro _ process same attempted
        cases same
        have before := numbered_iff.mp invariant.numbered _ attempted
        exact absurd before (Nat.lt_irrefl _)

theorem OnceInvariant.claiming (invariant : OnceInvariant intervalMs world)
    {process : AdvertProcess} {now : Int} {row : FloodAdvertState}
    (works : world.process = some process) (granted : process.tick = some .granted)
    (connected : process.connected = true)
    (claims : world.row.startFloodAdvertAttempt now = some row) :
    OnceInvariant intervalMs
      { world with
        row
        process := some { process with tick := some .commanding }
        clock := now
        attempts := ⟨process.number, now, world.row.lastSentAt, false⟩ :: world.attempts } := by
  rcases FloodAdvertState.startFloodAdvertAttempt_eq_some claims with ⟨_, rfl⟩
  have pending := invariant.granted process works granted
  refine
    { numbered := ?_
      number := ?_
      startup := ?_
      granted := ?_
      spent := ?_
      once := ?_ }
  · intro attempt attemptMem
    have number := invariant.number process works
    rcases List.mem_cons.mp attemptMem with rfl | former
    · change process.number < world.processes
      omega
    · exact invariant.numbered attempt former
  · intro other same
    cases same
    exact invariant.number process works
  · intro other same
    cases same
    exact invariant.startup process works
  · intro other same grants
    cases same
    cases grants
  · intro _ other same _
    cases same
    exact ⟨invariant.startup process works connected, fun other => by cases other⟩
  · intro zero
    refine List.nodup_cons.mpr ⟨fun attempted => ?_, invariant.once zero⟩
    exact (invariant.spent zero process works attempted).2 pending

theorem OnceInvariant.step (invariant : OnceInvariant intervalMs world) {event : AdvertEvent}
    (stepped : world.step intervalMs event = some after) : OnceInvariant intervalMs after := by
  cases advertStep_of_step stepped with
  | starts _ starts => exact invariant.starting starts
  | exits => exact invariant.exiting
  | idles => exact invariant
  | proceeds works proceeds =>
      refine invariant.same_attempts works rfl rfl rfl proceeds.number
        (proceeds.startup (invariant.startup _ works)) proceeds.kept ?_ ?_
      · intro grants
        rcases proceeds.granted grants with ⟨granted, kept⟩ | ⟨pending, _⟩
        · have pending := invariant.granted _ works granted
          simp only [kept pending]
          exact pending
        · exact pending
      · intro zero requested unasked
        simp only [proceeds.unasked zero requested unasked]
        exact unasked
  | claims works granted connected _ claims =>
      exact invariant.claiming works granted connected claims
  | @resolves process _ works _ sent =>
      refine invariant.same_attempts works rfl rfl rfl rfl (invariant.startup process works) id
        ?_ ?_
      · intro grants
        cases grants
      · intro _ _ unasked
        dsimp only
        rw [FloodAdvertState.resolveFloodAdvertAttempt]
        split
        · simp only [ne_eq, reduceCtorEq, not_false_eq_true]
        · exact unasked

/-- The cadence: what the row holds, how far apart attempts are, and how many a process starts. -/
structure KeepsCadence (intervalMs : Int) (world : AdvertWorld) : Prop where
  wellFormed : world.row.WellFormed
  spaced : 0 < intervalMs → world.attempts.Pairwise fun later earlier =>
    earlier.startedAt + intervalMs ≤ later.startedAt
  sent : 0 < intervalMs → ∀ attempt ∈ world.attempts, ∀ sentAt,
    attempt.lastSentAt = some sentAt → sentAt + intervalMs ≤ attempt.startedAt
  once : intervalMs = 0 → (world.attempts.map AdvertAttempt.process).Nodup
  interrupted : world.attempts.Pairwise fun later earlier =>
    earlier.interrupted = true → earlier.startedAt + max intervalMs (47 * hourMs) ≤ later.startedAt

theorem AdvertInvariant.keepsCadence (invariant : AdvertInvariant intervalMs world)
    (once : OnceInvariant intervalMs world) : KeepsCadence intervalMs world where
  wellFormed := invariant.wellFormed
  spaced := by
    intro _
    refine invariant.spaced.imp fun {later earlier} clears => ?_
    have gap : intervalMs ≤ earlier.gapMs intervalMs := interval_le_gapMs earlier
    omega
  sent := fun _ => invariant.sentBefore
  once := once.once
  interrupted := by
    refine invariant.spaced.imp fun {later earlier} clears interrupted => ?_
    rw [AdvertAttempt.gapMs, if_pos interrupted] at clears
    exact clears

theorem intervalMsOf_nonneg (intervalHours : Nat) : 0 ≤ intervalMsOf intervalHours :=
  Int.mul_nonneg (Int.natCast_nonneg intervalHours) (by decide)

theorem advertInvariant_new (intervalMs now : Int) : AdvertInvariant intervalMs (.new now) where
  wellFormed := FloodAdvertState.wellFormed_new
  spaced := List.Pairwise.nil
  past := fun attempt attemptMem => by cases attemptMem
  due := fun _ attempted => absurd rfl attempted
  current := fun sending => by cases sending
  granted := fun process same => by cases same
  sent := fun sentAt sent => by cases sent
  sentBefore := fun attempt attemptMem => by cases attemptMem

theorem onceInvariant_new (intervalMs now : Int) : OnceInvariant intervalMs (.new now) where
  numbered := fun attempt attemptMem => by cases attemptMem
  number := fun process same => by cases same
  startup := fun process same => by cases same
  granted := fun process same => by cases same
  spent := fun _ process same => by cases same
  once := fun _ => List.nodup_nil

/-- Every run keeps the cadence: through busy air, disconnects, failed commands, restarts and
crashes at any point. -/
theorem keepsCadence_of_reachable {intervalHours : Nat}
    (reachable : (advertSystem intervalHours).Reachable world) :
    KeepsCadence (intervalMsOf intervalHours) world := by
  have nonneg := intervalMsOf_nonneg intervalHours
  have cadence : AdvertInvariant (intervalMsOf intervalHours) world := by
    refine reachable.invariant ?_ fun before event after held _ stepped =>
      held.step nonneg stepped
    rintro _ ⟨now, rfl⟩
    exact advertInvariant_new _ now
  have once : OnceInvariant (intervalMsOf intervalHours) world := by
    refine reachable.invariant ?_ fun before event after held _ stepped => held.step stepped
    rintro _ ⟨now, rfl⟩
    exact onceInvariant_new _ now
  exact cadence.keepsCadence once

/-- A process crashes during its attempt; the next one waits until the attempt is cleared. -/
def crashedAttempt : List AdvertEvent :=
  [.starts, .radioConnected 0, .tick 10 10 10 true, .attemptStarts 20, .exits, .starts,
    .radioConnected 30, .tick 40 40 40 true, .tick 169200020 169200020 169200020 true,
    .attemptStarts 169200020, .commandSettles .resolved 169200030, .tickEnds]

theorem crashedAttempt_ran :
    ((advertSystem 47).run EventSystem.anyStep (.new 0) crashedAttempt).isSome := by
  decide +kernel

theorem initial_new (intervalHours : Nat) (now : Int) :
    (advertSystem intervalHours).Initial (.new now) :=
  ⟨now, rfl⟩

theorem keepsCadence_of_crashedAttempt :
    KeepsCadence (intervalMsOf 47)
      (((advertSystem 47).run EventSystem.anyStep (.new 0) crashedAttempt).get
        crashedAttempt_ran) :=
  keepsCadence_of_reachable (EventSystem.reachableWhen_get (initial_new 47 0) crashedAttempt_ran)

end MeshcoreObserver
