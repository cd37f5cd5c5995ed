import MeshcoreObserver.Bots.RepeatEviction

/-!
# Since when a text waits

A text waits without a break from one of its openings on, and the map of the tracker
is in the order of these: its keys leave it where they stand, and a text that comes
back goes to the end. So a tracker without room evicts the oldest registration when
no text has waited for longer than the text of that registration, and a younger one
otherwise, after any history.
-/

namespace MeshcoreObserver

universe u

open Transition RepeatCheckTracker

variable {Meta : Type u} {timeoutMs : Int} {maxEntries : Nat} {timeline : RepeatTimeline Meta}

namespace RepeatTimeline

/-- The registration with which the text began to wait without a break. -/
def since (timeline : RepeatTimeline Meta) (text : Text) : Nat :=
  ((timeline.openings.find? fun opening => opening.1 = text).map Prod.snd).getD 0

/-- Where there is no room, no text has waited for longer than that of the oldest
registration. -/
def OldestWaitsLongest (timeoutMs : Int) (timeline : RepeatTimeline Meta) (now : Int) : Prop :=
  (timeline.young timeoutMs now).length = timeline.tracker.maxEntries →
    ∀ oldest ∈ (timeline.young timeoutMs now).head?, ∀ other ∈ timeline.young timeoutMs now,
      timeline.since oldest.text ≤ timeline.since other.text

instance (timeline : RepeatTimeline Meta) (now : Int) :
    Decidable (timeline.OldestWaitsLongest timeoutMs now) :=
  inferInstanceAs (Decidable (_ → _))

/-- The keys of a map are in the order in which their texts began to wait. -/
structure Stretches (timeline : RepeatTimeline Meta) (keys : List Text) : Prop where
  ordered : keys.Pairwise fun first second => timeline.since first < timeline.since second
  past : ∀ key ∈ keys, timeline.since key < timeline.registrations.length

theorem Stretches.sublist {keys others : List Text} (stretches : timeline.Stretches keys)
    (kept : others.Sublist keys) : timeline.Stretches others where
  ordered := stretches.ordered.sublist kept
  past := fun key keyMem => stretches.past key (kept.subset keyMem)

theorem since_register_of_waits {text : Text} {now : Int} (info : Meta)
    (waits : timeline.waits text now = true) (other : Text) :
    (timeline.record (.register text info now)).since other = timeline.since other := by
  simp [since, record, waits]

theorem since_register_of_ne {text other : Text} {now : Int} (info : Meta)
    (apart : other ≠ text) :
    (timeline.record (.register text info now)).since other = timeline.since other := by
  simp only [since, record]
  split
  · rfl
  · rw [List.find?_cons_of_neg]
    simpa using Ne.symm apart

theorem since_register_self {text : Text} {now : Int} (info : Meta)
    (silent : timeline.waits text now = false) :
    (timeline.record (.register text info now)).since text = timeline.registrations.length := by
  simp [since, record, silent]

namespace Timely

theorem waits_iff (timely : timeline.Timely timeoutMs) (text : Text) (now : Int) :
    timeline.waits text now = true ↔
      text ∈ (timeline.tracker.evictExpired now).1.pendingByText.map Prod.fst := by
  have kept := timely.wellFormed.evictExpired now
  rw [(timely.queues_evictExpired now).firstOf_isSome kept.nonempty kept.distinct, firstOf,
    List.find?_isSome, waits, List.any_eq_true, timely.timeout]

theorem since_register_of_young (timely : timeline.Timely timeoutMs) {now : Int} (text : Text)
    (info : Meta) {other : Registration Meta} (otherMem : other ∈ timeline.young timeoutMs now) :
    (timeline.record (.register text info now)).since other.text = timeline.since other.text := by
  by_cases same : other.text = text
  · apply since_register_of_waits
    rw [waits, timely.timeout]
    exact List.any_eq_true.mpr ⟨other, otherMem, decide_eq_true same⟩
  · exact since_register_of_ne info same

theorem mem_keys_registered (timely : timeline.Timely timeoutMs) {now : Int} (text : Text)
    (info : Meta) {other : Registration Meta} (otherMem : other ∈ timeline.young timeoutMs now) :
    other.text ∈ (timeline.tracker.registered text
      (timeline.next text info now) now).pendingByText.map Prod.fst := by
  rcases timely.wellFormed.registered text (timeline.next text info now) now with
    ⟨_, nonempty, distinct⟩
  rw [(timely.queues_registered text info now).firstOf_isSome nonempty distinct, firstOf,
    List.find?_isSome]
  exact ⟨other, List.mem_append_left _ otherMem, decide_eq_true rfl⟩

/-- A text that begins to wait goes behind those that do. -/
theorem stretches_registered (timely : timeline.Timely timeoutMs)
    (stretches : timeline.Stretches (timeline.tracker.pendingByText.map Prod.fst)) (text : Text)
    (info : Meta) (now : Int) :
    (timeline.record (.register text info now)).Stretches
      ((timeline.tracker.registered text
        (timeline.next text info now) now).pendingByText.map Prod.fst) := by
  have kept := stretches.sublist (keys_evictExpired timeline.tracker now)
  have length : (timeline.record (.register text info now)).registrations.length =
      timeline.registrations.length + 1 := by
    simp [record]
  simp only [RepeatCheckTracker.registered, keys_append]
  split
  · rename_i known
    have waits := (timely.waits_iff text now).mpr known
    constructor
    · simpa only [since_register_of_waits info waits] using kept.ordered
    · intro key keyMem
      rw [since_register_of_waits info waits, length]
      exact Nat.lt_succ_of_lt (kept.past key keyMem)
  · rename_i fresh
    have silent : timeline.waits text now = false := by
      rw [Bool.eq_false_iff, ne_eq, timely.waits_iff]
      exact fresh
    have same : ∀ key ∈ (timeline.tracker.evictExpired now).1.pendingByText.map Prod.fst,
        (timeline.record (.register text info now)).since key = timeline.since key := by
      intro key keyMem
      apply since_register_of_ne info
      rintro rfl
      exact fresh keyMem
    constructor
    · refine List.pairwise_append.mpr ⟨?_, List.pairwise_singleton _ _, ?_⟩
      · apply kept.ordered.imp_of_mem
        intro first second firstMem secondMem earlier
        rw [same first firstMem, same second secondMem]
        exact earlier
      · intro key keyMem added addedMem
        rw [List.mem_singleton.mp addedMem, since_register_self info silent, same key keyMem]
        exact kept.past key keyMem
    · intro key keyMem
      rw [length]
      rcases List.mem_append.mp keyMem with old | added
      · rw [same key old]
        exact Nat.lt_succ_of_lt (kept.past key old)
      · rw [List.mem_singleton.mp added, since_register_self info silent]
        exact Nat.lt_succ_self _

theorem stretches_step (timely : timeline.Timely timeoutMs)
    (stretches : timeline.Stretches (timeline.tracker.pendingByText.map Prod.fst))
    {call : RepeatCall Meta} {after : RepeatTimeline Meta}
    (stepped : timeline.step call = some after) :
    after.Stretches (after.tracker.pendingByText.map Prod.fst) := by
  simp only [RepeatTimeline.step, Option.ite_none_right_eq_some, Option.some.injEq] at stepped
  rcases stepped with ⟨_, rfl⟩
  cases call with
  | register text info now =>
      apply (timely.stretches_registered stretches text info now).sublist
      exact evictOldest_sublist _ _
  | checkAndConsume text now =>
      have kept := stretches.sublist (timely.keys_checkAndConsume text now)
      exact ⟨kept.ordered, kept.past⟩
  | sweepExpired now =>
      have kept := stretches.sublist (keys_evictExpired timeline.tracker now)
      exact ⟨kept.ordered, kept.past⟩

/-- Where there is no room, what goes is the first registration of the first text. -/
theorem evictedBy_cases (timely : timeline.Timely timeoutMs) (text : Text) (info : Meta)
    (now : Int) :
    (timeline.young timeoutMs now).length < timeline.tracker.maxEntries ∧
        evictedBy timeline text info now = [] ∨
      (timeline.young timeoutMs now).length = timeline.tracker.maxEntries ∧
        ∃ key others chosen,
          (timeline.tracker.registered text
            (timeline.next text info now) now).pendingByText.map Prod.fst = key :: others ∧
          firstOf key (extended timeline timeoutMs text info now) = some chosen ∧
          evictedBy timeline text info now = [chosen] := by
  have queues := timely.queues_registered text info now
  have length := timely.length_registered text info now
  have more := timely.oneMore text info now
  have bound : (timeline.tracker.registered text (timeline.next text info now) now).maxEntries =
      timeline.tracker.maxEntries := rfl
  have one : (extended timeline timeoutMs text info now).length =
      (timeline.young timeoutMs now).length + 1 := by
    rw [extended, List.length_append, List.length_singleton]
  rcases timely.wellFormed.registered text (timeline.next text info now) now with
    ⟨size, nonempty, distinct⟩
  simp only [evictedBy, register_eq]
  rcases evictOverflow_cases size nonempty distinct more with
    ⟨fits, _, none⟩ | ⟨full, key, entry, rest, others, split, evicted, _, _⟩
  · exact Or.inl ⟨by omega, none⟩
  · right
    refine ⟨by omega, ?_⟩
    have queue := queues key
    rw [split, entriesFor_cons, if_pos rfl] at queue
    rcases List.map_eq_cons_iff.mp queue.symm with ⟨chosen, later, own, rfl, _⟩
    refine ⟨key, others.map Prod.fst, chosen, by rw [split, List.map_cons], ?_, evicted⟩
    rw [firstOf, ← List.head?_filter, ← ofText, own]
    rfl

end Timely

/-- What holds along every run. -/
structure Recorded (timeoutMs : Int) (maxEntries : Nat) (timeline : RepeatTimeline Meta) :
    Prop where
  timely : timeline.Timely timeoutMs
  stretches : timeline.Stretches (timeline.tracker.pendingByText.map Prod.fst)
  capacity : timeline.tracker.maxEntries = maxEntries

theorem recorded_of_reachable
    (reachable : (repeatTimelineSystem Meta timeoutMs maxEntries).Reachable timeline) :
    timeline.Recorded timeoutMs maxEntries := by
  apply EventSystem.ReachableWhen.invariant _ _ reachable
  · rintro timeline ⟨clock, rfl⟩
    exact ⟨timely_new timeoutMs maxEntries clock, ⟨List.Pairwise.nil, by simp [new,
      RepeatCheckTracker.new]⟩, rfl⟩
  · rintro before call after ⟨timely, stretches, capacity⟩ _ stepped
    exact ⟨timely.step stepped, timely.stretches_step stretches stepped,
      (timely.maxEntries_step stepped).trans capacity⟩

/-- Where the oldest registration is not of the first text, some text waits for longer. -/
theorem Recorded.firstText (recorded : timeline.Recorded timeoutMs maxEntries) {text : Text}
    {info : Meta} {now : Int} {key : Text} {others : List Text} {oldest chosen : Registration Meta}
    (keys : (timeline.tracker.registered text
      (timeline.next text info now) now).pendingByText.map Prod.fst = key :: others)
    (first : firstOf key (Timely.extended timeline timeoutMs text info now) = some chosen)
    (oldestMem : oldest ∈ timeline.young timeoutMs now)
    (longest : ∀ other ∈ timeline.young timeoutMs now,
      timeline.since oldest.text ≤ timeline.since other.text)
    (known : oldest.text ∈ key :: others) : oldest.text = key := by
  rcases recorded with ⟨timely, stretches, _⟩
  have registered := timely.stretches_registered stretches text info now
  rw [keys] at registered
  rcases List.mem_cons.mp known with same | behind
  · exact same
  · exfalso
    have later := (List.pairwise_cons.mp registered.ordered).1 oldest.text behind
    have past := registered.past oldest.text known
    have waiting : ∀ other ∈ timeline.young timeoutMs now, other.text ≠ key := by
      rintro other otherMem rfl
      have longer := longest other otherMem
      rw [timely.since_register_of_young text info otherMem,
        timely.since_register_of_young text info oldestMem] at later
      omega
    rcases firstOf_mem first with ⟨chosenMem, rfl⟩
    rcases List.mem_append.mp chosenMem with young | added
    · exact waiting chosen young rfl
    · rw [List.mem_singleton] at added
      subst added
      have silent : timeline.waits text now = false := by
        rw [Bool.eq_false_iff, ne_eq, waits, timely.timeout, List.any_eq_true]
        rintro ⟨other, otherMem, same⟩
        exact waiting other otherMem (of_decide_eq_true same)
      have latest : (timeline.record (.register text info now)).since
          (timeline.next text info now).text = timeline.registrations.length :=
        since_register_self info silent
      have length : (timeline.record (.register text info now)).registrations.length =
          timeline.registrations.length + 1 := by
        simp [record]
      omega

/-- The registrations of the first text have waited for longest. -/
theorem Recorded.longest_of_first (recorded : timeline.Recorded timeoutMs maxEntries)
    {text : Text} {info : Meta} {now : Int} {oldest : Registration Meta} {others : List Text}
    (keys : (timeline.tracker.registered text
      (timeline.next text info now) now).pendingByText.map Prod.fst = oldest.text :: others)
    (oldestMem : oldest ∈ timeline.young timeoutMs now) {other : Registration Meta}
    (otherMem : other ∈ timeline.young timeoutMs now) :
    timeline.since oldest.text ≤ timeline.since other.text := by
  rcases recorded with ⟨timely, stretches, _⟩
  have registered := timely.stretches_registered stretches text info now
  have known := timely.mem_keys_registered text info otherMem
  rw [keys] at registered known
  rcases List.mem_cons.mp known with same | behind
  · rw [same]
  · have later := (List.pairwise_cons.mp registered.ordered).1 other.text behind
    rw [timely.since_register_of_young text info otherMem,
      timely.since_register_of_young text info oldestMem] at later
    exact Nat.le_of_lt later

/-- The evicted registration is the oldest where it is at the front. -/
theorem evictsOldest_iff_front {text : Text} {info : Meta} {now : Int}
    {front chosen : Registration Meta} {rest : List (Registration Meta)}
    (sorted : ∀ other ∈ rest ++ [timeline.next text info now], front.number < other.number)
    (extended : Timely.extended timeline timeoutMs text info now =
      front :: (rest ++ [timeline.next text info now]))
    (chosenMem : chosen ∈ Timely.extended timeline timeoutMs text info now)
    (evicted : Timely.evictedBy timeline text info now = [chosen]) :
    timeline.EvictsOldest timeoutMs text info now ↔ chosen = front := by
  constructor
  · intro evicts
    have atMost := evicts.oldest chosen (by simp [evicted]) front (by simp [extended])
    rw [extended] at chosenMem
    rcases List.mem_cons.mp chosenMem with same | later
    · exact same
    · exact absurd (sorted chosen later) (Nat.not_lt.mpr atMost)
  · rintro rfl
    constructor
    · intro gone goneMem other otherMem
      rw [evicted, List.mem_singleton] at goneMem
      rw [goneMem]
      rw [extended] at otherMem
      rcases List.mem_cons.mp otherMem with rfl | later
      · exact Nat.le_refl _
      · exact Nat.le_of_lt (sorted other later)
    · rw [evicted, List.mem_singleton]
      intro same
      have less := sorted (timeline.next text info now) (by simp)
      rw [same] at less
      exact Nat.lt_irrefl _ less

/-- In every state that a run reaches, what a registration evicts is the oldest of all, and not
the new one, exactly when no text has waited for longer than that of the oldest. -/
theorem evictsOldest_iff (positive : 1 ≤ maxEntries)
    (reachable : (repeatTimelineSystem Meta timeoutMs maxEntries).Reachable timeline)
    {text : Text} {info : Meta} {now : Int} (clock : timeline.clock ≤ now) :
    timeline.EvictsOldest timeoutMs text info now ↔
      timeline.OldestWaitsLongest timeoutMs now := by
  have recorded := recorded_of_reachable reachable
  have capacity := recorded.capacity
  have sorted := recorded.timely.extended_sorted text info clock
  rcases recorded.timely.evictedBy_cases text info now with
    ⟨room, none⟩ | ⟨full, key, others, chosen, keys, first, evicted⟩
  · constructor
    · intro _ full
      exact absurd full (Nat.ne_of_lt room)
    · intro _
      constructor
      · simp [none]
      · simp [none]
  · rcases List.exists_cons_of_length_pos (by omega : 0 < (timeline.young timeoutMs now).length)
      with ⟨oldest, rest, young⟩
    have oldestMem : oldest ∈ timeline.young timeoutMs now := young ▸ List.mem_cons_self
    have extended : Timely.extended timeline timeoutMs text info now =
        oldest :: (rest ++ [timeline.next text info now]) := by
      rw [Timely.extended, young, List.cons_append]
    rcases firstOf_mem first with ⟨chosenMem, isKey⟩
    rw [extended, List.pairwise_cons] at sorted
    rw [evictsOldest_iff_front (fun other later => (sorted.1 other later).1) extended chosenMem
      evicted]
    constructor
    · rintro rfl _ first isOldest other otherMem
      rw [young, List.head?_cons, Option.mem_some_iff] at isOldest
      subst first
      subst key
      exact recorded.longest_of_first keys oldestMem otherMem
    · intro longest
      have known := recorded.timely.mem_keys_registered text info oldestMem
      rw [keys] at known
      have same : oldest.text = key :=
        recorded.firstText keys first oldestMem (longest full oldest (by simp [young])) known
      have own : firstOf oldest.text (oldest :: (rest ++ [timeline.next text info now])) =
          some oldest := List.find?_cons_of_pos (decide_eq_true rfl)
      rw [extended, ← same, own] at first
      exact (Option.some.inj first).symm

/-- The same calls, with room for three registrations. -/
def severalWaiting : RepeatTimeline Nat :=
  { tracker :=
      { timeoutMs := 1000
        maxEntries := 3
        pendingByText :=
          [(['A'], [⟨⟨0, ['A'], 1, 1⟩, 1001, 1⟩, ⟨⟨2, ['A'], 3, 3⟩, 1003, 3⟩]),
            (['B'], [⟨⟨1, ['B'], 2, 2⟩, 1002, 2⟩])]
        totalPending := 3 }
    clock := 3
    registrations := [⟨0, ['A'], 1, 1⟩, ⟨1, ['B'], 2, 2⟩, ⟨2, ['A'], 3, 3⟩]
    openings := [(['B'], 1), (['A'], 0)]
    consumed := []
    reported := []
    evicted := [] }

theorem returningText_waits : (repeatTimelineSystem Nat 1000 3).run EventSystem.anyStep
    (.new 1000 3 0) returningText = some severalWaiting := by
  simp [returningText, EventSystem.run, EventSystem.anyStep, repeatTimelineSystem,
    RepeatTimeline.step, record, RepeatCheckTracker.register, evictExpired,
    RepeatCheckTracker.expired, RepeatCheckTracker.append, evictOverflow, evictOldest, new,
    RepeatCheckTracker.new, next, RepeatCall.now, waits, young, outstanding, Registration.Young,
    severalWaiting]

theorem evictsOldest_of_severalWaiting :
    severalWaiting.EvictsOldest 1000 ['C'] 4 4 ∧ ¬afterReturn.EvictsOldest 1000 ['C'] 4 4 := by
  have waits : (repeatTimelineSystem Nat 1000 3).Reachable severalWaiting :=
    ⟨_, ⟨0, rfl⟩, EventSystem.leads_of_run returningText_waits⟩
  have returned : (repeatTimelineSystem Nat 1000 2).Reachable afterReturn :=
    ⟨_, ⟨0, rfl⟩, EventSystem.leads_of_run returningText_runs⟩
  constructor
  · exact (evictsOldest_iff (by decide) waits (by decide)).mpr (by decide)
  · rw [evictsOldest_iff (by decide) returned (by decide)]
    decide

end RepeatTimeline

end MeshcoreObserver
