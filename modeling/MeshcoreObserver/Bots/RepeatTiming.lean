import MeshcoreObserver.Bots.RepeatTimeline

/-!
# Which registrations are confirmed and which expire

After every run, what a call of a `RepeatCheckTracker` returns is determined by the
history: a check confirms the oldest registration of its text that is neither
consumed nor as old as the timeout, and every call reports all registrations that
have reached the timeout and were not reported or consumed before. A registration
that was evicted for want of room counts as neither.
-/

namespace MeshcoreObserver

universe u

open Transition RepeatCheckTracker

variable {Meta : Type u} {timeoutMs : Int} {maxEntries : Nat} {timeline : RepeatTimeline Meta}

/-- What a call of the tracker returns. -/
structure RepeatResult (Meta : Type u) where
  confirmed : Option (Confirmation Meta)
  expired : List Meta
  evicted : List Meta

/-- What a registration was made with, in place of the registration. -/
def RepeatResult.plain (result : RepeatResult (Registration Meta)) : RepeatResult Meta :=
  ⟨result.confirmed.map (Confirmation.mapInfo Registration.info),
    result.expired.map Registration.info, result.evicted.map Registration.info⟩

namespace RepeatCheckTracker

def call (tracker : RepeatCheckTracker Meta) :
    RepeatCall Meta → RepeatCheckTracker Meta × RepeatResult Meta
  | .register text info now =>
      let (tracker, expired, evicted) := tracker.register text info now
      (tracker, ⟨none, expired, evicted⟩)
  | .checkAndConsume text now =>
      let (tracker, confirmed, expired) := tracker.checkAndConsume text now
      (tracker, ⟨confirmed, expired, []⟩)
  | .sweepExpired now =>
      let (tracker, expired) := tracker.evictExpired now
      (tracker, ⟨none, expired, []⟩)

end RepeatCheckTracker

namespace RepeatTimeline

/-- The same call, with the registration as what it registers. -/
def numbered (timeline : RepeatTimeline Meta) : RepeatCall Meta → RepeatCall (Registration Meta)
  | .register text info now => .register text (timeline.next text info now) now
  | .checkAndConsume text now => .checkAndConsume text now
  | .sweepExpired now => .sweepExpired now

def result (timeline : RepeatTimeline Meta) (call : RepeatCall Meta) :
    RepeatResult (Registration Meta) :=
  (timeline.tracker.call (timeline.numbered call)).2

/-- A tracker that holds what its callers registered, and not the registrations, runs along and
returns the same. -/
theorem call_mapInfo (timeline : RepeatTimeline Meta) (call : RepeatCall Meta) :
    (timeline.tracker.mapInfo Registration.info).call call =
      ((timeline.record call).tracker.mapInfo Registration.info,
        (timeline.result call).plain) := by
  cases call with
  | register text info now =>
      have mapped := register_mapInfo Registration.info timeline.tracker text
        (timeline.next text info now) now
      simp only [RepeatCheckTracker.call, result, numbered, record, RepeatResult.plain]
      simp only [next] at mapped ⊢
      rw [mapped]
      rfl
  | checkAndConsume text now =>
      have mapped := checkAndConsume_mapInfo Registration.info timeline.tracker text now
      simp only [RepeatCheckTracker.call, result, numbered, record, RepeatResult.plain]
      rw [mapped]
      rfl
  | sweepExpired now =>
      have mapped := evictExpired_mapInfo Registration.info timeline.tracker now
      simp only [RepeatCheckTracker.call, result, numbered, record, RepeatResult.plain]
      rw [mapped]
      rfl

/-- The registration has the text, is younger than the timeout and was neither consumed nor
evicted. -/
structure Confirmable (timeline : RepeatTimeline Meta) (timeoutMs : Int) (text : Text) (now : Int)
    (registration : Registration Meta) : Prop where
  registered : registration ∈ timeline.registrations
  ownText : registration.text = text
  young : now - registration.sentAt < timeoutMs
  unconsumed : registration.number ∉ timeline.consumed
  kept : registration.number ∉ timeline.evicted

/-- The registration has reached the timeout and was not consumed, reported or evicted. -/
structure Due (timeline : RepeatTimeline Meta) (timeoutMs now : Int)
    (registration : Registration Meta) : Prop where
  registered : registration ∈ timeline.registrations
  old : timeoutMs ≤ now - registration.sentAt
  unconsumed : registration.number ∉ timeline.consumed
  unreported : registration.number ∉ timeline.reported
  kept : registration.number ∉ timeline.evicted

/-- The results of the calls at one time. -/
structure AnswersHistory (timeline : RepeatTimeline Meta) (timeoutMs now : Int) : Prop where
  confirms : ∀ text, (timeline.result (.checkAndConsume text now)).confirmed.isSome ↔
    ∃ registration, timeline.Confirmable timeoutMs text now registration
  oldest : ∀ text, ∀ found ∈ (timeline.result (.checkAndConsume text now)).confirmed,
    timeline.Confirmable timeoutMs text now found.info ∧
      (∀ other, timeline.Confirmable timeoutMs text now other →
        found.info.number ≤ other.number) ∧
      found.elapsedMs = now - found.info.sentAt
  expired : ∀ call, call.now = now → (timeline.result call).expired.Nodup ∧
    ∀ registration, registration ∈ (timeline.result call).expired ↔
      timeline.Due timeoutMs now registration

theorem mem_outstanding {registration : Registration Meta} :
    registration ∈ timeline.outstanding ↔ registration ∈ timeline.registrations ∧
      registration.number ∉ timeline.consumed ∧ registration.number ∉ timeline.reported ∧
        registration.number ∉ timeline.evicted := by
  rw [outstanding, List.mem_filter, decide_eq_true_eq]

namespace Timely

/-- A registration that is still young was not reported. -/
theorem mem_ofText_young (timely : timeline.Timely timeoutMs) {text : Text} {now : Int}
    (clock : timeline.clock ≤ now) {registration : Registration Meta} :
    registration ∈ ofText text (timeline.young timeoutMs now) ↔
      timeline.Confirmable timeoutMs text now registration := by
  simp only [ofText, RepeatTimeline.young, List.mem_filter, decide_eq_true_eq, mem_outstanding]
  constructor
  · rintro ⟨⟨⟨registered, unconsumed, _, kept⟩, young⟩, ownText⟩
    exact ⟨registered, ownText, young, unconsumed, kept⟩
  · rintro ⟨registered, ownText, young, unconsumed, kept⟩
    refine ⟨⟨⟨registered, unconsumed, ?_, kept⟩, young⟩, ownText⟩
    intro reported
    have old := timely.expired registration registered reported
    simp only [Registration.Young] at old
    omega

theorem expired_result (timely : timeline.Timely timeoutMs) (call : RepeatCall Meta) :
    (timeline.result call).expired = (timeline.tracker.evictExpired call.now).2 := by
  cases call with
  | register text info now => rfl
  | checkAndConsume text now => exact timely.expired_eq text now
  | sweepExpired now => rfl

theorem nodup_outstanding (timely : timeline.Timely timeoutMs) : timeline.outstanding.Nodup := by
  apply timely.outstanding_sorted.imp
  intro first second before same
  have less := before.1
  rw [same] at less
  exact Nat.lt_irrefl _ less

theorem answersHistory (timely : timeline.Timely timeoutMs) {now : Int}
    (clock : timeline.clock ≤ now) : timeline.AnswersHistory timeoutMs now where
  confirms := by
    intro text
    have confirmed : (timeline.result (.checkAndConsume text now)).confirmed = _ :=
      timely.confirmed_eq text now
    rw [confirmed, Option.isSome_map, List.isSome_head?]
    constructor
    · intro nonempty
      rcases List.exists_mem_of_ne_nil _ nonempty with ⟨registration, registrationMem⟩
      exact ⟨registration, (timely.mem_ofText_young clock).mp registrationMem⟩
    · rintro ⟨registration, confirmable⟩
      exact List.ne_nil_of_mem ((timely.mem_ofText_young clock).mpr confirmable)
  oldest := by
    intro text found foundMem
    have confirmed : (timeline.result (.checkAndConsume text now)).confirmed = _ :=
      timely.confirmed_eq text now
    rw [confirmed] at foundMem
    rcases Option.map_eq_some_iff.mp foundMem with ⟨registration, first, rfl⟩
    rcases List.head?_eq_some_iff.mp first with ⟨others, queue⟩
    have ordered := (timely.young_sorted now).filter fun registration =>
      decide (registration.text = text)
    rw [← ofText, queue, List.pairwise_cons] at ordered
    refine ⟨(timely.mem_ofText_young clock).mp (List.mem_of_head? first), ?_, rfl⟩
    intro other confirmable
    have otherMem := (timely.mem_ofText_young clock).mpr confirmable
    rw [queue] at otherMem
    rcases List.mem_cons.mp otherMem with rfl | later
    · exact Nat.le_refl _
    · exact Nat.le_of_lt (ordered.1 other later).1
  expired := by
    rintro call rfl
    rw [timely.expired_result]
    constructor
    · exact (timely.expired_perm call.now).nodup_iff.mpr (timely.nodup_outstanding.filter _)
    · intro registration
      rw [timely.mem_expired, mem_outstanding, Registration.Young, Int.not_lt]
      constructor
      · rintro ⟨⟨registered, unconsumed, unreported, kept⟩, old⟩
        exact ⟨registered, old, unconsumed, unreported, kept⟩
      · rintro ⟨registered, old, unconsumed, unreported, kept⟩
        exact ⟨⟨registered, unconsumed, unreported, kept⟩, old⟩

end Timely

/-- After every run the results are those of the history. -/
theorem answersHistory_of_reachable
    (reachable : (repeatTimelineSystem Meta timeoutMs maxEntries).Reachable timeline) {now : Int}
    (clock : timeline.clock ≤ now) : timeline.AnswersHistory timeoutMs now :=
  (timely_of_reachableWhen reachable).answersHistory clock

/-- Two equal replies, of which the first is confirmed. -/
def equalReplies : List (RepeatCall Text) :=
  [.register ['A'] ['x'] 10, .register ['A'] ['y'] 20, .checkAndConsume ['A'] 30]

theorem equalReplies_ran : ((repeatTimelineSystem Text 100 5).run EventSystem.anyStep
    (.new 100 5 0) equalReplies).isSome := by
  decide

theorem answersHistory_of_equalReplies :
    (((repeatTimelineSystem Text 100 5).run EventSystem.anyStep (.new 100 5 0)
      equalReplies).get equalReplies_ran).AnswersHistory 100 120 := by
  refine answersHistory_of_reachable (EventSystem.reachableWhen_get ?_ equalReplies_ran) ?_
  · exact ⟨0, rfl⟩
  · decide

end RepeatTimeline

end MeshcoreObserver
