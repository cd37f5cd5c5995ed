import MeshcoreObserver.Bots.RepeatRegistrations
import MeshcoreObserver.Counting.SortedFilter
import MeshcoreObserver.Transition.EventSystem

/-!
# The history of a repeat-check tracker

A timeline numbers the registrations of a `RepeatCheckTracker` and records what
its operations return: which registrations were confirmed, which were reported as
expired and which were evicted. What a registration carries is the registration
itself, as the tracker never looks at it. The clock never goes back.

The outstanding registrations are those that none of the records names. The
tracker holds exactly these: for each text, in the order of their registration. The
openings are the registrations that found no other one of their text outstanding.
-/

namespace MeshcoreObserver

universe u

open Transition Counting

structure Registration (Meta : Type u) where
  number : Nat
  text : Text
  info : Meta
  sentAt : Int
  deriving DecidableEq, Repr

structure RepeatTimeline (Meta : Type u) where
  tracker : RepeatCheckTracker (Registration Meta)
  clock : Int
  registrations : List (Registration Meta)
  openings : List (Text × Nat)
  consumed : List Nat
  reported : List Nat
  evicted : List Nat
  deriving DecidableEq, Repr

/-- A call of the tracker, with the reading of its clock. -/
inductive RepeatCall (Meta : Type u) where
  | register (text : Text) (info : Meta) (now : Int)
  | checkAndConsume (text : Text) (now : Int)
  | sweepExpired (now : Int)
  deriving DecidableEq, Repr

variable {Meta : Type u}

def RepeatCall.now : RepeatCall Meta → Int
  | .register _ _ now => now
  | .checkAndConsume _ now => now
  | .sweepExpired now => now

namespace Registration

/-- Registered earlier. -/
def Before (first second : Registration Meta) : Prop :=
  first.number < second.number ∧ first.sentAt ≤ second.sentAt

def Young (timeoutMs now : Int) (registration : Registration Meta) : Prop :=
  now - registration.sentAt < timeoutMs

instance (timeoutMs now : Int) (registration : Registration Meta) :
    Decidable (registration.Young timeoutMs now) :=
  inferInstanceAs (Decidable (now - registration.sentAt < timeoutMs))

def entry (timeoutMs : Int) (registration : Registration Meta) :
    RepeatEntry (Registration Meta) :=
  ⟨registration, registration.sentAt + timeoutMs, registration.sentAt⟩

end Registration

namespace RepeatTimeline

def new (timeoutMs : Int) (maxEntries : Nat) (clock : Int) : RepeatTimeline Meta :=
  { tracker := .new timeoutMs maxEntries, clock, registrations := [], openings := []
    consumed := [], reported := [], evicted := [] }

def next (timeline : RepeatTimeline Meta) (text : Text) (info : Meta) (now : Int) :
    Registration Meta :=
  ⟨timeline.registrations.length, text, info, now⟩

/-- The registrations that are not yet consumed, not yet reported and not evicted. -/
def outstanding (timeline : RepeatTimeline Meta) : List (Registration Meta) :=
  timeline.registrations.filter fun registration =>
    registration.number ∉ timeline.consumed ∧ registration.number ∉ timeline.reported ∧
      registration.number ∉ timeline.evicted

/-- The outstanding registrations that have not expired. -/
def young (timeline : RepeatTimeline Meta) (timeoutMs now : Int) : List (Registration Meta) :=
  timeline.outstanding.filter fun registration => registration.Young timeoutMs now

/-- A registration of the text waits. -/
def waits (timeline : RepeatTimeline Meta) (text : Text) (now : Int) : Bool :=
  (timeline.young timeline.tracker.timeoutMs now).any fun registration =>
    registration.text = text

def record (timeline : RepeatTimeline Meta) : RepeatCall Meta → RepeatTimeline Meta
  | .register text info now =>
      let (tracker, expired, evicted) :=
        timeline.tracker.register text (timeline.next text info now) now
      { timeline with
        tracker
        clock := now
        registrations := timeline.registrations ++ [timeline.next text info now]
        openings :=
          if timeline.waits text now then timeline.openings
          else (text, timeline.registrations.length) :: timeline.openings
        reported := timeline.reported ++ expired.map Registration.number
        evicted := timeline.evicted ++ evicted.map Registration.number }
  | .checkAndConsume text now =>
      let (tracker, confirmed, expired) := timeline.tracker.checkAndConsume text now
      { timeline with
        tracker
        clock := now
        consumed := timeline.consumed ++ confirmed.toList.map fun found => found.info.number
        reported := timeline.reported ++ expired.map Registration.number }
  | .sweepExpired now =>
      let (tracker, expired) := timeline.tracker.evictExpired now
      { timeline with
        tracker
        clock := now
        reported := timeline.reported ++ expired.map Registration.number }

def step (timeline : RepeatTimeline Meta) (call : RepeatCall Meta) :
    Option (RepeatTimeline Meta) :=
  if timeline.clock ≤ call.now then some (timeline.record call) else none

end RepeatTimeline

/-- The runs of a tracker under a clock that never goes back. -/
def repeatTimelineSystem (Meta : Type u) (timeoutMs : Int) (maxEntries : Nat) :
    EventSystem (RepeatTimeline Meta) (RepeatCall Meta) where
  Initial timeline := ∃ clock, timeline = .new timeoutMs maxEntries clock
  step := RepeatTimeline.step

namespace RepeatCheckTracker

variable {timeoutMs now : Int} {list : List (Registration Meta)}
  {pendingByText : List (Text × List (RepeatEntry (Registration Meta)))}

def ofText (text : Text) (list : List (Registration Meta)) : List (Registration Meta) :=
  list.filter fun registration => registration.text = text

/-- The map holds the registrations of a list, under their texts and in the order of the list. -/
def Queues (timeoutMs : Int) (list : List (Registration Meta))
    (pendingByText : List (Text × List (RepeatEntry (Registration Meta)))) : Prop :=
  ∀ text, entriesFor text pendingByText = (ofText text list).map (Registration.entry timeoutMs)

/-- The registrations of a list but for those with certain numbers. -/
def without (numbers : List Nat) (list : List (Registration Meta)) : List (Registration Meta) :=
  list.filter fun registration => registration.number ∉ numbers

@[simp] theorem without_nil (list : List (Registration Meta)) : without [] list = list := by
  simp [without]

theorem without_singleton (number : Nat) (list : List (Registration Meta)) :
    without [number] list = list.filter fun registration => registration.number ≠ number := by
  simp [without]

theorem eq_of_number (sorted : list.Pairwise Registration.Before)
    {first second : Registration Meta} (firstMem : first ∈ list) (secondMem : second ∈ list)
    (same : first.number = second.number) : first = second := by
  have distinct : (list.map Registration.number).Nodup := by
    rw [List.Nodup, List.pairwise_map]
    apply sorted.imp
    intro first second before
    have less := before.1
    omega
  exact List.inj_on_of_nodup_map distinct firstMem secondMem same

theorem ofText_perm (text : Text) (list : List (Registration Meta)) :
    (ofText text list ++ list.filter fun registration => registration.text ≠ text).Perm list := by
  have split := List.filter_append_perm (fun registration => decide (registration.text = text)) list
  simp only [ofText, ne_eq, decide_not]
  exact split

theorem Queues.entries_perm (queues : Queues timeoutMs list pendingByText)
    (distinct : (pendingByText.map Prod.fst).Nodup) :
    (pendingByText.flatMap Prod.snd).Perm (list.map (Registration.entry timeoutMs)) := by
  induction pendingByText generalizing list with
  | nil =>
      cases list with
      | nil => exact List.Perm.refl []
      | cons registration list =>
          have own := queues registration.text
          simp [entriesFor, ofText] at own
  | cons pending others ih =>
      rw [List.map_cons, List.nodup_cons] at distinct
      have own := queues pending.1
      rw [entriesFor_cons, if_pos rfl] at own
      have rest : Queues timeoutMs
          (list.filter fun registration => registration.text ≠ pending.1) others := by
        intro text
        have all := queues text
        rw [entriesFor_cons] at all
        simp only [ofText, List.filter_filter] at all ⊢
        by_cases same : pending.1 = text
        · subst text
          rw [entriesFor_of_notMem distinct.1]
          symm
          rw [List.map_eq_nil_iff, List.filter_eq_nil_iff]
          intro registration _ both
          simp at both
        · rw [if_neg same] at all
          rw [all]
          congr 1
          apply List.filter_congr
          intro registration _
          by_cases found : registration.text = text
          · simp [found, Ne.symm same]
          · simp [found]
      have split := (ofText_perm pending.1 list).map (Registration.entry timeoutMs)
      rw [List.flatMap_cons, own]
      rw [List.map_append] at split
      exact ((ih rest distinct.2).append_left _).trans split

/-- What has expired leaves every queue. -/
theorem Queues.evictExpired {tracker : RepeatCheckTracker (Registration Meta)}
    (queues : Queues timeoutMs list tracker.pendingByText) (wellFormed : tracker.WellFormed)
    (sorted : list.Pairwise Registration.Before) (now : Int) :
    Queues timeoutMs (list.filter fun registration => registration.Young timeoutMs now)
      (tracker.evictExpired now).1.pendingByText := by
  intro text
  rw [entriesFor_evictExpired wellFormed, waiting, queues text, dropWhile_eq_filter,
    List.filter_map]
  · congr 1
    simp only [ofText, List.filter_filter]
    apply List.filter_congr
    intro registration _
    rw [Bool.and_comm]
    congr 1
    simp only [Function.comp_apply, Registration.entry, Registration.Young, ← decide_not]
    apply decide_eq_decide.mpr
    omega
  · rw [List.pairwise_map]
    apply (sorted.filter _).imp
    intro first second before expired
    have older := before.2
    have expired : second.sentAt + timeoutMs ≤ now := of_decide_eq_true expired
    have expiredFirst : first.sentAt + timeoutMs ≤ now := by omega
    exact decide_eq_true expiredFirst

/-- What is reported is what has expired, each once. -/
theorem Queues.expired_perm {tracker : RepeatCheckTracker (Registration Meta)}
    (queues : Queues timeoutMs list tracker.pendingByText) (wellFormed : tracker.WellFormed)
    (sorted : list.Pairwise Registration.Before) (now : Int) :
    (tracker.evictExpired now).2.Perm
      (list.filter fun registration => ¬registration.Young timeoutMs now) := by
  have all := (tracker.evictExpired_perm now).symm.trans (queues.entries_perm wellFormed.distinct)
  have left := (queues.evictExpired wellFormed sorted now).entries_perm
    (wellFormed.evictExpired now).distinct
  have split := ((List.filter_append_perm
    (fun registration => decide (registration.Young timeoutMs now)) list).map
      (Registration.entry timeoutMs)).symm
  rw [List.map_append] at split
  have both := ((left.symm.append_left (tracker.expired now)).trans all).trans
    (split.trans List.perm_append_comm)
  have gone := ((List.perm_append_right_iff _).mp both).map RepeatEntry.info
  rw [List.map_map] at gone
  simp only [decide_not]
  exact gone.trans (List.Perm.of_eq (List.map_id _))

theorem entriesFor_append (text other : Text) (entry : RepeatEntry (Registration Meta)) :
    entriesFor other (append text entry pendingByText) =
      if other = text then entriesFor text pendingByText ++ [entry]
      else entriesFor other pendingByText := by
  induction pendingByText with
  | nil =>
      simp only [append, entriesFor_cons]
      by_cases same : other = text
      · subst other
        simp [entriesFor]
      · rw [if_neg (Ne.symm same), if_neg same]
  | cons pending others ih =>
      simp only [append]
      split
      · rename_i found
        simp only [entriesFor_cons, if_pos found]
        by_cases same : other = text
        · rw [if_pos same.symm, if_pos same]
        · have apart : pending.1 ≠ other := fun equal => same (equal.symm.trans found)
          rw [if_neg (Ne.symm same), if_neg same, if_neg apart]
      · rename_i apart
        simp only [entriesFor_cons, if_neg apart, ih]
        by_cases same : other = text
        · subst other
          simp only [if_true, if_neg apart]
        · simp only [if_neg same]

theorem Queues.append (queues : Queues timeoutMs list pendingByText)
    (registration : Registration Meta) :
    Queues timeoutMs (list ++ [registration])
      (RepeatCheckTracker.append registration.text (registration.entry timeoutMs)
        pendingByText) := by
  intro text
  rw [entriesFor_append]
  split
  · rename_i same
    subst text
    rw [queues registration.text]
    simp [ofText]
  · rename_i apart
    rw [queues text]
    simp [ofText, Ne.symm apart]

/-- The first registration of one text leaves its queue. -/
theorem Queues.remove {text : Text} {first : RepeatEntry (Registration Meta)}
    {rest : List (RepeatEntry (Registration Meta))}
    {left : List (Text × List (RepeatEntry (Registration Meta)))}
    (queues : Queues timeoutMs list pendingByText)
    (sorted : list.Pairwise Registration.Before)
    (queue : entriesFor text pendingByText = first :: rest)
    (leaves : ∀ other, entriesFor other left =
      if other = text then rest else entriesFor other pendingByText) :
    Queues timeoutMs (without [first.info.number] list) left := by
  intro other
  rw [without_singleton]
  have own := queues text
  rw [queue] at own
  rcases List.map_eq_cons_iff.mp own.symm with ⟨registration, registrations, chosen, rfl, rfl⟩
  have ordered : (registration :: registrations).Pairwise Registration.Before := by
    rw [← chosen]
    exact sorted.filter _
  rw [List.pairwise_cons] at ordered
  have regrouped : ∀ number, ofText other
      (list.filter fun registration => registration.number ≠ number) =
      (ofText other list).filter fun registration => registration.number ≠ number := by
    intro number
    simp only [ofText, List.filter_filter]
    apply List.filter_congr
    intro registration _
    rw [Bool.and_comm]
  rw [leaves other, regrouped]
  split
  · rename_i same
    subst other
    rw [chosen, List.filter_cons_of_neg (by simp [Registration.entry])]
    congr 1
    symm
    rw [List.filter_eq_self]
    intro later laterMem
    have after := (ordered.1 later laterMem).1
    exact decide_eq_true (Nat.ne_of_gt after)
  · rename_i apart
    rw [queues other]
    congr 1
    symm
    rw [List.filter_eq_self]
    intro kept keptMem
    apply decide_eq_true
    intro same
    have keptText : kept.text = other := of_decide_eq_true (List.mem_filter.mp keptMem).2
    have registrationMem : registration ∈ ofText text list := by
      rw [chosen]
      exact List.mem_cons_self
    have registrationText : registration.text = text :=
      of_decide_eq_true (List.mem_filter.mp registrationMem).2
    have equal := eq_of_number sorted (List.mem_filter.mp keptMem).1
      (List.mem_filter.mp registrationMem).1 same
    exact apart (keptText.symm.trans ((congrArg Registration.text equal).trans registrationText))

/-- Where there is one registration too many, the first one of the first text of the map goes. -/
theorem evictOverflow_cases {tracker : RepeatCheckTracker (Registration Meta)}
    (size : tracker.totalPending = tracker.entries.length)
    (nonempty : ∀ pending ∈ tracker.pendingByText, pending.2 ≠ [])
    (distinct : (tracker.pendingByText.map Prod.fst).Nodup)
    (oneMore : tracker.totalPending ≤ tracker.maxEntries + 1) :
    tracker.totalPending ≤ tracker.maxEntries ∧
        tracker.evictOverflow.1.pendingByText = tracker.pendingByText ∧
        tracker.evictOverflow.2 = [] ∨
      tracker.maxEntries < tracker.totalPending ∧ ∃ text first rest others,
        tracker.pendingByText = (text, first :: rest) :: others ∧
        tracker.evictOverflow.2 = [first.info] ∧
        (tracker.evictOverflow.1.pendingByText.map Prod.fst).Sublist
          (tracker.pendingByText.map Prod.fst) ∧
        ∀ other, entriesFor other tracker.evictOverflow.1.pendingByText =
          if other = text then rest else entriesFor other tracker.pendingByText := by
  by_cases fits : tracker.totalPending ≤ tracker.maxEntries
  · left
    have none : (tracker.totalPending - tracker.maxEntries).toNat = 0 := by omega
    simp only [evictOverflow, none, evictOldest]
    exact ⟨fits, trivial, trivial⟩
  · right
    refine ⟨by omega, ?_⟩
    have one : (tracker.totalPending - tracker.maxEntries).toNat = 1 := by omega
    rcases tracker with ⟨timeoutMs, maxEntries, pendingByText, totalPending⟩
    simp only [entries] at size fits oneMore nonempty distinct one
    cases pendingByText with
    | nil =>
        simp only [List.flatMap_nil, List.length_nil] at size
        omega
    | cons pending others =>
        rcases pending with ⟨text, queue⟩
        cases queue with
        | nil => exact absurd rfl (nonempty (text, []) List.mem_cons_self)
        | cons first rest =>
            rw [List.map_cons, List.nodup_cons] at distinct
            refine ⟨text, first, rest, others, rfl, ?_, evictOldest_sublist _ _, ?_⟩
            · simp only [evictOverflow, one, evictOldest]
            · intro other
              simp only [evictOverflow, one, evictOldest, entriesFor_cons]
              by_cases same : other = text
              · subst other
                rw [if_pos rfl]
                split
                · rename_i none
                  rw [none, entriesFor_of_notMem distinct.1]
                · rw [entriesFor_cons, if_pos rfl]
              · rw [if_neg same, if_neg (Ne.symm same)]
                split
                · rfl
                · rw [entriesFor_cons, if_neg (Ne.symm same)]

end RepeatCheckTracker

namespace RepeatTimeline

open RepeatCheckTracker

/-- The tracker holds the outstanding registrations. -/
structure Timely (timeoutMs : Int) (timeline : RepeatTimeline Meta) : Prop where
  wellFormed : timeline.tracker.WellFormed
  timeout : timeline.tracker.timeoutMs = timeoutMs
  sorted : timeline.registrations.Pairwise Registration.Before
  numbered : ∀ registration ∈ timeline.registrations,
    registration.number < timeline.registrations.length
  logged : ∀ number ∈ timeline.consumed ++ (timeline.reported ++ timeline.evicted),
    number < timeline.registrations.length
  past : ∀ registration ∈ timeline.registrations, registration.sentAt ≤ timeline.clock
  queues : Queues timeoutMs timeline.outstanding timeline.tracker.pendingByText
  expired : ∀ registration ∈ timeline.registrations, registration.number ∈ timeline.reported →
    ¬registration.Young timeoutMs timeline.clock

variable {timeoutMs : Int} {maxEntries : Nat} {timeline : RepeatTimeline Meta}

theorem timely_new (timeoutMs : Int) (maxEntries : Nat) (clock : Int) :
    (new timeoutMs maxEntries clock : RepeatTimeline Meta).Timely timeoutMs where
  wellFormed := wellFormed_new timeoutMs maxEntries
  timeout := rfl
  sorted := List.Pairwise.nil
  numbered := by simp [new]
  logged := by simp [new]
  past := by simp [new]
  queues := fun _ => rfl
  expired := by simp [new]

/-- What the clock reports. -/
def old (timeline : RepeatTimeline Meta) (timeoutMs now : Int) : List (Registration Meta) :=
  timeline.outstanding.filter fun registration => ¬registration.Young timeoutMs now

namespace Timely

theorem outstanding_sorted (timely : timeline.Timely timeoutMs) :
    timeline.outstanding.Pairwise Registration.Before :=
  timely.sorted.filter _

theorem young_sorted (timely : timeline.Timely timeoutMs) (now : Int) :
    (timeline.young timeoutMs now).Pairwise Registration.Before :=
  timely.outstanding_sorted.filter _

theorem expired_perm (timely : timeline.Timely timeoutMs) (now : Int) :
    (timeline.tracker.evictExpired now).2.Perm (timeline.old timeoutMs now) :=
  timely.queues.expired_perm timely.wellFormed timely.outstanding_sorted now

theorem queues_evictExpired (timely : timeline.Timely timeoutMs) (now : Int) :
    Queues timeoutMs (timeline.young timeoutMs now)
      (timeline.tracker.evictExpired now).1.pendingByText :=
  timely.queues.evictExpired timely.wellFormed timely.outstanding_sorted now

theorem mem_registrations {registration : Registration Meta}
    (registrationMem : registration ∈ timeline.outstanding) :
    registration ∈ timeline.registrations :=
  List.mem_of_mem_filter registrationMem

theorem mem_expired (timely : timeline.Timely timeoutMs) {now : Int}
    {registration : Registration Meta} :
    registration ∈ (timeline.tracker.evictExpired now).2 ↔
      registration ∈ timeline.outstanding ∧ ¬registration.Young timeoutMs now := by
  rw [(timely.expired_perm now).mem_iff, old, List.mem_filter, decide_eq_true_eq]

theorem expired_number (timely : timeline.Timely timeoutMs) {now : Int}
    {registration : Registration Meta} (registrationMem : registration ∈ timeline.registrations) :
    registration.number ∈ (timeline.tracker.evictExpired now).2.map Registration.number ↔
      registration ∈ timeline.outstanding ∧ ¬registration.Young timeoutMs now := by
  rw [← timely.mem_expired]
  constructor
  · intro numberMem
    rcases List.mem_map.mp numberMem with ⟨other, otherMem, same⟩
    have known := mem_registrations (timely.mem_expired.mp otherMem).1
    rw [← eq_of_number timely.sorted known registrationMem same]
    exact otherMem
  · exact List.mem_map_of_mem

theorem expired_logged (timely : timeline.Timely timeoutMs) (now : Int) :
    ∀ number ∈ (timeline.tracker.evictExpired now).2.map Registration.number,
      number < timeline.registrations.length := by
  intro number numberMem
  rcases List.mem_map.mp numberMem with ⟨registration, registrationMem, rfl⟩
  exact timely.numbered registration
    (mem_registrations (timely.mem_expired.mp registrationMem).1)

theorem reported_expired (timely : timeline.Timely timeoutMs) {now : Int}
    (clock : timeline.clock ≤ now) :
    ∀ registration ∈ timeline.registrations, registration.number ∈
        timeline.reported ++ (timeline.tracker.evictExpired now).2.map Registration.number →
      ¬registration.Young timeoutMs now := by
  intro registration registrationMem reported
  rcases List.mem_append.mp reported with before | just
  · have expired := timely.expired registration registrationMem before
    simp only [Registration.Young] at expired ⊢
    omega
  · exact ((timely.expired_number registrationMem).mp just).2

/-- What is left of the outstanding registrations once the clock has reported. -/
theorem outstanding_reported (timely : timeline.Timely timeoutMs) (now : Int) :
    without ((timeline.tracker.evictExpired now).2.map Registration.number)
        timeline.outstanding =
      timeline.young timeoutMs now := by
  apply List.filter_congr
  intro registration registrationMem
  apply decide_eq_decide.mpr
  rw [timely.expired_number (mem_registrations registrationMem)]
  simp only [registrationMem, true_and, not_not]

theorem sweepExpired (timely : timeline.Timely timeoutMs) {now : Int}
    (clock : timeline.clock ≤ now) :
    (timeline.record (.sweepExpired now)).outstanding = timeline.young timeoutMs now ∧
      (timeline.record (.sweepExpired now)).Timely timeoutMs := by
  have left : (timeline.record (.sweepExpired now)).outstanding =
      timeline.young timeoutMs now := by
    rw [← timely.outstanding_reported now]
    simp only [without, outstanding, record, List.filter_filter]
    apply List.filter_congr
    intro registration _
    rw [← Bool.decide_and]
    apply decide_eq_decide.mpr
    rw [List.mem_append]
    tauto
  refine ⟨left, ?_⟩
  refine ⟨timely.wellFormed.evictExpired now, timely.timeout, timely.sorted, timely.numbered,
    ?_, ?_, ?_, timely.reported_expired clock⟩
  · intro number numberMem
    simp only [record, List.append_assoc, List.mem_append] at numberMem
    have before := timely.logged number
    have just := timely.expired_logged now number
    simp only [List.mem_append] at before
    simp only [record]
    tauto
  · intro registration registrationMem
    have before := timely.past registration registrationMem
    simp only [record]
    omega
  · rw [left]
    exact timely.queues_evictExpired now

/-- A check confirms the first young registration of its text. -/
theorem confirmed_eq (timely : timeline.Timely timeoutMs) (text : Text) (now : Int) :
    (timeline.tracker.checkAndConsume text now).2.1 =
      (ofText text (timeline.young timeoutMs now)).head?.map fun registration =>
        ⟨registration, now - registration.sentAt⟩ := by
  have queue := timely.queues_evictExpired now text
  rw [entriesFor_evictExpired timely.wellFormed] at queue
  rw [checkAndConsume_eq timely.wellFormed, queue]
  cases ofText text (timeline.young timeoutMs now) with
  | nil => rfl
  | cons first rest => rfl

theorem expired_eq (timely : timeline.Timely timeoutMs) (text : Text) (now : Int) :
    (timeline.tracker.checkAndConsume text now).2.2 =
      (timeline.tracker.evictExpired now).2 := by
  rw [checkAndConsume_eq timely.wellFormed]
  cases timeline.tracker.waiting text now with
  | nil => rfl
  | cons first rest => rfl

theorem timeout_check (timely : timeline.Timely timeoutMs) (text : Text) (now : Int) :
    (timeline.tracker.checkAndConsume text now).1.timeoutMs = timeoutMs := by
  rw [checkAndConsume_eq timely.wellFormed]
  cases timeline.tracker.waiting text now with
  | nil => exact timely.timeout
  | cons first rest => exact timely.timeout

/-- What is left of the young registrations once the first one of a text is consumed. -/
def unconsumed (timeline : RepeatTimeline Meta) (timeoutMs : Int) (text : Text) (now : Int) :
    List (Registration Meta) :=
  without
    ((timeline.tracker.checkAndConsume text now).2.1.toList.map fun found => found.info.number)
    (timeline.young timeoutMs now)

theorem queues_check (timely : timeline.Timely timeoutMs) (text : Text) (now : Int) :
    Queues timeoutMs (unconsumed timeline timeoutMs text now)
      (timeline.tracker.checkAndConsume text now).1.pendingByText := by
  have kept := timely.queues_evictExpired now
  have waiting := fun key => entriesFor_evictExpired timely.wellFormed key now
  have leaves := fun other => entriesFor_checkAndConsume timely.wellFormed text other now
  rw [unconsumed, timely.confirmed_eq]
  cases chosen : ofText text (timeline.young timeoutMs now) with
  | nil =>
      intro other
      have own := kept text
      rw [chosen, waiting] at own
      rw [leaves other]
      simp only [List.head?_nil, Option.map_none, Option.toList_none, List.map_nil,
        without_nil]
      rw [← kept other, waiting]
      split
      · rename_i same
        rw [same, own]
        rfl
      · rfl
  | cons first rest =>
      have queue := kept text
      rw [chosen] at queue
      apply kept.remove (timely.young_sorted now) queue
      intro other
      rw [leaves other, ← waiting text, queue, ← waiting other]
      rfl

theorem checkAndConsume (timely : timeline.Timely timeoutMs) {now : Int} (text : Text)
    (clock : timeline.clock ≤ now) :
    (timeline.record (.checkAndConsume text now)).outstanding =
        unconsumed timeline timeoutMs text now ∧
      (timeline.record (.checkAndConsume text now)).Timely timeoutMs := by
  have left : (timeline.record (.checkAndConsume text now)).outstanding =
      unconsumed timeline timeoutMs text now := by
    rw [unconsumed, ← timely.outstanding_reported now]
    simp only [without, outstanding, record, timely.expired_eq, List.filter_filter]
    apply List.filter_congr
    intro registration _
    rw [← Bool.decide_and, ← Bool.decide_and]
    apply decide_eq_decide.mpr
    rw [List.mem_append, List.mem_append]
    tauto
  refine ⟨left, timely.wellFormed.checkAndConsume text now, timely.timeout_check text now,
    timely.sorted, timely.numbered, ?_, ?_, ?_, ?_⟩
  · intro number numberMem
    have before := timely.logged number
    have just := timely.expired_logged now number
    have confirmed : number ∈ (timeline.tracker.checkAndConsume text now).2.1.toList.map
        (fun found => found.info.number) → number < timeline.registrations.length := by
      intro numberMem
      rw [timely.confirmed_eq] at numberMem
      cases chosen : ofText text (timeline.young timeoutMs now) with
      | nil =>
          rw [chosen] at numberMem
          cases numberMem
      | cons first rest =>
          rw [chosen] at numberMem
          simp only [List.head?_cons, Option.map_some, Option.toList_some, List.map_cons,
            List.map_nil, List.mem_singleton] at numberMem
          have firstMem : first ∈ ofText text (timeline.young timeoutMs now) := by
            rw [chosen]
            exact List.mem_cons_self
          rw [numberMem]
          exact timely.numbered first
            (mem_registrations (List.mem_of_mem_filter (List.mem_of_mem_filter firstMem)))
    simp only [record, timely.expired_eq, List.append_assoc, List.mem_append] at numberMem
    simp only [List.mem_append] at before
    simp only [record]
    tauto
  · intro registration registrationMem
    have before := timely.past registration registrationMem
    simp only [record]
    omega
  · rw [left]
    exact timely.queues_check text now
  · simp only [record, timely.expired_eq]
    exact timely.reported_expired clock

/-- The outstanding registrations with a new one, before what does not fit is evicted. -/
def extended (timeline : RepeatTimeline Meta) (timeoutMs : Int) (text : Text) (info : Meta)
    (now : Int) : List (Registration Meta) :=
  timeline.young timeoutMs now ++ [timeline.next text info now]

def evictedBy (timeline : RepeatTimeline Meta) (text : Text) (info : Meta) (now : Int) :
    List (Registration Meta) :=
  (timeline.tracker.register text (timeline.next text info now) now).2.2

theorem extended_sorted (timely : timeline.Timely timeoutMs) {now : Int} (text : Text)
    (info : Meta) (clock : timeline.clock ≤ now) :
    (extended timeline timeoutMs text info now).Pairwise Registration.Before := by
  refine List.pairwise_append.mpr ⟨timely.young_sorted now, List.pairwise_singleton _ _, ?_⟩
  intro registration registrationMem added addedMem
  have known := mem_registrations (List.mem_of_mem_filter registrationMem)
  rw [List.mem_singleton.mp addedMem]
  refine ⟨timely.numbered registration known, ?_⟩
  exact Int.le_trans (timely.past registration known) clock

theorem queues_registered (timely : timeline.Timely timeoutMs) (text : Text) (info : Meta)
    (now : Int) :
    Queues timeoutMs (extended timeline timeoutMs text info now)
      (timeline.tracker.registered text (timeline.next text info now) now).pendingByText := by
  have added := (timely.queues_evictExpired now).append (timeline.next text info now)
  have entry : (⟨timeline.next text info now, now + timeline.tracker.timeoutMs, now⟩ :
      RepeatEntry (Registration Meta)) = (timeline.next text info now).entry timeoutMs := by
    rw [timely.timeout]
    rfl
  simp only [RepeatCheckTracker.registered, entry]
  exact added

theorem oneMore (timely : timeline.Timely timeoutMs) (text : Text) (info : Meta) (now : Int) :
    (timeline.tracker.registered text (timeline.next text info now) now).totalPending ≤
      (timeline.tracker.registered text (timeline.next text info now) now).maxEntries + 1 := by
  have bounded := (timely.wellFormed.evictExpired now).bounded
  simp only [RepeatCheckTracker.registered]
  omega

theorem entries_mem {list : List (Registration Meta)}
    {pendingByText : List (Text × List (RepeatEntry (Registration Meta)))} {text : Text}
    {entry : RepeatEntry (Registration Meta)} {rest : List (RepeatEntry (Registration Meta))}
    (queues : Queues timeoutMs list pendingByText)
    (queue : entriesFor text pendingByText = entry :: rest) :
    entry.info ∈ list ∧ entry.info.text = text := by
  have own := queues text
  rw [queue] at own
  rcases List.map_eq_cons_iff.mp own.symm with ⟨registration, registrations, chosen, rfl, _⟩
  have registrationMem : registration ∈ ofText text list := by
    rw [chosen]
    exact List.mem_cons_self
  exact ⟨List.mem_of_mem_filter registrationMem,
    of_decide_eq_true (List.mem_filter.mp registrationMem).2⟩

/-- What registering does to the queues: where there is no room, the first registration of the
first text of the map leaves them. -/
theorem queues_register (timely : timeline.Timely timeoutMs) {now : Int} (text : Text)
    (info : Meta) (clock : timeline.clock ≤ now) :
    Queues timeoutMs
        (without ((evictedBy timeline text info now).map Registration.number)
          (extended timeline timeoutMs text info now))
        (timeline.tracker.register text (timeline.next text info now) now).1.pendingByText ∧
      ∀ registration ∈ evictedBy timeline text info now,
        registration ∈ extended timeline timeoutMs text info now := by
  have queues := timely.queues_registered text info now
  rcases timely.wellFormed.registered text (timeline.next text info now) now with
    ⟨size, nonempty, distinct⟩
  simp only [evictedBy, register_eq]
  rcases evictOverflow_cases size nonempty distinct (timely.oneMore text info now) with
    ⟨_, same, none⟩ | ⟨_, first, entry, rest, others, split, evicted, _, leaves⟩
  · rw [same, none, List.map_nil, without_nil]
    refine ⟨queues, ?_⟩
    intro registration registrationMem
    cases registrationMem
  · have queue : entriesFor first
        (timeline.tracker.registered text (timeline.next text info now) now).pendingByText =
          entry :: rest := by
      rw [split, entriesFor_cons, if_pos rfl]
    have left := queues.remove (timely.extended_sorted text info clock) queue leaves
    rw [evicted]
    refine ⟨left, ?_⟩
    intro registration registrationMem
    rw [List.mem_singleton.mp registrationMem]
    exact (entries_mem queues queue).1

theorem next_unlogged (timely : timeline.Timely timeoutMs) (text : Text) (info : Meta)
    (now : Int) :
    (timeline.next text info now).number ∉ timeline.consumed ∧
      (timeline.next text info now).number ∉ timeline.reported ++
        (timeline.tracker.evictExpired now).2.map Registration.number ∧
      (timeline.next text info now).number ∉ timeline.evicted := by
  have logged := timely.logged timeline.registrations.length
  have expired := timely.expired_logged now timeline.registrations.length
  have irreflexive := Nat.lt_irrefl timeline.registrations.length
  simp only [List.mem_append] at logged ⊢
  simp only [next]
  tauto

theorem outstanding_register (timely : timeline.Timely timeoutMs) (text : Text) (info : Meta)
    (now : Int) :
    (timeline.record (.register text info now)).outstanding =
      without ((evictedBy timeline text info now).map Registration.number)
        (extended timeline timeoutMs text info now) := by
  have whole : (timeline.record (.register text info now)).outstanding =
      (timeline.registrations ++ [timeline.next text info now]).filter fun registration =>
        registration.number ∉ timeline.consumed ∧
          registration.number ∉ timeline.reported ++
            (timeline.tracker.evictExpired now).2.map Registration.number ∧
          registration.number ∉ timeline.evicted ++
            (evictedBy timeline text info now).map Registration.number := rfl
  rw [whole, extended, without, List.filter_append, List.filter_append]
  congr 1
  · rw [← timely.outstanding_reported now]
    simp only [without, outstanding, List.filter_filter]
    apply List.filter_congr
    intro registration _
    rw [← Bool.decide_and, ← Bool.decide_and]
    apply decide_eq_decide.mpr
    rw [List.mem_append, List.mem_append]
    tauto
  · have unlogged := timely.next_unlogged text info now
    apply List.filter_congr
    intro registration registrationMem
    rw [List.mem_singleton.mp registrationMem]
    apply decide_eq_decide.mpr
    rw [List.mem_append (s := timeline.evicted)]
    tauto

theorem register (timely : timeline.Timely timeoutMs) {now : Int} (text : Text) (info : Meta)
    (clock : timeline.clock ≤ now) :
    (timeline.record (.register text info now)).Timely timeoutMs := by
  rcases timely.queues_register text info clock with ⟨queues, evictedMem⟩
  have length : (timeline.record (.register text info now)).registrations.length =
      timeline.registrations.length + 1 := by
    simp only [record, List.length_append, List.length_singleton]
  refine ⟨timely.wellFormed.register _ _ _, timely.timeout, ?_, ?_, ?_, ?_, ?_, ?_⟩
  · refine List.pairwise_append.mpr ⟨timely.sorted, List.pairwise_singleton _ _, ?_⟩
    intro registration registrationMem added addedMem
    rw [List.mem_singleton.mp addedMem]
    exact ⟨timely.numbered registration registrationMem,
      Int.le_trans (timely.past registration registrationMem) clock⟩
  · intro registration registrationMem
    rw [length]
    rcases List.mem_append.mp registrationMem with known | added
    · have less := timely.numbered registration known
      omega
    · rw [List.mem_singleton.mp added]
      exact Nat.lt_succ_self _
  · intro number numberMem
    have before := timely.logged number
    have just := timely.expired_logged now number
    have evicted : number ∈ (evictedBy timeline text info now).map Registration.number →
        number < timeline.registrations.length + 1 := by
      intro numberMem
      rcases List.mem_map.mp numberMem with ⟨registration, registrationMem, rfl⟩
      rcases List.mem_append.mp (evictedMem registration registrationMem) with known | added
      · have less := timely.numbered registration
          (mem_registrations (List.mem_of_mem_filter known))
        omega
      · rw [List.mem_singleton.mp added]
        exact Nat.lt_succ_self _
    rw [length]
    have logs : number ∈ timeline.consumed ∨
        (number ∈ timeline.reported ∨
          number ∈ (timeline.tracker.evictExpired now).2.map Registration.number) ∨
        number ∈ timeline.evicted ∨
          number ∈ (evictedBy timeline text info now).map Registration.number := by
      rw [← List.mem_append, ← List.mem_append, ← List.mem_append, ← List.mem_append]
      exact numberMem
    simp only [List.mem_append] at before
    rcases logs with consumed | (reported | expired) | evictedBefore | evictedNow
    · have less := before (.inl consumed)
      omega
    · have less := before (.inr (.inl reported))
      omega
    · have less := just expired
      omega
    · have less := before (.inr (.inr evictedBefore))
      omega
    · exact evicted evictedNow
  · intro registration registrationMem
    rcases List.mem_append.mp registrationMem with known | added
    · have before := timely.past registration known
      simp only [record]
      omega
    · rw [List.mem_singleton.mp added]
      exact Int.le_refl now
  · rw [timely.outstanding_register]
    exact queues
  · intro registration registrationMem reported
    rcases List.mem_append.mp registrationMem with known | added
    · exact timely.reported_expired clock registration known reported
    · rw [List.mem_singleton.mp added] at reported
      exact absurd reported (timely.next_unlogged text info now).2.1

end Timely

/-- Every call keeps the account. -/
theorem Timely.step {call : RepeatCall Meta} {after : RepeatTimeline Meta}
    (timely : timeline.Timely timeoutMs) (stepped : timeline.step call = some after) :
    after.Timely timeoutMs := by
  simp only [RepeatTimeline.step, Option.ite_none_right_eq_some, Option.some.injEq] at stepped
  rcases stepped with ⟨clock, rfl⟩
  cases call with
  | register text info now => exact timely.register text info clock
  | checkAndConsume text now => exact (timely.checkAndConsume text clock).2
  | sweepExpired now => exact (timely.sweepExpired clock).2

theorem timely_of_reachableWhen {condition : RepeatTimeline Meta → RepeatCall Meta → Prop}
    (reachable : (repeatTimelineSystem Meta timeoutMs maxEntries).ReachableWhen condition
      timeline) : timeline.Timely timeoutMs := by
  apply EventSystem.ReachableWhen.invariant _ _ reachable
  · rintro timeline ⟨clock, rfl⟩
    exact timely_new timeoutMs maxEntries clock
  · intro before call after timely _ stepped
    exact timely.step stepped

end RepeatTimeline

end MeshcoreObserver
