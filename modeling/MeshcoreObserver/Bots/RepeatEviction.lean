import MeshcoreObserver.Bots.RepeatTimeline

/-!
# Which registration makes room

A tracker without room evicts the first registration of the first text of its
map. The map is ordered by the time since which its texts have been waiting
without a break, and not by the age of their oldest registrations: once a text
loses its oldest one and keeps a younger one, it stays in front of texts that
have waited for longer than what it has left.

As long as no call inverts the order of two texts by their oldest registrations,
both orders agree and the oldest registration of all is evicted.
-/

namespace MeshcoreObserver

universe u

open Transition RepeatCheckTracker

variable {Meta : Type u} {timeoutMs : Int} {maxEntries : Nat} {timeline : RepeatTimeline Meta}

namespace RepeatCheckTracker

variable {list before after : List (Registration Meta)} {keys others : List Text}
  {pendingByText : List (Text × List (RepeatEntry (Registration Meta)))}

def firstOf (text : Text) (list : List (Registration Meta)) : Option (Registration Meta) :=
  list.find? fun registration => registration.text = text

/-- Of two texts that stay, the one with the older oldest registration keeps it. -/
def KeepsOrder (before after : List (Registration Meta)) : Prop :=
  ∀ first ∈ before, firstOf first.text before = some first →
    ∀ second ∈ before, firstOf second.text before = some second →
      first.number < second.number →
        ∀ firstLeft ∈ firstOf first.text after, ∀ secondLeft ∈ firstOf second.text after,
          firstLeft.number < secondLeft.number

instance [DecidableEq Meta] (before after : List (Registration Meta)) :
    Decidable (KeepsOrder before after) :=
  inferInstanceAs (Decidable (∀ first ∈ before, firstOf first.text before = some first →
    ∀ second ∈ before, firstOf second.text before = some second →
      first.number < second.number →
        ∀ firstLeft ∈ firstOf first.text after, ∀ secondLeft ∈ firstOf second.text after,
          firstLeft.number < secondLeft.number))

/-- Texts in the order of their oldest registrations. -/
def Aligned (list : List (Registration Meta)) (keys : List Text) : Prop :=
  keys.Pairwise fun first second => ∀ older ∈ firstOf first list,
    ∀ younger ∈ firstOf second list, older.number < younger.number

theorem firstOf_mem {text : Text} {registration : Registration Meta}
    (first : firstOf text list = some registration) :
    registration ∈ list ∧ registration.text = text := by
  rw [firstOf] at first
  have found := List.find?_some first
  exact ⟨List.mem_of_find?_eq_some first, of_decide_eq_true found⟩

theorem Aligned.keepsOrder (aligned : Aligned before keys)
    (present : ∀ key ∈ keys, (firstOf key before).isSome) (keeps : KeepsOrder before after)
    (kept : others.Sublist keys) : Aligned after others := by
  apply (aligned.imp_of_mem _).sublist kept
  intro first second firstMem secondMem order older olderMem younger youngerMem
  rcases Option.isSome_iff_exists.mp (present first firstMem) with ⟨oldFirst, firstIs⟩
  rcases Option.isSome_iff_exists.mp (present second secondMem) with ⟨oldSecond, secondIs⟩
  have less := order oldFirst firstIs oldSecond secondIs
  rcases firstOf_mem firstIs with ⟨oldFirstMem, rfl⟩
  rcases firstOf_mem secondIs with ⟨oldSecondMem, rfl⟩
  exact keeps oldFirst oldFirstMem firstIs oldSecond oldSecondMem secondIs less older olderMem
    younger youngerMem

theorem keys_append (text : Text) (entry : RepeatEntry (Registration Meta)) :
    (append text entry pendingByText).map Prod.fst =
      if text ∈ pendingByText.map Prod.fst then pendingByText.map Prod.fst
      else pendingByText.map Prod.fst ++ [text] := by
  induction pendingByText with
  | nil => rfl
  | cons pending others ih =>
      simp only [append, List.map_cons, List.mem_cons]
      by_cases same : pending.1 = text
      · rw [if_pos same, if_pos (.inl same.symm), List.map_cons, same]
      · rw [if_neg same, List.map_cons, ih]
        by_cases known : text ∈ others.map Prod.fst
        · rw [if_pos known, if_pos (.inr known)]
        · rw [if_neg known, if_neg]
          · rfl
          · rintro (found | found)
            · exact same found.symm
            · exact known found

theorem firstOf_concat {text : Text} {added : Registration Meta}
    (present : (firstOf text list).isSome) :
    firstOf text (list ++ [added]) = firstOf text list := by
  rcases Option.isSome_iff_exists.mp present with ⟨registration, first⟩
  simp only [firstOf] at first ⊢
  rw [List.find?_append, first]
  rfl

theorem firstOf_concat_cases {text : Text} {added registration : Registration Meta}
    (first : firstOf text (list ++ [added]) = some registration) :
    firstOf text list = some registration ∨ firstOf text list = none ∧ registration = added := by
  simp only [firstOf, List.find?_append] at first ⊢
  cases known : list.find? fun registration => decide (registration.text = text) with
  | none =>
      rw [known, Option.none_or] at first
      right
      exact ⟨rfl, List.mem_singleton.mp (List.mem_of_find?_eq_some first)⟩
  | some old =>
      rw [known, Option.some_or] at first
      exact .inl first

/-- A new registration is the youngest one, whether or not its text is new. -/
theorem Aligned.append (aligned : Aligned list (pendingByText.map Prod.fst))
    (present : ∀ key, key ∈ pendingByText.map Prod.fst ↔ (firstOf key list).isSome)
    {added : Registration Meta} (youngest : ∀ other ∈ list, other.number < added.number)
    (entry : RepeatEntry (Registration Meta)) :
    Aligned (list ++ [added])
      ((RepeatCheckTracker.append added.text entry pendingByText).map Prod.fst) := by
  have known : Aligned (list ++ [added]) (pendingByText.map Prod.fst) := by
    apply aligned.imp_of_mem
    intro first second firstMem secondMem order
    rw [firstOf_concat ((present first).mp firstMem),
      firstOf_concat ((present second).mp secondMem)]
    exact order
  rw [keys_append]
  split
  · exact known
  · refine List.pairwise_append.mpr ⟨known, List.pairwise_singleton _ _, ?_⟩
    intro first firstMem second secondMem older olderMem younger youngerMem
    rename_i fresh
    rw [List.mem_singleton.mp secondMem] at youngerMem
    rw [firstOf_concat ((present first).mp firstMem)] at olderMem
    have olderNumber := youngest older (firstOf_mem olderMem).1
    rcases firstOf_concat_cases youngerMem with old | ⟨_, rfl⟩
    · exact absurd ((present added.text).mpr (Option.isSome_iff_exists.mpr ⟨younger, old⟩)) fresh
    · exact olderNumber

theorem entriesFor_of_mem {pending : Text × List (RepeatEntry (Registration Meta))}
    (distinct : (pendingByText.map Prod.fst).Nodup) (pendingMem : pending ∈ pendingByText) :
    entriesFor pending.1 pendingByText = pending.2 := by
  induction pendingByText with
  | nil => cases pendingMem
  | cons first others ih =>
      rw [List.map_cons, List.nodup_cons] at distinct
      rw [entriesFor_cons]
      rcases List.mem_cons.mp pendingMem with rfl | later
      · exact if_pos rfl
      · rw [if_neg, ih distinct.2 later]
        intro same
        apply distinct.1
        rw [same]
        exact List.mem_map_of_mem later

theorem Queues.firstOf_isSome (queues : Queues timeoutMs list pendingByText)
    (nonempty : ∀ pending ∈ pendingByText, pending.2 ≠ [])
    (distinct : (pendingByText.map Prod.fst).Nodup) (key : Text) :
    key ∈ pendingByText.map Prod.fst ↔ (firstOf key list).isSome := by
  have queue := queues key
  have first : firstOf key list = (ofText key list).head? := List.head?_filter.symm
  rw [first, List.isSome_head?, Ne, ← List.map_eq_nil_iff (f := Registration.entry timeoutMs),
    ← queue]
  constructor
  · intro keyMem
    rcases List.mem_map.mp keyMem with ⟨pending, pendingMem, rfl⟩
    rw [entriesFor_of_mem distinct pendingMem]
    exact nonempty pending pendingMem
  · exact mem_of_entriesFor_ne_nil

end RepeatCheckTracker

namespace RepeatTimeline

/-- The outstanding registrations once a call has reported and consumed what it does. -/
def leaves (timeline : RepeatTimeline Meta) (timeoutMs : Int) :
    RepeatCall Meta → List (Registration Meta)
  | .register _ _ now => timeline.young timeoutMs now
  | .checkAndConsume text now =>
      without ((firstOf text (timeline.young timeoutMs now)).toList.map Registration.number)
        (timeline.young timeoutMs now)
  | .sweepExpired now => timeline.young timeoutMs now

/-- The same, with what the call registers. -/
def grown (timeline : RepeatTimeline Meta) (timeoutMs : Int) :
    RepeatCall Meta → List (Registration Meta)
  | .register text info now => Timely.extended timeline timeoutMs text info now
  | call => timeline.leaves timeoutMs call

/-- The same, without the oldest ones there is no room for. -/
def trimmed (timeline : RepeatTimeline Meta) (timeoutMs : Int) (call : RepeatCall Meta) :
    List (Registration Meta) :=
  (timeline.grown timeoutMs call).drop
    ((timeline.grown timeoutMs call).length - timeline.tracker.maxEntries)

/-- A call that inverts no two texts: when the oldest registration of a text is reported,
consumed or evicted and the text keeps a younger one, no text that had been waiting for less time
keeps an older one. -/
def Orderly (timeoutMs : Int) (timeline : RepeatTimeline Meta) (call : RepeatCall Meta) : Prop :=
  KeepsOrder timeline.outstanding (timeline.leaves timeoutMs call) ∧
    KeepsOrder (timeline.grown timeoutMs call) (timeline.trimmed timeoutMs call)

instance [DecidableEq Meta] (timeline : RepeatTimeline Meta) (call : RepeatCall Meta) :
    Decidable (Orderly timeoutMs timeline call) :=
  inferInstanceAs (Decidable (_ ∧ _))

/-- What registering evicts is older than everything else that waits, and not the new
registration. -/
structure EvictsOldest (timeline : RepeatTimeline Meta) (timeoutMs : Int) (text : Text)
    (info : Meta) (now : Int) : Prop where
  oldest : ∀ evicted ∈ Timely.evictedBy timeline text info now,
    ∀ other ∈ Timely.extended timeline timeoutMs text info now, evicted.number ≤ other.number
  older : timeline.next text info now ∉ Timely.evictedBy timeline text info now

/-- The map is in the order of the oldest registrations. -/
def AlignedMap (timeline : RepeatTimeline Meta) : Prop :=
  Aligned timeline.outstanding (timeline.tracker.pendingByText.map Prod.fst)

namespace Timely

theorem length_registered (timely : timeline.Timely timeoutMs) (text : Text) (info : Meta)
    (now : Int) :
    (timeline.tracker.registered text (timeline.next text info now) now).totalPending =
      (extended timeline timeoutMs text info now).length := by
  rcases timely.wellFormed.registered text (timeline.next text info now) now with
    ⟨size, _, distinct⟩
  have same := ((timely.queues_registered text info now).entries_perm distinct).length_eq
  rw [List.length_map] at same
  rw [size, entries, same]

theorem aligned_registered (timely : timeline.Timely timeoutMs) {now : Int} (text : Text)
    (info : Meta) (clock : timeline.clock ≤ now)
    (aligned : Aligned (timeline.young timeoutMs now)
      ((timeline.tracker.evictExpired now).1.pendingByText.map Prod.fst)) :
    Aligned (extended timeline timeoutMs text info now)
      ((timeline.tracker.registered text
        (timeline.next text info now) now).pendingByText.map Prod.fst) := by
  have kept := timely.wellFormed.evictExpired now
  have present := (timely.queues_evictExpired now).firstOf_isSome kept.nonempty kept.distinct
  apply aligned.append present
  intro other otherMem
  have sorted := timely.extended_sorted text info clock
  exact ((List.pairwise_append.mp sorted).2.2 other otherMem _ (List.mem_singleton_self _)).1

/-- In a map in order, the registration that is evicted is the first of all. -/
theorem evictedBy_eq (timely : timeline.Timely timeoutMs) {now : Int} (text : Text) (info : Meta)
    (clock : timeline.clock ≤ now)
    (aligned : Aligned (extended timeline timeoutMs text info now)
      ((timeline.tracker.registered text
        (timeline.next text info now) now).pendingByText.map Prod.fst)) :
    evictedBy timeline text info now =
        (extended timeline timeoutMs text info now).take
          ((extended timeline timeoutMs text info now).length - timeline.tracker.maxEntries) ∧
      (extended timeline timeoutMs text info now).length ≤ timeline.tracker.maxEntries + 1 := by
  have queues := timely.queues_registered text info now
  have sorted := timely.extended_sorted text info clock
  have length := timely.length_registered text info now
  have more := timely.oneMore text info now
  have bound : (timeline.tracker.registered text (timeline.next text info now) now).maxEntries =
      timeline.tracker.maxEntries := rfl
  rcases timely.wellFormed.registered text (timeline.next text info now) now with
    ⟨size, nonempty, distinct⟩
  have present := queues.firstOf_isSome nonempty distinct
  refine ⟨?_, by omega⟩
  simp only [evictedBy, register_eq]
  rcases evictOverflow_cases size nonempty distinct more with
    ⟨fits, _, none⟩ | ⟨full, key, entry, rest, others, split, evicted, _, _⟩
  · have room : (extended timeline timeoutMs text info now).length -
        timeline.tracker.maxEntries = 0 := by omega
    rw [none, room, List.take_zero]
  · have one : (extended timeline timeoutMs text info now).length -
        timeline.tracker.maxEntries = 1 := by omega
    rw [evicted, one]
    have queue := queues key
    rw [split, entriesFor_cons, if_pos rfl] at queue
    rcases List.map_eq_cons_iff.mp queue.symm with ⟨chosen, later, own, rfl, _⟩
    have chosenFirst : firstOf key (extended timeline timeoutMs text info now) = some chosen := by
      rw [firstOf, ← List.head?_filter, ← ofText, own]
      rfl
    have chosenMem := firstOf_mem chosenFirst
    generalize extended timeline timeoutMs text info now = list at *
    cases list with
    | nil => cases chosenMem.1
    | cons oldest list =>
        have oldestFirst : firstOf oldest.text (oldest :: list) = some oldest :=
          List.find?_cons_of_pos (decide_eq_true rfl)
        rw [List.pairwise_cons] at sorted
        have known := (present oldest.text).mpr (Option.isSome_iff_exists.mpr ⟨_, oldestFirst⟩)
        rw [split, List.map_cons] at aligned known
        rw [Aligned, List.pairwise_cons] at aligned
        rcases List.mem_cons.mp known with same | behind
        · rw [same] at oldestFirst
          rw [chosenFirst] at oldestFirst
          cases oldestFirst
          rfl
        · have less := aligned.1 oldest.text behind chosen chosenFirst oldest oldestFirst
          rcases List.mem_cons.mp chosenMem.1 with rfl | after
          · rfl
          · have older := (sorted.1 chosen after).1
            omega

/-- Evicting leaves the rest of the list. -/
theorem without_evictedBy (timely : timeline.Timely timeoutMs) {now : Int} (text : Text)
    (info : Meta) (clock : timeline.clock ≤ now)
    (aligned : Aligned (extended timeline timeoutMs text info now)
      ((timeline.tracker.registered text
        (timeline.next text info now) now).pendingByText.map Prod.fst)) :
    without ((evictedBy timeline text info now).map Registration.number)
        (extended timeline timeoutMs text info now) =
      timeline.trimmed timeoutMs (.register text info now) := by
  rcases timely.evictedBy_eq text info clock aligned with ⟨evicted, _⟩
  have sorted := timely.extended_sorted text info clock
  rw [evicted]
  simp only [trimmed, grown]
  generalize extended timeline timeoutMs text info now = list at *
  generalize list.length - timeline.tracker.maxEntries = count
  rw [← List.take_append_drop count list] at sorted
  rw [List.pairwise_append] at sorted
  have split : without ((list.take count).map Registration.number) list =
      without ((list.take count).map Registration.number) (list.take count ++ list.drop count) := by
    rw [List.take_append_drop]
  rw [split, without, List.filter_append]
  have gone : (list.take count).filter (fun registration =>
      registration.number ∉ (list.take count).map Registration.number) = [] := by
    rw [List.filter_eq_nil_iff]
    intro registration registrationMem
    rw [decide_eq_true_eq, not_not]
    exact List.mem_map_of_mem registrationMem
  rw [gone, List.nil_append, List.filter_eq_self]
  intro registration registrationMem
  apply decide_eq_true
  intro numberMem
  rcases List.mem_map.mp numberMem with ⟨other, otherMem, same⟩
  have less := (sorted.2.2 other otherMem registration registrationMem).1
  omega

theorem keys_evictExpired (tracker : RepeatCheckTracker (Registration Meta)) (now : Int) :
    ((tracker.evictExpired now).1.pendingByText.map Prod.fst).Sublist
      (tracker.pendingByText.map Prod.fst) := by
  have keys : (tracker.pendingByText.map fun pending => (pending.1, pending.2.dropWhile
      fun entry => entry.expiresAt ≤ now)).map Prod.fst = tracker.pendingByText.map Prod.fst := by
    rw [List.map_map]
    rfl
  rw [← keys]
  exact List.filter_sublist.map Prod.fst

theorem keys_checkAndConsume (timely : timeline.Timely timeoutMs) (text : Text) (now : Int) :
    ((timeline.tracker.checkAndConsume text now).1.pendingByText.map Prod.fst).Sublist
      (timeline.tracker.pendingByText.map Prod.fst) := by
  apply List.Sublist.trans _ (keys_evictExpired timeline.tracker now)
  rw [checkAndConsume_eq timely.wellFormed]
  cases timeline.tracker.waiting text now with
  | nil => exact List.Sublist.refl _
  | cons first rest =>
      simp only [leaving]
      split
      · exact List.filter_sublist.map Prod.fst
      · rw [keys_replaced]

/-- What a check leaves is what the history says. -/
theorem unconsumed_eq (timely : timeline.Timely timeoutMs) (text : Text) (now : Int) :
    unconsumed timeline timeoutMs text now =
      timeline.leaves timeoutMs (.checkAndConsume text now) := by
  have first : firstOf text (timeline.young timeoutMs now) =
      (ofText text (timeline.young timeoutMs now)).head? := List.head?_filter.symm
  rw [unconsumed, timely.confirmed_eq, leaves, first]
  cases (ofText text (timeline.young timeoutMs now)).head? with
  | none => rfl
  | some registration => rfl

theorem aligned_young (timely : timeline.Timely timeoutMs) (aligned : timeline.AlignedMap)
    {now : Int} (keeps : KeepsOrder timeline.outstanding (timeline.young timeoutMs now)) :
    Aligned (timeline.young timeoutMs now)
      ((timeline.tracker.evictExpired now).1.pendingByText.map Prod.fst) := by
  have present := timely.queues.firstOf_isSome timely.wellFormed.nonempty
    timely.wellFormed.distinct
  exact aligned.keepsOrder (fun key keyMem => (present key).mp keyMem) keeps
    (keys_evictExpired timeline.tracker now)

theorem alignedMap_step (timely : timeline.Timely timeoutMs) (aligned : timeline.AlignedMap)
    {call : RepeatCall Meta} {after : RepeatTimeline Meta}
    (orderly : Orderly timeoutMs timeline call) (stepped : timeline.step call = some after) :
    after.AlignedMap := by
  have present := timely.queues.firstOf_isSome timely.wellFormed.nonempty
    timely.wellFormed.distinct
  simp only [RepeatTimeline.step, Option.ite_none_right_eq_some, Option.some.injEq] at stepped
  rcases stepped with ⟨clock, rfl⟩
  rcases orderly with ⟨keeps, trims⟩
  cases call with
  | register text info now =>
      simp only [RepeatCall.now] at clock
      have young := timely.aligned_young aligned keeps
      have registered := timely.aligned_registered text info clock young
      rcases timely.wellFormed.registered text (timeline.next text info now) now with
        ⟨_, nonempty, distinct⟩
      have known := (timely.queues_registered text info now).firstOf_isSome nonempty distinct
      rw [AlignedMap, timely.outstanding_register,
        timely.without_evictedBy text info clock registered]
      exact registered.keepsOrder (fun key keyMem => (known key).mp keyMem) trims
        (evictOldest_sublist _ _)
  | checkAndConsume text now =>
      simp only [RepeatCall.now] at clock
      rw [AlignedMap, (timely.checkAndConsume text clock).1, timely.unconsumed_eq]
      exact Aligned.keepsOrder aligned (fun key keyMem => (present key).mp keyMem) keeps
        (timely.keys_checkAndConsume text now)
  | sweepExpired now =>
      simp only [RepeatCall.now] at clock
      rw [AlignedMap, (timely.sweepExpired clock).1]
      exact Aligned.keepsOrder aligned (fun key keyMem => (present key).mp keyMem) keeps
        (keys_evictExpired timeline.tracker now)

theorem maxEntries_step (timely : timeline.Timely timeoutMs) {call : RepeatCall Meta}
    {after : RepeatTimeline Meta} (stepped : timeline.step call = some after) :
    after.tracker.maxEntries = timeline.tracker.maxEntries := by
  simp only [RepeatTimeline.step, Option.ite_none_right_eq_some, Option.some.injEq] at stepped
  rcases stepped with ⟨_, rfl⟩
  cases call with
  | register text info now => rfl
  | checkAndConsume text now =>
      simp only [record, checkAndConsume_eq timely.wellFormed]
      cases timeline.tracker.waiting text now with
      | nil => rfl
      | cons first rest => rfl
  | sweepExpired now => rfl

end Timely

/-- What holds along every run of orderly calls. -/
structure InOrder (timeoutMs : Int) (maxEntries : Nat) (timeline : RepeatTimeline Meta) :
    Prop where
  timely : timeline.Timely timeoutMs
  aligned : timeline.AlignedMap
  capacity : timeline.tracker.maxEntries = maxEntries

theorem inOrder_of_reachableWhen (reachable :
    (repeatTimelineSystem Meta timeoutMs maxEntries).ReachableWhen (Orderly timeoutMs)
      timeline) : timeline.InOrder timeoutMs maxEntries := by
  apply EventSystem.ReachableWhen.invariant _ _ reachable
  · rintro timeline ⟨clock, rfl⟩
    exact ⟨timely_new timeoutMs maxEntries clock, List.Pairwise.nil, rfl⟩
  · rintro before call after ⟨timely, aligned, capacity⟩ orderly stepped
    exact ⟨timely.step stepped, timely.alignedMap_step aligned orderly stepped,
      (timely.maxEntries_step stepped).trans capacity⟩

theorem InOrder.evictsOldest (inOrder : timeline.InOrder timeoutMs maxEntries)
    (positive : 1 ≤ maxEntries) {text : Text} {info : Meta} {now : Int}
    (clock : timeline.clock ≤ now)
    (orderly : Orderly timeoutMs timeline (.register text info now)) :
    timeline.EvictsOldest timeoutMs text info now := by
  rcases inOrder with ⟨timely, aligned, capacity⟩
  have registered := timely.aligned_registered text info clock
    (timely.aligned_young aligned orderly.1)
  rcases timely.evictedBy_eq text info clock registered with ⟨evicted, atMost⟩
  have sorted := timely.extended_sorted text info clock
  have length : (Timely.extended timeline timeoutMs text info now).length =
      (timeline.young timeoutMs now).length + 1 := by
    rw [Timely.extended, List.length_append, List.length_singleton]
  rw [capacity] at evicted atMost
  by_cases full : (timeline.young timeoutMs now).length = maxEntries
  · have one : (Timely.extended timeline timeoutMs text info now).length - maxEntries = 1 := by
      omega
    rcases List.exists_cons_of_length_pos (by omega : 0 < (timeline.young timeoutMs now).length)
      with ⟨oldest, others, young⟩
    rw [one, Timely.extended, young, List.cons_append, List.take_succ_cons, List.take_zero]
      at evicted
    rw [Timely.extended, young, List.cons_append, List.pairwise_cons] at sorted
    constructor
    · intro registration registrationMem other otherMem
      rw [evicted, List.mem_singleton] at registrationMem
      rw [Timely.extended, young, List.cons_append] at otherMem
      rw [registrationMem]
      rcases List.mem_cons.mp otherMem with rfl | later
      · exact Nat.le_refl _
      · exact Nat.le_of_lt (sorted.1 other later).1
    · rw [evicted, List.mem_singleton]
      intro same
      have less := (sorted.1 (timeline.next text info now) (by simp)).1
      rw [← same] at less
      exact Nat.lt_irrefl _ less
  · have none : (Timely.extended timeline timeoutMs text info now).length - maxEntries = 0 := by
      omega
    rw [none, List.take_zero] at evicted
    constructor
    · intro registration registrationMem
      rw [evicted] at registrationMem
      cases registrationMem
    · rw [evicted]
      exact List.not_mem_nil

/-- Along a run of orderly calls the oldest registration makes room. -/
theorem evictsOldest_of_orderly (positive : 1 ≤ maxEntries)
    (reachable : (repeatTimelineSystem Meta timeoutMs maxEntries).ReachableWhen
      (Orderly timeoutMs) timeline) {text : Text} {info : Meta} {now : Int}
    (clock : timeline.clock ≤ now)
    (orderly : Orderly timeoutMs timeline (.register text info now)) :
    timeline.EvictsOldest timeoutMs text info now :=
  (inOrder_of_reachableWhen reachable).evictsOldest positive clock orderly

/-- Two texts, one of which comes back while the other one waits. -/
def returningText : List (RepeatCall Nat) :=
  [.register ['A'] 1 1, .register ['B'] 2 2, .register ['A'] 3 3]

def afterReturn : RepeatTimeline Nat :=
  { tracker :=
      { timeoutMs := 1000
        maxEntries := 2
        pendingByText :=
          [(['A'], [⟨⟨2, ['A'], 3, 3⟩, 1003, 3⟩]), (['B'], [⟨⟨1, ['B'], 2, 2⟩, 1002, 2⟩])]
        totalPending := 2 }
    clock := 3
    registrations := [⟨0, ['A'], 1, 1⟩, ⟨1, ['B'], 2, 2⟩, ⟨2, ['A'], 3, 3⟩]
    openings := [(['B'], 1), (['A'], 0)]
    consumed := []
    reported := []
    evicted := [0] }

theorem returningText_runs : (repeatTimelineSystem Nat 1000 2).run EventSystem.anyStep
    (.new 1000 2 0) returningText = some afterReturn := by
  simp [returningText, EventSystem.run, EventSystem.anyStep, repeatTimelineSystem,
    RepeatTimeline.step, record, RepeatCheckTracker.register, evictExpired,
    RepeatCheckTracker.expired, RepeatCheckTracker.append, evictOverflow, evictOldest, new,
    RepeatCheckTracker.new, next, RepeatCall.now, waits, young, outstanding, Registration.Young,
    afterReturn]

theorem evictedBy_afterReturn :
    Timely.evictedBy afterReturn ['C'] 4 4 = [⟨2, ['A'], 3, 3⟩] := by
  simp [Timely.evictedBy, RepeatCheckTracker.register, evictExpired, RepeatCheckTracker.expired,
    RepeatCheckTracker.append, evictOverflow, evictOldest, next, afterReturn]

/-- The text that came back is in front of the one that has waited for longer. -/
theorem younger_evicted :
    ¬∀ (timeoutMs : Int) (maxEntries : Nat), 1 ≤ maxEntries →
      ∀ timeline, (repeatTimelineSystem Nat timeoutMs maxEntries).Reachable timeline →
        ∀ (text : Text) (info : Nat) (now : Int), timeline.clock ≤ now →
          timeline.EvictsOldest timeoutMs text info now := by
  intro oldest
  have reachable : (repeatTimelineSystem Nat 1000 2).Reachable afterReturn :=
    ⟨_, ⟨0, rfl⟩, EventSystem.leads_of_run returningText_runs⟩
  have evicts := (oldest 1000 2 (by decide) _ reachable ['C'] 4 4 (by decide)).oldest
  rw [evictedBy_afterReturn] at evicts
  have older := evicts ⟨2, ['A'], 3, 3⟩ (by decide) ⟨1, ['B'], 2, 2⟩ (by decide)
  revert older
  decide

end RepeatTimeline

end MeshcoreObserver
