import MeshcoreObserver.Basic
import Mathlib.Data.List.Dedup
import Mathlib.Data.List.Induction
import Mathlib.Data.List.Perm.Subperm
import Mathlib.Data.List.TakeWhile
import Mathlib.Data.Int.Order.Basic

/-!
# The packet deduplicator

`PacketDeduplicator` remembers identifiers in the order in which they were last
seen, for a limited time and up to a limited number. Its map is the list of its
entries in insertion order.

An identifier is remembered as long as its entry is young and fewer identifiers
than the map holds are behind it. Where the calls for every identifier are
spaced like that, a call is a duplicate exactly when it is not the first.
-/

namespace MeshcoreObserver

universe u

structure PacketDeduplicator (Id : Type u) where
  maxEntries : Nat
  ttlMs : Int
  seenAt : List (Id × Int)
  deriving DecidableEq, Repr

namespace PacketDeduplicator

variable {Id : Type u}

def new (maxEntries : Nat) (ttlMs : Int) : PacketDeduplicator Id :=
  { maxEntries, ttlMs, seenAt := [] }

/-- `#evictExpired(now)`: the entries in front of the first one that has not expired go. -/
def evictExpired (deduplicator : PacketDeduplicator Id) (now : Int) : PacketDeduplicator Id :=
  { deduplicator with
    seenAt := deduplicator.seenAt.dropWhile fun entry => deduplicator.ttlMs ≤ now - entry.2 }

def evictOverflow (deduplicator : PacketDeduplicator Id) : PacketDeduplicator Id :=
  { deduplicator with
    seenAt := deduplicator.seenAt.drop (deduplicator.seenAt.length - deduplicator.maxEntries) }

def reinsert [DecidableEq Id] (deduplicator : PacketDeduplicator Id) (id : Id) (now : Int) :
    PacketDeduplicator Id :=
  { deduplicator with
    seenAt := (deduplicator.seenAt.filter fun entry => entry.1 ≠ id) ++ [(id, now)] }

def isDuplicate [DecidableEq Id] (deduplicator : PacketDeduplicator Id) (id : Id) (now : Int) :
    PacketDeduplicator Id × Bool :=
  let kept := deduplicator.evictExpired now
  let previous := kept.seenAt.find? fun entry => entry.1 = id
  ((kept.reinsert id now).evictOverflow,
    previous.any fun entry => now - entry.2 < deduplicator.ttlMs)

theorem seenAt_evictExpired {deduplicator : PacketDeduplicator Id} {id : Id} {time now : Int}
    {older newer : List (Id × Int)}
    (seenAt : deduplicator.seenAt = older ++ (id, time) :: newer)
    (recent : now - time < deduplicator.ttlMs) :
    (deduplicator.evictExpired now).seenAt =
      older.dropWhile (fun entry => decide (deduplicator.ttlMs ≤ now - entry.2)) ++
        (id, time) :: newer := by
  have young : ¬deduplicator.ttlMs ≤ now - time := by omega
  rw [evictExpired, seenAt, List.dropWhile_append,
    List.dropWhile_cons_of_neg (by simpa using young)]
  split
  · rename_i gone
    rw [List.isEmpty_iff.mp gone, List.nil_append]
  · rfl

theorem isDuplicate_expired [DecidableEq Id] {deduplicator : PacketDeduplicator Id} {now : Int}
    (expired : ∀ entry ∈ deduplicator.seenAt, entry.2 + deduplicator.ttlMs ≤ now) (id : Id) :
    (deduplicator.isDuplicate id now).2 = false := by
  have none : deduplicator.seenAt.dropWhile
      (fun entry => decide (deduplicator.ttlMs ≤ now - entry.2)) = [] := by
    rw [List.dropWhile_eq_nil_iff]
    intro entry entryMem
    have gone := expired entry entryMem
    exact decide_eq_true (by omega)
  simp only [isDuplicate, evictExpired, none, List.find?_nil, Option.any_none]

theorem exists_expired (deduplicator : PacketDeduplicator Id) :
    ∃ now, ∀ entry ∈ deduplicator.seenAt, entry.2 + deduplicator.ttlMs ≤ now := by
  rcases deduplicator with ⟨maxEntries, ttlMs, seenAt⟩
  simp only
  induction seenAt with
  | nil => exact ⟨0, by simp⟩
  | cons entry entries ih =>
      rcases ih with ⟨now, expired⟩
      refine ⟨max now (entry.2 + ttlMs), ?_⟩
      rw [List.forall_mem_cons]
      refine ⟨le_max_right _ _, ?_⟩
      intro other otherMem
      exact le_trans (expired other otherMem) (le_max_left _ _)

section Calls

variable [DecidableEq Id] {deduplicator : PacketDeduplicator Id} {id other : Id} {time now : Int}
  {others : List Id} {calls : List (Id × Int)}

theorem isDuplicate_unseen (unseen : id ∉ deduplicator.seenAt.map Prod.fst) :
    (deduplicator.isDuplicate id now).2 = false := by
  have none : (deduplicator.evictExpired now).seenAt.find? (fun entry => entry.1 = id) = none := by
    rw [List.find?_eq_none]
    intro entry entryMem same
    apply unseen
    rw [← of_decide_eq_true same]
    exact List.mem_map_of_mem ((List.dropWhile_sublist _).subset entryMem)
  simp only [isDuplicate, none, Option.any_none]

theorem mem_isDuplicate {entry : Id × Int}
    (entryMem : entry ∈ (deduplicator.isDuplicate id now).1.seenAt) :
    entry.1 = id ∨ entry ∈ deduplicator.seenAt := by
  have kept := List.mem_of_mem_drop entryMem
  simp only [reinsert, evictExpired, List.mem_append, List.mem_filter,
    List.mem_singleton] at kept
  rcases kept with ⟨old, _⟩ | rfl
  · exact .inr ((List.dropWhile_sublist _).subset old)
  · exact .inl rfl

/-- The identifier was last seen at a time, and only identifiers of a list have been since. -/
structure Remembers (deduplicator : PacketDeduplicator Id) (id : Id) (time : Int)
    (others : List Id) : Prop where
  entry : ∃ older newer, deduplicator.seenAt = older ++ (id, time) :: newer ∧
    id ∉ older.map Prod.fst ∧ (newer.map Prod.fst).Nodup ∧ newer.map Prod.fst ⊆ others

theorem isDuplicate_of_remembers (remembers : deduplicator.Remembers id time others)
    (recent : now - time < deduplicator.ttlMs) :
    (deduplicator.isDuplicate id now).2 = true := by
  rcases remembers.entry with ⟨older, newer, seenAt, absent, _⟩
  have found : (deduplicator.evictExpired now).seenAt.find? (fun entry => entry.1 = id) =
      some (id, time) := by
    rw [seenAt_evictExpired seenAt recent, List.find?_append, List.find?_eq_none.mpr,
      Option.none_or, List.find?_cons_of_pos (by simp)]
    intro entry entryMem same
    apply absent
    rw [← of_decide_eq_true same]
    exact List.mem_map_of_mem ((List.dropWhile_sublist _).subset entryMem)
  simp only [isDuplicate, found, Option.any_some, recent, decide_true]

/-- A call for another identifier keeps an entry that is young and has few behind it. -/
theorem Remembers.isDuplicate (remembers : deduplicator.Remembers id time others)
    (recent : now - time < deduplicator.ttlMs)
    (few : others.dedup.length < deduplicator.maxEntries) (otherMem : other ∈ others)
    (apart : other ≠ id) : (deduplicator.isDuplicate other now).1.Remembers id time others := by
  rcases remembers.entry with ⟨older, newer, seenAt, absent, distinct, known⟩
  let behind := (newer.filter fun entry => decide (entry.1 ≠ other)) ++ [(other, now)]
  have behindKnown : behind.map Prod.fst ⊆ others := by
    intro behindId behindMem
    simp only [behind, List.map_append, List.map_cons, List.map_nil, List.mem_append,
      List.mem_singleton] at behindMem
    rcases behindMem with old | rfl
    · exact known ((List.filter_sublist.map Prod.fst).subset old)
    · exact otherMem
  have behindDistinct : (behind.map Prod.fst).Nodup := by
    apply nodup_map_concat Prod.fst (distinct.sublist (List.filter_sublist.map Prod.fst))
    intro entry entryMem
    exact of_decide_eq_true (List.mem_filter.mp entryMem).2
  have short : behind.length < deduplicator.maxEntries := by
    have within := (behindDistinct.subperm fun behindId behindMem =>
      List.mem_dedup.mpr (behindKnown behindMem)).length_le
    rw [List.length_map] at within
    omega
  let front := (older.dropWhile fun entry => decide (deduplicator.ttlMs ≤ now - entry.2)).filter
    fun entry => decide (entry.1 ≠ other)
  have reinserted : ((deduplicator.evictExpired now).reinsert other now).seenAt =
      front ++ (id, time) :: behind := by
    rw [reinsert, seenAt_evictExpired seenAt recent, List.filter_append,
      List.filter_cons_of_pos (by simpa using apart.symm), List.append_assoc, List.cons_append]
  have result : (deduplicator.isDuplicate other now).1.seenAt =
      (front.drop (front.length + 1 + behind.length - deduplicator.maxEntries)) ++
        (id, time) :: behind := by
    have bound : (deduplicator.evictExpired now).maxEntries = deduplicator.maxEntries := rfl
    simp only [PacketDeduplicator.isDuplicate, evictOverflow, reinserted, List.length_append,
      List.length_cons]
    rw [List.drop_append_of_le_length]
    · simp only [reinsert, bound]
      congr 2
      omega
    · simp only [reinsert, bound]
      omega
  refine ⟨_, _, result, ?_, behindDistinct, behindKnown⟩
  intro idMem
  apply absent
  have kept : List.Sublist (front.drop (front.length + 1 + behind.length -
      deduplicator.maxEntries)) older :=
    (List.drop_sublist _ _).trans (List.filter_sublist.trans (List.dropWhile_sublist _))
  exact (kept.map Prod.fst).subset idMem

/-- A call leaves its own identifier behind as the last one. -/
theorem remembers_isDuplicate (room : 0 < deduplicator.maxEntries) :
    (deduplicator.isDuplicate id now).1.Remembers id now others := by
  let older := (deduplicator.evictExpired now).seenAt.filter fun entry => decide (entry.1 ≠ id)
  have result : (deduplicator.isDuplicate id now).1.seenAt =
      older.drop (older.length + 1 - deduplicator.maxEntries) ++ [(id, now)] := by
    have inserted : (deduplicator.isDuplicate id now).1.seenAt =
        (older ++ [(id, now)]).drop ((older ++ [(id, now)]).length - deduplicator.maxEntries) :=
      rfl
    rw [inserted, List.length_append, List.length_singleton,
      List.drop_append_of_le_length (by omega)]
  refine ⟨_, [], result, ?_, List.nodup_nil, List.nil_subset others⟩
  intro idMem
  rcases List.mem_map.mp idMem with ⟨entry, entryMem, same⟩
  exact of_decide_eq_true (List.mem_filter.mp (List.mem_of_mem_drop entryMem)).2 same

/-- The deduplicator after a sequence of calls. -/
def after (deduplicator : PacketDeduplicator Id) (calls : List (Id × Int)) :
    PacketDeduplicator Id :=
  calls.foldl (fun deduplicator call => (deduplicator.isDuplicate call.1 call.2).1) deduplicator

theorem after_append (earlier later : List (Id × Int)) :
    deduplicator.after (earlier ++ later) = (deduplicator.after earlier).after later :=
  List.foldl_append

variable (deduplicator) in
theorem after_bounds (calls : List (Id × Int)) :
    (deduplicator.after calls).ttlMs = deduplicator.ttlMs ∧
      (deduplicator.after calls).maxEntries = deduplicator.maxEntries := by
  induction calls generalizing deduplicator with
  | nil => exact ⟨rfl, rfl⟩
  | cons call calls ih => exact ih _

theorem mem_after {entry : Id × Int} (entryMem : entry ∈ (deduplicator.after calls).seenAt) :
    entry.1 ∈ calls.map Prod.fst ∨ entry ∈ deduplicator.seenAt := by
  induction calls generalizing deduplicator with
  | nil => exact .inr entryMem
  | cons call calls ih =>
      rcases ih entryMem with later | old
      · exact .inl (List.mem_cons_of_mem _ later)
      · rcases mem_isDuplicate old with same | older
        · exact .inl (List.mem_cons.mpr (.inl same))
        · exact .inr older

theorem Remembers.after (remembers : deduplicator.Remembers id time others)
    (apart : id ∉ calls.map Prod.fst) (known : calls.map Prod.fst ⊆ others)
    (recent : ∀ call ∈ calls, call.2 - time < deduplicator.ttlMs)
    (few : others.dedup.length < deduplicator.maxEntries) :
    (deduplicator.after calls).Remembers id time others := by
  induction calls generalizing deduplicator with
  | nil => exact remembers
  | cons call calls ih =>
      rw [List.map_cons, List.mem_cons, not_or] at apart
      rw [List.map_cons, List.cons_subset] at known
      rw [List.forall_mem_cons] at recent
      have kept := remembers.isDuplicate recent.1 few known.1 (Ne.symm apart.1)
      exact ih kept apart.2 known.2 recent.2 few

/-- Consecutive calls for one identifier are less than the time to live apart, with fewer other
identifiers between them than the map holds. -/
def Spaced (deduplicator : PacketDeduplicator Id) (calls : List (Id × Int)) : Prop :=
  ∀ before id time between now later,
    calls = before ++ (id, time) :: between ++ (id, now) :: later → id ∉ between.map Prod.fst →
      now - time < deduplicator.ttlMs ∧
        (between.map Prod.fst).dedup.length < deduplicator.maxEntries

theorem Spaced.of_append {later : List (Id × Int)} (spaced : deduplicator.Spaced (calls ++ later)) :
    deduplicator.Spaced calls := by
  intro before id time between now rest split
  exact spaced before id time between now (rest ++ later) (by rw [split]; simp)

omit [DecidableEq Id] in
theorem exists_last_call (idMem : id ∈ calls.map Prod.fst) :
    ∃ before time between, calls = before ++ (id, time) :: between ∧
      id ∉ between.map Prod.fst := by
  induction calls with
  | nil => cases idMem
  | cons call calls ih =>
      by_cases later : id ∈ calls.map Prod.fst
      · rcases ih later with ⟨before, time, between, rfl, last⟩
        exact ⟨call :: before, time, between, rfl, last⟩
      · rw [List.map_cons, List.mem_cons] at idMem
        rcases idMem with rfl | idMem
        · exact ⟨[], call.2, calls, rfl, later⟩
        · exact absurd idMem later

/-- A call that comes soon enough, with few others since the last one for its identifier, is a
duplicate. -/
theorem isDuplicate_of_recent {before between : List (Id × Int)}
    (clock : ∀ call ∈ between, call.2 ≤ now) (last : id ∉ between.map Prod.fst)
    (recent : now - time < deduplicator.ttlMs)
    (few : (between.map Prod.fst).dedup.length < deduplicator.maxEntries) :
    ((deduplicator.after (before ++ (id, time) :: between)).isDuplicate id now).2 = true := by
  have bounds := deduplicator.after_bounds (before ++ [(id, time)])
  have seen : (deduplicator.after (before ++ [(id, time)])).Remembers id time
      (between.map Prod.fst) := by
    rw [after_append]
    apply remembers_isDuplicate
    rw [(after_bounds _ before).2]
    omega
  have split : before ++ (id, time) :: between = before ++ [(id, time)] ++ between := by simp
  rw [split, after_append]
  apply isDuplicate_of_remembers (seen.after last (List.Subset.refl _) _ _)
  · rw [(after_bounds _ between).1, bounds.1]
    exact recent
  · intro call callMem
    have order := clock call callMem
    rw [bounds.1]
    omega
  · rw [bounds.2]
    exact few

omit [DecidableEq Id] in
theorem clock_between {before between : List (Id × Int)}
    (clock : ((before ++ (id, time) :: between ++ [(other, now)]).map Prod.snd).Pairwise (· ≤ ·)) :
    ∀ call ∈ between, call.2 ≤ now := by
  intro call callMem
  rw [List.map_append, List.pairwise_append] at clock
  exact clock.2.2 call.2 (List.mem_map_of_mem
    (List.mem_append_right _ (List.mem_cons_of_mem _ callMem))) now (by simp)

/-- Where calls are spaced, a call is a duplicate exactly when it is not the first for its
identifier. -/
theorem isDuplicate_after (empty : deduplicator.seenAt = [])
    (clock : ((calls ++ [(id, now)]).map Prod.snd).Pairwise (· ≤ ·))
    (spaced : deduplicator.Spaced (calls ++ [(id, now)])) :
    ((deduplicator.after calls).isDuplicate id now).2 = true ↔ id ∈ calls.map Prod.fst := by
  constructor
  · intro duplicate
    by_contra first
    rw [isDuplicate_unseen] at duplicate
    · cases duplicate
    · intro seen
      rcases List.mem_map.mp seen with ⟨entry, entryMem, rfl⟩
      rcases mem_after entryMem with called | old
      · exact first called
      · rw [empty] at old
        cases old
  · intro called
    rcases exists_last_call called with ⟨before, time, between, rfl, last⟩
    rcases spaced before id time between now [] rfl last with ⟨recent, few⟩
    exact isDuplicate_of_recent (clock_between clock) last recent few

/-- An entry stands for the last call for its identifier, and all identifiers of the calls since
then are behind it. -/
def Traces (deduplicator : PacketDeduplicator Id) (calls : List (Id × Int)) : Prop :=
  ∀ older id time newer, deduplicator.seenAt = older ++ (id, time) :: newer →
    ∃ before between, calls = before ++ (id, time) :: between ∧ id ∉ between.map Prod.fst ∧
      between.map Prod.fst ⊆ newer.map Prod.fst

theorem seenAt_isDuplicate_suffix (id : Id) (now : Int) :
    (deduplicator.isDuplicate id now).1.seenAt <:+
      ((deduplicator.evictExpired now).seenAt.filter fun entry => entry.1 ≠ id) ++
        [(id, now)] :=
  List.drop_suffix _ _

theorem Traces.isDuplicate (traces : deduplicator.Traces calls) (id : Id) (now : Int) :
    (deduplicator.isDuplicate id now).1.Traces (calls ++ [(id, now)]) := by
  intro older seen time newer split
  have suffix : (deduplicator.isDuplicate id now).1.seenAt <:+ _ := seenAt_isDuplicate_suffix id now
  rcases suffix with ⟨evicted, whole⟩
  rw [split] at whole
  rcases List.eq_nil_or_concat newer with rfl | ⟨behind, last, rfl⟩
  · have own : (seen, time) = (id, now) := by
      rw [← List.append_assoc] at whole
      exact (List.cons.inj (List.append_inj' whole rfl).2).1
    cases own
    exact ⟨calls, [], rfl, by simp, by simp⟩
  · have regrouped : evicted ++ (older ++ (seen, time) :: (behind ++ [last])) =
        (evicted ++ older ++ (seen, time) :: behind) ++ [last] := by simp
    rw [List.concat_eq_append, regrouped] at whole
    rcases List.append_inj' whole rfl with ⟨kept, added⟩
    cases added
    rcases List.filter_eq_append_iff.mp kept.symm with ⟨front, back, evictedSeenAt, _, rest⟩
    rcases List.filter_eq_cons_iff.mp rest with ⟨skipped, later, rfl, _, other, behindKept⟩
    rcases List.dropWhile_suffix (l := deduplicator.seenAt)
      (fun entry => decide (deduplicator.ttlMs ≤ now - entry.2)) with ⟨expired, seenAt⟩
    have placed : deduplicator.seenAt =
        (expired ++ front ++ skipped) ++ (seen, time) :: later := by
      rw [← seenAt]
      simp only [evictExpired] at evictedSeenAt
      rw [evictedSeenAt]
      simp
    rcases traces _ _ _ _ placed with ⟨before, between, rfl, absent, known⟩
    refine ⟨before, between ++ [(id, now)], by simp, ?_, ?_⟩
    · simp only [List.map_append, List.map_cons, List.map_nil, List.mem_append,
        List.mem_singleton, not_or]
      exact ⟨absent, of_decide_eq_true other⟩
    · intro passed passedMem
      simp only [List.map_append, List.map_cons, List.map_nil, List.mem_append,
        List.mem_singleton] at passedMem
      by_cases same : passed = id
      · simp [same]
      · rcases passedMem with old | new
        · rcases List.mem_map.mp (known old) with ⟨entry, entryMem, rfl⟩
          rw [List.concat_eq_append, List.map_append, ← behindKept]
          apply List.mem_append_left
          apply List.mem_map_of_mem
          exact List.mem_filter.mpr ⟨entryMem, decide_eq_true same⟩
        · exact absurd new same

theorem size_isDuplicate (id : Id) (now : Int) :
    (deduplicator.isDuplicate id now).1.seenAt.length ≤ deduplicator.maxEntries := by
  have bound : (deduplicator.evictExpired now).maxEntries = deduplicator.maxEntries := rfl
  simp only [PacketDeduplicator.isDuplicate, evictOverflow, reinsert, List.length_drop, bound]
  omega

/-- What holds after every sequence of calls. -/
structure HistoryInvariant (deduplicator : PacketDeduplicator Id) (calls : List (Id × Int)) :
    Prop where
  traces : deduplicator.Traces calls
  size : deduplicator.seenAt.length ≤ deduplicator.maxEntries

theorem historyInvariant_after (maxEntries : Nat) (ttlMs : Int) (calls : List (Id × Int)) :
    ((new maxEntries ttlMs).after calls).HistoryInvariant calls := by
  induction calls using List.reverseRecOn with
  | nil =>
      refine ⟨?_, Nat.zero_le _⟩
      intro older id time newer split
      simp [after, new] at split
  | append_singleton calls call ih =>
      rw [after_append]
      exact ⟨ih.traces.isDuplicate call.1 call.2, size_isDuplicate call.1 call.2⟩

/-- The latest call for the identifier is younger than the time to live, and fewer distinct other
identifiers than the map holds have been passed since. -/
def PassedRecently (maxEntries : Nat) (ttlMs : Int) (calls : List (Id × Int)) (id : Id)
    (now : Int) : Prop :=
  ∃ before time between, calls = before ++ (id, time) :: between ∧ id ∉ between.map Prod.fst ∧
    now - time < ttlMs ∧ (between.map Prod.fst).dedup.length < maxEntries

theorem exists_recent_of_isDuplicate (duplicate : (deduplicator.isDuplicate id now).2 = true) :
    ∃ older time newer, deduplicator.seenAt = older ++ (id, time) :: newer ∧
      now - time < deduplicator.ttlMs := by
  simp only [PacketDeduplicator.isDuplicate] at duplicate
  cases found : (deduplicator.evictExpired now).seenAt.find? fun entry => entry.1 = id with
  | none =>
      rw [found] at duplicate
      cases duplicate
  | some entry =>
      rcases entry with ⟨seen, time⟩
      rw [found, Option.any_some] at duplicate
      rcases List.find?_eq_some_iff_append.mp found with ⟨same, older, newer, kept, _⟩
      have same : seen = id := of_decide_eq_true same
      subst seen
      rcases List.dropWhile_suffix (l := deduplicator.seenAt)
        (fun entry => decide (deduplicator.ttlMs ≤ now - entry.2)) with ⟨expired, seenAt⟩
      refine ⟨expired ++ older, time, newer, ?_, of_decide_eq_true duplicate⟩
      rw [← seenAt, List.append_assoc, ← kept]
      rfl

theorem passedRecently_of_isDuplicate {maxEntries : Nat} {ttlMs : Int}
    (duplicate : (((new maxEntries ttlMs).after calls).isDuplicate id now).2 = true) :
    PassedRecently maxEntries ttlMs calls id now := by
  have bounds := (new maxEntries ttlMs : PacketDeduplicator Id).after_bounds calls
  have invariant := historyInvariant_after maxEntries ttlMs calls
  rcases exists_recent_of_isDuplicate duplicate with ⟨older, time, newer, placed, recent⟩
  rcases invariant.traces _ _ _ _ placed with ⟨before, between, split, last, known⟩
  refine ⟨before, time, between, split, last, ?_, ?_⟩
  · rw [bounds.1] at recent
    exact recent
  · have within := ((List.nodup_dedup (between.map Prod.fst)).subperm fun passed passedMem =>
      known (List.mem_dedup.mp passedMem)).length_le
    have size := invariant.size
    rw [placed, bounds.2, List.length_append, List.length_cons] at size
    rw [List.length_map] at within
    simp only [new] at size
    omega

/-- A deduplicator answers from the history of its calls, and never holds more than its size. -/
theorem isDuplicate_iff_passedRecently (maxEntries : Nat) (ttlMs : Int)
    (calls : List (Id × Int)) (id : Id) (now : Int)
    (clock : ((calls ++ [(id, now)]).map Prod.snd).Pairwise (· ≤ ·)) :
    ((((new maxEntries ttlMs).after calls).isDuplicate id now).2 = true ↔
        PassedRecently maxEntries ttlMs calls id now) ∧
      ((new maxEntries ttlMs).after calls).seenAt.length ≤ maxEntries := by
  refine ⟨⟨passedRecently_of_isDuplicate, ?_⟩, ?_⟩
  · rintro ⟨before, time, between, rfl, last, recent, few⟩
    exact isDuplicate_of_recent (clock_between clock) last recent few
  · have size := (historyInvariant_after maxEntries ttlMs calls).size
    rw [((new maxEntries ttlMs).after_bounds calls).2] at size
    exact size

theorem isDuplicate_iff_passedRecently_of_two :
    ((((new 1 5).after [(7, 0)]).isDuplicate 7 4).2 = true ↔
        PassedRecently 1 5 [(7, 0)] 7 4) ∧
      ((new 1 5).after [(7, 0)]).seenAt.length ≤ 1 :=
  isDuplicate_iff_passedRecently 1 5 [(7, 0)] 7 4 (by decide)

end Calls

end PacketDeduplicator

end MeshcoreObserver
