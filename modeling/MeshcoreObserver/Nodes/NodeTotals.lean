import MeshcoreObserver.Metrics.MetricsWindow
import MeshcoreObserver.Nodes.NodeTable
import Mathlib.Data.Finset.Card
import Mathlib.Data.Finset.Dedup

/-!
# Totals of nodes

The counts the dashboard shows of the nodes in a window, against the history of
hearings they are meant to count. The table keeps the first and the last hearing
of a node, so a node that was heard again in a window is no longer counted as
updated there once it has been heard after the window, and the window before the
selected one loses its nodes to the selected one.
-/

namespace MeshcoreObserver

open Counting

structure NodeTotals where
  added : Nat
  updated : Nat
  deriving DecidableEq, Repr

/-- The rows of which a condition is true. -/
def countRows (nodes : NodeTable) (selects : StoredNode → Bool) : Nat :=
  (nodes.filter fun entry => selects entry.2).length

def queryNodeTotals (nodes : NodeTable) (window : Window) (type : Text) : NodeTotals where
  added := countRows nodes fun node => window.contains node.firstHeardAt && node.hasType type
  updated := countRows nodes fun node =>
    window.contains node.lastHeardAt && node.lastHeardAt ≠ node.firstHeardAt && node.hasType type

def countActiveNodesInRange (nodes : NodeTable) (window : Window) (type : Text) : Nat :=
  countRows nodes fun node =>
    node.hasType type &&
      (window.contains node.firstHeardAt || window.contains node.lastHeardAt)

/-- `trends.repeatersUpdated` of the overview, where it has trends. -/
def repeatersUpdatedTrend (nodes : NodeTable) (range : Option Text) (window : Window)
    (earliestSampleAt : Option Int) : Option Int :=
  (comparisonWindow range window earliestSampleAt).map fun comparison =>
    ((queryNodeTotals nodes window repeaterType).updated : Int) -
      (queryNodeTotals nodes comparison repeaterType).updated

/-- Hearings in the order of their times, no two of one node at the same time, and every node of
one type. -/
structure HearingHistory (history : List NodeHearing) : Prop where
  ordered : history.Pairwise fun former later => former.heardAt ≤ later.heardAt
  apart : history.Pairwise fun former later =>
    former.publicKeyHex = later.publicKeyHex → former.heardAt ≠ later.heardAt
  oneType : ∀ hearing ∈ history, ∀ other ∈ history,
    hearing.publicKeyHex = other.publicKeyHex → hearing.type = other.type

def nodesHeard (history : List NodeHearing) : Finset Text :=
  (history.map NodeHearing.publicKeyHex).toFinset

def isOfType (history : List NodeHearing) (type : Text) (publicKeyHex : Text) : Bool :=
  type = [] || (hearingsOf publicKeyHex history).any fun hearing => hearing.type = some type

def firstHeardIn (history : List NodeHearing) (window : Window) (publicKeyHex : Text) : Bool :=
  (hearingsOf publicKeyHex history).head?.any fun first => window.contains first.heardAt

/-- Heard in the window, and not for the first time. -/
def heardAgainIn (history : List NodeHearing) (window : Window) (publicKeyHex : Text) : Bool :=
  (hearingsOf publicKeyHex history).tail.any fun hearing => window.contains hearing.heardAt

def heardIn (history : List NodeHearing) (window : Window) (publicKeyHex : Text) : Bool :=
  (hearingsOf publicKeyHex history).any fun hearing => window.contains hearing.heardAt

/-- The number of nodes of a type which were heard as asked. -/
def numberOfNodes (history : List NodeHearing) (type : Text) (heard : Text → Bool) : Nat :=
  ((nodesHeard history).filter fun publicKeyHex =>
    isOfType history type publicKeyHex ∧ heard publicKeyHex).card

/-- The counts of a window are those of the history. -/
structure TotalsTellTruth (history : List NodeHearing) (window : Window) (type : Text) : Prop where
  added : (queryNodeTotals (upsertNodes [] history) window type).added =
    numberOfNodes history type (firstHeardIn history window)
  updated : (queryNodeTotals (upsertNodes [] history) window type).updated =
    numberOfNodes history type (heardAgainIn history window)
  active : countActiveNodesInRange (upsertNodes [] history) window type =
    numberOfNodes history type (heardIn history window)

/-- The difference of the repeaters heard again in a window and in the one before it. -/
def trueRepeatersTrend (history : List NodeHearing) (window : Window) : Int :=
  (numberOfNodes history repeaterType (heardAgainIn history window) : Int) -
    numberOfNodes history repeaterType (heardAgainIn history window.comparison)

/-- No node of the type which was heard again in the window has been heard after it. -/
def UnheardSince (history : List NodeHearing) (window : Window) (type : Text) : Prop :=
  ∀ publicKeyHex, isOfType history type publicKeyHex →
    heardAgainIn history window publicKeyHex →
    ∀ hearing ∈ hearingsOf publicKeyHex history, (hearing.heardAt : ℚ) < window.finish

section Rows

variable {history : List NodeHearing} {publicKeyHex : Text} {node : StoredNode}

/-- The last hearing lies in the window, and is not the first. -/
def lastHeardAgainIn (history : List NodeHearing) (window : Window) (publicKeyHex : Text) : Bool :=
  (hearingsOf publicKeyHex history).tail.getLast?.any fun last => window.contains last.heardAt

theorem mem_nodesHeard_iff :
    publicKeyHex ∈ nodesHeard history ↔ hearingsOf publicKeyHex history ≠ [] := by
  simp only [nodesHeard, hearingsOf, List.mem_toFinset, List.mem_map, ne_eq,
    List.filter_eq_nil_iff, decide_eq_true_eq, not_forall, not_not, exists_prop]

theorem HearingHistory.ordered_hearingsOf (clean : HearingHistory history)
    (publicKeyHex : Text) : (hearingsOf publicKeyHex history).Pairwise fun former later =>
      former.heardAt ≤ later.heardAt :=
  clean.ordered.sublist List.filter_sublist

theorem HearingHistory.apart_hearingsOf (clean : HearingHistory history) (publicKeyHex : Text) :
    (hearingsOf publicKeyHex history).Pairwise fun former later =>
      former.heardAt ≠ later.heardAt := by
  have apart := clean.apart.sublist
    (List.filter_sublist : (hearingsOf publicKeyHex history).Sublist history)
  refine apart.imp_of_mem ?_
  intro former later formerMem laterMem differ
  have formerKey := of_decide_eq_true (List.mem_filter.mp formerMem).2
  have laterKey := of_decide_eq_true (List.mem_filter.mp laterMem).2
  exact differ (formerKey.trans laterKey.symm)

theorem HearingHistory.hasType_eq (clean : HearingHistory history)
    (found : find? publicKeyHex (upsertNodes [] history) = some node) (type : Text) :
    node.hasType type = isOfType history type publicKeyHex := by
  rcases row_of_hearings found with ⟨_, last, _, isLast, _, lastType, _, _⟩
  have lastMem := List.mem_of_getLast? isLast
  rw [StoredNode.hasType, isOfType]
  congr 1
  rw [Bool.eq_iff_iff, decide_eq_true_eq, List.any_eq_true, lastType]
  constructor
  · intro same
    exact ⟨last, lastMem, decide_eq_true same⟩
  · rintro ⟨hearing, hearingMem, same⟩
    have lastKey := List.mem_filter.mp lastMem
    have hearingKey := List.mem_filter.mp hearingMem
    have types := clean.oneType last lastKey.1 hearing hearingKey.1
      ((of_decide_eq_true lastKey.2).trans (of_decide_eq_true hearingKey.2).symm)
    exact types.trans (of_decide_eq_true same)

theorem contains_firstHeardAt
    (found : find? publicKeyHex (upsertNodes [] history) = some node) (window : Window) :
    window.contains node.firstHeardAt = firstHeardIn history window publicKeyHex := by
  rcases row_of_hearings found with ⟨first, _, isFirst, _, _, _, firstAt, _⟩
  rw [firstHeardIn, isFirst, firstAt, Option.any_some]

/-- With its first hearing in front, a row shows the last of the others, or the first again. -/
theorem HearingHistory.lastHeardAt_cases (clean : HearingHistory history)
    (found : find? publicKeyHex (upsertNodes [] history) = some node) :
    ((hearingsOf publicKeyHex history).tail = [] ∧ node.lastHeardAt = node.firstHeardAt) ∨
      ∃ last, (hearingsOf publicKeyHex history).tail.getLast? = some last ∧
        node.lastHeardAt = last.heardAt ∧ node.lastHeardAt ≠ node.firstHeardAt := by
  rcases row_of_hearings found with ⟨first, last, isFirst, isLast, _, _, firstAt, lastAt⟩
  have apart := clean.apart_hearingsOf publicKeyHex
  rcases List.head?_eq_some_iff.mp isFirst with ⟨others, whole⟩
  rw [whole] at isLast apart
  rw [whole, List.tail_cons]
  cases others with
  | nil =>
      simp only [List.getLast?_singleton, Option.some.injEq] at isLast
      subst last
      exact .inl ⟨rfl, lastAt.trans firstAt.symm⟩
  | cons second others =>
      rw [List.getLast?_cons_cons] at isLast
      refine .inr ⟨last, isLast, lastAt, ?_⟩
      rw [lastAt, firstAt]
      exact ((List.pairwise_cons.mp apart).1 last (List.mem_of_getLast? isLast)).symm

theorem HearingHistory.updated_eq (clean : HearingHistory history)
    (found : find? publicKeyHex (upsertNodes [] history) = some node) (window : Window) :
    (window.contains node.lastHeardAt && decide (node.lastHeardAt ≠ node.firstHeardAt)) =
      lastHeardAgainIn history window publicKeyHex := by
  rcases clean.lastHeardAt_cases found with ⟨once, same⟩ | ⟨last, isLast, lastAt, differ⟩
  · simp [lastHeardAgainIn, once, same]
  · simp [lastHeardAgainIn, isLast, ← lastAt, differ]

theorem HearingHistory.active_eq (clean : HearingHistory history)
    (found : find? publicKeyHex (upsertNodes [] history) = some node) (window : Window) :
    (window.contains node.firstHeardAt || window.contains node.lastHeardAt) =
      (firstHeardIn history window publicKeyHex ||
        lastHeardAgainIn history window publicKeyHex) := by
  rw [← contains_firstHeardAt found, ← clean.updated_eq found]
  by_cases same : node.lastHeardAt = node.firstHeardAt
  · simp [same]
  · simp [same]

end Rows

section Count

variable {history : List NodeHearing} {type : Text}

theorem countRows_eq {selects : StoredNode → Bool} {heard : Text → Bool}
    (shows_heard : ∀ publicKeyHex node,
      find? publicKeyHex (upsertNodes [] history) = some node →
        selects node = (isOfType history type publicKeyHex && heard publicKeyHex)) :
    countRows (upsertNodes [] history) selects = numberOfNodes history type heard := by
  have empty : (([] : NodeTable).map Prod.fst).Nodup := List.nodup_nil
  have nodup := nodup_upsertNodes empty history
  have keys : (((upsertNodes [] history).filter fun entry => selects entry.2).map
      Prod.fst).Nodup :=
    nodup.sublist (List.filter_sublist.map Prod.fst)
  rw [countRows, ← List.length_map Prod.fst, ← List.toFinset_card_of_nodup keys, numberOfNodes]
  congr 1
  ext publicKeyHex
  simp only [List.mem_toFinset, List.mem_map, List.mem_filter, Finset.mem_filter]
  constructor
  · rintro ⟨entry, ⟨entryMem, selected⟩, rfl⟩
    have found := find?_eq_some_of_mem nodup entryMem
    rw [shows_heard entry.1 entry.2 found, Bool.and_eq_true] at selected
    have listed : entry.1 ∈ (upsertNodes [] history).map Prod.fst := List.mem_map_of_mem entryMem
    rw [mem_keys_upsertNodes, List.map_nil] at listed
    refine ⟨List.mem_toFinset.mpr ?_, selected⟩
    simpa using listed
  · rintro ⟨heardMem, selected⟩
    have listed : publicKeyHex ∈ (upsertNodes [] history).map Prod.fst :=
      mem_keys_upsertNodes.mpr (.inr (List.mem_toFinset.mp heardMem))
    rcases List.mem_map.mp listed with ⟨entry, entryMem, rfl⟩
    have found := find?_eq_some_of_mem nodup entryMem
    refine ⟨entry, ⟨entryMem, ?_⟩, rfl⟩
    rw [shows_heard entry.1 entry.2 found, Bool.and_eq_true]
    exact selected

/-- A stronger condition selects as many nodes exactly where it selects the same ones. -/
theorem numberOfNodes_eq_iff {stronger weaker : Text → Bool}
    (implies : ∀ publicKeyHex, stronger publicKeyHex → weaker publicKeyHex)
    (heard : ∀ publicKeyHex, weaker publicKeyHex → hearingsOf publicKeyHex history ≠ []) :
    numberOfNodes history type stronger = numberOfNodes history type weaker ↔
      ∀ publicKeyHex, isOfType history type publicKeyHex → weaker publicKeyHex →
        stronger publicKeyHex := by
  have included : ((nodesHeard history).filter fun publicKeyHex =>
        isOfType history type publicKeyHex ∧ stronger publicKeyHex) ⊆
      (nodesHeard history).filter fun publicKeyHex =>
        isOfType history type publicKeyHex ∧ weaker publicKeyHex := by
    intro publicKeyHex selected
    rw [Finset.mem_filter] at selected ⊢
    exact ⟨selected.1, selected.2.1, implies publicKeyHex selected.2.2⟩
  constructor
  · intro same publicKeyHex ofType selected
    have sets := Finset.eq_of_subset_of_card_le included (Nat.le_of_eq same.symm)
    have member : publicKeyHex ∈ (nodesHeard history).filter fun publicKeyHex =>
        isOfType history type publicKeyHex ∧ weaker publicKeyHex :=
      Finset.mem_filter.mpr
        ⟨mem_nodesHeard_iff.mpr (heard publicKeyHex selected), ofType, selected⟩
    rw [← sets] at member
    exact (Finset.mem_filter.mp member).2.2
  · intro converse
    apply congrArg Finset.card
    apply Finset.Subset.antisymm included
    intro publicKeyHex selected
    rw [Finset.mem_filter] at selected ⊢
    exact ⟨selected.1, selected.2.1, converse publicKeyHex selected.2.1 selected.2.2⟩

theorem HearingHistory.added_true (clean : HearingHistory history) (window : Window) :
    (queryNodeTotals (upsertNodes [] history) window type).added =
      numberOfNodes history type (firstHeardIn history window) := by
  simp only [queryNodeTotals]
  apply countRows_eq
  intro publicKeyHex node found
  rw [contains_firstHeardAt found, clean.hasType_eq found, Bool.and_comm]

/-- Nodes are counted as updated by their last hearing. -/
theorem HearingHistory.updated_counts (clean : HearingHistory history) (window : Window) :
    (queryNodeTotals (upsertNodes [] history) window type).updated =
      numberOfNodes history type (lastHeardAgainIn history window) := by
  simp only [queryNodeTotals]
  apply countRows_eq
  intro publicKeyHex node found
  rw [clean.updated_eq found, clean.hasType_eq found, Bool.and_comm]

/-- Nodes are counted as active by their first hearing and their last one. -/
theorem HearingHistory.active_counts (clean : HearingHistory history) (window : Window) :
    countActiveNodesInRange (upsertNodes [] history) window type =
      numberOfNodes history type fun publicKeyHex =>
        firstHeardIn history window publicKeyHex ||
          lastHeardAgainIn history window publicKeyHex := by
  apply countRows_eq
  intro publicKeyHex node found
  rw [clean.active_eq found, clean.hasType_eq found]

end Count

section Truth

variable {history : List NodeHearing} {window : Window} {type publicKeyHex : Text}

theorem heardAgainIn_of_lastHeardAgainIn
    (last : lastHeardAgainIn history window publicKeyHex) :
    heardAgainIn history window publicKeyHex := by
  rw [lastHeardAgainIn, Option.any_eq_true] at last
  rcases last with ⟨hearing, isLast, inWindow⟩
  rw [heardAgainIn, List.any_eq_true]
  exact ⟨hearing, List.mem_of_getLast? isLast, inWindow⟩

theorem heardIn_iff :
    heardIn history window publicKeyHex = true ↔
      firstHeardIn history window publicKeyHex = true ∨
        heardAgainIn history window publicKeyHex = true := by
  simp only [heardIn, firstHeardIn, heardAgainIn]
  cases hearingsOf publicKeyHex history with
  | nil => simp
  | cons first others => simp

theorem hearings_of_heardIn (heard : heardIn history window publicKeyHex) :
    hearingsOf publicKeyHex history ≠ [] := by
  intro unheard
  simp [heardIn, unheard] at heard

/-- A node heard again in the window has its last hearing there unless it is heard after it. -/
theorem HearingHistory.lastHeardAgainIn_iff (clean : HearingHistory history)
    (again : heardAgainIn history window publicKeyHex) :
    lastHeardAgainIn history window publicKeyHex = true ↔
      ∀ hearing ∈ hearingsOf publicKeyHex history, (hearing.heardAt : ℚ) < window.finish := by
  rw [heardAgainIn, List.any_eq_true] at again
  rcases again with ⟨hearing, hearingMem, inWindow⟩
  rw [Window.contains_iff] at inWindow
  rcases List.eq_nil_or_concat (hearingsOf publicKeyHex history).tail with
    once | ⟨between, last, tail⟩
  · rw [once] at hearingMem
    cases hearingMem
  · have tailLast : (hearingsOf publicKeyHex history).tail.getLast? = some last := by
      rw [tail, List.concat_eq_append, List.getLast?_concat]
    have isLast : (hearingsOf publicKeyHex history).getLast? = some last := by
      rw [List.getLast?_eq_some_iff]
      cases whole : hearingsOf publicKeyHex history with
      | nil => simp [whole] at tail
      | cons first others =>
          rw [whole, List.tail_cons, List.concat_eq_append] at tail
          exact ⟨first :: between, by rw [tail, List.cons_append]⟩
    have latest := le_getLast_of_pairwise (clean.ordered_hearingsOf publicKeyHex) isLast
    rw [lastHeardAgainIn, tailLast, Option.any_some, Window.contains_iff]
    constructor
    · rintro ⟨_, before⟩ other otherMem
      have sooner : (other.heardAt : ℚ) ≤ last.heardAt := by
        exact_mod_cast latest other otherMem
      exact lt_of_le_of_lt sooner before
    · intro before
      have later : (hearing.heardAt : ℚ) ≤ last.heardAt := by
        exact_mod_cast latest hearing (List.mem_of_mem_tail hearingMem)
      exact ⟨le_trans inWindow.1 later, before last (List.mem_of_getLast? isLast)⟩

theorem totalsTellTruth_iff (clean : HearingHistory history) :
    TotalsTellTruth history window type ↔ UnheardSince history window type := by
  have updated_iff : (queryNodeTotals (upsertNodes [] history) window type).updated =
      numberOfNodes history type (heardAgainIn history window) ↔
        ∀ publicKeyHex, isOfType history type publicKeyHex →
          heardAgainIn history window publicKeyHex →
            lastHeardAgainIn history window publicKeyHex := by
    rw [clean.updated_counts]
    apply numberOfNodes_eq_iff
    · intro publicKeyHex last
      exact heardAgainIn_of_lastHeardAgainIn last
    · intro publicKeyHex again
      exact hearings_of_heardIn (heardIn_iff.mpr (.inr again))
  constructor
  · intro truth publicKeyHex ofType again
    rw [← clean.lastHeardAgainIn_iff again]
    exact updated_iff.mp truth.updated publicKeyHex ofType again
  · intro unheard
    have kept : ∀ publicKeyHex, isOfType history type publicKeyHex →
        heardAgainIn history window publicKeyHex →
          lastHeardAgainIn history window publicKeyHex := by
      intro publicKeyHex ofType again
      rw [clean.lastHeardAgainIn_iff again]
      exact unheard publicKeyHex ofType again
    refine ⟨clean.added_true window, updated_iff.mpr kept, ?_⟩
    rw [clean.active_counts]
    refine (numberOfNodes_eq_iff ?_ ?_).mpr ?_
    · intro publicKeyHex either
      rw [Bool.or_eq_true] at either
      rcases either with first | last
      · exact heardIn_iff.mpr (.inl first)
      · exact heardIn_iff.mpr (.inr (heardAgainIn_of_lastHeardAgainIn last))
    · intro publicKeyHex heard
      exact hearings_of_heardIn heard
    · intro publicKeyHex ofType heard
      rw [Bool.or_eq_true]
      rcases heardIn_iff.mp heard with first | again
      · exact .inl first
      · exact .inr (kept publicKeyHex ofType again)

/-- Nothing is lost in a window that ends after the latest hearing. -/
theorem unheardSince_of_before
    (before : ∀ hearing ∈ history, (hearing.heardAt : ℚ) < window.finish) :
    UnheardSince history window type := by
  intro publicKeyHex _ _ hearing hearingMem
  exact before hearing (List.mem_of_mem_filter hearingMem)

theorem comparisonWindow_eq_some {range : Option Text} {earliestSampleAt : Option Int}
    {comparison : Window}
    (compared : comparisonWindow range window earliestSampleAt = some comparison) :
    comparison = window.comparison := by
  simp only [comparisonWindow] at compared
  split at compared
  · cases compared
  · split at compared
    · cases compared
    · split at compared
      · cases compared
        rfl
      · cases compared

/-- The counts of a window are true exactly where no node heard again in the window has been heard
since; the trend of the overview is true where that holds of both of its windows. -/
theorem node_totals_tell_truth (clean : HearingHistory history) (window : Window) (type : Text) :
    (TotalsTellTruth history window type ↔ UnheardSince history window type) ∧
      ∀ range earliestSampleAt trend,
        UnheardSince history window repeaterType →
        UnheardSince history window.comparison repeaterType →
        repeatersUpdatedTrend (upsertNodes [] history) range window earliestSampleAt =
          some trend →
        trend = trueRepeatersTrend history window := by
  refine ⟨totalsTellTruth_iff clean, ?_⟩
  intro range earliestSampleAt trend unheard unheardBefore shown
  rw [repeatersUpdatedTrend, Option.map_eq_some_iff] at shown
  rcases shown with ⟨comparison, compared, rfl⟩
  rw [comparisonWindow_eq_some compared, ((totalsTellTruth_iff clean).mpr unheard).updated,
    ((totalsTellTruth_iff clean).mpr unheardBefore).updated, trueRepeatersTrend]

end Truth

/-- A repeater heard in the window before the selected one, and again in the selected one. -/
def reheardRepeater : List NodeHearing :=
  [0, 5, 15].map fun heardAt =>
    { publicKeyHex := ['E', '8'], name := ['S', 'u', 'm', 'm', 'i', 't'], type := repeaterType
      heardAt }

theorem reheardRepeater_clean : HearingHistory reheardRepeater where
  ordered := by decide
  apart := by decide
  oneType := by decide

theorem node_totals_tell_truth_of_latest :
    TotalsTellTruth reheardRepeater { start := 10, finish := 20 } repeaterType := by
  apply (node_totals_tell_truth reheardRepeater_clean _ _).1.mpr
  apply unheardSince_of_before
  decide +kernel

theorem earlier_window_loses_repeater :
    HearingHistory reheardRepeater ∧
      ¬TotalsTellTruth reheardRepeater { start := 0, finish := 10 } repeaterType ∧
      repeatersUpdatedTrend (upsertNodes [] reheardRepeater) none { start := 10, finish := 20 }
        (some 0) = some 1 ∧
      trueRepeatersTrend reheardRepeater { start := 10, finish := 20 } = 0 := by
  refine ⟨reheardRepeater_clean, ?_, by decide +kernel, by decide +kernel⟩
  intro truth
  exact absurd truth.updated (by decide +kernel)

end MeshcoreObserver
