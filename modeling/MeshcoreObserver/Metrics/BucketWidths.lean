import MeshcoreObserver.Counting.Ladder
import MeshcoreObserver.Metrics.StoreQueries
import Mathlib.Tactic.NormNum

/-!
# Bucket widths

`resolveBucketWidthMs` climbs a ladder: the sample interval, the fixed rungs above
it, and the multiples of the largest of these. Its width is the least of them
that covers the range with the buckets that are asked for.
-/

namespace MeshcoreObserver

open Counting

/-- The sample interval and the rungs above it. -/
def bucketWidths (sampleIntervalMs : ℚ) : Set ℚ :=
  {width | width = sampleIntervalMs ∨ width ∈ bucketWidthLadderMs ∧ sampleIntervalMs < width}

/-- The positive multiples of the largest of some widths. -/
def multiplesOfLargest (widths : Set ℚ) : Set ℚ :=
  {width | ∃ largest, IsGreatest widths largest ∧ ∃ count : ℕ, 0 < count ∧ width = count * largest}

/-- A width for a range of at most so many buckets. -/
structure OptimalWidth (rangeMs maxBuckets sampleIntervalMs : ℕ) (width : ℚ) : Prop where
  least : IsLeast
    {other | (other ∈ bucketWidths sampleIntervalMs ∨
        other ∈ multiplesOfLargest (bucketWidths sampleIntervalMs)) ∧
      (rangeMs : ℚ) / maxBuckets ≤ other} width
  integer : ∃ value : ℕ, 0 < value ∧ width = value
  atLeastInterval : (sampleIntervalMs : ℚ) ≤ width
  bounded : ⌈(rangeMs : ℚ) / width⌉ ≤ (maxBuckets : ℤ)

def rungsAbove (sampleIntervalMs : ℚ) : List ℚ :=
  bucketWidthLadderMs.filter fun rung => sampleIntervalMs < rung

theorem resolveBucketWidthMs_eq_climb (rangeMs : ℚ) (maxBuckets : ℕ) (sampleIntervalMs : ℚ) :
    resolveBucketWidthMs rangeMs maxBuckets sampleIntervalMs =
      climb sampleIntervalMs (rungsAbove sampleIntervalMs)
        (max 0 rangeMs / max 1 (maxBuckets : ℚ)) := by
  simp only [resolveBucketWidthMs, climb, topRung, rungsAbove]
  generalize max 0 rangeMs / max 1 (maxBuckets : ℚ) = idealWidth
  generalize bucketWidthLadderMs.filter _ = rungs
  cases List.find? (fun rung => decide (idealWidth ≤ rung)) (sampleIntervalMs :: rungs) with
  | none => rfl
  | some rung => rfl

theorem ascending_rungsAbove (sampleIntervalMs : ℚ) :
    (sampleIntervalMs :: rungsAbove sampleIntervalMs).Pairwise (· < ·) := by
  have ascending : bucketWidthLadderMs.Pairwise (· < ·) := by
    norm_num [bucketWidthLadderMs]
  rw [List.pairwise_cons]
  constructor
  · intro rung rungMem
    exact of_decide_eq_true (List.mem_filter.mp rungMem).2
  · exact ascending.sublist List.filter_sublist

theorem mem_rungsAbove {sampleIntervalMs width : ℚ} :
    width ∈ sampleIntervalMs :: rungsAbove sampleIntervalMs ↔
      width ∈ bucketWidths sampleIntervalMs := by
  rw [List.mem_cons, rungsAbove, List.mem_filter, decide_eq_true_eq]
  rfl

theorem isGreatest_topRung (sampleIntervalMs : ℚ) :
    IsGreatest (bucketWidths sampleIntervalMs)
      (topRung sampleIntervalMs (rungsAbove sampleIntervalMs)) := by
  constructor
  · exact mem_rungsAbove.mp (topRung_mem _ _)
  · intro width widthMem
    exact le_topRung (ascending_rungsAbove sampleIntervalMs) (mem_rungsAbove.mpr widthMem)

/-- The steps of the ladder are the widths and the multiples of their largest. -/
theorem mem_steps_rungsAbove {sampleIntervalMs width : ℚ} :
    width ∈ steps sampleIntervalMs (rungsAbove sampleIntervalMs) ↔
      width ∈ bucketWidths sampleIntervalMs ∨
        width ∈ multiplesOfLargest (bucketWidths sampleIntervalMs) := by
  have top := isGreatest_topRung sampleIntervalMs
  constructor
  · rintro (rung | ⟨count, positive, rfl⟩)
    · exact Or.inl (mem_rungsAbove.mp rung)
    · exact Or.inr ⟨_, top, count, positive, rfl⟩
  · rintro (rung | ⟨largest, greatest, count, positive, rfl⟩)
    · exact Or.inl (mem_rungsAbove.mpr rung)
    · exact Or.inr ⟨count, positive, by rw [greatest.unique top]⟩

section Natural

variable {rangeMs maxBuckets sampleIntervalMs : ℕ}

/-- The rungs are whole numbers of milliseconds. -/
theorem natural_of_mem_bucketWidths {width : ℚ}
    (widthMem : width ∈ bucketWidths sampleIntervalMs) : ∃ value : ℕ, width = value := by
  rcases widthMem with rfl | ⟨rungMem, _⟩
  · exact ⟨sampleIntervalMs, rfl⟩
  · have whole : ∀ rung ∈ bucketWidthLadderMs, rung = ⌊rung⌋₊ := by
      norm_num [bucketWidthLadderMs]
    exact ⟨_, whole width rungMem⟩

theorem natural_of_mem_steps {width : ℚ}
    (stepMem : width ∈ steps (sampleIntervalMs : ℚ) (rungsAbove sampleIntervalMs)) :
    ∃ value : ℕ, width = value := by
  rcases mem_steps_rungsAbove.mp stepMem with rung | ⟨largest, greatest, count, _, rfl⟩
  · exact natural_of_mem_bucketWidths rung
  · rcases natural_of_mem_bucketWidths greatest.1 with ⟨value, rfl⟩
    exact ⟨count * value, by rw [Nat.cast_mul]⟩

theorem idealWidth_eq (atLeast : 1 ≤ maxBuckets) :
    max 0 (rangeMs : ℚ) / max 1 (maxBuckets : ℚ) = rangeMs / maxBuckets := by
  have buckets : (1 : ℚ) ≤ maxBuckets := by exact_mod_cast atLeast
  rw [max_eq_right (Nat.cast_nonneg rangeMs), max_eq_right buckets]

theorem optimalWidth_resolveBucketWidthMs (atLeast : 1 ≤ maxBuckets)
    (positive : 1 ≤ sampleIntervalMs) :
    OptimalWidth rangeMs maxBuckets sampleIntervalMs
      (resolveBucketWidthMs rangeMs maxBuckets sampleIntervalMs) := by
  have interval : (0 : ℚ) < sampleIntervalMs := by exact_mod_cast positive
  have buckets : (0 : ℚ) < maxBuckets := by exact_mod_cast atLeast
  have climbed := isLeast_climb (ascending_rungsAbove sampleIntervalMs) interval
    (rangeMs / maxBuckets)
  rw [resolveBucketWidthMs_eq_climb, idealWidth_eq atLeast]
  generalize climb (sampleIntervalMs : ℚ) (rungsAbove sampleIntervalMs) (rangeMs / maxBuckets) =
    width at climbed
  have notSmaller : (sampleIntervalMs : ℚ) ≤ width := by
    rcases climbed.1.1 with rung | ⟨count, countPos, rfl⟩
    · rcases mem_rungsAbove.mp rung with rfl | ⟨_, larger⟩
      · exact le_refl _
      · exact le_of_lt larger
    · have top := le_topRung (ascending_rungsAbove sampleIntervalMs) List.mem_cons_self
      have one : (1 : ℚ) ≤ count := by exact_mod_cast countPos
      exact top.trans (le_mul_of_one_le_left (le_of_lt (interval.trans_le top)) one)
  have widthPos := interval.trans_le notSmaller
  refine ⟨?_, ?_, notSmaller, ?_⟩
  · simpa only [mem_steps_rungsAbove] using climbed
  · rcases natural_of_mem_steps climbed.1.1 with ⟨value, rfl⟩
    exact ⟨value, by exact_mod_cast widthPos, rfl⟩
  · have reaches := climbed.1.2
    rw [div_le_iff₀ buckets] at reaches
    rw [Int.ceil_le, div_le_iff₀ widthPos, Int.cast_natCast, mul_comm]
    exact reaches

theorem resolveBucketWidthMs_mono {wider : ℕ} (positive : 1 ≤ sampleIntervalMs)
    (below : rangeMs ≤ wider) :
    resolveBucketWidthMs rangeMs maxBuckets sampleIntervalMs ≤
      resolveBucketWidthMs wider maxBuckets sampleIntervalMs := by
  rw [resolveBucketWidthMs_eq_climb, resolveBucketWidthMs_eq_climb]
  apply climb_mono (ascending_rungsAbove sampleIntervalMs)
  · exact_mod_cast positive
  · gcongr

theorem resolveBucketWidthMs_antitone {more : ℕ} (positive : 1 ≤ sampleIntervalMs)
    (below : maxBuckets ≤ more) :
    resolveBucketWidthMs rangeMs more sampleIntervalMs ≤
      resolveBucketWidthMs rangeMs maxBuckets sampleIntervalMs := by
  rw [resolveBucketWidthMs_eq_climb, resolveBucketWidthMs_eq_climb]
  apply climb_mono (ascending_rungsAbove sampleIntervalMs)
  · exact_mod_cast positive
  · gcongr

/-- The width is the least that keeps the bound on the buckets, and it follows the range and the
bound. -/
theorem resolveBucketWidthMs_optimal (atLeast : 1 ≤ maxBuckets)
    (positive : 1 ≤ sampleIntervalMs) :
    OptimalWidth rangeMs maxBuckets sampleIntervalMs
        (resolveBucketWidthMs rangeMs maxBuckets sampleIntervalMs) ∧
      (∀ wider : ℕ, rangeMs ≤ wider →
        resolveBucketWidthMs rangeMs maxBuckets sampleIntervalMs ≤
          resolveBucketWidthMs wider maxBuckets sampleIntervalMs) ∧
      ∀ more : ℕ, maxBuckets ≤ more →
        resolveBucketWidthMs rangeMs more sampleIntervalMs ≤
          resolveBucketWidthMs rangeMs maxBuckets sampleIntervalMs := by
  refine ⟨optimalWidth_resolveBucketWidthMs atLeast positive, ?_, ?_⟩
  · intro wider below
    exact resolveBucketWidthMs_mono positive below
  · intro more below
    exact resolveBucketWidthMs_antitone positive below

end Natural

/-- Ten years in ten buckets take thirteen times the largest rung. -/
theorem resolveBucketWidthMs_optimal_of_tenYears :
    OptimalWidth 315360000000 10 60000
        (resolveBucketWidthMs (315360000000 : ℕ) 10 (60000 : ℕ)) ∧
      (∀ wider : ℕ, 315360000000 ≤ wider →
        resolveBucketWidthMs (315360000000 : ℕ) 10 (60000 : ℕ) ≤
          resolveBucketWidthMs wider 10 (60000 : ℕ)) ∧
      ∀ more : ℕ, 10 ≤ more →
        resolveBucketWidthMs (315360000000 : ℕ) more (60000 : ℕ) ≤
          resolveBucketWidthMs (315360000000 : ℕ) 10 (60000 : ℕ) :=
  resolveBucketWidthMs_optimal (by decide) (by decide)

end MeshcoreObserver
