import MeshcoreObserver.Metrics.StoreQueries
import Mathlib.Algebra.Order.Field.Basic
import Mathlib.Tactic.Linarith

/-!
# The packet history

The buckets of a window partition it: they lie on one grid, hold every sample of
the window in exactly one of them, and add up to the totals of the window. The
two grouped queries agree on the grid, because both compute the bucket of a
sample in the same way, and the first of them has a row for every sample.
-/

namespace MeshcoreObserver

open Counting Sqlite

section Width

variable {rangeMs sampleIntervalMs : ℚ} {maxBuckets : Nat}

theorem rung_pos (positive : 0 < sampleIntervalMs) {rung : ℚ}
    (rungMem : rung ∈ sampleIntervalMs ::
      bucketWidthLadderMs.filter fun rung => sampleIntervalMs < rung) : 0 < rung := by
  rcases List.mem_cons.mp rungMem with rfl | later
  · exact positive
  · have larger := of_decide_eq_true (List.mem_filter.mp later).2
    exact lt_trans positive larger

/-- A width is positive, and the buckets a query asks for cover its range. -/
theorem resolveBucketWidthMs_covers (positive : 0 < sampleIntervalMs) (atLeast : 1 ≤ maxBuckets) :
    0 < resolveBucketWidthMs rangeMs maxBuckets sampleIntervalMs ∧
      rangeMs ≤ maxBuckets * resolveBucketWidthMs rangeMs maxBuckets sampleIntervalMs := by
  have buckets : (1 : ℚ) ≤ maxBuckets := by exact_mod_cast atLeast
  have bucketsPos : (0 : ℚ) < maxBuckets := lt_of_lt_of_le one_pos buckets
  have safe : rangeMs ≤ max 0 rangeMs := le_max_right 0 rangeMs
  have covers : ∀ width : ℚ, max 0 rangeMs / max 1 (maxBuckets : ℚ) ≤ width →
      rangeMs ≤ maxBuckets * width := by
    intro width wide
    rw [max_eq_right buckets, div_le_iff₀ bucketsPos] at wide
    linarith
  simp only [resolveBucketWidthMs]
  split
  · rename_i rung found
    have wide := List.find?_some found
    rw [decide_eq_true_eq] at wide
    exact ⟨rung_pos positive (List.mem_of_find?_eq_some found), covers rung wide⟩
  · rename_i missing
    have tooSmall := List.find?_eq_none.mp missing
    generalize largest : ((bucketWidthLadderMs.filter fun rung => sampleIntervalMs < rung).getLast?
      |>.getD sampleIntervalMs) = largestRung
    have rungMem : largestRung ∈ sampleIntervalMs ::
        bucketWidthLadderMs.filter fun rung => sampleIntervalMs < rung := by
      subst largestRung
      cases last : (bucketWidthLadderMs.filter fun rung => sampleIntervalMs < rung).getLast? with
      | none => exact List.mem_cons_self
      | some rung => exact List.mem_cons_of_mem _ (List.mem_of_getLast? last)
    have largestPos := rung_pos positive rungMem
    have tooWide : largestRung < max 0 rangeMs / max 1 (maxBuckets : ℚ) := by
      have checked := tooSmall largestRung rungMem
      simpa using checked
    have wide : max 0 rangeMs / max 1 (maxBuckets : ℚ) ≤
        ⌈max 0 rangeMs / max 1 (maxBuckets : ℚ) / largestRung⌉ * largestRung := by
      rw [← div_le_iff₀ largestPos]
      exact Int.le_ceil _
    exact ⟨lt_of_lt_of_le (lt_trans largestPos tooWide) wide, covers _ wide⟩

end Width

section BucketIdx

variable {window : Window} {width : ℚ} {sample : SampleRow}

theorem bucketIdx_eq_floor (positive : 0 < width) (inWindow : window.contains sample.sampleAt) :
    bucketIdx window.start width sample = ⌊(sample.sampleAt - window.start) / width⌋ := by
  have bounds := Window.contains_iff.mp inWindow
  have nonneg : 0 ≤ ((sample.sampleAt : ℚ) - window.start) / width :=
    div_nonneg (sub_nonneg.mpr bounds.1) (le_of_lt positive)
  rw [bucketIdx, castToInteger, if_pos nonneg]

theorem bucketIdx_nonneg (positive : 0 < width) (inWindow : window.contains sample.sampleAt) :
    0 ≤ bucketIdx window.start width sample := by
  have bounds := Window.contains_iff.mp inWindow
  rw [bucketIdx_eq_floor positive inWindow, Int.floor_nonneg]
  exact div_nonneg (sub_nonneg.mpr bounds.1) (le_of_lt positive)

/-- The bucket of a sample is the one which contains its time. -/
theorem bucketIdx_eq_iff (positive : 0 < width) (inWindow : window.contains sample.sampleAt)
    (idx : Int) :
    bucketIdx window.start width sample = idx ↔
      window.start + idx * width ≤ sample.sampleAt ∧
        (sample.sampleAt : ℚ) < window.start + idx * width + width := by
  rw [bucketIdx_eq_floor positive inWindow, Int.floor_eq_iff, le_div_iff₀ positive,
    div_lt_iff₀ positive]
  constructor
  · rintro ⟨lower, upper⟩
    constructor
    · linarith
    · linarith
  · rintro ⟨lower, upper⟩
    constructor
    · linarith
    · linarith

end BucketIdx

section TotalsRows

variable {start width : ℚ} {samples : List SampleRow}

theorem perm_totalsRows (start width : ℚ) (samples : List SampleRow) :
    (totalsRows start width samples).Perm
      ((groupBy (bucketIdx start width) samples).map fun group =>
        (group.1, packetTotals group.2)) :=
  List.perm_insertionSort _ _

theorem nodup_totalsRows (start width : ℚ) (samples : List SampleRow) :
    ((totalsRows start width samples).map Prod.fst).Nodup := by
  rw [((perm_totalsRows start width samples).map Prod.fst).nodup_iff, List.map_map]
  exact nodup_groupBy _ samples

/-- The indices increase. -/
theorem pairwise_totalsRows (start width : ℚ) (samples : List SampleRow) :
    (totalsRows start width samples).Pairwise fun former later => former.1 < later.1 := by
  have total : Std.Total fun first second : Int × PacketTotals =>
      decide (first.1 ≤ second.1) = true := ⟨fun first second => by
    simp only [decide_eq_true_eq]
    omega⟩
  have transitive : IsTrans (Int × PacketTotals) fun first second =>
      decide (first.1 ≤ second.1) = true := ⟨fun first second third => by
    simp only [decide_eq_true_eq]
    omega⟩
  have sorted : (totalsRows start width samples).Pairwise fun former later =>
      decide (former.1 ≤ later.1) = true := List.pairwise_insertionSort _ _
  have apart := List.pairwise_map.mp (nodup_totalsRows start width samples)
  refine sorted.imp₂ ?_ apart
  intro former later ordered differ
  have bound := of_decide_eq_true ordered
  omega

/-- A row sums the samples of its bucket, of which there is one. -/
theorem totals_of_mem {row : Int × PacketTotals} (rowMem : row ∈ totalsRows start width samples) :
    row.2 = packetTotals (samples.filter fun sample => bucketIdx start width sample = row.1) ∧
      ∃ sample ∈ samples, bucketIdx start width sample = row.1 := by
  rw [(perm_totalsRows start width samples).mem_iff, List.mem_map] at rowMem
  rcases rowMem with ⟨group, groupMem, rfl⟩
  have members := mem_groupBy groupMem
  have listed := mem_keys_groupBy.mp (List.mem_map_of_mem groupMem)
  exact ⟨congrArg packetTotals members.1, listed⟩

theorem mem_keys_totalsRows {idx : Int} :
    idx ∈ (totalsRows start width samples).map Prod.fst ↔
      ∃ sample ∈ samples, bucketIdx start width sample = idx := by
  rw [((perm_totalsRows start width samples).map Prod.fst).mem_iff, List.map_map]
  exact mem_keys_groupBy

end TotalsRows

theorem foldlM_addTypeRow {types : List ((Int × Text) × Int)}
    {buckets : List (Int × PacketBucket)} (nodup : (buckets.map Prod.fst).Nodup)
    (listed : ∀ row ∈ types, row.1.1 ∈ buckets.map Prod.fst) :
    types.foldlM addTypeRow buckets =
      some (buckets.map fun entry =>
        (entry.1, (types.filter fun row => row.1.1 = entry.1).foldl PacketBucket.setType
          entry.2)) := by
  induction types generalizing buckets with
  | nil => simp
  | cons row types ih =>
      cases found : find? row.1.1 buckets with
      | none =>
          exact absurd (listed row List.mem_cons_self) (not_mem_of_find?_eq_none found)
      | some bucket =>
          have changed : update row.1.1 (fun _ => bucket.setType row) buckets =
              buckets.map fun entry =>
                (entry.1, if entry.1 = row.1.1 then entry.2.setType row else entry.2) := by
            apply update_eq_map nodup found
          have keys : (update row.1.1 (fun _ => bucket.setType row) buckets).map Prod.fst =
              buckets.map Prod.fst := by
            rw [changed, List.map_map]
            rfl
          have added : addTypeRow buckets row =
              some (update row.1.1 (fun _ => bucket.setType row) buckets) := by
            rw [addTypeRow, found, Option.map_some]
          rw [List.foldlM_cons, added]
          simp only [Option.bind_eq_bind, Option.bind_some]
          rw [ih (keys ▸ nodup) fun other later =>
            keys ▸ listed other (List.mem_cons_of_mem row later), changed, List.map_map]
          congr 1
          apply List.map_congr_left
          intro entry _
          by_cases own : row.1.1 = entry.1
          · simp [own]
          · have other : ¬entry.1 = row.1.1 := fun same => own same.symm
            simp [own, other]

/-- Types do not change what else a bucket says. -/
theorem setTypes_eq (rows : List ((Int × Text) × Int)) (bucket : PacketBucket) :
    rows.foldl PacketBucket.setType bucket =
      { bucket with
        countsByType := (rows.foldl PacketBucket.setType bucket).countsByType } := by
  induction rows generalizing bucket with
  | nil => rfl
  | cons row rows ih =>
      rw [List.foldl_cons, ih]
      rfl

theorem find?_setCount {key : Text} (named : key ≠ protoKey) (other : Text) (total : Int)
    (countsByType : List (Text × Int)) :
    find? key (setCount other total countsByType) =
      if key = other then some total else find? key countsByType := by
  rw [setCount]
  by_cases proto : other = protoKey
  · have differs : key ≠ other := fun same => named (same.trans proto)
    rw [if_pos proto, if_neg differs]
  · rw [if_neg proto, find?_update]

theorem find?_setTypes {key : Text} (named : key ≠ protoKey) {rows : List ((Int × Text) × Int)}
    (nodup : (rows.map fun row => row.1.2).Nodup) (bucket : PacketBucket) :
    find? key (rows.foldl PacketBucket.setType bucket).countsByType =
      (find? key (rows.map fun row => (row.1.2, row.2))).or (find? key bucket.countsByType) := by
  induction rows generalizing bucket with
  | nil => rfl
  | cons row rows ih =>
      simp only [List.map_cons, List.nodup_cons] at nodup
      rw [List.foldl_cons, ih nodup.2, List.map_cons, find?, PacketBucket.setType,
        find?_setCount named]
      by_cases own : row.1.2 = key
      · have absent : find? key (rows.map fun row => (row.1.2, row.2)) = none := by
          apply find?_of_absent
          rw [List.map_map, ← own]
          exact nodup.1
        rw [absent, if_pos own, if_pos own.symm]
        rfl
      · have differs : ¬key = row.1.2 := fun same => own same.symm
        rw [if_neg own, if_neg differs]

theorem find?_protoKey (rows : List ((Int × Text) × Int)) (bucket : PacketBucket) :
    find? protoKey (rows.foldl PacketBucket.setType bucket).countsByType =
      find? protoKey bucket.countsByType := by
  induction rows generalizing bucket with
  | nil => rfl
  | cons row rows ih =>
      rw [List.foldl_cons, ih, PacketBucket.setType, setCount]
      split
      · rfl
      · rename_i differs
        rw [find?_update, if_neg fun same => differs same.symm]

section History

variable {tables : StoreTables} {window : Window} {maxBuckets : Nat} {sampleIntervalMs : ℚ}

/-- The bucket of a row of the first query, with the types of its rows of the second. -/
def historyBucket (start width : ℚ) (types : List ((Int × Text) × Int))
    (row : Int × PacketTotals) : PacketBucket :=
  (types.filter fun other => other.1.1 = row.1).foldl PacketBucket.setType
    (newBucket start width row)

theorem historyBucket_eq (start width : ℚ) (types : List ((Int × Text) × Int))
    (row : Int × PacketTotals) :
    historyBucket start width types row =
      { newBucket start width row with
        countsByType := (historyBucket start width types row).countsByType } :=
  setTypes_eq _ _

theorem newBucket_lt {start width : ℚ} (positive : 0 < width) {former later : Int × PacketTotals}
    (ordered : former.1 < later.1) :
    (newBucket start width former).bucketStart < (newBucket start width later).bucketStart := by
  have indices : (former.1 : ℚ) < later.1 := by exact_mod_cast ordered
  have scaled := mul_lt_mul_of_pos_right indices positive
  simp only [newBucket]
  linarith

theorem mem_joinSamples {Row : Type} {sampleId : Row → Nat} {samples : List SampleRow}
    {rows : List Row} {joined : SampleRow × Row}
    (joinedMem : joined ∈ joinSamples sampleId samples rows) : joined.1 ∈ samples := by
  rw [joinSamples, List.mem_flatMap] at joinedMem
  rcases joinedMem with ⟨sample, sampleMem, pairMem⟩
  rcases List.mem_map.mp pairMem with ⟨_, _, rfl⟩
  exact sampleMem

theorem perm_typeRows (start width : ℚ) (rows : List (SampleRow × PacketTypeRow)) :
    (typeRows start width rows).Perm
      (sumBy (fun row => (bucketIdx start width row.1, row.2.packetTypeBucket))
        (fun row => row.2.count) rows) :=
  List.perm_insertionSort _ _

theorem nodup_typeRows (start width : ℚ) (rows : List (SampleRow × PacketTypeRow)) :
    ((typeRows start width rows).map Prod.fst).Nodup := by
  rw [((perm_typeRows start width rows).map Prod.fst).nodup_iff]
  exact nodup_sumBy _ _ rows

/-- Every row of the second query finds its bucket. -/
theorem listed_typeRows (width : ℚ) {row : (Int × Text) × Int}
    (rowMem : row ∈ typeRows window.start width (tables.packetTypesIn window)) :
    row.1.1 ∈ (totalsRows window.start width (tables.samplesIn window)).map Prod.fst := by
  have listed : row.1 ∈ (sumBy (fun row : SampleRow × PacketTypeRow =>
      (bucketIdx window.start width row.1, row.2.packetTypeBucket)) (fun row => row.2.count)
        (tables.packetTypesIn window)).map Prod.fst :=
    List.mem_map_of_mem ((perm_typeRows window.start width _).mem_iff.mp rowMem)
  rw [keys_sumBy, mem_keys_groupBy] at listed
  rcases listed with ⟨joined, joinedMem, key⟩
  exact mem_keys_totalsRows.mpr
    ⟨joined.1, mem_joinSamples joinedMem, congrArg Prod.fst key⟩

theorem queryPacketHistory_eq (positive : 0 < sampleIntervalMs) (atLeast : 1 ≤ maxBuckets) :
    ∃ width, 0 < width ∧ window.finish - window.start ≤ maxBuckets * width ∧
      tables.queryPacketHistory window maxBuckets sampleIntervalMs =
        some ((totalsRows window.start width (tables.samplesIn window)).map
          (historyBucket window.start width
            (typeRows window.start width (tables.packetTypesIn window)))) := by
  have covers : 0 < resolveBucketWidthMs (window.finish - window.start) maxBuckets
        sampleIntervalMs ∧ _ := resolveBucketWidthMs_covers positive atLeast
  refine ⟨_, covers.1, covers.2, ?_⟩
  simp only [StoreTables.queryPacketHistory]
  generalize resolveBucketWidthMs (window.finish - window.start) maxBuckets sampleIntervalMs =
    width at covers
  have loop := foldl_update_of_nodup Prod.fst (newBucket window.start width)
    (nodup_totalsRows window.start width (tables.samplesIn window))
  rw [loop, foldlM_addTypeRow]
  · rw [Option.map_some, List.map_map, List.map_map]
    congr 1
    apply List.Pairwise.insertionSort_eq
    rw [List.pairwise_map]
    refine (pairwise_totalsRows window.start width _).imp ?_
    intro former later ordered
    change decide ((historyBucket window.start width _ former).bucketStart ≤
      (historyBucket window.start width _ later).bucketStart) = true
    rw [decide_eq_true_eq, historyBucket_eq, historyBucket_eq _ _ _ later]
    exact le_of_lt (newBucket_lt covers.1 ordered)
  · rw [List.map_map]
    exact nodup_totalsRows window.start width _
  · intro row rowMem
    rw [List.map_map]
    exact listed_typeRows width rowMem

/-- The bucket holds the time of the sample. -/
def PacketBucket.holds (bucket : PacketBucket) (sample : SampleRow) : Bool :=
  bucket.bucketStart ≤ (sample.sampleAt : ℚ) &&
    (sample.sampleAt : ℚ) < bucket.bucketStart + bucket.bucketWidthMs

/-- The buckets of a window partition it and its counts. -/
structure CompleteHistory (tables : StoreTables) (window : Window) (maxBuckets : Nat)
    (buckets : List PacketBucket) : Prop where
  grid : ∃ width : ℚ, 0 < width ∧ ∀ bucket ∈ buckets,
    bucket.bucketWidthMs = width ∧ ∃ k : Nat, bucket.bucketStart = window.start + k * width
  increasing : buckets.Pairwise fun former later => former.bucketStart < later.bucketStart
  disjoint : buckets.Pairwise fun former later =>
    former.bucketStart + former.bucketWidthMs ≤ later.bucketStart
  populated : ∀ bucket ∈ buckets, ∃ sample ∈ tables.samplesIn window, bucket.holds sample
  atMost : buckets.length ≤ maxBuckets
  beforeEnd : ∀ bucket ∈ buckets, bucket.bucketStart < window.finish
  inOne : ∀ sample ∈ tables.samplesIn window, ∃! bucket, bucket ∈ buckets ∧ bucket.holds sample
  counted : ∀ bucket ∈ buckets,
    (⟨bucket.packetsReceived, bucket.packetsDecoded⟩ : PacketTotals) =
      packetTotals ((tables.samplesIn window).filter bucket.holds)
  typesCounted : ∀ bucket ∈ buckets, ∀ key,
    count key bucket.countsByType =
      (((tables.packetTypesIn window).filter fun row =>
        bucket.holds row.1 && row.2.packetTypeBucket = key).map fun row => row.2.count).sum
  received : (buckets.map fun bucket => bucket.packetsReceived).sum =
    (tables.queryPacketTotals window).received
  decoded : (buckets.map fun bucket => bucket.packetsDecoded).sum =
    (tables.queryPacketTotals window).decoded
  types : ∀ key,
    (buckets.map fun bucket => count key bucket.countsByType).sum =
      count key (tables.queryPacketTypeTotals window)

theorem inWindow_of_mem {sample : SampleRow} (sampleMem : sample ∈ tables.samplesIn window) :
    window.contains sample.sampleAt :=
  (List.mem_filter.mp sampleMem).2

section Buckets

variable {width : ℚ} {types : List ((Int × Text) × Int)} {row : Int × PacketTotals}

theorem holds_iff (positive : 0 < width) {sample : SampleRow}
    (sampleMem : sample ∈ tables.samplesIn window) :
    (historyBucket window.start width types row).holds sample = true ↔
      bucketIdx window.start width sample = row.1 := by
  rw [bucketIdx_eq_iff positive (inWindow_of_mem sampleMem), historyBucket_eq,
    PacketBucket.holds, Bool.and_eq_true, decide_eq_true_eq, decide_eq_true_eq]
  rfl

theorem filter_holds (positive : 0 < width) :
    (tables.samplesIn window).filter (historyBucket window.start width types row).holds =
      (tables.samplesIn window).filter fun sample =>
        bucketIdx window.start width sample = row.1 := by
  apply List.filter_congr
  intro sample sampleMem
  rw [Bool.eq_iff_iff, holds_iff positive sampleMem, decide_eq_true_iff]

/-- A row has a sample, whose time lies in its bucket and in the window. -/
theorem start_le_of_mem (positive : 0 < width)
    (rowMem : row ∈ totalsRows window.start width (tables.samplesIn window)) :
    ∃ sample ∈ tables.samplesIn window, bucketIdx window.start width sample = row.1 ∧
      window.start + row.1 * width ≤ sample.sampleAt ∧
      (sample.sampleAt : ℚ) < window.finish := by
  rcases (totals_of_mem rowMem).2 with ⟨sample, sampleMem, idx⟩
  have inWindow := inWindow_of_mem sampleMem
  have bounds := (bucketIdx_eq_iff positive inWindow row.1).mp idx
  exact ⟨sample, sampleMem, idx, bounds.1, (Window.contains_iff.mp inWindow).2⟩

theorem idx_nonneg (positive : 0 < width)
    (rowMem : row ∈ totalsRows window.start width (tables.samplesIn window)) : 0 ≤ row.1 := by
  rcases (totals_of_mem rowMem).2 with ⟨sample, sampleMem, idx⟩
  rw [← idx]
  exact bucketIdx_nonneg positive (inWindow_of_mem sampleMem)

theorem idx_lt (positive : 0 < width)
    (covers : window.finish - window.start ≤ maxBuckets * width)
    (rowMem : row ∈ totalsRows window.start width (tables.samplesIn window)) :
    row.1 < maxBuckets := by
  rcases start_le_of_mem positive rowMem with ⟨sample, _, _, lower, upper⟩
  have scaled : (row.1 : ℚ) * width < maxBuckets * width := by linarith
  have bound := lt_of_mul_lt_mul_right scaled (le_of_lt positive)
  exact_mod_cast bound

theorem length_totalsRows (positive : 0 < width)
    (covers : window.finish - window.start ≤ maxBuckets * width) :
    (totalsRows window.start width (tables.samplesIn window)).length ≤ maxBuckets := by
  have nodup : ((totalsRows window.start width (tables.samplesIn window)).map
      fun row => row.1.toNat).Nodup := by
    rw [List.nodup_iff_pairwise_ne, List.pairwise_map]
    refine (pairwise_totalsRows window.start width _).imp_of_mem ?_
    intro former later formerMem laterMem ordered same
    have formerNonneg := idx_nonneg positive formerMem
    have laterNonneg := idx_nonneg positive laterMem
    omega
  have included : ((totalsRows window.start width (tables.samplesIn window)).map
      fun row => row.1.toNat) ⊆ List.range maxBuckets := by
    intro idx idxMem
    rcases List.mem_map.mp idxMem with ⟨row, rowMem, rfl⟩
    have nonneg := idx_nonneg positive rowMem
    have bound := idx_lt positive covers rowMem
    rw [List.mem_range]
    omega
  have bound := (List.subperm_of_subset nodup included).length_le
  rwa [List.length_map, List.length_range] at bound

/-- The count of a type in a bucket is that of its row of the second query. -/
theorem count_historyBucket {key : Text} (named : key ≠ protoKey)
    (nodup : (types.map Prod.fst).Nodup) :
    count key (historyBucket window.start width types row).countsByType =
      count (row.1, key) types := by
  rw [count, historyBucket, find?_setTypes named (nodup_filter_fst nodup), find?_filter_fst]
  simp only [newBucket, find?, Option.or_none, count]

/-- A sum over joined rows, sample by sample. -/
theorem sum_joinSamples {Row : Type} (sampleId : Row → Nat) (samples : List SampleRow)
    (rows : List Row) (ofSample : SampleRow → Bool) (ofRow : Row → Bool) (amount : Row → Int) :
    (((joinSamples sampleId samples rows).filter fun joined =>
        ofSample joined.1 && ofRow joined.2).map fun joined => amount joined.2).sum =
      ((samples.filter ofSample).map fun sample =>
        (((rows.filter fun row => sampleId row = sample.id).filter ofRow).map amount).sum).sum := by
  induction samples with
  | nil => rfl
  | cons sample samples ih =>
      simp only [joinSamples] at ih
      simp only [joinSamples, List.flatMap_cons, List.filter_append, List.map_append,
        List.sum_append, ih, List.filter_map, List.map_map]
      by_cases selected : ofSample sample = true
      · simp [selected, Function.comp_def]
      · simp [selected, Function.comp_def]

theorem count_typeRows (key : Text) (row : Int × PacketTotals) :
    count (row.1, key) (typeRows window.start width (tables.packetTypesIn window)) =
      (((tables.packetTypesIn window).filter fun joined =>
        decide (bucketIdx window.start width joined.1 = row.1) &&
          decide (joined.2.packetTypeBucket = key)).map fun joined => joined.2.count).sum := by
  have same := count_sumBy (fun joined : SampleRow × PacketTypeRow =>
      (bucketIdx window.start width joined.1, joined.2.packetTypeBucket))
    (fun joined => joined.2.count) (tables.packetTypesIn window) (row.1, key)
  rw [count] at same ⊢
  rw [find?_perm (nodup_typeRows window.start width _) (perm_typeRows window.start width _), same]
  congr 2
  apply List.filter_congr
  intro joined _
  rw [Bool.eq_iff_iff, Bool.and_eq_true, decide_eq_true_eq, decide_eq_true_eq,
    decide_eq_true_eq, Prod.mk.injEq]

theorem mem_packetTypes_of_joined {joined : SampleRow × PacketTypeRow}
    (joinedMem : joined ∈ tables.packetTypesIn window) : joined.2 ∈ tables.packetTypes := by
  rw [StoreTables.packetTypesIn, joinSamples, List.mem_flatMap] at joinedMem
  rcases joinedMem with ⟨sample, _, pairMem⟩
  rcases List.mem_map.mp pairMem with ⟨other, otherMem, rfl⟩
  exact List.mem_of_mem_filter otherMem

/-- The count of a type in a bucket is that of the rows of its samples. -/
theorem count_of_row (named : ∀ row ∈ tables.packetTypes, row.packetTypeBucket ≠ protoKey)
    (key : Text) (row : Int × PacketTotals) :
    count key (historyBucket window.start width
        (typeRows window.start width (tables.packetTypesIn window)) row).countsByType =
      (((tables.packetTypesIn window).filter fun joined =>
        decide (bucketIdx window.start width joined.1 = row.1) &&
          decide (joined.2.packetTypeBucket = key)).map fun joined => joined.2.count).sum := by
  by_cases proto : key = protoKey
  · have none : (tables.packetTypesIn window).filter (fun joined =>
        decide (bucketIdx window.start width joined.1 = row.1) &&
          decide (joined.2.packetTypeBucket = key)) = [] := by
      rw [List.filter_eq_nil_iff]
      intro joined joinedMem
      have differs := named joined.2 (mem_packetTypes_of_joined joinedMem)
      simp [proto, differs]
    rw [none, proto, count, historyBucket, find?_protoKey]
    rfl
  · rw [count_historyBucket proto (nodup_typeRows window.start width _), count_typeRows]

theorem count_queryPacketTypeTotals (key : Text) :
    count key (tables.queryPacketTypeTotals window) =
      (((tables.packetTypesIn window).filter fun joined =>
        joined.2.packetTypeBucket = key).map fun joined => joined.2.count).sum := by
  have permuted : (tables.queryPacketTypeTotals window).Perm
      (sumBy (fun joined : SampleRow × PacketTypeRow => joined.2.packetTypeBucket)
        (fun joined => joined.2.count) (tables.packetTypesIn window)) :=
    List.perm_insertionSort _ _
  have nodup : ((tables.queryPacketTypeTotals window).map Prod.fst).Nodup := by
    rw [(permuted.map Prod.fst).nodup_iff]
    exact nodup_sumBy _ _ _
  have same := count_sumBy (fun joined : SampleRow × PacketTypeRow => joined.2.packetTypeBucket)
    (fun joined => joined.2.count) (tables.packetTypesIn window) key
  rw [count] at same ⊢
  rw [find?_perm nodup permuted, same]

/-- A sum over the rows of the first query is one over the samples. -/
theorem sum_totalsRows (amount : SampleRow → Int) (value : Int × PacketTotals → Int)
    (sums : ∀ row ∈ totalsRows window.start width (tables.samplesIn window),
      value row = (((tables.samplesIn window).filter fun sample =>
        bucketIdx window.start width sample = row.1).map amount).sum) :
    ((totalsRows window.start width (tables.samplesIn window)).map value).sum =
      ((tables.samplesIn window).map amount).sum := by
  have permuted := perm_totalsRows window.start width (tables.samplesIn window)
  rw [(permuted.map value).sum_eq, List.map_map,
    ← sum_groupBy (bucketIdx window.start width) amount (tables.samplesIn window)]
  congr 1
  apply List.map_congr_left
  intro group groupMem
  have members := (mem_groupBy groupMem).1
  have rowMem : (group.1, packetTotals group.2) ∈
      totalsRows window.start width (tables.samplesIn window) :=
    permuted.mem_iff.mpr (List.mem_map.mpr ⟨group, groupMem, rfl⟩)
  rw [Function.comp_apply, sums _ rowMem, members]

end Buckets

section Complete

variable (tables window)

/-- The buckets of the result, on a grid of some width. -/
def historyBuckets (width : ℚ) : List PacketBucket :=
  (totalsRows window.start width (tables.samplesIn window)).map
    (historyBucket window.start width
      (typeRows window.start width (tables.packetTypesIn window)))

variable {tables window} {width : ℚ}

theorem counted_of_mem (positive : 0 < width) {bucket : PacketBucket}
    (bucketMem : bucket ∈ historyBuckets tables window width) :
    (⟨bucket.packetsReceived, bucket.packetsDecoded⟩ : PacketTotals) =
      packetTotals ((tables.samplesIn window).filter bucket.holds) := by
  rcases List.mem_map.mp bucketMem with ⟨row, rowMem, rfl⟩
  rw [filter_holds positive, ← (totals_of_mem rowMem).1, historyBucket_eq]
  rfl

theorem typesCounted_of_mem (positive : 0 < width) {bucket : PacketBucket}
    (bucketMem : bucket ∈ historyBuckets tables window width)
    (named : ∀ row ∈ tables.packetTypes, row.packetTypeBucket ≠ protoKey) (key : Text) :
    count key bucket.countsByType =
      (((tables.packetTypesIn window).filter fun row =>
        bucket.holds row.1 && row.2.packetTypeBucket = key).map fun row => row.2.count).sum := by
  rcases List.mem_map.mp bucketMem with ⟨row, rowMem, rfl⟩
  rw [count_of_row named]
  congr 2
  apply List.filter_congr
  intro joined joinedMem
  rw [Bool.eq_iff_iff, Bool.and_eq_true, Bool.and_eq_true,
    holds_iff positive (mem_joinSamples joinedMem), decide_eq_true_eq]

theorem inOne_of_mem (positive : 0 < width) {sample : SampleRow}
    (sampleMem : sample ∈ tables.samplesIn window) :
    ∃! bucket, bucket ∈ historyBuckets tables window width ∧ bucket.holds sample := by
  have listed : bucketIdx window.start width sample ∈
      (totalsRows window.start width (tables.samplesIn window)).map Prod.fst :=
    mem_keys_totalsRows.mpr ⟨sample, sampleMem, rfl⟩
  rcases List.mem_map.mp listed with ⟨row, rowMem, idx⟩
  refine ⟨_, ⟨List.mem_map_of_mem rowMem, (holds_iff positive sampleMem).mpr idx.symm⟩, ?_⟩
  rintro other ⟨otherMem, held⟩
  rcases List.mem_map.mp otherMem with ⟨otherRow, otherRowMem, rfl⟩
  have otherIdx := (holds_iff positive sampleMem).mp held
  have same := List.inj_on_of_nodup_map (nodup_totalsRows window.start width _) otherRowMem
    rowMem (otherIdx.symm.trans idx.symm)
  rw [same]

theorem received_historyBuckets :
    ((historyBuckets tables window width).map fun bucket => bucket.packetsReceived).sum =
      (tables.queryPacketTotals window).received := by
  rw [historyBuckets, List.map_map]
  apply sum_totalsRows
  intro row rowMem
  rw [Function.comp_apply, historyBucket_eq]
  exact congrArg PacketTotals.received (totals_of_mem rowMem).1

theorem decoded_historyBuckets :
    ((historyBuckets tables window width).map fun bucket => bucket.packetsDecoded).sum =
      (tables.queryPacketTotals window).decoded := by
  rw [historyBuckets, List.map_map]
  apply sum_totalsRows
  intro row rowMem
  rw [Function.comp_apply, historyBucket_eq]
  exact congrArg PacketTotals.decoded (totals_of_mem rowMem).1

theorem types_historyBuckets
    (named : ∀ row ∈ tables.packetTypes, row.packetTypeBucket ≠ protoKey) (key : Text) :
    ((historyBuckets tables window width).map fun bucket => count key bucket.countsByType).sum =
      count key (tables.queryPacketTypeTotals window) := by
  have whole := sum_joinSamples PacketTypeRow.sampleId (tables.samplesIn window)
    tables.packetTypes (fun _ => true) (fun row => row.packetTypeBucket = key)
    PacketTypeRow.count
  simp only [Bool.true_and, List.filter_true] at whole
  rw [count_queryPacketTypeTotals, StoreTables.packetTypesIn, whole, historyBuckets,
    List.map_map]
  apply sum_totalsRows
  intro row rowMem
  rw [Function.comp_apply, count_of_row named]
  exact sum_joinSamples PacketTypeRow.sampleId (tables.samplesIn window) tables.packetTypes
    (fun sample => bucketIdx window.start width sample = row.1)
    (fun row => row.packetTypeBucket = key) PacketTypeRow.count

theorem complete_historyBuckets (positive : 0 < width)
    (named : ∀ row ∈ tables.packetTypes, row.packetTypeBucket ≠ protoKey)
    (covers : window.finish - window.start ≤ maxBuckets * width) :
    CompleteHistory tables window maxBuckets (historyBuckets tables window width) where
  grid := by
    refine ⟨width, positive, ?_⟩
    intro bucket bucketMem
    rcases List.mem_map.mp bucketMem with ⟨row, rowMem, rfl⟩
    have nonneg := idx_nonneg positive rowMem
    rw [historyBucket_eq]
    refine ⟨rfl, row.1.toNat, ?_⟩
    have same : ((row.1.toNat : Int) : ℚ) = row.1 := by
      rw [Int.toNat_of_nonneg nonneg]
    rw [← Int.cast_natCast, same]
    rfl
  increasing := by
    rw [historyBuckets, List.pairwise_map]
    refine (pairwise_totalsRows window.start width _).imp ?_
    intro former later ordered
    rw [historyBucket_eq, historyBucket_eq _ _ _ later]
    exact newBucket_lt positive ordered
  disjoint := by
    rw [historyBuckets, List.pairwise_map]
    refine (pairwise_totalsRows window.start width _).imp ?_
    intro former later ordered
    rw [historyBucket_eq, historyBucket_eq _ _ _ later]
    have indices : (former.1 : ℚ) + 1 ≤ later.1 := by exact_mod_cast ordered
    have scaled := mul_le_mul_of_nonneg_right indices (le_of_lt positive)
    simp only [newBucket]
    linarith
  populated := by
    intro bucket bucketMem
    rcases List.mem_map.mp bucketMem with ⟨row, rowMem, rfl⟩
    rcases start_le_of_mem positive rowMem with ⟨sample, sampleMem, idx, _, _⟩
    exact ⟨sample, sampleMem, (holds_iff positive sampleMem).mpr idx⟩
  atMost := by
    rw [historyBuckets, List.length_map]
    exact length_totalsRows positive covers
  beforeEnd := by
    intro bucket bucketMem
    rcases List.mem_map.mp bucketMem with ⟨row, rowMem, rfl⟩
    rcases start_le_of_mem positive rowMem with ⟨sample, _, _, lower, upper⟩
    rw [historyBucket_eq]
    exact lt_of_le_of_lt lower upper
  inOne := fun _ sampleMem => inOne_of_mem positive sampleMem
  counted := fun _ bucketMem => counted_of_mem positive bucketMem
  typesCounted := fun _ bucketMem => typesCounted_of_mem positive bucketMem named
  received := received_historyBuckets
  decoded := decoded_historyBuckets
  types := types_historyBuckets named

end Complete

/-- The history of a window loses no sample and counts none twice. The names of the types are those
of the sampler, none of which an object refuses. -/
theorem packet_history_complete (tables : StoreTables) (window : Window) {maxBuckets : Nat}
    {sampleIntervalMs : ℚ} (positive : 0 < sampleIntervalMs) (atLeast : 1 ≤ maxBuckets)
    (named : ∀ row ∈ tables.packetTypes, row.packetTypeBucket ≠ protoKey) :
    ∃ buckets, tables.queryPacketHistory window maxBuckets sampleIntervalMs = some buckets ∧
      CompleteHistory tables window maxBuckets buckets := by
  rcases queryPacketHistory_eq positive atLeast with ⟨width, widthPos, covers, history⟩
  exact ⟨_, history, complete_historyBuckets widthPos named covers⟩

end History

/-- Three samples, the last two of them on the bounds of a bucket of one minute. -/
def threeSamples : StoreTables where
  samples := [(1, 30000), (2, 60000), (3, 119999)].map fun (id, sampleAt) =>
    { id, sampleAt, intervalMs := 60000, packetsReceived := 5, packetsDecoded := 4
      radioConnected := true, brokersConnected := 1, brokersTotal := 1, botsReady := 0
      botsTotal := 0, replyQueueSize := 0 }
  packetTypes := [{ sampleId := 1, packetTypeBucket := ['a', 'c', 'k'], count := 4 },
    { sampleId := 3, packetTypeBucket := ['a', 'c', 'k'], count := 2 },
    { sampleId := 3, packetTypeBucket := ['p', 'a', 't', 'h'], count := 2 }]
  brokerDeliveries := []
  botReplies := []
  nodes := []
  floodAdvertState := .new

theorem packet_history_complete_of_three :
    ∃ buckets, threeSamples.queryPacketHistory { start := 0, finish := 120000 } 2 60000 =
        some buckets ∧
      CompleteHistory threeSamples { start := 0, finish := 120000 } 2 buckets := by
  apply packet_history_complete
  · norm_num
  · decide
  · decide

example : (threeSamples.queryPacketHistory { start := 0, finish := 120000 } 2 60000).map
    (List.map PacketBucket.packetsReceived) = some [5, 10] := by
  decide +kernel

end MeshcoreObserver
