import MeshcoreObserver.Counting.Counts
import Mathlib.Algebra.Order.BigOperators.Group.List
import Mathlib.Algebra.Order.Group.Int

/-!
# GROUP BY

The groups of a query by a key, in the order in which the keys first occur, and
the sums over them. A group holds the rows of its key, none of the groups is
empty, and no row is lost or counted twice. The rows of disjoint selections are
those of the selection of both.
-/

namespace Sqlite

open Counting

universe u v

variable {Key : Type u} {Row : Type v} [DecidableEq Key]

def groupBy (key : Row → Key) (rows : List Row) : List (Key × List Row) :=
  rows.foldl
    (fun groups row => update (key row) (fun group => group.getD [] ++ [row]) groups) []

/-- `SELECT key, SUM(amount) … GROUP BY key`. -/
def sumBy (key : Row → Key) (amount : Row → Int) (rows : List Row) : List (Key × Int) :=
  (groupBy key rows).map fun group => (group.1, (group.2.map amount).sum)

theorem foldl_append_some (rows former : List Row) :
    rows.foldl (fun group row => some (group.getD [] ++ [row])) (some former) =
      some (former ++ rows) := by
  induction rows generalizing former with
  | nil => rw [List.foldl_nil, List.append_nil]
  | cons row rows ih =>
      rw [List.foldl_cons, Option.getD_some, ih, List.append_assoc, List.singleton_append]

theorem find?_groupBy (key : Row → Key) (rows : List Row) (group : Key) :
    find? group (groupBy key rows) =
      if rows.filter (fun row => key row = group) = [] then none
      else some (rows.filter fun row => key row = group) := by
  rw [groupBy, find?_foldl_update key fun row group => group.getD [] ++ [row]]
  cases rows.filter fun row => key row = group with
  | nil => rfl
  | cons row rows =>
      rw [find?, List.foldl_cons, Option.getD_none, List.nil_append, foldl_append_some,
        if_neg (List.cons_ne_nil row rows), List.singleton_append]

theorem nodup_groupBy (key : Row → Key) (rows : List Row) :
    ((groupBy key rows).map Prod.fst).Nodup := by
  have kept : ∀ groups : List (Key × List Row), (groups.map Prod.fst).Nodup →
      ((rows.foldl (fun groups row =>
        update (key row) (fun group => group.getD [] ++ [row]) groups) groups).map
          Prod.fst).Nodup := by
    induction rows with
    | nil =>
        intro groups nodup
        exact nodup
    | cons row rows ih =>
        intro groups nodup
        exact ih _ (nodup_update nodup)
  exact kept [] List.nodup_nil

theorem mem_groupBy {key : Row → Key} {rows : List Row} {group : Key × List Row}
    (groupMem : group ∈ groupBy key rows) :
    group.2 = rows.filter (fun row => key row = group.1) ∧ group.2 ≠ [] := by
  have found := find?_eq_some_of_mem (nodup_groupBy key rows) groupMem
  rw [find?_groupBy] at found
  split at found
  · cases found
  · rename_i nonempty
    have members := Option.some.inj found
    rw [← members]
    exact ⟨rfl, nonempty⟩

theorem mem_keys_groupBy {key : Row → Key} {rows : List Row} {group : Key} :
    group ∈ (groupBy key rows).map Prod.fst ↔ ∃ row ∈ rows, key row = group := by
  constructor
  · intro listed
    rcases List.mem_map.mp listed with ⟨entry, entryMem, rfl⟩
    rcases mem_groupBy entryMem with ⟨members, nonempty⟩
    rcases List.exists_mem_of_ne_nil entry.2 nonempty with ⟨row, rowMem⟩
    rw [members, List.mem_filter, decide_eq_true_eq] at rowMem
    exact ⟨row, rowMem⟩
  · rintro ⟨row, rowMem, rfl⟩
    by_contra absent
    have missing := find?_of_absent absent
    rw [find?_groupBy] at missing
    split at missing
    · rename_i empty
      have member : row ∈ rows.filter fun other => key other = key row :=
        List.mem_filter.mpr ⟨rowMem, decide_eq_true rfl⟩
      rw [empty] at member
      cases member
    · cases missing

/-- The sum over the groups is the sum over the rows. -/
theorem sum_groupBy (key : Row → Key) (amount : Row → Int) (rows : List Row) :
    ((groupBy key rows).map fun group => (group.2.map amount).sum).sum =
      (rows.map amount).sum := by
  have accumulated : ∀ groups : List (Key × List Row),
      ((rows.foldl (fun groups row =>
        update (key row) (fun group => group.getD [] ++ [row]) groups) groups).map
          fun group => (group.2.map amount).sum).sum =
        (groups.map fun group => (group.2.map amount).sum).sum + (rows.map amount).sum := by
    induction rows with
    | nil =>
        intro groups
        simp only [List.foldl_nil, List.map_nil, List.sum_nil, Int.add_zero]
    | cons row rows ih =>
        intro groups
        have updated := sum_update (fun members : List Row => (members.map amount).sum) (key row)
          (fun group => group.getD [] ++ [row]) groups
        rw [List.foldl_cons, ih, List.map_cons, List.sum_cons]
        cases found : find? (key row) groups with
        | none =>
            simp only [found, Option.map_none, Option.getD_none, List.nil_append, List.map_cons,
              List.map_nil, List.sum_cons, List.sum_nil] at updated
            omega
        | some members =>
            simp only [found, Option.map_some, Option.getD_some, List.map_append, List.map_cons,
              List.map_nil, List.sum_append, List.sum_cons, List.sum_nil] at updated
            omega
  rw [groupBy, accumulated]
  exact Int.zero_add _

theorem keys_sumBy (key : Row → Key) (amount : Row → Int) (rows : List Row) :
    (sumBy key amount rows).map Prod.fst = (groupBy key rows).map Prod.fst := by
  rw [sumBy, List.map_map]
  rfl

theorem nodup_sumBy (key : Row → Key) (amount : Row → Int) (rows : List Row) :
    ((sumBy key amount rows).map Prod.fst).Nodup := by
  rw [keys_sumBy]
  exact nodup_groupBy key rows

theorem count_sumBy (key : Row → Key) (amount : Row → Int) (rows : List Row) (group : Key) :
    count group (sumBy key amount rows) =
      ((rows.filter fun row => key row = group).map amount).sum := by
  rw [count, sumBy, find?_map_values fun members : List Row => (members.map amount).sum,
    find?_groupBy]
  split
  · rename_i empty
    rw [empty]
    rfl
  · rfl

/-- Sums over the groups of rows with positive amounts. -/
theorem pos_of_mem_sumBy {key : Row → Key} {amount : Row → Int} {rows : List Row}
    (positive : ∀ row ∈ rows, 0 < amount row) : ∀ entry ∈ sumBy key amount rows, 0 < entry.2 := by
  intro entry entryMem
  rcases List.mem_map.mp entryMem with ⟨group, groupMem, rfl⟩
  rcases mem_groupBy groupMem with ⟨members, nonempty⟩
  apply List.sum_pos
  · intro value valueMem
    rcases List.mem_map.mp valueMem with ⟨row, rowMem, rfl⟩
    rw [members] at rowMem
    exact positive row (List.mem_of_mem_filter rowMem)
  · exact mt List.map_eq_nil_iff.mp nonempty

section Selections

/-- The rows of two disjoint selections are those of the selection of both. -/
theorem perm_filter_append {first second whole : Row → Bool} {rows : List Row}
    (both : ∀ row ∈ rows, whole row = true ↔ (first row = true ∨ second row = true))
    (apart : ∀ row ∈ rows, first row = true → second row = false) :
    (rows.filter first ++ rows.filter second).Perm (rows.filter whole) := by
  have split := List.filter_append_perm first (rows.filter whole)
  have firstOnly : (rows.filter whole).filter first = rows.filter first := by
    rw [List.filter_filter]
    apply List.filter_congr
    intro row rowMem
    cases selected : first row with
    | false => rfl
    | true => rw [(both row rowMem).mpr (Or.inl selected), Bool.and_self]
  have secondOnly : ((rows.filter whole).filter fun row => !first row) =
      rows.filter second := by
    rw [List.filter_filter]
    apply List.filter_congr
    intro row rowMem
    have either := both row rowMem
    cases selected : first row with
    | false =>
        rw [selected] at either
        rw [Bool.not_false, Bool.true_and, Bool.eq_iff_iff, either]
        simp
    | true =>
        rw [apart row rowMem selected]
        rfl
  rwa [firstOnly, secondOnly] at split

/-- The rows with one of some keys, key by key. -/
theorem sum_length_filter (key : Row → Key) (rows : List Row) {keys : List Key}
    (nodup : keys.Nodup) :
    (keys.map fun group => ((rows.filter fun row => key row = group).length : Int)).sum =
      (rows.filter fun row => key row ∈ keys).length := by
  induction keys with
  | nil => simp
  | cons first keys ih =>
      rcases List.nodup_cons.mp nodup with ⟨fresh, rest⟩
      have together : ((rows.filter fun row => key row = first) ++
          rows.filter fun row => key row ∈ keys).Perm
            (rows.filter fun row => key row ∈ first :: keys) := by
        apply perm_filter_append
        · intro row _
          simp only [decide_eq_true_eq, List.mem_cons]
        · intro row _ own
          rw [decide_eq_true_eq] at own
          rw [own]
          exact decide_eq_false fresh
      have lengths := together.length_eq
      have later := ih rest
      rw [List.length_append] at lengths
      rw [List.map_cons, List.sum_cons]
      omega

theorem length_filter_eq_iff (selects : Row → Bool) (rows : List Row) :
    (rows.filter selects).length = rows.length ↔ ∀ row ∈ rows, selects row := by
  constructor
  · intro same
    exact List.filter_eq_self.mp (List.filter_sublist.eq_of_length same)
  · intro all
    rw [List.filter_eq_self.mpr all]

end Selections

end Sqlite
