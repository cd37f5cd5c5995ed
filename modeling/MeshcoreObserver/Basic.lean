import Mathlib.Data.List.Basic
import Mathlib.Data.List.Nodup

/-!
# Promise outcomes and rows of tables

Clock readings are integers throughout: what `Date.now()` returns, in
milliseconds since the epoch.
-/

namespace MeshcoreObserver

inductive Outcome where
  | resolved
  | rejected
  deriving DecidableEq, Repr

section Rows

universe u v

variable {Row : Type u} {Key : Type v}

/-- The number after the largest one in use is larger than all of them. -/
theorem lt_largest_succ (number : Row → Nat) {rows : List Row} {row : Row} (rowMem : row ∈ rows) :
    number row < rows.foldr (fun row largest => max (number row) largest) 0 + 1 := by
  induction rows with
  | nil => simp at rowMem
  | cons first rest ih =>
      simp only [List.foldr_cons]
      rcases List.mem_cons.mp rowMem with rfl | later
      · omega
      · have := ih later
        omega

/-- A row with a new key keeps the keys apart. -/
theorem nodup_map_concat (key : Row → Key) {rows : List Row} {row : Row}
    (nodup : (rows.map key).Nodup) (fresh : ∀ other ∈ rows, key other ≠ key row) :
    ((rows ++ [row]).map key).Nodup := by
  rw [List.map_append]
  refine List.nodup_append.mpr ⟨nodup, List.nodup_singleton _, ?_⟩
  intro taken takenMem added addedMem
  rcases List.mem_map.mp takenMem with ⟨other, otherMem, rfl⟩
  rw [List.map_singleton, List.mem_singleton] at addedMem
  rw [addedMem]
  exact fresh other otherMem

end Rows

end MeshcoreObserver
