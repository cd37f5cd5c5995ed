import Mathlib.Data.List.Basic

/-!
# Pages of a result

`LIMIT … OFFSET …` on rows that come out in the same order every time: the pages
of one size, read one after the other, make up the whole result.
-/

namespace Sqlite

universe u

variable {Row : Type u}

def limitOffset (limit offset : Nat) (rows : List Row) : List Row := (rows.drop offset).take limit

/-- The first pages, one after the other. -/
def pages (limit count : Nat) (rows : List Row) : List Row :=
  (List.range count).flatMap fun page => limitOffset limit (page * limit) rows

theorem pages_eq_take (limit count : Nat) (rows : List Row) :
    pages limit count rows = rows.take (count * limit) := by
  induction count with
  | zero =>
      rw [Nat.zero_mul, List.take_zero]
      rfl
  | succ count ih =>
      have last : pages limit (count + 1) rows =
          pages limit count rows ++ limitOffset limit (count * limit) rows := by
        simp only [pages, List.range_succ, List.flatMap_append, List.flatMap_singleton]
      rw [last, ih, Nat.succ_mul, List.take_add, limitOffset]

/-- Enough pages are the whole result. -/
theorem pages_eq_self {limit count : Nat} {rows : List Row}
    (enough : rows.length ≤ count * limit) : pages limit count rows = rows := by
  rw [pages_eq_take, List.take_of_length_le enough]

theorem limitOffset_append (first rest offset : Nat) (rows : List Row) :
    limitOffset first offset rows ++ limitOffset rest (offset + first) rows =
      limitOffset (first + rest) offset rows := by
  simp only [limitOffset, List.take_add, List.drop_drop]

end Sqlite
