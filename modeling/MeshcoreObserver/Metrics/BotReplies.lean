import MeshcoreObserver.Basic
import Mathlib.Data.List.Sort
import Mathlib.Data.List.Nodup

/-!
# The `bot_replies` table

One row covers a reply from its enqueueing to its resolution. The table is the
list of its rows in ascending `id`, and every statement of `MetricsStore` on it
is a function of that list. What a reply says is opaque to the table, so the
type of the item is a parameter.

A new row takes the `id` after the largest one in use, as SQLite does for an
`INTEGER PRIMARY KEY` without `AUTOINCREMENT`: the `id` of a pruned row can come
back. Rows of equal `enqueued_at` are returned in ascending `id`.
-/

namespace MeshcoreObserver

universe u

/-- The values the `status` column admits. Nothing writes `cancelled` any more. -/
inductive ReplyStatus where
  | pending
  | sent
  | failed
  | expired
  | cancelled
  deriving DecidableEq, Repr

structure ReplyRow (Item : Type u) where
  id : Nat
  item : Item
  enqueuedAt : Int
  expiresAt : Int
  status : ReplyStatus
  resolvedAt : Option Int
  queuedMs : Option Int
  deriving DecidableEq, Repr

namespace ReplyRow

variable {Item : Type u}

def resolve (row : ReplyRow Item) (status : ReplyStatus) (resolvedAt queuedMs : Int) :
    ReplyRow Item :=
  { row with status, resolvedAt := some resolvedAt, queuedMs := some queuedMs }

/-- What becomes of a row: it stays as it is, or it is resolved once. -/
inductive Becomes (row : ReplyRow Item) : ReplyRow Item → Prop where
  | same : Becomes row row
  | resolved {status : ReplyStatus} {resolvedAt queuedMs : Int} (pending : row.status = .pending)
      (terminal : status = .sent ∨ status = .failed ∨ status = .expired) :
      Becomes row (row.resolve status resolvedAt queuedMs)

theorem Becomes.trans {first second third : ReplyRow Item} (before : first.Becomes second)
    (after : second.Becomes third) : first.Becomes third := by
  cases before with
  | same => exact after
  | resolved pending terminal =>
      cases after with
      | same => exact .resolved pending terminal
      | resolved again _ =>
          simp only [resolve] at again
          simp [again] at terminal

end ReplyRow

/-- The rows of `bot_replies` in ascending `id`. -/
abbrev BotReplies (Item : Type u) := List (ReplyRow Item)

namespace BotReplies

variable {Item : Type u}

def nextId (rows : BotReplies Item) : Nat :=
  rows.foldr (fun row largest => max row.id largest) 0 + 1

def enqueueReplyItem (rows : BotReplies Item) (item : Item) (enqueuedAt expiresAt : Int) :
    BotReplies Item :=
  rows ++ [{ id := nextId rows, item, enqueuedAt, expiresAt, status := .pending,
             resolvedAt := none, queuedMs := none }]

def pending (rows : BotReplies Item) : BotReplies Item :=
  rows.filter fun row => row.status = .pending

def orderByEnqueuedAt (rows : BotReplies Item) : BotReplies Item :=
  rows.insertionSort fun first second => first.enqueuedAt ≤ second.enqueuedAt

def countPendingReplyItems (rows : BotReplies Item) : Nat := rows.pending.length

/-- The rows `takeExpiredReplyItems(now)` returns. -/
def selectExpired (rows : BotReplies Item) (now : Int) : BotReplies Item :=
  orderByEnqueuedAt (rows.pending.filter fun row => row.expiresAt ≤ now)

/-- The table `takeExpiredReplyItems(now)` leaves. -/
def expire (rows : BotReplies Item) (now : Int) : BotReplies Item :=
  rows.map fun row =>
    if row.status = .pending ∧ row.expiresAt ≤ now then
      row.resolve .expired now (now - row.enqueuedAt)
    else row

def peekOldestPendingReplyItem (rows : BotReplies Item) : Option (ReplyRow Item) :=
  (orderByEnqueuedAt rows.pending).head?

def resolveReplyItem (rows : BotReplies Item) (id : Nat) (status : ReplyStatus)
    (resolvedAt queuedMs : Int) : BotReplies Item :=
  rows.map fun row => if row.id = id then row.resolve status resolvedAt queuedMs else row

/-- The rows `pruneOlderThan(cutoffMs)` deletes. -/
def prunable (cutoffMs : Int) (row : ReplyRow Item) : Bool :=
  row.status ≠ .pending ∧ row.resolvedAt.any (· < cutoffMs)

/-- The table `pruneOlderThan(cutoffMs)` leaves. -/
def pruneOlderThan (rows : BotReplies Item) (cutoffMs : Int) : BotReplies Item :=
  rows.filter fun row => !prunable cutoffMs row

theorem lt_nextId {rows : BotReplies Item} {row : ReplyRow Item} (rowMem : row ∈ rows) :
    row.id < nextId rows :=
  lt_largest_succ ReplyRow.id rowMem

theorem mem_pending {rows : BotReplies Item} {row : ReplyRow Item} :
    row ∈ rows.pending ↔ row ∈ rows ∧ row.status = .pending := by
  simp [pending]

theorem pending_enqueueReplyItem (rows : BotReplies Item) (item : Item)
    (enqueuedAt expiresAt : Int) :
    (rows.enqueueReplyItem item enqueuedAt expiresAt).pending =
      rows.pending ++ [{ id := nextId rows, item, enqueuedAt, expiresAt, status := .pending,
                         resolvedAt := none, queuedMs := none }] := by
  simp [pending, enqueueReplyItem, List.filter_append]

/-- What is still pending after an expiry is what was not due. -/
theorem pending_expire (rows : BotReplies Item) (now : Int) :
    (rows.expire now).pending = rows.pending.filter fun row => now < row.expiresAt := by
  induction rows with
  | nil => rfl
  | cons row rows ih =>
      simp only [pending, expire, List.map_cons, List.filter_cons] at ih ⊢
      rw [ih]
      by_cases waiting : row.status = .pending
      · by_cases due : row.expiresAt ≤ now
        · simp [waiting, due, ReplyRow.resolve, not_lt.mpr due]
        · simp [waiting, due, not_le.mp due]
      · simp [waiting]

theorem pending_pruneOlderThan (rows : BotReplies Item) (cutoffMs : Int) :
    (rows.pruneOlderThan cutoffMs).pending = rows.pending := by
  simp only [pending, pruneOlderThan, List.filter_filter]
  apply List.filter_congr
  intro row _
  by_cases waiting : row.status = .pending
  · simp [prunable, waiting]
  · simp [waiting]

theorem pending_resolveReplyItem (rows : BotReplies Item) (id : Nat) {status : ReplyStatus}
    (resolvedAt queuedMs : Int) (terminal : status ≠ .pending) :
    (rows.resolveReplyItem id status resolvedAt queuedMs).pending =
      rows.pending.filter fun row => row.id ≠ id := by
  induction rows with
  | nil => rfl
  | cons row rows ih =>
      simp only [pending, resolveReplyItem, List.map_cons, List.filter_cons] at ih ⊢
      rw [ih]
      by_cases hit : row.id = id
      · by_cases waiting : row.status = .pending
        · simp [hit, waiting, ReplyRow.resolve, terminal]
        · simp [hit, waiting, ReplyRow.resolve, terminal]
      · by_cases waiting : row.status = .pending
        · simp [hit, waiting]
        · simp [hit, waiting]

theorem peekOldestPendingReplyItem_mem {rows : BotReplies Item} {row : ReplyRow Item}
    (peeked : rows.peekOldestPendingReplyItem = some row) :
    row ∈ rows ∧ row.status = .pending := by
  have rowMem := List.mem_of_head? peeked
  simp only [orderByEnqueuedAt, List.mem_insertionSort] at rowMem
  exact mem_pending.mp rowMem

theorem mem_expire {rows : BotReplies Item} {now : Int} {row : ReplyRow Item}
    (rowMem : row ∈ rows.expire now) :
    (row ∈ rows ∧ (row.status = .pending → now < row.expiresAt)) ∨
      ∃ old ∈ rows, old.status = .pending ∧ old.expiresAt ≤ now ∧
        row = old.resolve .expired now (now - old.enqueuedAt) := by
  simp only [expire, List.mem_map] at rowMem
  rcases rowMem with ⟨old, oldMem, rfl⟩
  split
  · rename_i due
    exact Or.inr ⟨old, oldMem, due.1, due.2, rfl⟩
  · rename_i notDue
    refine Or.inl ⟨oldMem, ?_⟩
    intro waiting
    by_contra late
    exact notDue ⟨waiting, by omega⟩

theorem mem_resolveReplyItem {rows : BotReplies Item} {id : Nat} {status : ReplyStatus}
    {resolvedAt queuedMs : Int} {row : ReplyRow Item}
    (rowMem : row ∈ rows.resolveReplyItem id status resolvedAt queuedMs) :
    (row ∈ rows ∧ row.id ≠ id) ∨
      ∃ old ∈ rows, old.id = id ∧ row = old.resolve status resolvedAt queuedMs := by
  simp only [resolveReplyItem, List.mem_map] at rowMem
  rcases rowMem with ⟨old, oldMem, rfl⟩
  split
  · rename_i hit
    exact Or.inr ⟨old, oldMem, hit, rfl⟩
  · rename_i miss
    exact Or.inl ⟨oldMem, miss⟩

theorem map_update {Column : Type*} (column : ReplyRow Item → Column)
    (update : ReplyRow Item → ReplyRow Item) (keeps : ∀ row, column (update row) = column row)
    (rows : BotReplies Item) : (rows.map update).map column = rows.map column := by
  rw [List.map_map]
  exact List.map_congr_left fun row _ => keeps row

/-- A resolution leaves the other columns of every row. -/
theorem map_expire {Column : Type*} (column : ReplyRow Item → Column)
    (keeps : ∀ row status resolvedAt queuedMs,
      column (ReplyRow.resolve row status resolvedAt queuedMs) = column row)
    (rows : BotReplies Item) (now : Int) : (rows.expire now).map column = rows.map column := by
  apply map_update
  intro row
  split
  · exact keeps row _ _ _
  · rfl

theorem map_resolveReplyItem {Column : Type*} (column : ReplyRow Item → Column)
    (keeps : ∀ row status resolvedAt queuedMs,
      column (ReplyRow.resolve row status resolvedAt queuedMs) = column row)
    (rows : BotReplies Item) (id : Nat) (status : ReplyStatus) (resolvedAt queuedMs : Int) :
    (rows.resolveReplyItem id status resolvedAt queuedMs).map column = rows.map column := by
  apply map_update
  intro row
  split
  · exact keeps row _ _ _
  · rfl

end BotReplies

end MeshcoreObserver
