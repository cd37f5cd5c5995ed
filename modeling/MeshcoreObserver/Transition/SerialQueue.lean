import MeshcoreObserver.Transition.EventSystem
import Mathlib.Data.List.Basic

/-!
# Serial queues

A first-in first-out executor with at most one task under way: tasks are
submitted at the back, the front one starts when nothing is under way, and what
is under way finishes on its own time, if it ever does.
-/

namespace Transition

universe u

/-- The task under way and those waiting behind it, first come first. -/
structure SerialQueue (Task : Type u) where
  running : Option Task
  waiting : List Task
  deriving DecidableEq, Repr

inductive SerialEvent (Task : Type u) where
  | submit (task : Task)
  | start
  | finish
  deriving DecidableEq, Repr

namespace SerialQueue

variable {Task : Type u}

def empty : SerialQueue Task := { running := none, waiting := [] }

def submit (queue : SerialQueue Task) (task : Task) : SerialQueue Task :=
  { queue with waiting := queue.waiting ++ [task] }

def start (queue : SerialQueue Task) : Option (SerialQueue Task) :=
  match queue.running, queue.waiting with
  | none, task :: waiting => some { running := some task, waiting }
  | _, _ => none

def finish (queue : SerialQueue Task) : Option (SerialQueue Task) :=
  queue.running.map fun _ => { queue with running := none }

def step (queue : SerialQueue Task) : SerialEvent Task → Option (SerialQueue Task)
  | .submit task => some (queue.submit task)
  | .start => queue.start
  | .finish => queue.finish

/-- Everything that has been submitted and has not finished, in submission order. -/
def tasks (queue : SerialQueue Task) : List Task :=
  queue.running.toList ++ queue.waiting

@[simp]
theorem tasks_empty : (empty : SerialQueue Task).tasks = [] := rfl

@[simp]
theorem tasks_submit (queue : SerialQueue Task) (task : Task) :
    (queue.submit task).tasks = queue.tasks ++ [task] := by
  simp [tasks, submit]

theorem start_eq_some {queue started : SerialQueue Task} (starts : queue.start = some started) :
    ∃ task waiting, queue = { running := none, waiting := task :: waiting } ∧
      started = { running := some task, waiting } := by
  rcases queue with ⟨_ | running, _ | ⟨task, waiting⟩⟩
  · simp [start] at starts
  · simp only [start, Option.some.injEq] at starts
    exact ⟨task, waiting, rfl, starts.symm⟩
  · simp [start] at starts
  · simp [start] at starts

theorem tasks_start {queue started : SerialQueue Task} (starts : queue.start = some started) :
    started.tasks = queue.tasks := by
  rcases start_eq_some starts with ⟨task, waiting, rfl, rfl⟩
  simp [tasks]

theorem mem_tasks_of_running {queue : SerialQueue Task} {task : Task}
    (running : queue.running = some task) : task ∈ queue.tasks := by
  simp [tasks, running]

end SerialQueue

def serialQueueSystem (Task : Type u) : EventSystem (SerialQueue Task) (SerialEvent Task) where
  Initial queue := queue = .empty
  step := SerialQueue.step

end Transition
