import MeshcoreObserver.Transition.SerialQueue

/-!
# The command queue

`CommandQueue` keeps one promise, `#tail`, and chains every task on it: a task
is called when the promise that was the tail at its submission has settled, and
the settlement of the task, either way, is the next tail. The model keeps the
whole chain of links; the tail is the last of them.

The chain refines a serial queue: the links that have not settled are one
running link, if any, followed by the waiting ones in submission order. What
happens to the chain happens to the serial queue too, so that the other modules
work with the serial queue.
-/

namespace MeshcoreObserver

open Transition

universe u

inductive LinkPhase where
  | waiting
  | running
  | settled
  deriving DecidableEq, Repr

structure Link (Task : Type u) where
  task : Task
  phase : LinkPhase
  deriving DecidableEq, Repr

/-- The chain of links, in the order of the `run` calls. -/
structure CommandQueue (Task : Type u) where
  links : List (Link Task)
  deriving DecidableEq, Repr

namespace CommandQueue

variable {Task : Type u}

def new : CommandQueue Task := { links := [] }

def run (queue : CommandQueue Task) (task : Task) : CommandQueue Task :=
  { links := queue.links ++ [⟨task, .waiting⟩] }

/-- The tail a link was chained on has settled; the first link hangs on a resolved promise. -/
def TailSettled (queue : CommandQueue Task) (index : Nat) : Prop :=
  index = 0 ∨ ∃ link, queue.links[index - 1]? = some link ∧ link.phase = .settled

/-- The `then` callback of a link calls its task. -/
inductive Starts (queue : CommandQueue Task) : CommandQueue Task → Prop where
  | intro {index : Nat} {task : Task} (link : queue.links[index]? = some ⟨task, .waiting⟩)
      (settled : queue.TailSettled index) :
      Starts queue { links := queue.links.set index ⟨task, .running⟩ }

/-- The promise of a running task settles, and with it the tail behind it. -/
inductive Settles (queue : CommandQueue Task) : CommandQueue Task → Prop where
  | intro {index : Nat} {task : Task} (link : queue.links[index]? = some ⟨task, .running⟩) :
      Settles queue { links := queue.links.set index ⟨task, .settled⟩ }

/-- The queue with its settled links `done` told apart from the serial queue that is left. -/
def Refines (queue : CommandQueue Task) (serial : SerialQueue Task) : Prop :=
  ∃ done : List Task,
    queue.links = done.map (⟨·, .settled⟩) ++ serial.running.toList.map (⟨·, .running⟩) ++
      serial.waiting.map (⟨·, .waiting⟩)

theorem refines_new : (new : CommandQueue Task).Refines .empty := ⟨[], rfl⟩

theorem Refines.run {queue : CommandQueue Task} {serial : SerialQueue Task}
    (refines : queue.Refines serial) (task : Task) :
    (queue.run task).Refines (serial.submit task) := by
  rcases refines with ⟨done, links⟩
  refine ⟨done, ?_⟩
  simp [CommandQueue.run, SerialQueue.submit, links]

theorem Refines.starts {queue started : CommandQueue Task} {serial : SerialQueue Task}
    (refines : queue.Refines serial) (starts : queue.Starts started) :
    ∃ after, serial.start = some after ∧ started.Refines after := by
  rcases refines with ⟨done, links⟩
  rcases serial with ⟨running, waiting⟩
  cases starts with
  | @intro index task link settled =>
      simp only at links
      have atOrBefore : index ≤ done.length := by
        rcases settled with first | ⟨before, beforeLink, beforeSettled⟩
        · omega
        · by_contra beyond
          rw [links, List.append_assoc,
            List.getElem?_append_right (by simp; omega)] at beforeLink
          have beforeMem := List.mem_of_getElem? beforeLink
          simp only [List.mem_append, List.mem_map] at beforeMem
          rcases beforeMem with ⟨_, _, rfl⟩ | ⟨_, _, rfl⟩ <;> cases beforeSettled
      have atOrAfter : done.length ≤ index := by
        by_contra beyond
        rw [links, List.append_assoc,
          List.getElem?_append_left (by simp; omega)] at link
        have linkMem := List.mem_of_getElem? link
        simp only [List.mem_map] at linkMem
        rcases linkMem with ⟨_, _, impossible⟩
        cases impossible
      have here : index = done.length := by omega
      subst index
      cases running with
      | some other => simp [links] at link
      | none =>
          cases waiting with
          | nil => simp [links] at link
          | cons next waiting =>
              have same : next = task := by simpa [links] using link
              subst next
              refine ⟨⟨some task, waiting⟩, rfl, done, ?_⟩
              simp [links]

theorem Refines.settles {queue settled : CommandQueue Task} {serial : SerialQueue Task}
    (refines : queue.Refines serial) (settles : queue.Settles settled) :
    ∃ after, serial.finish = some after ∧ settled.Refines after := by
  rcases refines with ⟨done, links⟩
  rcases serial with ⟨running, waiting⟩
  cases settles with
  | @intro index task link =>
      simp only at links
      have linkMem := List.mem_of_getElem? link
      cases running with
      | none => simp [links] at linkMem
      | some current =>
          have here : index = done.length := by
            by_contra elsewhere
            rcases Nat.lt_or_gt_of_ne elsewhere with before | beyond
            · rw [links, List.append_assoc,
                List.getElem?_append_left (by simpa using before)] at link
              simpa using List.mem_of_getElem? link
            · rw [links, List.getElem?_append_right (by simp; omega)] at link
              simpa using List.mem_of_getElem? link
          subst index
          have same : current = task := by simpa [links] using link
          subst current
          refine ⟨⟨none, waiting⟩, rfl, done ++ [task], ?_⟩
          simp [links]

/-- Whatever happens to the chain happens to the serial queue. -/
theorem Refines.follows {queue after : CommandQueue Task} {serial : SerialQueue Task}
    (refines : queue.Refines serial)
    (moves : after = queue ∨ (∃ task, after = queue.run task) ∨ queue.Starts after ∨
      queue.Settles after) :
    ∃ serialAfter, (serialQueueSystem Task).Leads EventSystem.anyStep serial serialAfter ∧
      after.Refines serialAfter := by
  rcases moves with rfl | ⟨task, rfl⟩ | starts | settles
  · exact ⟨serial, Relation.ReflTransGen.refl, refines⟩
  · refine ⟨serial.submit task, Relation.ReflTransGen.single ?_, refines.run task⟩
    exact ⟨.submit task, trivial, rfl⟩
  · rcases refines.starts starts with ⟨serialAfter, started, refinesAfter⟩
    refine ⟨serialAfter, Relation.ReflTransGen.single ?_, refinesAfter⟩
    exact ⟨.start, trivial, started⟩
  · rcases refines.settles settles with ⟨serialAfter, finished, refinesAfter⟩
    refine ⟨serialAfter, Relation.ReflTransGen.single ?_, refinesAfter⟩
    exact ⟨.finish, trivial, finished⟩

end CommandQueue

end MeshcoreObserver
