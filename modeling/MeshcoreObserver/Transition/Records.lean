import MeshcoreObserver.Transition.EventSystem

/-!
# Recorded runs

A system together with a record of its run: what an observer sees of each step,
newest first. A law says which entry may follow which record, and a lawful
record obeys it at every entry. A law that names the only entries that may
follow an entry also says what must come next, wherever something does.
-/

namespace Transition

universe u v w

structure Recorded (State : Type u) (Mark : Type w) where
  state : State
  record : List Mark
  deriving DecidableEq

namespace EventSystem

variable {State : Type u} {Event : Type v} {Mark : Type w}

/-- The system with what each of its steps shows put in front of the record. -/
def recorded (system : EventSystem State Event) (observe : State → State → List Mark) :
    EventSystem (Recorded State Mark) Event where
  Initial history := system.Initial history.state ∧ history.record = []
  step history event :=
    (system.step history.state event).map fun after =>
      ⟨after, observe history.state after ++ history.record⟩

theorem recorded_eq_some {system : EventSystem State Event} {observe : State → State → List Mark}
    {history next : Recorded State Mark} {event : Event}
    (stepped : (system.recorded observe).step history event = some next) :
    ∃ after, system.step history.state event = some after ∧
      next = ⟨after, observe history.state after ++ history.record⟩ := by
  rcases Option.map_eq_some_iff.mp stepped with ⟨after, moved, rfl⟩
  exact ⟨after, moved, rfl⟩

theorem recorded_step {system : EventSystem State Event} {observe : State → State → List Mark}
    {history : Recorded State Mark} {event : Event} {after : State}
    (moved : system.step history.state event = some after) :
    (system.recorded observe).step history event =
      some ⟨after, observe history.state after ++ history.record⟩ := by
  simp only [recorded, moved, Option.map_some]

end EventSystem

variable {Mark : Type w} {Allows : List Mark → Mark → Prop}

/-- Each entry of the record is allowed by those before it. -/
inductive Lawful (Allows : List Mark → Mark → Prop) : List Mark → Prop where
  | nil : Lawful Allows []
  | cons {record : List Mark} {mark : Mark} (lawful : Lawful Allows record)
      (allowed : Allows record mark) : Lawful Allows (mark :: record)

namespace Lawful

theorem earlier {later record : List Mark} (lawful : Lawful Allows (later ++ record)) :
    Lawful Allows record := by
  induction later with
  | nil => exact lawful
  | cons mark later ih =>
      cases lawful with
      | cons lawful _ => exact ih lawful

theorem allows {later record : List Mark} {mark : Mark}
    (lawful : Lawful Allows (later ++ mark :: record)) : Allows record mark := by
  cases lawful.earlier with
  | cons _ allowed => exact allowed

/-- A record ends at an entry or goes on with one that the law allows there. -/
theorem next {later record : List Mark} (lawful : Lawful Allows (later ++ record)) :
    later = [] ∨ ∃ rest mark, later = rest ++ [mark] ∧ Allows record mark := by
  rcases List.eq_nil_or_concat later with rfl | ⟨rest, mark, rfl⟩
  · exact Or.inl rfl
  · refine Or.inr ⟨rest, mark, List.concat_eq_append, ?_⟩
    have whole : Lawful Allows (rest ++ mark :: record) := by simpa using lawful
    exact whole.allows

end Lawful

end Transition
