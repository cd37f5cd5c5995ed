import MeshcoreObserver.Transition.EventSystem

/-!
# Unending runs

A run with a state for every moment, in which nothing may happen for a while or for
good. Such a run is fair to its goal when the events awaited there keep coming until
the goal is reached.

A number which no step raises, and which each awaited event lowers, cannot go on
falling: so a fair run reaches its goal.
-/

namespace Transition

universe u v

/-- From one moment to the next the state moves by the event, or stays where there is none. -/
structure UnendingRun {State : Type u} {Event : Type v} (system : EventSystem State Event) where
  state : Nat → State
  event : Nat → Option Event
  starts : system.Initial (state 0)
  stays : ∀ moment, event moment = none → state (moment + 1) = state moment
  moves : ∀ moment happens, event moment = some happens →
    system.step (state moment) happens = some (state (moment + 1))

namespace UnendingRun

variable {State : Type u} {Event : Type v} {system : EventSystem State Event}

/-- Until the goal is reached, awaited events keep coming. -/
def Fair (run : UnendingRun system) (Awaits : State → Event → Prop) (Goal : State → Prop) : Prop :=
  ∀ moment, ¬Goal (run.state moment) → ∃ later, moment ≤ later ∧
    (Goal (run.state later) ∨
      ∃ happens, run.event later = some happens ∧ Awaits (run.state later) happens)

variable (run : UnendingRun system)

theorem reachable (moment : Nat) : system.Reachable (run.state moment) := by
  refine ⟨run.state 0, run.starts, ?_⟩
  induction moment with
  | zero => exact Relation.ReflTransGen.refl
  | succ moment ih =>
      cases happens : run.event moment with
      | none =>
          rw [run.stays moment happens]
          exact ih
      | some event => exact ih.tail ⟨event, trivial, run.moves moment event happens⟩

variable {run} {Awaits : State → Event → Prop} {Goal : State → Prop}

theorem measure_le {measure : State → Nat}
    (rises : ∀ before event after, system.Reachable before →
      system.step before event = some after → measure after ≤ measure before)
    {moment later : Nat} (order : moment ≤ later) :
    measure (run.state later) ≤ measure (run.state moment) := by
  induction order with
  | refl => exact Nat.le_refl _
  | @step later _ ih =>
      cases happens : run.event later with
      | none =>
          rw [run.stays later happens]
          exact ih
      | some event =>
          have step := rises _ event _ (run.reachable later) (run.moves later event happens)
          exact Nat.le_trans step ih

/-- A fair run reaches its goal, when each awaited event lowers what no event raises. -/
theorem Fair.eventually (fair : run.Fair Awaits Goal) (measure : State → Nat)
    (rises : ∀ before event after, system.Reachable before →
      system.step before event = some after → measure after ≤ measure before)
    (falls : ∀ before event after, system.Reachable before → Awaits before event →
      system.step before event = some after → measure after < measure before) :
    ∃ moment, Goal (run.state moment) := by
  have reached : ∀ bound moment, measure (run.state moment) < bound →
      ∃ later, Goal (run.state later) := by
    intro bound
    induction bound with
    | zero =>
        intro moment below
        exact absurd below (Nat.not_lt_zero _)
    | succ bound ih =>
        intro moment below
        by_cases goal : Goal (run.state moment)
        · exact ⟨moment, goal⟩
        · rcases fair moment goal with ⟨later, order, reached | ⟨event, happens, awaits⟩⟩
          · exact ⟨later, reached⟩
          · have fall := falls _ event _ (run.reachable later) awaits
              (run.moves later event happens)
            have before : measure (run.state later) ≤ measure (run.state moment) :=
              measure_le rises order
            exact ih (later + 1) (by omega)
  exact reached _ 0 (Nat.lt_succ_self _)

section Finite

/-- The state some moments into a list of events, after which nothing happens. -/
def follow (system : EventSystem State Event) : State → List Event → Nat → State
  | state, _, 0 => state
  | state, [], _ + 1 => state
  | state, event :: events, moment + 1 =>
      match system.step state event with
      | some after => follow system after events moment
      | none => state

variable {initial : State} {events : List Event}

theorem follow_zero (system : EventSystem State Event) (state : State) (events : List Event) :
    follow system state events 0 = state := by
  cases events with
  | nil => rfl
  | cons event events => rfl

theorem follow_nil (system : EventSystem State Event) (state : State) (moment : Nat) :
    follow system state [] moment = state := by
  cases moment with
  | zero => rfl
  | succ moment => rfl

theorem follow_moves (ran : (system.run EventSystem.anyStep initial events).isSome) {moment : Nat}
    {happens : Event} (isEvent : events[moment]? = some happens) :
    system.step (follow system initial events moment) happens =
      some (follow system initial events (moment + 1)) := by
  induction events generalizing initial moment with
  | nil => simp at isEvent
  | cons event events ih =>
      rw [EventSystem.run_anyStep_cons] at ran
      cases stepped : system.step initial event with
      | none => simp [stepped] at ran
      | some after =>
          cases moment with
          | zero =>
              cases isEvent
              simp only [follow, stepped, follow_zero]
          | succ moment =>
              simp only [stepped, Option.bind_some] at ran
              simpa only [follow, stepped] using ih ran (by simpa using isEvent)

theorem follow_end (ran : (system.run EventSystem.anyStep initial events).isSome) {moment : Nat}
    (past : events.length ≤ moment) :
    follow system initial events moment =
      (system.run EventSystem.anyStep initial events).get ran := by
  induction events generalizing initial moment with
  | nil => simp only [follow_nil, EventSystem.run, Option.get_some]
  | cons event events ih =>
      cases moment with
      | zero => simp at past
      | succ moment =>
          have split : system.run EventSystem.anyStep initial (event :: events) =
              (system.step initial event).bind fun after =>
                system.run EventSystem.anyStep after events :=
            EventSystem.run_anyStep_cons initial event events
          cases stepped : system.step initial event with
          | none => simp [split, stepped] at ran
          | some after =>
              simp only [stepped, Option.bind_some] at split
              simp only [follow, stepped, split]
              exact ih (split ▸ ran) (by simpa using past)

/-- A run of some events, after which nothing happens. -/
def ofRun (starts : system.Initial initial) (events : List Event)
    (ran : (system.run EventSystem.anyStep initial events).isSome) : UnendingRun system where
  state := follow system initial events
  event moment := events[moment]?
  starts := by
    rw [follow_zero]
    exact starts
  stays := by
    intro moment none
    have past := List.getElem?_eq_none_iff.mp none
    rw [follow_end ran past, follow_end ran (Nat.le_succ_of_le past)]
  moves := fun _ _ isEvent => follow_moves ran isEvent

theorem fair_ofRun {Awaits : State → Event → Prop} {Goal : State → Prop}
    {starts : system.Initial initial}
    {ran : (system.run EventSystem.anyStep initial events).isSome}
    (goal : Goal ((system.run EventSystem.anyStep initial events).get ran)) :
    (ofRun starts events ran).Fair Awaits Goal := by
  intro moment _
  refine ⟨max moment events.length, Nat.le_max_left _ _, Or.inl ?_⟩
  have atEnd := follow_end ran (Nat.le_max_right moment events.length)
  simp only [ofRun, atEnd]
  exact goal

end Finite

end UnendingRun

end Transition
