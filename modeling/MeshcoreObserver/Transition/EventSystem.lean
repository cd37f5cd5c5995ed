import Mathlib.Logic.Relation

/-!
# Event systems

A system of one state moved by events, its runs, and the rule every safety
proof about it uses: an invariant kept by each step holds along every run.

Runs come with a condition on their steps. A property which only holds while
the environment behaves is a property of `ReachableWhen condition`; the plain
reachable states are those of the condition that every step meets.
-/

namespace Transition

universe u v

/-- A state moved by events. An event which cannot occur in a state is refused by `none`. -/
structure EventSystem (State : Type u) (Event : Type v) where
  Initial : State → Prop
  step : State → Event → Option State

namespace EventSystem

variable {State : Type u} {Event : Type v}

def anyStep (_state : State) (_event : Event) : Prop := True

instance (state : State) (event : Event) : Decidable (anyStep state event) :=
  isTrue trivial

variable (system : EventSystem State Event)

/-- One step by an event that meets the condition in the state before it. -/
def Moves (condition : State → Event → Prop) (before after : State) : Prop :=
  ∃ event, condition before event ∧ system.step before event = some after

/-- A run, of any length, whose steps all meet the condition. -/
def Leads (condition : State → Event → Prop) : State → State → Prop :=
  Relation.ReflTransGen (system.Moves condition)

/-- A state at the end of some run whose steps all meet the condition. -/
def ReachableWhen (condition : State → Event → Prop) (state : State) : Prop :=
  ∃ initial, system.Initial initial ∧ system.Leads condition initial state

abbrev Reachable (state : State) : Prop :=
  system.ReachableWhen anyStep state

/-- The state after a list of events, refused when an event is refused or fails the condition. -/
def run (condition : State → Event → Prop) [∀ state event, Decidable (condition state event)] :
    State → List Event → Option State
  | state, [] => some state
  | state, event :: events =>
      if condition state event then
        (system.step state event).bind fun after => run condition after events
      else none

variable {system} {condition : State → Event → Prop}

theorem run_anyStep_cons (state : State) (event : Event) (events : List Event) :
    system.run anyStep state (event :: events) =
      (system.step state event).bind fun after => system.run anyStep after events :=
  if_pos trivial

section Run

variable [∀ state event, Decidable (condition state event)]

theorem leads_of_run {events : List Event} {before after : State}
    (ran : system.run condition before events = some after) :
    system.Leads condition before after := by
  induction events generalizing before with
  | nil =>
      simp only [run, Option.some.injEq] at ran
      subst after
      exact Relation.ReflTransGen.refl
  | cons event events ih =>
      simp only [run] at ran
      split at ran
      · rename_i met
        rcases Option.bind_eq_some_iff.mp ran with ⟨middle, stepped, rest⟩
        exact Relation.ReflTransGen.head ⟨event, met, stepped⟩ (ih rest)
      · cases ran

theorem leads_get {before : State} {events : List Event}
    (ran : (system.run condition before events).isSome) :
    system.Leads condition before ((system.run condition before events).get ran) :=
  leads_of_run (Option.some_get ran).symm

/-- The state at the end of a run that is not refused is reachable. -/
theorem reachableWhen_get {initial : State} {events : List Event}
    (starts : system.Initial initial) (ran : (system.run condition initial events).isSome) :
    system.ReachableWhen condition ((system.run condition initial events).get ran) :=
  ⟨initial, starts, leads_get ran⟩

end Run

/-- A run under a condition is a run under every weaker one. -/
theorem Leads.weaken {weaker : State → Event → Prop}
    (weakens : ∀ state event, condition state event → weaker state event) {before after : State}
    (lead : system.Leads condition before after) : system.Leads weaker before after := by
  refine Relation.ReflTransGen.mono ?_ before after lead
  rintro first second ⟨event, met, stepped⟩
  exact ⟨event, weakens first event met, stepped⟩

theorem ReachableWhen.weaken {weaker : State → Event → Prop}
    (weakens : ∀ state event, condition state event → weaker state event) {state : State}
    (reachable : system.ReachableWhen condition state) : system.ReachableWhen weaker state := by
  rcases reachable with ⟨initial, starts, lead⟩
  exact ⟨initial, starts, lead.weaken weakens⟩

/-- What every step keeps, every run keeps. -/
theorem Leads.invariant {Invariant : State → Prop}
    (keeps : ∀ before event after, Invariant before → condition before event →
      system.step before event = some after → Invariant after)
    {before after : State} (lead : system.Leads condition before after)
    (holds : Invariant before) : Invariant after := by
  induction lead with
  | refl => exact holds
  | tail _ moved ih =>
      rcases moved with ⟨event, met, stepped⟩
      exact keeps _ event _ ih met stepped

/-- What holds initially and is kept by every step holds in every state of every run. -/
theorem ReachableWhen.invariant {Invariant : State → Prop}
    (initially : ∀ state, system.Initial state → Invariant state)
    (keeps : ∀ before event after, Invariant before → condition before event →
      system.step before event = some after → Invariant after)
    {state : State} (reachable : system.ReachableWhen condition state) : Invariant state := by
  rcases reachable with ⟨initial, starts, lead⟩
  exact lead.invariant keeps (initially initial starts)

section Simulation

universe w x

variable {Abstract : Type w} {AbstractEvent : Type x}
  {abstractSystem : EventSystem Abstract AbstractEvent} {Related : State → Abstract → Prop}

/-- Where another system follows each step, it follows each run. -/
theorem Leads.simulated
    (follows : ∀ before event after abstract, Related before abstract → condition before event →
      system.step before event = some after →
        ∃ abstractAfter, abstractSystem.Leads anyStep abstract abstractAfter ∧
          Related after abstractAfter)
    {before after : State} (lead : system.Leads condition before after) {abstract : Abstract}
    (related : Related before abstract) :
    ∃ abstractAfter, abstractSystem.Leads anyStep abstract abstractAfter ∧
      Related after abstractAfter := by
  induction lead with
  | refl => exact ⟨abstract, Relation.ReflTransGen.refl, related⟩
  | tail _ moved ih =>
      rcases ih with ⟨middle, first, middleRelated⟩
      rcases moved with ⟨event, met, stepped⟩
      rcases follows _ event _ middle middleRelated met stepped with ⟨last, second, lastRelated⟩
      exact ⟨last, first.trans second, lastRelated⟩

theorem ReachableWhen.simulated
    (initially : ∀ state, system.Initial state →
      ∃ abstract, abstractSystem.Initial abstract ∧ Related state abstract)
    (follows : ∀ before event after abstract, Related before abstract → condition before event →
      system.step before event = some after →
        ∃ abstractAfter, abstractSystem.Leads anyStep abstract abstractAfter ∧
          Related after abstractAfter)
    {state : State} (reachable : system.ReachableWhen condition state) :
    ∃ abstract, abstractSystem.Reachable abstract ∧ Related state abstract := by
  rcases reachable with ⟨initial, starts, lead⟩
  rcases initially initial starts with ⟨abstract, abstractStarts, related⟩
  rcases lead.simulated follows related with ⟨abstractAfter, abstractLead, relatedAfter⟩
  exact ⟨abstractAfter, ⟨abstract, abstractStarts, abstractLead⟩, relatedAfter⟩

end Simulation

end EventSystem

end Transition
