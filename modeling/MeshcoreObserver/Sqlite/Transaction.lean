import MeshcoreObserver.Sqlite.Migrations

/-!
# Transactions

A connection to any content, and the statements which a program runs on it
between `BEGIN` and `COMMIT`, with a `ROLLBACK` when one of them throws. As in a
migration, a call may throw by itself, and the engine may have rolled the
transaction back when it does.

A `ROLLBACK` leaves no transaction open. Where the engine has been faster, it
throws, and the program is throwing anyway.
-/

namespace Sqlite

universe u v

variable {Content : Type u}

/-- A connection: what is committed, and what the open transaction has made of it. -/
structure Session (Content : Type u) where
  committed : Content
  transaction : Option Content
  deriving DecidableEq, Repr

/-- Statements one after another. A statement that throws has no effect of its own. -/
def execAll : List (Content → Option Content) → Content → Option Content
  | [], content => some content
  | statement :: statements, content =>
      (statement content).bind fun after => execAll statements after

theorem execAll_append (first second : List (Content → Option Content)) (content : Content) :
    execAll (first ++ second) content =
      (execAll first content).bind fun after => execAll second after := by
  induction first generalizing content with
  | nil => rfl
  | cons statement first ih =>
      simp only [List.cons_append, execAll, Option.bind_assoc, ih]

/-- One statement for each row of a list, where each of them extends what those before it have led
to. -/
theorem execAll_map {Row : Type v} {statement : Row → Content → Option Content}
    {extended : List Row → Content} {rows : List Row}
    (executes : ∀ done row rest, rows = done ++ row :: rest →
      statement row (extended done) = some (extended (done ++ [row]))) :
    execAll (rows.map statement) (extended []) = some (extended rows) := by
  have continued : ∀ rest done, rows = done ++ rest →
      execAll (rest.map statement) (extended done) = some (extended rows) := by
    intro rest
    induction rest with
    | nil =>
        intro done split
        simp [split, execAll]
    | cons row rest ih =>
        intro done split
        rw [List.map_cons, execAll, executes done row rest split, Option.bind_some]
        apply ih
        rw [split, List.append_assoc, List.singleton_append]
  exact continued rows [] rfl

namespace Session

abbrev idle (content : Content) : Session Content :=
  { committed := content, transaction := none }

abbrev working (content work : Content) : Session Content :=
  { committed := content, transaction := some work }

/-- What the connection reads. -/
def content (session : Session Content) : Content :=
  session.transaction.getD session.committed

def begin (session : Session Content) : Option (Session Content) :=
  if session.transaction.isSome then none
  else some (working session.committed session.committed)

/-- Outside of a transaction, a statement is one by itself. -/
def exec (statement : Content → Option Content) (session : Session Content) :
    Option (Session Content) :=
  match session.transaction with
  | none => (statement session.committed).map idle
  | some work => (statement work).map (working session.committed)

def commit (session : Session Content) : Option (Session Content) :=
  session.transaction.map idle

def rollback (session : Session Content) : Session Content :=
  idle session.committed

/-- A call, with whether it throws. -/
def attempt (fault : Fault) (call : Session Content → Option (Session Content))
    (session : Session Content) : Session Content × Bool :=
  match fault with
  | .returns =>
      match call session with
      | some after => (after, false)
      | none => (session, true)
  | .throws => (session, true)
  | .rollsBack => (session.rollback, true)

/-- The `try` block: statements up to the first that throws, and `COMMIT`. -/
def attemptAll (faults : Nat → Fault) :
    Nat → List (Content → Option Content) → Session Content → Session Content × Bool
  | position, [], session => session.attempt (faults position) commit
  | position, statement :: statements, session =>
      let attempted := session.attempt (faults position) (exec statement)
      if attempted.2 then attempted else attemptAll faults (position + 1) statements attempted.1

/-- `BEGIN`, the `try` block, and a `ROLLBACK` when it throws. -/
def transact (faults : Nat → Fault) (statements : List (Content → Option Content))
    (session : Session Content) : Session Content × Bool :=
  let begun := session.attempt (faults 0) begin
  if begun.2 then begun
  else
    let tried := begun.1.attemptAll faults 1 statements
    if tried.2 then (tried.1.rollback, true) else tried

/-- A call returns what it leads to, or it throws and leaves what is committed. -/
theorem attempt_cases (fault : Fault) (call : Session Content → Option (Session Content))
    (session : Session Content) :
    (fault = .returns ∧
        ∃ after, call session = some after ∧ session.attempt fault call = (after, false)) ∨
      ((fault ≠ .returns ∨ call session = none) ∧ (session.attempt fault call).2 = true ∧
        (session.attempt fault call).1.committed = session.committed) := by
  cases fault with
  | returns =>
      cases called : call session with
      | none =>
          right
          simp [attempt, called]
      | some after =>
          left
          simp [attempt, called]
  | throws =>
      right
      simp [attempt]
  | rollsBack =>
      right
      simp [attempt, rollback]

/-- None of the calls from a position on is made to throw. -/
def Undisturbed (faults : Nat → Fault) (position length : Nat) : Prop :=
  ∀ offset ≤ length, faults (position + offset) = .returns

theorem undisturbed_zero {faults : Nat → Fault} {position : Nat} :
    Undisturbed faults position 0 ↔ faults position = .returns := by
  simp [Undisturbed]

theorem undisturbed_succ {faults : Nat → Fault} {position length : Nat} :
    Undisturbed faults position (length + 1) ↔
      faults position = .returns ∧ Undisturbed faults (position + 1) length := by
  constructor
  · intro undisturbed
    refine ⟨undisturbed 0 (Nat.zero_le _), ?_⟩
    intro offset small
    have later := undisturbed (offset + 1) (by omega)
    rwa [Nat.add_comm offset, ← Nat.add_assoc] at later
  · rintro ⟨first, rest⟩ offset small
    rcases offset with _ | offset
    · exact first
    · have later := rest offset (by omega)
      rwa [Nat.add_assoc, Nat.add_comm 1] at later

/-- A `try` block that no call disturbs commits what its statements lead to. Any other throws and
commits nothing. -/
theorem attemptAll_working (faults : Nat → Fault) (position : Nat)
    (statements : List (Content → Option Content)) (content work : Content) :
    (Undisturbed faults position statements.length ∧
        ∃ after, execAll statements work = some after ∧
          (working content work).attemptAll faults position statements = (idle after, false)) ∨
      ((¬ Undisturbed faults position statements.length ∨ execAll statements work = none) ∧
        ((working content work).attemptAll faults position statements).2 = true ∧
        ((working content work).attemptAll faults position statements).1.committed =
          content) := by
  induction statements generalizing position work with
  | nil =>
      simp only [attemptAll, List.length_nil, undisturbed_zero]
      rcases attempt_cases (faults position) commit (working content work) with
        ⟨returns, after, committed, finished⟩ | ⟨differs | refused, threw⟩
      · cases committed
        left
        exact ⟨returns, work, rfl, finished⟩
      · right
        exact ⟨Or.inl differs, threw⟩
      · cases refused
  | cons statement statements ih =>
      simp only [List.length_cons, undisturbed_succ]
      rcases attempt_cases (faults position) (exec statement) (working content work) with
        ⟨returns, after, executes, attempted⟩ | ⟨disturbed, threw, kept⟩
      · rcases Option.map_eq_some_iff.mp executes with ⟨middle, executed, rfl⟩
        have continues : (working content work).attemptAll faults position
            (statement :: statements) =
              (working content middle).attemptAll faults (position + 1) statements := by
          simp [attemptAll, attempted]
        have whole : execAll (statement :: statements) work = execAll statements middle := by
          simp only [execAll, executed, Option.bind_some]
        rw [continues, whole]
        rcases ih (position + 1) middle with ⟨rest, finished⟩ | ⟨disturbed | refused, finished⟩
        · left
          exact ⟨⟨returns, rest⟩, finished⟩
        · right
          refine ⟨Or.inl ?_, finished⟩
          intro undisturbed
          exact disturbed undisturbed.2
        · right
          exact ⟨Or.inr refused, finished⟩
      · right
        rw [attemptAll, if_pos threw]
        refine ⟨?_, threw, kept⟩
        rcases disturbed with differs | refused
        · left
          intro undisturbed
          exact differs undisturbed.1
        · right
          have executed : statement work = none := Option.map_eq_none_iff.mp refused
          simp only [execAll, executed, Option.bind_none]

/-- A transaction commits what all its statements lead to, or it throws and leaves the connection
as it was. It throws when a call is made to, or when a statement cannot be executed. -/
theorem transact_idle (faults : Nat → Fault) (statements : List (Content → Option Content))
    (content : Content) :
    (Undisturbed faults 0 (statements.length + 1) ∧
        ∃ after, execAll statements content = some after ∧
          (idle content).transact faults statements = (idle after, false)) ∨
      ((¬ Undisturbed faults 0 (statements.length + 1) ∨ execAll statements content = none) ∧
        (idle content).transact faults statements = (idle content, true)) := by
  rw [undisturbed_succ]
  rcases attempt_cases (faults 0) begin (idle content) with
    ⟨returns, after, begins, begun⟩ | ⟨differs | refused, threw, kept⟩
  · cases begins
    simp only [transact, begun, Bool.false_eq_true, if_false]
    rcases attemptAll_working faults 1 statements content content with
      ⟨rest, after, executed, finished⟩ | ⟨disturbed | refused, threw, kept⟩
    · left
      refine ⟨⟨returns, rest⟩, after, executed, ?_⟩
      simp [finished]
    · right
      rw [if_pos threw, rollback, kept]
      refine ⟨Or.inl ?_, rfl⟩
      intro undisturbed
      exact disturbed undisturbed.2
    · right
      rw [if_pos threw, rollback, kept]
      exact ⟨Or.inr refused, rfl⟩
  · right
    constructor
    · left
      intro undisturbed
      exact differs undisturbed.1
    · cases fault : faults 0 with
      | returns => exact absurd fault differs
      | throws => simp [transact, attempt, fault]
      | rollsBack => simp [transact, attempt, fault, rollback]
  · cases refused

/-- Without a fault, statements that can be executed are committed. -/
theorem transact_returns {statements : List (Content → Option Content)} {content after : Content}
    (executed : execAll statements content = some after) :
    (idle content).transact (fun _ => .returns) statements = (idle after, false) := by
  rcases transact_idle (fun _ => .returns) statements content with
    ⟨_, same, led, finished⟩ | ⟨disturbed | refused, _⟩
  · cases executed.symm.trans led
    exact finished
  · exact absurd (fun _ _ => rfl) disturbed
  · rw [executed] at refused
    cases refused

/-- A property of the content which each statement of a transaction keeps is kept by it. -/
theorem transact_keeps {Invariant : Content → Prop} {statements : List (Content → Option Content)}
    (keeps : ∀ statement ∈ statements, ∀ before after, Invariant before →
      statement before = some after → Invariant after)
    (faults : Nat → Fault) {content : Content} (holds : Invariant content) :
    ∃ after, ((idle content).transact faults statements).1 = idle after ∧ Invariant after := by
  have all : ∀ after, execAll statements content = some after → Invariant after := by
    intro after executed
    induction statements generalizing content with
    | nil =>
        simp only [execAll, Option.some.injEq] at executed
        rwa [← executed]
    | cons statement statements ih =>
        rcases Option.bind_eq_some_iff.mp executed with ⟨middle, first, rest⟩
        refine ih ?_ (keeps statement List.mem_cons_self content middle holds first) rest
        intro other otherMem
        exact keeps other (List.mem_cons_of_mem statement otherMem)
  rcases transact_idle faults statements content with
    ⟨_, after, executed, finished⟩ | ⟨_, finished⟩
  · rw [finished]
    exact ⟨after, rfl, all after executed⟩
  · rw [finished]
    exact ⟨content, rfl, holds⟩

end Session

end Sqlite
