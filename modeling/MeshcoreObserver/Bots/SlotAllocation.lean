import MeshcoreObserver.Bots.ChannelSetup
import Mathlib.Data.List.Nodup

/-!
# Slot allocation

A setup that finds its channel missing has chosen an empty slot from a listing
that may be out of date by the time it writes. Another bot that also finds its
channel missing may pick the same slot, and the later write takes the slot from the
earlier one: nothing looks at the slot again when the write reaches the device. In
the runs in which the slot of every write is still free then, every slot a setup was
given keeps its channel and its secret.
-/

namespace MeshcoreObserver

open Transition

variable {toLowerCase : Text → Text} {sha256 : List UInt8 → List UInt8} {bots : List Text}

/-- The slot holds the channel, ignoring case, under the index and the secret of the result. -/
def ChannelSlot.Holds (toLowerCase : Text → Text) (slot : ChannelSlot) (channelName : Text)
    (result : Nat × List UInt8) : Prop :=
  slot.channelIdx = result.1 ∧ toLowerCase slot.name = toLowerCase channelName ∧
    slot.secret = result.2

namespace SetupRun

/-- The slot a setup has found or written, from the moment it is settled. -/
def given (toLowerCase : Text → Text) (run : SetupRun) : Option (Nat × List UInt8) :=
  match run.phase with
  | .finished result => result
  | .listed channels =>
      match chooseSlot toLowerCase run.channelName channels with
      | .existing channelIdx secret => some (channelIdx, secret)
      | _ => none
  | _ => none

/-- The slot a setup is about to write, from its listing to the end of its write. -/
def target (toLowerCase : Text → Text) (run : SetupRun) : Option Nat :=
  match run.phase with
  | .creating channelIdx => some channelIdx
  | .listed channels =>
      match chooseSlot toLowerCase run.channelName channels with
      | .create channelIdx => some channelIdx
      | _ => none
  | _ => none

end SetupRun

/-- A queued command belongs to the phase of its setup. -/
def ChannelCommand.Serves (toLowerCase : Text → Text) (sha256 : List UInt8 → List UInt8)
    (command : ChannelCommand) (run : SetupRun) : Prop :=
  match command with
  | .getChannels => run.phase = .listing
  | .setChannel channelIdx name secret =>
      run.phase = .creating channelIdx ∧ name = run.channelName ∧
        secret = deriveHashtagChannelKey toLowerCase sha256 run.channelName

namespace SetupWorld

/-- A write reaches the device only while its slot holds no bot's channel, or else just what is
written. -/
def Vacant (toLowerCase : Text → Text) (bots : List Text) (world : SetupWorld)
    (event : SetupEvent) : Prop :=
  match event, world.commands.running with
  | .commandSettles outcome applied, some (_, .setChannel channelIdx name secret) =>
      outcome = .resolved ∨ applied = true →
        ∀ slot ∈ world.slots, slot.channelIdx = channelIdx →
          (∀ channelName ∈ bots, toLowerCase slot.name ≠ toLowerCase channelName) ∨
            slot.name = name ∧ slot.secret = secret
  | _, _ => True

instance (world : SetupWorld) (event : SetupEvent) :
    Decidable (world.Vacant toLowerCase bots event) := by
  simp only [Vacant]
  split <;> infer_instance

structure Sound (toLowerCase : Text → Text) (sha256 : List UInt8 → List UInt8) (bots : List Text)
    (world : SetupWorld) : Prop where
  indices : (world.slots.map ChannelSlot.channelIdx).Nodup
  known : ∀ run ∈ world.runs, run.channelName ∈ bots
  single : (world.commands.tasks.map Prod.fst).Nodup
  queued : ∀ task ∈ world.commands.tasks, ∃ run, world.runs[task.1]? = some run ∧
    task.2.Serves toLowerCase sha256 run
  kept : ∀ run ∈ world.runs, ∀ result, run.given toLowerCase = some result →
    ∃ slot ∈ world.slots, slot.Holds toLowerCase run.channelName result
  placed : ∀ run ∈ world.runs, ∀ channelIdx, run.target toLowerCase = some channelIdx →
    channelIdx ∈ world.slots.map ChannelSlot.channelIdx

variable {world after : SetupWorld}

theorem become_getElem? {number : Nat} {phase : SetupPhase} {old : SetupRun}
    (present : world.runs[number]? = some old) :
    (world.become number phase)[number]? = some ⟨old.channelName, phase⟩ := by
  simp [become, present]

theorem become_getElem?_of_ne {number index : Nat} {phase : SetupPhase}
    (different : index ≠ number) :
    (world.become number phase)[index]? = world.runs[index]? := by
  simp [become, Ne.symm different]

theorem mem_become {number : Nat} {phase : SetupPhase} {run old : SetupRun}
    (present : world.runs[number]? = some old) (runMem : run ∈ world.become number phase) :
    run ∈ world.runs ∨ run = ⟨old.channelName, phase⟩ := by
  rcases List.getElem?_of_mem runMem with ⟨index, found⟩
  by_cases same : index = number
  · subst index
    rw [become_getElem? present] at found
    exact Or.inr (Option.some.inj found).symm
  · rw [become_getElem?_of_ne same] at found
    exact Or.inl (List.mem_of_getElem? found)

theorem Sound.become (sound : world.Sound toLowerCase sha256 bots) {number : Nat} {old : SetupRun}
    (present : world.runs[number]? = some old) (phase : SetupPhase)
    (commands : SerialQueue (Nat × ChannelCommand))
    (single : (commands.tasks.map Prod.fst).Nodup)
    (served : ∀ task ∈ commands.tasks, if task.1 = number
      then task.2.Serves toLowerCase sha256 ⟨old.channelName, phase⟩
      else task ∈ world.commands.tasks)
    (kept : ∀ result, SetupRun.given toLowerCase ⟨old.channelName, phase⟩ = some result →
      ∃ slot ∈ world.slots, slot.Holds toLowerCase old.channelName result)
    (placed : ∀ channelIdx,
      SetupRun.target toLowerCase ⟨old.channelName, phase⟩ = some channelIdx →
        channelIdx ∈ world.slots.map ChannelSlot.channelIdx) :
    Sound toLowerCase sha256 bots
      { world with commands, runs := world.become number phase } where
  indices := sound.indices
  known := by
    intro run runMem
    rcases mem_become present runMem with before | rfl
    · exact sound.known run before
    · exact sound.known old (List.mem_of_getElem? present)
  single := single
  queued := by
    intro task taskMem
    have served := served task taskMem
    split at served
    · rename_i same
      refine ⟨_, ?_, served⟩
      rw [same]
      exact become_getElem? present
    · rename_i different
      rcases sound.queued task served with ⟨run, found, serves⟩
      exact ⟨run, (become_getElem?_of_ne different).trans found, serves⟩
  kept := by
    intro run runMem result given
    rcases mem_become present runMem with before | rfl
    · exact sound.kept run before result given
    · exact kept result given
  placed := by
    intro run runMem channelIdx target
    rcases mem_become present runMem with before | rfl
    · exact sound.placed run before channelIdx target
    · exact placed channelIdx target

theorem Sound.setup (sound : world.Sound toLowerCase sha256 bots) {channelName : Text}
    (known : channelName ∈ bots) (connected : Bool) :
    (world.setup channelName connected).Sound toLowerCase sha256 bots := by
  have extend : ∀ (phase : SetupPhase) (commands : SerialQueue (Nat × ChannelCommand)),
      SetupRun.given toLowerCase ⟨channelName, phase⟩ = none →
      SetupRun.target toLowerCase ⟨channelName, phase⟩ = none →
      (commands.tasks.map Prod.fst).Nodup →
      (∀ task ∈ commands.tasks, task ∈ world.commands.tasks ∨
        task.1 = world.runs.length ∧
          task.2.Serves toLowerCase sha256 ⟨channelName, phase⟩) →
      Sound toLowerCase sha256 bots
        { world with commands, runs := world.runs ++ [⟨channelName, phase⟩] } := by
    intro phase commands ungiven untargeted single served
    have mem_runs : ∀ {run}, run ∈ world.runs ++ [⟨channelName, phase⟩] →
        run ∈ world.runs ∨ run = ⟨channelName, phase⟩ := by
      intro run runMem
      simpa using runMem
    exact
      { indices := sound.indices
        known := by
          intro run runMem
          rcases mem_runs runMem with before | rfl
          · exact sound.known run before
          · exact known
        single
        queued := by
          intro task taskMem
          rcases served task taskMem with before | ⟨number, serves⟩
          · rcases sound.queued task before with ⟨run, found, serves⟩
            refine ⟨run, ?_, serves⟩
            rw [List.getElem?_append_left (List.getElem?_eq_some_iff.mp found).1]
            exact found
          · exact ⟨⟨channelName, phase⟩, by simp [number], serves⟩
        kept := by
          intro run runMem result given
          rcases mem_runs runMem with before | rfl
          · exact sound.kept run before result given
          · rw [ungiven] at given
            cases given
        placed := by
          intro run runMem channelIdx target
          rcases mem_runs runMem with before | rfl
          · exact sound.placed run before channelIdx target
          · rw [untargeted] at target
            cases target }
  simp only [SetupWorld.setup]
  split
  · apply extend
    · rfl
    · rfl
    · have fresh : world.runs.length ∉ world.commands.tasks.map Prod.fst := by
        intro queued
        rcases List.mem_map.mp queued with ⟨task, taskMem, number⟩
        rcases sound.queued task taskMem with ⟨run, found, _⟩
        have bound := (List.getElem?_eq_some_iff.mp found).1
        omega
      rw [SerialQueue.tasks_submit]
      apply nodup_map_concat Prod.fst sound.single
      intro task taskMem same
      exact fresh (List.mem_map.mpr ⟨task, taskMem, same⟩)
    · intro task taskMem
      simp only [SerialQueue.tasks_submit, List.mem_append, List.mem_singleton] at taskMem
      rcases taskMem with before | rfl
      · exact Or.inl before
      · exact Or.inr ⟨rfl, rfl⟩
  · apply extend
    · rfl
    · rfl
    · exact sound.single
    · intro task taskMem
      exact Or.inl taskMem

theorem Sound.rest (sound : world.Sound toLowerCase sha256 bots) {number : Nat}
    {command : ChannelCommand} (running : world.commands.running = some (number, command)) :
    (world.commands.waiting.map Prod.fst).Nodup ∧
      ∀ task ∈ world.commands.waiting, task.1 ≠ number ∧ task ∈ world.commands.tasks := by
  have single := sound.single
  simp only [SerialQueue.tasks, running, Option.toList_some, List.singleton_append,
    List.map_cons, List.nodup_cons] at single
  refine ⟨single.2, ?_⟩
  intro task taskMem
  refine ⟨?_, List.mem_append_right _ taskMem⟩
  intro same
  exact single.1 (same ▸ List.mem_map_of_mem taskMem)

theorem Sound.settled (sound : world.Sound toLowerCase sha256 bots) {number : Nat}
    {command : ChannelCommand} (running : world.commands.running = some (number, command))
    {old : SetupRun} (present : world.runs[number]? = some old) (phase : SetupPhase)
    (kept : ∀ result, SetupRun.given toLowerCase ⟨old.channelName, phase⟩ = some result →
      ∃ slot ∈ world.slots, slot.Holds toLowerCase old.channelName result)
    (placed : ∀ channelIdx,
      SetupRun.target toLowerCase ⟨old.channelName, phase⟩ = some channelIdx →
        channelIdx ∈ world.slots.map ChannelSlot.channelIdx) :
    Sound toLowerCase sha256 bots
      { world with
        commands := { world.commands with running := none }
        runs := world.become number phase } := by
  rcases sound.rest running with ⟨single, others⟩
  apply sound.become present phase
  · exact single
  · intro task taskMem
    rw [if_neg (others task taskMem).1]
    exact (others task taskMem).2
  · exact kept
  · exact placed

theorem Sound.listed (sound : world.Sound toLowerCase sha256 bots) {number : Nat}
    (running : world.commands.running = some (number, .getChannels)) {old : SetupRun}
    (present : world.runs[number]? = some old) :
    Sound toLowerCase sha256 bots
      { world with
        commands := { world.commands with running := none }
        runs := world.become number (.listed world.slots) } := by
  apply sound.settled running present
  · intro result given
    simp only [SetupRun.given, chooseSlot] at given
    split at given
    · rename_i channelIdx secret chosen
      simp only [Option.some.injEq] at given
      subst result
      split at chosen
      · rename_i existing found
        simp only [SlotChoice.existing.injEq] at chosen
        refine ⟨existing, List.mem_of_find?_eq_some found, chosen.1, ?_, chosen.2⟩
        simpa using List.find?_some found
      · split at chosen <;> cases chosen
    · cases given
  · intro channelIdx target
    simp only [SetupRun.target, chooseSlot] at target
    split at target
    · rename_i chosenIdx chosen
      simp only [Option.some.injEq] at target
      subst chosenIdx
      split at chosen
      · cases chosen
      · split at chosen
        · rename_i emptySlot found
          simp only [SlotChoice.create.injEq] at chosen
          rw [← chosen]
          exact List.mem_map_of_mem (List.mem_of_find?_eq_some found)
        · cases chosen
    · cases target

theorem mem_setChannel {slots : List ChannelSlot} {channelIdx : Nat} {name : Text}
    {secret : List UInt8} {slot : ChannelSlot} (slotMem : slot ∈ slots) :
    (if slot.channelIdx = channelIdx then { slot with name, secret } else slot) ∈
      setChannel slots channelIdx name secret :=
  List.mem_map_of_mem slotMem

theorem setChannel_indices (slots : List ChannelSlot) (channelIdx : Nat) (name : Text)
    (secret : List UInt8) :
    (setChannel slots channelIdx name secret).map ChannelSlot.channelIdx =
      slots.map ChannelSlot.channelIdx := by
  rw [setChannel, List.map_map]
  apply List.map_congr_left
  intro slot _
  simp only [Function.comp_apply]
  split <;> rfl

theorem Sound.write (sound : world.Sound toLowerCase sha256 bots) {channelIdx : Nat}
    {name : Text} {secret : List UInt8}
    (vacant : ∀ slot ∈ world.slots, slot.channelIdx = channelIdx →
      (∀ channelName ∈ bots, toLowerCase slot.name ≠ toLowerCase channelName) ∨
        slot.name = name ∧ slot.secret = secret) :
    Sound toLowerCase sha256 bots
      { world with slots := setChannel world.slots channelIdx name secret } :=
  { sound with
    indices := by
      rw [setChannel_indices]
      exact sound.indices
    kept := by
      intro run runMem result given
      rcases sound.kept run runMem result given with ⟨keeper, keeperMem, idx, sameName, sameSecret⟩
      refine ⟨_, mem_setChannel keeperMem, ?_⟩
      split
      · rename_i overwritten
        rcases vacant keeper keeperMem overwritten with free | ⟨own, ownSecret⟩
        · exact absurd sameName (free run.channelName (sound.known run runMem))
        · rw [own] at sameName
          exact ⟨idx, sameName, ownSecret.symm.trans sameSecret⟩
      · exact ⟨idx, sameName, sameSecret⟩
    placed := by
      intro run runMem target targeted
      rw [setChannel_indices]
      exact sound.placed run runMem target targeted }

theorem Sound.refused (sound : world.Sound toLowerCase sha256 bots) {number : Nat}
    {command : ChannelCommand} (running : world.commands.running = some (number, command)) :
    Sound toLowerCase sha256 bots
      { world with
        commands := { world.commands with running := none }
        runs := world.become number (.finished none) } := by
  rcases sound.queued _ (SerialQueue.mem_tasks_of_running running) with ⟨old, present, _⟩
  apply sound.settled running present
  · intro result given
    cases given
  · intro channelIdx targeted
    cases targeted

theorem Sound.created (sound : world.Sound toLowerCase sha256 bots)
    {number channelIdx : Nat} {name : Text} {secret : List UInt8}
    (running : world.commands.running = some (number, .setChannel channelIdx name secret))
    (vacant : ∀ slot ∈ world.slots, slot.channelIdx = channelIdx →
      (∀ channelName ∈ bots, toLowerCase slot.name ≠ toLowerCase channelName) ∨
        slot.name = name ∧ slot.secret = secret) :
    Sound toLowerCase sha256 bots
      { slots := setChannel world.slots channelIdx name secret
        commands := { world.commands with running := none }
        runs := world.become number (.finished (some (channelIdx, secret))) } := by
  rcases sound.queued _ (SerialQueue.mem_tasks_of_running running) with
    ⟨writer, present, phase, rfl, rfl⟩
  have target : writer.target toLowerCase = some channelIdx := by
    simp only [SetupRun.target, phase]
  apply (sound.write vacant).settled running present
  · intro result given
    simp only [SetupRun.given, Option.some.injEq] at given
    subst result
    rcases List.mem_map.mp (sound.placed writer (List.mem_of_getElem? present) channelIdx target)
      with ⟨slot, slotMem, rfl⟩
    refine ⟨_, mem_setChannel slotMem, ?_⟩
    rw [if_pos rfl]
    exact ⟨rfl, rfl, rfl⟩
  · intro other targeted
    cases targeted

theorem Sound.settle (sound : world.Sound toLowerCase sha256 bots)
    {outcome : Outcome} {applied : Bool}
    (vacant : world.Vacant toLowerCase bots (.commandSettles outcome applied))
    (stepped : world.settle outcome applied = some after) :
    after.Sound toLowerCase sha256 bots := by
  simp only [SetupWorld.settle] at stepped
  split at stepped
  · cases stepped
  · rename_i number running
    simp only [Option.some.injEq] at stepped
    subst after
    rcases sound.queued _ (SerialQueue.mem_tasks_of_running running) with ⟨old, present, _⟩
    cases outcome with
    | resolved => exact sound.listed running present
    | rejected => exact sound.refused running
  · rename_i running
    simp only [Option.some.injEq] at stepped
    subst after
    simp only [Vacant, running] at vacant
    cases outcome with
    | resolved =>
        simp only [true_or, if_true]
        exact sound.created running (vacant (Or.inl rfl))
    | rejected =>
        split
        · rename_i reached
          exact (sound.write (vacant reached)).refused running
        · exact sound.refused running

theorem Sound.resume (sound : world.Sound toLowerCase sha256 bots) {number : Nat}
    {connected : Bool}
    (stepped : world.resume toLowerCase sha256 number connected = some after) :
    after.Sound toLowerCase sha256 bots := by
  simp only [SetupWorld.resume] at stepped
  split at stepped
  · rename_i channelName channels present
    have oldMem := List.mem_of_getElem? present
    have idle : ∀ task ∈ world.commands.tasks, task.1 ≠ number := by
      rintro ⟨other, command⟩ taskMem same
      simp only at same
      subst other
      rcases sound.queued _ taskMem with ⟨run, found, serves⟩
      simp only [present, Option.some.injEq] at found
      subst run
      cases command with
      | getChannels => cases serves
      | setChannel channelIdx name secret => cases serves.1
    have unqueued : ∀ phase, ∀ task ∈ world.commands.tasks, if task.1 = number
        then task.2.Serves toLowerCase sha256 ⟨channelName, phase⟩
        else task ∈ world.commands.tasks := by
      intro phase task taskMem
      rw [if_neg (idle task taskMem)]
      exact taskMem
    have finish : ∀ result, (∀ given, result = some given →
        SetupRun.given toLowerCase ⟨channelName, .listed channels⟩ = some given) →
        Sound toLowerCase sha256 bots
          { world with runs := world.become number (.finished result) } := by
      intro result given
      apply sound.become present _ world.commands sound.single (unqueued _)
      · intro found finished
        exact sound.kept _ oldMem found (given found finished)
      · intro other targeted
        cases targeted
    split at stepped
    · rename_i channelIdx secret chosen
      simp only [Option.some.injEq] at stepped
      subst after
      apply finish
      intro given found
      simpa only [SetupRun.given, chosen] using found
    · simp only [Option.some.injEq] at stepped
      subst after
      apply finish
      nofun
    · rename_i channelIdx chosen
      have target : SetupRun.target toLowerCase ⟨channelName, .listed channels⟩ =
          some channelIdx := by
        simp only [SetupRun.target, chosen]
      split at stepped
      · simp only [Option.some.injEq] at stepped
        subst after
        apply sound.become present
        · rw [SerialQueue.tasks_submit]
          apply nodup_map_concat Prod.fst sound.single
          intro task taskMem
          exact idle task taskMem
        · intro task taskMem
          simp only [SerialQueue.tasks_submit, List.mem_append, List.mem_singleton] at taskMem
          rcases taskMem with before | rfl
          · rw [if_neg (idle task before)]
            exact before
          · rw [if_pos rfl]
            exact ⟨rfl, rfl, rfl⟩
        · intro result given
          cases given
        · intro other targeted
          simp only [SetupRun.target, Option.some.injEq] at targeted
          subst other
          exact sound.placed _ oldMem channelIdx target
      · simp only [Option.some.injEq] at stepped
        subst after
        apply finish
        nofun
  · cases stepped

theorem Sound.step (sound : world.Sound toLowerCase sha256 bots)
    {event : SetupEvent} (vacant : world.Vacant toLowerCase bots event)
    (stepped : world.step toLowerCase sha256 bots event = some after) :
    after.Sound toLowerCase sha256 bots := by
  cases event with
  | setup bot connected =>
      simp only [SetupWorld.step, Option.map_eq_some_iff] at stepped
      rcases stepped with ⟨channelName, found, rfl⟩
      exact sound.setup (List.mem_of_getElem? found) connected
  | commandStarts =>
      simp only [SetupWorld.step, Option.map_eq_some_iff] at stepped
      rcases stepped with ⟨commands, starts, rfl⟩
      have tasks := SerialQueue.tasks_start starts
      exact
        { sound with
          single := tasks ▸ sound.single
          queued := fun task taskMem => sound.queued task (tasks ▸ taskMem) }
  | commandSettles outcome applied => exact sound.settle vacant stepped
  | resume number connected => exact sound.resume stepped

end SetupWorld

end MeshcoreObserver
