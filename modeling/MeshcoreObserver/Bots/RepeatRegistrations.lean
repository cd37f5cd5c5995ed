import MeshcoreObserver.Bots.RepeatCheckTracker
import Mathlib.Data.List.Count
import Mathlib.Data.List.Nodup

/-!
# Registrations of repeat checks

Seen from outside, a `RepeatCheckTracker` is one queue of registrations for each
text. Each of its operations is read through that, and each accounts for every
registration it takes out. None of them depends on the information a
registration carries.
-/

namespace MeshcoreObserver

universe u

/-- The same registration with other information. -/
def RepeatEntry.mapInfo {Meta Other : Type u} (change : Meta → Other) (entry : RepeatEntry Meta) :
    RepeatEntry Other :=
  ⟨change entry.info, entry.expiresAt, entry.sentAt⟩

namespace RepeatCheckTracker

variable {Meta : Type u}

def entries (tracker : RepeatCheckTracker Meta) : List (RepeatEntry Meta) :=
  tracker.pendingByText.flatMap Prod.snd

/-- The size counts the registrations and is bounded, and every text has one list, which is not
empty. -/
structure WellFormed (tracker : RepeatCheckTracker Meta) : Prop where
  size : tracker.totalPending = tracker.entries.length
  bounded : tracker.totalPending ≤ tracker.maxEntries
  nonempty : ∀ pending ∈ tracker.pendingByText, pending.2 ≠ []
  distinct : (tracker.pendingByText.map Prod.fst).Nodup

theorem wellFormed_new (timeoutMs : Int) (maxEntries : Nat) :
    (new timeoutMs maxEntries : RepeatCheckTracker Meta).WellFormed where
  size := rfl
  bounded := Int.natCast_nonneg maxEntries
  nonempty := by simp [new]
  distinct := List.nodup_nil

section Lists

variable {pendingByText : List (Text × List (RepeatEntry Meta))}

theorem flatMap_filter_nonempty :
    (pendingByText.filter fun pending => pending.2 ≠ []).flatMap Prod.snd =
      pendingByText.flatMap Prod.snd := by
  induction pendingByText with
  | nil => rfl
  | cons pending others ih =>
      by_cases empty : pending.2 = []
      · rw [List.filter_cons_of_neg (by simpa using empty), ih, List.flatMap_cons, empty,
          List.nil_append]
      · rw [List.filter_cons_of_pos (by simpa using empty), List.flatMap_cons, ih,
          List.flatMap_cons]

theorem flatMap_takeWhile_perm (now : Int) :
    (pendingByText.flatMap Prod.snd).Perm
      ((pendingByText.flatMap fun pending =>
          pending.2.takeWhile fun entry => entry.expiresAt ≤ now) ++
        (pendingByText.map fun pending =>
          (pending.1, pending.2.dropWhile fun entry => entry.expiresAt ≤ now)).flatMap
            Prod.snd) := by
  induction pendingByText with
  | nil => exact List.Perm.refl []
  | cons pending others ih =>
      classical
      rw [List.perm_iff_count] at ih ⊢
      intro entry
      have rest := ih entry
      have own := congrArg (List.count entry)
        (List.takeWhile_append_dropWhile : pending.2.takeWhile
          (fun entry => decide (entry.expiresAt ≤ now)) ++ _ = pending.2)
      simp only [List.flatMap_cons, List.map_cons, List.count_append] at rest own ⊢
      omega

theorem flatMap_append_perm (text : Text) (entry : RepeatEntry Meta)
    (pendingByText : List (Text × List (RepeatEntry Meta))) :
    ((append text entry pendingByText).flatMap Prod.snd).Perm
      (pendingByText.flatMap Prod.snd ++ [entry]) := by
  induction pendingByText with
  | nil => exact List.Perm.refl [entry]
  | cons pending others ih =>
      classical
      rw [List.perm_iff_count] at ih ⊢
      intro other
      have rest := ih other
      simp only [append]
      split
      · simp only [List.flatMap_cons, List.count_append]
        omega
      · simp only [List.flatMap_cons, List.count_append] at rest ⊢
        omega

theorem mem_append_iff {text : Text} {entry : RepeatEntry Meta} :
    ∀ {pending : Text × List (RepeatEntry Meta)}, pending ∈ append text entry pendingByText →
      pending ∈ pendingByText ∨ pending.1 = text ∧ pending.2 ≠ [] := by
  induction pendingByText with
  | nil =>
      intro pending pendingMem
      rw [append, List.mem_singleton] at pendingMem
      subst pending
      exact .inr ⟨rfl, List.cons_ne_nil _ _⟩
  | cons first others ih =>
      intro pending pendingMem
      rw [append] at pendingMem
      split at pendingMem
      · rcases List.mem_cons.mp pendingMem with rfl | old
        · exact .inr ⟨rfl, by simp⟩
        · exact .inl (List.mem_cons_of_mem _ old)
      · rcases List.mem_cons.mp pendingMem with rfl | later
        · exact .inl List.mem_cons_self
        · rcases ih later with old | fresh
          · exact .inl (List.mem_cons_of_mem _ old)
          · exact .inr fresh

theorem nodup_append (text : Text) (entry : RepeatEntry Meta)
    (distinct : (pendingByText.map Prod.fst).Nodup) :
    ((append text entry pendingByText).map Prod.fst).Nodup := by
  induction pendingByText with
  | nil => exact List.nodup_singleton text
  | cons first others ih =>
      rw [List.map_cons, List.nodup_cons] at distinct
      rw [append]
      split
      · rename_i same
        rw [List.map_cons, List.nodup_cons, ← same]
        exact distinct
      · rename_i apart
        rw [List.map_cons, List.nodup_cons]
        refine ⟨?_, ih distinct.2⟩
        intro firstMem
        rcases List.mem_map.mp firstMem with ⟨pending, pendingMem, same⟩
        rcases mem_append_iff pendingMem with old | fresh
        · apply distinct.1
          rw [← same]
          exact List.mem_map_of_mem old
        · exact apart (same.symm.trans fresh.1)

/-- What is evicted, one registration at a time. -/
theorem evictOldest_induction
    {motive : Nat → List (Text × List (RepeatEntry Meta)) →
      List (Text × List (RepeatEntry Meta)) × List Meta → Prop}
    (zero : ∀ pending, motive 0 pending (pending, []))
    (nil : ∀ count, motive (count + 1) [] ([], []))
    (empty : ∀ count text others result, motive (count + 1) others result →
      motive (count + 1) ((text, []) :: others) result)
    (last : ∀ count text entry others result, motive count others result →
      motive (count + 1) ((text, [entry]) :: others) (result.1, entry.info :: result.2))
    (more : ∀ count text entry next entries others result,
      motive count ((text, next :: entries) :: others) result →
        motive (count + 1) ((text, entry :: next :: entries) :: others)
          (result.1, entry.info :: result.2))
    (count : Nat) (pendingByText : List (Text × List (RepeatEntry Meta))) :
    motive count pendingByText (evictOldest count pendingByText) := by
  induction count generalizing pendingByText with
  | zero =>
      rw [evictOldest]
      exact zero pendingByText
  | succ count ih =>
      induction pendingByText with
      | nil =>
          rw [evictOldest]
          exact nil count
      | cons pending others ihOthers =>
          rcases pending with ⟨text, entries⟩
          cases entries with
          | nil =>
              rw [evictOldest]
              exact empty count text others _ ihOthers
          | cons entry entries =>
              cases entries with
              | nil =>
                  rw [evictOldest, if_pos rfl]
                  exact last count text entry others _ (ih others)
              | cons next entries =>
                  rw [evictOldest, if_neg (List.cons_ne_nil _ _)]
                  exact more count text entry next entries others _ (ih _)

/-- Registrations are evicted in the order of the map. -/
theorem evictOldest_eq (count : Nat) (pendingByText : List (Text × List (RepeatEntry Meta))) :
    (pendingByText.flatMap Prod.snd).map RepeatEntry.info =
        (evictOldest count pendingByText).2 ++
          ((evictOldest count pendingByText).1.flatMap Prod.snd).map RepeatEntry.info ∧
      (evictOldest count pendingByText).2.length =
        min count (pendingByText.flatMap Prod.snd).length := by
  apply evictOldest_induction (motive := fun count pending result =>
    (pending.flatMap Prod.snd).map RepeatEntry.info =
        result.2 ++ (result.1.flatMap Prod.snd).map RepeatEntry.info ∧
      result.2.length = min count (pending.flatMap Prod.snd).length)
  case zero =>
    intro pending
    simp
  case nil =>
    intro count
    simp
  case empty =>
    intro count text others result ih
    simpa using ih
  case last =>
    rintro count text entry others result ⟨order, length⟩
    simp only [List.flatMap_cons, List.cons_append, List.nil_append, List.map_cons,
      List.length_cons]
    rw [order, length]
    exact ⟨rfl, by omega⟩
  case more =>
    rintro count text entry next entries others result ⟨order, length⟩
    simp only [List.flatMap_cons, List.cons_append, List.map_cons,
      List.length_cons] at order length ⊢
    rw [order, length]
    exact ⟨rfl, by omega⟩

theorem evictOldest_sublist (count : Nat)
    (pendingByText : List (Text × List (RepeatEntry Meta))) :
    List.Sublist ((evictOldest count pendingByText).1.map Prod.fst)
      (pendingByText.map Prod.fst) := by
  apply evictOldest_induction (motive := fun _ pending result =>
    List.Sublist (result.1.map Prod.fst) (pending.map Prod.fst))
  case zero => exact fun pending => List.Sublist.refl _
  case nil => exact fun count => List.Sublist.refl _
  case empty => exact fun count text others result ih => ih.cons text
  case last => exact fun count text entry others result ih => ih.cons text
  case more => exact fun count text entry next entries others result ih => ih

theorem evictOldest_nonempty (count : Nat) (nonempty : ∀ pending ∈ pendingByText, pending.2 ≠ []) :
    ∀ pending ∈ (evictOldest count pendingByText).1, pending.2 ≠ [] := by
  revert nonempty
  apply evictOldest_induction (motive := fun _ pending result =>
    (∀ entry ∈ pending, entry.2 ≠ []) → ∀ entry ∈ result.1, entry.2 ≠ [])
  case zero => exact fun pending nonempty => nonempty
  case nil => exact fun count nonempty => nonempty
  case empty =>
    intro count text others result ih nonempty
    exact ih (List.forall_mem_cons.mp nonempty).2
  case last =>
    intro count text entry others result ih nonempty
    exact ih (List.forall_mem_cons.mp nonempty).2
  case more =>
    intro count text entry next entries others result ih nonempty
    apply ih
    rw [List.forall_mem_cons] at nonempty ⊢
    exact ⟨List.cons_ne_nil _ _, nonempty.2⟩

def entriesFor (text : Text) (pendingByText : List (Text × List (RepeatEntry Meta))) :
    List (RepeatEntry Meta) :=
  ((pendingByText.find? fun pending => pending.1 = text).map Prod.snd).getD []

theorem entriesFor_cons (text : Text) (pending : Text × List (RepeatEntry Meta))
    (others : List (Text × List (RepeatEntry Meta))) :
    entriesFor text (pending :: others) =
      if pending.1 = text then pending.2 else entriesFor text others := by
  rw [entriesFor, List.find?_cons]
  split
  · rename_i same
    rw [if_pos (of_decide_eq_true same)]
    rfl
  · rename_i apart
    rw [if_neg (of_decide_eq_false apart)]
    rfl

theorem entriesFor_of_notMem {text : Text} (absent : text ∉ pendingByText.map Prod.fst) :
    entriesFor text pendingByText = [] := by
  rw [entriesFor, List.find?_eq_none.mpr]
  · rfl
  · intro pending pendingMem same
    apply absent
    rw [← of_decide_eq_true same]
    exact List.mem_map_of_mem pendingMem

theorem entriesFor_evicted (text : Text) (now : Int)
    (distinct : (pendingByText.map Prod.fst).Nodup) :
    entriesFor text ((pendingByText.map fun pending =>
        (pending.1, pending.2.dropWhile fun entry => entry.expiresAt ≤ now)).filter fun pending =>
          pending.2 ≠ []) =
      (entriesFor text pendingByText).dropWhile fun entry => entry.expiresAt ≤ now := by
  induction pendingByText with
  | nil => rfl
  | cons pending others ih =>
      rw [List.map_cons, List.nodup_cons] at distinct
      rw [entriesFor_cons, List.map_cons, List.filter_cons]
      by_cases same : pending.1 = text
      · rw [if_pos same]
        split
        · rw [entriesFor_cons, if_pos same]
        · rename_i gone
          rw [ih distinct.2, entriesFor_of_notMem (by rw [← same]; exact distinct.1)]
          simpa using gone
      · rw [if_neg same]
        split
        · rw [entriesFor_cons, if_neg same]
          exact ih distinct.2
        · exact ih distinct.2

theorem entriesFor_filter {text other : Text} :
    entriesFor other (pendingByText.filter fun pending => pending.1 ≠ text) =
      if other = text then [] else entriesFor other pendingByText := by
  induction pendingByText with
  | nil => simp [entriesFor]
  | cons pending others ih =>
      rw [List.filter_cons, entriesFor_cons]
      by_cases same : pending.1 = text
      · rw [if_neg (by simpa using same), ih, same]
        split
        · rfl
        · rename_i apart
          rw [if_neg (Ne.symm apart)]
      · rw [if_pos (by simpa using same), entriesFor_cons, ih]
        split
        · rename_i found
          rw [if_neg (by rw [← found]; exact same)]
        · rfl

/-- The list of a text is put in the place of the one it had. -/
def replaced (text : Text) (entries : List (RepeatEntry Meta))
    (pendingByText : List (Text × List (RepeatEntry Meta))) :
    List (Text × List (RepeatEntry Meta)) :=
  pendingByText.map fun pending => if pending.1 = text then (text, entries) else pending

theorem replaced_cons (text : Text) (entries : List (RepeatEntry Meta))
    (pending : Text × List (RepeatEntry Meta)) (others : List (Text × List (RepeatEntry Meta))) :
    replaced text entries (pending :: others) =
      (if pending.1 = text then (text, entries) else pending) :: replaced text entries others :=
  List.map_cons

theorem keys_replaced (text : Text) (entries : List (RepeatEntry Meta)) :
    (replaced text entries pendingByText).map Prod.fst = pendingByText.map Prod.fst := by
  rw [replaced, List.map_map]
  apply List.map_congr_left
  intro pending _
  simp only [Function.comp_apply]
  split
  · rename_i same
    exact same.symm
  · rfl

theorem filter_replaced (text : Text) (entries : List (RepeatEntry Meta)) :
    (replaced text entries pendingByText).filter (fun pending => pending.1 ≠ text) =
      pendingByText.filter fun pending => pending.1 ≠ text := by
  induction pendingByText with
  | nil => rfl
  | cons pending others ih =>
      rw [replaced_cons]
      by_cases same : pending.1 = text
      · rw [if_pos same, List.filter_cons_of_neg (by simp),
          List.filter_cons_of_neg (by simpa using same)]
        exact ih
      · rw [if_neg same, List.filter_cons_of_pos (by simpa using same),
          List.filter_cons_of_pos (by simpa using same), ih]

theorem entriesFor_replaced_self {text : Text} {entries : List (RepeatEntry Meta)}
    (known : text ∈ pendingByText.map Prod.fst) :
    entriesFor text (replaced text entries pendingByText) = entries := by
  induction pendingByText with
  | nil => cases known
  | cons pending others ih =>
      rw [replaced_cons, entriesFor_cons]
      by_cases same : pending.1 = text
      · rw [if_pos same, if_pos rfl]
      · rw [if_neg same, if_neg same]
        apply ih
        rw [List.map_cons, List.mem_cons] at known
        exact known.resolve_left (Ne.symm same)

theorem entriesFor_replaced_of_ne {text other : Text} {entries : List (RepeatEntry Meta)}
    (apart : other ≠ text) :
    entriesFor other (replaced text entries pendingByText) = entriesFor other pendingByText := by
  induction pendingByText with
  | nil => rfl
  | cons pending others ih =>
      rw [replaced_cons, entriesFor_cons, entriesFor_cons, ih]
      by_cases same : pending.1 = text
      · have absent : pending.1 ≠ other := fun found => apart (found.symm.trans same)
        rw [if_pos same, if_neg (Ne.symm apart), if_neg absent]
      · rw [if_neg same]

theorem flatMap_perm_entriesFor (text : Text) (distinct : (pendingByText.map Prod.fst).Nodup) :
    (pendingByText.flatMap Prod.snd).Perm
      (entriesFor text pendingByText ++
        (pendingByText.filter fun pending => pending.1 ≠ text).flatMap Prod.snd) := by
  induction pendingByText with
  | nil => exact List.Perm.refl []
  | cons pending others ih =>
      rw [List.map_cons, List.nodup_cons] at distinct
      rw [List.flatMap_cons, entriesFor_cons]
      by_cases same : pending.1 = text
      · have rest := ih distinct.2
        rw [entriesFor_of_notMem (by rw [← same]; exact distinct.1), List.nil_append] at rest
        rw [if_pos same, List.filter_cons_of_neg (by simpa using same)]
        exact rest.append_left pending.2
      · rw [if_neg same, List.filter_cons_of_pos (by simpa using same), List.flatMap_cons]
        apply ((ih distinct.2).append_left pending.2).trans
        rw [← List.append_assoc, ← List.append_assoc]
        exact List.perm_append_comm.append_right _

/-- The map once the first registration of a text is taken out, and these are left of it. -/
def leaving (text : Text) (entries : List (RepeatEntry Meta))
    (pendingByText : List (Text × List (RepeatEntry Meta))) :
    List (Text × List (RepeatEntry Meta)) :=
  if entries = [] then pendingByText.filter fun pending => pending.1 ≠ text
  else replaced text entries pendingByText

theorem entriesFor_leaving {text other : Text} {entries : List (RepeatEntry Meta)}
    (known : text ∈ pendingByText.map Prod.fst) :
    entriesFor other (leaving text entries pendingByText) =
      if other = text then entries else entriesFor other pendingByText := by
  rw [leaving]
  split
  · rename_i none
    rw [entriesFor_filter, none]
  · split
    · rename_i own
      rw [own, entriesFor_replaced_self known]
    · rename_i apart
      exact entriesFor_replaced_of_ne apart

theorem nodup_leaving (text : Text) (entries : List (RepeatEntry Meta))
    (distinct : (pendingByText.map Prod.fst).Nodup) :
    ((leaving text entries pendingByText).map Prod.fst).Nodup := by
  rw [leaving]
  split
  · exact distinct.sublist (List.filter_sublist.map Prod.fst)
  · rw [keys_replaced]
    exact distinct

theorem flatMap_leaving_perm {text : Text} (entries : List (RepeatEntry Meta))
    (known : text ∈ pendingByText.map Prod.fst)
    (distinct : (pendingByText.map Prod.fst).Nodup) :
    ((leaving text entries pendingByText).flatMap Prod.snd).Perm
      (entries ++ (pendingByText.filter fun pending => pending.1 ≠ text).flatMap Prod.snd) := by
  have split := flatMap_perm_entriesFor text (nodup_leaving text entries distinct)
  rw [entriesFor_leaving known, if_pos rfl] at split
  apply split.trans
  rw [leaving]
  split
  · rw [List.filter_filter]
    simp only [Bool.and_self]
    exact List.Perm.refl _
  · rw [filter_replaced]

theorem leaving_nonempty {text : Text} {entries : List (RepeatEntry Meta)}
    (nonempty : ∀ pending ∈ pendingByText, pending.2 ≠ []) :
    ∀ pending ∈ leaving text entries pendingByText, pending.2 ≠ [] := by
  intro pending pendingMem
  rw [leaving] at pendingMem
  split at pendingMem
  · exact nonempty pending (List.mem_of_mem_filter pendingMem)
  · rename_i some
    rcases List.mem_map.mp pendingMem with ⟨old, oldMem, rfl⟩
    split
    · exact some
    · exact nonempty old oldMem

theorem mem_of_entriesFor_ne_nil {text : Text} (some : entriesFor text pendingByText ≠ []) :
    text ∈ pendingByText.map Prod.fst := by
  by_contra absent
  exact some (entriesFor_of_notMem absent)

end Lists

/-- The registrations of a text which have not expired. -/
def waiting (tracker : RepeatCheckTracker Meta) (text : Text) (now : Int) :
    List (RepeatEntry Meta) :=
  (entriesFor text tracker.pendingByText).dropWhile fun entry => entry.expiresAt ≤ now

section Operations

variable {tracker : RepeatCheckTracker Meta} {text : Text} {now : Int}

theorem entriesFor_evictExpired (wellFormed : tracker.WellFormed) (text : Text) (now : Int) :
    entriesFor text (tracker.evictExpired now).1.pendingByText = tracker.waiting text now :=
  entriesFor_evicted text now wellFormed.distinct

theorem evictExpired_perm (tracker : RepeatCheckTracker Meta) (now : Int) :
    tracker.entries.Perm (tracker.expired now ++ (tracker.evictExpired now).1.entries) := by
  apply (flatMap_takeWhile_perm now).trans
  rw [entries, evictExpired, flatMap_filter_nonempty]
  exact List.Perm.refl _

theorem WellFormed.evictExpired (wellFormed : tracker.WellFormed) (now : Int) :
    (tracker.evictExpired now).1.WellFormed := by
  rcases wellFormed with ⟨size, bounded, nonempty, distinct⟩
  have length := (tracker.evictExpired_perm now).length_eq
  rw [List.length_append] at length
  have less : (tracker.evictExpired now).1.totalPending =
      tracker.totalPending - (tracker.expired now).length := rfl
  have bound : (tracker.evictExpired now).1.maxEntries = tracker.maxEntries := rfl
  refine ⟨?_, ?_, ?_, ?_⟩
  · omega
  · omega
  · intro pending pendingMem
    exact of_decide_eq_true (List.mem_filter.mp pendingMem).2
  · have keys : (tracker.pendingByText.map fun pending => (pending.1, pending.2.dropWhile
        fun entry => entry.expiresAt ≤ now)).map Prod.fst = tracker.pendingByText.map Prod.fst := by
      rw [List.map_map]
      rfl
    rw [← keys] at distinct
    exact distinct.sublist (List.filter_sublist.map Prod.fst)

/-- What goes because there are too many is taken from the front. -/
theorem evictOverflow_eq (tracker : RepeatCheckTracker Meta) :
    tracker.entries.map RepeatEntry.info =
      tracker.evictOverflow.2 ++ tracker.evictOverflow.1.entries.map RepeatEntry.info :=
  (evictOldest_eq _ tracker.pendingByText).1

theorem wellFormed_evictOverflow (size : tracker.totalPending = tracker.entries.length)
    (nonempty : ∀ pending ∈ tracker.pendingByText, pending.2 ≠ [])
    (distinct : (tracker.pendingByText.map Prod.fst).Nodup) :
    tracker.evictOverflow.1.WellFormed := by
  have order := congrArg List.length tracker.evictOverflow_eq
  have evicted : tracker.evictOverflow.2.length =
      min (tracker.totalPending - tracker.maxEntries).toNat tracker.entries.length :=
    (evictOldest_eq _ tracker.pendingByText).2
  have less : tracker.evictOverflow.1.totalPending =
      tracker.totalPending - tracker.evictOverflow.2.length := rfl
  have bound : tracker.evictOverflow.1.maxEntries = tracker.maxEntries := rfl
  rw [List.length_map, List.length_append, List.length_map] at order
  refine ⟨?_, ?_, evictOldest_nonempty _ nonempty, distinct.sublist (evictOldest_sublist _ _)⟩
  · omega
  · omega

/-- The tracker with a registration, before what does not fit is evicted. -/
def registered (tracker : RepeatCheckTracker Meta) (text : Text) (info : Meta) (now : Int) :
    RepeatCheckTracker Meta :=
  let kept := (tracker.evictExpired now).1
  { kept with
    pendingByText := append text ⟨info, now + tracker.timeoutMs, now⟩ kept.pendingByText
    totalPending := kept.totalPending + 1 }

theorem register_eq (tracker : RepeatCheckTracker Meta) (text : Text) (info : Meta) (now : Int) :
    tracker.register text info now =
      ((tracker.registered text info now).evictOverflow.1, (tracker.evictExpired now).2,
        (tracker.registered text info now).evictOverflow.2) :=
  rfl

theorem WellFormed.registered (wellFormed : tracker.WellFormed) (text : Text) (info : Meta)
    (now : Int) :
    (tracker.registered text info now).totalPending =
        (tracker.registered text info now).entries.length ∧
      (∀ pending ∈ (tracker.registered text info now).pendingByText, pending.2 ≠ []) ∧
      ((tracker.registered text info now).pendingByText.map Prod.fst).Nodup := by
  have kept := wellFormed.evictExpired now
  have length := (flatMap_append_perm text ⟨info, now + tracker.timeoutMs, now⟩
    (tracker.evictExpired now).1.pendingByText).length_eq
  have more : (tracker.registered text info now).totalPending =
      (tracker.evictExpired now).1.totalPending + 1 := rfl
  have size := kept.size
  rw [List.length_append, List.length_singleton] at length
  rw [entries] at size
  refine ⟨?_, ?_, ?_⟩
  · rw [entries, more, size]
    simp only [RepeatCheckTracker.registered]
    omega
  · intro pending pendingMem
    rcases mem_append_iff pendingMem with old | fresh
    · exact kept.nonempty pending old
    · exact fresh.2
  · exact nodup_append text _ kept.distinct

theorem WellFormed.register (wellFormed : tracker.WellFormed) (text : Text) (info : Meta)
    (now : Int) : (tracker.register text info now).1.WellFormed := by
  rcases wellFormed.registered text info now with ⟨size, nonempty, distinct⟩
  rw [register_eq]
  exact wellFormed_evictOverflow size nonempty distinct

/-- Registering takes out what has expired and what does not fit, and puts the reply in. -/
theorem register_perm (tracker : RepeatCheckTracker Meta) (text : Text) (info : Meta) (now : Int) :
    (tracker.entries.map RepeatEntry.info ++ [info]).Perm
      ((tracker.register text info now).2.1 ++ ((tracker.register text info now).2.2 ++
        (tracker.register text info now).1.entries.map RepeatEntry.info)) := by
  have kept := (tracker.evictExpired_perm now).map RepeatEntry.info
  have added := (flatMap_append_perm text ⟨info, now + tracker.timeoutMs, now⟩
    (tracker.evictExpired now).1.pendingByText).map RepeatEntry.info
  rw [List.map_append] at kept
  rw [List.map_append, List.map_singleton] at added
  rw [register_eq]
  simp only
  rw [← evictOverflow_eq]
  apply (kept.append_right [info]).trans
  rw [List.append_assoc]
  exact added.symm.append_left _

/-- A check confirms the oldest registration of the text that has not expired. -/
theorem checkAndConsume_eq (wellFormed : tracker.WellFormed) (text : Text) (now : Int) :
    tracker.checkAndConsume text now =
      match tracker.waiting text now with
      | [] => ((tracker.evictExpired now).1, none, (tracker.evictExpired now).2)
      | entry :: entries =>
          ({ (tracker.evictExpired now).1 with
              pendingByText := leaving text entries (tracker.evictExpired now).1.pendingByText
              totalPending := (tracker.evictExpired now).1.totalPending - 1 },
            some ⟨entry.info, now - entry.sentAt⟩, (tracker.evictExpired now).2) := by
  have waiting := entriesFor_evictExpired wellFormed text now
  rw [entriesFor] at waiting
  rw [← waiting, checkAndConsume]
  cases (tracker.evictExpired now).1.pendingByText.find? fun pending => pending.1 = text with
  | none => rfl
  | some pending =>
      rcases pending with ⟨key, entries⟩
      cases entries with
      | nil => rfl
      | cons entry entries => rfl

/-- Checking takes out what has expired and what is confirmed. -/
theorem checkAndConsume_perm (wellFormed : tracker.WellFormed) (text : Text) (now : Int) :
    (tracker.entries.map RepeatEntry.info).Perm
      ((tracker.checkAndConsume text now).2.2 ++
        ((tracker.checkAndConsume text now).2.1.toList.map Confirmation.info ++
          (tracker.checkAndConsume text now).1.entries.map RepeatEntry.info)) := by
  have kept := (tracker.evictExpired_perm now).map RepeatEntry.info
  have waiting := entriesFor_evictExpired wellFormed text now
  rw [List.map_append] at kept
  rw [checkAndConsume_eq wellFormed]
  cases queue : tracker.waiting text now with
  | nil => exact kept
  | cons entry entries =>
      rw [queue] at waiting
      have distinct := (wellFormed.evictExpired now).distinct
      have known := mem_of_entriesFor_ne_nil (by rw [waiting]; exact List.cons_ne_nil _ _)
      have split := (flatMap_perm_entriesFor text distinct).map RepeatEntry.info
      have left := (flatMap_leaving_perm entries known distinct).map RepeatEntry.info
      rw [waiting] at split
      apply kept.trans
      apply List.Perm.append_left
      exact split.trans (left.symm.cons entry.info)

theorem WellFormed.checkAndConsume (wellFormed : tracker.WellFormed) (text : Text) (now : Int) :
    (tracker.checkAndConsume text now).1.WellFormed := by
  have waiting := entriesFor_evictExpired wellFormed text now
  have kept := wellFormed.evictExpired now
  rw [checkAndConsume_eq wellFormed]
  cases queue : tracker.waiting text now with
  | nil => exact kept
  | cons entry entries =>
      rw [queue] at waiting
      have known := mem_of_entriesFor_ne_nil (by rw [waiting]; exact List.cons_ne_nil _ _)
      have split := (flatMap_perm_entriesFor text kept.distinct).length_eq
      have left := (flatMap_leaving_perm entries known kept.distinct).length_eq
      have size := kept.size
      have bounded := kept.bounded
      rw [waiting, List.length_append, List.length_cons] at split
      rw [List.length_append] at left
      rw [RepeatCheckTracker.entries] at size
      refine ⟨?_, ?_, leaving_nonempty kept.nonempty, nodup_leaving text entries kept.distinct⟩
      · simp only [RepeatCheckTracker.entries]
        omega
      · simp only
        omega

/-- A check takes the first waiting registration of its text and leaves the other texts alone. -/
theorem entriesFor_checkAndConsume (wellFormed : tracker.WellFormed) (text other : Text)
    (now : Int) :
    entriesFor other (tracker.checkAndConsume text now).1.pendingByText =
      if other = text then (tracker.waiting text now).tail else tracker.waiting other now := by
  have waiting := fun key => entriesFor_evictExpired wellFormed key now
  rw [checkAndConsume_eq wellFormed]
  cases queue : tracker.waiting text now with
  | nil =>
      simp only [waiting]
      split
      · rename_i own
        rw [own, queue]
        rfl
      · rfl
  | cons entry entries =>
      have known := mem_of_entriesFor_ne_nil
        (by rw [waiting text, queue]; exact List.cons_ne_nil _ _)
      simp only [entriesFor_leaving known, waiting, List.tail_cons]

theorem isSome_checkAndConsume (wellFormed : tracker.WellFormed) (text : Text) (now : Int) :
    (tracker.checkAndConsume text now).2.1.isSome = true ↔ tracker.waiting text now ≠ [] := by
  rw [checkAndConsume_eq wellFormed]
  cases tracker.waiting text now with
  | nil => simp
  | cons entry entries => simp

end Operations

section MapInfo

variable {Other : Type u} (change : Meta → Other)

/-- The same confirmation with other information. -/
def Confirmation.mapInfo (change : Meta → Other)
    (confirmation : Confirmation Meta) : Confirmation Other :=
  ⟨change confirmation.info, confirmation.elapsedMs⟩

/-- The same list of texts and times, with other information on the replies. -/
def mapPending (pendingByText : List (Text × List (RepeatEntry Meta))) :
    List (Text × List (RepeatEntry Other)) :=
  pendingByText.map fun pending => (pending.1, pending.2.map (RepeatEntry.mapInfo change))

/-- The same registrations with other information. No operation looks at it. -/
def mapInfo (tracker : RepeatCheckTracker Meta) : RepeatCheckTracker Other :=
  { timeoutMs := tracker.timeoutMs
    maxEntries := tracker.maxEntries
    pendingByText := mapPending change tracker.pendingByText
    totalPending := tracker.totalPending }

theorem mapPending_cons (text : Text) (entries : List (RepeatEntry Meta))
    (others : List (Text × List (RepeatEntry Meta))) :
    mapPending change ((text, entries) :: others) =
      (text, entries.map (RepeatEntry.mapInfo change)) :: mapPending change others :=
  List.map_cons

theorem expired_mapInfo (tracker : RepeatCheckTracker Meta) (now : Int) :
    (tracker.mapInfo change).expired now =
      (tracker.expired now).map (RepeatEntry.mapInfo change) := by
  rw [expired, mapInfo, mapPending, List.flatMap_map, expired, List.map_flatMap]
  congr 1
  funext pending
  rw [List.takeWhile_map]
  rfl

theorem evictExpired_mapInfo (tracker : RepeatCheckTracker Meta) (now : Int) :
    (tracker.mapInfo change).evictExpired now =
      ((tracker.evictExpired now).1.mapInfo change, (tracker.evictExpired now).2.map change) := by
  have remaining : ∀ pendingByText : List (Text × List (RepeatEntry Meta)),
      (((mapPending change pendingByText).map fun pending => (pending.1,
          pending.2.dropWhile fun entry => entry.expiresAt ≤ now)).filter fun pending =>
            pending.2 ≠ []) =
        mapPending change ((pendingByText.map fun pending => (pending.1,
          pending.2.dropWhile fun entry => entry.expiresAt ≤ now)).filter fun pending =>
            pending.2 ≠ []) := by
    intro pendingByText
    induction pendingByText with
    | nil => rfl
    | cons pending others ih =>
        have dropped : (pending.2.map (RepeatEntry.mapInfo change)).dropWhile
            (fun entry => decide (entry.expiresAt ≤ now)) =
            (pending.2.dropWhile fun entry => decide (entry.expiresAt ≤ now)).map
              (RepeatEntry.mapInfo change) := by
          rw [List.dropWhile_map]
          rfl
        rw [mapPending_cons, List.map_cons, List.filter_cons, List.map_cons, List.filter_cons, ih]
        simp only [dropped, ne_eq, List.map_eq_nil_iff]
        split
        · rfl
        · rfl
  have length : ((tracker.mapInfo change).expired now).length = (tracker.expired now).length := by
    rw [expired_mapInfo, List.length_map]
  have infos : ((tracker.mapInfo change).expired now).map RepeatEntry.info =
      ((tracker.expired now).map RepeatEntry.info).map change := by
    rw [expired_mapInfo, List.map_map, List.map_map]
    rfl
  have kept := remaining tracker.pendingByText
  simp only [evictExpired, length, infos]
  simp only [mapInfo] at kept ⊢
  rw [kept]

theorem append_mapPending (text : Text) (entry : RepeatEntry Meta)
    (pendingByText : List (Text × List (RepeatEntry Meta))) :
    append text (entry.mapInfo change) (mapPending change pendingByText) =
      mapPending change (append text entry pendingByText) := by
  induction pendingByText with
  | nil => rfl
  | cons pending others ih =>
      rw [mapPending_cons, append, append]
      by_cases same : pending.1 = text
      · rw [if_pos same, if_pos same, mapPending_cons, List.map_append, List.map_singleton]
      · rw [if_neg same, if_neg same, mapPending_cons, ih]

theorem evictOldest_mapPending (count : Nat)
    (pendingByText : List (Text × List (RepeatEntry Meta))) :
    evictOldest count (mapPending change pendingByText) =
      (mapPending change (evictOldest count pendingByText).1,
        (evictOldest count pendingByText).2.map change) := by
  apply evictOldest_induction (motive := fun count pending result =>
    evictOldest count (mapPending change pending) =
      (mapPending change result.1, result.2.map change))
  case zero =>
    intro pending
    rw [evictOldest]
    rfl
  case nil =>
    intro count
    rw [mapPending, List.map_nil, evictOldest]
    rfl
  case empty =>
    intro count text others result ih
    rw [mapPending_cons, List.map_nil, evictOldest]
    exact ih
  case last =>
    intro count text entry others result ih
    rw [mapPending_cons, List.map_singleton, evictOldest, if_pos rfl, ih]
    rfl
  case more =>
    intro count text entry next entries others result ih
    rw [mapPending_cons] at ih ⊢
    rw [List.map_cons, evictOldest, if_neg (by simp), ih]
    rfl

theorem register_mapInfo (tracker : RepeatCheckTracker Meta) (text : Text) (info : Meta)
    (now : Int) :
    (tracker.mapInfo change).register text (change info) now =
      ((tracker.register text info now).1.mapInfo change,
        (tracker.register text info now).2.1.map change,
        (tracker.register text info now).2.2.map change) := by
  have added := append_mapPending change text ⟨info, now + tracker.timeoutMs, now⟩
    (tracker.evictExpired now).1.pendingByText
  have registered : (tracker.mapInfo change).registered text (change info) now =
      (tracker.registered text info now).mapInfo change := by
    simp only [RepeatCheckTracker.registered, evictExpired_mapInfo]
    simp only [mapInfo, RepeatEntry.mapInfo] at added ⊢
    rw [added]
  have overflow := evictOldest_mapPending change
    ((tracker.registered text info now).totalPending -
      (tracker.registered text info now).maxEntries).toNat
    (tracker.registered text info now).pendingByText
  rw [register_eq, register_eq, registered, evictExpired_mapInfo]
  simp only [evictOverflow]
  simp only [mapInfo] at overflow ⊢
  rw [overflow, List.length_map]

theorem find?_mapPending (text : Text) (pendingByText : List (Text × List (RepeatEntry Meta))) :
    (mapPending change pendingByText).find? (fun pending => pending.1 = text) =
      (pendingByText.find? fun pending => pending.1 = text).map fun pending =>
        (pending.1, pending.2.map (RepeatEntry.mapInfo change)) := by
  rw [mapPending, List.find?_map]
  rfl

theorem leaving_mapPending (text : Text) (entries : List (RepeatEntry Meta))
    (pendingByText : List (Text × List (RepeatEntry Meta))) :
    leaving text (entries.map (RepeatEntry.mapInfo change)) (mapPending change pendingByText) =
      mapPending change (leaving text entries pendingByText) := by
  rw [leaving, leaving]
  simp only [List.map_eq_nil_iff]
  split
  · rw [mapPending, mapPending, List.filter_map]
    rfl
  · rw [replaced, replaced, mapPending, mapPending, List.map_map, List.map_map]
    apply List.map_congr_left
    intro pending _
    simp only [Function.comp_apply]
    split
    · rfl
    · rfl

theorem checkAndConsume_mapInfo (tracker : RepeatCheckTracker Meta) (text : Text) (now : Int) :
    (tracker.mapInfo change).checkAndConsume text now =
      ((tracker.checkAndConsume text now).1.mapInfo change,
        (tracker.checkAndConsume text now).2.1.map (Confirmation.mapInfo change),
        (tracker.checkAndConsume text now).2.2.map change) := by
  have found := find?_mapPending change text (tracker.evictExpired now).1.pendingByText
  rw [checkAndConsume, checkAndConsume]
  simp only [evictExpired_mapInfo]
  simp only [mapInfo] at found ⊢
  rw [found]
  cases (tracker.evictExpired now).1.pendingByText.find? fun pending => pending.1 = text with
  | none => rfl
  | some pending =>
      rcases pending with ⟨key, entries⟩
      cases entries with
      | nil => rfl
      | cons entry entries =>
          have left := leaving_mapPending change text entries
            (tracker.evictExpired now).1.pendingByText
          simp only [leaving, replaced] at left
          simp only [Option.map_some, List.map_cons, left]
          rfl

theorem wellFormed_of_mapInfo {tracker : RepeatCheckTracker Meta}
    (wellFormed : (tracker.mapInfo change).WellFormed) : tracker.WellFormed := by
  rcases wellFormed with ⟨size, bounded, nonempty, distinct⟩
  refine ⟨?_, bounded, ?_, ?_⟩
  · have same : (tracker.mapInfo change).entries.length = tracker.entries.length := by
      simp only [entries, mapInfo, mapPending, List.flatMap_map, List.length_flatMap,
        List.length_map]
    rw [← same]
    exact size
  · intro pending pendingMem
    have some := nonempty _ (List.mem_map_of_mem pendingMem)
    simpa using some
  · simp only [mapInfo, mapPending, List.map_map] at distinct
    exact distinct

end MapInfo

end RepeatCheckTracker

end MeshcoreObserver
