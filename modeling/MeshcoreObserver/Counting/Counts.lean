import Mathlib.Algebra.BigOperators.Group.List.Basic
import Mathlib.Algebra.Ring.Int.Defs
import Mathlib.Data.List.Nodup
import Mathlib.Logic.Relation

/-!
# Counts by key

Maps as lists of entries in the order of their first use, and maps of counts:
adding to one count, regrouping the keys, and the difference of two states of a
map. The main rule is `total_difference`: a map that has grown from another one
by adding differs from it by the difference of their totals, whatever keys the
totals select.
-/

namespace Counting

universe u v w

section Entries

variable {Key : Type u} {Value : Type v} [DecidableEq Key]

def find? (key : Key) : List (Key × Value) → Option Value
  | [] => none
  | entry :: rest => if entry.1 = key then some entry.2 else find? key rest

/-- Sets the value of a key to what `change` makes of its old one. -/
def update (key : Key) (change : Option Value → Value) : List (Key × Value) → List (Key × Value)
  | [] => [(key, change none)]
  | entry :: rest =>
      if entry.1 = key then (key, change (some entry.2)) :: rest
      else entry :: update key change rest

theorem find?_update (key other : Key) (change : Option Value → Value)
    (entries : List (Key × Value)) :
    find? other (update key change entries) =
      if other = key then some (change (find? key entries)) else find? other entries := by
  induction entries with
  | nil =>
      simp only [update, find?]
      by_cases same : key = other
      · rw [if_pos same, if_pos same.symm]
      · rw [if_neg same, if_neg fun equal => same equal.symm]
  | cons entry rest ih =>
      by_cases own : entry.1 = key
      · simp only [update, own, if_true, find?]
        by_cases same : key = other
        · rw [if_pos same, if_pos same.symm]
        · rw [if_neg same, if_neg fun equal => same equal.symm, if_neg same]
      · simp only [update, own, if_false, find?, ih]
        by_cases same : other = key
        · subst other
          simp only [own, if_false, if_true]
        · simp only [same, if_false]

/-- The value of a key is made by the changes of that key, in their order. -/
theorem find?_foldl_update {Change : Type w} (keyOf : Change → Key)
    (change : Change → Option Value → Value) (key : Key) (changes : List Change)
    (entries : List (Key × Value)) :
    find? key (changes.foldl (fun entries item => update (keyOf item) (change item) entries)
        entries) =
      (changes.filter fun item => keyOf item = key).foldl
        (fun value item => some (change item value)) (find? key entries) := by
  induction changes generalizing entries with
  | nil => rfl
  | cons item changes ih =>
      rw [List.foldl_cons, ih, find?_update, List.filter_cons]
      by_cases own : keyOf item = key
      · simp only [own, if_true, decide_true, List.foldl_cons]
      · have differs : ¬key = keyOf item := fun same => own same.symm
        simp only [own, differs, if_false, decide_false, Bool.false_eq_true]

theorem mem_keys_update {key other : Key} {change : Option Value → Value}
    {entries : List (Key × Value)} :
    other ∈ (update key change entries).map Prod.fst ↔
      other = key ∨ other ∈ entries.map Prod.fst := by
  induction entries with
  | nil => simp only [update, List.map_cons, List.map_nil, List.mem_singleton, List.not_mem_nil,
      or_false]
  | cons entry rest ih =>
      by_cases own : entry.1 = key
      · simp only [update, own, if_true, List.map_cons, List.mem_cons]
        tauto
      · simp only [update, own, if_false, List.map_cons, List.mem_cons, ih]
        tauto

/-- An entry is an old one, or the one that is set. -/
theorem mem_update {key : Key} {change : Option Value → Value} {entries : List (Key × Value)}
    {entry : Key × Value} (entryMem : entry ∈ update key change entries) :
    entry ∈ entries ∨ entry = (key, change (find? key entries)) := by
  induction entries with
  | nil => exact .inr (List.mem_singleton.mp entryMem)
  | cons first rest ih =>
      by_cases own : first.1 = key
      · simp only [update, own, if_true, List.mem_cons] at entryMem
        rcases entryMem with same | later
        · simp only [find?, own, if_true]
          exact .inr same
        · exact .inl (List.mem_cons_of_mem first later)
      · simp only [update, own, if_false, List.mem_cons] at entryMem
        simp only [find?, own, if_false]
        rcases entryMem with same | later
        · exact .inl (same ▸ List.mem_cons_self)
        · rcases ih later with former | set
          · exact .inl (List.mem_cons_of_mem first former)
          · exact .inr set

theorem nodup_update {key : Key} {change : Option Value → Value} {entries : List (Key × Value)}
    (nodup : (entries.map Prod.fst).Nodup) :
    ((update key change entries).map Prod.fst).Nodup := by
  induction entries with
  | nil => exact List.nodup_singleton key
  | cons entry rest ih =>
      simp only [List.map_cons, List.nodup_cons] at nodup
      by_cases own : entry.1 = key
      · simp only [update, own, if_true, List.map_cons, List.nodup_cons]
        rw [← own]
        exact nodup
      · simp only [update, own, if_false, List.map_cons, List.nodup_cons, mem_keys_update,
          false_or]
        exact ⟨nodup.1, ih nodup.2⟩

theorem find?_eq_some_of_mem {entries : List (Key × Value)} {entry : Key × Value}
    (nodup : (entries.map Prod.fst).Nodup) (entryMem : entry ∈ entries) :
    find? entry.1 entries = some entry.2 := by
  induction entries with
  | nil => cases entryMem
  | cons first rest ih =>
      simp only [List.map_cons, List.nodup_cons] at nodup
      rcases List.mem_cons.mp entryMem with rfl | later
      · simp only [find?, if_true]
      · have differs : first.1 ≠ entry.1 := fun same =>
          nodup.1 (same ▸ List.mem_map_of_mem later)
        simp only [find?, differs, if_false]
        exact ih nodup.2 later

theorem find?_of_absent {key : Key} {entries : List (Key × Value)}
    (absent : key ∉ entries.map Prod.fst) : find? key entries = none := by
  induction entries with
  | nil => rfl
  | cons entry rest ih =>
      simp only [List.map_cons, List.mem_cons, not_or] at absent
      simp only [find?, if_neg fun same => absent.1 (Eq.symm same)]
      exact ih absent.2

theorem not_mem_of_find?_eq_none {key : Key} {entries : List (Key × Value)}
    (missing : find? key entries = none) : key ∉ entries.map Prod.fst := by
  induction entries with
  | nil => exact List.not_mem_nil
  | cons entry rest ih =>
      rw [find?] at missing
      split at missing
      · cases missing
      · rename_i differs
        simp only [List.map_cons, List.mem_cons, not_or]
        exact ⟨fun same => differs same.symm, ih missing⟩

theorem mem_of_find? {key : Key} {value : Value} {entries : List (Key × Value)}
    (found : find? key entries = some value) : (key, value) ∈ entries := by
  induction entries with
  | nil => cases found
  | cons entry rest ih =>
      rw [find?] at found
      split at found
      · rename_i own
        cases found
        rw [← own]
        exact List.mem_cons_self
      · exact List.mem_cons_of_mem entry (ih found)

theorem mem_keys_iff {key : Key} {entries : List (Key × Value)} :
    key ∈ entries.map Prod.fst ↔ ∃ value, find? key entries = some value := by
  constructor
  · intro keyMem
    rw [← Option.ne_none_iff_exists']
    exact fun missing => not_mem_of_find?_eq_none missing keyMem
  · rintro ⟨value, found⟩
    exact List.mem_map_of_mem (mem_of_find? found)

theorem find?_append_singleton (key : Key) (entries : List (Key × Value)) (entry : Key × Value) :
    find? key (entries ++ [entry]) =
      (find? key entries).or (if entry.1 = key then some entry.2 else none) := by
  induction entries with
  | nil => simp only [List.nil_append, find?, Option.none_or]
  | cons first entries ih =>
      simp only [List.cons_append, find?]
      split
      · rfl
      · exact ih

theorem find?_perm {key : Key} {entries other : List (Key × Value)}
    (nodup : (entries.map Prod.fst).Nodup) (permuted : entries.Perm other) :
    find? key entries = find? key other := by
  cases found : find? key other with
  | none =>
      have absent := not_mem_of_find?_eq_none found
      rw [← (permuted.map Prod.fst).mem_iff] at absent
      exact find?_of_absent absent
  | some value => exact find?_eq_some_of_mem nodup (permuted.mem_iff.mpr (mem_of_find? found))

/-- A new key comes behind the others. -/
theorem update_of_absent {key : Key} {change : Option Value → Value}
    {entries : List (Key × Value)} (absent : key ∉ entries.map Prod.fst) :
    update key change entries = entries ++ [(key, change none)] := by
  induction entries with
  | nil => rfl
  | cons entry rest ih =>
      simp only [List.map_cons, List.mem_cons, not_or] at absent
      rw [update, if_neg fun same => absent.1 (Eq.symm same), ih absent.2, List.cons_append]

/-- Setting distinct keys, one after another, lists them. -/
theorem foldl_update_of_nodup {Item : Type w} (keyOf : Item → Key) (value : Item → Value)
    {items : List Item} (nodup : (items.map keyOf).Nodup) :
    items.foldl (fun entries item => update (keyOf item) (fun _ => value item) entries) [] =
      items.map fun item => (keyOf item, value item) := by
  have appended : ∀ entries : List (Key × Value),
      (∀ item ∈ items, keyOf item ∉ entries.map Prod.fst) →
      items.foldl (fun entries item => update (keyOf item) (fun _ => value item) entries)
        entries = entries ++ items.map fun item => (keyOf item, value item) := by
    induction items with
    | nil =>
        intro entries _
        rw [List.foldl_nil, List.map_nil, List.append_nil]
    | cons item items ih =>
        intro entries apart
        simp only [List.map_cons, List.nodup_cons] at nodup
        rw [List.foldl_cons, update_of_absent (apart item List.mem_cons_self), ih nodup.2,
          List.append_assoc, List.singleton_append, List.map_cons]
        intro other otherMem listed
        simp only [List.map_append, List.map_cons, List.map_nil, List.mem_append,
          List.mem_singleton] at listed
        rcases listed with former | same
        · exact apart other (List.mem_cons_of_mem item otherMem) former
        · exact nodup.1 (same ▸ List.mem_map_of_mem otherMem)
  have listed := appended [] fun _ _ => List.not_mem_nil
  rwa [List.nil_append] at listed

/-- Changing the value of a key that occurs once. -/
theorem update_eq_map {key : Key} {value : Value} {change : Value → Value}
    {entries : List (Key × Value)} (nodup : (entries.map Prod.fst).Nodup)
    (found : find? key entries = some value) :
    update key (fun _ => change value) entries =
      entries.map fun entry => (entry.1, if entry.1 = key then change entry.2 else entry.2) := by
  induction entries with
  | nil => cases found
  | cons entry rest ih =>
      simp only [List.map_cons, List.nodup_cons] at nodup
      by_cases own : entry.1 = key
      · simp only [find?, own, if_true, Option.some.injEq] at found
        subst value
        have untouched : (rest.map fun entry : Key × Value =>
            (entry.1, if entry.1 = key then change entry.2 else entry.2)) = rest := by
          conv_rhs => rw [← List.map_id rest]
          apply List.map_congr_left
          intro other otherMem
          have differs : other.1 ≠ key := fun same =>
            nodup.1 (own.trans same.symm ▸ List.mem_map_of_mem otherMem)
          rw [if_neg differs, id_eq]
        simp only [update, own, if_true, List.map_cons, untouched]
      · simp only [find?, own, if_false] at found
        simp only [update, own, if_false, List.map_cons, ih nodup.2 found]

/-- An update changes a sum over the values by what it changes of one of them. -/
theorem sum_update (weight : Value → Int) (key : Key) (change : Option Value → Value)
    (entries : List (Key × Value)) :
    ((update key change entries).map fun entry => weight entry.2).sum +
        ((find? key entries).map weight).getD 0 =
      (entries.map fun entry => weight entry.2).sum + weight (change (find? key entries)) := by
  induction entries with
  | nil =>
      simp only [update, find?, List.map_cons, List.map_nil, List.sum_cons, List.sum_nil,
        Option.map_none, Option.getD_none]
      omega
  | cons entry rest ih =>
      by_cases own : entry.1 = key
      · simp only [update, find?, own, if_true, List.map_cons, List.sum_cons, Option.map_some,
          Option.getD_some]
        omega
      · simp only [update, find?, own, if_false, List.map_cons, List.sum_cons]
        omega

theorem find?_map_values {Other : Type w} (change : Value → Other) (key : Key)
    (entries : List (Key × Value)) :
    find? key (entries.map fun entry => (entry.1, change entry.2)) =
      (find? key entries).map change := by
  induction entries with
  | nil => rfl
  | cons entry rest ih =>
      rw [List.map_cons, find?, find?]
      split
      · rfl
      · exact ih

/-- An entry of a pair of keys, among those with the first of them. -/
theorem find?_filter_fst {Other : Type w} [DecidableEq Other] (first : Key) (key : Other)
    (entries : List ((Key × Other) × Value)) :
    find? key ((entries.filter fun entry => entry.1.1 = first).map fun entry =>
      (entry.1.2, entry.2)) = find? (first, key) entries := by
  induction entries with
  | nil => rfl
  | cons entry entries ih =>
      rw [find?, ← ih, List.filter_cons]
      by_cases own : entry.1.1 = first
      · by_cases same : entry.1.2 = key
        · simp [own, same, find?, Prod.ext_iff]
        · simp [own, same, find?, Prod.ext_iff]
      · simp [own, Prod.ext_iff]

/-- Keys of which the first ones agree differ in their second ones. -/
theorem nodup_filter_fst {Other : Type w} {first : Key} {entries : List ((Key × Other) × Value)}
    (nodup : (entries.map Prod.fst).Nodup) :
    ((entries.filter fun entry => entry.1.1 = first).map fun entry => entry.1.2).Nodup := by
  rw [List.nodup_iff_pairwise_ne, List.pairwise_map]
  have distinct := List.pairwise_map.mp (nodup.sublist (List.filter_sublist.map Prod.fst) :
    ((entries.filter fun entry => entry.1.1 = first).map Prod.fst).Nodup)
  refine distinct.imp_of_mem ?_
  intro former later formerMem laterMem differ same
  have formerFirst := of_decide_eq_true (List.mem_filter.mp formerMem).2
  have laterFirst := of_decide_eq_true (List.mem_filter.mp laterMem).2
  exact differ (Prod.ext (formerFirst.trans laterFirst.symm) same)

/-- The entries of a function on some keys. -/
theorem find?_map (key : Key) (value : Key → Value) (keys : List Key) :
    find? key (keys.map fun other => (other, value other)) =
      if key ∈ keys then some (value key) else none := by
  induction keys with
  | nil => simp only [List.map_nil, find?, List.not_mem_nil, if_false]
  | cons first rest ih =>
      simp only [List.map_cons, find?, ih, List.mem_cons]
      by_cases same : first = key
      · subst first
        simp only [if_true, true_or]
      · have differs : ¬key = first := fun equal => same equal.symm
        simp only [same, differs, if_false, false_or]

end Entries

section Counts

variable {Key : Type u} {Group : Type v} [DecidableEq Key] [DecidableEq Group]

def count (key : Key) (entries : List (Key × Int)) : Int :=
  (find? key entries).getD 0

def add (key : Key) (amount : Int) (entries : List (Key × Int)) : List (Key × Int) :=
  update key (fun count => count.getD 0 + amount) entries

/-- The sum of the counts of the keys it selects. -/
def total (selects : Key → Bool) (entries : List (Key × Int)) : Int :=
  (entries.map fun entry => if selects entry.1 then entry.2 else 0).sum

/-- Sums the counts of the keys of each group. -/
def regroup (group : Key → Group) (entries : List (Key × Int)) : List (Group × Int) :=
  entries.foldl (fun counts entry => add (group entry.1) entry.2 counts) []

/-- What each count has grown by, without the counts that have not grown. -/
def difference (since now : List (Key × Int)) : List (Key × Int) :=
  now.filterMap fun entry =>
    if 0 < entry.2 - count entry.1 since then some (entry.1, entry.2 - count entry.1 since)
    else none

theorem count_add (key other : Key) (amount : Int) (entries : List (Key × Int)) :
    count other (add key amount entries) =
      count other entries + if other = key then amount else 0 := by
  rw [count, add, find?_update]
  by_cases same : other = key
  · subst other
    simp only [if_true, Option.getD_some, count]
  · simp only [same, if_false, Int.add_zero, count]

omit [DecidableEq Key] in
theorem total_cons (selects : Key → Bool) (entry : Key × Int) (entries : List (Key × Int)) :
    total selects (entry :: entries) =
      (if selects entry.1 then entry.2 else 0) + total selects entries := by
  simp only [total, List.map_cons, List.sum_cons]

theorem total_add (selects : Key → Bool) (key : Key) (amount : Int)
    (entries : List (Key × Int)) :
    total selects (add key amount entries) =
      total selects entries + if selects key then amount else 0 := by
  induction entries with
  | nil => simp only [add, update, Option.getD_none, Int.zero_add, total, List.map_cons,
      List.map_nil, List.sum_cons, List.sum_nil, Int.add_zero]
  | cons entry rest ih =>
      simp only [add] at ih ⊢
      by_cases own : entry.1 = key
      · simp only [update, own, if_true, total_cons, Option.getD_some]
        split
        · omega
        · omega
      · simp only [update, own, if_false, total_cons, ih]
        omega

theorem mem_add {key : Key} {amount : Int} {entries : List (Key × Int)} {entry : Key × Int}
    (entryMem : entry ∈ add key amount entries) :
    entry ∈ entries ∨ (key ∉ entries.map Prod.fst ∧ entry = (key, amount)) ∨
      ∃ old, (key, old) ∈ entries ∧ entry = (key, old + amount) := by
  induction entries with
  | nil =>
      simp only [add, update, Option.getD_none, Int.zero_add, List.mem_singleton] at entryMem
      exact .inr (.inl ⟨List.not_mem_nil, entryMem⟩)
  | cons first rest ih =>
      by_cases own : first.1 = key
      · simp only [add, update, own, if_true, List.mem_cons, Option.getD_some] at entryMem
        rcases entryMem with same | later
        · refine .inr (.inr ⟨first.2, ?_, same⟩)
          rw [← own]
          exact List.mem_cons_self
        · exact .inl (List.mem_cons_of_mem first later)
      · simp only [add, update, own, if_false, List.mem_cons] at entryMem
        rcases entryMem with same | later
        · exact .inl (same ▸ List.mem_cons_self)
        · rcases ih later with former | ⟨absent, new⟩ | ⟨old, oldMem, changed⟩
          · exact .inl (List.mem_cons_of_mem first former)
          · refine .inr (.inl ⟨?_, new⟩)
            simp only [List.map_cons, List.mem_cons, not_or]
            exact ⟨fun same => own same.symm, absent⟩
          · exact .inr (.inr ⟨old, List.mem_cons_of_mem first oldMem, changed⟩)

theorem mem_iff_count {entries : List (Key × Int)} (nodup : (entries.map Prod.fst).Nodup)
    (nonzero : ∀ entry ∈ entries, entry.2 ≠ 0) (entry : Key × Int) :
    entry ∈ entries ↔ entry.2 ≠ 0 ∧ count entry.1 entries = entry.2 := by
  constructor
  · intro entryMem
    refine ⟨nonzero entry entryMem, ?_⟩
    rw [count, find?_eq_some_of_mem nodup entryMem, Option.getD_some]
  · rintro ⟨notZero, counted⟩
    rw [count] at counted
    cases found : find? entry.1 entries with
    | none =>
        rw [found, Option.getD_none] at counted
        exact absurd counted.symm notZero
    | some value =>
        rw [found, Option.getD_some] at counted
        subst value
        exact mem_of_find? found

/-- Maps of the same counts, none of them zero, have the same entries. -/
theorem perm_of_count_eq {entries other : List (Key × Int)}
    (nodup : (entries.map Prod.fst).Nodup) (otherNodup : (other.map Prod.fst).Nodup)
    (nonzero : ∀ entry ∈ entries, entry.2 ≠ 0) (otherNonzero : ∀ entry ∈ other, entry.2 ≠ 0)
    (counts : ∀ key, count key entries = count key other) : entries.Perm other := by
  apply (List.perm_ext_iff_of_nodup (List.Nodup.of_map _ nodup)
    (List.Nodup.of_map _ otherNodup)).mpr
  intro entry
  rw [mem_iff_count nodup nonzero, mem_iff_count otherNodup otherNonzero, counts]

/-- The total of one key, which occurs once. -/
theorem total_eq_count {entries : List (Key × Int)} (nodup : (entries.map Prod.fst).Nodup)
    (key : Key) : total (fun other => other = key) entries = count key entries := by
  induction entries with
  | nil => rfl
  | cons entry rest ih =>
      simp only [List.map_cons, List.nodup_cons] at nodup
      by_cases own : entry.1 = key
      · have absent : count key rest = 0 := by
          rw [count, find?_of_absent (own ▸ nodup.1), Option.getD_none]
        rw [total_cons, ih nodup.2, absent]
        simp [own, count, find?]
      · rw [total_cons, ih nodup.2]
        simp [own, count, find?]

end Counts

section Regrouping

variable {Key : Type u} {Group : Type v} [DecidableEq Group]

theorem count_regroup (group : Key → Group) (key : Group) (entries : List (Key × Int)) :
    count key (regroup group entries) = total (fun other => group other = key) entries := by
  have accumulated : ∀ counts : List (Group × Int),
      count key (entries.foldl (fun counts entry => add (group entry.1) entry.2 counts) counts) =
        count key counts + total (fun other => group other = key) entries := by
    induction entries with
    | nil =>
        intro counts
        simp only [List.foldl_nil, total, List.map_nil, List.sum_nil, Int.add_zero]
    | cons entry rest ih =>
        intro counts
        simp only [List.foldl_cons, ih, count_add, total_cons, decide_eq_true_eq,
          @eq_comm _ key]
        omega
  rw [regroup, accumulated]
  exact Int.zero_add _

theorem total_regroup (group : Key → Group) (selects : Group → Bool)
    (entries : List (Key × Int)) :
    total selects (regroup group entries) = total (fun key => selects (group key)) entries := by
  have accumulated : ∀ counts : List (Group × Int),
      total selects
          (entries.foldl (fun counts entry => add (group entry.1) entry.2 counts) counts) =
        total selects counts + total (fun key => selects (group key)) entries := by
    induction entries with
    | nil =>
        intro counts
        simp only [List.foldl_nil, total, List.map_nil, List.sum_nil, Int.add_zero]
    | cons entry rest ih =>
        intro counts
        simp only [List.foldl_cons, ih, total_add, total_cons]
        omega
  rw [regroup, accumulated]
  exact Int.zero_add _

theorem nodup_regroup (group : Key → Group) (entries : List (Key × Int)) :
    ((regroup group entries).map Prod.fst).Nodup := by
  have accumulated : ∀ counts : List (Group × Int), (counts.map Prod.fst).Nodup →
      ((entries.foldl (fun counts entry => add (group entry.1) entry.2 counts) counts).map
        Prod.fst).Nodup := by
    induction entries with
    | nil =>
        intro counts nodup
        exact nodup
    | cons entry rest ih =>
        intro counts nodup
        exact ih _ (nodup_update nodup)
  exact accumulated [] List.nodup_nil

/-- A property of the counts that sums keep. -/
theorem forall_regroup {property : Int → Prop} {group : Key → Group} {entries : List (Key × Int)}
    (sums : ∀ first second, property first → property second → property (first + second))
    (holds : ∀ entry ∈ entries, property entry.2) :
    ∀ entry ∈ regroup group entries, property entry.2 := by
  have accumulated : ∀ counts : List (Group × Int), (∀ entry ∈ counts, property entry.2) →
      ∀ entry ∈ entries.foldl (fun counts entry => add (group entry.1) entry.2 counts) counts,
        property entry.2 := by
    induction entries with
    | nil =>
        intro counts kept
        exact kept
    | cons first rest ih =>
        intro counts kept
        rw [List.foldl_cons]
        refine ih (fun entry later => holds entry (List.mem_cons_of_mem first later)) _ ?_
        intro entry entryMem
        have amount := holds first List.mem_cons_self
        rcases mem_add entryMem with former | ⟨_, rfl⟩ | ⟨old, oldMem, rfl⟩
        · exact kept entry former
        · exact amount
        · exact sums old first.2 (kept _ oldMem) amount
  exact accumulated [] fun entry entryMem => by cases entryMem

theorem nonneg_regroup {group : Key → Group} {entries : List (Key × Int)}
    (nonneg : ∀ entry ∈ entries, 0 ≤ entry.2) :
    ∀ entry ∈ regroup group entries, 0 ≤ entry.2 := by
  apply forall_regroup _ nonneg
  intro first second firstNonneg secondNonneg
  omega

theorem pos_regroup {group : Key → Group} {entries : List (Key × Int)}
    (positive : ∀ entry ∈ entries, 0 < entry.2) :
    ∀ entry ∈ regroup group entries, 0 < entry.2 := by
  apply forall_regroup _ positive
  intro first second firstPos secondPos
  omega

/-- Entries without a positive count add nothing. -/
theorem total_filter_pos {selects : Key → Bool} {entries : List (Key × Int)}
    (nonneg : ∀ entry ∈ entries, 0 ≤ entry.2) :
    total selects (entries.filter fun entry => 0 < entry.2) = total selects entries := by
  induction entries with
  | nil => rfl
  | cons entry rest ih =>
      have rest_eq := ih fun other later => nonneg other (List.mem_cons_of_mem entry later)
      have amount := nonneg entry List.mem_cons_self
      by_cases positive : 0 < entry.2
      · simp only [List.filter_cons, positive, decide_true, if_true, total_cons, rest_eq]
      · have zero : entry.2 = 0 := by omega
        simp only [List.filter_cons, zero, Int.lt_irrefl, decide_false, Bool.false_eq_true,
          if_false, total_cons, rest_eq, ite_self, Int.zero_add]

theorem total_append (selects : Key → Bool) (first second : List (Key × Int)) :
    total selects (first ++ second) = total selects first + total selects second := by
  simp only [total, List.map_append, List.sum_append]

theorem total_nonneg (selects : Key → Bool) {entries : List (Key × Int)}
    (nonneg : ∀ entry ∈ entries, 0 ≤ entry.2) : 0 ≤ total selects entries := by
  induction entries with
  | nil => exact Int.le_refl 0
  | cons entry rest ih =>
      have amount := nonneg entry List.mem_cons_self
      have others := ih fun other later => nonneg other (List.mem_cons_of_mem entry later)
      rw [total_cons]
      split
      · omega
      · omega

theorem total_le_total (selects : Key → Bool) {entries : List (Key × Int)}
    (nonneg : ∀ entry ∈ entries, 0 ≤ entry.2) :
    total selects entries ≤ total (fun _ => true) entries := by
  induction entries with
  | nil => exact Int.le_refl 0
  | cons entry rest ih =>
      have amount := nonneg entry List.mem_cons_self
      have others := ih fun other later => nonneg other (List.mem_cons_of_mem entry later)
      simp only [total_cons, if_true]
      split
      · omega
      · omega

end Regrouping

section Growth

variable {Key : Type u} [DecidableEq Key]

/-- Grown by adding to its counts. -/
def GrownFrom : List (Key × Int) → List (Key × Int) → Prop :=
  Relation.ReflTransGen fun before after =>
    ∃ key amount, 0 ≤ amount ∧ after = add key amount before

/-- No count is smaller than it was, and no key is lost. -/
structure Covers (since now : List (Key × Int)) : Prop where
  entries : ∀ entry ∈ now, count entry.1 since ≤ entry.2
  absent : ∀ key, key ∉ now.map Prod.fst → count key since = 0

theorem Covers.add {since now : List (Key × Int)} (covers : Covers since now) {key : Key}
    {amount : Int} (nonneg : 0 ≤ amount) : Covers since (add key amount now) where
  entries := by
    intro entry entryMem
    rcases mem_add entryMem with former | ⟨absent, rfl⟩ | ⟨old, oldMem, rfl⟩
    · exact covers.entries entry former
    · rw [covers.absent key absent]
      exact nonneg
    · have former : count key since ≤ old := covers.entries _ oldMem
      change count key since ≤ old + amount
      omega
  absent := by
    intro other absent
    rw [Counting.add, mem_keys_update, not_or] at absent
    exact covers.absent other absent.2

theorem covers_self {entries : List (Key × Int)} (nodup : (entries.map Prod.fst).Nodup) :
    Covers entries entries where
  entries := by
    intro entry entryMem
    rw [count, find?_eq_some_of_mem nodup entryMem]
    exact Int.le_refl _
  absent := by
    intro key absent
    rw [count, find?_of_absent absent]
    rfl

theorem GrownFrom.covers {since now : List (Key × Int)} (grown : GrownFrom since now)
    (nodup : (since.map Prod.fst).Nodup) : Covers since now := by
  induction grown with
  | refl => exact covers_self nodup
  | tail _ added ih =>
      rcases added with ⟨key, amount, nonneg, rfl⟩
      exact ih.add nonneg

theorem difference_cons (since : List (Key × Int)) (entry : Key × Int)
    (now : List (Key × Int)) (covered : count entry.1 since ≤ entry.2) (selects : Key → Bool) :
    total selects (difference since (entry :: now)) =
      (if selects entry.1 then entry.2 - count entry.1 since else 0) +
        total selects (difference since now) := by
  by_cases grown : 0 < entry.2 - count entry.1 since
  · simp only [difference, List.filterMap_cons, grown, if_true, total_cons]
  · have zero : entry.2 - count entry.1 since = 0 := by omega
    simp only [difference, List.filterMap_cons, zero, Int.lt_irrefl, if_false, ite_self,
      Int.zero_add]

theorem total_difference_add {since now : List (Key × Int)} {key : Key} {amount : Int}
    (covered : ∀ entry ∈ now, count entry.1 since ≤ entry.2)
    (absent : key ∉ now.map Prod.fst → count key since = 0) (nonneg : 0 ≤ amount)
    (selects : Key → Bool) :
    total selects (difference since (add key amount now)) =
      total selects (difference since now) + if selects key then amount else 0 := by
  induction now with
  | nil =>
      have new := absent List.not_mem_nil
      rw [add, update, difference_cons]
      · simp only [Option.getD_none, Int.zero_add, new, Int.sub_zero]
        exact Int.add_comm _ _
      · change count key since ≤ 0 + amount
        omega
  | cons entry rest ih =>
      have first := covered entry List.mem_cons_self
      by_cases own : entry.1 = key
      · rw [own] at first
        simp only [add, update, own, if_true, Option.getD_some]
        rw [difference_cons, difference_cons]
        · simp only [own]
          split
          · omega
          · omega
        · rw [own]
          exact first
        · change count key since ≤ entry.2 + amount
          omega
      · have rest_eq := ih (fun other later => covered other (List.mem_cons_of_mem entry later))
          fun missing => absent (by
            simp only [List.map_cons, List.mem_cons, not_or]
            exact ⟨fun same => own same.symm, missing⟩)
        simp only [add] at rest_eq ⊢
        simp only [update, own, if_false]
        rw [difference_cons _ _ _ first, difference_cons _ _ _ first, rest_eq]
        omega

theorem difference_self {entries : List (Key × Int)} (nodup : (entries.map Prod.fst).Nodup) :
    difference entries entries = [] := by
  rw [difference, List.filterMap_eq_nil_iff]
  intro entry entryMem
  rw [count, find?_eq_some_of_mem nodup entryMem]
  simp only [Option.getD_some, Int.sub_self, Int.lt_irrefl, if_false]

/-- The totals of what a map has grown by. -/
theorem total_difference {since now : List (Key × Int)} (grown : GrownFrom since now)
    (nodup : (since.map Prod.fst).Nodup) (selects : Key → Bool) :
    total selects (difference since now) = total selects now - total selects since := by
  induction grown with
  | refl =>
      rw [difference_self nodup, Int.sub_self]
      rfl
  | tail former added ih =>
      rcases added with ⟨key, amount, nonneg, rfl⟩
      have covers := GrownFrom.covers former nodup
      rw [total_difference_add covers.entries (covers.absent key) nonneg, ih, total_add]
      omega

theorem nonneg_difference (since now : List (Key × Int)) :
    ∀ entry ∈ difference since now, 0 ≤ entry.2 := by
  intro entry entryMem
  rw [difference, List.mem_filterMap] at entryMem
  rcases entryMem with ⟨former, _, grown⟩
  rw [Option.ite_none_right_eq_some] at grown
  rcases grown with ⟨positive, same⟩
  cases same
  exact Int.le_of_lt positive

end Growth

end Counting
