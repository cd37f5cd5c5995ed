import MeshcoreObserver.Web.NodesList

/-!
# Paging through the list

When requests are answered in their order, a list that waits for nothing shows
the page of nodes its search and offset ask for, with a note and buttons that go
with it, or an error. From there, Next leads to every node that is searched for,
to each of them once, and is disabled when the last one is shown.
-/

namespace MeshcoreObserver

open Transition

namespace NodesListEvent

/-- The request that an event settles. -/
def settles : NodesListEvent → Option Nat
  | .answered number _ => some number
  | .failed number => some number
  | _ => none

end NodesListEvent

namespace NodesList

variable {mapping : CaseMapping} {list after : NodesList} {event : NodesListEvent}

/-- The requests settle in the order in which they were started. -/
def inOrder (list : NodesList) (event : NodesListEvent) : Prop :=
  ∀ number ∈ event.settles, list.underWay.head? = some number

instance decidableInOrder (list : NodesList) (event : NodesListEvent) :
    Decidable (inOrder list event) :=
  inferInstanceAs (Decidable (∀ number ∈ event.settles, _ = some number))

/-- The list shows the page of its search and offset, as it was in this table. -/
structure Shows (mapping : CaseMapping) (list : NodesList) (nodes : NodeTable) : Prop where
  rows : list.rows =
    (queryNodes mapping nodes list.nodesSearchQuery repeaterType nodesPageSize
      list.nodesOffset).nodes
  note : list.note = formatNodePageRange list.nodesOffset nodesPageSize
    (queryNodes mapping nodes list.nodesSearchQuery repeaterType nodesPageSize
      list.nodesOffset).total
  prev : list.prevDisabled = decide (list.nodesOffset = 0)
  next : list.nextDisabled = decide
    ((queryNodes mapping nodes list.nodesSearchQuery repeaterType nodesPageSize
      list.nodesOffset).total ≤ list.nodesOffset + nodesPageSize)

/-- The offsets a refresh may go to. -/
def GoesTo (list : NodesList) (offset : Nat) : Prop :=
  offset = 0 ∨ offset = list.nodesOffset - nodesPageSize ∨ offset = list.nodesOffset ∨
    offset = list.nodesOffset + nodesPageSize

inductive Moves (mapping : CaseMapping) (list : NodesList) (event : NodesListEvent) :
    NodesList → Prop where
  | typed (text : Text) (settles : event.settles = none) :
      Moves mapping list event { list with input := text, nodesSearchDebounce := true }
  | started (debounce : Bool) (search : Text) (offset : Nat) (goesTo : list.GoesTo offset)
      (settles : event.settles = none) :
      Moves mapping list event (refreshNodesList
        { list with
          nodesSearchDebounce := debounce
          nodesSearchQuery := search
          nodesOffset := offset })
  | refused (number : Nat) (settles : event.settles = some number)
      (waiting : number ∈ list.underWay) :
      Moves mapping list event { list.settle number with status := .error }
  | rendered (number : Nat) (settles : event.settles = some number)
      (waiting : number ∈ list.underWay) (nodes : NodeTable) (request : NodesRequest)
      (response : NodesPage) (sent : list.requests[number]? = some request)
      (answer : request.answer mapping nodes = some response) :
      Moves mapping list event
        { (list.settle number).renderNodesList number response with
          answers := (number, nodes) :: list.answers }

theorem moves_of_step (stepped : list.step mapping event = some after) :
    Moves mapping list event after := by
  cases event with
  | input text =>
      cases stepped
      exact .typed text rfl
  | debounced =>
      simp only [step] at stepped
      split at stepped
      · cases stepped
        exact .started false list.input.trim 0 (.inl rfl) rfl
      · cases stepped
  | prev =>
      simp only [step] at stepped
      split at stepped
      · cases stepped
      · cases stepped
        exact .started list.nodesSearchDebounce list.nodesSearchQuery _ (.inr (.inl rfl)) rfl
  | next =>
      simp only [step] at stepped
      split at stepped
      · cases stepped
      · cases stepped
        exact .started list.nodesSearchDebounce list.nodesSearchQuery _
          (.inr (.inr (.inr rfl))) rfl
  | shown =>
      cases stepped
      exact .started list.nodesSearchDebounce list.nodesSearchQuery list.nodesOffset
        (.inr (.inr (.inl rfl))) rfl
  | answered number nodes =>
      simp only [step, receive] at stepped
      split at stepped
      · rename_i waiting
        rcases Option.map_eq_some_iff.mp stepped with ⟨request, sent, answered⟩
        have underWay : number ∈ list.underWay := by simpa using waiting
        cases answer : request.answer mapping nodes with
        | none =>
            rw [answer] at answered
            cases answered
            exact .refused number rfl underWay
        | some response =>
            rw [answer] at answered
            cases answered
            exact .rendered number rfl underWay nodes request response sent answer
      · cases stepped
  | failed number =>
      simp only [step] at stepped
      split at stepped
      · rename_i waiting
        cases stepped
        exact .refused number rfl (by simpa using waiting)
      · cases stepped

/-- The signature is that of the rows. -/
def Signed (list : NodesList) : Prop :=
  ∀ nodes total offset, list.lastNodesRenderSignature = some (nodes, total, offset) →
    list.rows = nodes

/-- What holds of the list in every run. -/
structure Lawful (mapping : CaseMapping) (list : NodesList) : Prop where
  latest : ∀ request ∈ list.requests.getLast?,
    request = ⟨list.nodesSearchQuery, list.nodesOffset⟩
  wholePages : nodesPageSize ∣ list.nodesOffset
  signature : list.Signed
  started : ∀ number, list.shown = some number → number < list.requests.length
  shows : ∀ number, list.shown = some number → number + 1 = list.requests.length →
    list.nodesOffset < 2 ^ 53 → ∃ nodes, list.answers.head? = some (number, nodes) ∧
      list.Shows mapping nodes

theorem lawful_loaded : Lawful mapping loaded where
  latest _ requestMem := nomatch requestMem
  wholePages := Nat.dvd_zero _
  signature _ _ _ signature := nomatch signature
  started _ shown := nomatch shown
  shows _ shown := nomatch shown

theorem GoesTo.wholePages {offset : Nat} (goesTo : list.GoesTo offset)
    (before : nodesPageSize ∣ list.nodesOffset) : nodesPageSize ∣ offset := by
  rcases goesTo with rfl | rfl | rfl | rfl
  · exact Nat.dvd_zero _
  · exact Nat.dvd_sub before (Nat.dvd_refl _)
  · exact before
  · exact Nat.dvd_add before (Nat.dvd_refl _)

/-- The rows are those of the response, whether or not they are drawn anew. -/
theorem rows_renderNodesList (signed : list.Signed) (number : Nat) (response : NodesPage) :
    ((list.settle number).renderNodesList number response).rows = response.nodes := by
  by_cases redrawn : some (response.nodes, response.total, list.nodesOffset) ≠
      list.lastNodesRenderSignature
  · exact if_pos redrawn
  · have kept := signed _ _ _ (not_not.mp redrawn).symm
    exact (if_neg redrawn).trans kept

theorem Lawful.step (lawful : Lawful mapping list)
    (stepped : list.step mapping event = some after) : Lawful mapping after := by
  cases moves_of_step stepped with
  | typed text _ => exact ⟨lawful.latest, lawful.wholePages, lawful.signature, lawful.started,
      fun number shown last safe =>
        (lawful.shows number shown last safe).imp fun _ ⟨answered, shows⟩ =>
          ⟨answered, shows.rows, shows.note, shows.prev, shows.next⟩⟩
  | started debounce search offset goesTo _ =>
      refine ⟨?_, goesTo.wholePages lawful.wholePages, lawful.signature, ?_, ?_⟩
      · intro request requestMem
        simpa [refreshNodesList, eq_comm] using requestMem
      · intro number shown
        have before := lawful.started number shown
        simp only [refreshNodesList, List.length_append, List.length_singleton]
        omega
      · intro number shown last
        have before := lawful.started number shown
        simp only [refreshNodesList, List.length_append, List.length_singleton] at last
        omega
  | refused number _ _ => exact ⟨lawful.latest, lawful.wholePages, lawful.signature,
      lawful.started, fun number shown last safe =>
        (lawful.shows number shown last safe).imp fun _ ⟨answered, shows⟩ =>
          ⟨answered, shows.rows, shows.note, shows.prev, shows.next⟩⟩
  | rendered number _ _ nodes request response sent answer =>
      have rows := rows_renderNodesList lawful.signature number response
      refine ⟨lawful.latest, lawful.wholePages, ?_, ?_, ?_⟩
      · intro shownNodes total offset signature
        cases signature
        exact rows
      · intro own shown
        cases shown
        exact (List.getElem?_eq_some_iff.mp sent).1
      · intro own shown last safe
        cases shown
        have lastRequest : request ∈ list.requests.getLast? := by
          rw [List.getLast?_eq_getElem?, Option.mem_def, ← sent]
          congr 1
          simp only [renderNodesList, settle] at last
          omega
        have asked := lawful.latest request lastRequest
        subst asked
        rw [NodesRequest.answer_eq mapping nodes safe] at answer
        split at answer
        · cases answer
          exact ⟨nodes, rfl, rows, rfl, rfl, rfl⟩
        · cases answer

/-- What holds besides when the requests settle in their order. -/
structure Sequential (list : NodesList) : Prop where
  queue : ∃ settled ≤ list.requests.length,
    list.underWay = List.range' settled (list.requests.length - settled)
  idle : list.underWay = [] → list.requests ≠ [] →
    list.status = .error ∨ list.status = .ready ∧ list.shown = some (list.requests.length - 1)

theorem sequential_loaded : Sequential loaded where
  queue := ⟨0, Nat.le_refl 0, rfl⟩
  idle _ requests := absurd rfl requests

/-- The request that settles is the oldest one under way. -/
theorem Sequential.settle (sequential : Sequential list) {number : Nat}
    (oldest : list.underWay.head? = some number) :
    number < list.requests.length ∧ (list.settle number).underWay =
      List.range' (number + 1) (list.requests.length - (number + 1)) := by
  rcases sequential.queue with ⟨settled, _, queue⟩
  cases waiting : list.requests.length - settled with
  | zero =>
      rw [queue, waiting] at oldest
      cases oldest
  | succ rest =>
      rw [queue, waiting, List.range'_succ] at oldest
      cases oldest
      have later : list.requests.length - (number + 1) = rest := by omega
      refine ⟨by omega, ?_⟩
      simp only [NodesList.settle, queue, waiting, List.range'_succ, later]
      rw [List.filter_cons_of_neg (by simp), List.filter_eq_self]
      intro other otherMem
      have apart := List.mem_range'_1.mp otherMem
      simp only [ne_eq, decide_eq_true_eq]
      omega

theorem Sequential.step (sequential : Sequential list) (ordered : list.inOrder event)
    (stepped : list.step mapping event = some after) : Sequential after := by
  cases moves_of_step stepped with
  | typed text _ => exact ⟨sequential.queue, sequential.idle⟩
  | started debounce search offset _ _ =>
      rcases sequential.queue with ⟨settled, bound, queue⟩
      constructor
      · refine ⟨settled, ?_, ?_⟩
        · simp only [refreshNodesList, List.length_append, List.length_singleton]
          omega
        · have longer : list.requests.length + 1 - settled =
              list.requests.length - settled + 1 := by omega
          simp only [refreshNodesList, queue, List.length_append, List.length_singleton, longer]
          rw [List.range'_concat]
          congr 2
          omega
      · intro idle
        simp [refreshNodesList] at idle
  | refused number settles _ =>
      rcases sequential.settle (ordered number settles) with ⟨sent, queue⟩
      exact ⟨⟨number + 1, sent, queue⟩, fun _ _ => .inl rfl⟩
  | rendered number settles _ nodes request response _ _ =>
      rcases sequential.settle (ordered number settles) with ⟨sent, queue⟩
      refine ⟨⟨number + 1, sent, queue⟩, ?_⟩
      intro idle _
      refine .inr ⟨rfl, ?_⟩
      have last : list.requests.length - (number + 1) = 0 := by
        have empty := congrArg List.length (queue.symm.trans idle)
        simpa using empty
      simp only [renderNodesList, NodesList.settle, Option.some.injEq]
      omega

/-- When the requests settle in their order and none is under way, the list shows the page of its
search and offset in the table its latest request was answered from, or an error. -/
theorem shows_or_fails (list : NodesList)
    (reachable : (nodesListSystem mapping).ReachableWhen inOrder list)
    (idle : list.underWay = []) (asked : list.requests ≠ []) (safe : list.nodesOffset < 2 ^ 53) :
    list.status = .error ∨
      list.status = .ready ∧ nodesPageSize ∣ list.nodesOffset ∧
        ∃ nodes, list.answers.head? = some (list.requests.length - 1, nodes) ∧
          list.Shows mapping nodes := by
  have invariant : Lawful mapping list ∧ Sequential list := by
    apply reachable.invariant
    · rintro _ rfl
      exact ⟨lawful_loaded, sequential_loaded⟩
    · rintro before event next ⟨lawful, sequential⟩ ordered stepped
      exact ⟨lawful.step stepped, sequential.step ordered stepped⟩
  rcases invariant with ⟨lawful, sequential⟩
  rcases sequential.idle idle asked with failed | ⟨ready, shown⟩
  · exact .inl failed
  · have positive := List.length_pos_of_ne_nil asked
    exact .inr ⟨ready, lawful.wholePages, lawful.shows _ shown (by omega) safe⟩

/-- A repeater heard at this time, whose key begins with the byte. -/
def hilltop (byte : UInt8) (heardAt : Int) : Text × StoredNode :=
  (filledKey (Text.upperHex [byte]),
    { name := "Hilltop".toList
      type := some repeaterType
      firstHeardAt := 0
      lastHeardAt := heardAt })

/-- Repeaters for more than one page. -/
def hilltops : NodeTable :=
  (List.range 30).map fun number => hilltop (UInt8.ofNat number) number

/-- The first page, a failed and an answered request for the second one, the way back, and the
second page once more after the repeater at its end was heard again. -/
def hilltopEvents : List NodesListEvent :=
  [.shown, .answered 0 hilltops, .next, .failed 1, .shown, .answered 2 hilltops, .prev,
    .answered 3 hilltops, .next, .answered 4 (hilltop 0 40 :: hilltops.tail)]

theorem hilltops_arrive :
    ((nodesListSystem .asciiOnly).run inOrder loaded hilltopEvents).isSome = true := by
  decide +kernel

def hilltopList : NodesList :=
  ((nodesListSystem .asciiOnly).run inOrder loaded hilltopEvents).get hilltops_arrive

/-- The second page has the row that was the last one of the first page. -/
theorem shows_or_fails_of_hilltops :
    hilltopList.nodesOffset = 25 ∧ hilltopList.rows.head? = some (hilltop 5 5) ∧
      hilltopList.Shows .asciiOnly (hilltop 0 40 :: hilltops.tail) := by
  have ready : hilltopList.status = .ready := by decide +kernel
  have answered : hilltopList.answers.head? = some (4, hilltop 0 40 :: hilltops.tail) := by
    decide +kernel
  rcases shows_or_fails hilltopList (EventSystem.reachableWhen_get rfl hilltops_arrive)
    (by decide +kernel) (by decide +kernel) (by decide +kernel) with
    failed | ⟨_, _, nodes, last, shows⟩
  · rw [ready] at failed
    cases failed
  · rw [answered, Option.some.injEq, Prod.mk.injEq] at last
    rw [last.2]
    exact ⟨by decide +kernel, by decide +kernel, shows⟩

/-- The list shows this page of a search in this table. -/
structure Displays (mapping : CaseMapping) (nodes : NodeTable) (search : Text) (offset : Nat)
    (list : NodesList) : Prop where
  shows : list.Shows mapping nodes
  signed : list.Signed
  search : list.nodesSearchQuery = search
  offset : list.nodesOffset = offset

/-- The answer to a request that has just been started. -/
theorem receive_refreshNodesList (mapping : CaseMapping) (signed : list.Signed) (nodes : NodeTable)
    (short : list.nodesSearchQuery.length ≤ 128) (safe : list.nodesOffset < 2 ^ 53) :
    ∃ answered, list.refreshNodesList.receive mapping list.requests.length nodes = some answered ∧
      answered.Displays mapping nodes list.nodesSearchQuery list.nodesOffset := by
  let request : NodesRequest := ⟨list.nodesSearchQuery, list.nodesOffset⟩
  have answer : request.answer mapping nodes = _ := NodesRequest.answer_eq mapping nodes safe
  rw [if_pos short] at answer
  have waiting : list.refreshNodesList.underWay.contains list.requests.length = true := by
    simp [refreshNodesList]
  have sent : list.refreshNodesList.requests[list.requests.length]? = some request := by
    simp [refreshNodesList, request]
  have drawn : list.refreshNodesList.Signed := signed
  have rows := rows_renderNodesList drawn list.requests.length
    (queryNodes mapping nodes list.nodesSearchQuery repeaterType nodesPageSize list.nodesOffset)
  rw [receive, if_pos waiting, sent, Option.map_some, answer]
  refine ⟨_, rfl, ⟨rows, rfl, rfl, rfl⟩, ?_, rfl, rfl⟩
  intro shownNodes total offset signature
  cases signature
  exact rows

/-- The events of a search: the text is typed, the pause is over, the answer arrives. -/
def searchEvents (list : NodesList) (text : Text) (nodes : NodeTable) : List NodesListEvent :=
  [.input text, .debounced, .answered list.requests.length nodes]

/-- The events of a step to the next page. -/
def nextEvents (list : NodesList) (nodes : NodeTable) : List NodesListEvent :=
  [.next, .answered list.requests.length nodes]

/-- The rows of this page and of as many pages behind it, with the list at the last one. -/
def walk (mapping : CaseMapping) (nodes : NodeTable) :
    Nat → NodesList → Option (NodeTable × NodesList)
  | 0, list => some (list.rows, list)
  | count + 1, list =>
      ((nodesListSystem mapping).run EventSystem.anyStep list (list.nextEvents nodes)).bind
        fun after => (walk mapping nodes count after).map fun rest => (list.rows ++ rest.1, rest.2)

theorem run_searchEvents (signed : list.Signed) (text : Text) (nodes : NodeTable)
    (short : text.trim.length ≤ 128) :
    ∃ first, (nodesListSystem mapping).run EventSystem.anyStep list
        (list.searchEvents text nodes) = some first ∧
      first.Displays mapping nodes text.trim 0 := by
  let asked : NodesList :=
    { list with
      input := text
      nodesSearchDebounce := false
      nodesSearchQuery := text.trim
      nodesOffset := 0 }
  have askedSigned : asked.Signed := signed
  rcases receive_refreshNodesList mapping askedSigned nodes short (Nat.two_pow_pos 53)
    with ⟨first, received, displays⟩
  refine ⟨first, ?_, displays⟩
  have answered : (nodesListSystem mapping).step asked.refreshNodesList
      (.answered list.requests.length nodes) = some first := received
  exact (EventSystem.run_anyStep_cons _ _ _).trans (congrArg (Option.bind · _) answered)

theorem run_nextEvents {nodes : NodeTable} {search : Text} {offset : Nat}
    (displays : list.Displays mapping nodes search offset) (short : search.length ≤ 128)
    (safe : offset + nodesPageSize < 2 ^ 53) (enabled : list.nextDisabled = false) :
    ∃ after, (nodesListSystem mapping).run EventSystem.anyStep list (list.nextEvents nodes) =
        some after ∧ after.Displays mapping nodes search (offset + nodesPageSize) := by
  rcases displays with ⟨_, signed, rfl, rfl⟩
  let asked : NodesList := { list with nodesOffset := list.nodesOffset + nodesPageSize }
  have askedSigned : asked.Signed := signed
  rcases receive_refreshNodesList mapping askedSigned nodes short safe
    with ⟨after, received, displays⟩
  refine ⟨after, ?_, displays⟩
  have started : (nodesListSystem mapping).step list .next = some asked.refreshNodesList :=
    if_neg (by simp [enabled])
  have answered : (nodesListSystem mapping).step asked.refreshNodesList
      (.answered list.requests.length nodes) = some after := received
  rw [nextEvents, EventSystem.run_anyStep_cons, started, Option.bind_some,
    EventSystem.run_anyStep_cons, answered]
  rfl

/-- As far as there are nodes, the walk shows them page by page. -/
theorem walk_eq {nodes : NodeTable} {search : Text} {count offset : Nat}
    (displays : list.Displays mapping nodes search offset) (short : search.length ≤ 128)
    (few : nodes.length < 2 ^ 53)
    (more : count ≠ 0 → offset + count * nodesPageSize <
      (nodes.filter (matchesSearch mapping search repeaterType)).length) :
    ∃ last, walk mapping nodes count list =
        some (Sqlite.limitOffset ((count + 1) * nodesPageSize) offset
          ((nodes.filter (matchesSearch mapping search repeaterType)).insertionSort heardLater),
          last) ∧
      last.Displays mapping nodes search (offset + count * nodesPageSize) := by
  induction count generalizing list offset with
  | zero =>
      refine ⟨list, ?_, by simpa using displays⟩
      have rows := displays.shows.rows
      rw [displays.search, displays.offset] at rows
      rw [walk, rows, Nat.zero_add, Nat.one_mul]
      rfl
  | succ count ih =>
      have bound := more (Nat.succ_ne_zero count)
      rw [Nat.succ_mul] at bound
      have selected := (List.filter_sublist :
        (nodes.filter (matchesSearch mapping search repeaterType)).Sublist nodes).length_le
      have enabled : list.nextDisabled = false := by
        rw [displays.shows.next, displays.search, displays.offset, decide_eq_false_iff_not,
          Nat.not_le]
        exact Nat.lt_of_le_of_lt (by omega) bound
      rcases run_nextEvents displays short (by omega) enabled with ⟨after, ran, onward⟩
      rcases ih onward (fun _ => by omega) with ⟨last, walked, arrived⟩
      refine ⟨last, ?_, ?_⟩
      · have rows := displays.shows.rows
        rw [displays.search, displays.offset] at rows
        have longer : nodesPageSize + (count + 1) * nodesPageSize =
            (count + 1 + 1) * nodesPageSize := by
          rw [Nat.succ_mul (count + 1), Nat.add_comm]
        rw [walk, ran, Option.bind_some, walked, Option.map_some, rows, queryNodes,
          Sqlite.limitOffset_append, longer]
      · have same : offset + nodesPageSize + count * nodesPageSize =
            offset + (count + 1) * nodesPageSize := by
          rw [Nat.succ_mul]
          omega
        rwa [same] at arrived

/-- From every state of the list, a search that means its characters leads to its first page, and
Next from there to each node that is sought, once, the last heard first. -/
theorem next_lists_all (reachable : (nodesListSystem mapping).Reachable list) (text : Text)
    (nodes : NodeTable) (table : SearchableTable nodes) (literal : LiteralSearch mapping text.trim)
    (short : text.trim.length ≤ 128) (few : nodes.length < 2 ^ 53) :
    ∃ first last rows, (nodesListSystem mapping).run EventSystem.anyStep list
        (list.searchEvents text nodes) = some first ∧
      walk mapping nodes
          (((soughtNodes nodes text.trim repeaterType).length - 1) / nodesPageSize) first =
        some (rows, last) ∧
      last.nextDisabled = true ∧ rows.Perm (soughtNodes nodes text.trim repeaterType) ∧
        (rows.map Prod.fst).Nodup ∧ rows.Pairwise heardLater := by
  have lawful : Lawful mapping list := by
    apply reachable.invariant
    · rintro _ rfl
      exact lawful_loaded
    · intro before event next lawful _ stepped
      exact lawful.step stepped
  rcases run_searchEvents lawful.signature text nodes short with ⟨first, searched, displays⟩
  let selected := nodes.filter (matchesSearch mapping text.trim repeaterType)
  let count := (selected.length - 1) / nodesPageSize
  have counted : count * nodesPageSize ≤ selected.length - 1 := Nat.div_mul_le_self _ _
  have enough : selected.length ≤ (count + 1) * nodesPageSize := by
    have rest : selected.length - 1 < count * nodesPageSize + nodesPageSize :=
      Nat.lt_div_mul_add (by decide)
    rw [Nat.succ_mul]
    omega
  have more : count ≠ 0 → 0 + count * nodesPageSize < selected.length := by
    intro pages
    have positive := Nat.mul_pos (Nat.pos_of_ne_zero pages) (by decide : 0 < nodesPageSize)
    omega
  rcases walk_eq displays short few more with ⟨last, walked, arrived⟩
  have sought : selected = soughtNodes nodes text.trim repeaterType := by
    apply List.filter_congr
    intro entry entryMem
    rw [Bool.eq_iff_iff, literal.matches_iff table repeaterType entryMem, decide_eq_true_iff]
  have searches := SearchesLiterally.of_selected table.keys sought
  have rows : nodesOfPages mapping nodes text.trim repeaterType nodesPageSize (count + 1) =
      Sqlite.limitOffset ((count + 1) * nodesPageSize) 0 (selected.insertionSort heardLater) := by
    rw [nodesOfPages_eq, Sqlite.pages_eq_take]
    rfl
  rw [← sought]
  refine ⟨first, last, _, searched, walked, ?_, ?_, ?_, ?_⟩
  · rw [arrived.shows.next, arrived.search, arrived.offset, decide_eq_true_eq, Nat.zero_add]
    rw [Nat.succ_mul] at enough
    exact enough
  · rw [← rows, sought]
    exact searches.complete nodesPageSize (count + 1) (by rwa [← sought])
  · rw [← rows]
    exact searches.once nodesPageSize (count + 1)
  · rw [← rows]
    exact searches.ordered nodesPageSize (count + 1)

theorem searchableTable_hilltops : SearchableTable hilltops where
  keys := by decide +kernel
  keyHex := by
    have digits : (List.range 30).all fun number =>
        (Text.upperHex [UInt8.ofNat number]).length = 2 ∧
          (Text.upperHex [UInt8.ofNat number]).all (fun char => IsUpperHexDigit char) := by
      decide +kernel
    intro entry entryMem
    rcases List.mem_map.mp entryMem with ⟨number, numberMem, rfl⟩
    have own := of_decide_eq_true (List.all_eq_true.mp digits number numberMem)
    refine isPublicKeyHex_filledKey _ (by omega) fun char charMem => ?_
    exact of_decide_eq_true (List.all_eq_true.mp own.2 char charMem)
  name := by
    have plain : '\x00' ∉ "Hilltop".toList := by decide
    intro entry entryMem
    rcases List.mem_map.mp entryMem with ⟨number, _, rfl⟩
    exact plain

/-- One click shows all thirty. -/
theorem next_lists_all_of_hilltops :
    ∃ first last rows, (nodesListSystem .asciiOnly).run EventSystem.anyStep hilltopList
        (hilltopList.searchEvents " hill".toList hilltops) = some first ∧
      walk .asciiOnly hilltops 1 first = some (rows, last) ∧ last.nextDisabled = true ∧
        rows.length = 30 ∧ (rows.map Prod.fst).Nodup ∧ rows.Pairwise heardLater := by
  have plain := List.all_eq_true.mp (by decide : ((Text.trim " hill".toList).all fun char =>
    decide (char ≠ '%' ∧ char ≠ '_' ∧ char ≠ '\x00')) = true)
  have literal : LiteralSearch .asciiOnly (Text.trim " hill".toList) :=
    .inr ⟨fun char charMem => of_decide_eq_true (plain char charMem), fun _ _ => by decide⟩
  have sought : (soughtNodes hilltops (Text.trim " hill".toList) repeaterType).length = 30 := by
    decide +kernel
  have reachable : (nodesListSystem .asciiOnly).Reachable hilltopList :=
    (EventSystem.reachableWhen_get rfl hilltops_arrive).weaken fun _ _ _ => trivial
  rcases next_lists_all reachable " hill".toList hilltops searchableTable_hilltops literal
    (by decide) (by decide) with ⟨first, last, rows, searched, walked, ended, listed, once, ordered⟩
  rw [sought] at walked
  exact ⟨first, last, rows, searched, walked, ended, listed.length_eq.trans sought, once, ordered⟩

end NodesList

end MeshcoreObserver
