import MeshcoreObserver.Nodes.NodeSearch
import MeshcoreObserver.Web.RangeRefresh

/-!
# The list of repeaters

The list of the repeaters page: a search box, the buttons of the pages and the
requests they start, each of which is answered from the table of nodes as it is
then. A request on its way is the page of nodes it asks for, as long as what is
searched for has at most 128 characters.

Nothing keeps an answer from being shown after a later request was started. What
is shown under the offset of the page is right when requests are answered in
their order.
-/

namespace MeshcoreObserver

open Counting Transition

/-- The response to a request of the list, apart from the text of a refusal. -/
def handleNodesList (mapping : CaseMapping) (nodes : NodeTable)
    (searchParams : List (Text × Text)) : Option NodesPage :=
  let query := parseNodesListQuery searchParams
  if nodesListQuerySchema.validate query then
    some (queryNodes mapping nodes ((textField query "q".toList).getD [])
      ((textField query "type".toList).getD []) ((integerField query "limit".toList).getD 50).toNat
      ((integerField query "offset".toList).getD 0).toNat)
  else none

def nodesPageSize : Nat := 25

structure NodesRequest where
  search : Text
  offset : Nat
  deriving DecidableEq, Repr

namespace NodesRequest

/-- The properties of `params`, with what `String` makes of their values. -/
def params (request : NodesRequest) : List (Text × Text) :=
  [("type".toList, repeaterType), ("limit".toList, Text.ofInt nodesPageSize),
    ("offset".toList, Text.ofInt request.offset)] ++
      if request.search = [] then [] else [("q".toList, request.search)]

/-- What comes back for the request from this table. -/
def answer (mapping : CaseMapping) (nodes : NodeTable) (request : NodesRequest) :
    Option NodesPage :=
  handleNodesList mapping nodes (FormUrlEncoded.parse (buildQueryString request.params))

end NodesRequest

def formatNodePageRange (offset limit total : Nat) : Text :=
  if total = 0 then "No repeaters found.".toList
  else
    Text.ofInt (offset + 1) ++ '-' :: Text.ofInt (min (offset + limit) total) ++
      " of ".toList ++ Text.ofInt total

/-- The state of the list. A request is known by its number; `shown` is the one whose answer was
rendered last, and `answers` holds the table each answer was taken from, newest first. -/
structure NodesList where
  input : Text
  nodesSearchQuery : Text
  nodesOffset : Nat
  nodesSearchDebounce : Bool
  requests : List NodesRequest
  underWay : List Nat
  lastNodesRenderSignature : Option (NodeTable × Nat × Nat)
  rows : NodeTable
  note : Text
  prevDisabled : Bool
  nextDisabled : Bool
  status : DataStatus
  shown : Option Nat
  answers : List (Nat × NodeTable)
  deriving DecidableEq, Repr

/-- A request is answered from the table, or fails on its way. -/
inductive NodesListEvent where
  | input (text : Text)
  | debounced
  | prev
  | next
  | shown
  | answered (number : Nat) (nodes : NodeTable)
  | failed (number : Nat)
  deriving DecidableEq, Repr

namespace NodesList

def renderNodesList (list : NodesList) (number : Nat) (response : NodesPage) : NodesList :=
  let signature := some (response.nodes, response.total, list.nodesOffset)
  { list with
    lastNodesRenderSignature := signature
    rows := if signature ≠ list.lastNodesRenderSignature then response.nodes else list.rows
    note := formatNodePageRange list.nodesOffset nodesPageSize response.total
    prevDisabled := list.nodesOffset = 0
    nextDisabled := response.total ≤ list.nodesOffset + nodesPageSize
    status := .ready
    shown := some number }

/-- The start of `refreshNodesList`, up to the request. -/
def refreshNodesList (list : NodesList) : NodesList :=
  { list with
    requests := list.requests ++ [⟨list.nodesSearchQuery, list.nodesOffset⟩]
    underWay := list.underWay ++ [list.requests.length]
    status := .loading }

def settle (list : NodesList) (number : Nat) : NodesList :=
  { list with underWay := list.underWay.filter fun other => other ≠ number }

/-- A request is answered. A refusal ends like a failure. -/
def receive (mapping : CaseMapping) (list : NodesList) (number : Nat) (nodes : NodeTable) :
    Option NodesList :=
  if list.underWay.contains number then
    list.requests[number]?.map fun request =>
      match request.answer mapping nodes with
      | some response =>
          { (list.settle number).renderNodesList number response with
            answers := (number, nodes) :: list.answers }
      | none => { list.settle number with status := .error }
  else none

def step (mapping : CaseMapping) (list : NodesList) : NodesListEvent → Option NodesList
  | .input text => some { list with input := text, nodesSearchDebounce := true }
  | .debounced =>
      if list.nodesSearchDebounce then
        some (refreshNodesList
          { list with
            nodesSearchDebounce := false
            nodesSearchQuery := list.input.trim
            nodesOffset := 0 })
      else none
  | .prev =>
      if list.prevDisabled then none
      else some (refreshNodesList { list with nodesOffset := list.nodesOffset - nodesPageSize })
  | .next =>
      if list.nextDisabled then none
      else some (refreshNodesList { list with nodesOffset := list.nodesOffset + nodesPageSize })
  | .shown => some list.refreshNodesList
  | .answered number nodes => list.receive mapping number nodes
  | .failed number =>
      if list.underWay.contains number then some { list.settle number with status := .error }
      else none

/-- The list of a page that is loaded. -/
def loaded : NodesList :=
  { input := [], nodesSearchQuery := [], nodesOffset := 0, nodesSearchDebounce := false
    requests := [], underWay := [], lastNodesRenderSignature := none, rows := [], note := []
    prevDisabled := false, nextDisabled := false, status := .loading, shown := none
    answers := [] }

end NodesList

/-- The list, with any answers in any order. -/
def nodesListSystem (mapping : CaseMapping) : EventSystem NodesList NodesListEvent where
  Initial list := list = .loaded
  step := NodesList.step mapping

namespace NodesRequest

variable {request : NodesRequest}

theorem parse_params :
    FormUrlEncoded.parse (buildQueryString request.params) = request.params := by
  rw [buildQueryString, FormUrlEncoded.parse_serialize, params]
  split
  · rfl
  · rfl

/-- The query that is validated. -/
def query (request : NodesRequest) : Query :=
  [("type".toList, .text repeaterType), ("limit".toList, .number (.finite (nodesPageSize : Int))),
    ("offset".toList, .number (.finite (request.offset : Int)))] ++
      if request.search = [] then [] else [("q".toList, .text request.search)]

theorem parseNodesListQuery_params (safe : request.offset < 2 ^ 53) :
    parseNodesListQuery request.params = request.query := by
  have limit : JsNumber.ofText (Text.ofInt nodesPageSize) = .finite (nodesPageSize : Int) :=
    JsNumber.ofText_ofInt (by decide)
  have offset : JsNumber.ofText (Text.ofInt request.offset) = .finite (request.offset : Int) :=
    JsNumber.ofText_ofInt (by simpa using safe)
  rw [query, ← limit, ← offset, params]
  split
  · rfl
  · rfl

/-- The field of the schema for a key accepts the value. -/
def fieldAccepts (property : Text × QueryValue) : Bool :=
  (find? property.1 nodesListQuerySchema.properties).any fun field => field.accepts property.2

theorem validate_query :
    nodesListQuerySchema.validate request.query = true ↔ request.search.length ≤ 128 := by
  have type : fieldAccepts ("type".toList, .text repeaterType) = true := by decide
  have limit : fieldAccepts ("limit".toList, .number (.finite (nodesPageSize : Int))) = true := by
    decide
  have offset : fieldAccepts ("offset".toList, .number (.finite (request.offset : Int))) =
      true := by
    have field : fieldAccepts ("offset".toList, .number (.finite (request.offset : Int))) =
        (FieldSchema.integer 0 none).accepts (.number (.finite (request.offset : Int))) := rfl
    rw [field, FieldSchema.accepts, toInt?_finite]
    simp
  have whole : nodesListQuerySchema.validate request.query = request.query.all fieldAccepts := by
    have required : nodesListQuerySchema.required = [] := rfl
    have oneOf : nodesListQuerySchema.oneOf = none := rfl
    rw [QuerySchema.validate, required, oneOf, List.all_nil, Option.all_none, Bool.and_true,
      Bool.and_true]
    rfl
  rw [whole, query, List.all_append]
  simp only [List.all_cons, List.all_nil, type, limit, offset, Bool.true_and]
  split
  · rename_i empty
    simp [empty]
  · have search : fieldAccepts ("q".toList, .text request.search) =
        decide (request.search.length ≤ 128) := rfl
    simp only [List.all_cons, List.all_nil, search, Bool.and_true, decide_eq_true_eq]

/-- The server answers with the page that is asked for, unless the search is too long. -/
theorem answer_eq (mapping : CaseMapping) (nodes : NodeTable) (safe : request.offset < 2 ^ 53) :
    request.answer mapping nodes =
      if request.search.length ≤ 128 then
        some (queryNodes mapping nodes request.search repeaterType nodesPageSize request.offset)
      else none := by
  have search : (textField request.query "q".toList).getD [] = request.search := by
    rw [query]
    split
    · rename_i empty
      exact empty.symm
    · rfl
  have type : (textField request.query "type".toList).getD [] = repeaterType := rfl
  have limit : ((integerField request.query "limit".toList).getD 50).toNat = nodesPageSize := by
    have field : integerField request.query "limit".toList = some (nodesPageSize : Int) :=
      toInt?_finite nodesPageSize
    rw [field]
    rfl
  have offset : ((integerField request.query "offset".toList).getD 0).toNat = request.offset := by
    have field : integerField request.query "offset".toList = some (request.offset : Int) :=
      toInt?_finite request.offset
    rw [field]
    rfl
  rw [answer, parse_params, handleNodesList, parseNodesListQuery_params safe, search, type, limit,
    offset]
  simp only [validate_query]

end NodesRequest

end MeshcoreObserver
