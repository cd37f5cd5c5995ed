import MeshcoreObserver.Metrics.StatsReporter
import MeshcoreObserver.Web.QuerySchemas

/-!
# Range requests

`resolveWindowOrRespondError`: a request of an endpoint with a range as the
window its queries take, or the refusal. The start of a range whose duration is
not known is not a number; the schemas let no such range through.
-/

namespace MeshcoreObserver

open Counting

/-- The responses with status 400. -/
inductive Refusal where
  | invalidQuery
  | range (message : Text)
  deriving DecidableEq, Repr

/-- The range of a query: a preset one, or a start and an end. -/
inductive RangeSelection where
  | preset (range : Text)
  | custom (start finish : Int)
  deriving DecidableEq, Repr

def textField (query : Query) (key : Text) : Option Text :=
  match find? key query with
  | some (.text text) => some text
  | _ => none

def integerField (query : Query) (key : Text) : Option Int :=
  match find? key query with
  | some (.number number) => number.toInt?
  | _ => none

/-- An accepted query always has one. -/
def rangeSelection (query : Query) : Option RangeSelection :=
  match textField query "range".toList with
  | some range => some (.preset range)
  | none =>
      match integerField query "start".toList, integerField query "end".toList with
      | some start, some finish => some (.custom start finish)
      | _, _ => none

def resolveRangeWindow (selection : RangeSelection) (now : Int) (earliestSampleAt : Option Int) :
    Except Refusal StatsWindow :=
  match selection with
  | .preset range =>
      if range = "all".toList then .ok ⟨some (earliestSampleAt.getD now), now⟩
      else .ok ⟨(find? range metricsRangeDurationsMs).map fun duration => now - duration, now⟩
  | .custom start finish =>
      if finish ≤ start then .error (.range "start must be before end".toList)
      else if min finish now ≤ start then .error (.range "start must be before end".toList)
      else .ok ⟨some start, min finish now⟩

def resolveWindowOrRespondError (tables : StoreTables) (endpoint : QueryEndpoint)
    (searchParams : List (Text × Text)) (now : Int) : Except Refusal (Query × StatsWindow) :=
  let query := endpoint.parse searchParams
  if endpoint.schema.validate query then
    match rangeSelection query with
    | none => .error .invalidQuery
    | some selection =>
        let earliestSampleAt :=
          if textField query "range".toList = some "all".toList then tables.getEarliestSampleAt
          else none
        (resolveRangeWindow selection now earliestSampleAt).map fun window => (query, window)
  else .error .invalidQuery

section Custom

variable {tables : StoreTables} {endpoint : QueryEndpoint} {searchParams : List (Text × Text)}
  {start finish now : Int}

/-- The parameters say a start and an end. -/
structure SaysCustom (searchParams : List (Text × Text)) (start finish : Int) : Prop where
  range : find? "range".toList searchParams = none
  start : find? "start".toList searchParams = some (Text.ofInt start)
  finish : find? "end".toList searchParams = some (Text.ofInt finish)

theorem value_of_integer (ranged : endpoint ≠ .nodesList) {key : Text} (value : Int)
    (numeric : key ∈ numericFields) (safe : value.natAbs < 2 ^ 53) :
    endpoint.value key (Text.ofInt value) = .number (.finite value) := by
  have fields : endpoint.numericFields = numericFields := by
    cases endpoint with
    | nodesList => exact absurd rfl ranged
    | history => rfl
    | rangeOnly => rfl
    | nodeTotals => rfl
    | dashboard => rfl
  rw [QueryEndpoint.value, fieldValue, fields, if_pos (List.contains_iff_mem.mpr numeric),
    JsNumber.ofText_ofInt safe]

theorem toInt?_finite (value : Int) : (JsNumber.finite value).toInt? = some value :=
  JsNumber.toInt?_eq_some.mpr rfl

theorem rangeSelection_custom (ranged : endpoint ≠ .nodesList)
    (custom : SaysCustom searchParams start finish)
    (plain : ∀ key ∈ searchParams.map Prod.fst, inheritedValue key = none)
    (safeStart : start.natAbs < 2 ^ 53) (safeFinish : finish.natAbs < 2 ^ 53) :
    rangeSelection (endpoint.parse searchParams) = some (.custom start finish) := by
  have own := ownParams_eq_self plain
  have range : textField (endpoint.parse searchParams) "range".toList = none := by
    rw [textField, endpoint.find?_parse, own, custom.range]
    rfl
  have startOf : integerField (endpoint.parse searchParams) "start".toList = some start := by
    rw [integerField, endpoint.find?_parse, own, custom.start, Option.map_some,
      value_of_integer ranged start (by decide) safeStart]
    exact toInt?_finite start
  have finishOf : integerField (endpoint.parse searchParams) "end".toList = some finish := by
    rw [integerField, endpoint.find?_parse, own, custom.finish, Option.map_some,
      value_of_integer ranged finish (by decide) safeFinish]
    exact toInt?_finite finish
  simp only [rangeSelection, range, startOf, finishOf]

/-- An accepted request with a start and an end in the past asks for the time between them. -/
theorem resolveWindow_custom (ranged : endpoint ≠ .nodesList)
    (custom : SaysCustom searchParams start finish)
    (plain : ∀ key ∈ searchParams.map Prod.fst, inheritedValue key = none)
    (safeStart : start.natAbs < 2 ^ 53) (safeFinish : finish.natAbs < 2 ^ 53)
    (ordered : start < finish) (past : finish ≤ now) :
    (resolveWindowOrRespondError tables endpoint searchParams now).map Prod.snd =
      if endpoint.accepts searchParams then .ok ⟨some start, finish⟩ else .error .invalidQuery := by
  have selection := rangeSelection_custom ranged custom plain safeStart safeFinish
  have clamped : min finish now = finish := min_eq_left past
  have accepts : endpoint.accepts searchParams =
      endpoint.schema.validate (endpoint.parse searchParams) := rfl
  simp only [resolveWindowOrRespondError, accepts, selection, resolveRangeWindow, clamped,
    if_neg (Int.not_le.mpr ordered)]
  split
  · rfl
  · rfl

end Custom

end MeshcoreObserver
