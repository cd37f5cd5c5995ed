import MeshcoreObserver.Transition.EventSystem
import MeshcoreObserver.Web.CustomRange

/-!
# Refreshing the dashboard

The page of the dashboard with the requests of `refreshRangeData`. A live update
asks for the data of the current view again; while a request is under way it only
notes that a follow-up is wanted. A new view or range aborts the request under
way and starts its own. Fetching and reading a response may take any time, and an
aborted request may still come to its end in any way.

What the data looks like on the page is left out, and so is the list of
repeaters, which has requests of its own.
-/

namespace MeshcoreObserver

open Transition

/-- What a request of `refreshRangeData` awaits. -/
inductive RequestStage where
  | fetching
  | reading
  | finished
  deriving DecidableEq, Repr

/-- One request, with the abort signal of its controller. `updates` and `openings` are the numbers
of live updates that had come in and of openings of the custom form when it was started. -/
structure RangeRequest where
  view : DashboardView
  params : List (Text × Text)
  generation : Nat
  aborted : Bool
  stage : RequestStage
  updates : Nat
  openings : Nat
  deriving DecidableEq, Repr

inductive DataStatus where
  | loading
  | ready
  | error
  deriving DecidableEq, Repr

/-- One call of `renderDashboardView`, with the page it finds. -/
structure RenderMark where
  request : RangeRequest
  currentView : DashboardView
  range : RangeState
  openings : Nat
  latest : Nat
  deriving DecidableEq, Repr

/-- The body of a response. -/
structure DashboardResponse where
  view : Text
  hasData : Bool
  deriving DecidableEq, Repr

/-- A controller is known by the number of its request. `updates` counts the live updates and
`openings` how often the custom form was opened; `renders` holds the calls of
`renderDashboardView`, newest first. -/
structure DashboardPage where
  currentView : DashboardView
  range : RangeState
  activeRangeRefresh : Option Nat
  activeRangeController : Option Nat
  rangeRefreshQueued : Bool
  rangeRefreshGeneration : Nat
  lastRangeSuccessByView : List (DashboardView × Int)
  rangeDataStatus : Option (DataStatus × DashboardView)
  requests : List RangeRequest
  updates : Nat
  openings : Nat
  renders : List RenderMark
  deriving DecidableEq, Repr

inductive PageEvent where
  | liveUpdate
  | selectPresetRange (value : Text)
  | openCustomRange
  | applyCustomRange (startValue endValue : Text)
  | navigate (view : DashboardView) (pushHistory : Bool)
  | fetched (number : Nat) (ok : Bool)
  | read (number : Nat) (body : Option DashboardResponse) (renders : Bool) (now : Int)
  deriving DecidableEq, Repr

def rangePresets : List Text :=
  ["1h".toList, "6h".toList, "24h".toList, "7d".toList, "30d".toList, "90d".toList, "1y".toList,
    "all".toList]

namespace DashboardPage

/-- The page before `bootstrap()`. -/
def blank : DashboardPage :=
  { currentView := .overview
    range := ⟨"24h".toList, none, none⟩
    activeRangeRefresh := none
    activeRangeController := none
    rangeRefreshQueued := false
    rangeRefreshGeneration := 0
    lastRangeSuccessByView := []
    rangeDataStatus := none
    requests := []
    updates := 0
    openings := 0
    renders := [] }

/-- `activeRangeController?.abort()`. -/
def abortActive (page : DashboardPage) : DashboardPage :=
  match page.activeRangeController with
  | none => page
  | some number =>
      { page with
        requests := page.requests.modify number fun request => { request with aborted := true } }

/-- A request up to its first `await`. -/
def startRequest (page : DashboardPage) (params : List (Text × Text)) : DashboardPage :=
  { page with
    rangeRefreshGeneration := page.rangeRefreshGeneration + 1
    activeRangeController := some page.requests.length
    activeRangeRefresh := some page.requests.length
    rangeDataStatus := some (.loading, page.currentView)
    requests := page.requests ++
      [{ view := page.currentView
         params
         generation := page.rangeRefreshGeneration + 1
         aborted := false
         stage := .fetching
         updates := page.updates
         openings := page.openings }] }

def refreshRangeData (page : DashboardPage) (supersede : Bool) : DashboardPage :=
  match resolveRangeQuery page.range with
  | none => page
  | some params =>
      if page.activeRangeRefresh.isSome then
        if supersede then page.abortActive.startRequest params
        else { page with rangeRefreshQueued := true }
      else page.startRequest params

def setStage (page : DashboardPage) (number : Nat) (stage : RequestStage) : DashboardPage :=
  { page with requests := page.requests.modify number fun request => { request with stage } }

/-- The `finally` block of a request. -/
def settle (page : DashboardPage) (number : Nat) : DashboardPage :=
  let settled := page.setStage number .finished
  if page.activeRangeController = some number then
    let idle := { settled with activeRangeController := none, activeRangeRefresh := none }
    if page.rangeRefreshQueued then
      { idle with rangeRefreshQueued := false }.refreshRangeData false
    else idle
  else settled

/-- The `catch` block, and the `finally` block after it. -/
def requestFails (page : DashboardPage) (number : Nat) (request : RangeRequest) : DashboardPage :=
  if request.aborted then page.settle number
  else { page with rangeDataStatus := some (.error, request.view) }.settle number

def render (page : DashboardPage) (request : RangeRequest) : DashboardPage :=
  { page with
    renders :=
      ⟨request, page.currentView, page.range, page.openings, page.rangeRefreshGeneration⟩ ::
        page.renders }

/-- What follows `renderDashboardView` when it returns. -/
def succeed (page : DashboardPage) (request : RangeRequest) (now : Int) : DashboardPage :=
  { page with
    lastRangeSuccessByView :=
      Counting.update request.view (fun _ => now) page.lastRangeSuccessByView
    rangeDataStatus := some (.ready, request.view) }

/-- `fetch` settles, with a response that is `ok` or in any other way. -/
def fetched (page : DashboardPage) (number : Nat) (ok : Bool) : Option DashboardPage :=
  match page.requests[number]? with
  | none => none
  | some request =>
      if request.stage = .fetching then
        some (if ok then page.setStage number .reading else page.requestFails number request)
      else none

def matchesRequest (request : RangeRequest) (response : DashboardResponse) : Bool :=
  response.view = request.view.name ∧ response.hasData

/-- `response.json()` settles. `renders` says whether `renderDashboardView` returns. -/
def read (page : DashboardPage) (number : Nat) (body : Option DashboardResponse) (renders : Bool)
    (now : Int) : Option DashboardPage :=
  match page.requests[number]? with
  | none => none
  | some request =>
      if request.stage = .reading then
        some
          (if body.any (matchesRequest request) then
            if request.aborted ∨ request.generation ≠ page.rangeRefreshGeneration then
              page.settle number
            else if renders then ((page.render request).succeed request now).settle number
            else (page.render request).requestFails number request
          else page.requestFails number request)
      else none

def selectPresetRange (page : DashboardPage) (value : Text) : Option DashboardPage :=
  if rangePresets.contains value then
    some ({ page with range := { page.range with range := value } }.refreshRangeData true)
  else none

def applyCustomRange (page : DashboardPage) (startValue endValue : Text) : DashboardPage :=
  match parseCustomRangeInputs startValue endValue with
  | .error _ => page
  | .ok result =>
      { page with
        range := ⟨"custom".toList, some result.start, some result.finish⟩ }.refreshRangeData true

/-- The choice of `custom` in the list of ranges. -/
def openCustomRange (page : DashboardPage) : DashboardPage :=
  { page with
    range := { page.range with range := "custom".toList }
    openings := page.openings + 1 }

def showDashboardView (page : DashboardPage) (view : DashboardView) : DashboardPage :=
  { page with currentView := view }.refreshRangeData true

def navigateDashboardView (page : DashboardPage) (view : DashboardView) (pushHistory : Bool) :
    DashboardPage :=
  if pushHistory ∧ view = page.currentView then page else page.showDashboardView view

def step (page : DashboardPage) : PageEvent → Option DashboardPage
  | .liveUpdate => some ({ page with updates := page.updates + 1 }.refreshRangeData false)
  | .selectPresetRange value => page.selectPresetRange value
  | .openCustomRange => some page.openCustomRange
  | .applyCustomRange startValue endValue => some (page.applyCustomRange startValue endValue)
  | .navigate view pushHistory => some (page.navigateDashboardView view pushHistory)
  | .fetched number ok => page.fetched number ok
  | .read number body renders now => page.read number body renders now

end DashboardPage

/-- Every run of a page, from the end of `bootstrap()` on. -/
def pageSystem : EventSystem DashboardPage PageEvent where
  Initial page := ∃ view, page = DashboardPage.blank.navigateDashboardView view false
  step := DashboardPage.step

end MeshcoreObserver
