import MeshcoreObserver.Calendar
import MeshcoreObserver.FormUrlEncoded
import MeshcoreObserver.Metrics.PacketHistory
import MeshcoreObserver.Web.MetricsServer
import MeshcoreObserver.Web.RangeRequests

/-!
# Custom ranges

A custom range of the dashboard on its way from the two date inputs to the rows
of the store. The client ends the range at the last millisecond of the end date;
the server and the queries take the end of a window as the first instant that is
no longer part of it. A sample at that very millisecond is missed, by a range as
by two adjacent ones. A start before 1970 is refused by the schemas.

The value of a date input is a date of four-digit years, or empty.
-/

namespace MeshcoreObserver

open Calendar Counting

def dayMs : Int := 86400000

/-- `new Date(value).getTime()` for the value of a date input. -/
def dateTime (value : Text) : Option Int :=
  (Calendar.ofText value).map fun date => date.dayNumber * dayMs

structure CustomRange where
  start : Int
  finish : Int
  deriving DecidableEq, Repr

def parseCustomRangeInputs (startValue endValue : Text) : Except Text CustomRange :=
  if startValue = [] ∨ endValue = [] then .error "Pick both a start and end date.".toList
  else
    match dateTime startValue, (dateTime endValue).map fun time => time + dayMs - 1 with
    | some start, some finish =>
        if start < finish then .ok ⟨start, finish⟩
        else .error "Start must be before end.".toList
    | _, _ => .error "Start must be before end.".toList

structure RangeState where
  range : Text
  customStartMs : Option Int
  customEndMs : Option Int
  deriving DecidableEq, Repr

/-- The properties of the query object, with what `String` makes of their values. -/
def resolveRangeQuery (state : RangeState) : Option (List (Text × Text)) :=
  if state.range = "custom".toList then
    match state.customStartMs, state.customEndMs with
    | some start, some finish =>
        some [("start".toList, Text.ofInt start), ("end".toList, Text.ofInt finish)]
    | _, _ => none
  else some [("range".toList, state.range)]

def buildQueryString (params : List (Text × Text)) : Text :=
  FormUrlEncoded.serialize
    (params.foldl (fun search param => update param.1 (fun _ => param.2) search) [])

def DashboardView.name : DashboardView → Text
  | .overview => "overview".toList
  | .packets => "packets".toList
  | .brokers => "brokers".toList
  | .bots => "bots".toList
  | .repeaters => "repeaters".toList

/-- The dashboard sends its view along. Other clients ask an endpoint that takes a range only. -/
def viewParam (view : Option DashboardView) : List (Text × Text) :=
  (view.map fun view => ("view".toList, view.name)).toList

def viewEndpoint (view : Option DashboardView) : QueryEndpoint :=
  if view.isSome then .dashboard else .rangeOnly

/-- The window a custom range ends up with, from the inputs to what the queries compare with. -/
def requestCustomRange (tables : StoreTables) (now : Int) (view : Option DashboardView)
    (startValue endValue : Text) : Option Window :=
  match parseCustomRangeInputs startValue endValue with
  | .error _ => none
  | .ok range =>
      match resolveRangeQuery ⟨"custom".toList, some range.start, some range.finish⟩ with
      | none => none
      | some params =>
          let searchParams := FormUrlEncoded.parse (buildQueryString (params ++ viewParam view))
          match resolveWindowOrRespondError tables (viewEndpoint view) searchParams now with
          | .error _ => none
          | .ok resolved => resolved.2.bound

def startOfDay (date : Date) : Int := date.dayNumber * dayMs

/-- 23:59:59.999. -/
def endOfDay (date : Date) : Int := startOfDay date + dayMs - 1

section Requests

variable (tables : StoreTables) (now : Int) (view : Option DashboardView)

/-- The request is accepted, and selects the samples of its days. -/
def SelectsInclusive (start finish : Date) : Prop :=
  ∃ window, requestCustomRange tables now view start.text finish.text = some window ∧
    tables.samplesIn window =
      tables.samples.filter fun sample =>
        startOfDay start ≤ sample.sampleAt ∧ sample.sampleAt ≤ endOfDay finish

/-- Two requests, the second from the day after the first, select what one request does. -/
def SelectTogether (start last next finish : Date) : Prop :=
  ∃ first second whole,
    requestCustomRange tables now view start.text last.text = some first ∧
      requestCustomRange tables now view next.text finish.text = some second ∧
        requestCustomRange tables now view start.text finish.text = some whole ∧
          (tables.samplesIn first ++ tables.samplesIn second).Perm (tables.samplesIn whole)

end Requests

section Window

variable {tables : StoreTables} {now : Int} {view : Option DashboardView} {start finish : Date}

theorem dateTime_text (date : Date) : dateTime date.text = some (startOfDay date) := by
  rw [dateTime, Calendar.ofText_text]
  rfl

theorem text_ne_nil (date : Date) : date.text ≠ [] :=
  List.append_ne_nil_of_right_ne_nil _ (List.cons_ne_nil _ _)

theorem startOfDay_lt_endOfDay (ordered : start ≤ finish) : startOfDay start < endOfDay finish := by
  have days := Date.dayNumber_le_iff.mpr ordered
  simp only [startOfDay, endOfDay, dayMs]
  omega

theorem parseCustomRangeInputs_text (ordered : start ≤ finish) :
    parseCustomRangeInputs start.text finish.text = .ok ⟨startOfDay start, endOfDay finish⟩ := by
  have before := startOfDay_lt_endOfDay ordered
  have given : ¬(start.text = [] ∨ finish.text = []) :=
    not_or.mpr ⟨text_ne_nil start, text_ne_nil finish⟩
  simp only [parseCustomRangeInputs, if_neg given, dateTime_text, Option.map_some]
  exact if_pos before

theorem dayNumber_bounds (date : Date) : -719528 ≤ date.dayNumber ∧ date.dayNumber < 2932897 := by
  have zero : dayFromYear 0 = -719528 := by decide
  have tenThousand : dayFromYear 10000 = 2932897 := by decide
  constructor
  · calc -719528
      _ = dayFromYear 0 := zero.symm
      _ ≤ dayFromYear date.year := dayFromYear_mono (Nat.zero_le date.year)
      _ ≤ date.dayNumber := date.dayFromYear_le
  · calc date.dayNumber
      _ < dayFromYear (date.year + 1) := date.dayNumber_lt_dayFromYear
      _ ≤ dayFromYear 10000 := dayFromYear_mono (Nat.succ_le_succ date.year_le)
      _ = 2932897 := tenThousand

theorem safe_startOfDay (date : Date) : (startOfDay date).natAbs < 2 ^ 53 := by
  have bounds := dayNumber_bounds date
  rw [startOfDay, dayMs]
  omega

theorem safe_endOfDay (date : Date) : (endOfDay date).natAbs < 2 ^ 53 := by
  have bounds := dayNumber_bounds date
  rw [endOfDay, startOfDay, dayMs]
  omega

/-- What the server reads from the query string. -/
def customParams (view : Option DashboardView) (start finish : Int) : List (Text × Text) :=
  [("start".toList, Text.ofInt start), ("end".toList, Text.ofInt finish)] ++ viewParam view

theorem parse_buildQueryString (view : Option DashboardView) (start finish : Int) :
    FormUrlEncoded.parse (buildQueryString (customParams view start finish)) =
      customParams view start finish := by
  rw [buildQueryString, FormUrlEncoded.parse_serialize]
  cases view with
  | none => rfl
  | some view => rfl

theorem saysCustom_customParams (view : Option DashboardView) (start finish : Int) :
    SaysCustom (customParams view start finish) start finish where
  range := by cases view <;> rfl
  start := rfl
  finish := rfl

theorem keys_customParams (view : Option DashboardView) (start finish : Int) :
    (customParams view start finish).map Prod.fst =
      if view.isSome then ["start".toList, "end".toList, "view".toList]
      else ["start".toList, "end".toList] := by
  cases view with
  | none => rfl
  | some view => rfl

theorem plain_customParams (view : Option DashboardView) (start finish : Int) :
    ∀ key ∈ (customParams view start finish).map Prod.fst, inheritedValue key = none := by
  rw [keys_customParams]
  split
  · decide
  · decide

theorem viewEndpoint_ranged (view : Option DashboardView) : viewEndpoint view ≠ .nodesList := by
  cases view with
  | none => decide
  | some view => exact (by decide : QueryEndpoint.dashboard ≠ .nodesList)

theorem accepts_integer (minimum value : Int) :
    (FieldSchema.integer minimum none).accepts (.number (.finite value)) = true ↔
      minimum ≤ value := by
  simp only [FieldSchema.accepts, toInt?_finite, Option.any_some, Option.all_none, Bool.and_true,
    decide_eq_true_eq]

theorem find?_bounds (view : Option DashboardView) :
    find? "start".toList (viewEndpoint view).schema.properties = some (.integer 0 none) ∧
      find? "end".toList (viewEndpoint view).schema.properties = some (.integer 0 none) := by
  cases view with
  | none => decide
  | some view =>
      have dashboard : viewEndpoint (some view) = .dashboard := rfl
      rw [dashboard]
      decide

/-- The view the dashboard sends is one of those the schema lists. -/
theorem accepts_view (view : DashboardView) {field : FieldSchema}
    (known : find? "view".toList QueryEndpoint.dashboard.schema.properties = some field) :
    field.accepts (QueryEndpoint.dashboard.value "view".toList view.name) = true := by
  have listed : find? "view".toList QueryEndpoint.dashboard.schema.properties =
      some (.enum ["overview".toList, "packets".toList, "brokers".toList, "bots".toList,
        "repeaters".toList]) := by decide
  rw [listed, Option.some.injEq] at known
  subst known
  cases view <;> decide

theorem known_customParams (view : Option DashboardView) (start finish : Int) :
    ∀ key ∈ (customParams view start finish).map Prod.fst,
      key ∈ (viewEndpoint view).schema.properties.map Prod.fst := by
  rw [keys_customParams]
  cases view with
  | none => exact (by decide)
  | some view =>
      exact (by decide : ∀ key ∈ ["start".toList, "end".toList, "view".toList],
        key ∈ QueryEndpoint.dashboard.schema.properties.map Prod.fst)

theorem required_customParams (view : Option DashboardView) (start finish : Int) :
    ∀ key ∈ (viewEndpoint view).schema.required,
      key ∈ (customParams view start finish).map Prod.fst := by
  rw [keys_customParams]
  cases view with
  | none => exact (by decide)
  | some view =>
      exact (by decide : ∀ key ∈ QueryEndpoint.dashboard.schema.required,
        key ∈ ["start".toList, "end".toList, "view".toList])

theorem oneRange_customParams (view : Option DashboardView) (start finish : Int) :
    OneRange ((customParams view start finish).map Prod.fst) := by
  rw [keys_customParams, OneRange]
  cases view with
  | none => exact (by decide)
  | some view =>
      simp only [Option.isSome_some, if_true]
      exact Or.inr (by decide)

/-- What is sent besides the start and the end is accepted. -/
theorem accepts_field_customParams {view : Option DashboardView} {start finish : Int}
    (startAccepted : (FieldSchema.integer 0 none).accepts
      ((viewEndpoint view).value "start".toList (Text.ofInt start)) = true)
    (endAccepted : (FieldSchema.integer 0 none).accepts
      ((viewEndpoint view).value "end".toList (Text.ofInt finish)) = true)
    {key value : Text} {field : FieldSchema}
    (found : find? key (customParams view start finish) = some value)
    (known : find? key (viewEndpoint view).schema.properties = some field) :
    field.accepts ((viewEndpoint view).value key value) = true := by
  have bounds := find?_bounds view
  rcases List.mem_append.mp (mem_of_find? found) with bound | viewMem
  · simp only [List.mem_cons, Prod.mk.injEq, List.not_mem_nil, or_false] at bound
    rcases bound with ⟨rfl, rfl⟩ | ⟨rfl, rfl⟩
    · rw [bounds.1, Option.some.injEq] at known
      rwa [← known]
    · rw [bounds.2, Option.some.injEq] at known
      rwa [← known]
  · cases view with
    | none => cases viewMem
    | some view =>
        have own : (key, value) = ("view".toList, view.name) := List.mem_singleton.mp viewMem
        cases own
        exact accepts_view view known

theorem accepts_customParams (view : Option DashboardView) {start finish : Int}
    (safeStart : start.natAbs < 2 ^ 53) (safeFinish : finish.natAbs < 2 ^ 53) :
    (viewEndpoint view).accepts (customParams view start finish) = true ↔
      0 ≤ start ∧ 0 ≤ finish := by
  have ranged := viewEndpoint_ranged view
  have bounds := find?_bounds view
  have startNumeric : "start".toList ∈ numericFields := by decide
  have endNumeric : "end".toList ∈ numericFields := by decide
  have startValue := value_of_integer ranged start startNumeric safeStart
  have endValue := value_of_integer ranged finish endNumeric safeFinish
  have custom := saysCustom_customParams view start finish
  rw [accepts_iff, ownParams_eq_self (plain_customParams view start finish)]
  constructor
  · intro acceptable
    have first := acceptable.fields _ _ _ custom.start bounds.1
    have last := acceptable.fields _ _ _ custom.finish bounds.2
    rw [startValue, accepts_integer] at first
    rw [endValue, accepts_integer] at last
    exact ⟨first, last⟩
  · rintro ⟨first, last⟩
    exact
      { known := known_customParams view start finish
        fields := by
          intro key value field found known
          refine accepts_field_customParams ?_ ?_ found known
          · rwa [startValue, accepts_integer]
          · rwa [endValue, accepts_integer]
        required := required_customParams view start finish
        oneRange := fun _ => oneRange_customParams view start finish }

/-- The server sees the parameters the dashboard has put together. -/
theorem requestCustomRange_eq (ordered : start ≤ finish) :
    requestCustomRange tables now view start.text finish.text =
      match (resolveWindowOrRespondError tables (viewEndpoint view)
        (customParams view (startOfDay start) (endOfDay finish)) now).map Prod.snd with
      | .error _ => none
      | .ok window => window.bound := by
  have query : resolveRangeQuery
      ⟨"custom".toList, some (startOfDay start), some (endOfDay finish)⟩ =
        some [("start".toList, Text.ofInt (startOfDay start)),
          ("end".toList, Text.ofInt (endOfDay finish))] := rfl
  have parsed := parse_buildQueryString view (startOfDay start) (endOfDay finish)
  rw [customParams] at parsed
  simp only [requestCustomRange, parseCustomRangeInputs_text ordered, query, parsed, customParams]
  cases resolveWindowOrRespondError tables (viewEndpoint view) _ now with
  | error refusal => rfl
  | ok resolved => rfl

/-- A custom range in the past is refused before 1970, and otherwise becomes a half-open window
which ends at its last millisecond. -/
theorem requestCustomRange_text (tables : StoreTables) (view : Option DashboardView)
    (ordered : start ≤ finish) (past : endOfDay finish < now) :
    requestCustomRange tables now view start.text finish.text =
      if 0 ≤ start.dayNumber then some ⟨startOfDay start, endOfDay finish⟩ else none := by
  have before := startOfDay_lt_endOfDay ordered
  have safeStart := safe_startOfDay start
  have safeFinish := safe_endOfDay finish
  have resolved : (resolveWindowOrRespondError tables (viewEndpoint view)
      (customParams view (startOfDay start) (endOfDay finish)) now).map Prod.snd = _ :=
    resolveWindow_custom (viewEndpoint_ranged view) (saysCustom_customParams view _ _)
      (plain_customParams view _ _) safeStart safeFinish before (Int.le_of_lt past)
  have sign : (0 ≤ startOfDay start ∧ 0 ≤ endOfDay finish) ↔ 0 ≤ start.dayNumber := by
    rw [startOfDay, dayMs] at *
    omega
  have accepts := (accepts_customParams view safeStart safeFinish).trans sign
  rw [requestCustomRange_eq ordered, resolved]
  by_cases modern : 0 ≤ start.dayNumber
  · rw [if_pos (accepts.mpr modern), if_pos modern]
    rfl
  · rw [if_neg (mt accepts.mp modern), if_neg modern]

end Window

theorem dayNumber_nonneg_iff (date : Date) : 0 ≤ date.dayNumber ↔ 1970 ≤ date.year := by
  have epoch : dayFromYear 1970 = 0 := by decide
  constructor
  · intro modern
    by_contra early
    have next := date.dayNumber_lt_dayFromYear
    have years : dayFromYear (date.year + 1) ≤ dayFromYear 1970 :=
      dayFromYear_mono (Nat.not_le.mp early)
    omega
  · intro modern
    have first := date.dayFromYear_le
    have years := dayFromYear_mono modern
    omega

theorem contains_intCast {start finish time : Int} :
    (Window.mk start finish).contains time = true ↔ start ≤ time ∧ time < finish := by
  rw [Window.contains_iff, Int.cast_le, Int.cast_lt]

theorem mem_samplesIn {tables : StoreTables} {start finish : Int} {sample : SampleRow} :
    sample ∈ tables.samplesIn ⟨start, finish⟩ ↔
      sample ∈ tables.samples ∧ start ≤ sample.sampleAt ∧ sample.sampleAt < finish := by
  rw [StoreTables.samplesIn, List.mem_filter, contains_intCast]

section Windows

variable {tables : StoreTables} {start last finish : Int}

/-- A half-open window misses what lies at its end. -/
theorem samplesIn_eq_iff (ordered : start ≤ finish) :
    (tables.samplesIn ⟨start, finish⟩ = tables.samples.filter fun sample =>
        start ≤ sample.sampleAt ∧ sample.sampleAt ≤ finish) ↔
      ∀ sample ∈ tables.samples, sample.sampleAt ≠ finish := by
  constructor
  · intro selected sample sampleMem atEnd
    have inside : sample ∈ tables.samples.filter fun sample =>
        start ≤ sample.sampleAt ∧ sample.sampleAt ≤ finish := by
      rw [List.mem_filter, decide_eq_true_eq]
      exact ⟨sampleMem, by omega, by omega⟩
    rw [← selected, mem_samplesIn] at inside
    omega
  · intro spared
    apply List.filter_congr
    intro sample sampleMem
    have other := spared sample sampleMem
    rw [Bool.eq_iff_iff, contains_intCast, decide_eq_true_iff]
    omega

/-- Two windows miss what lies at the time between them. -/
theorem samplesIn_append_perm_iff (ordered : start ≤ last) (onward : last < finish) :
    (tables.samplesIn ⟨start, last⟩ ++ tables.samplesIn ⟨(last + 1 : Int), finish⟩).Perm
        (tables.samplesIn ⟨start, finish⟩) ↔
      ∀ sample ∈ tables.samples, sample.sampleAt ≠ last := by
  constructor
  · intro together sample sampleMem between
    have inWhole : sample ∈ tables.samplesIn ⟨start, finish⟩ :=
      mem_samplesIn.mpr ⟨sampleMem, by omega, by omega⟩
    rcases List.mem_append.mp (together.mem_iff.mpr inWhole) with former | later
    · have inside := mem_samplesIn.mp former
      omega
    · have inside := mem_samplesIn.mp later
      omega
  · intro spared
    apply Sqlite.perm_filter_append
    · intro sample sampleMem
      have other := spared sample sampleMem
      simp only [contains_intCast]
      omega
    · intro sample sampleMem former
      rw [contains_intCast] at former
      rw [← Bool.not_eq_true, contains_intCast]
      omega

end Windows

section Selected

variable {tables : StoreTables} {now : Int} {view : Option DashboardView}
  {start last next finish : Date}

theorem selectsInclusive_iff (ordered : start ≤ finish) (past : endOfDay finish < now) :
    SelectsInclusive tables now view start finish ↔
      1970 ≤ start.year ∧ ∀ sample ∈ tables.samples, sample.sampleAt ≠ endOfDay finish := by
  have before := startOfDay_lt_endOfDay ordered
  rw [SelectsInclusive, requestCustomRange_text tables view ordered past, ← dayNumber_nonneg_iff,
    ← samplesIn_eq_iff (Int.le_of_lt before)]
  constructor
  · rintro ⟨window, accepted, selected⟩
    split at accepted
    · rename_i modern
      cases accepted
      exact ⟨modern, selected⟩
    · cases accepted
  · rintro ⟨modern, selected⟩
    exact ⟨_, if_pos modern, selected⟩

theorem selectTogether_iff (ordered : start ≤ last) (follows : last.next = some next)
    (onward : next ≤ finish) (past : endOfDay finish < now) :
    SelectTogether tables now view start last next finish ↔
      1970 ≤ start.year ∧ ∀ sample ∈ tables.samples, sample.sampleAt ≠ endOfDay last := by
  have firstDays := Date.dayNumber_le_iff.mpr ordered
  have secondDays := Date.dayNumber_le_iff.mpr onward
  have dayAfter := Date.dayNumber_next follows
  have beforeLast := startOfDay_lt_endOfDay ordered
  have beforeFinish := startOfDay_lt_endOfDay onward
  have adjacent : startOfDay next = endOfDay last + 1 := by
    rw [endOfDay, startOfDay, startOfDay, dayAfter, dayMs]
    omega
  have wholeOrdered : start ≤ finish := Date.dayNumber_le_iff.mp (by omega)
  have lastPast : endOfDay last < now := by omega
  have lastBefore : endOfDay last < endOfDay finish := by omega
  rw [SelectTogether, requestCustomRange_text tables view ordered lastPast,
    requestCustomRange_text tables view onward past,
    requestCustomRange_text tables view wholeOrdered past, adjacent, ← dayNumber_nonneg_iff,
    ← samplesIn_append_perm_iff (Int.le_of_lt beforeLast) lastBefore]
  constructor
  · rintro ⟨firstWindow, secondWindow, wholeWindow, firstAccepted, secondAccepted, wholeAccepted,
      together⟩
    split at wholeAccepted
    · rename_i modern
      rw [if_pos modern] at firstAccepted
      rw [if_pos (by omega)] at secondAccepted
      cases firstAccepted
      cases secondAccepted
      cases wholeAccepted
      exact ⟨modern, together⟩
    · cases wholeAccepted
  · rintro ⟨modern, together⟩
    exact ⟨_, _, _, if_pos modern, if_pos (by omega), if_pos modern, together⟩

end Selected

/-- A range in the past selects its days, and two adjacent ones select what the range of both does,
exactly from 1970 on and without a sample at the last millisecond of the days that end a range. -/
theorem custom_range_inclusive_iff (tables : StoreTables) (now : Int)
    (view : Option DashboardView) :
    (∀ start finish : Date, start ≤ finish → endOfDay finish < now →
      (SelectsInclusive tables now view start finish ↔
        1970 ≤ start.year ∧ ∀ sample ∈ tables.samples, sample.sampleAt ≠ endOfDay finish)) ∧
    ∀ start last next finish : Date, start ≤ last → last.next = some next → next ≤ finish →
      endOfDay finish < now →
        (SelectTogether tables now view start last next finish ↔
          1970 ≤ start.year ∧ ∀ sample ∈ tables.samples, sample.sampleAt ≠ endOfDay last) := by
  constructor
  · intro start finish ordered past
    exact selectsInclusive_iff ordered past
  · intro start last next finish ordered follows onward past
    exact selectTogether_iff ordered follows onward past

def newYear (year : Nat) (four : year ≤ 9999) : Date :=
  ⟨year, 1, 1, four, by decide, by decide, (by decide : 1 ≤ 31)⟩

theorem custom_range_inclusive_iff_of_epoch :
    SelectsInclusive threeSamples 1767225600000 (some .packets) (newYear 1970 (by decide))
      (newYear 1970 (by decide)) :=
  ((custom_range_inclusive_iff threeSamples 1767225600000 (some .packets)).1 (newYear 1970 _)
    (newYear 1970 _) (by decide) (by decide)).mpr (by decide)

/-- A sample at the last millisecond of the first of January 2024. -/
def lateSample : StoreTables :=
  { threeSamples with
    samples := threeSamples.samples.map fun sample => { sample with sampleAt := 1704153599999 } }

theorem last_millisecond_missed :
    ¬SelectsInclusive lateSample 1767225600000 none (newYear 2024 (by decide))
      (newYear 2024 (by decide)) := by
  rw [selectsInclusive_iff (by decide) (by decide)]
  decide

end MeshcoreObserver
