import MeshcoreObserver.Basic
import MeshcoreObserver.Bots.ResponseTemplate
import MeshcoreObserver.Counting.Counts
import MeshcoreObserver.JsNumber

/-!
# Query schemas

The parameters of a metrics request as the object that is validated, and the
schemas of the endpoints. The first value of a key is kept. What `key in query`
holds of from the start, the names every object inherits, never gets into the
object and is never rejected; every other parameter is either validated or makes
the request invalid.

Of the validator only the decision is kept, not the messages of its errors.
-/

namespace MeshcoreObserver

open Counting

inductive QueryValue where
  | text (text : Text)
  | number (number : JsNumber)
  deriving DecidableEq, Repr

/-- The own properties of the object that is validated. -/
abbrev Query := List (Text × QueryValue)

inductive FieldSchema where
  | string (maxLength : Nat)
  | enum (values : List Text)
  | integer (minimum : Int) (maximum : Option Int)
  deriving DecidableEq, Repr

def FieldSchema.accepts : FieldSchema → QueryValue → Bool
  | .string maxLength, .text text => text.length ≤ maxLength
  | .enum values, .text text => values.contains text
  | .integer minimum maximum, .number number =>
      number.toInt?.any fun value => minimum ≤ value && maximum.all fun bound => value ≤ bound
  | _, _ => false

/-- A closed schema. The branches of `oneOf` are what each of them requires. -/
structure QuerySchema where
  properties : List (Text × FieldSchema)
  required : List Text
  oneOf : Option (List (List Text))
  deriving DecidableEq, Repr

/-- `RANGE_DURATIONS_MS` of the metrics ranges. -/
def metricsRangeDurationsMs : List (Text × Int) :=
  [("1h".toList, 3600000), ("6h".toList, 21600000), ("24h".toList, 86400000),
    ("7d".toList, 604800000), ("30d".toList, 2592000000), ("90d".toList, 7776000000),
    ("1y".toList, 31536000000)]

def rangeEnum : List Text := metricsRangeDurationsMs.map Prod.fst ++ ["all".toList]

def rangeProperties : List (Text × FieldSchema) :=
  [("range".toList, .enum rangeEnum), ("start".toList, .integer 0 none),
    ("end".toList, .integer 0 none)]

def rangeOneOf : List (List Text) := [["range".toList], ["start".toList, "end".toList]]

def maxBucketsProperty : Text × FieldSchema := ("maxBuckets".toList, .integer 10 (some 1000))

def typeProperty : Text × FieldSchema :=
  ("type".toList,
    .enum ["NONE".toList, "CHAT".toList, "REPEATER".toList, "ROOM".toList, "SENSOR".toList])

def metricsHistoryQuerySchema : QuerySchema :=
  { properties := rangeProperties ++ [maxBucketsProperty], required := []
    oneOf := some rangeOneOf }

def rangeOnlyQuerySchema : QuerySchema :=
  { properties := rangeProperties, required := [], oneOf := some rangeOneOf }

def nodeTotalsQuerySchema : QuerySchema :=
  { properties := rangeProperties ++ [typeProperty], required := [], oneOf := some rangeOneOf }

def dashboardQuerySchema : QuerySchema :=
  { properties :=
      rangeProperties ++
        [("view".toList,
          .enum ["overview".toList, "packets".toList, "brokers".toList, "bots".toList,
            "repeaters".toList]), maxBucketsProperty]
    required := ["view".toList]
    oneOf := some rangeOneOf }

def nodesListQuerySchema : QuerySchema :=
  { properties :=
      [("q".toList, .string 128), typeProperty, ("limit".toList, .integer 1 (some 200)),
        ("offset".toList, .integer 0 none)]
    required := []
    oneOf := none }

def hasProperty (query : Query) (key : Text) : Bool := (find? key query).isSome

def QuerySchema.validate (schema : QuerySchema) (query : Query) : Bool :=
  (query.all fun property =>
      (find? property.1 schema.properties).any fun field => field.accepts property.2) &&
    schema.required.all (hasProperty query) &&
    schema.oneOf.all fun branches =>
      (branches.filter fun branch => branch.all (hasProperty query)).length = 1

/-- `key in query`. -/
def keyIn (query : Query) (key : Text) : Bool :=
  hasProperty query key || (inheritedValue key).isSome

def fieldValue (numericFields : List Text) (key value : Text) : QueryValue :=
  if numericFields.contains key then .number (.ofText value) else .text value

/-- The loop over the entries of a `URLSearchParams`. -/
def parseEntries (numericFields : List Text) : Query → List (Text × Text) → Query
  | query, [] => query
  | query, (key, value) :: entries =>
      if keyIn query key then parseEntries numericFields query entries
      else parseEntries numericFields (query ++ [(key, fieldValue numericFields key value)]) entries

def numericFields : List Text := ["start".toList, "end".toList, "maxBuckets".toList]

def nodesListNumericFields : List Text := ["limit".toList, "offset".toList]

def parseRangeQuery (searchParams : List (Text × Text)) : Query :=
  parseEntries numericFields [] searchParams

def parseNodesListQuery (searchParams : List (Text × Text)) : Query :=
  parseEntries nodesListNumericFields [] searchParams

/-- A parser and the validator that follows it. -/
inductive QueryEndpoint where
  | history
  | rangeOnly
  | nodeTotals
  | dashboard
  | nodesList
  deriving DecidableEq, Repr

namespace QueryEndpoint

def schema : QueryEndpoint → QuerySchema
  | .history => metricsHistoryQuerySchema
  | .rangeOnly => rangeOnlyQuerySchema
  | .nodeTotals => nodeTotalsQuerySchema
  | .dashboard => dashboardQuerySchema
  | .nodesList => nodesListQuerySchema

def numericFields : QueryEndpoint → List Text
  | .nodesList => nodesListNumericFields
  | _ => MeshcoreObserver.numericFields

def parse : QueryEndpoint → List (Text × Text) → Query
  | .nodesList => parseNodesListQuery
  | _ => parseRangeQuery

def value (endpoint : QueryEndpoint) (key value : Text) : QueryValue :=
  fieldValue endpoint.numericFields key value

def accepts (endpoint : QueryEndpoint) (searchParams : List (Text × Text)) : Bool :=
  endpoint.schema.validate (endpoint.parse searchParams)

end QueryEndpoint

/-- Exactly one of a range, and a start with an end. -/
def OneRange (keys : List Text) : Prop :=
  Xor ("range".toList ∈ keys) ("start".toList ∈ keys ∧ "end".toList ∈ keys)

/-- The query says what the parameters say. -/
structure FaithfulQuery (endpoint : QueryEndpoint) (searchParams : List (Text × Text)) : Prop where
  keys : ∀ key, key ∈ (endpoint.parse searchParams).map Prod.fst ↔ key ∈ searchParams.map Prod.fst
  once : ((endpoint.parse searchParams).map Prod.fst).Nodup
  first : ∀ key value, find? key searchParams = some value →
    find? key (endpoint.parse searchParams) = some (endpoint.value key value)
  oneRange : endpoint ≠ .nodesList → OneRange ((endpoint.parse searchParams).map Prod.fst)
  integers : ∀ key minimum maximum, (key, .integer minimum maximum) ∈ endpoint.schema.properties →
    ∀ value, find? key (endpoint.parse searchParams) = some value →
      ∃ integer : Int, value = .number (.finite integer) ∧ minimum ≤ integer ∧
        ∀ bound ∈ maximum, integer ≤ bound

/-- No parameter is dropped: one that the schema does not know makes the request invalid, and an
accepted query is faithful. -/
structure DropsNothing (endpoint : QueryEndpoint) (searchParams : List (Text × Text)) : Prop where
  unknown : (∃ key ∈ searchParams.map Prod.fst, key ∉ endpoint.schema.properties.map Prod.fst) →
    endpoint.accepts searchParams = false
  accepted : endpoint.accepts searchParams = true → FaithfulQuery endpoint searchParams

/-- The parameters an endpoint takes: those it knows, each with a first value of its kind, the ones
it needs, and one range. -/
structure Acceptable (endpoint : QueryEndpoint) (searchParams : List (Text × Text)) : Prop where
  known : ∀ key ∈ searchParams.map Prod.fst, key ∈ endpoint.schema.properties.map Prod.fst
  fields : ∀ key value field, find? key searchParams = some value →
    find? key endpoint.schema.properties = some field →
      field.accepts (endpoint.value key value) = true
  required : ∀ key ∈ endpoint.schema.required, key ∈ searchParams.map Prod.fst
  oneRange : endpoint ≠ .nodesList → OneRange (searchParams.map Prod.fst)

/-- The parameters that are not named like a property every object inherits. -/
def ownParams (searchParams : List (Text × Text)) : List (Text × Text) :=
  searchParams.filter fun entry => inheritedValue entry.1 = none

section Parsing

variable {numericFields : List Text} {query : Query} {searchParams : List (Text × Text)} {key : Text}

theorem find?_ownParams :
    find? key (ownParams searchParams) =
      if inheritedValue key = none then find? key searchParams else none := by
  induction searchParams with
  | nil => rw [ownParams, List.filter_nil, find?, ite_self]
  | cons entry searchParams ih =>
      rw [ownParams] at ih ⊢
      by_cases own : inheritedValue entry.1 = none
      · rw [List.filter_cons_of_pos (by rwa [decide_eq_true_eq]), find?, find?, ih]
        by_cases same : entry.1 = key
        · rw [if_pos same, if_pos same, if_pos (same ▸ own)]
        · rw [if_neg same, if_neg same]
      · rw [List.filter_cons_of_neg (by rwa [decide_eq_true_eq]), find?, ih]
        by_cases same : entry.1 = key
        · rw [if_neg (same ▸ own), if_neg (same ▸ own)]
        · rw [if_neg same]

/-- A query has the own parameters, each with its first value. -/
theorem find?_parseEntries :
    find? key (parseEntries numericFields query searchParams) =
      (find? key query).or
        ((find? key (ownParams searchParams)).map (fieldValue numericFields key)) := by
  rw [find?_ownParams]
  induction searchParams generalizing query with
  | nil =>
      have nothing : find? key ([] : List (Text × Text)) = none := rfl
      rw [parseEntries, nothing, ite_self, Option.map_none, Option.or_none]
  | cons entry searchParams ih =>
      rw [parseEntries, find?]
      by_cases present : keyIn query entry.1
      · rw [if_pos present, ih]
        by_cases same : entry.1 = key
        · simp only [keyIn, hasProperty, same, Bool.or_eq_true] at present
          rcases present with found | inherited
          · rcases Option.isSome_iff_exists.mp found with ⟨value, found⟩
            rw [found, Option.some_or, Option.some_or]
          · rw [if_neg (Option.isSome_iff_ne_none.mp inherited),
              if_neg (Option.isSome_iff_ne_none.mp inherited)]
        · rw [if_neg same]
      · rw [if_neg present, ih, find?_append_singleton]
        by_cases same : entry.1 = key
        · simp only [keyIn, hasProperty, same, Bool.or_eq_true, not_or, Option.not_isSome_iff_eq_none]
            at present
          rw [if_pos same, if_pos same, present.1, if_pos present.2, if_pos present.2, same]
          rfl
        · rw [if_neg same, if_neg same, Option.or_none]

theorem nodup_parseEntries (nodup : (query.map Prod.fst).Nodup) :
    ((parseEntries numericFields query searchParams).map Prod.fst).Nodup := by
  induction searchParams generalizing query with
  | nil => exact nodup
  | cons entry searchParams ih =>
      rw [parseEntries]
      split
      · exact ih nodup
      · rename_i fresh
        apply ih
        apply nodup_map_concat Prod.fst nodup
        intro other otherMem same
        apply fresh
        have found := find?_eq_some_of_mem nodup otherMem
        rw [same] at found
        rw [keyIn, hasProperty, found]
        rfl

end Parsing

namespace QueryEndpoint

variable (endpoint : QueryEndpoint) (searchParams : List (Text × Text))

theorem parse_eq : endpoint.parse searchParams =
    parseEntries endpoint.numericFields [] searchParams := by
  cases endpoint with
  | nodesList => rfl
  | history => rfl
  | rangeOnly => rfl
  | nodeTotals => rfl
  | dashboard => rfl

theorem find?_parse (key : Text) :
    find? key (endpoint.parse searchParams) =
      (find? key (ownParams searchParams)).map (endpoint.value key) := by
  rw [parse_eq, find?_parseEntries]
  rfl

theorem nodup_parse : ((endpoint.parse searchParams).map Prod.fst).Nodup := by
  rw [parse_eq]
  exact nodup_parseEntries List.nodup_nil

theorem mem_keys_parse {key : Text} :
    key ∈ (endpoint.parse searchParams).map Prod.fst ↔
      key ∈ (ownParams searchParams).map Prod.fst := by
  rw [mem_keys_iff, mem_keys_iff]
  simp only [find?_parse, Option.map_eq_some_iff]
  constructor
  · rintro ⟨_, value, found, _⟩
    exact ⟨value, found⟩
  · rintro ⟨value, found⟩
    exact ⟨_, value, found, rfl⟩

theorem hasProperty_parse (key : Text) :
    hasProperty (endpoint.parse searchParams) key = true ↔
      key ∈ (ownParams searchParams).map Prod.fst := by
  rw [← mem_keys_parse endpoint, mem_keys_iff, hasProperty, Option.isSome_iff_exists]

end QueryEndpoint

theorem length_filter_pair {Branch : Type} (satisfied : Branch → Bool) (first second : Branch) :
    ([first, second].filter satisfied).length = 1 ↔
      Xor (satisfied first = true) (satisfied second = true) := by
  cases one : satisfied first with
  | false => cases two : satisfied second <;> simp [one, two, Xor]
  | true => cases two : satisfied second <;> simp [one, two, Xor]

/-- Of two branches that require a range, and a start with an end, one is satisfied. -/
theorem oneOf_rangeOneOf (query : Query) :
    (rangeOneOf.filter fun branch => branch.all (hasProperty query)).length = 1 ↔
      Xor (hasProperty query "range".toList = true)
        (hasProperty query "start".toList = true ∧ hasProperty query "end".toList = true) := by
  rw [rangeOneOf, length_filter_pair]
  simp only [List.all_cons, List.all_nil, Bool.and_true, Bool.and_eq_true]

theorem QueryEndpoint.oneOf_schema (endpoint : QueryEndpoint) :
    endpoint.schema.oneOf = if endpoint = .nodesList then none else some rangeOneOf := by
  cases endpoint with
  | nodesList => rfl
  | history => rfl
  | rangeOnly => rfl
  | nodeTotals => rfl
  | dashboard => rfl

/-- No schema knows a property that every object inherits. -/
theorem QueryEndpoint.not_inherited (endpoint : QueryEndpoint) {key : Text}
    (keyMem : key ∈ endpoint.schema.properties.map Prod.fst) : inheritedValue key = none := by
  cases endpoint with
  | history => revert keyMem; revert key; decide
  | rangeOnly => revert keyMem; revert key; decide
  | nodeTotals => revert keyMem; revert key; decide
  | dashboard => revert keyMem; revert key; decide
  | nodesList => revert keyMem; revert key; decide

theorem QueryEndpoint.nodup_properties (endpoint : QueryEndpoint) :
    (endpoint.schema.properties.map Prod.fst).Nodup := by
  cases endpoint with
  | history => decide
  | rangeOnly => decide
  | nodeTotals => decide
  | dashboard => decide
  | nodesList => decide

section Validation

variable {endpoint : QueryEndpoint} {searchParams : List (Text × Text)}

/-- The properties of a query are checked one by one. -/
theorem all_parse_iff :
    ((endpoint.parse searchParams).all fun property =>
        (find? property.1 endpoint.schema.properties).any fun field =>
          field.accepts property.2) = true ↔
      (∀ key ∈ (ownParams searchParams).map Prod.fst,
        key ∈ endpoint.schema.properties.map Prod.fst) ∧
      ∀ key value field, find? key (ownParams searchParams) = some value →
        find? key endpoint.schema.properties = some field →
          field.accepts (endpoint.value key value) = true := by
  rw [List.all_eq_true]
  constructor
  · intro all
    have checked : ∀ key value, find? key (ownParams searchParams) = some value →
        ∃ field, find? key endpoint.schema.properties = some field ∧
          field.accepts (endpoint.value key value) = true := by
      intro key value found
      have parsed := endpoint.find?_parse searchParams key
      rw [found, Option.map_some] at parsed
      have accepted := all _ (mem_of_find? parsed)
      simp only at accepted
      cases known : find? key endpoint.schema.properties with
      | none =>
          rw [known] at accepted
          cases accepted
      | some field =>
          rw [known, Option.any_some] at accepted
          exact ⟨field, rfl, accepted⟩
    constructor
    · intro key keyMem
      rcases mem_keys_iff.mp keyMem with ⟨value, found⟩
      rcases checked key value found with ⟨field, known, _⟩
      exact mem_keys_iff.mpr ⟨field, known⟩
    · intro key value field found known
      rcases checked key value found with ⟨same, sameKnown, accepted⟩
      rw [known, Option.some.injEq] at sameKnown
      rwa [sameKnown]
  · rintro ⟨known, fields⟩ ⟨key, parsedValue⟩ propertyMem
    have parsed := find?_eq_some_of_mem (endpoint.nodup_parse searchParams) propertyMem
    rw [endpoint.find?_parse] at parsed
    rcases Option.map_eq_some_iff.mp parsed with ⟨value, found, same⟩
    rcases mem_keys_iff.mp (known key (mem_keys_iff.mpr ⟨value, found⟩)) with ⟨field, present⟩
    rw [present, ← same]
    exact fields key value field found present

/-- A request is accepted when its own parameters are acceptable. -/
theorem accepts_iff :
    endpoint.accepts searchParams = true ↔ Acceptable endpoint (ownParams searchParams) := by
  rw [QueryEndpoint.accepts, QuerySchema.validate, Bool.and_eq_true, Bool.and_eq_true,
    all_parse_iff, List.all_eq_true, endpoint.oneOf_schema]
  simp only [endpoint.hasProperty_parse]
  have branches : ((if endpoint = .nodesList then none else some rangeOneOf).all fun branches =>
      decide ((branches.filter fun branch =>
        branch.all (hasProperty (endpoint.parse searchParams))).length = 1)) = true ↔
      (endpoint ≠ .nodesList → OneRange ((ownParams searchParams).map Prod.fst)) := by
    by_cases list : endpoint = .nodesList
    · simp [list]
    · rw [if_neg list, Option.all_some, decide_eq_true_eq, oneOf_rangeOneOf]
      simp only [endpoint.hasProperty_parse, OneRange, ne_eq, list, not_false_eq_true, true_implies]
  rw [branches]
  constructor
  · rintro ⟨⟨⟨known, fields⟩, required⟩, oneRange⟩
    exact { known, fields, required, oneRange }
  · intro acceptable
    exact ⟨⟨⟨acceptable.known, acceptable.fields⟩, acceptable.required⟩, acceptable.oneRange⟩

theorem ownParams_eq_self
    (plain : ∀ key ∈ searchParams.map Prod.fst, inheritedValue key = none) :
    ownParams searchParams = searchParams := by
  rw [ownParams, List.filter_eq_self]
  intro entry entryMem
  rw [decide_eq_true_eq]
  exact plain entry.1 (List.mem_map_of_mem entryMem)

/-- What an integer field accepts is an integer within its bounds. -/
theorem integer_of_accepts {minimum : Int} {maximum : Option Int} {value : QueryValue}
    (accepted : (FieldSchema.integer minimum maximum).accepts value = true) :
    ∃ integer : Int, value = .number (.finite integer) ∧ minimum ≤ integer ∧
      ∀ bound ∈ maximum, integer ≤ bound := by
  cases value with
  | text text => cases accepted
  | number number =>
      rw [FieldSchema.accepts] at accepted
      cases integral : number.toInt? with
      | none =>
          rw [integral] at accepted
          cases accepted
      | some integer =>
          rw [integral, Option.any_some, Bool.and_eq_true, decide_eq_true_eq] at accepted
          refine ⟨integer, ?_, accepted.1, ?_⟩
          · rw [JsNumber.toInt?_eq_some.mp integral]
          · rintro bound rfl
            simpa using accepted.2

theorem FaithfulQuery.of_acceptable
    (plain : ∀ key ∈ searchParams.map Prod.fst, inheritedValue key = none)
    (acceptable : Acceptable endpoint searchParams) : FaithfulQuery endpoint searchParams := by
  have own := ownParams_eq_self plain
  have keys : ∀ key, key ∈ (endpoint.parse searchParams).map Prod.fst ↔
      key ∈ searchParams.map Prod.fst := by
    intro key
    rw [endpoint.mem_keys_parse, own]
  constructor
  · exact keys
  · exact endpoint.nodup_parse searchParams
  · intro key value found
    rw [endpoint.find?_parse, own, found]
    rfl
  · intro ranged
    have oneRange := acceptable.oneRange ranged
    rwa [OneRange, keys, keys, keys]
  · intro key minimum maximum fieldMem value parsed
    rw [endpoint.find?_parse, own] at parsed
    rcases Option.map_eq_some_iff.mp parsed with ⟨text, found, rfl⟩
    have known := find?_eq_some_of_mem endpoint.nodup_properties fieldMem
    exact integer_of_accepts (acceptable.fields key text _ found known)

/-- Nothing is dropped exactly when no parameter is named like an inherited property, or the others
are refused. -/
theorem dropsNothing_iff (endpoint : QueryEndpoint) (searchParams : List (Text × Text)) :
    DropsNothing endpoint searchParams ↔
      (∀ key ∈ searchParams.map Prod.fst, inheritedValue key = none) ∨
        ¬Acceptable endpoint (ownParams searchParams) := by
  constructor
  · intro dropsNothing
    by_contra lost
    push Not at lost
    rcases lost with ⟨⟨key, keyMem, inherited⟩, acceptable⟩
    have refused := dropsNothing.unknown
      ⟨key, keyMem, fun known => inherited (endpoint.not_inherited known)⟩
    rw [accepts_iff.mpr acceptable] at refused
    cases refused
  · rintro (plain | refused)
    · have own := ownParams_eq_self plain
      constructor
      · rintro ⟨key, keyMem, unknown⟩
        rw [← Bool.not_eq_true, accepts_iff, own]
        exact fun acceptable => unknown (acceptable.known key keyMem)
      · intro accepted
        rw [accepts_iff, own] at accepted
        exact FaithfulQuery.of_acceptable plain accepted
    · rw [← accepts_iff, Bool.not_eq_true] at refused
      constructor
      · exact fun _ => refused
      · intro accepted
        rw [refused] at accepted
        cases accepted

end Validation

/-- A parameter named `constructor` does not keep a request from being accepted. -/
theorem constructor_dropped :
    ¬DropsNothing .rangeOnly [("range".toList, "24h".toList), ("constructor".toList, "1".toList)] := by
  intro dropsNothing
  have refused := dropsNothing.unknown ⟨"constructor".toList, by decide, by decide⟩
  revert refused
  decide

end MeshcoreObserver
