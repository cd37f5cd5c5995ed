import MeshcoreObserver.Bots.CommandHandlers
import MeshcoreObserver.Nodes.NodeTable
import MeshcoreObserver.Sqlite.Like
import Mathlib.Data.List.DropRight
import Mathlib.Data.List.Sort

/-!
# Looking up a node

`findByPrefix` of the registry over the table of nodes, and the reply of the
lookup command. A table is a list in any order, and rows heard at the same time
come out in the order of the table, so the results hold for every order in which
the database returns such rows.
-/

namespace MeshcoreObserver

open Counting

def heardLater (first second : Text × StoredNode) : Prop :=
  second.2.lastHeardAt ≤ first.2.lastHeardAt

instance : DecidableRel heardLater := fun first second =>
  inferInstanceAs (Decidable (second.2.lastHeardAt ≤ first.2.lastHeardAt))

def findNodesByPublicKeyPrefix (nodes : NodeTable) (prefixHex type : Text) : NodeTable :=
  (nodes.filter fun entry =>
    Sqlite.like (prefixHex ++ ['%']) entry.1 && entry.2.hasType type).insertionSort heardLater

def countNodesByType (nodes : NodeTable) (type : Text) : Nat :=
  (nodes.filter fun entry => entry.2.hasType type).length

def isHexDigit (char : Char) : Bool := (Text.hexValue? char).isSome

/-- `/^[0-9A-Fa-f]+$/`. -/
def matchesHexPattern (text : Text) : Bool := !text.isEmpty && text.all isHexDigit

def minQueryHexLength : Nat := 2

def maxQueryHexLength : Nat := 64

def normalizeQuery (rawQuery : Text) : Option Text :=
  let trimmed := rawQuery.trim
  if trimmed.utf16Length < minQueryHexLength || maxQueryHexLength < trimmed.utf16Length ||
      !matchesHexPattern trimmed then
    none
  else some (trimmed.map Char.toUpper)

inductive PrefixResult where
  | invalid
  | notFound (query : Text)
  | found (query : Text) (node : Text × StoredNode)
  | ambiguous (query : Text) (matchCount : Nat) (node : Text × StoredNode)
  deriving DecidableEq, Repr

/-- `findByPrefix(rawQuery, \x7b type \x7d)`. -/
def findByPrefix (nodes : NodeTable) (rawQuery : Text) (type : Option Text) : PrefixResult :=
  match normalizeQuery rawQuery with
  | none => .invalid
  | some query =>
      match findNodesByPublicKeyPrefix nodes query (type.getD []) with
      | [] => .notFound query
      | [node] => .found query node
      | node :: others => .ambiguous query (others.length + 1) node

def countRepeaters (nodes : NodeTable) : Nat := countNodesByType nodes repeaterType

def registryNode (node : Text × StoredNode) : RegistryNode :=
  { name := some node.2.name, lastHeardAt := some node.2.lastHeardAt, publicKeyHex := some node.1 }

/-- The fields of the result which the lookup command reads. -/
def PrefixResult.lookupResult : PrefixResult → LookupResult
  | .invalid => { status := .invalid, node := none, matchCount := none, query := none }
  | .notFound query =>
      { status := .notFound, node := none, matchCount := none, query := some query }
  | .found query node =>
      { status := .found, node := some (registryNode node), matchCount := none
        query := some query }
  | .ambiguous query matchCount node =>
      { status := .ambiguous, node := some (registryNode node), matchCount := some matchCount
        query := some query }

/-- The registry as the lookup command calls it. -/
def registryOf (nodes : NodeTable) : NodeRegistry where
  findByPrefix query := (findByPrefix nodes query (some repeaterType)).lookupResult
  countRepeaters := countRepeaters nodes

/-- 2 to 64 hex digits. -/
def IsHexQuery (query : Text) : Prop :=
  2 ≤ query.length ∧ query.length ≤ 64 ∧ ∀ char ∈ query, isHexDigit char

/-- 64 upper-case hex digits. -/
def IsPublicKeyHex (key : Text) : Prop :=
  key.length = 64 ∧ ∀ char ∈ key, isHexDigit char ∧ char.toUpper = char

instance (key : Text) : Decidable (IsPublicKeyHex key) :=
  inferInstanceAs (Decidable (_ ∧ _))

/-- The key starts with the query, in any case. -/
def StartsWithQuery (query key : Text) : Prop :=
  query.map Char.toUpper <+: key.map Char.toUpper

instance (query key : Text) : Decidable (StartsWithQuery query key) :=
  inferInstanceAs (Decidable (_ <+: _))

/-- No type asks for every node, and so does the empty one. -/
def OfType (type : Option Text) (node : StoredNode) : Prop :=
  type.getD [] = [] ∨ node.type = type

instance (type : Option Text) (node : StoredNode) : Decidable (OfType type node) :=
  inferInstanceAs (Decidable (_ ∨ _))

/-- The nodes of the type whose keys start with the query. -/
def matchingNodes (nodes : NodeTable) (query : Text) (type : Option Text) : NodeTable :=
  nodes.filter fun entry => StartsWithQuery query entry.1 ∧ OfType type entry.2

theorem toNat_of_isHexDigit {char : Char} (digit : isHexDigit char) :
    (0x30 ≤ char.toNat ∧ char.toNat ≤ 0x39) ∨ (0x41 ≤ char.toNat ∧ char.toNat ≤ 0x46) ∨
      (0x61 ≤ char.toNat ∧ char.toNat ≤ 0x66) := by
  simp only [isHexDigit, Text.hexValue?] at digit
  split at digit
  · rename_i decimal
    exact .inl decimal
  · split at digit
    · rename_i upper
      exact .inr (.inl upper)
    · split at digit
      · rename_i lower
        exact .inr (.inr lower)
      · cases digit

theorem utf16Length_of_hex {text : Text} (hex : ∀ char ∈ text, isHexDigit char) :
    text.utf16Length = text.length := by
  induction text with
  | nil => rfl
  | cons char text ih =>
      have digit := toNat_of_isHexDigit (hex char List.mem_cons_self)
      have narrow : char.toNat < 0x10000 := by omega
      have rest := ih fun other later => hex other (List.mem_cons_of_mem char later)
      simp only [Text.utf16Length, if_pos narrow, rest, List.length_cons]
      omega

theorem normalizeQuery_of_hex {rawQuery : Text} (hex : IsHexQuery rawQuery.trim) :
    normalizeQuery rawQuery = some (rawQuery.trim.map Char.toUpper) := by
  rcases hex with ⟨atLeast, atMost, digits⟩
  have nonempty : rawQuery.trim ≠ [] := by
    intro empty
    simp [empty] at atLeast
  have matched : matchesHexPattern rawQuery.trim := by
    simp only [matchesHexPattern, Bool.and_eq_true, Bool.not_eq_true', List.isEmpty_eq_false_iff,
      List.all_eq_true]
    exact ⟨nonempty, digits⟩
  have accepted : (decide (rawQuery.trim.utf16Length < minQueryHexLength) ||
      decide (maxQueryHexLength < rawQuery.trim.utf16Length) ||
        !matchesHexPattern rawQuery.trim) = false := by
    simp only [utf16Length_of_hex digits, matched, minQueryHexLength, maxQueryHexLength,
      Bool.not_true, Bool.or_false, Bool.or_eq_false_iff, decide_eq_false_iff_not]
    omega
  simp only [normalizeQuery, accepted, Bool.false_eq_true, if_false]

theorem isHexQuery_of_normalizeQuery {rawQuery query : Text}
    (normalized : normalizeQuery rawQuery = some query) :
    IsHexQuery rawQuery.trim ∧ query = rawQuery.trim.map Char.toUpper := by
  simp only [normalizeQuery] at normalized
  split at normalized
  · cases normalized
  · rename_i accepted
    simp only [matchesHexPattern, Bool.or_eq_true, decide_eq_true_eq, Bool.not_eq_true', not_or,
      Bool.and_eq_false_iff, Bool.not_eq_false, List.all_eq_true] at accepted
    rcases accepted with ⟨⟨atLeast, atMost⟩, _, digits⟩
    rw [utf16Length_of_hex digits] at atLeast atMost
    exact ⟨⟨Nat.le_of_not_lt atLeast, Nat.le_of_not_lt atMost, digits⟩,
      (Option.some.inj normalized).symm⟩

theorem toUpper_of_isHexDigit {char : Char} (digit : isHexDigit char) :
    char.toUpper ≠ '%' ∧ char.toUpper ≠ '_' ∧ char.toUpper.toUpper = char.toUpper := by
  have all : ∀ code, code < 128 → isHexDigit (Char.ofNat code) →
      (Char.ofNat code).toUpper ≠ '%' ∧ (Char.ofNat code).toUpper ≠ '_' ∧
        (Char.ofNat code).toUpper.toUpper = (Char.ofNat code).toUpper := by
    decide
  have code := toNat_of_isHexDigit digit
  have checked := all char.toNat (by omega)
  rw [Char.ofNat_toNat] at checked
  exact checked digit

theorem literal_of_hex {query : Text} (hex : ∀ char ∈ query, isHexDigit char) :
    Sqlite.Literal (query.map Char.toUpper) := by
  intro char charMem
  rcases List.mem_map.mp charMem with ⟨digit, digitMem, rfl⟩
  have checked := toUpper_of_isHexDigit (hex digit digitMem)
  exact ⟨checked.1, checked.2.1⟩

theorem map_toUpper_toUpper {query : Text} (hex : ∀ char ∈ query, isHexDigit char) :
    (query.map Char.toUpper).map Char.toUpper = query.map Char.toUpper := by
  rw [List.map_map]
  apply List.map_congr_left
  intro char charMem
  exact (toUpper_of_isHexDigit (hex char charMem)).2.2

theorem like_normalized {query : Text} (hex : ∀ char ∈ query, isHexDigit char) (key : Text) :
    Sqlite.like (query.map Char.toUpper ++ ['%']) key = true ↔ StartsWithQuery query key := by
  rw [Sqlite.like_append_percent (literal_of_hex hex), map_toUpper_toUpper hex]
  rfl

theorem hasType_getD (type : Option Text) (node : StoredNode) :
    node.hasType (type.getD []) = true ↔ OfType type node := by
  simp only [StoredNode.hasType, OfType, Bool.or_eq_true, decide_eq_true_eq]
  cases type with
  | none => simp
  | some type => rfl

/-- The rows the store returns are those that match, sorted. -/
theorem findNodes_eq {query : Text} (hex : ∀ char ∈ query, isHexDigit char) (nodes : NodeTable)
    (type : Option Text) :
    findNodesByPublicKeyPrefix nodes (query.map Char.toUpper) (type.getD []) =
      (matchingNodes nodes query type).insertionSort heardLater := by
  rw [findNodesByPublicKeyPrefix, matchingNodes]
  congr 1
  apply List.filter_congr
  intro entry _
  rw [Bool.eq_iff_iff, Bool.and_eq_true, like_normalized hex, hasType_getD, decide_eq_true_iff]

theorem pairwise_heardLater (nodes : NodeTable) :
    (nodes.insertionSort heardLater).Pairwise heardLater := by
  have total : Std.Total heardLater := ⟨fun first second => by
    simp only [heardLater]
    omega⟩
  have transitive : IsTrans (Text × StoredNode) heardLater := ⟨fun first second third => by
    simp only [heardLater]
    omega⟩
  exact List.pairwise_insertionSort heardLater nodes

/-- What `findByPrefix` is to answer. -/
inductive Answer (nodes : NodeTable) (rawQuery : Text) (type : Option Text) : PrefixResult → Prop
  | invalid (malformed : ¬IsHexQuery rawQuery.trim) : Answer nodes rawQuery type .invalid
  | notFound (hex : IsHexQuery rawQuery.trim)
      (nothing : matchingNodes nodes rawQuery.trim type = []) :
      Answer nodes rawQuery type (.notFound (rawQuery.trim.map Char.toUpper))
  | found (hex : IsHexQuery rawQuery.trim) (node : Text × StoredNode)
      (single : matchingNodes nodes rawQuery.trim type = [node]) :
      Answer nodes rawQuery type (.found (rawQuery.trim.map Char.toUpper) node)
  | ambiguous (hex : IsHexQuery rawQuery.trim) (node : Text × StoredNode)
      (several : 1 < (matchingNodes nodes rawQuery.trim type).length)
      (nodeMem : node ∈ matchingNodes nodes rawQuery.trim type)
      (latest : ∀ other ∈ matchingNodes nodes rawQuery.trim type,
        other.2.lastHeardAt ≤ node.2.lastHeardAt) :
      Answer nodes rawQuery type
        (.ambiguous (rawQuery.trim.map Char.toUpper)
          (matchingNodes nodes rawQuery.trim type).length node)

theorem answer_findByPrefix (nodes : NodeTable) (rawQuery : Text) (type : Option Text) :
    Answer nodes rawQuery type (findByPrefix nodes rawQuery type) := by
  by_cases hex : IsHexQuery rawQuery.trim
  · have permuted := List.perm_insertionSort heardLater (matchingNodes nodes rawQuery.trim type)
    have sorted := pairwise_heardLater (matchingNodes nodes rawQuery.trim type)
    have rows := findNodes_eq hex.2.2 nodes type
    simp only [findByPrefix, normalizeQuery_of_hex hex, rows]
    cases result : (matchingNodes nodes rawQuery.trim type).insertionSort heardLater with
    | nil =>
        rw [result] at permuted
        exact .notFound hex permuted.nil_eq.symm
    | cons node others =>
        rw [result] at permuted sorted
        cases others with
        | nil => exact .found hex node permuted.symm.eq_singleton
        | cons other others =>
            have size := permuted.length_eq
            simp only [List.length_cons] at size
            simp only [List.length_cons, size]
            refine .ambiguous hex node (by omega) (permuted.mem_iff.mp List.mem_cons_self) ?_
            intro third thirdMem
            rcases List.mem_cons.mp (permuted.mem_iff.mpr thirdMem) with rfl | later
            · exact Int.le_refl _
            · exact (List.pairwise_cons.mp sorted).1 third later
  · have malformed : normalizeQuery rawQuery = none := by
      rw [Option.eq_none_iff_forall_ne_some]
      intro query normalized
      exact hex (isHexQuery_of_normalizeQuery normalized).1
    simp only [findByPrefix, malformed]
    exact .invalid hex

/-- The four outcomes of a query, each exactly where it is due. -/
structure AnswersExactly (nodes : NodeTable) (rawQuery : Text) (type : Option Text)
    (result : PrefixResult) : Prop where
  invalid : result = .invalid ↔ ¬IsHexQuery rawQuery.trim
  notFound : IsHexQuery rawQuery.trim →
    ((∃ query, result = .notFound query) ↔ matchingNodes nodes rawQuery.trim type = [])
  found : IsHexQuery rawQuery.trim → ∀ node,
    ((∃ query, result = .found query node) ↔ matchingNodes nodes rawQuery.trim type = [node])
  ambiguous : IsHexQuery rawQuery.trim →
    ((∃ query matchCount node, result = .ambiguous query matchCount node) ↔
      1 < (matchingNodes nodes rawQuery.trim type).length)
  latest : ∀ query matchCount node, result = .ambiguous query matchCount node →
    matchCount = (matchingNodes nodes rawQuery.trim type).length ∧
      node ∈ matchingNodes nodes rawQuery.trim type ∧
      ∀ other ∈ matchingNodes nodes rawQuery.trim type,
        other.2.lastHeardAt ≤ node.2.lastHeardAt

theorem Answer.exactly {nodes : NodeTable} {rawQuery : Text} {type : Option Text}
    {result : PrefixResult} (answer : Answer nodes rawQuery type result) :
    AnswersExactly nodes rawQuery type result := by
  cases answer with
  | invalid malformed =>
      exact
        { invalid := ⟨fun _ => malformed, fun _ => rfl⟩
          notFound := fun hex => absurd hex malformed
          found := fun hex => absurd hex malformed
          ambiguous := fun hex => absurd hex malformed
          latest := by simp }
  | notFound hex nothing =>
      exact
        { invalid := by simp [hex]
          notFound := fun _ => ⟨fun _ => nothing, fun _ => ⟨_, rfl⟩⟩
          found := by simp [nothing]
          ambiguous := by simp [nothing]
          latest := by simp }
  | found hex node single =>
      exact
        { invalid := by simp [hex]
          notFound := by simp [single]
          found := by simp [single]
          ambiguous := by simp [single]
          latest := by simp }
  | ambiguous hex node several nodeMem latest =>
      have nonempty : matchingNodes nodes rawQuery.trim type ≠ [] := List.ne_nil_of_mem nodeMem
      have not_single : ∀ other, matchingNodes nodes rawQuery.trim type ≠ [other] := by
        intro other single
        rw [single] at several
        exact Nat.lt_irrefl 1 several
      refine
        { invalid := by simp [hex]
          notFound := by simp [nonempty]
          found := by simp [not_single]
          ambiguous := fun _ => ⟨fun _ => several, fun _ => ⟨_, _, _, rfl⟩⟩
          latest := ?_ }
      intro query matchCount other same
      simp only [PrefixResult.ambiguous.injEq] at same
      rcases same with ⟨_, rfl, rfl⟩
      exact ⟨rfl, nodeMem, latest⟩

/-- The template a result asks for. -/
def responseOf (command : CommandConfig) : PrefixResult → Option Text
  | .invalid => command.invalidResponse
  | .notFound _ => command.notFoundResponse
  | .found _ _ => command.foundResponse
  | .ambiguous _ _ _ => command.ambiguousResponse

/-- What the reply to a query shows of the registry's answer. -/
structure RepliesExactly (nodes : NodeTable) (command : CommandConfig) (query : Text)
    (action : ActionResult) : Prop where
  empty : query = [] → action.template = command.invalidResponse
  template : query ≠ [] →
    action.template = responseOf command (findByPrefix nodes query (some repeaterType))
  nodePrefix : ∀ normalized node,
    findByPrefix nodes query (some repeaterType) = .found normalized node →
    ∃ shown, lookupValue action.values "nodePrefix".toList = some shown ∧ 4 ≤ shown.length ∧
      shown <+: node.1 ∧ query.map Char.toUpper <+: shown
  repeaterCount : ∀ normalized,
    findByPrefix nodes query (some repeaterType) = .notFound normalized →
    lookupValue action.values "repeaterCount".toList =
      some (Text.ofInt (nodes.filter fun entry => entry.2.type = some repeaterType).length)

theorem lookupTemplate_eq (command : CommandConfig) (result : PrefixResult) :
    lookupResponseTemplate command result.lookupResult.status = responseOf command result := by
  cases result with
  | _ => rfl

theorem map_toUpper_of_isPublicKeyHex {key : Text} (isKey : IsPublicKeyHex key) :
    key.map Char.toUpper = key :=
  (List.map_congr_left fun char charMem => (isKey.2 char charMem).2).trans (List.map_id key)

/-- The key under which a node with a public key of 32 bytes is stored. -/
theorem isPublicKeyHex_upperHex {publicKey : List UInt8} (size : publicKey.length = 32) :
    IsPublicKeyHex (Text.upperHex publicKey) := by
  have digits : ∀ value, value < 16 →
      isHexDigit (Text.hexDigit value).toUpper ∧
        (Text.hexDigit value).toUpper.toUpper = (Text.hexDigit value).toUpper := by
    decide
  constructor
  · have doubled : ∀ bytes : List UInt8, (Text.upperHex bytes).length = 2 * bytes.length := by
      intro bytes
      simp only [Text.upperHex, Text.hex, List.length_map]
      induction bytes with
      | nil => rfl
      | cons byte bytes ih =>
          simp only [List.flatMap_cons, List.length_append, List.length_cons, List.length_nil, ih]
          omega
    rw [doubled, size]
  · intro char charMem
    simp only [Text.upperHex, Text.hex, List.mem_map, List.mem_flatMap] at charMem
    rcases charMem with ⟨digit, ⟨byte, _, digitMem⟩, rfl⟩
    have small := byte.toNat_lt
    rcases List.mem_cons.mp digitMem with rfl | low
    · exact digits _ (by omega)
    · rw [List.mem_singleton] at low
      subst digit
      exact digits _ (by omega)

section Execute

variable {registry : NodeRegistry} {command : CommandConfig} {query : Text} {now : Int}

theorem executeLookup_template (nonempty : query ≠ []) :
    (executeLookup registry command query now).template =
      lookupResponseTemplate command (registry.findByPrefix query).status := by
  simp only [executeLookup, if_neg nonempty]

theorem executeLookup_nodePrefix (nonempty : query ≠ []) :
    lookupValue (executeLookup registry command query now).values "nodePrefix".toList =
      some
        (if (registry.findByPrefix query).status = .found ∧ Text.utf16Length query < 4 then
          (((registry.findByPrefix query).node.bind RegistryNode.publicKeyHex).map
            (List.take 4)).getD ((registry.findByPrefix query).query.getD query)
        else (registry.findByPrefix query).query.getD query) := by
  simp only [executeLookup, if_neg nonempty]
  rfl

theorem executeLookup_repeaterCount (nonempty : query ≠ []) :
    lookupValue (executeLookup registry command query now).values "repeaterCount".toList =
      some
        (if (registry.findByPrefix query).status = .notFound then
          Text.ofInt registry.countRepeaters
        else "undefined".toList) := by
  simp only [executeLookup, if_neg nonempty]
  rfl

end Execute

theorem trim_trim (text : Text) : text.trim.trim = text.trim := by
  have trim_eq : ∀ other : Text,
      other.trim = List.rdropWhile Text.isWhitespace (other.dropWhile Text.isWhitespace) :=
    fun _ => rfl
  cases trimmed : text.trim with
  | nil => rfl
  | cons first rest =>
      have initial := List.rdropWhile_prefix Text.isWhitespace
        (text.dropWhile Text.isWhitespace)
      rw [← trim_eq, trimmed] at initial
      rcases initial with ⟨behind, whole⟩
      have visible := List.head?_dropWhile_not Text.isWhitespace text
      rw [← whole] at visible
      have kept : (first :: rest).dropWhile Text.isWhitespace = first :: rest :=
        List.dropWhile_cons_of_neg (Bool.not_eq_true _ ▸ visible)
      rw [trim_eq, kept, ← trimmed, trim_eq text]
      exact List.rdropWhile_idempotent Text.isWhitespace _

theorem mem_matchingNodes {nodes : NodeTable} {query : Text} {type : Option Text}
    {entry : Text × StoredNode} (entryMem : entry ∈ matchingNodes nodes query type) :
    entry ∈ nodes ∧ StartsWithQuery query entry.1 := by
  rcases List.mem_filter.mp entryMem with ⟨row, selected⟩
  exact ⟨row, (of_decide_eq_true selected).1⟩

theorem repliesExactly {nodes : NodeTable}
    (keyed : ∀ entry ∈ nodes, IsPublicKeyHex entry.1) (command : CommandConfig) {query : Text}
    (trimmed : query.trim = query) (now : Int) :
    RepliesExactly nodes command query (executeLookup (registryOf nodes) command query now) where
  empty := by
    rintro rfl
    rfl
  template := by
    intro nonempty
    rw [executeLookup_template nonempty]
    exact lookupTemplate_eq command _
  nodePrefix := by
    intro normalized node result
    have answer := answer_findByPrefix nodes query (some repeaterType)
    rw [result] at answer
    cases answer with
    | found hex _ single =>
        have nonempty : query ≠ [] := by
          rintro rfl
          exact absurd hex.1 (by decide)
        rw [trimmed] at hex single result
        have nodeMem := mem_matchingNodes (single ▸ List.mem_singleton_self node)
        have isKey := keyed node nodeMem.1
        have extends_query := nodeMem.2
        rw [StartsWithQuery, map_toUpper_of_isPublicKeyHex isKey] at extends_query
        rw [executeLookup_nodePrefix nonempty]
        simp only [registryOf, result, PrefixResult.lookupResult, registryNode, true_and,
          Option.bind_some, Option.map_some, Option.getD_some, utf16Length_of_hex hex.2.2]
        refine ⟨_, rfl, ?_⟩
        split
        · rename_i short
          refine ⟨?_, List.take_prefix 4 node.1, ?_⟩
          · rw [List.length_take, isKey.1]
            decide
          · rw [List.prefix_take_iff, List.length_map]
            exact ⟨extends_query, by omega⟩
        · rename_i long
          refine ⟨?_, extends_query, List.prefix_rfl⟩
          rw [List.length_map]
          omega
  repeaterCount := by
    intro normalized result
    have nonempty : query ≠ [] := by
      rintro rfl
      cases result
    rw [executeLookup_repeaterCount nonempty]
    simp only [registryOf, result, PrefixResult.lookupResult, if_true, countRepeaters,
      countNodesByType, StoredNode.hasType]
    rfl

theorem query_of_matchQuery {kind : CommandKind} {text : Text} {commands : List CommandConfig}
    {found : CommandMatch} (matched : matchQuery kind text commands = .ok (some found)) :
    ∃ query, found.state.query = some query ∧
      queryAfter found.command.trigger text = some query := by
  induction commands with
  | nil => cases matched
  | cons command commands ih =>
      simp only [matchQuery] at matched
      split at matched
      · split at matched
        · rename_i query behind
          simp only [HandlerState.serialize] at matched
          split at matched
          · cases matched
          · cases matched
            exact ⟨query, rfl, behind⟩
        · exact ih matched
      · exact ih matched

theorem trim_of_queryAfter {trigger text query : Text}
    (behind : queryAfter trigger text = some query) : query.trim = query := by
  simp only [queryAfter] at behind
  split at behind
  · cases behind
    rfl
  · split at behind
    · cases behind
      exact trim_trim _
    · cases behind

/-- `findByPrefix` answers every query exactly, and the reply to every text that asks for a lookup
shows that answer. -/
theorem lookup_answers_exactly {nodes : NodeTable}
    (keyed : ∀ entry ∈ nodes, IsPublicKeyHex entry.1) :
    (∀ rawQuery type, AnswersExactly nodes rawQuery type (findByPrefix nodes rawQuery type)) ∧
      ∀ commands text found now, matchLookup commands text = .ok (some found) →
        ∃ query, found.state.query = some query ∧
          queryAfter found.command.trigger text = some query ∧
          RepliesExactly nodes found.command query
            (executeLookup (registryOf nodes) found.command query now) := by
  constructor
  · intro rawQuery type
    exact (answer_findByPrefix nodes rawQuery type).exactly
  · intro commands text found now matched
    rcases query_of_matchQuery matched with ⟨query, stored, behind⟩
    exact ⟨query, stored, behind,
      repliesExactly keyed found.command (trim_of_queryAfter behind) now⟩

/-- A repeater and a chat node, whose keys start with the same byte. -/
def twoNodes : NodeTable :=
  [(Text.upperHex (List.replicate 32 0xE8),
      { name := ['S', 'u', 'm', 'm', 'i', 't'], type := some repeaterType, firstHeardAt := 10
        lastHeardAt := 20 }),
    (Text.upperHex (0xE8 :: List.replicate 31 0x5C),
      { name := ['C', 'h', 'a', 't'], type := some ['C', 'H', 'A', 'T'], firstHeardAt := 30
        lastHeardAt := 30 })]

theorem lookup_answers_exactly_of_two :
    AnswersExactly twoNodes [' ', 'e', '8'] (some repeaterType)
      (findByPrefix twoNodes [' ', 'e', '8'] (some repeaterType)) := by
  have keyed : ∀ entry ∈ twoNodes, IsPublicKeyHex entry.1 := by
    intro entry entryMem
    simp only [twoNodes, List.mem_cons, List.not_mem_nil, or_false] at entryMem
    rcases entryMem with rfl | rfl
    · apply isPublicKeyHex_upperHex
      rfl
    · apply isPublicKeyHex_upperHex
      rfl
  exact (lookup_answers_exactly keyed).1 _ _

end MeshcoreObserver
