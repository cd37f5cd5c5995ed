import MeshcoreObserver.CaseMapping
import MeshcoreObserver.Nodes.NodeLookup
import MeshcoreObserver.Sqlite.Pages

/-!
# Searching nodes

`queryNodes` over the table of nodes. The text that is searched for becomes part
of two patterns of `LIKE` as it is, in one of them with the upper case that
JavaScript gives it: `%` and `_` are wildcards, NUL ends a pattern, and the
ligature ﬀ asks for a key like two digits do. Every other text is found
literally. How the rows are counted, ordered and cut into pages does not depend
on the patterns.
-/

namespace MeshcoreObserver

section Query

variable (mapping : CaseMapping)

def matchesSearch (q type : Text) (entry : Text × StoredNode) : Bool :=
  (q = [] || Sqlite.likeValues ('%' :: (q ++ ['%'])) entry.2.name ||
      Sqlite.likeValues (mapping.toUpperCase q ++ ['%']) entry.1) &&
    entry.2.hasType type

structure NodesPage where
  total : Nat
  nodes : NodeTable
  deriving DecidableEq, Repr

/-- `queryNodes(\x7b q, type, limit, offset \x7d)`. -/
def queryNodes (nodes : NodeTable) (q type : Text) (limit offset : Nat) : NodesPage :=
  let selected := nodes.filter (matchesSearch mapping q type)
  { total := selected.length
    nodes := Sqlite.limitOffset limit offset (selected.insertionSort heardLater) }

/-- What the pages at the offsets `0`, `limit`, `2 * limit` and so on list. -/
def nodesOfPages (nodes : NodeTable) (q type : Text) (limit count : Nat) : NodeTable :=
  (List.range count).flatMap fun page =>
    (queryNodes mapping nodes q type limit (page * limit)).nodes

end Query

/-- The name contains the text, or the key starts with it, in any case. -/
def Sought (q : Text) (entry : Text × StoredNode) : Prop :=
  q = [] ∨ q.map Char.toUpper <:+: entry.2.name.map Char.toUpper ∨ StartsWithQuery q entry.1

instance (q : Text) (entry : Text × StoredNode) : Decidable (Sought q entry) :=
  inferInstanceAs (Decidable (_ ∨ _ ∨ _))

def soughtNodes (nodes : NodeTable) (q type : Text) : NodeTable :=
  nodes.filter fun entry => Sought q entry ∧ entry.2.hasType type

/-- A table as the registry writes it. What SQL makes of a name with a NUL is not defined. -/
structure SearchableTable (nodes : NodeTable) : Prop where
  keys : (nodes.map Prod.fst).Nodup
  keyHex : ∀ entry ∈ nodes, IsPublicKeyHex entry.1
  name : ∀ entry ∈ nodes, '\x00' ∉ entry.2.name

/-- The nodes that are sought are counted, and the pages list each of them once, the last heard
first. -/
structure SearchesLiterally (mapping : CaseMapping) (nodes : NodeTable) (q type : Text) : Prop where
  total : ∀ limit offset,
    (queryNodes mapping nodes q type limit offset).total = (soughtNodes nodes q type).length
  complete : ∀ limit count, (soughtNodes nodes q type).length ≤ count * limit →
    (nodesOfPages mapping nodes q type limit count).Perm (soughtNodes nodes q type)
  once : ∀ limit count, ((nodesOfPages mapping nodes q type limit count).map Prod.fst).Nodup
  ordered : ∀ limit count,
    (nodesOfPages mapping nodes q type limit count).Pairwise heardLater

/-- No character of the text means something else in a pattern, and it has no ligature which makes
digits of a key. -/
def LiteralSearch (mapping : CaseMapping) (q : Text) : Prop :=
  q = [] ∨ (∀ char ∈ q, char ≠ '%' ∧ char ≠ '_' ∧ char ≠ '\x00') ∧
    ((mapping.toUpperCase q).length ≤ 64 → (∀ char ∈ mapping.toUpperCase q, IsUpperHexDigit char) →
      'ﬀ' ∉ q)

section Pages

variable {mapping : CaseMapping} {nodes : NodeTable} {q type : Text}

theorem nodesOfPages_eq (limit count : Nat) :
    nodesOfPages mapping nodes q type limit count =
      Sqlite.pages limit count
        ((nodes.filter (matchesSearch mapping q type)).insertionSort heardLater) := rfl

theorem nodesOfPages_sublist (limit count : Nat) :
    (nodesOfPages mapping nodes q type limit count).Sublist
      ((nodes.filter (matchesSearch mapping q type)).insertionSort heardLater) := by
  rw [nodesOfPages_eq, Sqlite.pages_eq_take]
  exact List.take_sublist _ _

/-- Once the right nodes are selected, the pages are right. -/
theorem SearchesLiterally.of_selected (keys : (nodes.map Prod.fst).Nodup)
    (selected : nodes.filter (matchesSearch mapping q type) = soughtNodes nodes q type) :
    SearchesLiterally mapping nodes q type := by
  have permuted := List.perm_insertionSort heardLater (soughtNodes nodes q type)
  constructor
  · intro limit offset
    rw [queryNodes, selected]
  · intro limit count enough
    rw [nodesOfPages_eq, selected, Sqlite.pages_eq_self]
    · exact permuted
    · rwa [permuted.length_eq]
  · intro limit count
    have sublist : (nodesOfPages mapping nodes q type limit count).Sublist _ :=
      nodesOfPages_sublist limit count
    rw [selected] at sublist
    have distinct : ((soughtNodes nodes q type).map Prod.fst).Nodup :=
      keys.sublist (List.filter_sublist.map Prod.fst)
    exact ((permuted.map Prod.fst).nodup_iff.mpr distinct).sublist (sublist.map Prod.fst)
  · intro limit count
    exact (pairwise_heardLater _).sublist (nodesOfPages_sublist limit count)

/-- The total of a table with one row tells whether the row is selected. -/
theorem SearchesLiterally.sought_of_match {entry : Text × StoredNode}
    (searches : SearchesLiterally mapping [entry] q [])
    (selected : matchesSearch mapping q [] entry = true) : Sought q entry := by
  by_contra foreign
  have total := searches.total 1 0
  have none : soughtNodes [entry] q [] = [] := by
    rw [soughtNodes, List.filter_cons_of_neg (by simp [foreign])]
    rfl
  rw [queryNodes, none, List.filter_cons_of_pos selected] at total
  cases total

end Pages

theorem isHexDigit_of_isUpperHexDigit {char : Char} (digit : IsUpperHexDigit char) :
    isHexDigit char ∧ char.toUpper = char ∧ char ≠ '%' ∧ char ≠ '_' ∧ char ≠ '\x00' := by
  have ascii := CaseMapping.isAscii_of_isUpperHexDigit digit
  exact CaseMapping.forall_ascii
    (P := fun char => IsUpperHexDigit char →
      isHexDigit char ∧ char.toUpper = char ∧ char ≠ '%' ∧ char ≠ '_' ∧ char ≠ '\x00')
    (by decide) ascii digit

theorem isUpperHexDigit_of_isHexDigit {char : Char} (digit : isHexDigit char)
    (upper : char.toUpper = char) : IsUpperHexDigit char := by
  have code := toNat_of_isHexDigit digit
  have ascii : IsAscii char := by
    rw [IsAscii]
    omega
  exact CaseMapping.forall_ascii
    (P := fun char => isHexDigit char → char.toUpper = char → IsUpperHexDigit char)
    (by decide) ascii digit upper

section Keys

variable {key : Text}

theorem IsPublicKeyHex.digits (hex : IsPublicKeyHex key) : ∀ char ∈ key, IsUpperHexDigit char :=
  fun char charMem =>
    isUpperHexDigit_of_isHexDigit (hex.2 char charMem).1 (hex.2 char charMem).2

theorem IsPublicKeyHex.map_toUpper (hex : IsPublicKeyHex key) : key.map Char.toUpper = key :=
  (List.map_congr_left fun char charMem => (hex.2 char charMem).2).trans (List.map_id key)

theorem IsPublicKeyHex.plain (hex : IsPublicKeyHex key) : '\x00' ∉ key := by
  intro nulMem
  exact (isHexDigit_of_isUpperHexDigit (hex.digits _ nulMem)).2.2.2.2 rfl

/-- The start of a key, filled up to a key. -/
def filledKey (start : Text) : Text := start ++ List.replicate (64 - start.length) '0'

theorem isPublicKeyHex_filledKey (start : Text) (short : start.length ≤ 64)
    (digits : ∀ char ∈ start, IsUpperHexDigit char) : IsPublicKeyHex (filledKey start) := by
  constructor
  · rw [filledKey, List.length_append, List.length_replicate]
    omega
  · intro char charMem
    rcases List.mem_append.mp charMem with own | filled
    · have checked := isHexDigit_of_isUpperHexDigit (digits char own)
      exact ⟨checked.1, checked.2.1⟩
    · rw [List.eq_of_mem_replicate filled]
      exact ⟨by decide, by decide⟩

end Keys

section Literal

variable {mapping : CaseMapping} {q : Text}

/-- The upper case of a text without special characters has none. -/
theorem plain_toUpperCase (plain : ∀ char ∈ q, char ≠ '%' ∧ char ≠ '_' ∧ char ≠ '\x00') :
    ∀ char ∈ mapping.toUpperCase q, char ≠ '%' ∧ char ≠ '_' ∧ char ≠ '\x00' := by
  have notUpper : ∀ char : Char, char.isUpper = false → IsAscii char →
      char ∈ mapping.toUpperCase q → char ∈ q := by
    intro char lower ascii charMem
    rcases List.mem_flatMap.mp charMem with ⟨origin, originMem, own⟩
    by_cases originAscii : IsAscii origin
    · rw [mapping.upper_ascii origin originAscii, List.mem_singleton] at own
      rwa [← Sqlite.eq_of_toUpper_eq lower own.symm]
    · have upper := mapping.upper_other origin originAscii char own ascii
      rw [lower] at upper
      cases upper
  intro char charMem
  refine ⟨?_, ?_, ?_⟩
  · rintro rfl
    exact (plain _ (notUpper _ rfl (by decide) charMem)).1 rfl
  · rintro rfl
    exact (plain _ (notUpper _ rfl (by decide) charMem)).2.1 rfl
  · rintro rfl
    exact (plain _ (notUpper _ rfl (by decide) charMem)).2.2 rfl

theorem map_toUpper_toUpperCase :
    (mapping.toUpperCase q).map Char.toUpper = mapping.toUpperCase q :=
  (List.map_congr_left fun _ charMem => mapping.toUpper_of_mem_toUpperCase charMem).trans
    (List.map_id _)

theorem literal_of_plain (plain : ∀ char ∈ q, char ≠ '%' ∧ char ≠ '_' ∧ char ≠ '\x00') :
    Sqlite.Literal q :=
  fun char charMem => ⟨(plain char charMem).1, (plain char charMem).2.1⟩

theorem nul_not_mem_pattern (plain : ∀ char ∈ q, char ≠ '%' ∧ char ≠ '_' ∧ char ≠ '\x00') :
    '\x00' ∉ q ++ ['%'] := by
  intro nulMem
  rcases List.mem_append.mp nulMem with own | percent
  · exact (plain _ own).2.2 rfl
  · exact absurd (List.mem_singleton.mp percent) (by decide)

theorem likeValues_starts (plain : ∀ char ∈ q, char ≠ '%' ∧ char ≠ '_' ∧ char ≠ '\x00')
    {text : Text} (plainText : '\x00' ∉ text) :
    Sqlite.likeValues (q ++ ['%']) text = true ↔
      q.map Char.toUpper <+: text.map Char.toUpper := by
  rw [Sqlite.likeValues_eq_like (nul_not_mem_pattern plain) plainText,
    Sqlite.like_append_percent (literal_of_plain plain)]

theorem likeValues_contains (plain : ∀ char ∈ q, char ≠ '%' ∧ char ≠ '_' ∧ char ≠ '\x00')
    {text : Text} (plainText : '\x00' ∉ text) :
    Sqlite.likeValues ('%' :: (q ++ ['%'])) text = true ↔
      q.map Char.toUpper <:+: text.map Char.toUpper := by
  have plainPattern : '\x00' ∉ '%' :: (q ++ ['%']) := by
    simp only [List.mem_cons, nul_not_mem_pattern plain, or_false]
    decide
  rw [Sqlite.likeValues_eq_like plainPattern plainText,
    Sqlite.like_percent_append_percent (literal_of_plain plain)]

/-- A key starts with the upper case of a text exactly when it starts with the text in any case,
unless a ligature is taken for digits. -/
theorem toUpperCase_prefix_iff {key : Text} (hex : IsPublicKeyHex key)
    (digits : (mapping.toUpperCase q).length ≤ 64 →
      (∀ char ∈ mapping.toUpperCase q, IsUpperHexDigit char) → 'ﬀ' ∉ q) :
    mapping.toUpperCase q <+: key ↔ StartsWithQuery q key := by
  rw [StartsWithQuery, hex.map_toUpper]
  by_cases ascii : ∀ char ∈ q, IsAscii char
  · rw [mapping.toUpperCase_of_ascii ascii]
  · push Not at ascii
    rcases ascii with ⟨char, charMem, other⟩
    constructor
    · intro starts
      have upperDigits : ∀ mapped ∈ mapping.toUpperCase q, IsUpperHexDigit mapped :=
        fun mapped mappedMem => hex.digits mapped (starts.subset mappedMem)
      have short : (mapping.toUpperCase q).length ≤ 64 := by
        rw [← hex.1]
        exact starts.length_le
      have ligature := mapping.upper_hex char other fun mapped mappedMem =>
        upperDigits mapped (List.mem_flatMap.mpr ⟨char, charMem, mappedMem⟩)
      rw [ligature] at charMem
      exact absurd charMem (digits short upperDigits)
    · intro starts
      have digit := hex.digits char.toUpper (starts.subset (List.mem_map_of_mem charMem))
      rw [CaseMapping.toUpper_of_not_ascii other] at digit
      exact absurd (CaseMapping.isAscii_of_isUpperHexDigit digit) other

theorem LiteralSearch.matches_iff (literal : LiteralSearch mapping q) {nodes : NodeTable}
    (table : SearchableTable nodes) (type : Text) {entry : Text × StoredNode}
    (entryMem : entry ∈ nodes) :
    matchesSearch mapping q type entry = true ↔ Sought q entry ∧ entry.2.hasType type = true := by
  rw [matchesSearch, Bool.and_eq_true]
  apply and_congr_left'
  rcases literal with rfl | ⟨plain, digits⟩
  · simp [Sought]
  · have hex := table.keyHex entry entryMem
    have byName := likeValues_contains plain (table.name entry entryMem)
    have byKey := likeValues_starts (plain_toUpperCase plain : ∀ char ∈ mapping.toUpperCase q, _)
      hex.plain
    rw [map_toUpper_toUpperCase, hex.map_toUpper, toUpperCase_prefix_iff hex digits] at byKey
    rw [Bool.or_eq_true, Bool.or_eq_true, decide_eq_true_eq, byName, byKey, Sought, or_assoc]

/-- A row of which the key and the name are given. -/
def namedNode (key name : Text) : Text × StoredNode :=
  (key, { name, type := none, firstHeardAt := 0, lastHeardAt := 0 })

theorem searchableTable_namedNode {key name : Text} (hex : IsPublicKeyHex key)
    (plain : '\x00' ∉ name) : SearchableTable [namedNode key name] where
  keys := List.nodup_singleton key
  keyHex := by simpa [namedNode] using hex
  name := by simpa [namedNode] using plain

theorem mem_of_sought {entry : Text × StoredNode} (sought : Sought q entry) {char : Char}
    (charMem : char ∈ q) :
    char.toUpper ∈ entry.2.name.map Char.toUpper ∨ char.toUpper ∈ entry.1.map Char.toUpper := by
  rcases sought with rfl | inside | starts
  · cases charMem
  · exact Or.inl (inside.subset (List.mem_map_of_mem charMem))
  · exact Or.inr (starts.subset (List.mem_map_of_mem charMem))

variable (literal : ∀ nodes, SearchableTable nodes → ∀ type,
  SearchesLiterally mapping nodes q type)

include literal in
/-- What the pattern of a special character stands for has no such character. -/
theorem plain_of_searchesLiterally :
    ∀ char ∈ q, char ≠ '%' ∧ char ≠ '_' ∧ char ≠ '\x00' := by
  intro char charMem
  by_contra special
  have key := isPublicKeyHex_filledKey [] (by decide) (by simp)
  have name := Sqlite.nul_not_mem_expansion q
  have selected : matchesSearch mapping q []
      (namedNode (filledKey []) (Sqlite.expansion (Sqlite.cString q))) = true := by
    have matched := Sqlite.likeValues_expansion q
    simp only [matchesSearch, namedNode, matched, Bool.or_true, Bool.true_or, Bool.true_and]
    rfl
  have sought := (literal _ (searchableTable_namedNode key name) []).sought_of_match selected
  have capital : char.isUpper = false ∧ char.toUpper = char ∧ char ≠ '0' := by
    simp only [ne_eq, not_and_or, not_not] at special
    rcases special with rfl | rfl | rfl
    · exact ⟨rfl, rfl, by decide⟩
    · exact ⟨rfl, rfl, by decide⟩
    · exact ⟨rfl, rfl, by decide⟩
  have found := mem_of_sought sought charMem
  rw [capital.2.1] at found
  rcases found with inName | inKey
  · rcases List.mem_map.mp inName with ⟨origin, originMem, same⟩
    rw [Sqlite.eq_of_toUpper_eq capital.1 same] at originMem
    have wild := Sqlite.literal_expansion _ char originMem
    apply special
    refine ⟨wild.1, wild.2, ?_⟩
    rintro rfl
    exact name originMem
  · rcases List.mem_map.mp inKey with ⟨zero, zeroMem, same⟩
    have isZero : zero = '0' := List.eq_of_mem_replicate zeroMem
    rw [isZero] at same
    exact capital.2.2 same.symm

include literal in
/-- A key that starts with the digits a ligature makes does not start with the ligature. -/
theorem no_ligature_of_searchesLiterally (short : (mapping.toUpperCase q).length ≤ 64)
    (digits : ∀ char ∈ mapping.toUpperCase q, IsUpperHexDigit char) : 'ﬀ' ∉ q := by
  intro ligatureMem
  have key := isPublicKeyHex_filledKey _ short digits
  have selected : matchesSearch mapping q []
      (namedNode (filledKey (mapping.toUpperCase q)) ['-']) = true := by
    have upperPlain : ∀ char ∈ mapping.toUpperCase q, char ≠ '%' ∧ char ≠ '_' ∧ char ≠ '\x00' :=
      fun char charMem => (isHexDigit_of_isUpperHexDigit (digits char charMem)).2.2
    have starts : Sqlite.likeValues (mapping.toUpperCase q ++ ['%'])
        (filledKey (mapping.toUpperCase q)) = true := by
      rw [likeValues_starts upperPlain key.plain, filledKey, List.map_append]
      exact List.prefix_append _ _
    simp only [matchesSearch, namedNode, starts, Bool.or_true, Bool.true_and]
    rfl
  have sought := (literal _ (searchableTable_namedNode key (by decide)) []).sought_of_match selected
  have upper : 'ﬀ'.toUpper = 'ﬀ' := by decide
  have found := mem_of_sought sought ligatureMem
  rw [upper] at found
  rcases found with inName | inKey
  · have dash : 'ﬀ' ∉ ['-'].map Char.toUpper := by decide
    exact absurd inName dash
  · have digit : 'ﬀ' ∈ (filledKey (mapping.toUpperCase q)).map Char.toUpper := inKey
    rw [key.map_toUpper] at digit
    exact absurd (key.digits _ digit) (by decide)

/-- A text is searched for literally in every table exactly when its characters mean nothing else
to the patterns. -/
theorem searchesLiterally_iff (mapping : CaseMapping) (q : Text) :
    (∀ nodes, SearchableTable nodes → ∀ type, SearchesLiterally mapping nodes q type) ↔
      LiteralSearch mapping q := by
  constructor
  · intro literal
    by_cases empty : q = []
    · exact Or.inl empty
    · exact Or.inr ⟨plain_of_searchesLiterally literal, no_ligature_of_searchesLiterally literal⟩
  · intro literal nodes table type
    apply SearchesLiterally.of_selected table.keys
    rw [soughtNodes]
    apply List.filter_congr
    intro entry entryMem
    rw [Bool.eq_iff_iff, literal.matches_iff table type entryMem, decide_eq_true_iff]

end Literal

/-- `_` finds a node whose name and key do not have it. -/
theorem underscore_finds_any :
    SearchableTable [namedNode (filledKey []) "Hilltop".toList] ∧
      ¬SearchesLiterally CaseMapping.asciiOnly [namedNode (filledKey []) "Hilltop".toList] ['_']
        [] := by
  constructor
  · exact searchableTable_namedNode (isPublicKeyHex_filledKey _ (by decide) (by simp)) (by decide)
  · intro searches
    have total := searches.total 50 0
    revert total
    decide

end MeshcoreObserver
