import MeshcoreObserver.Counting.Counts
import MeshcoreObserver.Text

/-!
# The table of nodes

The rows of `nodes` by their public key, and `upsertNode`, the only statement
which writes them. What a row shows is determined by the hearings of its key:
the first one has set `firstHeardAt`, the last one all the rest.
-/

namespace MeshcoreObserver

open Counting

/-- A row of `nodes`, without its public key. -/
structure StoredNode where
  name : Text
  type : Option Text
  firstHeardAt : Int
  lastHeardAt : Int
  deriving DecidableEq, Repr

/-- `(? = '' OR type = ?)`: no row without a type has one that is asked for. -/
def StoredNode.hasType (type : Text) (node : StoredNode) : Bool :=
  type = [] || node.type = some type

def repeaterType : Text := ['R', 'E', 'P', 'E', 'A', 'T', 'E', 'R']

abbrev NodeTable := List (Text × StoredNode)

/-- The argument of `upsertNode`. -/
structure NodeHearing where
  publicKeyHex : Text
  name : Text
  type : Option Text
  heardAt : Int
  deriving DecidableEq, Repr

/-- The row an upsert leaves, with its conflict clause. -/
def NodeHearing.row (hearing : NodeHearing) : Option StoredNode → StoredNode
  | none =>
      { name := hearing.name, type := hearing.type, firstHeardAt := hearing.heardAt
        lastHeardAt := hearing.heardAt }
  | some old =>
      { old with name := hearing.name, type := hearing.type, lastHeardAt := hearing.heardAt }

def upsertNode (nodes : NodeTable) (hearing : NodeHearing) : NodeTable :=
  update hearing.publicKeyHex hearing.row nodes

/-- The table after a history of upserts. -/
def upsertNodes (nodes : NodeTable) (history : List NodeHearing) : NodeTable :=
  history.foldl upsertNode nodes

/-- The hearings of one node. -/
def hearingsOf (publicKeyHex : Text) (history : List NodeHearing) : List NodeHearing :=
  history.filter fun hearing => hearing.publicKeyHex = publicKeyHex

@[simp]
theorem NodeHearing.row_name (hearing : NodeHearing) (old : Option StoredNode) :
    (hearing.row old).name = hearing.name := by
  cases old with
  | none => rfl
  | some old => rfl

@[simp]
theorem NodeHearing.row_type (hearing : NodeHearing) (old : Option StoredNode) :
    (hearing.row old).type = hearing.type := by
  cases old with
  | none => rfl
  | some old => rfl

@[simp]
theorem NodeHearing.row_lastHeardAt (hearing : NodeHearing) (old : Option StoredNode) :
    (hearing.row old).lastHeardAt = hearing.heardAt := by
  cases old with
  | none => rfl
  | some old => rfl

@[simp]
theorem NodeHearing.row_firstHeardAt (hearing : NodeHearing) (old : Option StoredNode) :
    (hearing.row old).firstHeardAt = (old.map StoredNode.firstHeardAt).getD hearing.heardAt := by
  cases old with
  | none => rfl
  | some old => rfl

theorem find?_upsertNode (nodes : NodeTable) (hearing : NodeHearing) (publicKeyHex : Text) :
    find? publicKeyHex (upsertNode nodes hearing) =
      if publicKeyHex = hearing.publicKeyHex then some (hearing.row (find? publicKeyHex nodes))
      else find? publicKeyHex nodes := by
  rw [upsertNode, find?_update]
  by_cases same : publicKeyHex = hearing.publicKeyHex
  · rw [if_pos same, if_pos same, same]
  · rw [if_neg same, if_neg same]

theorem upsertNodes_append (nodes : NodeTable) (history : List NodeHearing)
    (hearing : NodeHearing) :
    upsertNodes nodes (history ++ [hearing]) = upsertNode (upsertNodes nodes history) hearing := by
  simp only [upsertNodes, List.foldl_append, List.foldl_cons, List.foldl_nil]

theorem nodup_upsertNodes {nodes : NodeTable} (nodup : (nodes.map Prod.fst).Nodup)
    (history : List NodeHearing) : ((upsertNodes nodes history).map Prod.fst).Nodup := by
  induction history generalizing nodes with
  | nil => exact nodup
  | cons hearing history ih => exact ih (nodup_update nodup)

/-- The row of a node is made by its own hearings. -/
theorem find?_upsertNodes (nodes : NodeTable) (history : List NodeHearing) (publicKeyHex : Text) :
    find? publicKeyHex (upsertNodes nodes history) =
      (hearingsOf publicKeyHex history).foldl (fun node hearing => some (hearing.row node))
        (find? publicKeyHex nodes) :=
  find?_foldl_update NodeHearing.publicKeyHex NodeHearing.row publicKeyHex history nodes

/-- The last hearing of a node has set its name, its type and `lastHeardAt`. -/
theorem find?_upsertNodes_last {nodes : NodeTable} {history : List NodeHearing}
    {publicKeyHex : Text} {last : NodeHearing}
    (isLast : (hearingsOf publicKeyHex history).getLast? = some last) :
    ∃ node, find? publicKeyHex (upsertNodes nodes history) = some node ∧
      node.name = last.name ∧ node.type = last.type ∧ node.lastHeardAt = last.heardAt := by
  rcases List.getLast?_eq_some_iff.mp isLast with ⟨before, hearings⟩
  rw [find?_upsertNodes, hearings, List.foldl_append, List.foldl_cons, List.foldl_nil]
  exact ⟨_, rfl, last.row_name _, last.row_type _, last.row_lastHeardAt _⟩

/-- Only the first hearing of a node sets `firstHeardAt`, and only where it has no row yet. -/
theorem firstHeardAt_upsertNodes (nodes : NodeTable) (history : List NodeHearing)
    (publicKeyHex : Text) :
    (find? publicKeyHex (upsertNodes nodes history)).map StoredNode.firstHeardAt =
      ((find? publicKeyHex nodes).map StoredNode.firstHeardAt).or
        ((hearingsOf publicKeyHex history).head?.map NodeHearing.heardAt) := by
  rw [find?_upsertNodes]
  generalize hearingsOf publicKeyHex history = hearings
  generalize find? publicKeyHex nodes = node
  induction hearings generalizing node with
  | nil => simp only [List.foldl_nil, List.head?_nil, Option.map_none, Option.or_none]
  | cons hearing hearings ih =>
      rw [List.foldl_cons, ih]
      cases node with
      | none => simp
      | some node => simp

/-- A node of which nothing has been heard keeps its row, or has none. -/
theorem find?_upsertNodes_of_unheard {nodes : NodeTable} {history : List NodeHearing}
    {publicKeyHex : Text} (unheard : hearingsOf publicKeyHex history = []) :
    find? publicKeyHex (upsertNodes nodes history) = find? publicKeyHex nodes := by
  rw [find?_upsertNodes, unheard, List.foldl_nil]

theorem mem_keys_upsertNodes {nodes : NodeTable} {history : List NodeHearing}
    {publicKeyHex : Text} :
    publicKeyHex ∈ (upsertNodes nodes history).map Prod.fst ↔
      publicKeyHex ∈ nodes.map Prod.fst ∨
        publicKeyHex ∈ history.map NodeHearing.publicKeyHex := by
  induction history generalizing nodes with
  | nil => simp [upsertNodes]
  | cons hearing history ih =>
      simp only [upsertNodes, List.foldl_cons] at ih ⊢
      rw [ih, upsertNode, mem_keys_update, List.map_cons, List.mem_cons]
      tauto

/-- In a table built from nothing, a row shows the first and the last hearing of its node. -/
theorem row_of_hearings {history : List NodeHearing} {publicKeyHex : Text} {node : StoredNode}
    (found : find? publicKeyHex (upsertNodes [] history) = some node) :
    ∃ first last, (hearingsOf publicKeyHex history).head? = some first ∧
      (hearingsOf publicKeyHex history).getLast? = some last ∧ node.name = last.name ∧
      node.type = last.type ∧ node.firstHeardAt = first.heardAt ∧
      node.lastHeardAt = last.heardAt := by
  rcases List.eq_nil_or_concat (hearingsOf publicKeyHex history) with unheard | ⟨_, last, whole⟩
  · rw [find?_upsertNodes_of_unheard unheard] at found
    cases found
  · have isLast : (hearingsOf publicKeyHex history).getLast? = some last := by
      rw [whole, List.concat_eq_append, List.getLast?_concat]
    rcases find?_upsertNodes_last isLast with ⟨same, sameFound, name, type, heardAt⟩
    cases found.symm.trans sameFound
    have firstHeard := firstHeardAt_upsertNodes [] history publicKeyHex
    simp only [found, find?, Option.map_some, Option.map_none, Option.none_or] at firstHeard
    rcases Option.map_eq_some_iff.mp firstHeard.symm with ⟨first, isFirst, firstAt⟩
    exact ⟨first, last, isFirst, isLast, name, type, firstAt.symm, heardAt⟩

theorem le_getLast_of_pairwise {α : Type} {time : α → Int} {items : List α} {last : α}
    (ordered : items.Pairwise fun former later => time former ≤ time later)
    (isLast : items.getLast? = some last) : ∀ item ∈ items, time item ≤ time last := by
  rcases List.getLast?_eq_some_iff.mp isLast with ⟨before, rfl⟩
  intro item itemMem
  rcases List.mem_append.mp itemMem with former | final
  · exact (List.pairwise_append.mp ordered).2.2 item former last (List.mem_singleton_self last)
  · rw [List.mem_singleton] at final
    subst item
    exact Int.le_refl _

end MeshcoreObserver
