import MeshcoreObserver.Metrics.StoreQueries
import MeshcoreObserver.Nodes.NodeTotals

/-!
# The stats reporter

`StatsReporter` over the tables of the store, as the stats command reads it. The
start of a range that is no number is bound as `NULL`, and no comparison with it
is true of a row: the summary is that of no rows. `node:sqlite` throws instead of
returning an integer that a number does not represent, so the integers that are
read are part of what the reporter does.
-/

namespace MeshcoreObserver

/-- What the queries compare with, where both bounds are numbers. -/
def StatsWindow.bound (window : StatsWindow) : Option Window :=
  window.start.map fun start => ⟨start, window.finish⟩

/-- `Number.MAX_SAFE_INTEGER`. -/
def maxSafeInteger : Nat := 2 ^ 53 - 1

/-- Whether `node:sqlite` returns the integer and does not throw. -/
def isSafeInteger (value : Int) : Bool := value.natAbs ≤ maxSafeInteger

theorem isSafeInteger_of_le {small large : Nat} (bounds : small ≤ large)
    (safe : isSafeInteger large) : isSafeInteger small := by
  simp only [isSafeInteger, Int.natAbs_natCast, decide_eq_true_eq] at safe ⊢
  exact bounds.trans safe

theorem length_of_mem_countBy {Key Row : Type} [DecidableEq Key] {key : Row → Key}
    {rows : List Row} {entry : Key × Int} (entryMem : entry ∈ countBy key rows) :
    ∃ number : Nat, entry.2 = number ∧ number ≤ rows.length := by
  rcases List.mem_map.mp entryMem with ⟨group, groupMem, rfl⟩
  rcases Sqlite.mem_groupBy groupMem with ⟨members, _⟩
  refine ⟨group.2.length, by simp, ?_⟩
  rw [members]
  exact List.length_filter_le _ _

namespace StoreTables

/-- `SELECT MIN(sample_at) …`. -/
def getEarliestSampleAt (tables : StoreTables) : Option Int :=
  (tables.samples.map fun sample => sample.sampleAt).min?

def packetTotalsOf (tables : StoreTables) (window : StatsWindow) : PacketTotals :=
  match window.bound with
  | some bound => tables.queryPacketTotals bound
  | none => packetTotals []

def sentRepliesOf (tables : StoreTables) (window : StatsWindow) : Int :=
  match window.bound with
  | some bound => (tables.queryReplyOutcomeTotals bound).sent
  | none => 0

def activeRepeatersOf (tables : StoreTables) (window : StatsWindow) : Nat :=
  match window.bound with
  | some bound => countActiveNodesInRange tables.nodes bound repeaterType
  | none => 0

def summarize (tables : StoreTables) (window : StatsWindow) : TemplateValues :=
  [("packetsReceived".toList, Text.ofInt (tables.packetTotalsOf window).received),
    ("packetsDecoded".toList, Text.ofInt (tables.packetTotalsOf window).decoded),
    ("repliesSent".toList, Text.ofInt (tables.sentRepliesOf window)),
    ("repeatersHeard".toList, Text.ofInt (tables.activeRepeatersOf window))]

def statsReporter (tables : StoreTables) : StatsReporter where
  earliestSampleAt := tables.getEarliestSampleAt
  summarize := tables.summarize

/-- The integers which the queries of `summarize(range)` return. -/
def summaryIntegers (tables : StoreTables) (window : StatsWindow) : List Int :=
  let totals := tables.packetTotalsOf window
  let replies :=
    match window.bound with
    | some bound => (countBy ReplyRow.status (tables.resolvedRepliesIn bound)).map Prod.snd
    | none => []
  totals.received :: totals.decoded :: (tables.activeRepeatersOf window : Int) :: replies

/-- The times, the sums over the samples of any window and the numbers of rows are safe. -/
structure SafeIntegers (tables : StoreTables) : Prop where
  sampled : ∀ sample ∈ tables.samples, isSafeInteger sample.sampleAt
  received : ∀ window, isSafeInteger (tables.queryPacketTotals window).received
  decoded : ∀ window, isSafeInteger (tables.queryPacketTotals window).decoded
  heard : ∀ node ∈ tables.nodes,
    isSafeInteger node.2.firstHeardAt ∧ isSafeInteger node.2.lastHeardAt
  replies : isSafeInteger tables.botReplies.length
  nodes : isSafeInteger tables.nodes.length

variable {tables : StoreTables}

theorem SafeIntegers.earliest (safe : tables.SafeIntegers) :
    ∀ value ∈ tables.getEarliestSampleAt.toList, isSafeInteger value := by
  intro value valueMem
  rw [Option.mem_toList] at valueMem
  rcases List.mem_map.mp (List.min?_mem valueMem) with ⟨sample, sampleMem, rfl⟩
  exact safe.sampled sample sampleMem

theorem SafeIntegers.summary (safe : tables.SafeIntegers) (window : StatsWindow) :
    ∀ value ∈ tables.summaryIntegers window, isSafeInteger value := by
  intro value valueMem
  rw [summaryIntegers, packetTotalsOf, activeRepeatersOf] at valueMem
  cases bounded : window.bound with
  | none =>
      simp only [bounded, List.mem_cons, List.not_mem_nil, or_false] at valueMem
      rcases valueMem with rfl | rfl | rfl <;> decide
  | some bound =>
      simp only [bounded, List.mem_cons] at valueMem
      rcases valueMem with rfl | rfl | rfl | counted
      · exact safe.received bound
      · exact safe.decoded bound
      · apply isSafeInteger_of_le _ safe.nodes
        exact List.length_filter_le _ _
      · rcases List.mem_map.mp counted with ⟨entry, entryMem, rfl⟩
        rcases length_of_mem_countBy entryMem with ⟨number, same, bounds⟩
        rw [same]
        apply isSafeInteger_of_le _ safe.replies
        exact bounds.trans (List.length_filter_le _ _)

end StoreTables

end MeshcoreObserver
