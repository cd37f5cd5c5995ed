import MeshcoreObserver.Web.ShownPage

/-!
# The cards of the bots

A card tells of the counts that came in last for its bot, and its chart does wherever
there is one: a chart is created from the data of its card. No card is forgotten that
has no chart yet: it is observed, or its chart is created with the next view of the
bots.
-/

namespace MeshcoreObserver

open Counting Transition

namespace BotCard

variable {counts : BotCounts} {card : BotCard}

/-- What a card shows of the counts, in its table and in its chart where it has one. -/
structure Tells (counts : BotCounts) (card : BotCard) : Prop where
  rows : card.rows = counts.commands.map commandRow
  total : card.total = "Total replies: ".toList ++ Text.ofInt counts.totalReplies
  emptyNote : card.emptyNote = "No commands recorded in this range.".toList
  emptyNoteHidden : card.emptyNoteHidden = decide (counts.totalReplies ≠ 0)
  chartSummary : card.chartSummary = summary counts
  chartData : card.chartData = counts.commands
  chart : ∀ commands, card.chart = some commands → commands = counts.commands

theorem shows_iff : botCardRenderer.Shows counts card ↔ card.Tells counts := by
  constructor
  · intro shows
    have filled : card.fill counts = card := shows
    constructor
    · exact (congrArg rows filled).symm
    · exact (congrArg total filled).symm
    · exact (congrArg emptyNote filled).symm
    · exact (congrArg emptyNoteHidden filled).symm
    · exact (congrArg chartSummary filled).symm
    · exact (congrArg chartData filled).symm
    · intro commands isChart
      have chart := congrArg chart filled
      simpa [fill, isChart, eq_comm] using chart
  · intro tells
    have chart : (card.chart.map fun _ => counts.commands) = card.chart := by
      cases isChart : card.chart with
      | none => rfl
      | some commands => rw [Option.map_some, tells.chart commands isChart]
    change fill counts card = card
    rw [fill, chart, ← tells.rows, ← tells.total, ← tells.emptyNote, ← tells.emptyNoteHidden,
      ← tells.chartSummary, ← tells.chartData]

/-- A chart is created from the data of the card. -/
theorem Tells.initializeBotChart (tells : card.Tells counts) :
    card.initializeBotChart.Tells counts := by
  unfold BotCard.initializeBotChart
  split
  · exact tells
  · refine ⟨tells.rows, tells.total, tells.emptyNote, tells.emptyNoteHidden, tells.chartSummary,
      tells.chartData, ?_⟩
    intro commands isChart
    rw [← Option.some.inj isChart, tells.chartData]

theorem Tells.observed (tells : card.Tells counts) (observed : Bool) :
    { card with observed }.Tells counts :=
  ⟨tells.rows, tells.total, tells.emptyNote, tells.emptyNoteHidden, tells.chartSummary,
    tells.chartData, tells.chart⟩

theorem Tells.applyBadge (tells : card.Tells counts) (status : Option BotStatus) :
    (card.applyBadge status).Tells counts := by
  cases status with
  | none => exact tells
  | some status =>
      exact ⟨tells.rows, tells.total, tells.emptyNote, tells.emptyNoteHidden, tells.chartSummary,
        tells.chartData, tells.chart⟩

theorem chart_initializeBotChart : card.initializeBotChart.chart.isSome := by
  cases isChart : card.chart with
  | none => simp [BotCard.initializeBotChart, isChart]
  | some commands => simp [BotCard.initializeBotChart, isChart]

/-- A card without a chart waits for its observer, or for the view of the bots. -/
def Watched (browser : Browser) (currentView : DashboardView) (card : BotCard) : Prop :=
  browser.chart = true → card.chart.isSome ∨ browser.observer = true ∧ card.observed = true ∨
    browser.observer = false ∧ currentView ≠ .bots

end BotCard

namespace DashboardCards

variable {formats : Formats} {browser : Browser} {currentView : DashboardView}
  {blocks : List (Text × Memo Text BotCard)} {given : List (Text × BotCounts)}

/-- The cards of the bots show the counts that came in last for them. -/
structure BlocksTell (browser : Browser) (currentView : DashboardView)
    (blocks : List (Text × Memo Text BotCard)) (given : List (Text × BotCounts)) : Prop where
  current : ∀ name memo, find? name blocks = some memo → botCardRenderer.Current memo
  tells : ∀ name counts, find? name given = some counts →
    ∃ memo, find? name blocks = some memo ∧ memo.view.Tells counts
  watched : ∀ name memo, find? name blocks = some memo → memo.view.Watched browser currentView

theorem tells_initializeBotChart {card : BotCard} {counts : BotCounts} (tells : card.Tells counts) :
    (initializeBotChart browser card).Tells counts := by
  unfold initializeBotChart
  split
  · exact tells.initializeBotChart
  · exact tells

theorem watched_initializeBotChart (card : BotCard) :
    (initializeBotChart browser card).Watched browser currentView := by
  intro available
  left
  simp only [initializeBotChart, available, if_true]
  exact BotCard.chart_initializeBotChart

theorem tells_observeBotChart {card : BotCard} {counts : BotCounts} (tells : card.Tells counts) :
    (observeBotChart browser currentView card).Tells counts := by
  unfold observeBotChart
  split
  · exact tells
  · split
    · exact tells.observed true
    · split
      · exact tells_initializeBotChart tells
      · exact tells

theorem watched_observeBotChart (card : BotCard) :
    (observeBotChart browser currentView card).Watched browser currentView := by
  unfold observeBotChart
  split
  · rename_i drawn
    exact fun _ => .inl drawn
  · split
    · rename_i observes
      rw [Bool.and_eq_true] at observes
      exact fun _ => .inr (.inl ⟨observes.1, rfl⟩)
    · split
      · exact watched_initializeBotChart card
      · rename_i unobserved elsewhere
        intro available
        right
        right
        simp only [available, Bool.and_true, Bool.not_eq_true] at unobserved
        refine ⟨unobserved, ?_⟩
        simpa [unobserved] using elsewhere

/-- A card that has not been rendered before is watched by the time it has. -/
theorem renderBot_spec {memo : Memo Text BotCard} {counts : BotCounts}
    (current : botCardRenderer.Current memo)
    (watched : memo.last.isSome → memo.view.Watched browser currentView) :
    botCardRenderer.Current (renderBot browser currentView counts memo) ∧
      (renderBot browser currentView counts memo).view.Tells counts ∧
      (renderBot browser currentView counts memo).view.Watched browser currentView := by
  unfold renderBot
  split
  · rename_i same
    exact ⟨current, BotCard.shows_iff.mp (current counts same), watched (by simp [same])⟩
  · have filled := current.offer counts
    refine ⟨filled.change ?_, ?_, watched_observeBotChart _⟩
    · intro other shows
      exact BotCard.shows_iff.mpr (tells_observeBotChart (BotCard.shows_iff.mp shows))
    · exact tells_observeBotChart (BotCard.shows_iff.mp (current.shows counts))

theorem BlocksTell.update {name : Text} {counts : BotCounts}
    (tells : BlocksTell browser currentView blocks given) :
    BlocksTell browser currentView
      (Counting.update name
        (fun block => renderBot browser currentView counts (block.getD ⟨none, .build⟩)) blocks)
      (Counting.update name (fun _ => counts) given) := by
  have rendered : botCardRenderer.Current (renderBot browser currentView counts
        ((find? name blocks).getD ⟨none, .build⟩)) ∧
      (renderBot browser currentView counts
        ((find? name blocks).getD ⟨none, .build⟩)).view.Tells counts ∧
      (renderBot browser currentView counts
        ((find? name blocks).getD ⟨none, .build⟩)).view.Watched browser currentView := by
    cases found : find? name blocks with
    | none => exact renderBot_spec (Renderer.current_new _) nofun
    | some memo =>
        exact renderBot_spec (tells.current name memo found) fun _ => tells.watched name memo found
  constructor
  · intro other memo found
    rw [find?_update] at found
    split at found
    · cases found
      exact rendered.1
    · exact tells.current other memo found
  · intro other others found
    simp only [find?_update] at found ⊢
    split at found
    · rename_i isName
      cases found
      exact ⟨_, if_pos isName, rendered.2.1⟩
    · rename_i different
      rcases tells.tells other others found with ⟨memo, foundMemo, shows⟩
      exact ⟨memo, (if_neg different).trans foundMemo, shows⟩
  · intro other memo found
    rw [find?_update] at found
    split at found
    · cases found
      exact rendered.2.2
    · exact tells.watched other memo found

theorem BlocksTell.foldl_update (bots : List (Text × BotCounts))
    (tells : BlocksTell browser currentView blocks given) :
    BlocksTell browser currentView
      (bots.foldl
        (fun blocks bot =>
          Counting.update bot.1
            (fun block => renderBot browser currentView bot.2 (block.getD ⟨none, .build⟩)) blocks)
        blocks)
      (bots.foldl (fun given bot => Counting.update bot.1 (fun _ => bot.2) given) given) := by
  induction bots generalizing blocks given with
  | nil => exact tells
  | cons bot bots ih => exact ih tells.update

theorem find?_mapBlocks {cards : DashboardCards} {change : Text → BotCard → BotCard} (name : Text) :
    find? name (cards.mapBlocks change).botCommandBlocks =
      (find? name cards.botCommandBlocks).map fun memo =>
        { memo with view := change name memo.view } := by
  simp only [mapBlocks]
  induction cards.botCommandBlocks with
  | nil => rfl
  | cons block blocks ih =>
      rw [List.map_cons, find?, find?]
      split
      · rename_i isName
        subst name
        rfl
      · exact ih

theorem BlocksTell.mapBlocks {cards : DashboardCards} {change : Text → BotCard → BotCard}
    {viewAfter : DashboardView}
    (tells : BlocksTell browser currentView cards.botCommandBlocks given)
    (keeps : ∀ name card counts, card.Tells counts → (change name card).Tells counts)
    (watches : ∀ name card, card.Watched browser currentView →
      (change name card).Watched browser viewAfter) :
    BlocksTell browser viewAfter (cards.mapBlocks change).botCommandBlocks given := by
  constructor
  · intro name memo found
    rw [find?_mapBlocks] at found
    rcases Option.map_eq_some_iff.mp found with ⟨before, foundBefore, rfl⟩
    apply (tells.current name before foundBefore).change
    intro counts shows
    exact BotCard.shows_iff.mpr (keeps name _ counts (BotCard.shows_iff.mp shows))
  · intro name counts isGiven
    rcases tells.tells name counts isGiven with ⟨memo, found, shows⟩
    exact ⟨_, (find?_mapBlocks name).trans (congrArg _ found), keeps name _ counts shows⟩
  · intro name memo found
    rw [find?_mapBlocks] at found
    rcases Option.map_eq_some_iff.mp found with ⟨before, foundBefore, rfl⟩
    exact watches name _ (tells.watched name before foundBefore)

end DashboardCards

end MeshcoreObserver
