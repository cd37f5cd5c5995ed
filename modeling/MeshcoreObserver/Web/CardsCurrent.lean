import MeshcoreObserver.Web.BotCards

/-!
# Cards that are never stale

Whatever the order of live updates, responses, navigation and lazily created charts,
every table shows the data that came in last for it, and so does every chart there is.

The packets are not rendered before their charts have been created, because a request
for them starts only while they are shown. So the signature of a table never keeps data
from a chart that comes later.
-/

namespace MeshcoreObserver

open Counting Transition

namespace DashboardPage

/-- The same view is on display, and each request is an old one or asks for that view. -/
structure Continues (page after : DashboardPage) : Prop where
  currentView : after.currentView = page.currentView
  requests : ∀ request ∈ after.requests,
    (∃ old ∈ page.requests, old.view = request.view) ∨ request.view = page.currentView

/-- Nothing has been rendered either. -/
structure Follows (page after : DashboardPage) : Prop extends Continues page after where
  renders : after.renders = page.renders

variable {page middle after : DashboardPage}

theorem Follows.refl (page : DashboardPage) : page.Follows page where
  currentView := rfl
  renders := rfl
  requests request requestMem := .inl ⟨request, requestMem, rfl⟩

theorem Follows.trans (first : page.Follows middle) (second : middle.Follows after) :
    page.Follows after where
  currentView := second.currentView.trans first.currentView
  renders := second.renders.trans first.renders
  requests := by
    intro request requestMem
    rcases second.requests request requestMem with ⟨old, oldMem, sameView⟩ | current
    · rcases first.requests old oldMem with ⟨older, olderMem, sameBefore⟩ | current
      · exact .inl ⟨older, olderMem, sameBefore.trans sameView⟩
      · exact .inr (sameView ▸ current)
    · exact .inr (current.trans first.currentView)

theorem follows_modify {number : Nat} (change : RangeRequest → RangeRequest)
    (keeps : ∀ request, (change request).view = request.view)
    (currentView : after.currentView = page.currentView) (renders : after.renders = page.renders)
    (requests : after.requests = page.requests.modify number change) : page.Follows after where
  currentView := currentView
  renders := renders
  requests := by
    intro request requestMem
    rw [requests] at requestMem
    rcases List.mem_iff_getElem?.mp requestMem with ⟨other, found⟩
    simp only [List.getElem?_modify, Option.map_eq_map, Option.map_eq_some_iff] at found
    rcases found with ⟨old, foundOld, rfl⟩
    refine .inl ⟨old, List.mem_of_getElem? foundOld, ?_⟩
    split
    · exact (keeps old).symm
    · rfl

/-- Pages that agree on what is followed. -/
theorem Follows.same_page {other : DashboardPage} (follows : other.Follows after)
    (currentView : other.currentView = page.currentView) (renders : other.renders = page.renders)
    (requests : other.requests = page.requests) : page.Follows after where
  currentView := follows.currentView.trans currentView
  renders := follows.renders.trans renders
  requests := by
    rw [← requests, ← currentView]
    exact follows.requests

theorem follows_abortActive : page.Follows page.abortActive := by
  unfold abortActive
  split
  · exact .refl page
  · exact follows_modify (fun request => { request with aborted := true }) (fun _ => rfl) rfl rfl
      rfl

theorem follows_startRequest (params : List (Text × Text)) :
    page.Follows (page.startRequest params) where
  currentView := rfl
  renders := rfl
  requests := by
    intro request requestMem
    rcases List.mem_append.mp requestMem with old | new
    · exact .inl ⟨request, old, rfl⟩
    · rw [List.mem_singleton] at new
      subst request
      exact .inr rfl

theorem follows_refreshRangeData (supersede : Bool) :
    page.Follows (page.refreshRangeData supersede) := by
  unfold refreshRangeData
  split
  · exact .refl page
  · split
    · split
      · exact follows_abortActive.trans (follows_startRequest _)
      · exact (Follows.refl _).same_page rfl rfl rfl
    · exact follows_startRequest _

theorem follows_setStage (number : Nat) (stage : RequestStage) :
    page.Follows (page.setStage number stage) :=
  follows_modify (fun request => { request with stage }) (fun _ => rfl) rfl rfl rfl

theorem follows_settle (number : Nat) : page.Follows (page.settle number) := by
  have staged : page.Follows (page.setStage number .finished) :=
    follows_setStage number .finished
  simp only [settle]
  split
  · split
    · exact staged.trans ((follows_refreshRangeData false).same_page rfl rfl rfl)
    · exact staged.trans ((Follows.refl _).same_page rfl rfl rfl)
  · exact staged

theorem follows_requestFails (number : Nat) (request : RangeRequest) :
    page.Follows (page.requestFails number request) := by
  unfold requestFails
  split
  · exact follows_settle number
  · exact (follows_settle number).same_page rfl rfl rfl

/-- A response is rendered, or nothing is. -/
theorem read_cases {number : Nat} {body : Option DashboardResponse} {rendered : Bool} {now : Int}
    (read : page.read number body rendered now = some after) :
    page.Follows after ∨ ∃ request, page.requests[number]? = some request ∧
      body.any (matchesRequest request) = true ∧ (page.render request).Follows after := by
  unfold DashboardPage.read at read
  split at read
  · cases read
  · rename_i request found
    split at read
    · cases read
      split
      · rename_i matching
        split
        · exact .inl (follows_settle number)
        · refine .inr ⟨request, found, matching, ?_⟩
          split
          · exact (follows_settle number).same_page rfl rfl rfl
          · exact follows_requestFails number request
      · exact .inl (follows_requestFails number request)
    · cases read

theorem fetched_follows {number : Nat} {ok : Bool} (fetched : page.fetched number ok = some after) :
    page.Follows after := by
  unfold DashboardPage.fetched at fetched
  split at fetched
  · cases fetched
  · split at fetched
    · cases fetched
      split
      · exact follows_setStage number .reading
      · exact follows_requestFails number _
    · cases fetched

/-- Where nothing is rendered, only navigation changes what is shown. -/
theorem step_follows {event : PageEvent} (stepped : page.step event = some after)
    (renders : after.renders.length = page.renders.length)
    (stays : ∀ view pushHistory, event ≠ .navigate view pushHistory) : page.Follows after := by
  cases event with
  | liveUpdate =>
      cases stepped
      exact (follows_refreshRangeData false).same_page rfl rfl rfl
  | selectPresetRange value =>
      simp only [step, DashboardPage.selectPresetRange] at stepped
      split at stepped
      · cases stepped
        exact (follows_refreshRangeData true).same_page rfl rfl rfl
      · cases stepped
  | openCustomRange =>
      cases stepped
      exact (Follows.refl _).same_page rfl rfl rfl
  | applyCustomRange startValue endValue =>
      simp only [step, DashboardPage.applyCustomRange] at stepped
      split at stepped
      · cases stepped
        exact .refl page
      · cases stepped
        exact (follows_refreshRangeData true).same_page rfl rfl rfl
  | navigate view pushHistory => exact absurd rfl (stays view pushHistory)
  | fetched number ok => exact fetched_follows stepped
  | read number body rendered now =>
      rcases read_cases stepped with follows | ⟨request, _, _, follows⟩
      · exact follows
      · rw [follows.renders] at renders
        simp [render] at renders

end DashboardPage

/-- The table of the packet types, and its chart where there can be one. -/
structure PacketTypesView.Tells (browser : Browser) (totals : List (Text × Int))
    (view : PacketTypesView) : Prop where
  rows : view.rows = packetTypeRows (buildPacketTypeTotals totals)
  summary : view.summary = packetTypesSummary (buildPacketTypeTotals totals)
  pie : view.pie = if browser.chart then some (buildPacketTypeTotals totals) else none

namespace DashboardCards

variable {formats : Formats} {browser : Browser} {currentView : DashboardView}
  {cards : DashboardCards} {given : GivenData}

structure UpToDate (formats : Formats) (browser : Browser) (currentView : DashboardView)
    (cards : DashboardCards) (given : GivenData) : Prop where
  brokerStatus : (brokerStatusRenderer formats).Current cards.brokerStatus
  deliveries : deliveriesRenderer.Current cards.deliveries
  history : (historyRenderer formats).Current cards.history
  packetTypes : packetTypesRenderer.Current cards.packetTypes
  chart : cards.history.view.chart.isSome = (cards.packetChartsInitialized && browser.chart)
  pie : cards.packetTypes.view.pie.isSome = (cards.packetChartsInitialized && browser.chart)
  untouched : cards.packetChartsInitialized = false →
    (cards.history.last = none ∧ given.history = none) ∧
      cards.packetTypes.last = none ∧ given.packetTypes = none
  mqtt : ∀ mqtt, given.mqtt = some mqtt → cards.brokerStatus.view = brokerStatusRows formats mqtt
  brokers : ∀ brokers, given.brokers = some brokers →
    cards.deliveries.view = deliveriesRows brokers
  buckets : ∀ buckets, given.history = some buckets → browser.chart = true →
    cards.history.view = fillHistory formats buckets
  totals : ∀ totals, given.packetTypes = some totals →
    cards.packetTypes.view.Tells browser totals
  blocks : BlocksTell browser currentView cards.botCommandBlocks given.bots
  status : cards.latestBotStatusByName = given.status
  badges : ∀ name memo status, find? name cards.botCommandBlocks = some memo →
    find? name given.status = some status →
    memo.view.statusBadge = some (BotCard.statusCell status)

theorem upToDate_blank (currentView : DashboardView) :
    blank.UpToDate formats browser currentView .nothing where
  brokerStatus := Renderer.current_new _
  deliveries := Renderer.current_new _
  history := Renderer.current_new _
  packetTypes := Renderer.current_new _
  chart := rfl
  pie := rfl
  untouched := fun _ => ⟨⟨rfl, rfl⟩, rfl, rfl⟩
  mqtt := nofun
  brokers := nofun
  buckets := nofun
  totals := nofun
  blocks := ⟨nofun, nofun, nofun⟩
  status := rfl
  badges := nofun

/-- The badges are applied whenever a status or a card is new. -/
theorem badges_applyBotStatusBadges (name : Text) (memo : Memo Text BotCard) (status : BotStatus)
    (found : find? name cards.applyBotStatusBadges.botCommandBlocks = some memo)
    (known : find? name cards.latestBotStatusByName = some status) :
    memo.view.statusBadge = some (BotCard.statusCell status) := by
  rw [applyBotStatusBadges, find?_mapBlocks] at found
  rcases Option.map_eq_some_iff.mp found with ⟨before, _, rfl⟩
  simp only [known, BotCard.applyBadge]

theorem BlocksTell.applyBotStatusBadges {given : List (Text × BotCounts)}
    (tells : BlocksTell browser currentView cards.botCommandBlocks given) :
    BlocksTell browser currentView cards.applyBotStatusBadges.botCommandBlocks given := by
  apply tells.mapBlocks
  · intro name card counts tells
    exact tells.applyBadge _
  · intro name card watched available
    have drawn := watched available
    cases find? name cards.latestBotStatusByName with
    | none => exact drawn
    | some status => exact drawn

theorem UpToDate.renderSnapshot (upToDate : cards.UpToDate formats browser currentView given)
    (snapshot : LiveSnapshot) :
    (cards.renderSnapshot formats snapshot).UpToDate formats browser currentView
      (given.live snapshot) where
  brokerStatus := upToDate.brokerStatus.offer snapshot.mqtt
  deliveries := upToDate.deliveries
  history := upToDate.history
  packetTypes := upToDate.packetTypes
  chart := upToDate.chart
  pie := upToDate.pie
  untouched := upToDate.untouched
  mqtt := by
    intro mqtt isGiven
    cases isGiven
    exact upToDate.brokerStatus.view_offer snapshot.mqtt
  brokers := upToDate.brokers
  buckets := upToDate.buckets
  totals := upToDate.totals
  blocks := BlocksTell.applyBotStatusBadges upToDate.blocks
  status := by
    simp only [DashboardCards.renderSnapshot, applyBotStatusBadges, mapBlocks, GivenData.live,
      upToDate.status]
  badges := by
    intro name memo status found known
    apply badges_applyBotStatusBadges name memo status found
    rw [← known, GivenData.live, upToDate.status]

theorem UpToDate.renderChart (upToDate : cards.UpToDate formats browser currentView given)
    (initialized : cards.packetChartsInitialized = true) (buckets : List ChartBucket) :
    (cards.renderChart formats buckets).UpToDate formats browser currentView
      { given with history := some buckets } := by
  have charted := upToDate.chart
  rw [initialized, Bool.true_and] at charted
  have viewed : ((historyRenderer formats).offer cards.history buckets).view =
      fillHistory formats buckets := upToDate.history.view_offer buckets
  unfold DashboardCards.renderChart
  split
  · rename_i drawn
    refine
      { upToDate with
        history := upToDate.history.offer buckets
        chart := ?_
        untouched := ?_
        buckets := ?_ }
    · simp only [viewed, fillHistory, Option.isSome_some, initialized, Bool.true_and, ← charted,
        drawn]
    · intro before
      exact absurd (initialized.symm.trans before) (Bool.false_ne_true ·.symm)
    · intro given isGiven _
      cases isGiven
      exact viewed
  · rename_i undrawn
    refine { upToDate with untouched := ?_, buckets := ?_ }
    · intro before
      exact absurd (initialized.symm.trans before) (Bool.false_ne_true ·.symm)
    · intro given isGiven available
      rw [charted, available] at undrawn
      exact absurd rfl undrawn

theorem UpToDate.renderPacketTypes (upToDate : cards.UpToDate formats browser currentView given)
    (initialized : cards.packetChartsInitialized = true) (totals : List (Text × Int)) :
    (cards.renderPacketTypes totals).UpToDate formats browser currentView
      { given with packetTypes := some totals } := by
  have charted := upToDate.pie
  rw [initialized, Bool.true_and] at charted
  have viewed : (packetTypesRenderer.offer cards.packetTypes totals).view =
      fillPacketTypes totals cards.packetTypes.view := upToDate.packetTypes.view_offer totals
  refine
    { upToDate with
      packetTypes := upToDate.packetTypes.offer totals
      pie := ?_
      untouched := ?_
      totals := ?_ }
  · simp only [DashboardCards.renderPacketTypes, viewed, fillPacketTypes, Option.isSome_map,
      charted, initialized, Bool.true_and]
  · intro before
    exact absurd (initialized.symm.trans before) (Bool.false_ne_true ·.symm)
  · intro others isGiven
    cases isGiven
    simp only [DashboardCards.renderPacketTypes, viewed]
    refine ⟨rfl, rfl, ?_⟩
    cases drawn : cards.packetTypes.view.pie with
    | none =>
        rw [drawn] at charted
        simp [fillPacketTypes, drawn, ← charted]
    | some counts =>
        rw [drawn] at charted
        simp [fillPacketTypes, drawn, ← charted]

theorem UpToDate.renderBrokerDeliveries
    (upToDate : cards.UpToDate formats browser currentView given)
    (brokers : List BrokerDeliveries) :
    (cards.renderBrokerDeliveries brokers).UpToDate formats browser currentView
      { given with brokers := some brokers } := by
  refine { upToDate with deliveries := upToDate.deliveries.offer brokers, brokers := ?_ }
  intro others isGiven
  cases isGiven
  exact upToDate.deliveries.view_offer brokers

theorem UpToDate.renderBotCommands (upToDate : cards.UpToDate formats browser currentView given)
    (bots : List (Text × BotCounts)) :
    (cards.renderBotCommands browser currentView bots).UpToDate formats browser currentView
      (given.response (.bots bots)) := by
  refine { upToDate with blocks := ?_, badges := ?_ }
  · exact BlocksTell.applyBotStatusBadges (upToDate.blocks.foldl_update bots)
  · intro name memo status found known
    apply badges_applyBotStatusBadges name memo status found
    rw [← known, GivenData.response, upToDate.status]

theorem UpToDate.renderDashboardView (upToDate : cards.UpToDate formats browser currentView given)
    (data : PageData) (initialized : data.view = .packets → cards.packetChartsInitialized = true) :
    (cards.renderDashboardView formats browser currentView data).UpToDate formats browser
      currentView (given.response data) := by
  cases data with
  | overview => exact upToDate
  | packets buckets totals =>
      have charts := upToDate.renderChart (initialized rfl) buckets
      apply charts.renderPacketTypes
      unfold DashboardCards.renderChart
      split
      · exact initialized rfl
      · exact initialized rfl
  | brokers brokers => exact upToDate.renderBrokerDeliveries brokers
  | bots bots => exact upToDate.renderBotCommands bots
  | repeaters => exact upToDate

theorem packetChartsInitialized_ensurePacketChartsInitialized :
    (cards.ensurePacketChartsInitialized browser).packetChartsInitialized = true := by
  unfold ensurePacketChartsInitialized
  split
  · assumption
  · unfold initChart
    split
    · rfl
    · rfl

theorem UpToDate.ensurePacketChartsInitialized
    (upToDate : cards.UpToDate formats browser currentView given) :
    (cards.ensurePacketChartsInitialized browser).UpToDate formats browser currentView given := by
  cases initialized : cards.packetChartsInitialized with
  | true =>
      simp only [DashboardCards.ensurePacketChartsInitialized, initialized, if_true]
      exact upToDate
  | false =>
      rcases upToDate.untouched initialized with ⟨⟨noHistory, noBuckets⟩, noTypes, noTotals⟩
      have undrawn := upToDate.chart
      have pieUndrawn := upToDate.pie
      rw [initialized, Bool.false_and] at undrawn pieUndrawn
      simp only [DashboardCards.ensurePacketChartsInitialized, initialized, Bool.false_eq_true,
        if_false, initChart]
      split
      · rename_i available
        refine
          { upToDate with
            history := ?_
            packetTypes := ?_
            chart := ?_
            pie := ?_
            untouched := nofun
            buckets := ?_
            totals := ?_ }
        · intro buckets last
          rw [noHistory] at last
          cases last
        · intro totals last
          rw [noTypes] at last
          cases last
        · simp [available]
        · simp [available]
        · intro buckets isGiven
          rw [noBuckets] at isGiven
          cases isGiven
        · intro totals isGiven
          rw [noTotals] at isGiven
          cases isGiven
      · rename_i unavailable
        refine
          { upToDate with
            chart := ?_
            pie := ?_
            untouched := nofun }
        · simpa [Bool.eq_false_iff.mpr unavailable] using undrawn
        · simpa [Bool.eq_false_iff.mpr unavailable] using pieUndrawn

/-- Changes that leave the tables and the badges of the bots as they are. -/
theorem UpToDate.mapBlocks {change : Text → BotCard → BotCard} {viewAfter : DashboardView}
    (upToDate : cards.UpToDate formats browser currentView given)
    (keeps : ∀ name card counts, card.Tells counts → (change name card).Tells counts)
    (watches : ∀ name card, card.Watched browser currentView →
      (change name card).Watched browser viewAfter)
    (badge : ∀ name card, (change name card).statusBadge = card.statusBadge) :
    (cards.mapBlocks change).UpToDate formats browser viewAfter given := by
  refine { upToDate with blocks := upToDate.blocks.mapBlocks keeps watches, badges := ?_ }
  intro name memo status found known
  rw [find?_mapBlocks] at found
  rcases Option.map_eq_some_iff.mp found with ⟨before, foundBefore, rfl⟩
  exact (badge name _).trans (upToDate.badges name before status foundBefore known)

theorem statusBadge_initializeBotChart (card : BotCard) :
    (initializeBotChart browser card).statusBadge = card.statusBadge := by
  unfold initializeBotChart BotCard.initializeBotChart
  split
  · split
    · rfl
    · rfl
  · rfl

theorem UpToDate.turn {viewAfter : DashboardView}
    (upToDate : cards.UpToDate formats browser currentView given)
    (elsewhere : viewAfter ≠ .bots ∨ browser.observer = true) :
    cards.UpToDate formats browser viewAfter given := by
  refine { upToDate with blocks := { upToDate.blocks with watched := ?_ } }
  intro name memo found available
  rcases upToDate.blocks.watched name memo found available with drawn | observed | ⟨unobserved, _⟩
  · exact .inl drawn
  · exact .inr (.inl observed)
  · rcases elsewhere with other | observes
    · exact .inr (.inr ⟨unobserved, other⟩)
    · exact absurd (unobserved.symm.trans observes) Bool.false_ne_true

theorem UpToDate.showView (upToDate : cards.UpToDate formats browser currentView given)
    (view : DashboardView) :
    (cards.showView browser view).UpToDate formats browser view given := by
  unfold DashboardCards.showView
  split
  · rename_i isPackets
    have turned : cards.UpToDate formats browser .packets given := upToDate.turn (.inl nofun)
    rw [isPackets]
    exact turned.ensurePacketChartsInitialized
  · split
    · apply upToDate.mapBlocks
      · exact fun _ _ _ tells => tells_initializeBotChart tells
      · exact fun _ card _ => watched_initializeBotChart card
      · exact fun _ card => statusBadge_initializeBotChart card
    · rename_i notFallback
      apply upToDate.turn
      by_cases isBots : view = .bots
      · right
        simpa [isBots] using notFallback
      · exact .inl isBots

theorem UpToDate.intersect (upToDate : cards.UpToDate formats browser currentView given)
    {botName : Text} {after : DashboardCards}
    (intersects : cards.intersect browser botName = some after) :
    after.UpToDate formats browser currentView given := by
  unfold DashboardCards.intersect at intersects
  split at intersects
  · cases intersects
  · split at intersects
    · cases intersects
      apply upToDate.mapBlocks
      · intro name card counts tells
        split
        · exact (tells_initializeBotChart tells).observed false
        · exact tells
      · intro name card watched
        split
        · intro available
          have drawn : card.initializeBotChart.chart.isSome := BotCard.chart_initializeBotChart
          left
          simpa [initializeBotChart, available] using drawn
        · exact watched
      · intro name card
        split
        · exact statusBadge_initializeBotChart card
        · rfl
    · cases intersects

end DashboardCards

namespace ShownPage

variable {formats : Formats} {browser : Browser} {shown after : ShownPage}

/-- The cards are up to date, and a request for the packets finds their charts created. -/
structure Faithful (formats : Formats) (browser : Browser) (shown : ShownPage) : Prop where
  cards : shown.cards.UpToDate formats browser shown.page.currentView shown.given
  displayed : shown.page.currentView = .packets → shown.cards.packetChartsInitialized = true
  requested : ∀ request ∈ shown.page.requests, request.view = .packets →
    shown.cards.packetChartsInitialized = true

theorem packetChartsInitialized_showView {cards : DashboardCards} {view : DashboardView}
    (initialized : view = .packets ∨ cards.packetChartsInitialized = true) :
    (cards.showView browser view).packetChartsInitialized = true := by
  unfold DashboardCards.showView
  split
  · exact DashboardCards.packetChartsInitialized_ensurePacketChartsInitialized
  · rename_i different
    have before := initialized.resolve_left different
    split
    · exact before
    · exact before

theorem packetChartsInitialized_renderDashboardView {cards : DashboardCards}
    {currentView : DashboardView} (data : PageData) :
    (cards.renderDashboardView formats browser currentView data).packetChartsInitialized =
      cards.packetChartsInitialized := by
  cases data with
  | packets buckets totals =>
      simp only [DashboardCards.renderDashboardView, DashboardCards.renderPacketTypes,
        DashboardCards.renderChart]
      split
      · rfl
      · rfl
  | overview => rfl
  | brokers brokers => rfl
  | bots bots => rfl
  | repeaters => rfl

/-- The requests that a page goes on with keep to what they may ask for. -/
theorem Faithful.continues {page : DashboardPage} {cards : DashboardCards} {given : GivenData}
    (faithful : shown.Faithful formats browser) (continues : shown.page.Continues page)
    (upToDate : cards.UpToDate formats browser shown.page.currentView given)
    (initialized : cards.packetChartsInitialized = shown.cards.packetChartsInitialized) :
    Faithful formats browser { page, cards, given } where
  cards := by
    rw [continues.currentView]
    exact upToDate
  displayed := by
    rw [continues.currentView, initialized]
    exact faithful.displayed
  requested := by
    intro request requestMem isPackets
    rw [initialized]
    rcases continues.requests request requestMem with ⟨old, oldMem, sameView⟩ | current
    · exact faithful.requested old oldMem (sameView.trans isPackets)
    · exact faithful.displayed (current.symm.trans isPackets)

theorem Faithful.showDashboardView (faithful : shown.Faithful formats browser)
    (view : DashboardView) : (shown.showDashboardView browser view).Faithful formats browser := by
  have follows : ({ shown.page with currentView := view } : DashboardPage).Follows
      (shown.page.showDashboardView view) := DashboardPage.follows_refreshRangeData true
  have onView : (shown.page.showDashboardView view).currentView = view := follows.currentView
  constructor
  · simp only [ShownPage.showDashboardView, onView]
    exact faithful.cards.showView view
  · intro isPackets
    exact packetChartsInitialized_showView (.inl (follows.currentView.symm.trans isPackets))
  · intro request requestMem isPackets
    apply packetChartsInitialized_showView
    rcases follows.requests request requestMem with ⟨old, oldMem, sameView⟩ | current
    · exact .inr (faithful.requested old oldMem (sameView.trans isPackets))
    · exact .inl (current.symm.trans isPackets)

theorem view_of_name {first second : DashboardView} (same : first.name = second.name) :
    first = second := by
  revert same
  cases first <;> cases second <;> decide

theorem Faithful.read {number : Nat} {data : PageData} {now : Int}
    (faithful : shown.Faithful formats browser)
    (read : shown.read formats browser number data now = some after) :
    after.Faithful formats browser := by
  rcases Option.map_eq_some_iff.mp read with ⟨page, pageRead, rfl⟩
  rcases DashboardPage.read_cases pageRead with follows | ⟨request, found, matching, follows⟩
  · rw [if_pos (congrArg List.length follows.renders)]
    exact faithful.continues follows.toContinues faithful.cards rfl
  · have rendered : page.renders.length ≠ shown.page.renders.length := by
      rw [follows.renders]
      simp [DashboardPage.render]
    rw [if_neg rendered]
    have ofRequest : data.view = request.view := by
      simp only [Option.any_some, DashboardPage.matchesRequest, decide_eq_true_eq,
        and_true] at matching
      exact view_of_name matching
    have initialized : data.view = .packets → shown.cards.packetChartsInitialized = true := by
      intro isPackets
      exact faithful.requested request (List.mem_of_getElem? found)
        (ofRequest.symm.trans isPackets)
    have continues : shown.page.Continues page := ⟨follows.currentView, follows.requests⟩
    exact faithful.continues continues
      (faithful.cards.renderDashboardView data initialized)
      (packetChartsInitialized_renderDashboardView data)

theorem Faithful.unrendered {event : PageEvent} (faithful : shown.Faithful formats browser)
    (stepped : shown.unrendered event = some after)
    (stays : ∀ view pushHistory, event ≠ .navigate view pushHistory) :
    after.Faithful formats browser := by
  rcases Option.bind_eq_some_iff.mp stepped with ⟨page, moved, kept⟩
  split at kept
  · rename_i renders
    cases kept
    have follows := DashboardPage.step_follows moved renders stays
    exact faithful.continues follows.toContinues faithful.cards rfl
  · cases kept

theorem Faithful.other {event : PageEvent} (faithful : shown.Faithful formats browser)
    (stepped : shown.other browser event = some after) : after.Faithful formats browser := by
  cases event with
  | navigate view pushHistory =>
      simp only [ShownPage.other] at stepped
      split at stepped
      · cases stepped
        exact faithful
      · cases stepped
        exact faithful.showDashboardView view
  | liveUpdate => exact faithful.unrendered stepped nofun
  | selectPresetRange value => exact faithful.unrendered stepped nofun
  | openCustomRange => exact faithful.unrendered stepped nofun
  | applyCustomRange startValue endValue => exact faithful.unrendered stepped nofun
  | fetched number ok => exact faithful.unrendered stepped nofun
  | read number body rendered now => exact faithful.unrendered stepped nofun

theorem Faithful.step {event : ShownEvent} (faithful : shown.Faithful formats browser)
    (stepped : shown.step formats browser event = some after) : after.Faithful formats browser := by
  cases event with
  | live snapshot =>
      cases stepped
      have follows : shown.page.Follows
          ({ shown.page with updates := shown.page.updates + 1 }.refreshRangeData false) :=
        (DashboardPage.follows_refreshRangeData false).same_page rfl rfl rfl
      cases snapshot with
      | none => exact faithful.continues follows.toContinues faithful.cards rfl
      | some snapshot =>
          exact faithful.continues follows.toContinues (faithful.cards.renderSnapshot snapshot) rfl
  | read number data now => exact faithful.read stepped
  | intersects botName =>
      rcases Option.map_eq_some_iff.mp stepped with ⟨cards, intersects, rfl⟩
      have initialized : cards.packetChartsInitialized = shown.cards.packetChartsInitialized := by
        unfold DashboardCards.intersect at intersects
        split at intersects
        · cases intersects
        · split at intersects
          · cases intersects
            rfl
          · cases intersects
      exact faithful.continues (DashboardPage.Follows.refl _).toContinues
        (faithful.cards.intersect intersects) initialized
  | other event => exact faithful.other stepped

theorem faithful_of_reachable (reachable : (shownPageSystem formats browser).Reachable shown) :
    shown.Faithful formats browser := by
  apply reachable.invariant
  · rintro first ⟨view, rfl⟩
    apply Faithful.showDashboardView
    exact ⟨DashboardCards.upToDate_blank .overview, nofun, nofun⟩
  · intro first event second faithful _ stepped
    exact faithful.step stepped

/-- Every table, chart and badge shows the data that came in last for it. -/
theorem cards_up_to_date (reachable : (shownPageSystem formats browser).Reachable shown) :
    (∀ mqtt, shown.given.mqtt = some mqtt →
      shown.cards.brokerStatus.view = brokerStatusRows formats mqtt) ∧
    (∀ brokers, shown.given.brokers = some brokers →
      shown.cards.deliveries.view = deliveriesRows brokers) ∧
    (∀ buckets, shown.given.history = some buckets → browser.chart = true →
      shown.cards.history.view = fillHistory formats buckets) ∧
    (∀ totals, shown.given.packetTypes = some totals →
      shown.cards.packetTypes.view.Tells browser totals) ∧
    (∀ name counts, find? name shown.given.bots = some counts →
      ∃ memo, find? name shown.cards.botCommandBlocks = some memo ∧ memo.view.Tells counts ∧
        memo.view.Watched browser shown.page.currentView ∧
        ∀ status, find? name shown.given.status = some status →
          memo.view.statusBadge = some (BotCard.statusCell status)) := by
  have upToDate := (faithful_of_reachable reachable).cards
  refine ⟨upToDate.mqtt, upToDate.brokers, upToDate.buckets, upToDate.totals, ?_⟩
  intro name counts isGiven
  rcases upToDate.blocks.tells name counts isGiven with ⟨memo, found, tells⟩
  refine ⟨memo, found, tells, upToDate.blocks.watched name memo found, ?_⟩
  intro status known
  exact upToDate.badges name memo status found known

/-- A browser with the charts and the observer. -/
def fullBrowser : Browser := ⟨true, true⟩

def plainFormats : Formats := ⟨id, Text.ofInt, Text.ofInt⟩

def weatherCounts : BotCounts := ⟨[⟨"!wx".toList, 2⟩, ⟨"!help".toList, 0⟩], 2⟩

def twoAdverts : PageData :=
  .packets [⟨0, 60000, 3, 2, [("advert".toList, 2)]⟩] [("advert".toList, 2)]

/-- A bot is shown before its chart is, and the packets once their charts are. -/
def botThenPackets : List ShownEvent :=
  [.live (some ⟨[], [("weather".toList, ⟨true, true⟩)]⟩), .other (.fetched 0 true),
    .read 0 (.bots [("weather".toList, weatherCounts)]) 1000, .intersects "weather".toList,
    .other (.navigate .packets true), .other (.fetched 2 true), .read 2 twoAdverts 2000]

theorem botThenPackets_ran :
    ((shownPageSystem plainFormats fullBrowser).run EventSystem.anyStep
      (bootstrap fullBrowser .bots) botThenPackets).isSome := by
  decide +kernel

/-- The page at the end of that run. -/
def shownPackets : ShownPage :=
  ((shownPageSystem plainFormats fullBrowser).run EventSystem.anyStep
    (bootstrap fullBrowser .bots) botThenPackets).get botThenPackets_ran

theorem reachable_shownPackets :
    (shownPageSystem plainFormats fullBrowser).Reachable shownPackets := by
  apply EventSystem.reachableWhen_get ?_ botThenPackets_ran
  exact ⟨.bots, rfl⟩

theorem cards_up_to_date_of_botThenPackets :
    shownPackets.cards.packetTypes.view.pie = some [2, 0, 0, 0, 0, 0, 0, 0] ∧
      ∃ memo, find? "weather".toList shownPackets.cards.botCommandBlocks = some memo ∧
        memo.view.Tells weatherCounts := by
  have upToDate := cards_up_to_date reachable_shownPackets
  have types := upToDate.2.2.2.1 [("advert".toList, 2)] (by decide +kernel)
  rcases upToDate.2.2.2.2 "weather".toList weatherCounts (by decide +kernel) with
    ⟨memo, found, tells, _⟩
  refine ⟨types.pie.trans ?_, memo, found, tells⟩
  decide +kernel

end ShownPage

end MeshcoreObserver
