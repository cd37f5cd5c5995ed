import MeshcoreObserver.Web.DashboardCards
import MeshcoreObserver.Web.RefreshOrder

/-!
# The page with its cards

The requests of the page together with what they render: live updates, responses of
the dashboard endpoint and the operator's navigation reach the cards in any order. A
response may be rendered after the operator has turned to another view.

Data that makes a renderer throw is left out; the server sends none.
-/

namespace MeshcoreObserver

open Counting Transition

/-- Whether Chart.js has been loaded, and whether the browser has `IntersectionObserver`. -/
structure Browser where
  chart : Bool
  observer : Bool
  deriving DecidableEq, Repr

structure DashboardCards where
  packetChartsInitialized : Bool
  brokerStatus : Memo Text (List (List Cell))
  deliveries : Memo Text (List (List Cell))
  history : Memo Text HistoryView
  packetTypes : Memo Text PacketTypesView
  botCommandBlocks : List (Text × Memo Text BotCard)
  latestBotStatusByName : List (Text × BotStatus)
  deriving DecidableEq

namespace DashboardCards

variable (formats : Formats) (browser : Browser)

/-- The cards of the HTML. -/
def blank : DashboardCards :=
  { packetChartsInitialized := false
    brokerStatus := ⟨none, []⟩
    deliveries := ⟨none, []⟩
    history := ⟨none, ⟨none, [], []⟩⟩
    packetTypes := ⟨none, ⟨[], [], none⟩⟩
    botCommandBlocks := []
    latestBotStatusByName := [] }

def mapBlocks (cards : DashboardCards) (change : Text → BotCard → BotCard) : DashboardCards :=
  { cards with
    botCommandBlocks := cards.botCommandBlocks.map fun block =>
      (block.1, { block.2 with view := change block.1 block.2.view }) }

def applyBotStatusBadges (cards : DashboardCards) : DashboardCards :=
  cards.mapBlocks fun botName => BotCard.applyBadge (find? botName cards.latestBotStatusByName)

def renderSnapshot (cards : DashboardCards) (snapshot : LiveSnapshot) : DashboardCards :=
  applyBotStatusBadges
    { cards with
      brokerStatus := (brokerStatusRenderer formats).offer cards.brokerStatus snapshot.mqtt
      latestBotStatusByName :=
        snapshot.bots.foldl (fun latest bot => update bot.1 (fun _ => bot.2) latest)
          cards.latestBotStatusByName }

/-- The two charts, before they have any data. -/
def initChart (cards : DashboardCards) : DashboardCards :=
  if browser.chart then
    { cards with
      history := { cards.history with
        view := { cards.history.view with chart := some ⟨[], [], bucketKeys.map fun _ => []⟩ } }
      packetTypes := { cards.packetTypes with
        view := { cards.packetTypes.view with pie := some (bucketKeys.map fun _ => 0) } } }
  else cards

def ensurePacketChartsInitialized (cards : DashboardCards) : DashboardCards :=
  if cards.packetChartsInitialized then cards
  else initChart browser { cards with packetChartsInitialized := true }

def renderChart (cards : DashboardCards) (buckets : List ChartBucket) : DashboardCards :=
  if cards.history.view.chart.isSome then
    { cards with history := (historyRenderer formats).offer cards.history buckets }
  else cards

def renderPacketTypes (cards : DashboardCards) (totals : List (Text × Int)) : DashboardCards :=
  { cards with packetTypes := packetTypesRenderer.offer cards.packetTypes totals }

def renderBrokerDeliveries (cards : DashboardCards) (brokers : List BrokerDeliveries) :
    DashboardCards :=
  { cards with deliveries := deliveriesRenderer.offer cards.deliveries brokers }

def initializeBotChart (card : BotCard) : BotCard :=
  if browser.chart then card.initializeBotChart else card

def observeBotChart (currentView : DashboardView) (card : BotCard) : BotCard :=
  if card.chart.isSome then card
  else if browser.observer && browser.chart then { card with observed := true }
  else if !browser.observer && currentView = .bots then initializeBotChart browser card
  else card

def renderBot (currentView : DashboardView) (counts : BotCounts) (memo : Memo Text BotCard) :
    Memo Text BotCard :=
  if memo.last = some (botCardRenderer.signature counts) then memo
  else
    let filled := botCardRenderer.offer memo counts
    { filled with view := observeBotChart browser currentView filled.view }

def renderBotCommands (cards : DashboardCards) (currentView : DashboardView)
    (bots : List (Text × BotCounts)) : DashboardCards :=
  applyBotStatusBadges
    { cards with
      botCommandBlocks :=
        bots.foldl
          (fun blocks bot =>
            update bot.1
              (fun block => renderBot browser currentView bot.2 (block.getD ⟨none, .build⟩)) blocks)
          cards.botCommandBlocks }

def renderDashboardView (cards : DashboardCards) (currentView : DashboardView) :
    PageData → DashboardCards
  | .overview => cards
  | .packets buckets totals => (cards.renderChart formats buckets).renderPacketTypes totals
  | .brokers brokers => cards.renderBrokerDeliveries brokers
  | .bots bots => cards.renderBotCommands browser currentView bots
  | .repeaters => cards

/-- The charts that `showDashboardView` creates. -/
def showView (cards : DashboardCards) (view : DashboardView) : DashboardCards :=
  if view = .packets then cards.ensurePacketChartsInitialized browser
  else if view = .bots && !browser.observer then
    cards.mapBlocks fun _ => initializeBotChart browser
  else cards

/-- A card has come near the viewport. -/
def intersect (cards : DashboardCards) (botName : Text) : Option DashboardCards :=
  match find? botName cards.botCommandBlocks with
  | none => none
  | some memo =>
      if memo.view.observed then
        some (cards.mapBlocks fun name card =>
          if name = botName then { initializeBotChart browser card with observed := false }
          else card)
      else none

end DashboardCards

/-- What has come in last for each card. -/
structure GivenData where
  mqtt : Option (List (Text × BrokerStatus))
  brokers : Option (List BrokerDeliveries)
  history : Option (List ChartBucket)
  packetTypes : Option (List (Text × Int))
  bots : List (Text × BotCounts)
  status : List (Text × BotStatus)
  deriving DecidableEq, Repr

namespace GivenData

def nothing : GivenData :=
  { mqtt := none
    brokers := none
    history := none
    packetTypes := none
    bots := []
    status := [] }

def live (given : GivenData) (snapshot : LiveSnapshot) : GivenData :=
  { given with
    mqtt := some snapshot.mqtt
    status := snapshot.bots.foldl (fun status bot => update bot.1 (fun _ => bot.2) status)
      given.status }

def response (given : GivenData) : PageData → GivenData
  | .overview => given
  | .packets buckets totals => { given with history := some buckets, packetTypes := some totals }
  | .brokers brokers => { given with brokers := some brokers }
  | .bots bots =>
      { given with
        bots := bots.foldl (fun given bot => update bot.1 (fun _ => bot.2) given) given.bots }
  | .repeaters => given

end GivenData

/-- `given` is no part of the page: it is what the cards are compared with. -/
structure ShownPage where
  page : DashboardPage
  cards : DashboardCards
  given : GivenData
  deriving DecidableEq

inductive ShownEvent where
  /-- A live update, unless it is one that is not valid. -/
  | live (snapshot : Option LiveSnapshot)
  /-- The response of a request, with data for its view. -/
  | read (number : Nat) (data : PageData) (now : Int)
  | intersects (botName : Text)
  /-- What else happens to the page, if it renders nothing. -/
  | other (event : PageEvent)
  deriving DecidableEq, Repr

namespace ShownPage

variable (formats : Formats) (browser : Browser)

def showDashboardView (shown : ShownPage) (view : DashboardView) : ShownPage :=
  { shown with
    page := shown.page.showDashboardView view
    cards := shown.cards.showView browser view }

/-- The page once `bootstrap()` has shown the view of its address. -/
def bootstrap (view : DashboardView) : ShownPage :=
  showDashboardView browser { page := .blank, cards := .blank, given := .nothing } view

def read (shown : ShownPage) (number : Nat) (data : PageData) (now : Int) : Option ShownPage :=
  (shown.page.read number (some ⟨data.view.name, true⟩) true now).map fun page =>
    if page.renders.length = shown.page.renders.length then { shown with page }
    else
      { page
        cards := shown.cards.renderDashboardView formats browser shown.page.currentView data
        given := shown.given.response data }

/-- A step of the page that renders nothing. -/
def unrendered (shown : ShownPage) (event : PageEvent) : Option ShownPage :=
  (shown.page.step event).bind fun page =>
    if page.renders.length = shown.page.renders.length then some { shown with page } else none

def other (shown : ShownPage) : PageEvent → Option ShownPage
  | .navigate view pushHistory =>
      if pushHistory ∧ view = shown.page.currentView then some shown
      else some (shown.showDashboardView browser view)
  | event => shown.unrendered event

def step (shown : ShownPage) : ShownEvent → Option ShownPage
  | .live snapshot =>
      (shown.page.step .liveUpdate).map fun page =>
        match snapshot with
        | none => { shown with page }
        | some snapshot =>
            { page
              cards := shown.cards.renderSnapshot formats snapshot
              given := shown.given.live snapshot }
  | .read number data now => shown.read formats browser number data now
  | .intersects botName =>
      (shown.cards.intersect browser botName).map fun cards => { shown with cards }
  | .other event => shown.other browser event

end ShownPage

/-- Every run of a page in one browser. -/
def shownPageSystem (formats : Formats) (browser : Browser) :
    EventSystem ShownPage ShownEvent where
  Initial shown := ∃ view, shown = .bootstrap browser view
  step := ShownPage.step formats browser

end MeshcoreObserver
