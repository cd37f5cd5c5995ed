import MeshcoreObserver.Web.RangeRefresh

/-!
# The order of the refreshes

Whatever the order in which fetches, bodies, live updates and the operator come
in, the page has one request under way at most, its latest one. Only that request
is rendered, so no data is replaced by older data, and it is data of the view on
display. No live update is missed: either the latest request was started after
it, or a request is under way with a follow-up behind it.

Opening the form of the custom range selects `custom` without a request, so that
the request under way is still rendered then; as long as no custom range has been
applied, no request is started at all.
-/

namespace MeshcoreObserver

open Transition

/-- Under way, with a result that is still wanted. -/
def RangeRequest.Live (request : RangeRequest) : Prop :=
  request.aborted = false ∧ request.stage ≠ .finished

/-- What is asked for is what the page shows: its view, and its range, whether that is a preset one
or the custom one that was applied, unless the custom form was opened since. -/
structure AsksFor (request : RangeRequest) (currentView : DashboardView) (range : RangeState)
    (openings : Nat) : Prop where
  view : (resolveRangeQuery range).isSome → request.view = currentView
  preset : range.range ≠ "custom".toList → resolveRangeQuery range = some request.params
  params : openings = request.openings → resolveRangeQuery range = some request.params

theorem AsksFor.opened {request : RangeRequest} {currentView : DashboardView} {range : RangeState}
    {openings : Nat} (asks : AsksFor request currentView range openings)
    (unresolved : resolveRangeQuery range = none) : openings ≠ request.openings := by
  intro same
  rw [asks.params same] at unresolved
  cases unresolved

/-- Rendered as the latest request there was, and not an aborted one. -/
structure RenderMark.Latest (mark : RenderMark) : Prop where
  generation : mark.request.generation = mark.latest
  kept : mark.request.aborted = false
  asks : AsksFor mark.request mark.currentView mark.range mark.openings

namespace DashboardPage

/-- The request under way is the latest one, and it is the one the page holds. -/
structure UnderWay (page : DashboardPage) : Prop where
  refresh : page.activeRangeRefresh = page.activeRangeController
  generation : page.rangeRefreshGeneration = page.requests.length
  numbered : ∀ number request, page.requests[number]? = some request →
    request.generation = number + 1
  latest : ∀ number, page.activeRangeController = some number → number + 1 = page.requests.length
  live : ∀ number request, page.requests[number]? = some request →
    (request.Live ↔ page.activeRangeController = some number)
  queued : page.rangeRefreshQueued = true → page.activeRangeController.isSome

structure Coherent (page : DashboardPage) : Prop extends page.UnderWay where
  loading : page.activeRangeController.isSome ↔
    ∃ view, page.rangeDataStatus = some (.loading, view)

/-- The latest request asks for what the page shows, and no live update is missed. -/
structure Fresh (page : DashboardPage) : Prop where
  asks : ∀ request, page.requests.getLast? = some request → page.activeRangeController.isSome →
    AsksFor request page.currentView page.range page.openings
  covers : (resolveRangeQuery page.range).isSome → page.rangeRefreshQueued = false →
    ∃ request, page.requests.getLast? = some request ∧ request.updates = page.updates
  counted : ∀ request, page.requests.getLast? = some request → request.openings ≤ page.openings

structure Rendered (page : DashboardPage) : Prop where
  latest : ∀ mark ∈ page.renders, mark.Latest
  ordered : page.renders.Pairwise fun later earlier =>
    earlier.request.generation < later.request.generation
  past : ∀ mark ∈ page.renders, mark.request.generation ≤ page.rangeRefreshGeneration

/-- The request under way is still to be rendered. -/
structure RendersInOrder (page : DashboardPage) : Prop extends page.Rendered where
  ahead : page.activeRangeController.isSome →
    ∀ mark ∈ page.renders, mark.request.generation < page.rangeRefreshGeneration

variable {page : DashboardPage}

theorem custom_of_unresolved {range : RangeState} (unresolved : resolveRangeQuery range = none) :
    range.range = "custom".toList := by
  by_contra preset
  rw [resolveRangeQuery, if_neg preset] at unresolved
  cases unresolved

/-- Without a range nothing is asked for, and the form was opened since the last request. -/
theorem fresh_of_unresolved (unresolved : resolveRangeQuery page.range = none)
    (opened : ∀ request, page.requests.getLast? = some request → page.activeRangeController.isSome →
      page.openings ≠ request.openings)
    (counted : ∀ request, page.requests.getLast? = some request →
      request.openings ≤ page.openings) : page.Fresh where
  asks request last active := by
    refine ⟨fun resolved => ?_, fun preset => absurd (custom_of_unresolved unresolved) preset,
      fun same => absurd same (opened request last active)⟩
    rw [unresolved] at resolved
    cases resolved
  covers resolved := by
    rw [unresolved] at resolved
    cases resolved
  counted := counted

/-- No request is under way, whatever the controller of the page says. -/
structure Quiet (page : DashboardPage) : Prop where
  generation : page.rangeRefreshGeneration = page.requests.length
  numbered : ∀ number request, page.requests[number]? = some request →
    request.generation = number + 1
  dead : ∀ request ∈ page.requests, ¬ request.Live

theorem UnderWay.quiet (coherent : page.UnderWay) (idle : page.activeRangeController = none) :
    page.Quiet where
  generation := coherent.generation
  numbered := coherent.numbered
  dead request requestMem live := by
    rcases List.mem_iff_getElem?.mp requestMem with ⟨number, found⟩
    have active := (coherent.live number request found).mp live
    rw [idle] at active
    cases active

theorem UnderWay.quiet_abortActive (coherent : page.UnderWay) : page.abortActive.Quiet := by
  cases active : page.activeRangeController with
  | none =>
      rw [abortActive, active]
      exact coherent.quiet active
  | some aborted =>
      have requests : page.abortActive.requests =
          page.requests.modify aborted fun request => { request with aborted := true } := by
        rw [abortActive, active]
      have generation : page.abortActive.rangeRefreshGeneration = page.rangeRefreshGeneration := by
        rw [abortActive, active]
      refine ⟨?_, ?_, ?_⟩
      · rw [generation, requests, List.length_modify, coherent.generation]
      · intro number request found
        rw [requests, List.getElem?_modify] at found
        rcases Option.map_eq_some_iff.mp found with ⟨before, foundBefore, rfl⟩
        have numbered := coherent.numbered number before foundBefore
        split
        · exact numbered
        · exact numbered
      · intro request requestMem live
        rcases List.mem_iff_getElem?.mp requestMem with ⟨number, found⟩
        rw [requests, List.getElem?_modify] at found
        rcases Option.map_eq_some_iff.mp found with ⟨before, foundBefore, rfl⟩
        split at live
        · cases live.1
        · rename_i other
          have same := (coherent.live number before foundBefore).mp live
          rw [active] at same
          exact other (Option.some.inj same)

section Start

variable {params : List (Text × Text)}

theorem Quiet.startRequest (quiet : page.Quiet) : (page.startRequest params).Coherent where
  refresh := rfl
  generation := by
    simp only [DashboardPage.startRequest, List.length_append, List.length_singleton,
      quiet.generation]
  numbered number request found := by
    simp only [DashboardPage.startRequest] at found
    rcases Nat.lt_trichotomy number page.requests.length with before | rfl | after
    · rw [List.getElem?_append_left before] at found
      exact quiet.numbered number request found
    · rw [List.getElem?_concat_length, Option.some.injEq] at found
      rw [← found, quiet.generation]
    · rw [List.getElem?_eq_none (by simp only [List.length_append, List.length_singleton]; omega)]
        at found
      cases found
  latest number active := by
    simp only [DashboardPage.startRequest, Option.some.injEq] at active
    simp only [DashboardPage.startRequest, List.length_append, List.length_singleton, active]
  live number request found := by
    simp only [DashboardPage.startRequest] at found ⊢
    rcases Nat.lt_trichotomy number page.requests.length with before | rfl | after
    · rw [List.getElem?_append_left before] at found
      have dead := quiet.dead request (List.mem_iff_getElem?.mpr ⟨number, found⟩)
      refine ⟨fun live => absurd live dead, fun active => ?_⟩
      rw [Option.some.injEq] at active
      omega
    · rw [List.getElem?_concat_length, Option.some.injEq] at found
      subst found
      exact ⟨fun _ => rfl, fun _ => ⟨rfl, fun finished => by cases finished⟩⟩
    · rw [List.getElem?_eq_none (by simp only [List.length_append, List.length_singleton]; omega)]
        at found
      cases found
  queued _ := rfl
  loading := ⟨fun _ => ⟨page.currentView, rfl⟩, fun _ => rfl⟩

theorem fresh_startRequest (resolved : resolveRangeQuery page.range = some params) :
    (page.startRequest params).Fresh where
  asks request last _ := by
    simp only [startRequest, List.getLast?_concat, Option.some.injEq] at last
    subst last
    exact ⟨fun _ => rfl, fun _ => resolved, fun _ => resolved⟩
  covers _ _ := by
    simp only [startRequest, List.getLast?_concat, Option.some.injEq, exists_eq_left']
  counted request last := by
    simp only [startRequest, List.getLast?_concat, Option.some.injEq] at last
    subst last
    exact Nat.le_refl _

end Start

theorem Coherent.refreshRangeData (coherent : page.Coherent) (supersede : Bool) :
    (page.refreshRangeData supersede).Coherent := by
  rw [DashboardPage.refreshRangeData]
  split
  · exact coherent
  · split
    · rename_i underWay
      split
      · exact coherent.quiet_abortActive.startRequest
      · exact
          { refresh := coherent.refresh
            generation := coherent.generation
            numbered := coherent.numbered
            latest := coherent.latest
            live := coherent.live
            queued := fun _ => coherent.refresh ▸ underWay
            loading := coherent.loading }
    · rename_i idle
      rw [coherent.refresh, Bool.not_eq_true, Option.isSome_eq_false_iff, Option.isNone_iff_eq_none]
        at idle
      exact (coherent.quiet idle).startRequest

theorem range_abortActive : page.abortActive.range = page.range := by
  rw [abortActive]
  split
  · rfl
  · rfl

theorem fresh_supersede (opened : resolveRangeQuery page.range = none →
      ∀ request, page.requests.getLast? = some request → page.activeRangeController.isSome →
        page.openings ≠ request.openings)
    (counted : ∀ request, page.requests.getLast? = some request →
      request.openings ≤ page.openings) : (page.refreshRangeData true).Fresh := by
  rw [refreshRangeData]
  split
  · rename_i unresolved
    exact fresh_of_unresolved unresolved (opened unresolved) counted
  · rename_i params resolved
    split
    · refine fresh_startRequest ?_
      rw [range_abortActive, resolved]
    · exact fresh_startRequest resolved

/-- A live update starts a request, or is left to the follow-up of the one under way. -/
theorem Fresh.refreshRangeData (asks : ∀ request, page.requests.getLast? = some request →
      page.activeRangeController.isSome →
      AsksFor request page.currentView page.range page.openings)
    (counted : ∀ request, page.requests.getLast? = some request →
      request.openings ≤ page.openings) : (page.refreshRangeData false).Fresh := by
  rw [DashboardPage.refreshRangeData]
  split
  · rename_i unresolved
    exact fresh_of_unresolved unresolved
      (fun request last active => (asks request last active).opened unresolved) counted
  · rename_i params resolved
    split
    · exact ⟨asks, (fun _ queued => by cases queued), counted⟩
    · exact fresh_startRequest resolved

/-- The page goes on without rendering: the latest request is the same one, or a new one. -/
def GoesOn (before after : DashboardPage) : Prop :=
  after.renders = before.renders ∧
    (before.rangeRefreshGeneration < after.rangeRefreshGeneration ∨
      after.rangeRefreshGeneration = before.rangeRefreshGeneration ∧
        (after.activeRangeController.isSome → before.activeRangeController.isSome))

theorem renders_abortActive : page.abortActive.renders = page.renders := by
  rw [abortActive]
  split
  · rfl
  · rfl

theorem generation_abortActive :
    page.abortActive.rangeRefreshGeneration = page.rangeRefreshGeneration := by
  rw [abortActive]
  split
  · rfl
  · rfl

theorem goesOn_refreshRangeData (supersede : Bool) :
    GoesOn page (page.refreshRangeData supersede) := by
  rw [refreshRangeData]
  split
  · exact ⟨rfl, .inr ⟨rfl, id⟩⟩
  · split
    · split
      · refine ⟨renders_abortActive, .inl ?_⟩
        simp only [startRequest, generation_abortActive]
        omega
      · exact ⟨rfl, .inr ⟨rfl, id⟩⟩
    · exact ⟨rfl, .inl (Nat.lt_succ_self _)⟩

theorem RendersInOrder.goesOn {after : DashboardPage} (inOrder : page.RendersInOrder)
    (goesOn : GoesOn page after) : after.RendersInOrder := by
  rcases goesOn with ⟨renders, onward⟩
  refine ⟨⟨renders ▸ inOrder.latest, renders ▸ inOrder.ordered, ?_⟩, ?_⟩
  · intro mark markMem
    have past := inOrder.past mark (renders ▸ markMem)
    omega
  · intro active mark markMem
    have past := inOrder.past mark (renders ▸ markMem)
    rcases onward with newer | ⟨same, activeBefore⟩
    · omega
    · have ahead := inOrder.ahead (activeBefore active) mark (renders ▸ markMem)
      omega

section Settle

variable {number : Nat} {stage : RequestStage}

theorem getElem?_setStage {other : Nat} :
    (page.setStage number stage).requests[other]? =
      (page.requests[other]?).map fun request =>
        if number = other then { request with stage } else request := by
  rw [setStage, List.getElem?_modify]
  rfl

theorem getLast?_setStage :
    (page.setStage number stage).requests.getLast? =
      (page.requests.getLast?).map fun request =>
        if number = page.requests.length - 1 then { request with stage } else request := by
  rw [List.getLast?_eq_getElem?, List.getLast?_eq_getElem?, getElem?_setStage, setStage,
    List.length_modify]

theorem numbered_setStage (numbered : ∀ number request, page.requests[number]? = some request →
    request.generation = number + 1) (other : Nat) (request : RangeRequest)
    (found : (page.setStage number stage).requests[other]? = some request) :
    request.generation = other + 1 := by
  rw [getElem?_setStage] at found
  rcases Option.map_eq_some_iff.mp found with ⟨before, foundBefore, rfl⟩
  have same := numbered other before foundBefore
  split
  · exact same
  · exact same

theorem length_setStage :
    (page.setStage number stage).requests.length = page.requests.length :=
  List.length_modify _ _ _

/-- A stage may change as long as the request stays under way, or stays out of the way. -/
theorem UnderWay.setStage (underWay : page.UnderWay)
    (kept : ∀ request, page.requests[number]? = some request →
      (RangeRequest.Live { request with stage } ↔ request.Live)) :
    (page.setStage number stage).UnderWay where
  refresh := underWay.refresh
  generation := by
    rw [length_setStage]
    exact underWay.generation
  numbered := numbered_setStage underWay.numbered
  latest other active := by
    rw [length_setStage]
    exact underWay.latest other active
  live other request found := by
    rw [getElem?_setStage] at found
    rcases Option.map_eq_some_iff.mp found with ⟨before, foundBefore, rfl⟩
    have live := underWay.live other before foundBefore
    split
    · rename_i same
      subst other
      exact (kept before foundBefore).trans live
    · exact live
  queued := underWay.queued

theorem Coherent.setStage (coherent : page.Coherent)
    (kept : ∀ request, page.requests[number]? = some request →
      (RangeRequest.Live { request with stage } ↔ request.Live)) :
    (page.setStage number stage).Coherent :=
  ⟨coherent.toUnderWay.setStage kept, coherent.loading⟩

/-- Once the request under way has finished, no request is under way. -/
theorem UnderWay.quiet_setStage (underWay : page.UnderWay)
    (active : page.activeRangeController = some number) :
    (page.setStage number .finished).Quiet where
  generation := by
    rw [length_setStage]
    exact underWay.generation
  numbered := numbered_setStage underWay.numbered
  dead request requestMem live := by
    rcases List.mem_iff_getElem?.mp requestMem with ⟨other, found⟩
    rw [getElem?_setStage] at found
    rcases Option.map_eq_some_iff.mp found with ⟨before, foundBefore, rfl⟩
    split at live
    · exact live.2 rfl
    · rename_i apart
      have same := (underWay.live other before foundBefore).mp live
      rw [active] at same
      exact apart (Option.some.inj same)

/-- A page that has let go of its controller. -/
theorem Quiet.coherent (quiet : page.Quiet) (refresh : page.activeRangeRefresh = none)
    (controller : page.activeRangeController = none) (queued : page.rangeRefreshQueued = false)
    (told : ∀ view, page.rangeDataStatus ≠ some (.loading, view)) : page.Coherent where
  refresh := refresh.trans controller.symm
  generation := quiet.generation
  numbered := quiet.numbered
  latest number active := by
    rw [controller] at active
    cases active
  live number request found := by
    have dead := quiet.dead request (List.mem_iff_getElem?.mpr ⟨number, found⟩)
    refine ⟨fun live => absurd live dead, fun active => ?_⟩
    rw [controller] at active
    cases active
  queued queuedOn := by
    rw [queued] at queuedOn
    cases queuedOn
  loading := by
    rw [controller]
    refine ⟨fun active => ?_, fun ⟨view, loading⟩ => absurd loading (told view)⟩
    cases active

/-- The page after the request under way, without the follow-up. -/
def idleAfter (page : DashboardPage) (number : Nat) : DashboardPage :=
  { page.setStage number .finished with
    activeRangeController := none
    activeRangeRefresh := none
    rangeRefreshQueued := false }

theorem settle_active (active : page.activeRangeController = some number) :
    page.settle number =
      if page.rangeRefreshQueued then (page.idleAfter number).refreshRangeData false
      else page.idleAfter number := by
  cases queued : page.rangeRefreshQueued with
  | true =>
      rw [settle, if_pos active, if_pos queued, if_pos rfl]
      rfl
  | false =>
      have same : page.idleAfter number =
          { page.setStage number .finished with
            activeRangeController := none
            activeRangeRefresh := none } := by
        rw [idleAfter, ← queued]
        rfl
      rw [settle, if_pos active, queued, if_neg Bool.false_ne_true, if_neg Bool.false_ne_true, same]

theorem settle_inactive (inactive : page.activeRangeController ≠ some number) :
    page.settle number = page.setStage number .finished :=
  if_neg inactive

theorem UnderWay.settle_active (underWay : page.UnderWay)
    (active : page.activeRangeController = some number)
    (told : ∀ view, page.rangeDataStatus ≠ some (.loading, view)) :
    (page.settle number).Coherent := by
  have quiet := underWay.quiet_setStage active
  have idle : (page.idleAfter number).Coherent :=
    Quiet.coherent ⟨quiet.generation, quiet.numbered, quiet.dead⟩ rfl rfl rfl told
  rw [DashboardPage.settle_active active]
  split
  · exact idle.refreshRangeData false
  · exact idle

theorem Coherent.settle_inactive (coherent : page.Coherent)
    (inactive : page.activeRangeController ≠ some number) : (page.settle number).Coherent := by
  rw [DashboardPage.settle_inactive inactive]
  refine coherent.setStage fun request found => ?_
  have dead : ¬ request.Live := fun live =>
    inactive ((coherent.live number request found).mp live)
  exact ⟨fun live => absurd rfl live.2, fun live => absurd live dead⟩

theorem Fresh.setStage (fresh : page.Fresh) : (page.setStage number stage).Fresh where
  asks request last active := by
    rw [getLast?_setStage] at last
    rcases Option.map_eq_some_iff.mp last with ⟨before, lastBefore, rfl⟩
    have asks := fresh.asks before lastBefore active
    split
    · exact ⟨asks.view, asks.preset, asks.params⟩
    · exact asks
  covers resolved queued := by
    rcases fresh.covers resolved queued with ⟨before, lastBefore, updates⟩
    rw [getLast?_setStage, lastBefore]
    refine ⟨_, rfl, ?_⟩
    split
    · exact updates
    · exact updates
  counted request last := by
    rw [getLast?_setStage] at last
    rcases Option.map_eq_some_iff.mp last with ⟨before, lastBefore, rfl⟩
    have counted := fresh.counted before lastBefore
    split
    · exact counted
    · exact counted

theorem Fresh.settle (fresh : page.Fresh) : (page.settle number).Fresh := by
  by_cases active : page.activeRangeController = some number
  · have staged : (page.setStage number .finished).Fresh := fresh.setStage
    rw [settle_active active]
    split
    · refine Fresh.refreshRangeData (fun request last idle => ?_) staged.counted
      cases idle
    · rename_i queued
      refine ⟨fun request last idle => ?_, fun resolved _ => ?_, staged.counted⟩
      · cases idle
      · exact staged.covers resolved (Bool.eq_false_iff.mpr queued)
  · rw [settle_inactive active]
    exact fresh.setStage

theorem goesOn_settle_inactive (inactive : page.activeRangeController ≠ some number) :
    GoesOn page (page.settle number) := by
  rw [settle_inactive inactive]
  exact ⟨rfl, .inr ⟨rfl, id⟩⟩

/-- Ending the request under way leaves none under way, or starts a newer one. -/
theorem settle_onward (active : page.activeRangeController = some number) :
    (page.settle number).renders = page.renders ∧
      (page.rangeRefreshGeneration < (page.settle number).rangeRefreshGeneration ∨
        (page.settle number).rangeRefreshGeneration = page.rangeRefreshGeneration ∧
          (page.settle number).activeRangeController = none) := by
  rw [settle_active active]
  split
  · have goesOn : GoesOn (page.idleAfter number) _ := goesOn_refreshRangeData false
    rcases goesOn with ⟨renders, onward⟩
    refine ⟨renders, ?_⟩
    rcases onward with newer | ⟨same, idle⟩
    · exact .inl newer
    · refine .inr ⟨same, ?_⟩
      by_contra some
      have := idle (Option.isSome_iff_ne_none.mpr some)
      cases this
  · exact ⟨rfl, .inr ⟨rfl, rfl⟩⟩

end Settle

structure Steady (page : DashboardPage) : Prop where
  coherent : page.Coherent
  fresh : page.Fresh
  inOrder : page.RendersInOrder

theorem Coherent.shown (coherent : page.Coherent) (currentView : DashboardView)
    (range : RangeState) (updates openings : Nat) :
    ({ page with currentView, range, updates, openings } : DashboardPage).Coherent :=
  ⟨⟨coherent.refresh, coherent.generation, coherent.numbered, coherent.latest, coherent.live,
    coherent.queued⟩, coherent.loading⟩

theorem UnderWay.told (underWay : page.UnderWay) (renders : List RenderMark)
    (lastRangeSuccessByView : List (DashboardView × Int))
    (rangeDataStatus : Option (DataStatus × DashboardView)) :
    ({ page with renders, lastRangeSuccessByView, rangeDataStatus } : DashboardPage).UnderWay :=
  ⟨underWay.refresh, underWay.generation, underWay.numbered, underWay.latest, underWay.live,
    underWay.queued⟩

theorem RendersInOrder.shown (inOrder : page.RendersInOrder) (currentView : DashboardView)
    (range : RangeState) (updates openings : Nat) :
    ({ page with currentView, range, updates, openings } : DashboardPage).RendersInOrder :=
  ⟨⟨inOrder.latest, inOrder.ordered, inOrder.past⟩, inOrder.ahead⟩

/-- A new view or range: what was under way before does not matter. No new range is one that there
is nothing to ask for. -/
theorem Steady.supersede (steady : page.Steady) (currentView : DashboardView) (range : RangeState)
    (kept : resolveRangeQuery range = none → resolveRangeQuery page.range = none) :
    (({ page with currentView, range } : DashboardPage).refreshRangeData true).Steady where
  coherent :=
    (steady.coherent.shown currentView range page.updates page.openings).refreshRangeData true
  fresh := fresh_supersede (fun unresolved request last active =>
    (steady.fresh.asks request last active).opened (kept unresolved)) steady.fresh.counted
  inOrder :=
    (steady.inOrder.shown currentView range page.updates page.openings).goesOn
      (goesOn_refreshRangeData true)

theorem Steady.liveUpdate (steady : page.Steady) :
    (({ page with updates := page.updates + 1 } : DashboardPage).refreshRangeData
      false).Steady where
  coherent :=
    (steady.coherent.shown page.currentView page.range (page.updates + 1)
      page.openings).refreshRangeData false
  fresh := Fresh.refreshRangeData steady.fresh.asks steady.fresh.counted
  inOrder :=
    (steady.inOrder.shown page.currentView page.range (page.updates + 1) page.openings).goesOn
      (goesOn_refreshRangeData false)

theorem Steady.openCustomRange (steady : page.Steady) : page.openCustomRange.Steady where
  coherent := steady.coherent.shown page.currentView _ page.updates _
  fresh := by
    have viewKept (resolved : (resolveRangeQuery page.openCustomRange.range).isSome) :
        (resolveRangeQuery page.range).isSome := by
      by_cases custom : page.range.range = "custom".toList
      · rw [DashboardPage.openCustomRange, ← custom] at resolved
        exact resolved
      · rw [resolveRangeQuery, if_neg custom]
        rfl
    refine ⟨fun request last active => ⟨fun resolved => ?_, fun preset => absurd rfl preset,
        fun same => ?_⟩, fun resolved queued => steady.fresh.covers (viewKept resolved) queued,
      fun request last => Nat.le_succ_of_le (steady.fresh.counted request last)⟩
    · exact (steady.fresh.asks request last active).view (viewKept resolved)
    · have earlier := steady.fresh.counted request last
      simp only [DashboardPage.openCustomRange] at same
      omega
  inOrder := steady.inOrder.shown page.currentView _ page.updates _

section Requests

variable {number : Nat} {request : RangeRequest}

theorem UnderWay.getLast?_of_active (underWay : page.UnderWay)
    (found : page.requests[number]? = some request)
    (active : page.activeRangeController = some number) :
    page.requests.getLast? = some request := by
  have last := underWay.latest number active
  rw [List.getLast?_eq_getElem?, ← last, Nat.add_sub_cancel, found]

theorem UnderWay.generation_of_active (underWay : page.UnderWay)
    (found : page.requests[number]? = some request)
    (active : page.activeRangeController = some number) :
    request.generation = page.rangeRefreshGeneration := by
  rw [underWay.numbered number request found, underWay.latest number active, underWay.generation]

/-- The end of the request under way, after anything it has rendered and told. -/
theorem steady_settle_active (underWay : page.UnderWay) (fresh : page.Fresh)
    (rendered : page.Rendered) (active : page.activeRangeController = some number)
    (told : ∀ view, page.rangeDataStatus ≠ some (.loading, view)) :
    (page.settle number).Steady where
  coherent := underWay.settle_active active told
  fresh := fresh.settle
  inOrder := by
    rcases settle_onward active with ⟨renders, onward⟩
    refine ⟨⟨renders ▸ rendered.latest, renders ▸ rendered.ordered, ?_⟩, ?_⟩
    · intro mark markMem
      have past := rendered.past mark (renders ▸ markMem)
      omega
    · intro underWayAfter mark markMem
      have past := rendered.past mark (renders ▸ markMem)
      rcases onward with newer | ⟨_, idle⟩
      · omega
      · rw [idle] at underWayAfter
        cases underWayAfter

theorem Steady.settle_inactive (steady : page.Steady)
    (inactive : page.activeRangeController ≠ some number) : (page.settle number).Steady where
  coherent := steady.coherent.settle_inactive inactive
  fresh := steady.fresh.settle
  inOrder := steady.inOrder.goesOn (goesOn_settle_inactive inactive)

theorem Steady.active_iff (steady : page.Steady)
    (found : page.requests[number]? = some request) (going : request.stage ≠ .finished) :
    page.activeRangeController = some number ↔ request.aborted = false := by
  rw [← steady.coherent.live number request found]
  exact ⟨fun live => live.1, fun kept => ⟨kept, going⟩⟩

theorem Steady.requestFails (steady : page.Steady)
    (found : page.requests[number]? = some request) (going : request.stage ≠ .finished) :
    (page.requestFails number request).Steady := by
  rw [DashboardPage.requestFails]
  split
  · rename_i aborted
    refine steady.settle_inactive fun active => ?_
    rw [(steady.active_iff found going).mp active] at aborted
    cases aborted
  · rename_i kept
    have active := (steady.active_iff found going).mpr (Bool.eq_false_iff.mpr kept)
    have rendered := steady.inOrder.toRendered
    exact steady_settle_active
      (steady.coherent.told page.renders page.lastRangeSuccessByView (some (.error, request.view)))
      ⟨steady.fresh.asks, steady.fresh.covers, steady.fresh.counted⟩
      ⟨rendered.latest, rendered.ordered, rendered.past⟩ active
      fun view loading => by cases loading

/-- The request under way is the newest one, and asks for what is shown. -/
theorem Steady.render (steady : page.Steady) (found : page.requests[number]? = some request)
    (active : page.activeRangeController = some number) (kept : request.aborted = false) :
    (page.render request).Rendered := by
  have underWay := steady.coherent.toUnderWay
  have newest := underWay.generation_of_active found active
  have ahead := steady.inOrder.ahead (Option.isSome_of_eq_some active)
  refine ⟨?_, ?_, ?_⟩
  · intro mark markMem
    rcases List.mem_cons.mp markMem with rfl | earlier
    · exact ⟨newest, kept, steady.fresh.asks request (underWay.getLast?_of_active found active)
        (Option.isSome_of_eq_some active)⟩
    · exact steady.inOrder.latest mark earlier
  · refine List.pairwise_cons.mpr ⟨fun mark markMem => ?_, steady.inOrder.ordered⟩
    have older := ahead mark markMem
    rw [← newest] at older
    exact older
  · intro mark markMem
    rcases List.mem_cons.mp markMem with rfl | earlier
    · exact newest.le
    · exact steady.inOrder.past mark earlier

theorem Steady.fetched (steady : page.Steady) {ok : Bool} {after : DashboardPage}
    (settles : page.fetched number ok = some after) : after.Steady := by
  rw [DashboardPage.fetched] at settles
  split at settles
  · cases settles
  · rename_i request found
    rw [Option.ite_none_right_eq_some] at settles
    rcases settles with ⟨fetching, settles⟩
    have going : request.stage ≠ .finished := by
      rw [fetching]
      exact RequestStage.noConfusion
    rw [Option.some.injEq] at settles
    rw [← settles]
    split
    · refine ⟨steady.coherent.setStage ?_, steady.fresh.setStage,
        steady.inOrder.goesOn ⟨rfl, .inr ⟨rfl, id⟩⟩⟩
      intro other foundOther
      rw [found, Option.some.injEq] at foundOther
      subst other
      exact ⟨fun live => ⟨live.1, going⟩, fun live => ⟨live.1, RequestStage.noConfusion⟩⟩
    · exact steady.requestFails found going

theorem Steady.read (steady : page.Steady) {body : Option DashboardResponse} {renders : Bool}
    {now : Int} {after : DashboardPage} (settles : page.read number body renders now = some after) :
    after.Steady := by
  rw [DashboardPage.read] at settles
  split at settles
  · cases settles
  · rename_i request found
    rw [Option.ite_none_right_eq_some] at settles
    rcases settles with ⟨reading, settles⟩
    have going : request.stage ≠ .finished := by
      rw [reading]
      exact RequestStage.noConfusion
    have underWay := steady.coherent.toUnderWay
    rw [Option.some.injEq] at settles
    rw [← settles]
    split
    · split
      · rename_i unwanted
        refine steady.settle_inactive fun active => ?_
        rcases unwanted with aborted | outdated
        · rw [(steady.active_iff found going).mp active] at aborted
          cases aborted
        · exact outdated (underWay.generation_of_active found active)
      · rename_i wanted
        have kept : request.aborted = false := Bool.eq_false_iff.mpr fun aborted =>
          wanted (.inl aborted)
        have active := (steady.active_iff found going).mpr kept
        have rendered := steady.render found active kept
        split
        · exact steady_settle_active (underWay.told _ _ _)
            ⟨steady.fresh.asks, steady.fresh.covers, steady.fresh.counted⟩
            ⟨rendered.latest, rendered.ordered, rendered.past⟩ active
            fun view loading => by cases loading
        · rw [DashboardPage.requestFails, kept, if_neg Bool.false_ne_true]
          exact steady_settle_active (underWay.told _ _ _)
            ⟨steady.fresh.asks, steady.fresh.covers, steady.fresh.counted⟩
            ⟨rendered.latest, rendered.ordered, rendered.past⟩ active
            fun view loading => by cases loading
    · exact steady.requestFails found going

end Requests

theorem Steady.step (steady : page.Steady) {event : PageEvent} {after : DashboardPage}
    (stepped : page.step event = some after) : after.Steady := by
  cases event with
  | liveUpdate =>
      cases stepped
      exact steady.liveUpdate
  | selectPresetRange value =>
      simp only [DashboardPage.step, selectPresetRange, Option.ite_none_right_eq_some,
        Option.some.injEq] at stepped
      rcases stepped with ⟨preset, rfl⟩
      refine steady.supersede page.currentView _ fun unresolved => ?_
      have custom : value = "custom".toList := custom_of_unresolved unresolved
      rw [custom] at preset
      exact absurd preset (by decide)
  | openCustomRange =>
      cases stepped
      exact steady.openCustomRange
  | applyCustomRange startValue endValue =>
      simp only [DashboardPage.step, applyCustomRange, Option.some.injEq] at stepped
      rw [← stepped]
      split
      · exact steady
      · exact steady.supersede page.currentView _ fun unresolved => by cases unresolved
  | navigate view pushHistory =>
      simp only [DashboardPage.step, navigateDashboardView, Option.some.injEq] at stepped
      rw [← stepped]
      split
      · exact steady
      · exact steady.supersede view page.range id
  | fetched number ok => exact steady.fetched stepped
  | read number body renders now => exact steady.read stepped

theorem steady_initial (view : DashboardView) :
    (blank.navigateDashboardView view false).Steady := by
  have quiet : ({ blank with currentView := view } : DashboardPage).Quiet := by
    refine ⟨rfl, fun number request found => ?_, fun request requestMem => ?_⟩
    · cases found
    · cases requestMem
  have started : blank.navigateDashboardView view false =
      ({ blank with currentView := view } : DashboardPage).startRequest
        [("range".toList, "24h".toList)] := rfl
  have bare : (blank.navigateDashboardView view false).renders = [] := rfl
  refine ⟨started ▸ quiet.startRequest, started ▸ fresh_startRequest rfl, ⟨⟨?_, ?_, ?_⟩, ?_⟩⟩
  · intro mark markMem
    rw [bare] at markMem
    cases markMem
  · rw [bare]
    exact List.Pairwise.nil
  · intro mark markMem
    rw [bare] at markMem
    cases markMem
  · intro _ mark markMem
    rw [bare] at markMem
    cases markMem

theorem Steady.of_reachable (reachable : pageSystem.Reachable page) : page.Steady := by
  refine reachable.invariant ?_ ?_
  · rintro state ⟨view, rfl⟩
    exact steady_initial view
  · intro before event after steady _ stepped
    exact steady.step stepped

/-- No data is replaced by data that was asked for earlier, and what is rendered is what the page
is showing: its view, and its range unless the custom form was opened since. -/
theorem renders_latest (reachable : pageSystem.Reachable page) :
    (page.renders.Pairwise fun later earlier =>
        earlier.request.generation < later.request.generation) ∧
      ∀ mark ∈ page.renders, mark.Latest :=
  have inOrder := (Steady.of_reachable reachable).inOrder
  ⟨inOrder.ordered, inOrder.latest⟩

/-- At most one request is under way that was not aborted, the latest one; the page says that it is
loading exactly while there is one. -/
theorem one_request_under_way (reachable : pageSystem.Reachable page) :
    (∀ number request, page.requests[number]? = some request → request.Live →
        number + 1 = page.requests.length) ∧
      ((∃ request ∈ page.requests, request.Live) ↔
        ∃ view, page.rangeDataStatus = some (.loading, view)) := by
  have coherent := (Steady.of_reachable reachable).coherent
  refine ⟨fun number request found live =>
    coherent.latest number ((coherent.live number request found).mp live), ?_⟩
  rw [← coherent.loading]
  constructor
  · rintro ⟨request, requestMem, live⟩
    rcases List.mem_iff_getElem?.mp requestMem with ⟨number, found⟩
    exact Option.isSome_of_eq_some ((coherent.live number request found).mp live)
  · intro underWay
    rcases Option.isSome_iff_exists.mp underWay with ⟨number, active⟩
    have last := coherent.latest number active
    have found : page.requests[number]? = some page.requests[number] :=
      List.getElem?_eq_getElem (by omega)
    exact ⟨_, List.mem_iff_getElem?.mpr ⟨number, found⟩,
      (coherent.live number _ found).mpr active⟩

/-- As long as there is a range to ask for, every live update was there before the latest request,
or a follow-up waits behind the request under way. -/
theorem no_update_missed (reachable : pageSystem.Reachable page)
    (resolved : (resolveRangeQuery page.range).isSome) :
    (∃ request, page.requests.getLast? = some request ∧ request.updates = page.updates) ∨
      page.rangeRefreshQueued = true ∧ ∃ request, page.requests.getLast? = some request ∧
        request.Live := by
  have steady := Steady.of_reachable reachable
  cases queued : page.rangeRefreshQueued with
  | false => exact .inl (steady.fresh.covers resolved queued)
  | true =>
      rcases Option.isSome_iff_exists.mp (steady.coherent.queued queued) with ⟨number, active⟩
      have last := steady.coherent.latest number active
      have found : page.requests[number]? = some page.requests[number] :=
        List.getElem?_eq_getElem (by omega)
      refine .inr ⟨rfl, _, steady.coherent.getLast?_of_active found active, ?_⟩
      exact (steady.coherent.live number _ found).mpr active

/-- The view of the packets is asked for while the overview is still being fetched, two live updates
come in, and the response for the overview arrives late. Then a custom range is applied, and
rendered before one more live update. -/
def lateOverview : List PageEvent :=
  [.liveUpdate, .navigate .packets true, .fetched 0 true, .fetched 1 true, .liveUpdate, .liveUpdate,
    .read 0 (some ⟨"overview".toList, true⟩) true 1000,
    .read 1 (some ⟨"packets".toList, true⟩) true 2000, .openCustomRange,
    .applyCustomRange "2024-01-01".toList "2024-01-02".toList, .fetched 3 true,
    .read 3 (some ⟨"packets".toList, true⟩) true 3000, .liveUpdate]

theorem initial_page (view : DashboardView) :
    pageSystem.Initial (blank.navigateDashboardView view false) :=
  ⟨view, rfl⟩

theorem lateOverview_ran :
    (pageSystem.run EventSystem.anyStep (blank.navigateDashboardView .overview false)
      lateOverview).isSome := by
  decide +kernel

theorem reachable_lateOverview :
    pageSystem.Reachable
      ((pageSystem.run EventSystem.anyStep (blank.navigateDashboardView .overview false)
        lateOverview).get lateOverview_ran) :=
  EventSystem.reachableWhen_get (initial_page .overview) lateOverview_ran

theorem renders_latest_of_lateOverview :
    (((pageSystem.run EventSystem.anyStep (blank.navigateDashboardView .overview false)
        lateOverview).get lateOverview_ran).renders.map fun mark =>
          (mark.currentView, mark.range.range)) =
        [(.packets, "custom".toList), (.packets, "24h".toList)] ∧
      ∀ mark ∈ ((pageSystem.run EventSystem.anyStep (blank.navigateDashboardView .overview false)
        lateOverview).get lateOverview_ran).renders, mark.Latest :=
  ⟨by decide +kernel, (renders_latest reachable_lateOverview).2⟩

theorem one_request_under_way_of_lateOverview :
    ∃ request ∈ ((pageSystem.run EventSystem.anyStep (blank.navigateDashboardView .overview false)
      lateOverview).get lateOverview_ran).requests, request.Live :=
  (one_request_under_way reachable_lateOverview).2.mpr ⟨.packets, by decide +kernel⟩

theorem no_update_missed_of_lateOverview :
    ∃ request, ((pageSystem.run EventSystem.anyStep (blank.navigateDashboardView .overview false)
      lateOverview).get lateOverview_ran).requests.getLast? = some request ∧
        request.updates = 4 := by
  rcases no_update_missed reachable_lateOverview (by decide +kernel) with covered | ⟨queued, _⟩
  · exact covered
  · revert queued
    decide +kernel

end DashboardPage

end MeshcoreObserver
