import CyclicDma.Proofs.Board.Visits

/-! # Futures and the channels they wait for

The channel of a future is held by a client. Whoever gives the channel back gives up
the future before, so nothing clears the channel while the future is there.
-/

namespace CyclicDma.Board

open Moment (Unfolds)

variable {board before after : Board} {handle : Handle} {held : HeldFuture}

/-! ## Futures are lent -/

/-- The channel of each future is held by a client. -/
def AllLent (board : Board) : Prop :=
  ∀ held ∈ board.futures, board.Lends held

theorem AllLent.of_eq (hlent : before.AllLent) (hhandles : after.handles = before.handles)
    (hfutures : after.futures ⊆ before.futures) : after.AllLent := by
  intro held hmem
  obtain ⟨handle, hhandle, hboth⟩ := hlent held (hfutures hmem)
  exact ⟨handle, hhandles ▸ hhandle, hboth⟩

/-- A client that gives a channel up gives the futures of the channel up. -/
theorem AllLent.give_up (hlent : before.AllLent) (hnames : (before.handles.map (·.name)).Nodup)
    (hhandle : handle ∈ before.handles)
    (hhandles : after.handles = before.handles.filter (·.name ≠ handle.name))
    (hfutures : after.futures = (before.dropFutures handle).futures) : after.AllLent := by
  intro held hmem
  rw [hfutures] at hmem
  obtain ⟨hformer, hother⟩ := List.mem_filter.mp hmem
  obtain ⟨lender, hlender, hcontroller, hchannel⟩ := hlent held hformer
  refine ⟨lender, ?_, hcontroller, hchannel⟩
  rw [hhandles]
  refine List.mem_filter.mpr ⟨hlender, decide_eq_true fun hname => ?_⟩
  -- names tell handles apart, so the future would be one of those given up
  obtain rfl : lender = handle := List.inj_on_of_nodup_map hnames hlender hhandle hname
  simp [hcontroller, hchannel] at hother

theorem AllLent.addHandle (hlent : before.AllLent)
    (hnames : (before.handles.map (·.name)).Nodup) (handle : Handle) :
    (before.addHandle handle).AllLent := by
  have hadd : ∀ board : Board, board.AllLent →
      AllLent { board with handles := board.handles ++ [handle] } := by
    intro board hlent held hmem
    obtain ⟨lender, hlender, hboth⟩ := hlent held hmem
    exact ⟨lender, List.mem_append_left _ hlender, hboth⟩
  unfold Board.addHandle
  cases hhandle : before.handle? handle.name with
  | none => exact hadd before hlent
  | some former =>
      refine hadd (before.letGo former) ?_
      exact hlent.give_up hnames (handle?_eq_some hhandle).1 rfl rfl

theorem AllLent.handover (hlent : before.AllLent) (hnames : (before.handles.map (·.name)).Nodup)
    (hhandover : Handover before after) : after.AllLent := by
  cases hhandover with
  | refuse hfewer => exact hlent.of_eq rfl hfewer
  | @allocate index controller _ channel name =>
      have hallocated : (before.withDriver index
          ⟨controller.setRequest channel (some {}), before.references⟩).AllLent :=
        hlent.of_eq rfl (List.Subset.refl _)
      exact hallocated.addHandle hnames _
  | @release controller name handle hhandle =>
      obtain ⟨hmem, rfl⟩ := handle?_eq_some hhandle
      exact hlent.give_up hnames hmem rfl rfl
  | deinit => exact hlent.of_eq rfl (List.Subset.refl _)
  | abandon hhandle => exact hlent.give_up hnames (handle?_eq_some hhandle).1 rfl rfl

theorem AllLent.uses {allowed : Disturbance → Prop} {held : Nat → Nat → Prop}
    (hlent : before.AllLent) (huses : Uses allowed held before after) : after.AllLent := by
  intro held hmem
  have hsame := huses.sameHolding
  have hlends : before.Lends held := (hsame.futures held hmem).elim (hlent held) id
  obtain ⟨handle, hhandle, hboth⟩ := hlends
  exact ⟨handle, hsame.handles ▸ hhandle, hboth⟩

theorem AllLent.opening {index : Nat} {source : RegionSource} {busAddress : UInt32}
    {config : Config} {outcome : Except Refusal Answer × Board} (hlent : board.AllLent)
    (hopening : Opening index source busAddress config board outcome) : outcome.2.AllLent := by
  have htaken : ∀ {region taken}, (takeRegion source).run.run board = (.ok region, taken) →
      taken.handles = board.handles ∧ taken.futures ⊆ board.futures := by
    intro region taken htaken
    have htakes := takes_of_takeRegion htaken
    obtain ⟨-, -, hhandles, -⟩ := htakes.frame
    exact ⟨hhandles, htakes.futures ▸ List.Subset.refl _⟩
  cases hopening with
  | missing => exact hlent
  | waste htook | lose htook | init htook =>
      obtain ⟨hhandles, hfutures⟩ := htaken htook
      exact hlent.of_eq hhandles hfutures

theorem Reachable.allLent (hboard : board.Reachable) : board.AllLent := by
  induction hboard with
  | new hnew =>
      obtain ⟨controllers, -, rfl⟩ := Option.map_eq_some_iff.mp hnew
      exact fun held hmem => absurd hmem List.not_mem_nil
  | @perform board operation hboard ih =>
      rcases perform_cases operation board with hused | hhanded | ⟨_, _, _, _, rfl⟩
      · exact ih.uses hused
      · exact ih.handover hboard.exclusive.names hhanded
      · exact ih.opening (opening_perform ..)
  | @deliver board index depth _ ih =>
      have huses : Uses (fun _ => True) (fun _ _ => True) board _ := uses_deliver index depth board
      exact ih.uses huses

/-! ## Channels are not cleared while a future is there -/

/-- A channel is only cleared by an initialization, or when it or the region is given
back. -/
theorem clears_of_involves {operation : Operation} {index channel : Nat}
    (hinvolves : operation.Involves board index (.clear channel)) :
    (∃ source busAddress config, operation = .controller index (.init source busAddress config)) ∨
      operation = .controller index .deinit ∨
      ∃ name handle, operation = .controller index (.release name) ∧
        board.handle? name = some handle ∧ handle.controller = index ∧
        handle.channel = channel := by
  obtain ⟨demand, hasks, hinvolves⟩ := hinvolves
  cases operation with
  | controller other operation =>
      obtain ⟨rfl, hasks⟩ := hasks
      cases operation with
      | init source busAddress config => exact .inl ⟨source, busAddress, config, rfl⟩
      | deinit => exact .inr (.inl rfl)
      | release name =>
          obtain ⟨handle, hhandle, hcontroller, rfl⟩ := hasks
          rcases hinvolves with hwork | hclear
          · cases hwork
          · cases hclear
            exact .inr (.inr ⟨name, handle, rfl, hhandle, hcontroller, rfl⟩)
      | change | allocate | interrupt | removeOwner =>
          cases hasks
          cases hinvolves
      | dispatch =>
          cases hasks
          exact hinvolves.elim
      | stopManager =>
          obtain ⟨start, rfl⟩ := hasks
          rcases hinvolves with hact | hact <;> cases hact
      | device | managerState | managerFault => exact hasks.elim
  | channel name operation =>
      obtain ⟨handle, -, -, hasks⟩ := hasks
      cases operation with
      | submit | start | stop =>
          obtain ⟨start, rfl⟩ := hasks
          rcases hinvolves with hact | hact | hact <;> cases hact
      | register =>
          cases hasks
          cases hinvolves
      | unregister =>
          obtain ⟨id, rfl⟩ := hasks
          cases hinvolves
      | state | inspect | nextPeriod | abandon => exact hasks.elim
  | future name operation =>
      obtain ⟨future, -, -, hasks⟩ := hasks
      cases operation with
      | poll =>
          cases hasks
          cases hinvolves
      | block =>
          rcases hasks with ⟨time, rfl⟩ | rfl | ⟨handled, rfl⟩ | rfl | rfl
          · cases hinvolves
          · cases hinvolves
          · cases hinvolves
          · exact hinvolves.elim
          · cases hinvolves
      | drop => exact hasks.elim
  | references | memory => exact hasks.elim

/-- A controller that has a region is not initialized again. -/
theorem unfolds_init_of_open {index : Nat} {controller : Controller} {setup : Setup}
    (hfound : board.controllers[index]? = some controller) (hsetup : controller.setup = some setup)
    (source : RegionSource) (busAddress : UInt32) (config : Config) (visits : List Visit)
    (begun : Nat) :
    Unfolds (fun _ other act => other = index ∧ act = .work) ⟨board, visits, begun⟩
      ⟨(board.perform (.controller index (.init source busAddress config))).2, visits, begun⟩ := by
  have hopening := opening_perform index source busAddress config board
  generalize board.perform (.controller index (.init source busAddress config)) = outcome
    at hopening ⊢
  have htakes : ∀ {region taken}, (takeRegion source).run.run board = (.ok region, taken) →
      taken.controllers = board.controllers ∧ taken.references = board.references := by
    intro region taken htook
    obtain ⟨hcontrollers, hreferences, -⟩ := (takes_of_takeRegion htook).frame
    exact ⟨hcontrollers, hreferences⟩
  cases hopening with
  | missing => exact .refl
  | waste htook =>
      obtain ⟨hcontrollers, hreferences⟩ := htakes htook
      exact .single (.hold hcontrollers hreferences ..)
  | @lose region taken other error logged htook hother hlogs =>
      obtain ⟨hcontrollers, hreferences⟩ := htakes htook
      rw [← hreferences] at hlogs
      have hworks := Moment.Does.act (hcontrollers ▸ hother)
        (Driver.Does.work hlogs.quiet hlogs.references) (.keep (by exact trivial) (visits, begun))
      have hlogged : Unfolds (fun _ other act => other = index ∧ act = .work)
          ⟨board, visits, begun⟩ ⟨taken.withDriver index logged, visits, begun⟩ :=
        (Relation.ReflTransGen.single (.hold hcontrollers hreferences ..)).tail
          (.act ⟨rfl, rfl⟩ hworks)
      refine hlogged.tail (.hold ?_ ?_ ..)
      · rfl
      · rfl
  | init _ hother hclosed =>
      cases hfound.symm.trans hother
      rw [hsetup] at hclosed
      cases hclosed

/-- Whoever releases a channel gives its futures up. -/
theorem futures_release {controller : Controller} {name : Nat}
    (hhandle : board.handle? name = some handle)
    (hfound : board.controllers[handle.controller]? = some controller) :
    (board.perform (.controller handle.controller (.release name))).2.futures =
      (board.dropFutures handle).futures := by
  cases hrunning : controller.isRunning handle.channel with
  | true => rw [perform_release_of_running hhandle hfound hrunning]
  | false =>
      rw [perform_release hhandle hfound hrunning]
      rfl

/-- While a future is there, its channel is not cleared. -/
theorem Reachable.unfolds_waiting (hboard : board.Reachable) (operation : Operation)
    (hbefore : held ∈ board.futures) (hafter : held ∈ (board.perform operation).2.futures)
    (visits : List Visit) (begun : Nat) :
    ∃ next, Unfolds
      (fun _ index act => operation.Involves board index act ∧
        (index = held.controller → act ≠ .clear held.future.channel))
      ⟨board, visits, begun⟩ ⟨(board.perform operation).2, visits, next⟩ := by
  by_cases hclears : operation.Involves board held.controller (.clear held.future.channel)
  · obtain ⟨lender, hlender, hcontroller, hchannel⟩ := hboard.allLent held hbefore
    obtain ⟨controller, setup, request, hfound, hsetup, hrequest, -⟩ := hboard.usable hlender
    rw [hcontroller] at hfound
    rcases clears_of_involves hclears with
      ⟨source, busAddress, config, rfl⟩ | rfl | ⟨name, released, rfl, hhandle, hsame, hcleared⟩
    · have hunfolds := unfolds_init_of_open hfound hsetup source busAddress config visits begun
      refine ⟨begun, hunfolds.mono ?_⟩
      rintro _ _ _ ⟨rfl, rfl⟩
      exact ⟨⟨_, ⟨rfl, ⟨0, []⟩, rfl⟩, .inl rfl⟩, nofun⟩
    · -- the channel is still held, so the region is not handed back
      have hheld : setup.requests.any (·.isSome) = true :=
        List.any_eq_true.mpr ⟨some request, List.mem_of_getElem? hrequest, rfl⟩
      rw [perform_deinit hfound hsetup, if_pos hheld]
      exact ⟨begun, .refl⟩
    · rw [← hsame] at hafter hfound
      rw [futures_release hhandle hfound] at hafter
      have hother := (List.mem_filter.mp hafter).2
      simp [hsame, hcleared] at hother
  · obtain ⟨next, hunfolds⟩ := hboard.unfolds_perform operation visits begun
    refine ⟨next, hunfolds.mono fun _ index act hinvolves => ⟨hinvolves, ?_⟩⟩
    rintro rfl rfl
    exact hclears hinvolves

end CyclicDma.Board
