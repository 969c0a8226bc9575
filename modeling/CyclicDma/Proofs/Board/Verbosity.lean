import CyclicDma.Proofs.Board.Holding
import CyclicDma.Proofs.Board.Reachable
import CyclicDma.Proofs.Driver.Initializing
import CyclicDma.Proofs.Driver.Verbosity

/-! # Logging is inert

What is done to a board has the same results, and the same effects apart from messages,
whatever verbosities its controllers are initialized with. The messages of a controller
are those that it would record with the greatest verbosity, as far as its own verbosity
admits them.
-/

namespace CyclicDma

open Driver (React)

namespace Board

/-! ## Boards side by side -/

/-- The boards hold the same, and their controllers are related. -/
structure Parallel (relation : Nat → Controller → Controller → Prop) (board other : Board) :
    Prop where
  controllers : ∀ index : Nat, Option.Rel (relation index)
    board.controllers[index]? other.controllers[index]?
  rest : ∃ controllers, board = { other with controllers }

/-- The controllers of the loud board record all messages, and the quiet board is the same
as far as the views of its controllers go. -/
abbrev Mirrors (views : Nat → View) (quiet loud : Board) : Prop :=
  Parallel (fun index => Controller.Mirrors (views index)) quiet loud

/-- The histories of the quiet board add what their views admit of the loud ones. -/
abbrev Echoes (views : Nat → View) (quiet loud : Board) : Prop :=
  Parallel (fun index => Controller.Echoes (views index).verbosity (views index).past) quiet loud

variable {relation relation' : Nat → Controller → Controller → Prop}
variable {views : Nat → View} {quiet loud : Board} {index : Nat} {α : Type}

namespace Parallel

variable {board board' other : Board}

theorem references (hboards : Parallel relation board other) :
    board.references = other.references := by
  obtain ⟨controllers, rfl⟩ := hboards.rest
  rfl

/-- Controllers are at the same places. -/
theorem found_or_missing (hboards : Parallel relation board other) (index : Nat) :
    (board.controllers[index]? = none ∧ other.controllers[index]? = none) ∨
      ∃ controller controller', board.controllers[index]? = some controller ∧
        other.controllers[index]? = some controller' ∧ relation index controller controller' := by
  have hindex := hboards.controllers index
  generalize board.controllers[index]? = first at hindex ⊢
  generalize other.controllers[index]? = second at hindex ⊢
  cases hindex with
  | none => exact .inl ⟨rfl, rfl⟩
  | some hrelated => exact .inr ⟨_, _, rfl, rfl, hrelated⟩

theorem mono (hrelation : ∀ {index controller controller'}, relation index controller controller' →
      relation' index controller controller')
    (hboards : Parallel relation board other) : Parallel relation' board other where
  controllers index := by
    rcases hboards.found_or_missing index with
      ⟨hmissing, hmissing'⟩ | ⟨_, _, hfound, hfound', hrelated⟩
    · rw [hmissing, hmissing']
      exact .none
    · rw [hfound, hfound']
      exact .some (hrelation hrelated)
  rest := hboards.rest

theorem withDriver {driver driver' : Driver} (hboards : Parallel relation board other)
    (hdriver : relation index driver.controller driver'.controller)
    (hreferences : driver.references = driver'.references) :
    Parallel relation (board.withDriver index driver) (other.withDriver index driver') where
  controllers position := by
    rw [Board.withDriver, Board.withDriver]
    by_cases hsame : index = position
    · subst hsame
      rw [List.getElem?_set_self', List.getElem?_set_self']
      rcases hboards.found_or_missing index with ⟨hmissing, hmissing'⟩ | ⟨_, _, hfound, hfound', -⟩
      · rw [hmissing, hmissing']
        exact .none
      · rw [hfound, hfound']
        exact .some hdriver
    · rw [List.getElem?_set_ne hsame, List.getElem?_set_ne hsame]
      exact hboards.controllers position
  rest := by
    obtain ⟨controllers, rfl⟩ := hboards.rest
    rw [Board.withDriver, hreferences]
    exact ⟨_, rfl⟩

/-- What clients hold may change at both. -/
theorem hold {change : Board → Board}
    (hcontrollers : ∀ board : Board, (change board).controllers = board.controllers)
    (hchange : ∀ (board : Board) controllers,
      change { board with controllers } = { change board with controllers })
    (hboards : Parallel relation board other) :
    Parallel relation (change board) (change other) where
  controllers := by
    rw [hcontrollers, hcontrollers]
    exact hboards.controllers
  rest := by
    obtain ⟨controllers, rfl⟩ := hboards.rest
    exact ⟨controllers, hchange other controllers⟩

/-- Boards that are both related to a third one are related to one another. -/
theorem join {joined : Nat → Controller → Controller → Prop}
    (hjoined : ∀ {index first second third}, relation index first third →
      relation' index second third → joined index first second)
    (hfirst : Parallel relation board other) (hsecond : Parallel relation' board' other) :
    Parallel joined board board' where
  controllers index := by
    rcases hfirst.found_or_missing index with
      ⟨hmissing, hother⟩ | ⟨_, _, hfound, hother, hrelated⟩
    · rcases hsecond.found_or_missing index with ⟨hmissing', -⟩ | ⟨_, _, -, hother', -⟩
      · rw [hmissing, hmissing']
        exact .none
      · cases hother.symm.trans hother'
    · rcases hsecond.found_or_missing index with ⟨-, hother'⟩ | ⟨_, _, hfound', hother', hrelated'⟩
      · cases hother.symm.trans hother'
      · cases hother.symm.trans hother'
        rw [hfound, hfound']
        exact .some (hjoined hrelated hrelated')
  rest := by
    obtain ⟨controllers, rfl⟩ := hfirst.rest
    obtain ⟨controllers', rfl⟩ := hsecond.rest
    exact ⟨_, rfl⟩

/-- What related controllers have in common can be read off the boards. -/
theorem map_eq {query : Controller → α}
    (hquery : ∀ {index controller controller'}, relation index controller controller' →
      query controller = query controller')
    (hboards : Parallel relation board other) :
    board.controllers.map query = other.controllers.map query := by
  refine List.ext_getElem? fun index => ?_
  rw [List.getElem?_map, List.getElem?_map]
  rcases hboards.found_or_missing index with
    ⟨hmissing, hmissing'⟩ | ⟨_, _, hfound, hfound', hrelated⟩
  · rw [hmissing, hmissing']
  · rw [hfound, hfound']
    exact congrArg some (hquery hrelated)

end Parallel

/-- The regions are the same, wherever they are. -/
theorem Mirrors.allRegions (hmirrors : Mirrors views quiet loud) :
    quiet.allRegions = loud.allRegions := by
  have hregions := congrArg (List.filterMap id) (hmirrors.map_eq fun hcontroller =>
    congrArg (Option.map Setup.region) hcontroller.setup)
  rw [List.filterMap_map, List.filterMap_map] at hregions
  obtain ⟨controllers, rfl⟩ := hmirrors.rest
  exact congrArg (· ++ loud.spare ++ loud.lost) hregions

theorem respects_hold_bind {change : Board → Board} {next : PUnit → Step α}
    (hcontrollers : ∀ board : Board, (change board).controllers = board.controllers)
    (hchange : ∀ (board : Board) controllers,
      change { board with controllers } = { change board with controllers })
    (hnext : ∀ value, Respects (Parallel relation) (next value)) :
    Respects (Parallel relation) (modify change >>= next) :=
  (respects_modify fun _ _ hboards => hboards.hold hcontrollers hchange).bind hnext

theorem respects_existing (value : Option α) : Respects (Parallel relation) (existing value) := by
  cases value with
  | none => exact respects_throw _
  | some value => exact respects_pure _

/-- What clients hold may be looked at. -/
theorem respects_look {next : Board → Step α}
    (hsame : ∀ (board : Board) controllers, next { board with controllers } = next board)
    (hnext : ∀ board, Respects (Parallel relation) (next board)) :
    Respects (Parallel relation) (get >>= next) := by
  refine respects_get_bind (fun board other hboards => ?_) hnext
  obtain ⟨controllers, rfl⟩ := hboards.rest
  exact hsame other controllers

/-! ## Work on controllers -/

theorem respects_onDriver {action : StateM Driver α}
    (haction : ∀ {quiet loud}, Driver.Mirrors (views index) quiet loud →
      Agree (Driver.Mirrors (views index)) (action.run quiet) (action.run loud)) :
    Respects (Mirrors views) (onDriver index action) := by
  intro quiet loud hmirrors
  rcases hmirrors.found_or_missing index with ⟨hquiet, hloud⟩ |
    ⟨controller, other, hquiet, hloud, hcontroller⟩
  · rw [run_onDriver_of_none hquiet, run_onDriver_of_none hloud]
    exact ⟨rfl, hmirrors⟩
  · have hboth : Driver.Mirrors (views index) ⟨controller, quiet.references⟩
        ⟨other, loud.references⟩ := ⟨hcontroller, hmirrors.references⟩
    obtain ⟨hresult, hdriver⟩ := haction hboth
    rw [run_onDriver hquiet, run_onDriver hloud]
    exact ⟨congrArg Except.ok hresult, hmirrors.withDriver hdriver.controller hdriver.references⟩

theorem respects_attempt {action : Attempt Driver α}
    (haction : Respects (Driver.Mirrors (views index)) action) :
    Respects (Mirrors views) (attempt index action) := by
  refine (respects_onDriver (fun hmirrors => haction _ _ hmirrors)).bind fun result => ?_
  cases result with
  | error error => exact respects_throw _
  | ok value => exact respects_pure _

theorem respects_view {query : Controller → α}
    (hquery : ∀ view controller, query (Controller.abridged view controller) = query controller) :
    Respects (Mirrors views) (view index query) :=
  respects_onDriver fun hmirrors => ⟨hmirrors.controller.query hquery, hmirrors⟩

theorem respects_during (world : World) : Respects (Mirrors views) (during index world) :=
  (respects_view fun _ _ => rfl).bind fun _ => respects_pure _

theorem respects_exclusively {handle : Handle} {action : Attempt Driver α}
    (haction : Respects (Driver.Mirrors (views handle.controller)) action) :
    Respects (Mirrors views) (exclusively handle action) :=
  respects_hold_bind (fun _ => rfl) (fun _ _ => rfl) fun _ => respects_attempt haction

/-- Driving a channel takes the same course. -/
theorem respects_drive {handle : Handle} {action : World → Attempt Controller Unit}
    (haction : ∀ view world, Respects (Controller.Mirrors view) (action world)) (world : World) :
    Respects (Mirrors views) (do
      let world ← during handle.controller world
      exclusively handle (Driver.onController (action world))
      return .done : Step Answer) := by
  refine (respects_during world).bind fun world => ?_
  refine (respects_exclusively ?_).bind fun _ => respects_pure _
  exact Driver.respects_onController (haction _ world)

theorem respects_handle (name : Nat) {next : Handle → Step α}
    (hnext : ∀ handle, Respects (Mirrors views) (next handle)) :
    Respects (Mirrors views) (do next (← existing ((← get).handle? name))) :=
  respects_look (fun _ _ => rfl) fun _ => (respects_existing _).bind hnext

/-! ## Operations -/

theorem respects_stepController (operation : ControllerOperation)
    (hinit : ∀ source busAddress config, operation ≠ .init source busAddress config) :
    Respects (Mirrors views) (stepController index operation) := by
  cases operation with
  | change changes =>
      refine (respects_onDriver fun hmirrors => ⟨rfl, ?_⟩).bind fun _ => respects_pure _
      exact hmirrors.update fun hcontroller => hcontroller.changeAll changes
  | init source busAddress config => exact absurd rfl (hinit source busAddress config)
  | device => exact (respects_view fun _ _ => rfl).bind fun _ => respects_pure _
  | allocate name channel? =>
      refine (respects_attempt (Driver.respects_allocate channel?)).bind fun channel => ?_
      refine respects_hold_bind (fun board => (addHandle_frame _ board).1)
        (fun board controllers => ?_) fun _ => respects_pure _
      have hsame : Board.handle? name { board with controllers } = board.handle? name := rfl
      unfold addHandle
      dsimp only
      rw [hsame]
      cases board.handle? name with
      | none => rfl
      | some former => rfl
  | release name =>
      refine respects_handle name fun handle => ?_
      refine respects_hold_bind (fun _ => rfl) (fun _ _ => rfl) fun _ => ?_
      have hreleased : Respects (Mirrors views) (do
          attempt index (Driver.release handle.channel)
          modify fun board =>
            { board with handles := board.handles.filter (·.name ≠ name) }
          return .done : Step Answer) := by
        refine (respects_attempt (Driver.respects_release handle.channel)).bind fun _ => ?_
        exact respects_hold_bind (fun _ => rfl) (fun _ _ => rfl) fun _ => respects_pure _
      dsimp only
      split
      · exact (respects_throw _).bind fun _ => hreleased
      · exact hreleased
  | managerState => exact (respects_view fun _ _ => rfl).bind fun _ => respects_pure _
  | managerFault => exact (respects_view fun _ _ => rfl).bind fun _ => respects_pure _
  | stopManager world =>
      refine (respects_during world).bind fun world => ?_
      refine (respects_attempt ?_).bind fun _ => respects_pure _
      exact Driver.respects_onController (Controller.respects_stopThread world .manager)
  | deinit =>
      refine (respects_attempt Driver.respects_deinit).bind fun region => ?_
      exact respects_hold_bind (fun _ => rfl) (fun _ _ => rfl) fun _ => respects_pure _
  | interrupt =>
      exact (respects_onDriver fun hmirrors => hmirrors.onInterrupt).bind fun _ => respects_pure _
  | dispatch =>
      refine (respects_onDriver fun hmirrors => ⟨rfl, ?_⟩).bind fun _ => respects_pure _
      exact hmirrors.dispatchNested 1
  | removeOwner owner =>
      exact (respects_onDriver fun hmirrors => hmirrors.removeOwner owner).bind fun _ =>
        respects_pure _

theorem respects_stepChannel (handle : Handle) (operation : ChannelOperation) :
    Respects (Mirrors views) (stepChannel handle operation) := by
  cases operation with
  | state => exact (respects_view fun _ _ => rfl).bind fun _ => respects_pure _
  | inspect => exact (respects_view fun _ _ => rfl).bind fun _ => respects_pure _
  | nextPeriod name =>
      refine (respects_view fun _ _ => rfl).bind fun future => ?_
      exact respects_hold_bind (fun _ => rfl) (fun _ _ => rfl) fun _ => respects_pure _
  | submit order world =>
      exact respects_drive
        (fun _ world => Controller.respects_submit world handle.channel order) world
  | start world =>
      exact respects_drive (fun _ world => Controller.respects_start world handle.channel) world
  | stop world =>
      exact respects_drive (fun _ world => Controller.respects_stop world handle.channel) world
  | register callback context owner =>
      refine (respects_exclusively ?_).bind fun id => ?_
      · exact Driver.respects_register handle.channel callback context owner
      exact respects_hold_bind (fun _ => rfl) (fun _ _ => rfl) fun _ => respects_pure _
  | unregister number =>
      refine respects_hold_bind (fun _ => rfl) (fun _ _ => rfl) fun _ => ?_
      refine respects_look (fun _ _ => rfl) fun board => ?_
      refine (respects_existing _).bind fun id => ?_
      refine (respects_attempt ?_).bind fun _ => respects_pure _
      exact Driver.respects_unregister handle.channel id
  | abandon =>
      exact respects_hold_bind (fun _ => rfl) (fun _ _ => rfl) fun _ => respects_pure _

/-! ## Futures -/

theorem mirrors_takeTurn {view : View} {driver other : Driver}
    (hmirrors : Driver.Mirrors view driver other) (turn : Turn) :
    Driver.Mirrors view (takeTurn turn driver) (takeTurn turn other) := by
  have hchanged := hmirrors.update fun hcontroller => hcontroller.changeAll turn.changes
  have hinterrupted : Driver.Mirrors view
      (if turn.interrupt then
        (driver.update (·.changeAll turn.changes)).onInterrupt.2.update
          (·.record (.interrupted (driver.update (·.changeAll turn.changes)).onInterrupt.1))
      else driver.update (·.changeAll turn.changes))
      (if turn.interrupt then
        (other.update (·.changeAll turn.changes)).onInterrupt.2.update
          (·.record (.interrupted (other.update (·.changeAll turn.changes)).onInterrupt.1))
      else other.update (·.changeAll turn.changes)) := by
    split
    · rw [hchanged.onInterrupt.1]
      exact hchanged.onInterrupt.2.record fun _ => rfl
    · exact hchanged
  unfold takeTurn
  dsimp only
  split
  · exact hinterrupted.dispatchNested 1
  · exact hinterrupted

/-- Blocking takes as many polls at both. -/
theorem agree_block {view : View} {driver other : Driver}
    (hmirrors : Driver.Mirrors view driver other) (turns : Nat → Turn) (future : PeriodFuture)
    (polls bound : Nat) :
    Agree (fun state other => Driver.Mirrors view state.2 other.2)
      (Poll.block (pollBlocked turns future) bound (polls, driver))
      (Poll.block (pollBlocked turns future) bound (polls, other)) := by
  induction bound generalizing driver other polls with
  | zero => exact ⟨rfl, hmirrors⟩
  | succ bound ih =>
      have hready := mirrors_takeTurn hmirrors (turns (polls + 1))
      obtain ⟨hanswer, hpolled⟩ := hready.pollPeriod future .silent
      unfold Poll.block pollBlocked
      dsimp only
      revert hanswer hpolled
      generalize (takeTurn (turns (polls + 1)) driver).controller.pollPeriod future .silent = first
      generalize (takeTurn (turns (polls + 1)) other).controller.pollPeriod future .silent = second
      intro hanswer hpolled
      obtain ⟨answer, controller⟩ := first
      obtain ⟨answer', controller'⟩ := second
      obtain rfl : answer = answer' := hanswer
      cases answer with
      | pending => exact ih hpolled (polls + 1)
      | ready result => exact ⟨rfl, hpolled⟩

theorem respects_stepFuture (held : HeldFuture) (operation : FutureOperation) :
    Respects (Mirrors views) (stepFuture held operation) := by
  cases operation with
  | poll waker =>
      refine (respects_onDriver fun hmirrors => ?_).bind fun answer => ?_
      · exact hmirrors.pollPeriod held.future waker
      · split
        · exact respects_pure _
        next result =>
          refine Respects.bind ?_ fun _ => respects_pure _
          cases result with
          | error error => exact respects_throw _
          | ok value => exact respects_pure _
  | block turns =>
      refine (respects_onDriver fun hmirrors => ?_).bind fun answer => ?_
      · exact agree_block hmirrors turns held.future 0 pollBound
      · split
        · exact respects_throw _
        · exact respects_pure _
  | drop =>
      exact respects_hold_bind (fun _ => rfl) (fun _ _ => rfl) fun _ => respects_pure _

/-- Apart from initializations, operations do the same. -/
theorem respects_step (operation : Operation)
    (hinit : ∀ index source busAddress config,
      operation ≠ .controller index (.init source busAddress config)) :
    Respects (Mirrors views) (step operation) := by
  cases operation with
  | controller index operation =>
      exact respects_stepController operation fun source busAddress config hsame =>
        hinit index source busAddress config (hsame ▸ rfl)
  | channel name operation =>
      exact respects_handle name fun handle => respects_stepChannel handle operation
  | future name operation =>
      refine respects_look (fun _ _ => rfl) fun board => ?_
      exact (respects_existing _).bind fun held => respects_stepFuture held operation
  | references =>
      exact respects_look (fun _ _ => rfl) fun board => respects_pure _
  | memory number offset length =>
      refine respects_get_bind (fun quiet loud hmirrors => ?_) fun board => ?_
      · rw [memory?, memory?, Mirrors.allRegions hmirrors]
      · exact (respects_existing _).bind fun _ => respects_pure _

/-! ## Initializations -/

/-- What has been recorded at a controller. -/
def historyOf (index : Nat) (board : Board) : List Event :=
  board.controllers[index]?.elim [] (·.history)

/-- The verbosity of a controller. -/
def verbosityOf (index : Nat) (board : Board) : Verbosity :=
  board.controllers[index]?.elim none (·.config.verbosity)

/-- The board before anything was recorded, ready to record all messages. -/
def bare (board : Board) : Board :=
  { board with controllers := board.controllers.map Controller.bare }

/-- The board as it would be if no message had been recorded. -/
def muted (board : Board) : Board :=
  { board with controllers := board.controllers.map Controller.muted }

theorem getElem?_bare (board : Board) (index : Nat) :
    board.bare.controllers[index]? = board.controllers[index]?.map Controller.bare :=
  List.getElem?_map

theorem parallel_bare {board : Board}
    (hrelation : ∀ {index controller}, board.controllers[index]? = some controller →
      relation index controller controller.bare) : Parallel relation board board.bare where
  controllers index := by
    rw [getElem?_bare]
    cases hfound : board.controllers[index]? with
    | none => exact .none
    | some controller => exact .some (hrelation hfound)
  rest := ⟨board.controllers, rfl⟩

theorem historyOf_eq {board : Board} {controller : Controller}
    (hfound : board.controllers[index]? = some controller) :
    board.historyOf index = controller.history := by
  rw [historyOf, hfound]
  rfl

theorem verbosityOf_eq {board : Board} {controller : Controller}
    (hfound : board.controllers[index]? = some controller) :
    board.verbosityOf index = controller.config.verbosity := by
  rw [verbosityOf, hfound]
  rfl

theorem historyOf_eq_nil {board : Board} (hmissing : board.controllers[index]? = none) :
    board.historyOf index = [] := by
  rw [historyOf, hmissing]
  rfl

theorem verbosityOf_eq_none {board : Board} (hmissing : board.controllers[index]? = none) :
    board.verbosityOf index = none := by
  rw [verbosityOf, hmissing]
  rfl

theorem verbosityOf_withDriver {board : Board} {controller : Controller}
    (hfound : board.controllers[index]? = some controller) (driver : Driver) (position : Nat) :
    (board.withDriver index driver).verbosityOf position =
      if index = position then driver.controller.config.verbosity
      else board.verbosityOf position := by
  split
  next hsame => exact verbosityOf_eq (hsame ▸ found_withDriver hfound driver)
  next hother => rw [verbosityOf, withDriver, List.getElem?_set_ne hother, verbosityOf]

theorem bare_muted (board : Board) : board.muted.bare = board.bare := by
  rw [bare, muted, List.map_map]
  rfl

theorem historyOf_muted (index : Nat) (board : Board) :
    board.muted.historyOf index = (board.historyOf index).filter (·.isAdmitted none) := by
  rw [historyOf, muted, List.getElem?_map, historyOf]
  cases board.controllers[index]? with
  | none => rfl
  | some controller => exact List.append_nil _

theorem bare_eq_of_muted_eq {first second : Board} (hmuted : first.muted = second.muted) :
    first.bare = second.bare ∧
      ∀ index, (first.historyOf index).filter (·.isAdmitted none) =
        (second.historyOf index).filter (·.isAdmitted none) := by
  constructor
  · rw [← bare_muted, hmuted, bare_muted]
  · intro index
    rw [← historyOf_muted, hmuted, historyOf_muted]

theorem muted_eq_of_parallel {first second : Board}
    (hboards : Parallel (fun _ controller other => controller.muted = other.muted) first second) :
    first.muted = second.muted := by
  have hcontrollers := hboards.map_eq fun hsame => hsame
  obtain ⟨controllers, rfl⟩ := hboards.rest
  rw [muted, hcontrollers, muted]

/-- A board is what is seen of it without its histories. -/
theorem mirrors_bare (board : Board) :
    Mirrors (fun index => ⟨board.verbosityOf index, board.historyOf index⟩) board board.bare := by
  refine parallel_bare fun hfound => ?_
  dsimp only
  rw [verbosityOf_eq hfound, historyOf_eq hfound]
  exact Controller.mirrors_bare _

/-- Nothing has been added yet. -/
theorem echoes_bare {board : Board} (hpast : ∀ index, (views index).past = board.historyOf index) :
    Echoes views board board.bare := by
  refine parallel_bare fun hfound => ?_
  rw [hpast, historyOf_eq hfound]
  exact ⟨rfl, rfl⟩

theorem respects_takeRegion (source : RegionSource) :
    Respects (Parallel relation) (takeRegion source) := by
  intro board other hboards
  have hsame : ∀ {α : Type} (query : Board → α),
      (∀ (board : Board) controllers, query { board with controllers } = query board) →
        query board = query other := by
    intro α query hquery
    obtain ⟨controllers, rfl⟩ := hboards.rest
    exact hquery other controllers
  cases source with
  | fresh bytes =>
      have hregion := hsame (fun board => Region.mk board.regions bytes) fun _ _ => rfl
      have hcounted := @Parallel.hold _ _ _ (fun board =>
        { board with regions := board.regions + 1 }) (fun _ => rfl) (fun _ _ => rfl) hboards
      exact ⟨congrArg Except.ok hregion, hcounted⟩
  | returned number =>
      have hspare := hsame (·.spare.find? (·.number = number)) fun _ _ => rfl
      cases hfound : other.spare.find? (·.number = number) with
      | none =>
          rw [takeRegion_missing (hspare.trans hfound), takeRegion_missing hfound]
          exact ⟨rfl, hboards⟩
      | some region =>
          rw [takeRegion_returned (hspare.trans hfound), takeRegion_returned hfound]
          have hkept := @Parallel.hold _ _ _ (fun board =>
            { board with spare := board.spare.filter (·.number ≠ number) }) (fun _ => rfl)
            (fun _ _ => rfl) hboards
          exact ⟨rfl, hkept⟩

/-- A controller is initialized alike with the regions that were taken at both. -/
theorem echoes_init_of_found {board taken taken' : Board} {controller : Controller}
    {config : Config} {source : RegionSource} {region : Region}
    (hpast : ∀ index, (views index).past = board.historyOf index)
    (hverbosity : (views index).verbosity = config.verbosity)
    (htaken : (takeRegion source).run.run board = (.ok region, taken))
    (htaken' : (takeRegion source).run.run board.bare = (.ok region, taken'))
    (htook : Echoes views taken taken') (hfound : board.controllers[index]? = some controller)
    (busAddress : UInt32) :
    Agree (Echoes views) (board.perform (.controller index (.init source busAddress config)))
      (board.bare.perform (.controller index
        (.init source busAddress (config.withVerbosity (some .trace))))) := by
  have hbare : board.bare.controllers[index]? = some controller.bare := by
    rw [getElem?_bare, hfound, Option.map_some]
  obtain ⟨hdecided, hreferences, hcontroller⟩ :=
    Driver.echoes_init region busAddress config ⟨controller, board.references⟩
  have hdriver : Driver.bare ⟨controller, board.references⟩ =
      ⟨controller.bare, board.bare.references⟩ := rfl
  dsimp only at hcontroller
  rw [hdriver] at hdecided hreferences hcontroller
  rw [← hverbosity, ← historyOf_eq hfound, ← hpast] at hcontroller
  have hafter := htook.withDriver hcontroller hreferences
  rw [perform_init htaken hfound, perform_init htaken' hbare]
  revert hdecided hafter
  generalize (Driver.init region busAddress config).perform ⟨controller, board.references⟩ = first
  generalize (Driver.init region busAddress (config.withVerbosity (some .trace))).perform
    ⟨controller.bare, board.bare.references⟩ = second
  intro hdecided hafter
  obtain ⟨decided, driver⟩ := first
  obtain ⟨decided', driver'⟩ := second
  obtain rfl : decided = decided' := hdecided
  cases decided with
  | error error =>
      have hlost := @Parallel.hold _ _ _ (fun board =>
        { board with lost := board.lost ++ [region] }) (fun _ => rfl) (fun _ _ => rfl) hafter
      exact ⟨rfl, hlost⟩
  | ok device => exact ⟨rfl, hafter⟩

/-- An initialization does the same for a bare board, and records with its own verbosity. -/
theorem echoes_init {board : Board} {config : Config}
    (hpast : ∀ index, (views index).past = board.historyOf index)
    (hverbosity : (views index).verbosity = config.verbosity) (source : RegionSource)
    (busAddress : UInt32) :
    Agree (Echoes views) (board.perform (.controller index (.init source busAddress config)))
      (board.bare.perform (.controller index
        (.init source busAddress (config.withVerbosity (some .trace))))) := by
  obtain ⟨hresult, htook⟩ :=
    respects_takeRegion source board board.bare (echoes_bare hpast)
  cases htaken : (takeRegion source).run.run board with
  | mk result taken =>
      cases htaken' : (takeRegion source).run.run board.bare with
      | mk result' taken' =>
          rw [htaken, htaken'] at hresult htook
          obtain rfl : result = result' := hresult
          cases result with
          | error error =>
              have hquiet : board.perform (.controller index (.init source busAddress config)) =
                  (.error error, taken) := run_bind_of_error htaken _
              have hloud : board.bare.perform (.controller index
                  (.init source busAddress (config.withVerbosity (some .trace)))) =
                    (.error error, taken') := run_bind_of_error htaken' _
              rw [hquiet, hloud]
              exact ⟨rfl, htook⟩
          | ok region =>
              cases hfound : board.controllers[index]? with
              | none =>
                  have hmissing : board.bare.controllers[index]? = none := by
                    rw [getElem?_bare, hfound, Option.map_none]
                  rw [perform_init_of_none htaken hfound, perform_init_of_none htaken' hmissing]
                  exact ⟨rfl, htook⟩
              | some controller =>
                  exact echoes_init_of_found hpast hverbosity htaken htaken' htook hfound busAddress

/-! ## What is done to a board -/

/-- Something that is done to a board. -/
inductive Deed where
  | perform (operation : Operation)
  /-- Periods are delivered with reactions that are nested to a depth. -/
  | deliver (index depth : Nat)

namespace Deed

def step : Deed → Step Answer
  | perform operation => Board.step operation
  | deliver index depth => do
      onDriver index fun driver => ((), driver.dispatchNested depth)
      return .done

def apply (deed : Deed) (board : Board) : Except Refusal Answer × Board :=
  deed.step.run.run board

/-- The deed with another verbosity, if it is an initialization. -/
def withVerbosity (verbosity : Verbosity) : Deed → Deed
  | perform (.controller index (.init source busAddress config)) =>
      perform (.controller index (.init source busAddress (config.withVerbosity verbosity)))
  | deed => deed

/-- The verbosity of an initialization of the controller. -/
def verbosity? (index : Nat) : Deed → Option Verbosity
  | perform (.controller other (.init _ _ config)) =>
      if other = index then some config.verbosity else none
  | _ => none

/-- The deeds are the same, apart from verbosities. -/
def Alike (deed other : Deed) : Prop :=
  deed.withVerbosity none = other.withVerbosity none

/-- An initialization asks for all messages. -/
def IsLoud (deed : Deed) : Prop :=
  ∀ index verbosity, deed.verbosity? index = some verbosity → verbosity = some .trace

/-- The verbosity that a controller takes on by the deed. -/
def adopted? (index : Nat) (board : Board) (deed : Deed) : Option Verbosity :=
  match (deed.apply board).1 with
  | .ok _ => deed.verbosity? index
  | .error _ => none

/-- How the history of a controller is seen while the deed is done. -/
def viewAt (deed : Deed) (board : Board) (index : Nat) : View :=
  ⟨(deed.verbosity? index).getD (board.verbosityOf index), board.historyOf index⟩

/-- A deed is an initialization, or verbosities have nothing to do with it. -/
theorem init_or_respects (deed : Deed) :
    (∃ index source busAddress config,
      deed = perform (.controller index (.init source busAddress config))) ∨
    (∀ verbosity, deed.withVerbosity verbosity = deed) ∧ (∀ index, deed.verbosity? index = none) ∧
      ∀ views, Respects (Mirrors views) deed.step := by
  cases deed with
  | deliver index depth =>
      refine .inr ⟨fun _ => rfl, fun _ => rfl, fun views => ?_⟩
      refine (respects_onDriver fun hmirrors => ⟨rfl, ?_⟩).bind fun _ => respects_pure _
      exact hmirrors.dispatchNested depth
  | perform operation =>
      by_cases hinit : ∃ index source busAddress config,
          operation = .controller index (.init source busAddress config)
      · obtain ⟨index, source, busAddress, config, rfl⟩ := hinit
        exact .inl ⟨index, source, busAddress, config, rfl⟩
      · refine .inr ⟨fun _ => ?_, fun _ => ?_, fun views => respects_step operation ?_⟩
        · unfold withVerbosity
          split
          next hsame =>
            cases hsame
            exact absurd ⟨_, _, _, _, rfl⟩ hinit
          · rfl
        · unfold verbosity?
          split
          next hsame =>
            cases hsame
            exact absurd ⟨_, _, _, _, rfl⟩ hinit
          · rfl
        · exact fun index source busAddress config hsame =>
            hinit ⟨index, source, busAddress, config, hsame⟩

/-- A deed does the same for a bare board with the greatest verbosity. -/
theorem echoes (deed : Deed) (board : Board) :
    Agree (Echoes (deed.viewAt board)) (deed.apply board)
      ((deed.withVerbosity (some .trace)).apply board.bare) := by
  rcases deed.init_or_respects with ⟨index, source, busAddress, config, rfl⟩ |
    ⟨hsame, hnone, hrespects⟩
  · exact echoes_init (fun _ => rfl) (by simp [viewAt, verbosity?]) source busAddress
  · have hviews : deed.viewAt board =
        fun index => ⟨board.verbosityOf index, board.historyOf index⟩ := by
      funext index
      rw [viewAt, hnone, Option.getD_none]
    obtain ⟨hanswer, hafter⟩ := hrespects _ board board.bare board.mirrors_bare
    rw [hsame, hviews]
    exact ⟨hanswer, hafter.mono fun hmirrors => hmirrors.echoes⟩

theorem moves_apply (deed : Deed) (board : Board) :
    Moves (fun _ => True) (fun _ _ => True) board (deed.apply board).2 := by
  cases deed with
  | perform operation => exact moves_anything operation board
  | deliver index depth =>
      have huses : Uses (fun _ => True) (fun _ _ => True) board _ := uses_deliver index depth board
      exact related_bind huses.moves fun _ => follows_pure _

/-- No controller comes to be missing. -/
theorem missing_of_apply {board : Board} (deed : Deed)
    (hmissing : (deed.apply board).2.controllers[index]? = none) :
    board.controllers[index]? = none := by
  cases hfound : board.controllers[index]? with
  | none => rfl
  | some controller =>
      obtain ⟨after, hafter, -⟩ := (deed.moves_apply board).found hfound
      cases hmissing.symm.trans hafter

/-! ### Verbosities -/

/-- A controller takes on the verbosity of an initialization that succeeds, and keeps its own
otherwise. -/
theorem verbosityOf_apply (index : Nat) (deed : Deed) (board : Board) :
    (deed.apply board).2.verbosityOf index =
      (deed.adopted? index board).getD (board.verbosityOf index) := by
  rcases deed.init_or_respects with ⟨position, source, busAddress, config, rfl⟩ |
    ⟨-, hnone, hrespects⟩
  · have hopening : Opening position source busAddress config board
        (apply (perform (.controller position (.init source busAddress config))) board) :=
      opening_perform position source busAddress config board
    have hsame : ∀ {after : Board}, after.controllers = board.controllers →
        after.verbosityOf index = board.verbosityOf index := fun hcontrollers => by
      rw [verbosityOf, verbosityOf, hcontrollers]
    unfold adopted?
    generalize apply _ board = outcome at hopening ⊢
    cases hopening with
    | missing => rfl
    | waste htaken => exact hsame (takes_of_takeRegion htaken).frame.1
    | lose htaken hfound hlogs =>
        have htakes := takes_of_takeRegion htaken
        refine (verbosityOf_withDriver (htakes.found hfound) _ index).trans ?_
        rw [hlogs.aside.config, hsame htakes.frame.1]
        split
        next hthere => exact (verbosityOf_eq (hthere ▸ hfound)).symm
        · rfl
    | init htaken hfound hclosed =>
        have htakes := takes_of_takeRegion htaken
        dsimp only [verbosity?]
        rw [verbosityOf_withDriver (htakes.found hfound), Driver.config_opened,
          hsame htakes.frame.1]
        split
        · rfl
        · rfl
  · have hadopted : deed.adopted? index board = none := by
      unfold adopted?
      split
      · exact hnone index
      · rfl
    rw [hadopted, Option.getD_none]
    rcases (hrespects _ board board.bare board.mirrors_bare).2.found_or_missing index with
      ⟨hmissing, -⟩ | ⟨after, loud, hafter, -, hcontroller⟩
    · exact (verbosityOf_eq_none hmissing).trans
        (verbosityOf_eq_none (deed.missing_of_apply hmissing)).symm
    · refine (verbosityOf_eq hafter).trans ?_
      rw [hcontroller.abridged]
      rfl

/-- Only a controller without a region adopts a verbosity. -/
theorem closed_of_adopted {board : Board} {deed : Deed} {verbosity : Verbosity}
    (hadopted : deed.adopted? index board = some verbosity) :
    ∃ controller, board.controllers[index]? = some controller ∧ controller.setup = none := by
  rcases deed.init_or_respects with ⟨position, source, busAddress, config, rfl⟩ | ⟨-, hnone, -⟩
  · have hopening : Opening position source busAddress config board
        (apply (perform (.controller position (.init source busAddress config))) board) :=
      opening_perform position source busAddress config board
    unfold adopted? at hadopted
    generalize apply _ board = outcome at hopening hadopted
    cases hopening with
    | missing => cases hadopted
    | waste => cases hadopted
    | lose => cases hadopted
    | init htaken hfound hclosed =>
        dsimp only [verbosity?] at hadopted
        split at hadopted
        next hthere => exact ⟨_, hthere ▸ hfound, hclosed⟩
        · cases hadopted
  · unfold adopted? at hadopted
    split at hadopted
    · cases (hnone index).symm.trans hadopted
    · cases hadopted

/-- As long as a client holds a channel, its controller keeps the verbosity, so that it would
be the same to look at it once, when the channel is allocated. -/
theorem verbosityOf_held {board : Board} {handle : Handle} (hboard : board.Reachable)
    (hheld : handle ∈ board.handles) (deed : Deed) :
    (deed.apply board).2.verbosityOf handle.controller = board.verbosityOf handle.controller := by
  rw [verbosityOf_apply]
  cases hadopted : deed.adopted? handle.controller board with
  | none => rfl
  | some verbosity =>
      obtain ⟨controller, hfound, hclosed⟩ := closed_of_adopted hadopted
      obtain ⟨_, setup, _, hfound', hsetup, -⟩ := hboard.usable hheld
      cases hfound.symm.trans hfound'
      cases hclosed.symm.trans hsetup

/-! ### Deeds that differ in verbosities -/

variable {deed other : Deed} {first second : Board}

theorem withVerbosity_withVerbosity (verbosity verbosity' : Verbosity) (deed : Deed) :
    (deed.withVerbosity verbosity).withVerbosity verbosity' = deed.withVerbosity verbosity' := by
  rcases deed.init_or_respects with ⟨index, source, busAddress, config, rfl⟩ | ⟨hsame, -, -⟩
  · rfl
  · rw [hsame verbosity]

theorem verbosity?_withVerbosity (index : Nat) (verbosity : Verbosity) (deed : Deed) :
    (deed.withVerbosity verbosity).verbosity? index =
      (deed.verbosity? index).map fun _ => verbosity := by
  rcases deed.init_or_respects with ⟨position, source, busAddress, config, rfl⟩ |
    ⟨hsame, hnone, -⟩
  · dsimp only [withVerbosity, verbosity?]
    split
    · rfl
    · rfl
  · rw [hsame, hnone]
    rfl

theorem alike_withVerbosity (verbosity : Verbosity) (deed : Deed) :
    deed.Alike (deed.withVerbosity verbosity) :=
  (withVerbosity_withVerbosity verbosity none deed).symm

theorem isLoud_withVerbosity (deed : Deed) : (deed.withVerbosity (some .trace)).IsLoud := by
  intro index verbosity hown
  rw [verbosity?_withVerbosity] at hown
  obtain ⟨_, -, rfl⟩ := Option.map_eq_some_iff.mp hown
  rfl

theorem Alike.withVerbosity (halike : Alike deed other) (verbosity : Verbosity) :
    deed.withVerbosity verbosity = other.withVerbosity verbosity := by
  rw [← withVerbosity_withVerbosity none, halike, withVerbosity_withVerbosity]

theorem Alike.isSome_verbosity? (halike : Alike deed other) (index : Nat) :
    (deed.verbosity? index).isSome = (other.verbosity? index).isSome := by
  have hsame := congrArg (fun deed => (deed.verbosity? index).isSome) halike
  simpa only [verbosity?_withVerbosity, Option.isSome_map] using hsame

/-- Deeds that differ in verbosities have the same answers and effects. -/
theorem Alike.apply (halike : Alike deed other) (hmuted : first.muted = second.muted) :
    Agree (fun first second => first.muted = second.muted) (deed.apply first)
      (other.apply second) := by
  obtain ⟨hbare, hpast⟩ := bare_eq_of_muted_eq hmuted
  obtain ⟨hanswer, hechoes⟩ := deed.echoes first
  obtain ⟨hanswer', hechoes'⟩ := other.echoes second
  rw [halike.withVerbosity, hbare] at hanswer hechoes
  refine ⟨hanswer.trans hanswer'.symm, ?_⟩
  exact muted_eq_of_parallel (hechoes.join (fun hfirst hsecond => hfirst.muted_eq hsecond (hpast _))
    hechoes')

/-- What the deed adds to the history of a controller, most recent first. -/
def Adds (index : Nat) (events : List Event) (deed : Deed) (board : Board) : Prop :=
  (deed.apply board).2.historyOf index = events ++ board.historyOf index

/-- A deed adds what its verbosity admits of what it would add with the greatest one. -/
theorem adds (index : Nat) (deed : Deed) (board : Board) :
    deed.Adds index
      ((((deed.withVerbosity (some .trace)).apply board.bare).2.historyOf index).filter
        (·.isAdmitted (deed.viewAt board index).verbosity)) board := by
  rcases (deed.echoes board).2.found_or_missing index with
    ⟨hmissing, hloud⟩ | ⟨after, loud, hafter, hloud, hcontroller⟩
  · rw [Adds, historyOf_eq_nil hmissing, historyOf_eq_nil hloud,
      historyOf_eq_nil (deed.missing_of_apply hmissing)]
    rfl
  · rw [Adds, historyOf_eq hafter, historyOf_eq hloud]
    exact hcontroller.history

end Deed

/-! ## Runs -/

variable {board other : Board} {first second deeds : List Deed} {verbosity : Verbosity}

/-- Do something to a board, one thing after the other. -/
def doAll (deeds : List Deed) (board : Board) : Board :=
  deeds.foldl (fun board deed => (deed.apply board).2) board

/-- What comes of each deed. -/
def answers : List Deed → Board → List (Except Refusal Answer)
  | [], _ => []
  | deed :: deeds, board => (deed.apply board).1 :: answers deeds (deed.apply board).2

/-- The verbosity of the latest initialization of the controller that succeeded. -/
def latest? (index : Nat) : List Deed → Board → Option Verbosity
  | [], _ => none
  | deed :: deeds, board =>
      (latest? index deeds (deed.apply board).2).or (deed.adopted? index board)

theorem verbosityOf_doAll (index : Nat) (deeds : List Deed) (board : Board) :
    (board.doAll deeds).verbosityOf index =
      (latest? index deeds board).getD (board.verbosityOf index) := by
  induction deeds generalizing board with
  | nil => rfl
  | cons deed deeds ih =>
      rw [latest?, Option.getD_or, ← deed.verbosityOf_apply]
      exact ih _

theorem latest?_of_loud (hloud : ∀ deed ∈ deeds, deed.IsLoud)
    (hlatest : latest? index deeds board = some verbosity) : verbosity = some .trace := by
  induction deeds generalizing board with
  | nil => cases hlatest
  | cons deed deeds ih =>
      obtain ⟨hdeed, hdeeds⟩ := List.forall_mem_cons.mp hloud
      rcases Option.or_eq_some_iff.mp hlatest with hlater | ⟨-, hadopted⟩
      · exact ih hdeeds hlater
      · unfold Deed.adopted? at hadopted
        split at hadopted
        · exact hdeed _ _ hadopted
        · cases hadopted

/-- Runs that differ in verbosities have the same answers and effects. -/
theorem doAll_alike (hsame : List.Forall₂ Deed.Alike first second)
    (hmuted : board.muted = other.muted) :
    answers first board = answers second other ∧
      (board.doAll first).muted = (other.doAll second).muted := by
  induction hsame generalizing board other with
  | nil => exact ⟨rfl, hmuted⟩
  | cons halike _ ih =>
      obtain ⟨hanswer, hafter⟩ := halike.apply hmuted
      obtain ⟨hanswers, hlater⟩ := ih hafter
      exact ⟨List.cons_eq_cons.mpr ⟨hanswer, hanswers⟩, hlater⟩

/-- The same initializations succeed. -/
theorem isSome_latest? (hsame : List.Forall₂ Deed.Alike first second)
    (hmuted : board.muted = other.muted) (index : Nat) :
    (latest? index first board).isSome = (latest? index second other).isSome := by
  induction hsame generalizing board other with
  | nil => rfl
  | @cons deed deed' _ _ halike _ ih =>
      obtain ⟨hanswer, hafter⟩ := halike.apply hmuted
      have hadopted : (deed.adopted? index board).isSome = (deed'.adopted? index other).isSome := by
        unfold Deed.adopted?
        rw [hanswer]
        split
        · exact halike.isSome_verbosity? index
        · rfl
      rw [latest?, latest?, Option.isSome_or, Option.isSome_or, ih hafter, hadopted]

/-- Two runs that differ in the verbosities of initializations have the same answers and
effects. If the second one records all messages, then what a deed adds to the history of a
controller in the first run is what it adds in the second one, as far as the verbosity in force
admits it. The verbosity in force is that of the deed itself if it initializes the controller,
and that of the latest initialization that succeeded otherwise. -/
theorem verbosity_inert (hsame : List.Forall₂ Deed.Alike first second) (board : Board) :
    answers first board = answers second board ∧
      (board.doAll first).muted = (board.doAll second).muted ∧
      ((∀ deed ∈ second, deed.IsLoud) →
        ∀ (deed other : Deed) (index : Nat) (verbosity : Verbosity),
          deed.Alike other → other.IsLoud →
          (deed.verbosity? index).or (latest? index first board) = some verbosity →
            ∃ events, other.Adds index events (board.doAll second) ∧
              deed.Adds index (events.filter (·.isAdmitted verbosity)) (board.doAll first)) := by
  obtain ⟨hanswers, hmuted⟩ := doAll_alike hsame (Eq.refl board.muted)
  refine ⟨hanswers, hmuted, fun hloud deed other index verbosity halike hother hforce => ?_⟩
  have hquiet : (deed.viewAt (board.doAll first) index).verbosity = verbosity := by
    rw [Deed.viewAt, verbosityOf_doAll, ← Option.getD_or, hforce, Option.getD_some]
  have hgreatest : (other.viewAt (board.doAll second) index).verbosity = some .trace := by
    rw [Deed.viewAt, verbosityOf_doAll, ← Option.getD_or]
    have hforce' : ((other.verbosity? index).or (latest? index second board)).isSome := by
      rw [Option.isSome_or, ← halike.isSome_verbosity?, ← isSome_latest? hsame rfl,
        ← Option.isSome_or, hforce]
      rfl
    obtain ⟨greatest, hgreatest⟩ := Option.isSome_iff_exists.mp hforce'
    rw [hgreatest, Option.getD_some]
    rcases Option.or_eq_some_iff.mp hgreatest with hown | ⟨-, hlatest⟩
    · exact hother _ _ hown
    · exact latest?_of_loud hloud hlatest
  have hadds := deed.adds index (board.doAll first)
  have hadds' := other.adds index (board.doAll second)
  rw [hquiet, halike.withVerbosity, (bare_eq_of_muted_eq hmuted).1] at hadds
  rw [hgreatest, List.filter_eq_self.mpr fun event _ => event.isAdmitted_trace] at hadds'
  exact ⟨_, hadds', hadds⟩

/-- The registers are zero, so there is one channel and the bus carries single bytes. -/
def verboseOpening : List Deed :=
  [.perform (.controller 0 (.init (.fresh (List.replicate 256 0)) 0x1000
      ((Config.withBurst 1 4 {}).withVerbosity (some .debug)))),
    .perform (.controller 0 (.allocate 7 none))]

def ringSubmission : Deed :=
  .perform (.channel 7 (.submit ringOrder fun _ => []))

/-- Without the greatest verbosity, one of the messages is missing. -/
theorem verbosity_inert_small :
    answers verboseOpening smallBoard =
        answers (verboseOpening.map (·.withVerbosity (some .trace))) smallBoard ∧
      ringSubmission.Adds 0
        [.log (.started (.channel 0) 0x1000),
          .log (.executed (.channel 0) (.go 0 0x1000 false)),
          .issue (.channel 0) (.go 0 0x1000 false), .write .interruptEnable 1,
          .log (.programmed 0 47 2 6)]
        (smallBoard.doAll (verboseOpening.map (·.withVerbosity (some .trace)))) ∧
      ringSubmission.Adds 0
        [.log (.started (.channel 0) 0x1000), .issue (.channel 0) (.go 0 0x1000 false),
          .write .interruptEnable 1, .log (.programmed 0 47 2 6)]
        (smallBoard.doAll verboseOpening) := by
  have halike : List.Forall₂ Deed.Alike verboseOpening
      (verboseOpening.map (·.withVerbosity (some .trace))) :=
    List.forall₂_map_right_iff.mpr
      (List.forall₂_same.mpr fun deed _ => deed.alike_withVerbosity (some .trace))
  have hloud : ∀ deed ∈ verboseOpening.map (·.withVerbosity (some .trace)), deed.IsLoud :=
    List.forall_mem_map.mpr fun deed _ => deed.isLoud_withVerbosity
  have hforce : (ringSubmission.verbosity? 0).or (latest? 0 verboseOpening smallBoard) =
      some (some .debug) := by
    decide +kernel
  have hadds : ringSubmission.Adds 0
      [.log (.started (.channel 0) 0x1000), .log (.executed (.channel 0) (.go 0 0x1000 false)),
        .issue (.channel 0) (.go 0 0x1000 false), .write .interruptEnable 1,
        .log (.programmed 0 47 2 6)]
      (smallBoard.doAll (verboseOpening.map (·.withVerbosity (some .trace)))) := by
    unfold Deed.Adds
    decide +kernel
  obtain ⟨hanswers, -, hrecords⟩ := verbosity_inert halike smallBoard
  obtain ⟨events, hsecond, hfirst⟩ := hrecords hloud ringSubmission ringSubmission 0 (some .debug)
    rfl (fun _ _ hnone => by cases hnone) hforce
  obtain rfl := List.append_cancel_right (hsecond.symm.trans hadds)
  exact ⟨hanswers, hadds, hfirst⟩

end Board

end CyclicDma
