import CyclicDma.Board.Step
import CyclicDma.Proofs.Driver.Demands

/-! # Work on a board

An operation of a board asks the drivers of its controllers for something, one at a
time, and changes what clients hold in between. The drivers make moves; apart from
initializing, allocating, releasing and handing back, they only use their
controllers, and what clients hold stays the same up to futures and ids.
-/

namespace CyclicDma

variable {allowed : Disturbance → Prop} {held : Nat → Nat → Prop}

/-! ## What operations let happen -/

def ControllerOperation.Causes (allowed : Disturbance → Prop) : ControllerOperation → Prop
  | change changes => ∀ change ∈ changes, allowed (.change change.1 change.2)
  | stopManager world => world.Causes allowed
  | _ => True

def ChannelOperation.Causes (allowed : Disturbance → Prop) : ChannelOperation → Prop
  | submit _ world | start world | stop world => world.Causes allowed
  | _ => True

def FutureOperation.Causes (allowed : Disturbance → Prop) : FutureOperation → Prop
  | block turns => ∀ time, ∀ change ∈ (turns time).changes, allowed (.change change.1 change.2)
  | _ => True

/-- Only what is allowed happens at the controllers during the operation. -/
def Operation.Causes (allowed : Disturbance → Prop) : Operation → Prop
  | controller _ operation => operation.Causes allowed
  | channel _ operation => operation.Causes allowed
  | future _ operation => operation.Causes allowed
  | _ => True

/-- Anything may happen during an operation, unless something is forbidden. -/
theorem Operation.causes_anything (operation : Operation) :
    operation.Causes fun _ => True := by
  have hworld : ∀ world : World, world.Causes fun _ => True := fun _ _ _ _ => trivial
  cases operation with
  | controller index operation =>
      cases operation with
      | change => exact fun _ _ => trivial
      | stopManager world => exact hworld world
      | _ => trivial
  | channel name operation =>
      cases operation with
      | submit _ world | start world | stop world => exact hworld world
      | _ => trivial
  | future name operation =>
      cases operation with
      | block => exact fun _ _ _ => trivial
      | _ => trivial
  | references | memory => trivial

/-- The operation initializes a controller, hands a region back, or changes who
holds which channel. -/
def Operation.Manages : Operation → Prop
  | controller _ (.init ..) | controller _ (.allocate ..) | controller _ (.release _)
  | controller _ .deinit | channel _ .abandon => True
  | _ => False

/-! ## What operations ask for -/

open Driver (Demand)

/-- The operation may ask for something of the controller at an index. -/
def ControllerOperation.Asks (index : Nat) (board : Board) :
    ControllerOperation → Demand → Prop
  | change changes, demand => demand = .change changes
  | init _ busAddress config, demand => ∃ region, demand = .init region busAddress config
  | allocate _ channel?, demand => demand = .allocate channel?
  | release name, demand =>
      ∃ handle, board.handle? name = some handle ∧ handle.controller = index ∧
        demand = .release handle.channel
  | stopManager world, demand => ∃ start, demand = .stopManager (world.delayed start)
  | deinit, demand => demand = .deinit
  | interrupt, demand => demand = .interrupt
  | dispatch, demand => demand = .deliver 1
  | removeOwner owner, demand => demand = .removeOwner owner
  | _, _ => False

/-- The operation may ask for something that concerns a channel. -/
def ChannelOperation.Asks (channel : Nat) : ChannelOperation → Demand → Prop
  | submit order world, demand => ∃ start, demand = .submit (world.delayed start) channel order
  | start world, demand => ∃ start, demand = .start (world.delayed start) channel
  | stop world, demand => ∃ start, demand = .stop (world.delayed start) channel
  | register callback context owner, demand => demand = .register channel callback context owner
  | unregister _, demand => ∃ id, demand = .unregister channel id
  | _, _ => False

/-- The operation may ask for something that concerns a future. Whoever blocks on it
goes through turns. -/
def FutureOperation.Asks (future : PeriodFuture) : FutureOperation → Demand → Prop
  | poll waker, demand => demand = .poll future waker
  | block turns, demand =>
      (∃ time, demand = .change (turns time).changes) ∨ demand = .interrupt ∨
        (∃ handled, demand = .interrupted handled) ∨ demand = .deliver 1 ∨
        demand = .poll future .silent
  | drop, _ => False

/-- The operation may ask for something of the controller at an index. -/
def Operation.Asks (board : Board) : Operation → Nat → Demand → Prop
  | controller index operation, other, demand =>
      other = index ∧ operation.Asks index board demand
  | channel name operation, index, demand =>
      ∃ handle, board.handle? name = some handle ∧ index = handle.controller ∧
        operation.Asks handle.channel demand
  | future name operation, index, demand =>
      ∃ held, board.future? name = some held ∧ index = held.controller ∧
        operation.Asks held.future demand
  | _, _, _ => False

section

variable {board : Board} {operation : Operation} {index : Nat} {demand : Demand}

/-- What is asked for is as harmless as the operation. -/
theorem Operation.within_of_asks
    (hheld : ∀ name request, operation = .channel name request →
      ∀ handle ∈ board.handle? name, held handle.controller handle.channel)
    (hcauses : operation.Causes allowed) (hasks : operation.Asks board index demand) :
    demand.Within allowed (held index) := by
  cases operation with
  | controller other operation =>
      obtain ⟨-, hasks⟩ := hasks
      cases operation with
      | change => exact hasks ▸ hcauses
      | init =>
          obtain ⟨region, rfl⟩ := hasks
          trivial
      | release =>
          obtain ⟨handle, -, -, rfl⟩ := hasks
          trivial
      | stopManager =>
          obtain ⟨start, rfl⟩ := hasks
          exact World.Causes.delayed hcauses start
      | allocate | deinit | interrupt | dispatch | removeOwner => exact hasks ▸ trivial
      | device | managerState | managerFault => exact hasks.elim
  | channel name operation =>
      obtain ⟨handle, hhandle, rfl, hasks⟩ := hasks
      have hchannel := hheld name operation rfl handle hhandle
      cases operation with
      | submit | start | stop =>
          obtain ⟨start, rfl⟩ := hasks
          exact ⟨World.Causes.delayed hcauses start, hchannel⟩
      | register => exact hasks ▸ hchannel
      | unregister =>
          obtain ⟨id, rfl⟩ := hasks
          exact hchannel
      | state | inspect | nextPeriod | abandon => exact hasks.elim
  | future name operation =>
      obtain ⟨future, -, -, hasks⟩ := hasks
      cases operation with
      | poll => exact hasks ▸ trivial
      | block =>
          rcases hasks with ⟨time, rfl⟩ | rfl | ⟨handled, rfl⟩ | rfl | rfl
          · exact hcauses time
          all_goals trivial
      | drop => exact hasks.elim
  | references | memory => exact hasks.elim

/-- What concerns a channel is asked for by name. -/
theorem Operation.exists_of_concerns {channel : Nat} (hasks : operation.Asks board index demand)
    (hconcerns : demand.Concerns channel) :
    ∃ name handle request, operation = .channel name request ∧
      board.handle? name = some handle ∧ handle.controller = index ∧ handle.channel = channel ∧
      request.Asks channel demand := by
  cases operation with
  | controller other operation =>
      obtain ⟨-, hasks⟩ := hasks
      cases operation with
      | change | allocate | deinit | interrupt | dispatch | removeOwner =>
          rw [show demand = _ from hasks] at hconcerns
          exact hconcerns.elim
      | init | stopManager =>
          obtain ⟨_, rfl⟩ := hasks
          exact hconcerns.elim
      | release =>
          obtain ⟨_, -, -, rfl⟩ := hasks
          exact hconcerns.elim
      | device | managerState | managerFault => exact hasks.elim
  | channel name request =>
      obtain ⟨handle, hhandle, rfl, hasks⟩ := hasks
      have hchannel : handle.channel = channel := by
        cases request with
        | submit | start | stop | unregister =>
            obtain ⟨_, rfl⟩ := hasks
            exact hconcerns
        | register =>
            rw [show demand = _ from hasks] at hconcerns
            exact hconcerns
        | state | inspect | nextPeriod | abandon => exact hasks.elim
      exact ⟨name, handle, request, rfl, hhandle, rfl, hchannel, hchannel ▸ hasks⟩
  | future name operation =>
      obtain ⟨_, -, -, hasks⟩ := hasks
      cases operation with
      | poll =>
          rw [show demand = _ from hasks] at hconcerns
          exact hconcerns.elim
      | block => rcases hasks with ⟨_, rfl⟩ | rfl | ⟨_, rfl⟩ | rfl | rfl <;> exact hconcerns.elim
      | drop => exact hasks.elim
  | references | memory => exact hasks.elim

/-- Only an operation that manages the controllers asks for that. -/
theorem Operation.manages_of_asks (hasks : operation.Asks board index demand)
    (hmanages : demand.Manages) : operation.Manages := by
  cases operation with
  | controller other operation =>
      obtain ⟨-, hasks⟩ := hasks
      cases operation with
      | init | allocate | release | deinit => trivial
      | change | interrupt | dispatch | removeOwner =>
          rw [show demand = _ from hasks] at hmanages
          exact hmanages
      | stopManager =>
          obtain ⟨start, rfl⟩ := hasks
          exact hmanages
      | device | managerState | managerFault => exact hasks.elim
  | channel name operation =>
      obtain ⟨handle, -, -, hasks⟩ := hasks
      cases operation with
      | submit | start | stop | unregister =>
          obtain ⟨_, rfl⟩ := hasks
          exact hmanages
      | register =>
          rw [show demand = _ from hasks] at hmanages
          exact hmanages
      | state | inspect | nextPeriod | abandon => exact hasks.elim
  | future name operation =>
      obtain ⟨future, -, -, hasks⟩ := hasks
      cases operation with
      | poll =>
          rw [show demand = _ from hasks] at hmanages
          exact hmanages
      | block => rcases hasks with ⟨time, rfl⟩ | rfl | ⟨handled, rfl⟩ | rfl | rfl <;> exact hmanages
      | drop => exact hasks.elim
  | references | memory => exact hasks.elim

end

namespace Board

/-! ## Work -/

/-- The board when the driver of one controller has done something. -/
def withDriver (index : Nat) (driver : Driver) (board : Board) : Board :=
  { board with
    controllers := board.controllers.set index driver.controller
    references := driver.references }

/-- One controller and the references are worked on, or what clients hold
changes. -/
inductive Work (relation : Nat → Driver → Driver → Prop) (hold : Board → Board → Prop) :
    Board → Board → Prop
  | driver {board : Board} {index controller driver}
      (hfound : board.controllers[index]? = some controller)
      (hdriver : relation index ⟨controller, board.references⟩ driver) :
      Work relation hold board (board.withDriver index driver)
  | hold {before after : Board} (hcontrollers : after.controllers = before.controllers)
      (hreferences : after.references = before.references) (hhold : hold before after) :
      Work relation hold before after

/-- Any amount of work. -/
abbrev Works (relation : Nat → Driver → Driver → Prop) (hold : Board → Board → Prop) :
    Board → Board → Prop :=
  Relation.ReflTransGen (Work relation hold)

/-- The channel of a future is held by a client. -/
def Lends (held : HeldFuture) (board : Board) : Prop :=
  ∃ handle ∈ board.handles, handle.controller = held.controller ∧
    handle.channel = held.future.channel

/-- Who holds which channel is as before, and so is where the regions are. New futures
are those of channels that are held. -/
structure SameHolding (before after : Board) : Prop where
  handles : after.handles = before.handles
  abandoned : after.abandoned = before.abandoned
  spare : after.spare = before.spare
  lost : after.lost = before.lost
  regions : after.regions = before.regions
  futures : ∀ held ∈ after.futures, held ∈ before.futures ∨ before.Lends held

/-- Drivers make moves, and clients may hold anything afterwards. -/
abbrev Moves (allowed : Disturbance → Prop) (held : Nat → Nat → Prop) : Board → Board → Prop :=
  Works (fun index => Driver.Moves allowed (held index)) fun _ _ => True

/-- Drivers use their controllers, and clients hold what they held before. -/
abbrev Uses (allowed : Disturbance → Prop) (held : Nat → Nat → Prop) : Board → Board → Prop :=
  Works (fun index => Driver.Uses allowed (held index)) SameHolding

variable {relation : Nat → Driver → Driver → Prop} {hold : Board → Board → Prop}
variable {before after : Board}

theorem Works.mono {wider : Nat → Driver → Driver → Prop} {looser : Board → Board → Prop}
    (hrelation : ∀ index before after, relation index before after → wider index before after)
    (hloose : ∀ before after, hold before after → looser before after)
    (hworks : Works relation hold before after) : Works wider looser before after := by
  refine Relation.ReflTransGen.mono (fun before after hwork => ?_) _ _ hworks
  cases hwork with
  | driver hfound hdriver => exact .driver hfound (hrelation _ _ _ hdriver)
  | hold hcontrollers hreferences hhold => exact .hold hcontrollers hreferences (hloose _ _ hhold)

theorem Uses.moves (huses : Uses allowed held before after) : Moves allowed held before after :=
  Works.mono (fun _ _ _ => Driver.Uses.moves) (fun _ _ _ => trivial) huses

/-- What holds of a board is kept by work if it is kept by work on one controller
and by what clients do. -/
theorem Works.keep (invariant : Board → Prop) (hworks : Works relation hold before after)
    (hdriver : ∀ (board : Board) index controller driver,
      board.controllers[index]? = some controller →
      relation index ⟨controller, board.references⟩ driver → invariant board →
      invariant (board.withDriver index driver))
    (hhold : ∀ before after, after.controllers = before.controllers →
      after.references = before.references → hold before after → invariant before →
      invariant after)
    (hbefore : invariant before) : invariant after := by
  induction hworks with
  | refl => exact hbefore
  | tail _ hwork ih =>
      cases hwork with
      | driver hfound hrelation => exact hdriver _ _ _ _ hfound hrelation ih
      | hold hcontrollers hreferences hhelp => exact hhold _ _ hcontrollers hreferences hhelp ih

theorem SameHolding.refl (board : Board) : SameHolding board board :=
  ⟨rfl, rfl, rfl, rfl, rfl, fun _ => .inl⟩

theorem sameHolding_dropFutures (handle : Handle) (board : Board) :
    SameHolding board (board.dropFutures handle) :=
  ⟨rfl, rfl, rfl, rfl, rfl, fun _ hmem => .inl (List.mem_of_mem_filter hmem)⟩

theorem Uses.sameHolding (huses : Uses allowed held before after) : SameHolding before after := by
  refine Works.keep (SameHolding before) huses ?_ ?_ (.refl before)
  · intro board index controller driver _ _ hsame
    exact ⟨hsame.handles, hsame.abandoned, hsame.spare, hsame.lost, hsame.regions, hsame.futures⟩
  · intro middle after _ _ hlater hsame
    refine ⟨hlater.handles.trans hsame.handles, hlater.abandoned.trans hsame.abandoned,
      hlater.spare.trans hsame.spare, hlater.lost.trans hsame.lost,
      hlater.regions.trans hsame.regions, fun held hmem => ?_⟩
    rcases hlater.futures held hmem with hmem | ⟨handle, hhandle, hlent⟩
    · exact hsame.futures held hmem
    · exact .inr ⟨handle, hsame.handles ▸ hhandle, hlent⟩

/-! ## Parts of operations -/

variable {α : Type}

theorem existing_eq_ok {value? : Option α} {value : α} {board after : Board}
    (hdone : (existing value?).run.run board = (.ok value, after)) :
    value? = some value ∧ board = after := by
  cases value? with
  | none => cases hdone
  | some found =>
      cases hdone
      exact ⟨rfl, rfl⟩

section

variable {board : Board} {controller : Controller} {index : Nat}

theorem withDriver_self (hfound : board.controllers[index]? = some controller) :
    board.withDriver index ⟨controller, board.references⟩ = board := by
  obtain ⟨hbound, rfl⟩ := List.getElem?_eq_some_iff.mp hfound
  rw [withDriver, List.set_getElem_self]

theorem withDriver_withDriver (index : Nat) (first second : Driver) (board : Board) :
    (board.withDriver index first).withDriver index second = board.withDriver index second := by
  rw [withDriver, withDriver, withDriver, List.set_set]

theorem found_withDriver (hfound : board.controllers[index]? = some controller) (driver : Driver) :
    (board.withDriver index driver).controllers[index]? = some driver.controller := by
  obtain ⟨hbound, -⟩ := List.getElem?_eq_some_iff.mp hfound
  exact List.getElem?_set_self hbound

/-- What is done to one controller is followed by a preorder that everything done to that
controller follows, whatever is done to the others. -/
theorem Works.related {follows : Controller → Controller → Prop} [Std.Refl follows]
    [IsTrans Controller follows] (hworks : Works relation hold before after)
    (hdriver : ∀ earlier later, relation index earlier later →
      follows earlier.controller later.controller)
    (hfound : before.controllers[index]? = some controller) :
    ∃ last, after.controllers[index]? = some last ∧ follows controller last := by
  refine hworks.keep (fun board => ∃ last, board.controllers[index]? = some last ∧
    follows controller last) ?_ ?_ ⟨controller, hfound, Std.Refl.refl controller⟩
  · intro board other middle driver hother hserves ⟨last, hlast, hrelated⟩
    by_cases hsame : other = index
    · subst hsame
      cases hother.symm.trans hlast
      exact ⟨_, found_withDriver hother driver, IsTrans.trans _ _ _ hrelated (hdriver _ _ hserves)⟩
    · exact ⟨last, (List.getElem?_set_ne hsame).trans hlast, hrelated⟩
  · intro middle later hcontrollers _ _ ⟨last, hlast, hrelated⟩
    exact ⟨last, hcontrollers ▸ hlast, hrelated⟩

/-- The controllers keep their numbers of channels if the one that the driver acts on
does. -/
theorem map_managed_withDriver {driver : Driver}
    (hfound : board.controllers[index]? = some controller)
    (hmanaged : driver.controller.managed = controller.managed) :
    (board.withDriver index driver).controllers.map (·.managed) =
      board.controllers.map (·.managed) := by
  obtain ⟨hbound, rfl⟩ := List.getElem?_eq_some_iff.mp hfound
  rw [withDriver, List.map_set, hmanaged, ← List.map_set, List.set_getElem_self]

theorem run_onDriver (hfound : board.controllers[index]? = some controller)
    (action : StateM Driver α) :
    (onDriver index action).run.run board =
      (.ok (action.run ⟨controller, board.references⟩).1,
        board.withDriver index (action.run ⟨controller, board.references⟩).2) := by
  have hexisting : (existing board.controllers[index]?).run.run board = (.ok controller, board) := by
    rw [hfound]
    rfl
  exact (run_bind_of_ok rfl _).trans (run_bind_of_ok hexisting _)

theorem run_onDriver_of_none (hmissing : board.controllers[index]? = none)
    (action : StateM Driver α) :
    (onDriver index action).run.run board = (.error .unknown, board) := by
  have hexisting : (existing board.controllers[index]?).run.run board =
      (.error .unknown, board) := by
    rw [hmissing]
    rfl
  exact (run_bind_of_ok rfl _).trans (run_bind_of_error hexisting _)

theorem run_view (hfound : board.controllers[index]? = some controller) (query : Controller → α) :
    (view index query).run.run board = (.ok (query controller), board) := by
  refine (run_onDriver hfound _).trans ?_
  exact congrArg (Prod.mk (Except.ok (query controller))) (withDriver_self hfound)

end

theorem works_existing (value? : Option α) : Follows (Works relation hold) (existing value?) := by
  cases value? with
  | none => exact follows_throw _
  | some value => exact follows_pure _

theorem works_onDriver (index : Nat) {action : StateM Driver α}
    (haction : ∀ driver, relation index driver (action.run driver).2) :
    Follows (Works relation hold) (onDriver index action) := by
  refine follows_get_bind fun board => ?_
  cases hfound : board.controllers[index]? with
  | none => exact follows_throw_bind _ _ board
  | some controller => exact .single (.driver hfound (haction _))

theorem works_succeed (result : Except DmaError α) :
    Follows (Works relation hold) (succeed result) := by
  cases result with
  | error error => exact follows_throw _
  | ok value => exact follows_pure _

theorem works_attempt (index : Nat) {action : Attempt Driver α}
    (haction : Follows (relation index) action) :
    Follows (Works relation hold) (attempt index action) :=
  (works_onDriver index haction).bind works_succeed

theorem works_view [∀ index, Std.Refl (relation index)] (index : Nat) (query : Controller → α) :
    Follows (Works relation hold) (view index query) :=
  works_onDriver index fun driver => Std.Refl.refl driver

theorem works_modify {change : Board → Board} (hhold : ∀ board, hold board (change board))
    (hcontrollers : ∀ board, (change board).controllers = board.controllers := by exact fun _ => rfl)
    (hreferences : ∀ board, (change board).references = board.references := by
      exact fun _ => rfl) :
    Follows (Works relation hold) (modify change : Step PUnit) :=
  follows_modify fun board => .single (.hold (hcontrollers board) (hreferences board) (hhold board))

theorem works_during [∀ index, Std.Refl (relation index)] (index : Nat) (world : World) :
    Follows (Works relation hold) (during index world) :=
  (works_view index _).bind fun _ => follows_pure _

/-- A request to a channel takes the futures of the channel away. -/
theorem works_exclusively (handle : Handle) {action : Attempt Driver α}
    (hhold : ∀ board : Board, hold board (board.dropFutures handle))
    (haction : Follows (relation handle.controller) action) :
    Follows (Works relation hold) (exclusively handle action) :=
  Follows.bind (works_modify hhold) fun _ => works_attempt handle.controller haction

/-! ## What is asked is done -/

/-- What is asked of drivers is done, and clients may do something in between. -/
abbrev Serves (asked : Nat → Demand → Prop) (hold : Board → Board → Prop) : Board → Board → Prop :=
  Works (fun index => Driver.Serves (asked index)) hold

theorem yields_during (index : Nat) (world : World) :
    Yields (fun noticed => ∃ start, noticed = world.delayed start) (during index world) := by
  intro board value after hdone
  obtain ⟨clock, middle, -, hrest⟩ := run_bind_eq_ok hdone
  cases hrest
  exact ⟨clock, rfl⟩

theorem uses_deliver (index depth : Nat) :
    Follows (Uses allowed held) (onDriver index fun driver => ((), driver.dispatchNested depth)) :=
  works_onDriver index (Driver.delivering_uses.dispatchNested depth)

section

variable {asked : Nat → Demand → Prop} {index : Nat}

theorem serves_onDriver {action : StateM Driver α} {demand : Demand} (hasked : asked index demand)
    (haction : ∀ driver, (action.run driver).2 = demand.perform driver) :
    Follows (Serves asked hold) (onDriver index action) := by
  apply works_onDriver index
  intro driver
  rw [haction]
  exact .single hasked driver

theorem serves_attempt {action : Attempt Driver α} {demand : Demand} (hasked : asked index demand)
    (haction : ∀ driver, (action.perform driver).2 = demand.perform driver) :
    Follows (Serves asked hold) (attempt index action) :=
  (serves_onDriver hasked haction).bind works_succeed

theorem addHandle_frame (handle : Handle) (board : Board) :
    (board.addHandle handle).controllers = board.controllers ∧
      (board.addHandle handle).references = board.references := by
  unfold addHandle
  cases board.handle? handle.name <;> exact ⟨rfl, rfl⟩

/-! ### Operations that use a controller -/

variable (hsame : ∀ before after, SameHolding before after → hold before after)

include hsame

theorem serves_modify {change : Board → Board}
    (hholding : ∀ board, SameHolding board (change board))
    (hcontrollers : ∀ board, (change board).controllers = board.controllers := by exact fun _ => rfl)
    (hreferences : ∀ board, (change board).references = board.references := by exact fun _ => rfl) :
    Follows (Serves asked hold) (modify change : Step PUnit) :=
  works_modify (fun board => hsame _ _ (hholding board)) hcontrollers hreferences

/-- The futures of a channel are taken away. -/
theorem serves_dropFutures (handle : Handle) :
    Follows (Serves asked hold) (modify (·.dropFutures handle) : Step PUnit) :=
  serves_modify hsame (sameHolding_dropFutures handle)

/-- A demand that concerns a channel takes the futures of the channel away. -/
theorem serves_exclusively (handle : Handle) {action : Attempt Driver α} {demand : Demand}
    (hasked : asked handle.controller demand)
    (haction : ∀ driver, (action.perform driver).2 = demand.perform driver) :
    Follows (Serves asked hold) (exclusively handle action) :=
  Follows.bind (serves_dropFutures hsame handle) fun _ => serves_attempt hasked haction

/-- A client that holds the channel makes a future for its next period. -/
theorem serves_nextPeriod {board : Board} {handle : Handle} (hhandle : handle ∈ board.handles)
    (name : Nat) :
    Serves asked hold board ((stepChannel handle (.nextPeriod name)).run.run board).2 := by
  have hadded : ∀ future : PeriodFuture, future.channel = handle.channel →
      SameHolding board (board.addFuture ⟨name, handle.controller, future⟩) := by
    refine fun future hchannel => ⟨rfl, rfl, rfl, rfl, rfl, fun held hmem => ?_⟩
    rcases List.mem_append.mp hmem with hformer | hnew
    · exact .inl (List.mem_of_mem_filter hformer)
    · rw [List.mem_singleton.mp hnew]
      exact .inr ⟨handle, hhandle, rfl, hchannel.symm⟩
  unfold stepChannel
  dsimp only
  cases hfound : board.controllers[handle.controller]? with
  | none =>
      have hview : (view handle.controller (·.nextPeriod handle.channel)).run.run board =
          (.error .unknown, board) := run_onDriver_of_none hfound _
      rw [run_bind_of_error hview]
  | some controller =>
      rw [run_bind_of_ok (run_view hfound _)]
      exact .single (.hold rfl rfl (hsame _ _ (hadded _ rfl)))

theorem serves_stepChannel {handle : Handle} {operation : ChannelOperation}
    (hasked : ∀ demand, operation.Asks handle.channel demand → asked handle.controller demand)
    {board : Board} (hhandle : handle ∈ board.handles) (huse : operation ≠ .abandon) :
    Serves asked hold board ((stepChannel handle operation).run.run board).2 := by
  cases operation with
  | state | inspect => exact ((works_view _ _).bind fun _ => follows_pure _) board
  | nextPeriod name => exact serves_nextPeriod hsame hhandle name
  | submit order world =>
      refine ((works_during _ world).bind_of_yields (yields_during _ world) ?_) board
      rintro _ ⟨start, rfl⟩
      exact (serves_exclusively hsame handle (hasked _ ⟨start, rfl⟩) fun _ => rfl).bind
        fun _ => follows_pure _
  | start world =>
      refine ((works_during _ world).bind_of_yields (yields_during _ world) ?_) board
      rintro _ ⟨start, rfl⟩
      exact (serves_exclusively hsame handle (hasked _ ⟨start, rfl⟩) fun _ => rfl).bind
        fun _ => follows_pure _
  | stop world =>
      refine ((works_during _ world).bind_of_yields (yields_during _ world) ?_) board
      rintro _ ⟨start, rfl⟩
      exact (serves_exclusively hsame handle (hasked _ ⟨start, rfl⟩) fun _ => rfl).bind
        fun _ => follows_pure _
  | register callback context owner =>
      refine ((serves_exclusively hsame handle (hasked _ rfl) fun _ => rfl).bind fun id => ?_) board
      refine Follows.bind (serves_modify hsame fun _ => ?_) fun _ => follows_pure _
      exact ⟨rfl, rfl, rfl, rfl, rfl, fun _ => .inl⟩
  | unregister number =>
      refine Follows.bind (serves_dropFutures hsame handle) (fun _ => ?_) board
      refine follows_get_bind fun board => ?_
      refine (works_existing _).bind (fun id => ?_) board
      exact (serves_attempt (hasked _ ⟨id, rfl⟩) fun _ => rfl).bind fun _ => follows_pure _
  | abandon => exact absurd rfl huse

omit hsame

theorem serves_takeTurn {asked : Demand → Prop} {future : PeriodFuture} {turns : Nat → Turn}
    (hasked : ∀ demand, FutureOperation.Asks future (.block turns) demand → asked demand)
    (time : Nat) (driver : Driver) :
    Driver.Serves asked driver (takeTurn (turns time) driver) := by
  have hchanged : Driver.Serves asked driver
      (driver.update (·.changeAll (turns time).changes)) :=
    .single (hasked _ (.inl ⟨time, rfl⟩)) driver
  unfold takeTurn
  dsimp only
  generalize driver.update (·.changeAll (turns time).changes) = changed at hchanged ⊢
  have hinterrupted : Driver.Serves asked driver
      (if (turns time).interrupt then
        changed.onInterrupt.2.update (·.record (.interrupted changed.onInterrupt.1))
      else changed) := by
    split
    · exact (hchanged.tail ⟨_, hasked _ (.inr (.inl rfl)), rfl⟩).tail
        ⟨_, hasked _ (.inr (.inr (.inl ⟨_, rfl⟩))), rfl⟩
    · exact hchanged
  split
  · exact hinterrupted.tail ⟨_, hasked _ (.inr (.inr (.inr (.inl rfl)))), rfl⟩
  · exact hinterrupted

theorem serves_pollBlocked {asked : Demand → Prop} {future : PeriodFuture} {turns : Nat → Turn}
    (hasked : ∀ demand, FutureOperation.Asks future (.block turns) demand → asked demand)
    (polls : Nat) (driver : Driver) :
    Driver.Serves asked driver (pollBlocked turns future (polls, driver)).2.2 := by
  have hturn := serves_takeTurn hasked (polls + 1) driver
  unfold pollBlocked
  dsimp only
  generalize takeTurn (turns (polls + 1)) driver = ready at hturn ⊢
  have hpolled := hturn.tail ⟨_, hasked _ (.inr (.inr (.inr (.inr rfl)))), rfl⟩
  cases hpoll : ready.controller.pollPeriod future .silent with
  | mk answer controller =>
      rw [Demand.perform, hpoll] at hpolled
      cases answer <;> exact hpolled

theorem serves_block {asked : Demand → Prop} {future : PeriodFuture} {turns : Nat → Turn}
    (hasked : ∀ demand, FutureOperation.Asks future (.block turns) demand → asked demand)
    (bound polls : Nat) (driver : Driver) :
    Driver.Serves asked driver
      (Poll.block (pollBlocked turns future) bound (polls, driver)).2.2 := by
  -- a poll that is not ready yet is followed by fewer ones
  induction bound generalizing polls driver with
  | zero => exact .refl
  | succ bound ih =>
      have hpoll := serves_pollBlocked hasked polls driver
      unfold Poll.block
      generalize pollBlocked turns future (polls, driver) = polled at hpoll ⊢
      obtain ⟨answer, later, next⟩ := polled
      cases answer with
      | pending => exact hpoll.trans (ih later next)
      | ready value => exact hpoll

include hsame

theorem serves_stepFuture (future : HeldFuture) {operation : FutureOperation}
    (hasked : ∀ demand, operation.Asks future.future demand → asked future.controller demand) :
    Follows (Serves asked hold) (stepFuture future operation) := by
  cases operation with
  | poll waker =>
      refine (serves_onDriver (hasked _ rfl) fun _ => rfl).bind fun answer => ?_
      cases answer with
      | pending => exact follows_pure _
      | ready result => exact (works_succeed result).bind fun _ => follows_pure _
  | block turns =>
      refine (works_onDriver _ fun driver => ?_).bind fun answer => ?_
      · exact serves_block hasked pollBound 0 driver
      · cases answer with
        | none => exact follows_throw _
        | some answer => exact follows_pure _
  | drop =>
      refine Follows.bind (serves_modify hsame fun _ => ?_) fun _ => follows_pure _
      exact ⟨rfl, rfl, rfl, rfl, rfl, fun _ hmem => .inl (List.mem_of_mem_filter hmem)⟩

omit hsame

/-! ### Operations that manage controllers -/

variable (hfree : ∀ before after, hold before after)

include hfree

theorem works_takeRegion (source : RegionSource) :
    Follows (Works relation hold) (takeRegion source) := by
  refine follows_get_bind fun board => ?_
  cases source with
  | fresh bytes => exact .single (.hold rfl rfl (hfree ..))
  | returned number =>
      cases hfound : board.spare.find? (·.number = number) with
      | none =>
          simp only [hfound]
          exact follows_throw_bind _ _ board
      | some region =>
          simp only [hfound]
          exact .single (.hold rfl rfl (hfree ..))

theorem serves_init {source : RegionSource} {busAddress : UInt32} {config : Config}
    (hasked : ∀ region, asked index (.init region busAddress config)) :
    Follows (Serves asked hold) (stepController index (.init source busAddress config)) := by
  refine (works_takeRegion hfree source).bind fun region => ?_
  refine (serves_onDriver (hasked region) fun _ => rfl).bind fun result => ?_
  cases result with
  | ok device => exact follows_pure _
  | error error => exact Follows.bind (works_modify fun _ => hfree ..) fun _ => follows_throw _

theorem serves_allocate {name : Nat} {channel? : Option Nat}
    (hasked : asked index (.allocate channel?)) :
    Follows (Serves asked hold) (stepController index (.allocate name channel?)) := by
  refine (serves_attempt hasked fun _ => rfl).bind fun channel => ?_
  exact Follows.bind (works_modify (fun _ => hfree ..) (fun board => (addHandle_frame _ board).1)
    fun board => (addHandle_frame _ board).2) fun _ => follows_pure _

/-- The channel that the name stands for is released. -/
theorem serves_release {name : Nat} {board : Board}
    (hasked : ∀ handle, board.handle? name = some handle → handle.controller = index →
      asked index (.release handle.channel)) :
    Serves asked hold board (board.perform (.controller index (.release name))).2 := by
  change Serves asked hold board
    ((existing (board.handle? name) >>= fun handle => do
      modify (·.dropFutures handle)
      if handle.controller ≠ index then
        throw (.failed .invalidHandle)
      attempt index (Driver.release handle.channel)
      modify fun board => { board with handles := board.handles.filter (·.name ≠ name) }
      return .done : Step Answer).run.run board).2
  cases hhandle : board.handle? name with
  | none => exact .refl
  | some handle =>
      rw [run_bind_of_ok (show (existing (some handle)).run.run board = (.ok handle, board) from rfl)]
      refine Follows.bind (works_modify fun _ => hfree ..) (fun _ => ?_) board
      dsimp only
      split
      · exact follows_throw_bind _ _
      next hself =>
        refine (serves_attempt (hasked handle hhandle (Decidable.not_not.mp hself))
          fun _ => rfl).bind fun _ => ?_
        exact Follows.bind (works_modify fun _ => hfree ..) fun _ => follows_pure _

theorem serves_deinit (hasked : asked index .deinit) :
    Follows (Serves asked hold) (stepController index .deinit) := by
  refine (serves_attempt hasked fun _ => rfl).bind fun region => ?_
  exact Follows.bind (works_modify fun _ => hfree ..) fun _ => follows_pure _

end

/-! ### All operations -/

/-- Whatever is asked of a board, its drivers do what the operation asks for. Who
holds what only changes when controllers are managed. -/
theorem serves_perform (operation : Operation) (board : Board) :
    Serves (operation.Asks board) (fun before after => operation.Manages ∨ SameHolding before after)
      board (board.perform operation).2 := by
  cases operation with
  | controller index operation =>
      cases operation with
      | change changes =>
          exact ((serves_onDriver ⟨rfl, rfl⟩ fun _ => rfl).bind fun _ => follows_pure _) board
      | init => exact serves_init (fun _ _ => .inl trivial) (fun region => ⟨rfl, region, rfl⟩) board
      | device | managerState | managerFault =>
          exact ((works_view index _).bind fun _ => follows_pure _) board
      | allocate => exact serves_allocate (fun _ _ => .inl trivial) ⟨rfl, rfl⟩ board
      | release =>
          exact serves_release (fun _ _ => .inl trivial)
            fun handle hhandle hindex => ⟨rfl, handle, hhandle, hindex, rfl⟩
      | stopManager world =>
          refine ((works_during index world).bind_of_yields (yields_during index world) ?_) board
          rintro _ ⟨start, rfl⟩
          exact (serves_attempt ⟨rfl, start, rfl⟩ fun _ => rfl).bind fun _ => follows_pure _
      | deinit => exact serves_deinit (fun _ _ => .inl trivial) ⟨rfl, rfl⟩ board
      | interrupt | dispatch | removeOwner =>
          exact ((serves_onDriver ⟨rfl, rfl⟩ fun _ => rfl).bind fun _ => follows_pure _) board
  | channel name operation =>
      change Serves _ _ board
        ((existing (board.handle? name) >>= fun handle => stepChannel handle operation).run.run
          board).2
      cases hhandle : board.handle? name with
      | none => exact .refl
      | some handle =>
          by_cases habandon : operation = .abandon
          · subst habandon
            exact Follows.bind (works_modify fun _ => .inl trivial) (fun _ => follows_pure _) board
          · exact serves_stepChannel (fun _ _ => .inr)
              (fun demand hasks => ⟨handle, hhandle, rfl, hasks⟩)
              (List.mem_of_find?_eq_some hhandle) habandon
  | future name operation =>
      change Serves _ _ board
        ((existing (board.future? name) >>= fun future => stepFuture future operation).run.run
          board).2
      cases hfuture : board.future? name with
      | none => exact .refl
      | some future =>
          exact serves_stepFuture (fun _ _ => .inr) future
            (fun demand hasks => ⟨future, hfuture, rfl, hasks⟩) board
  | references => exact .refl
  | memory number offset length =>
      refine follows_get_bind (fun board => ?_) board
      exact (works_existing _).bind (fun bytes => follows_pure _) board

/-- An operation that does not manage the controllers only uses them. -/
theorem uses_perform {board : Board} {operation : Operation}
    (hheld : ∀ name request, operation = .channel name request →
      ∀ handle ∈ board.handle? name, held handle.controller handle.channel)
    (hcauses : operation.Causes allowed) (huse : ¬ operation.Manages) :
    Uses allowed held board (board.perform operation).2 := by
  refine Works.mono ?_ (fun _ _ hhold => hhold.resolve_left huse) (serves_perform operation board)
  intro index before after hserves
  refine hserves.follow fun demand hasks => ?_
  exact Demand.uses (Operation.within_of_asks hheld hcauses hasks)
    fun hmanages => huse (Operation.manages_of_asks hasks hmanages)

/-- Whatever is asked of a board, drivers make moves. -/
theorem moves_perform {board : Board} {operation : Operation}
    (hheld : ∀ name request, operation = .channel name request →
      ∀ handle ∈ board.handle? name, held handle.controller handle.channel)
    (hcauses : operation.Causes allowed) :
    Moves allowed held board (board.perform operation).2 := by
  refine Works.mono ?_ (fun _ _ _ => trivial) (serves_perform operation board)
  intro index before after hserves
  exact hserves.follow fun demand hasks =>
    Demand.moves (Operation.within_of_asks hheld hcauses hasks)

end Board

end CyclicDma
