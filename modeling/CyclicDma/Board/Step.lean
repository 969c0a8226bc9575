import CyclicDma.Board.Operation

/-! # Performing operations

`Board.perform` performs one operation of a client or of the outside world. It
answers, or refuses with a reason. Operations on a channel need the channel for
themselves, apart from those that only look at it, so its futures are given up
first.
-/

namespace CyclicDma

namespace Board

/-- A step that answers or refuses. What it did before it refused stays done. -/
abbrev Step := ExceptT Refusal (StateM Board)

/-- The most polls of a future that is blocked on. -/
def pollBound : Nat := 100

/-- Look up what an operation names. -/
def existing {α : Type} : Option α → Step α
  | none => throw .unknown
  | some value => return value

/-- Work on one controller. -/
def onDriver {α : Type} (index : Nat) (action : StateM Driver α) : Step α := do
  let board ← get
  let controller ← existing board.controllers[index]?
  let (result, driver) := action.run ⟨controller, board.references⟩
  set { board with
    controllers := board.controllers.set index driver.controller
    references := driver.references }
  return result

/-- Refuse what failed. -/
def succeed {α : Type} : Except DmaError α → Step α
  | .error error => throw (.failed error)
  | .ok value => return value

/-- Perform an operation of one controller that may fail. -/
def attempt {α : Type} (index : Nat) (action : Attempt Driver α) : Step α := do
  succeed (← onDriver index action.run)

/-- The state of one controller. -/
def view {α : Type} (index : Nat) (query : Controller → α) : Step α :=
  onDriver index fun driver => (query driver.controller, driver)

/-- The course of the world during an operation of one controller. -/
def during (index : Nat) (world : World) : Step World :=
  return world.delayed (← view index (·.clock))

/-- Take the region for an initialization away from where it is. -/
def takeRegion (source : RegionSource) : Step Region := do
  let board ← get
  match source with
  | .fresh bytes =>
      set { board with regions := board.regions + 1 }
      return ⟨board.regions, bytes⟩
  | .returned number =>
      let region ← existing (board.spare.find? (·.number = number))
      set { board with spare := board.spare.filter (·.number ≠ number) }
      return region

def stepController (index : Nat) : ControllerOperation → Step Answer
  | .change changes => do
      onDriver index fun driver => ((), driver.update (·.changeAll changes))
      return .done
  | .init source busAddress config => do
      let region ← takeRegion source
      match ← onDriver index (Driver.init region busAddress config).run with
      | .ok device => return .device (some device)
      | .error error =>
          modify fun board => { board with lost := board.lost ++ [region] }
          throw (.failed error)
  | .device => return .device ((← view index (·.setup)).map (·.device))
  | .allocate name channel? => do
      let channel ← attempt index (Driver.allocate channel?)
      modify (·.addHandle ⟨name, index, channel⟩)
      return .channel channel
  | .release name => do
      let handle ← existing ((← get).handle? name)
      modify (·.dropFutures handle)
      if handle.controller ≠ index then
        throw (.failed .invalidHandle)
      attempt index (Driver.release handle.channel)
      modify fun board =>
        { board with handles := board.handles.filter (·.name ≠ name) }
      return .done
  | .managerState => return .managerState (← view index (·.managerState))
  | .managerFault => return .fault (← view index (·.managerFault?))
  | .stopManager world => do
      let world ← during index world
      attempt index (Driver.onController (Controller.stopManager world))
      return .done
  | .deinit => do
      let region ← attempt index Driver.deinit
      modify fun board => { board with spare := board.spare ++ [region] }
      return .region region.number region.bytes.length
  | .interrupt => return .handled (← onDriver index Driver.onInterrupt)
  | .dispatch => do
      onDriver index fun driver => ((), driver.dispatch)
      return .done
  | .removeOwner owner => return .count (← onDriver index (Driver.removeOwner owner))

def inspect (channel : Nat) (controller : Controller) : Inspection :=
  { channel
    state := controller.channelState channel
    running := controller.isRunning channel
    transfer := controller.transfer? channel
    registers := [.counter channel, .source channel, .destination channel].map (controller.read ·)
    fault := controller.channelFault? channel }

/-- Perform an operation of the channel's controller, having given up the
futures of the channel. -/
def exclusively {α : Type} (handle : Handle) (action : Attempt Driver α) : Step α := do
  modify (·.dropFutures handle)
  attempt handle.controller action

def stepChannel (handle : Handle) : ChannelOperation → Step Answer
  | .state => return .channelState (← view handle.controller (·.channelState handle.channel))
  | .inspect => return .inspection (← view handle.controller (inspect handle.channel))
  | .nextPeriod name => do
      let future ← view handle.controller (·.nextPeriod handle.channel)
      modify (·.addFuture ⟨name, handle.controller, future⟩)
      return .done
  | .submit order world => do
      let world ← during handle.controller world
      exclusively handle (Driver.onController (Controller.submit world handle.channel order))
      return .done
  | .start world => do
      let world ← during handle.controller world
      exclusively handle (Driver.onController (Controller.start world handle.channel))
      return .done
  | .stop world => do
      let world ← during handle.controller world
      exclusively handle (Driver.onController (Controller.stop world handle.channel))
      return .done
  | .register callback context owner => do
      let id ← exclusively handle (Driver.register handle.channel callback context owner)
      modify fun board => { board with ids := id :: board.ids }
      return .id id
  | .unregister number => do
      modify (·.dropFutures handle)
      let id ← existing ((← get).ids.find? (·.toNat = number))
      attempt handle.controller (Driver.unregister handle.channel id)
      return .done
  | .abandon => do
      modify (·.letGo handle)
      return .done

def takeTurn (turn : Turn) (driver : Driver) : Driver :=
  let changed := driver.update (·.changeAll turn.changes)
  let interrupted :=
    if turn.interrupt then
      let (handled, driver) := changed.onInterrupt
      driver.update (·.record (.interrupted handled))
    else changed
  if turn.dispatch then interrupted.dispatch else interrupted

/-- Poll a future that is blocked on, for the time after `polls` other ones. -/
def pollBlocked (turns : Nat → Turn) (future : PeriodFuture) :
    Nat × Driver → Poll (Nat × Except DmaError Unit) × (Nat × Driver)
  | (polls, driver) =>
      let ready := takeTurn (turns (polls + 1)) driver
      match ready.controller.pollPeriod future .silent with
      | (.pending, controller) => (.pending, (polls + 1, { ready with controller }))
      | (.ready result, controller) =>
          (.ready (polls + 1, result), (polls + 1, { ready with controller }))

def stepFuture (held : HeldFuture) : FutureOperation → Step Answer
  | .poll waker => do
      let answer ← onDriver held.controller fun driver =>
        let (answer, controller) := driver.controller.pollPeriod held.future waker
        (answer, { driver with controller })
      match answer with
      | .pending => return .pending
      | .ready result => do
          succeed result
          return .ready
  | .block turns => do
      let answer ← onDriver held.controller fun driver =>
        let (answer, (_, driver)) :=
          Poll.block (pollBlocked turns held.future) pollBound (0, driver)
        (answer, driver)
      match answer with
      | none => throw .limit
      | some (polls, result) => return .blocked polls result
  | .drop => do
      modify (·.dropFuture held.name)
      return .done

def step : Operation → Step Answer
  | .controller index operation => stepController index operation
  | .channel name operation => do
      stepChannel (← existing ((← get).handle? name)) operation
  | .future name operation => do
      stepFuture (← existing ((← get).future? name)) operation
  | .references => return .references (← get).references
  | .memory number offset length => do
      return .bytes (← existing ((← get).memory? number offset length))

/-- Perform an operation on a board. -/
def perform (operation : Operation) (board : Board) : Except Refusal Answer × Board :=
  (step operation).run board

end Board

end CyclicDma
