import CyclicDma.Board

/-! # Operations of a board

What clients and the outside world ask of a board, and what it answers or why it
refuses.
-/

namespace CyclicDma

/-- Where the region of an initialization comes from. -/
inductive RegionSource where
  /-- A new region with the given content. -/
  | fresh (bytes : List UInt8)
  /-- A region that was handed back. -/
  | returned (number : Nat)
deriving DecidableEq, Repr

/-- What happens before a poll of a future that is blocked on. -/
structure Turn where
  changes : List (Register × UInt32) := []
  interrupt : Bool := false
  dispatch : Bool := false
deriving DecidableEq, Repr

/-- An operation on one controller. -/
inductive ControllerOperation where
  /-- Registers take values on their own. -/
  | change (changes : List (Register × UInt32))
  | init (source : RegionSource) (busAddress : UInt32) (config : Config)
  | device
  /-- Allocate a channel and call it by a name. -/
  | allocate (name : Nat) (index : Option Nat)
  /-- Give a channel back, to the controller it came from. -/
  | release (name : Nat)
  | managerState
  | managerFault
  | stopManager (world : World)
  | deinit
  | interrupt
  | dispatch
  | removeOwner (owner : Nat)

/-- An operation on a channel that a client holds. -/
inductive ChannelOperation where
  | state
  | inspect
  /-- Make a future for the next period and call it by a name. -/
  | nextPeriod (name : Nat)
  | submit (order : Order) (world : World)
  | start (world : World)
  | stop (world : World)
  | register (callback : Callback) (context : UInt64) (owner : Option Nat)
  /-- Take back the registration of the channel whose id has the given number. -/
  | unregister (number : Nat)
  /-- Let the channel go without giving it back. -/
  | abandon

/-- An operation on a future that a client holds. -/
inductive FutureOperation where
  | poll (waker : Waker)
  /-- Poll until the future is ready, with a turn before each poll. Polls are
  numbered from one. -/
  | block (turns : Nat → Turn)
  | drop

/-- An operation of a client or of the outside world. In worlds, time starts
with the operation. -/
inductive Operation where
  | controller (index : Nat) (operation : ControllerOperation)
  | channel (name : Nat) (operation : ChannelOperation)
  | future (name : Nat) (operation : FutureOperation)
  | references
  /-- Some bytes of a region. -/
  | memory (number offset length : Nat)

/-- What can be seen of a channel. -/
structure Inspection where
  channel : Nat
  state : ChannelState
  running : Bool
  transfer : Option Transfer
  /-- The program counter and the two addresses. -/
  registers : List UInt32
  fault : Option Fault
deriving DecidableEq, Repr

/-- The answer to an operation. -/
inductive Answer where
  | done
  | device (device : Option Device)
  | channel (channel : Nat)
  | managerState (state : ManagerState)
  | channelState (state : ChannelState)
  | fault (fault : Option Fault)
  | region (number length : Nat)
  | handled (handled : Bool)
  | count (count : Nat)
  | references (references : References)
  | bytes (bytes : List UInt8)
  | inspection (inspection : Inspection)
  | id (id : UInt32)
  | pending
  | ready
  /-- The polls that blocking took, and what the future gave. -/
  | blocked (polls : Nat) (result : Except DmaError Unit)

/-- Why an operation is refused. -/
inductive Refusal where
  | failed (error : DmaError)
  /-- What the operation names does not exist. -/
  | unknown
  /-- The future that was blocked on did not become ready. -/
  | limit
deriving DecidableEq, Repr

end CyclicDma
