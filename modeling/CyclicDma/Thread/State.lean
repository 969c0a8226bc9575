import CyclicDma.BitField

/-! # Threads and their states

The controller runs one manager thread and several channel threads. Each
reports a four bit status code; a few codes only make sense for channels.
-/

namespace CyclicDma

/-- A thread of the controller. -/
inductive ThreadId where
  /-- The thread that starts channels. -/
  | manager
  /-- A channel, numbered from zero. -/
  | channel (number : Nat)
deriving DecidableEq, Repr

/-- The name of a thread in log messages. -/
def ThreadId.text : ThreadId → String
  | manager => "Manager"
  | channel number => s!"Channel({number})"

/-- The field of a status register that holds the status code. -/
def statusField : BitField := ⟨0, 4⟩

/-- What a channel thread is doing. -/
inductive ChannelState where
  | stopped
  | executing
  | cacheMiss
  | updatingPc
  | waitingForEvent
  | atBarrier
  | queueBusy
  | waitingForPeripheral
  | killing
  | completing
  | faultCompleting
  | faulting
  /-- A reserved code. -/
  | invalid
deriving DecidableEq, Repr

namespace ChannelState

/-- The state that a channel's status register reports. -/
def ofStatus (status : UInt32) : ChannelState :=
  match statusField.get status with
  | 0x0 => stopped
  | 0x1 => executing
  | 0x2 => cacheMiss
  | 0x3 => updatingPc
  | 0x4 => waitingForEvent
  | 0x5 => atBarrier
  | 0x6 => queueBusy
  | 0x7 => waitingForPeripheral
  | 0x8 => killing
  | 0x9 => completing
  | 0xE => faultCompleting
  | 0xF => faulting
  | _ => invalid

/-- The channel is moving data, or about to. -/
def isActive : ChannelState → Bool
  | executing | cacheMiss | updatingPc | atBarrier | queueBusy | waitingForPeripheral => true
  | _ => false

/-- The channel is stopped, or will be without being killed. -/
def isStopping : ChannelState → Bool
  | completing | killing | stopped => true
  | _ => false

def isFault : ChannelState → Bool
  | faulting | faultCompleting => true
  | _ => false

/-- The name of the state in messages. -/
def text : ChannelState → String
  | stopped => "Stopped"
  | executing => "Executing"
  | cacheMiss => "CacheMiss"
  | updatingPc => "UpdatingPc"
  | waitingForEvent => "WaitingForEvent"
  | atBarrier => "AtBarrier"
  | queueBusy => "QueueBusy"
  | waitingForPeripheral => "WaitingForPeripheral"
  | killing => "Killing"
  | completing => "Completing"
  | faultCompleting => "FaultCompleting"
  | faulting => "Faulting"
  | invalid => "Invalid"

end ChannelState

/-- What the manager thread is doing. -/
inductive ManagerState where
  | stopped
  | executing
  | cacheMiss
  | updatingPc
  | waitingForEvent
  | faulting
  /-- A reserved code, or one that only channels report. -/
  | invalid
deriving DecidableEq, Repr

namespace ManagerState

/-- The state that the manager's status register reports. -/
def ofStatus (status : UInt32) : ManagerState :=
  match ChannelState.ofStatus status with
  | .stopped => stopped
  | .executing => executing
  | .cacheMiss => cacheMiss
  | .updatingPc => updatingPc
  | .waitingForEvent => waitingForEvent
  | .faulting => faulting
  | _ => invalid

/-- The name of the state in messages. -/
def text : ManagerState → String
  | stopped => "Stopped"
  | executing => "Executing"
  | cacheMiss => "CacheMiss"
  | updatingPc => "UpdatingPc"
  | waitingForEvent => "WaitingForEvent"
  | faulting => "Faulting"
  | invalid => "Invalid"

end ManagerState

/-- The state of a thread of either kind. -/
inductive ThreadState where
  | manager (state : ManagerState)
  | channel (state : ChannelState)
deriving DecidableEq, Repr

namespace ThreadState

/-- The state that a thread reports in its status register. -/
def ofStatus (thread : ThreadId) (status : UInt32) : ThreadState :=
  match thread with
  | .manager => manager (.ofStatus status)
  | .channel _ => channel (.ofStatus status)

def isStopped : ThreadState → Bool
  | manager state => state = .stopped
  | channel state => state = .stopped

/-- The thread is waiting to be killed after a fault. -/
def isFaulting : ThreadState → Bool
  | manager state => state = .faulting
  | channel state => state = .faulting

/-- The thread is stopped, or will be without being killed. -/
def isStopping : ThreadState → Bool
  | manager state => state = .stopped
  | channel state => state.isStopping

/-- The name of the state in messages. -/
def text : ThreadState → String
  | manager state => s!"Manager({state.text})"
  | channel state => s!"Channel({state.text})"

end ThreadState

end CyclicDma
