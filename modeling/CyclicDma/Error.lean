import CyclicDma.Thread.State

/-! # Why an operation fails -/

namespace CyclicDma

/-- The reasons for which an operation of the controller fails. -/
inductive DmaError where
  /-- No channel is free, a notification table is full, or the microcode region
  cannot hold the programs of all channels. -/
  | resourceExhausted
  /-- The channel does not exist, or belongs to another controller. -/
  | invalidHandle
  /-- The debug interface stayed busy, or a thread did not reach the state that
  was waited for. -/
  | timeout
  /-- The channel is in a state that the operation cannot start from. -/
  | unsupportedState (state : ChannelState)
  /-- The channel is running, or not stopped yet, or the controller is in use. -/
  | busy
  /-- The controller cannot perform the transfer. -/
  | invalidTransfer
  /-- The program does not fit its memory, or a loop is longer than a jump. -/
  | programTooLarge
  /-- The controller is not initialized. -/
  | notInitialized
  /-- The channel has no such notification. -/
  | notRegistered
deriving DecidableEq, Repr

/-- The message that describes an error. -/
def DmaError.message : DmaError → String
  | resourceExhausted => "insufficient DMA resources"
  | invalidHandle => "invalid DMA channel handle"
  | timeout => "timed out waiting on the DMA controller"
  | unsupportedState state => s!"cannot start a DMA channel in state {state.text}"
  | busy => "DMA channel is running"
  | invalidTransfer => "invalid DMA transfer"
  | programTooLarge => "DMA program too large"
  | notInitialized => "DMA controller not initialized"
  | notRegistered => "no such DMA notification"

end CyclicDma
