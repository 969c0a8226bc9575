import CyclicDma.Controller.Stop

/-! # Starting channels

A channel is started by a command to the manager, with its event enabled before.
A channel that has faulted is killed first, and one that is on its way to
stopping is waited for. A channel that moves data already is left alone.
-/

namespace CyclicDma.Controller

/-- Start a stopped channel at its program. If the debug interface stays busy,
the event is masked again. -/
def trigger (world : World) (channel : Nat) : Attempt Controller Unit := do
  let controller ← get
  if controller.channelState channel ≠ .stopped || controller.wasStarted channel then
    return
  let some setup := controller.setup | throw .notInitialized
  if (controller.transfer? channel).isNone then
    throw .invalidTransfer
  let address := setup.slabAddress channel
  let command : Command := .go channel address setup.device.nonsecure
  modify (·.unmaskEvent channel)
  if ← execute world (.channel channel) command then
    modify (·.setRunning true channel)
    modify (·.log (.started (.channel channel) address))
  else
    modify (·.maskEvent channel)
    throw .timeout

/-- Bring a channel that is neither active nor unable to start to a stop. -/
def settle (world : World) (channel : Nat) (entry : ChannelState) :
    Attempt Controller Unit := do
  if entry = .faultCompleting then
    let reached ← awaitState world channel fun state => state = .faulting || state = .killing
    if reached = .killing then
      discard <| awaitState world channel (· = .stopped)
  if entry.isFault then
    stopThread world (.channel channel)
  if entry ≠ .stopped then
    discard <| awaitState world channel (· = .stopped)

/-- Start the thread of a channel, recovering from faults and kills first. -/
def startThread (world : World) (channel : Nat) : Attempt Controller Unit := do
  let entry := (← get).channelState channel
  if entry.isActive then
    return
  else if entry = .waitingForEvent || entry = .invalid then
    modify (·.log (.cannotStart (.channel channel) entry))
    throw (.unsupportedState entry)
  else
    settle world channel entry
    trigger world channel

/-- Start the transfer that was submitted to a channel. -/
def start (world : World) (channel : Nat) : Attempt Controller Unit := do
  modify (·.noteAbort channel)
  startThread world channel

end CyclicDma.Controller
