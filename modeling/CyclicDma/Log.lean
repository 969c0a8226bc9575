import CyclicDma.Fault
import CyclicDma.Thread.Command

/-! # Log messages

Every message has a fixed level. A controller records the messages whose level
its verbosity admits; the others leave no trace.
-/

namespace CyclicDma

/-- How important a message is, most important first. -/
inductive LogLevel where
  | error
  | warn
  | info
  | debug
  | trace
deriving DecidableEq, Repr

/-- The most verbose level that is recorded, if any is. -/
abbrev Verbosity := Option LogLevel

namespace LogLevel

/-- The place of the level, starting with the most important. -/
def rank : LogLevel → Nat
  | error => 1
  | warn => 2
  | info => 3
  | debug => 4
  | trace => 5

/-- The verbosity admits messages of the level. -/
def isAdmitted (level : LogLevel) (verbosity : Verbosity) : Bool :=
  verbosity.any fun most => level.rank ≤ most.rank

end LogLevel

/-- What a controller has to say. -/
inductive LogMessage where
  /-- The configured bursts do not suit the controller's bus. -/
  | unsupportedBurst (length size : UInt8) (busWidth : Nat)
  | initialized (identification : UInt32) (channels peripherals events usable : Nat)
  /-- A thread did not reach a state that was waited for. -/
  | stuck (thread : ThreadId) (state : ChannelState)
  /-- The debug interface stayed busy, so a command was not handed over. -/
  | dropped (command : Command) (thread : ThreadId)
  | executed (thread : ThreadId) (command : Command)
  /-- The interrupt handler killed a thread. -/
  | aborted (thread : ThreadId)
  | killed (thread : ThreadId) (state : ThreadState)
  /-- A thread cannot be started from its state. -/
  | cannotStart (thread : ThreadId) (state : ChannelState)
  | started (thread : ThreadId) (address : UInt32)
  | programmed (channel size : Nat) (periods periodBytes : UInt32)
  | managerFault (fault : Fault)
  | channelFault (channel : Nat) (fault : Fault)
  /-- A channel that has faulted cannot be killed yet. -/
  | killDeferred (channel : Nat)
deriving DecidableEq, Repr

namespace LogMessage

def level : LogMessage → LogLevel
  | unsupportedBurst .. | stuck .. | dropped .. | managerFault _ | channelFault .. => .error
  | aborted _ | cannotStart .. | killDeferred _ => .warn
  | initialized .. => .info
  | killed .. | started .. | programmed .. => .debug
  | executed .. => .trace

def text : LogMessage → String
  | unsupportedBurst length size busWidth =>
      s!"burst of {length} x {size} bytes unsupported on a {busWidth} bit bus"
  | initialized identification channels peripherals events usable =>
      s!"PL330 {Hexadecimal.text identification}: {channels} channels, " ++
        s!"{peripherals} peripherals, {events} events, using {usable} channels"
  | stuck thread state => s!"{thread.text} stuck in {state.text}"
  | dropped command thread =>
      s!"debug interface busy, dropped {command.text} for {thread.text}"
  | executed thread command => s!"{thread.text} executed {command.text}"
  | aborted thread => s!"{thread.text} aborted"
  | killed thread state => s!"{thread.text} killed from {state.text}"
  | cannotStart thread state => s!"{thread.text} cannot start from {state.text}"
  | started thread address => s!"{thread.text} started at {Hexadecimal.text address}"
  | programmed channel size periods periodBytes =>
      s!"channel {channel} programmed, {size} bytes, {periods} periods of {periodBytes} bytes"
  | managerFault fault => s!"manager fault: {fault.text}"
  | channelFault channel fault => s!"channel {channel} fault: {fault.text}"
  | killDeferred channel => s!"channel {channel} kill deferred, debug interface busy"

end LogMessage

end CyclicDma
