import CyclicDma.Attempt
import CyclicDma.Controller.Interrupt

/-! # Bounded waits

The driver waits for the debug interface, and for threads to change their state.
A wait tests its condition, lets a microsecond pass, and tests again, up to a
bound. While it lasts, the world goes on: registers change, and interrupts are
handled.
-/

namespace CyclicDma

/-- Something that happens at a controller while its driver waits. -/
inductive Disturbance where
  /-- A register takes a value on its own. -/
  | change (register : Register) (value : UInt32)
  | interrupt

/-- What happens at each microsecond. -/
abbrev World := Nat → List Disturbance

/-- A world in which nothing happens before a moment, from which on it takes the
course of another world. -/
def World.delayed (start : Nat) (world : World) : World :=
  fun time => if start ≤ time then world (time - start) else []

namespace Controller

/-- The most microseconds that a wait takes. -/
def waitBound : Nat := 5000

def disturb (controller : Controller) : Disturbance → Controller
  | .change register value => controller.change register value
  | .interrupt => controller.onInterrupt.2

/-- Let a microsecond pass. -/
def pause (world : World) (controller : Controller) : Controller :=
  let later := { controller with clock := controller.clock + 1 }.record .delay
  (world later.clock).foldl disturb later

/-- Wait until a condition holds, for a number of microseconds at most. Tells
whether it holds in the end. -/
def waitFor (world : World) (condition : Controller → Bool) :
    (microseconds : Nat) → Controller → Bool × Controller
  | 0, controller => (condition controller, controller)
  | microseconds + 1, controller =>
      if condition controller then (true, controller)
      else waitFor world condition microseconds (controller.pause world)

/-- Wait until a condition holds. Tells whether it did in time. -/
def wait (world : World) (condition : Controller → Bool) : Attempt Controller Bool :=
  ExceptT.lift (waitFor world condition waitBound)

/-- Wait until a channel reaches an accepted state, which is returned. -/
def awaitState (world : World) (channel : Nat) (accept : ChannelState → Bool) :
    Attempt Controller ChannelState := do
  let reached ← wait world fun controller => accept (controller.channelState channel)
  let state := (← get).channelState channel
  if reached then
    return state
  else
    modify (·.log (.stuck (.channel channel) state))
    throw .timeout

/-- Hand a command over, once the debug interface is idle. Tells whether it was
idle in time; otherwise the command is dropped. -/
def execute (world : World) (thread : ThreadId) (command : Command) :
    Attempt Controller Bool := do
  if ← wait world (!·.isDebugBusy) then
    modify (·.issue thread command)
    return true
  else
    modify (·.log (.dropped command thread))
    return false

end Controller

end CyclicDma
