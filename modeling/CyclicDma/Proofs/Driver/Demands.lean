import CyclicDma.Proofs.Driver.Moves

/-! # What is asked of a driver

The operations of a board, and what happens to it, come down to demands on the
drivers of its controllers. A demand that delivers periods is a sequence of moves;
every other one is a single move.
-/

namespace CyclicDma.Driver

/-- What is asked of a driver. -/
inductive Demand where
  | change (changes : List (Register × UInt32))
  | interrupt
  /-- Write down that the interrupts were handled. -/
  | interrupted (handled : Bool)
  /-- Deliver all pending periods. Reactions nest up to a depth. -/
  | deliver (depth : Nat)
  | removeOwner (owner : Nat)
  | poll (future : PeriodFuture) (waker : Waker)
  | stopManager (world : World)
  | submit (world : World) (channel : Nat) (order : Order)
  | start (world : World) (channel : Nat)
  | stop (world : World) (channel : Nat)
  | register (channel : Nat) (callback : Callback) (context : UInt64) (owner : Option Nat)
  | unregister (channel : Nat) (id : UInt32)
  | init (region : Region) (busAddress : UInt32) (config : Config)
  | allocate (index : Option Nat)
  | release (channel : Nat)
  | deinit

namespace Demand

/-- The driver when it has done what is asked. -/
def perform (driver : Driver) : Demand → Driver
  | change changes => driver.update (·.changeAll changes)
  | interrupt => driver.onInterrupt.2
  | interrupted handled => driver.update (·.record (.interrupted handled))
  | deliver depth => driver.dispatchNested depth
  | removeOwner owner => (driver.removeOwner owner).2
  | poll future waker =>
      { driver with controller := (driver.controller.pollPeriod future waker).2 }
  | stopManager world => ((onController (Controller.stopManager world)).perform driver).2
  | submit world channel order =>
      ((onController (Controller.submit world channel order)).perform driver).2
  | start world channel => ((onController (Controller.start world channel)).perform driver).2
  | stop world channel => ((onController (Controller.stop world channel)).perform driver).2
  | register channel callback context owner =>
      ((Driver.register channel callback context owner).perform driver).2
  | unregister channel id => ((Driver.unregister channel id).perform driver).2
  | init region busAddress config => ((Driver.init region busAddress config).perform driver).2
  | allocate index => ((Driver.allocate index).perform driver).2
  | release channel => ((Driver.release channel).perform driver).2
  | deinit => (Driver.deinit.perform driver).2

/-- What happens meanwhile is allowed, and the channel that is asked about is
held. -/
def Within (allowed : Disturbance → Prop) (held : Nat → Prop) : Demand → Prop
  | change changes => ∀ change ∈ changes, allowed (.change change.1 change.2)
  | stopManager world => world.Causes allowed
  | submit world channel _ | start world channel | stop world channel =>
      world.Causes allowed ∧ held channel
  | register channel .. | unregister channel _ => held channel
  | _ => True

/-- The demand is not only about using the controller. -/
def Manages : Demand → Prop
  | init .. | allocate _ | release _ | deinit => True
  | _ => False

/-- The demand is made by whoever holds the channel. -/
def Concerns (channel : Nat) : Demand → Prop
  | submit _ driven _ | start _ driven | stop _ driven => driven = channel
  | register registered .. | unregister registered _ => registered = channel
  | _ => False

variable {allowed : Disturbance → Prop} {held : Nat → Prop} {demand : Demand}

theorem uses (hwithin : demand.Within allowed held) (huse : ¬ demand.Manages) (driver : Driver) :
    Uses allowed held driver (demand.perform driver) := by
  cases demand with
  | change => exact .single (.change hwithin driver)
  | interrupt => exact .single (.interrupt driver)
  | interrupted handled => exact .single (.record (.interrupted handled) trivial driver)
  | deliver depth => exact delivering_uses.dispatchNested depth driver
  | removeOwner owner => exact .single (.removeOwner owner driver)
  | poll future waker => exact .single (.poll future waker driver)
  | stopManager => exact .single (.stopManager hwithin driver)
  | submit _ _ order => exact .single (.submit hwithin.1 hwithin.2 order driver)
  | start => exact .single (.start hwithin.1 hwithin.2 driver)
  | stop => exact .single (.stop hwithin.1 hwithin.2 driver)
  | register _ callback context owner =>
      exact .single (.register hwithin callback context owner driver)
  | unregister _ id => exact .single (.unregister hwithin id driver)
  | init | allocate | release | deinit => exact absurd trivial huse

theorem moves (hwithin : demand.Within allowed held) (driver : Driver) :
    Moves allowed held driver (demand.perform driver) := by
  by_cases hmanages : demand.Manages
  · cases demand with
    | init region busAddress config => exact .single (.init region busAddress config driver)
    | allocate index => exact .single (.allocate index driver)
    | release channel => exact .single (.release channel driver)
    | deinit => exact .single (.deinit driver)
    | _ => exact hmanages.elim
  · exact (uses hwithin hmanages driver).moves

end Demand

/-- Some of what may be asked is done, one demand after the other. -/
abbrev Serves (asked : Demand → Prop) : Driver → Driver → Prop :=
  Relation.ReflTransGen fun before after =>
    ∃ demand : Demand, asked demand ∧ after = demand.perform before

theorem Serves.single {asked : Demand → Prop} {demand : Demand} (hasked : asked demand)
    (driver : Driver) : Serves asked driver (demand.perform driver) :=
  Relation.ReflTransGen.single ⟨demand, hasked, rfl⟩

/-- What is asked is done by a preorder that follows each demand. -/
theorem Serves.follow {asked : Demand → Prop} {relation : Driver → Driver → Prop}
    [Std.Refl relation] [IsTrans Driver relation] {before after : Driver}
    (hserves : Serves asked before after)
    (hdemand : ∀ demand, asked demand → ∀ driver, relation driver (demand.perform driver)) :
    relation before after := by
  induction hserves with
  | refl => exact Std.Refl.refl before
  | tail _ hlast ih =>
      obtain ⟨demand, hasked, rfl⟩ := hlast
      exact IsTrans.trans _ _ _ ih (hdemand demand hasked _)

end CyclicDma.Driver
