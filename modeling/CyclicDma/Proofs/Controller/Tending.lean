import CyclicDma.Proofs.Controller.Assignment
import CyclicDma.Proofs.Controller.Standing

/-! # What is done for one channel

All channels of a controller share its debug interface, the register that enables
events, and the region. What is done on behalf of the holder of one channel leaves to
the other channels what is theirs: their slots, their slabs and their bits. In between
the driver pauses, and whatever happens then is up to the world.
-/

namespace CyclicDma

/-- The event is the business of one channel. Events are enabled and masked together,
but only the event of the channel is acknowledged, and commands name the channel. -/
def Event.IsOf (channel : Nat) : Event → Prop
  | write .interruptEnable _ => True
  | write .interruptClear value => value = Controller.channelBit channel
  | issue thread .kill => thread = .channel channel
  | issue thread (.go started ..) => thread = .channel channel ∧ started = channel
  | log _ => True
  | _ => False

/-- The event is a matter of the world: time passes, or a register changes. -/
def Event.IsOfWorld : Event → Prop
  | delay | change .. => True
  | _ => False

/-- A register takes a value on its own, and no interrupt is handled. -/
def Disturbance.IsChange : Disturbance → Prop
  | change .. => True
  | interrupt => False

/-- The registers that a driver writes when it drives channels. -/
def Register.driving : List Register :=
  [.interruptEnable, .interruptClear, .debugInstruction0, .debugInstruction1, .debugCommand]

namespace Controller

variable {before middle after controller : Controller} {channel : Nat}

/-- The byte of the region at a place. -/
def byte? (place : Nat) (controller : Controller) : Option UInt8 :=
  controller.setup.bind fun setup => setup.region.bytes[place]?

/-- The place in the region belongs to the slab of the channel. -/
def InSlab (channel place : Nat) : Prop :=
  Region.slabBytes * channel ≤ place ∧ place < Region.slabBytes * (channel + 1)

/-- What belongs to the other channels is as before, and the region is divided as
before. -/
structure LeavesOthers (channel : Nat) (before after : Controller) : Prop where
  config : after.config = before.config
  managed : after.managed = before.managed
  division : after.division = before.division
  notifications (other : Nat) (hother : other ≠ channel) :
    after.notificationsOf other = before.notificationsOf other
  requests (other : Nat) (hother : other ≠ channel) :
    after.request? other = before.request? other
  bytes (place : Nat) (hplace : ¬ InSlab channel place) : after.byte? place = before.byte? place

theorem LeavesOthers.refl (channel : Nat) (controller : Controller) :
    LeavesOthers channel controller controller :=
  ⟨rfl, rfl, rfl, fun _ _ => rfl, fun _ _ => rfl, fun _ _ => rfl⟩

theorem LeavesOthers.trans (hfirst : LeavesOthers channel before middle)
    (hsecond : LeavesOthers channel middle after) : LeavesOthers channel before after where
  config := hsecond.config.trans hfirst.config
  managed := hsecond.managed.trans hfirst.managed
  division := hsecond.division.trans hfirst.division
  notifications other hother :=
    (hsecond.notifications other hother).trans (hfirst.notifications other hother)
  requests other hother := (hsecond.requests other hother).trans (hfirst.requests other hother)
  bytes place hplace := (hsecond.bytes place hplace).trans (hfirst.bytes place hplace)

theorem LeavesOthers.of_aside (haside : Aside before after) :
    LeavesOthers channel before after where
  config := haside.config
  managed := haside.managed
  division := haside.sameAssignment.division
  notifications other _ := haside.notificationsOf other
  requests other _ := by rw [request?, request?, haside.setup]
  bytes place _ := by rw [byte?, byte?, haside.setup]

/-- The events of the other channels are enabled as before. -/
def KeepsOthers (channel : Nat) (before after : UInt32) : Prop :=
  ∀ other, other ≠ channel → bitOf after other = bitOf before other

/-- Something is done for the channel, at once. Whoever enables or masks its event finds
the bits of the other channels as they are, and leaves them so. -/
structure Tends (channel : Nat) (before after : Controller) : Prop
    extends LeavesOthers channel before after where
  clock : after.clock = before.clock
  enabled : KeepsOthers channel (before.read .interruptEnable) (after.read .interruptEnable)
  registers (register : Register) (hregister : register ∉ Register.driving) :
    after.read register = before.read register
  history : ∃ events, after.history = events ++ before.history ∧
    (∀ event ∈ events, event.IsOf channel) ∧
    ∀ value, .write .interruptEnable value ∈ events →
      KeepsOthers channel (before.read .interruptEnable) value

/-- Things are done for the channel, and in between the driver lets the time of a world
pass. -/
abbrev Tending (world : World) (channel : Nat) : Controller → Controller → Prop :=
  Relation.ReflTransGen fun before after =>
    Tends channel before after ∨ after = before.pause world

/-- All in all, what belongs to the other channels is as before. What was done concerns
the channel, and the rest is what the world did. -/
structure Confined (channel : Nat) (before after : Controller) : Prop
    extends LeavesOthers channel before after where
  history : ∃ events, after.history = events ++ before.history ∧
    (∀ event ∈ events, event.IsOf channel ∨ event.IsOfWorld) ∧
    ((∀ value, .change .interruptEnable value ∉ events) →
      KeepsOthers channel (before.read .interruptEnable) (after.read .interruptEnable))

theorem KeepsOthers.trans {first second third : UInt32} (hfirst : KeepsOthers channel first second)
    (hsecond : KeepsOthers channel second third) : KeepsOthers channel first third :=
  fun other hother => (hsecond other hother).trans (hfirst other hother)

theorem KeepsOthers.of_eq {first second : UInt32} (hsame : second = first) :
    KeepsOthers channel first second :=
  fun _ _ => by rw [hsame]

/-! ## At once -/

theorem Tends.refl (channel : Nat) (controller : Controller) :
    Tends channel controller controller where
  toLeavesOthers := .refl channel controller
  clock := rfl
  enabled := .of_eq rfl
  registers _ _ := rfl
  history := ⟨[], rfl, by simp, by simp⟩

theorem Tends.trans (hfirst : Tends channel before middle) (hsecond : Tends channel middle after) :
    Tends channel before after where
  toLeavesOthers := hfirst.toLeavesOthers.trans hsecond.toLeavesOthers
  clock := hsecond.clock.trans hfirst.clock
  enabled := hfirst.enabled.trans hsecond.enabled
  registers register hregister :=
    (hsecond.registers register hregister).trans (hfirst.registers register hregister)
  history := by
    obtain ⟨older, holder, hold, holdBits⟩ := hfirst.history
    obtain ⟨newer, hnewer, hnew, hnewBits⟩ := hsecond.history
    refine ⟨newer ++ older, by rw [hnewer, holder, List.append_assoc], ?_, fun value hvalue => ?_⟩
    · exact fun event hevent => (List.mem_append.mp hevent).elim (hnew event) (hold event)
    · rcases List.mem_append.mp hvalue with hlate | hearly
      · exact hfirst.enabled.trans (hnewBits value hlate)
      · exact holdBits value hearly

/-- Requests, programs and notifications of the channel are its own. -/
theorem Tends.of_registers (hothers : LeavesOthers channel before after)
    (hclock : after.clock = before.clock) (hregisters : after.registers = before.registers)
    (hhistory : after.history = before.history) : Tends channel before after where
  toLeavesOthers := hothers
  clock := hclock
  enabled := .of_eq (by rw [read, read, hregisters])
  registers _ _ := by rw [read, read, hregisters]
  history := ⟨[], hhistory, by simp, by simp⟩

theorem tends_log (channel : Nat) (message : LogMessage) (controller : Controller) :
    Tends channel controller (controller.log message) := by
  unfold log logAt
  split
  · have haside : (Event.log message).IsAside := trivial
    exact
      { toLeavesOthers := .of_aside (aside_record haside controller)
        clock := rfl
        enabled := .of_eq rfl
        registers := fun _ _ => rfl
        history := ⟨[.log message], rfl, by simp [Event.IsOf], by simp⟩ }
  · exact .refl channel controller

theorem tends_write_interruptEnable {value : UInt32}
    (hvalue : KeepsOthers channel (controller.read .interruptEnable) value) :
    Tends channel controller (controller.write .interruptEnable value) where
  toLeavesOthers := .of_aside (aside_write ..)
  clock := rfl
  enabled := hvalue
  registers register hregister := by
    refine Registers.read_write_of_ne _ _ fun hsame => hregister ?_
    rw [hsame]
    decide
  history := by
    refine ⟨[.write .interruptEnable value], rfl, by simp [Event.IsOf], fun written hmem => ?_⟩
    cases List.mem_singleton.mp hmem
    exact hvalue

theorem keepsOthers_or (hchannel : channel < 32) (bits : UInt32) :
    KeepsOthers channel bits (bits ||| channelBit channel) := by
  intro other hother
  rw [bitOf_or, bitOf_channelBit hchannel, decide_eq_false hother, Bool.or_false]

theorem tends_unmaskEvent (hchannel : channel < 32) (controller : Controller) :
    Tends channel controller (controller.unmaskEvent channel) :=
  tends_write_interruptEnable (keepsOthers_or hchannel _)

theorem tends_maskEvent (hchannel : channel < 32) (controller : Controller) :
    Tends channel controller (controller.maskEvent channel) := by
  refine tends_write_interruptEnable fun other hother => ?_
  rw [bitOf_and_not, bitOf_channelBit hchannel, decide_eq_false hother, Bool.not_false,
    Bool.and_true]

/-- The event of the channel is acknowledged. -/
theorem tends_write_interruptClear (channel : Nat) (controller : Controller) :
    Tends channel controller (controller.write .interruptClear (channelBit channel)) where
  toLeavesOthers := .of_aside (aside_write ..)
  clock := rfl
  enabled := .of_eq (Registers.read_write_of_ne _ _ (by decide))
  registers register hregister := by
    refine Registers.read_write_of_ne _ _ fun hsame => hregister ?_
    rw [hsame]
    decide
  history := ⟨[.write .interruptClear (channelBit channel)], rfl, by simp [Event.IsOf], by simp⟩

theorem tends_silence (hchannel : channel < 32) (controller : Controller) :
    Tends channel controller (controller.silence (.channel channel)) := by
  unfold silence
  dsimp only
  split
  · exact (tends_write_interruptClear ..).trans (tends_maskEvent hchannel _)
  · exact tends_maskEvent hchannel controller

/-- The debug registers are the only ones that are written to hand a command over. -/
theorem issue_eq (thread : ThreadId) (command : Command) (controller : Controller) :
    ∃ registers, controller.issue thread command =
        ({ controller with registers }.record (.issue thread command)).log
          (.executed thread command) ∧
      ∀ register ∉ [Register.debugInstruction0, .debugInstruction1, .debugCommand],
        registers.read register = controller.registers.read register := by
  refine ⟨_, rfl, fun register hregister => ?_⟩
  simp only [List.mem_cons, List.not_mem_nil, or_false, not_or] at hregister
  obtain ⟨hfirst, hsecond, hhanded⟩ := hregister
  simp only [Event.writes, List.foldl_cons, List.foldl_nil]
  rw [Registers.read_write_of_ne _ _ hhanded, Registers.read_write_of_ne _ _ hsecond,
    Registers.read_write_of_ne _ _ hfirst]

/-- A command that names the channel is handed over through the debug registers. -/
theorem tends_issue {command : Command}
    (hcommand : Event.IsOf channel (.issue (.channel channel) command)) (controller : Controller) :
    Tends channel controller (controller.issue (.channel channel) command) := by
  obtain ⟨registers, hissue, hread⟩ := issue_eq (.channel channel) command controller
  rw [hissue]
  have hissued : Tends channel controller
      ({ controller with registers }.record (.issue (.channel channel) command)) :=
    { toLeavesOthers := ⟨rfl, rfl, rfl, fun _ _ => rfl, fun _ _ => rfl, fun _ _ => rfl⟩
      clock := rfl
      enabled := .of_eq (hread _ (by decide))
      registers := fun register hregister => by
        refine hread register fun hmem => hregister ?_
        revert hmem
        simp only [Register.driving, List.mem_cons, List.not_mem_nil, or_false]
        exact fun hmem => .inr (.inr hmem)
      history := by
        refine ⟨[.issue (.channel channel) command], rfl, ?_, by simp⟩
        exact fun event hevent => List.mem_singleton.mp hevent ▸ hcommand }
  exact hissued.trans (tends_log ..)

/-! ## Slots and slabs -/

theorem tends_updateNotifications (channel : Nat) (update : Notifications → Notifications)
    (controller : Controller) :
    Tends channel controller (controller.updateNotifications channel update) := by
  refine .of_registers ?_ rfl rfl rfl
  exact
    { LeavesOthers.refl channel controller with
      managed := managed_updateNotifications ..
      notifications := fun other hother => notificationsOf_updateNotifications_of_ne _ hother }

theorem tends_updateRequest (channel : Nat) (update : Request → Request)
    (controller : Controller) :
    Tends channel controller (controller.updateRequest channel update) := by
  refine .of_registers ?_ rfl rfl rfl
  exact
    { LeavesOthers.refl channel controller with
      division := (sameAssignment_updateRequest ..).division
      requests := fun other hother => by
        have hothers := congrFun (standings_updateRequest channel update controller) other
        rw [Function.update_of_ne hother] at hothers
        exact congrArg Standing.request hothers
      bytes := fun place _ => by
        rw [byte?, byte?, updateRequest]
        cases controller.setup <;> rfl }

theorem tends_noteAbort (channel : Nat) (controller : Controller) :
    Tends channel controller (controller.noteAbort channel) := by
  unfold noteAbort
  split
  · exact (tends_updateNotifications ..).trans (tends_updateRequest ..)
  · exact .refl channel controller

/-- A program that takes the place of another one stays within the slab. -/
theorem tends_storeSlab {setup : Setup} {slab : List UInt8}
    (hsetup : controller.setup = some setup)
    (hlength : slab.length = (setup.region.slab channel).length) :
    Tends channel controller (controller.storeSlab slab channel) := by
  have hstored : (controller.storeSlab slab channel).setup =
      some { setup with region := setup.region.storeSlab channel slab } := by
    rw [storeSlab, hsetup]
    rfl
  refine .of_registers ?_ rfl rfl rfl
  exact
    { LeavesOthers.refl channel controller with
      division := by
        rw [division, division, hstored, hsetup]
        exact congrArg some (Setup.division_storeSlab hlength)
      requests := fun other _ => by rw [request?, request?, hstored, hsetup]; rfl
      bytes := fun place hplace => by
        rw [byte?, byte?, hstored, hsetup]
        rw [Option.bind_some, Option.bind_some, Region.getElem?_storeSlab hlength,
          if_neg fun hin => hplace ⟨hin.1, ?_⟩]
        rw [Region.length_slab] at hlength
        have hend := hin.2
        unfold Region.slabBytes at *
        omega }

/-! ## In a world -/

variable {world : World}

theorem Tends.tending (htends : Tends channel before after) : Tending world channel before after :=
  .single (.inl htends)

/-- Whatever the world does, everything that submitting to a channel is made of is done
for the channel. -/
theorem submittingIn_tending (hchannel : channel < 32) (world : World) :
    SubmittingIn world channel (Tending world channel) where
  pause controller := .single (.inr rfl)
  log message controller := (tends_log channel message controller).tending
  kill controller :=
    (tends_issue (show Event.IsOf channel (.issue _ .kill) from rfl) controller).tending
  silence controller := (tends_silence hchannel controller).tending
  markStopped controller := (tends_updateRequest channel _ controller).tending
  noteAbort controller := (tends_noteAbort channel controller).tending
  unmaskEvent controller := (tends_unmaskEvent hchannel controller).tending
  maskEvent controller := (tends_maskEvent hchannel controller).tending
  launch {controller setup transfer} hsetup htransfer := by
    have hnames : Event.IsOf channel (.issue (.channel channel)
        (.go channel (setup.slabAddress channel) setup.device.nonsecure)) := ⟨rfl, rfl⟩
    exact ((tends_issue hnames controller).trans (tends_updateRequest ..)).tending
  forget controller := (tends_updateRequest channel _ controller).tending
  install hsetup _ hwrite :=
    ((tends_storeSlab hsetup (Program.length_written hwrite)).trans
      (tends_updateRequest ..)).tending

/-! ## All in all -/

theorem Confined.refl (channel : Nat) (controller : Controller) :
    Confined channel controller controller :=
  ⟨.refl channel controller, [], rfl, by simp, fun _ => .of_eq rfl⟩

theorem Confined.trans (hfirst : Confined channel before middle)
    (hsecond : Confined channel middle after) : Confined channel before after := by
  obtain ⟨older, holder, hold, holdBits⟩ := hfirst.history
  obtain ⟨newer, hnewer, hnew, hnewBits⟩ := hsecond.history
  refine ⟨hfirst.toLeavesOthers.trans hsecond.toLeavesOthers, newer ++ older,
    by rw [hnewer, holder, List.append_assoc], ?_, fun hkept => ?_⟩
  · exact fun event hevent => (List.mem_append.mp hevent).elim (hnew event) (hold event)
  · exact (holdBits fun value hmem => hkept value (List.mem_append_right _ hmem)).trans
      (hnewBits fun value hmem => hkept value (List.mem_append_left _ hmem))

theorem Tends.confined (htends : Tends channel before after) : Confined channel before after := by
  obtain ⟨events, hhistory, hof, -⟩ := htends.history
  exact ⟨htends.toLeavesOthers, events, hhistory, fun event hevent => .inl (hof event hevent),
    fun _ => htends.enabled⟩

/-- Only the world did something, and no interrupt was handled. -/
structure Idles (before after : Controller) : Prop extends Aside before after where
  elapsed : ∃ events, after.history = events ++ before.history ∧
    (∀ event ∈ events, event.IsOfWorld) ∧
    ((∀ value, .change .interruptEnable value ∉ events) →
      after.read .interruptEnable = before.read .interruptEnable)

theorem Idles.refl (controller : Controller) : Idles controller controller :=
  ⟨.refl controller, [], rfl, by simp, fun _ => rfl⟩

theorem Idles.trans (hfirst : Idles before middle) (hsecond : Idles middle after) :
    Idles before after := by
  obtain ⟨older, holder, hold, holdBits⟩ := hfirst.elapsed
  obtain ⟨newer, hnewer, hnew, hnewBits⟩ := hsecond.elapsed
  refine ⟨hfirst.toAside.trans hsecond.toAside, newer ++ older,
    by rw [hnewer, holder, List.append_assoc], ?_, fun hkept => ?_⟩
  · exact fun event hevent => (List.mem_append.mp hevent).elim (hnew event) (hold event)
  · exact (hnewBits fun value hmem => hkept value (List.mem_append_left _ hmem)).trans
      (holdBits fun value hmem => hkept value (List.mem_append_right _ hmem))

theorem Idles.confined (hidles : Idles before after) : Confined channel before after := by
  obtain ⟨events, hhistory, hof, hbits⟩ := hidles.elapsed
  exact ⟨.of_aside hidles.toAside, events, hhistory, fun event hevent => .inr (hof event hevent),
    fun hkept => .of_eq (hbits hkept)⟩

theorem idles_disturb {disturbance : Disturbance} (hchange : disturbance.IsChange)
    (controller : Controller) : Idles controller (controller.disturb disturbance) := by
  cases disturbance with
  | change register value =>
      refine ⟨aside_change register value controller, [.change register value], rfl,
        by simp [Event.IsOfWorld], fun hkept => ?_⟩
      refine Registers.read_write_of_ne _ _ fun hsame => hkept value ?_
      exact hsame ▸ List.mem_singleton_self _
  | interrupt => exact hchange.elim

theorem idles_pause (hworld : world.Causes Disturbance.IsChange) (controller : Controller) :
    Idles controller (controller.pause world) := by
  have hdisturbed : ∀ (disturbances : List Disturbance) controller,
      (∀ disturbance ∈ disturbances, disturbance.IsChange) →
      Idles controller (disturbances.foldl disturb controller) := by
    intro disturbances
    induction disturbances with
    | nil => exact fun controller _ => .refl controller
    | cons disturbance rest ih =>
        intro controller hchanges
        rw [List.forall_mem_cons] at hchanges
        exact (idles_disturb hchanges.1 controller).trans (ih _ hchanges.2)
  refine Idles.trans ?_ (hdisturbed _ _ (hworld _))
  exact ⟨aside_tick controller, [.delay], rfl, by simp [Event.IsOfWorld], fun _ => rfl⟩

/-- In a world where registers change, what belongs to the other channels is spared. -/
theorem Tending.confined (hworld : world.Causes Disturbance.IsChange)
    (htending : Tending world channel before after) : Confined channel before after := by
  induction htending with
  | refl => exact .refl channel before
  | tail _ hstep ih =>
      rcases hstep with htends | rfl
      · exact ih.trans htends.confined
      · exact ih.trans (idles_pause hworld _).confined

end Controller

end CyclicDma
