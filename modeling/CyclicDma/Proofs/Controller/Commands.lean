import CyclicDma.Proofs.Controller.Tending

/-! # Commands that are handed over

A thread is killed, or a channel is launched, by handing a command over. Most of what a
driver does hands over none, and nothing that stops a thread launches a channel, whatever the
world does meanwhile.
-/

namespace CyclicDma

/-- A command is handed over. -/
def Event.IsCommand : Event → Prop
  | issue .. => True
  | _ => False

/-- A thread is killed. -/
def Event.IsKill : Event → Prop
  | issue _ .kill => True
  | _ => False

/-- A channel is launched. -/
def Event.IsLaunch : Event → Prop
  | issue _ (.go ..) => True
  | _ => False

theorem Event.IsKill.isCommand {event : Event} (hkill : event.IsKill) : event.IsCommand := by
  cases event with
  | issue => trivial
  | _ => exact hkill.elim

theorem Event.IsOfWorld.not_isCommand {event : Event} (hworld : event.IsOfWorld) :
    ¬ event.IsCommand := by
  cases event with
  | issue => exact hworld.elim
  | _ => exact id

theorem Event.IsAside.not_isLaunch {event : Event} (haside : event.IsAside) :
    ¬ event.IsLaunch := by
  cases event with
  | issue thread command =>
      cases command with
      | kill => exact id
      | go => exact haside.elim
  | _ => exact id

namespace Controller

variable {before middle after controller : Controller}
variable {kind : Event → Prop}

/-- The history goes on, and nothing of a kind happens. -/
def GoesOn (kind : Event → Prop) (before after : Controller) : Prop :=
  ∃ events, after.history = events ++ before.history ∧ ∀ event ∈ events, ¬ kind event

theorem GoesOn.refl (kind : Event → Prop) (controller : Controller) :
    GoesOn kind controller controller :=
  ⟨[], rfl, by simp⟩

theorem GoesOn.trans (hfirst : GoesOn kind before middle) (hsecond : GoesOn kind middle after) :
    GoesOn kind before after := by
  obtain ⟨older, holder, hold⟩ := hfirst
  obtain ⟨newer, hnewer, hnew⟩ := hsecond
  refine ⟨newer ++ older, by rw [hnewer, holder, List.append_assoc], fun event hevent => ?_⟩
  exact (List.mem_append.mp hevent).elim (hnew event) (hold event)

instance : Std.Refl (GoesOn kind) :=
  ⟨GoesOn.refl kind⟩

instance : IsTrans Controller (GoesOn kind) :=
  ⟨fun _ _ _ => GoesOn.trans⟩

theorem GoesOn.of_history (hhistory : after.history = before.history) :
    GoesOn kind before after :=
  ⟨[], hhistory, by simp⟩

/-! ## Without commands -/

/-- Without commands nobody is killed. -/
theorem GoesOn.killless (hgoes : GoesOn Event.IsCommand before after) :
    GoesOn Event.IsKill before after := by
  obtain ⟨events, hhistory, hnone⟩ := hgoes
  exact ⟨events, hhistory, fun event hevent hkill => hnone event hevent hkill.isCommand⟩

theorem uncommanded_log (message : LogMessage) (controller : Controller) :
    GoesOn Event.IsCommand controller (controller.log message) := by
  unfold log logAt
  split
  · exact ⟨[.log message], rfl, by simp [Event.IsCommand]⟩
  · exact .refl _ controller

theorem uncommanded_write (register : Register) (value : UInt32) (controller : Controller) :
    GoesOn Event.IsCommand controller (controller.write register value) :=
  ⟨[.write register value], rfl, by simp [Event.IsCommand]⟩

theorem uncommanded_silence (thread : ThreadId) (controller : Controller) :
    GoesOn Event.IsCommand controller (controller.silence thread) := by
  cases thread with
  | manager => exact .refl _ controller
  | channel channel =>
      unfold silence
      dsimp only
      split
      · exact (uncommanded_write ..).trans (uncommanded_write ..)
      · exact uncommanded_write ..

theorem uncommanded_markStopped (thread : ThreadId) (controller : Controller) :
    GoesOn Event.IsCommand controller (controller.markStopped thread) := by
  cases thread <;> exact .of_history rfl

theorem Idles.uncommanded (hidles : Idles before after) : GoesOn Event.IsCommand before after := by
  obtain ⟨events, hhistory, hof, -⟩ := hidles.elapsed
  exact ⟨events, hhistory, fun event hevent => (hof event hevent).not_isCommand⟩

/-- A launch kills nobody. -/
theorem killless_issue_go (thread : ThreadId) (channel : Nat) (address : UInt32)
    (nonsecure : Bool) (controller : Controller) :
    GoesOn Event.IsKill controller (controller.issue thread (.go channel address nonsecure)) := by
  have hissued : ∀ registers, GoesOn Event.IsKill controller
      ({ controller with registers }.record (.issue thread (.go channel address nonsecure))) :=
    fun _ => ⟨[_], rfl, by simp [Event.IsKill]⟩
  exact (hissued _).trans (uncommanded_log ..).killless

/-! ## Without launches -/

theorem Keeps.launchless (hkeeps : Keeps before after) : GoesOn Event.IsLaunch before after := by
  obtain ⟨events, hhistory, haside⟩ := hkeeps.history
  exact ⟨events, hhistory, fun event hevent => (haside event hevent).not_isLaunch⟩

theorem launchless_onInterrupt (controller : Controller) :
    GoesOn Event.IsLaunch controller controller.onInterrupt.2 := by
  obtain ⟨-, -, -, events, hhistory, haside⟩ := onInterrupt_frame controller
  refine ⟨_, hhistory, fun event hmem => ?_⟩
  rcases List.mem_append.mp hmem with hnoted | hacknowledged
  · exact (haside event hnoted).not_isLaunch
  · unfold acknowledgement at hacknowledged
    split at hacknowledged
    · exact absurd hacknowledged List.not_mem_nil
    · rw [List.mem_singleton.mp hacknowledged]
      exact id

/-- Stopping a thread launches nothing. -/
theorem stopping_launchless (thread : ThreadId) : Stopping thread (GoesOn Event.IsLaunch) where
  change register value controller := (aside_change register value controller).launchless
  interrupt := launchless_onInterrupt
  tick controller := (aside_tick controller).launchless
  log message controller := (aside_log message controller).launchless
  kill controller := (aside_issue_kill thread controller).launchless
  silence controller := (aside_silence thread controller).launchless
  markStopped controller := by
    cases thread <;> exact .of_history rfl

theorem launchless_noteAbort (channel : Nat) (controller : Controller) :
    GoesOn Event.IsLaunch controller (controller.noteAbort channel) := by
  unfold noteAbort
  split
  · exact .of_history rfl
  · exact .refl _ controller

/-- A program that is written is not launched by that. -/
theorem launchless_install {channel : Nat} {result : Except DmaError Unit} {transfer : Transfer}
    {setup : Setup}
    (hinstall : (install transfer channel setup).perform controller = (result, after)) :
    GoesOn Event.IsLaunch controller after := by
  have hinstalls := installs_install transfer channel setup controller
  rw [hinstall] at hinstalls
  cases hinstalls with
  | fail => exact .of_history rfl
  | @write size slab =>
      have hwritten : GoesOn Event.IsLaunch controller
          (((controller.setTransfer none channel).storeSlab slab channel).setTransfer
            (some transfer) channel) := .of_history rfl
      exact hwritten.trans (aside_log ..).launchless

end Controller

end CyclicDma
