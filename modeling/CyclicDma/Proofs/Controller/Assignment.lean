import CyclicDma.Proofs.Controller.Ledger
import CyclicDma.Proofs.Controller.Operations
import CyclicDma.Proofs.Controller.Programs

/-! # Who was given what

A controller divides its region among its channels, and each channel has a table
of registrations. Neither changes while channels are started, stopped and
submitted to, whatever happens meanwhile.
-/

namespace CyclicDma

/-- What a controller was given. -/
structure Lease where
  /-- The number of the region. -/
  region : Nat
  /-- The bytes of the region. -/
  length : Nat
  busAddress : UInt32

/-- How a region is divided. -/
structure Division extends Lease where
  device : Device
  /-- For each channel that can be used, whether it is held. -/
  held : List Bool

namespace Setup

def division (setup : Setup) : Division where
  device := setup.device
  region := setup.region.number
  length := setup.region.bytes.length
  busAddress := setup.busAddress
  held := setup.requests.map (·.isSome)

theorem division_updateRequest (setup : Setup) (channel : Nat) (update : Request → Request) :
    (setup.updateRequest channel update).division = setup.division := by
  have hheld : (setup.requests.modify channel (·.map update)).map (·.isSome) =
      setup.requests.map (·.isSome) := by
    apply List.ext_getElem?
    intro other
    rw [List.getElem?_map, List.getElem?_map, List.getElem?_modify]
    split <;> cases setup.requests[other]? <;> simp
  rw [division, division, updateRequest, hheld]

theorem division_storeSlab {setup : Setup} {channel : Nat} {slab : List UInt8}
    (hlength : slab.length = (setup.region.slab channel).length) :
    division { setup with region := setup.region.storeSlab channel slab } = setup.division := by
  rw [division, division]
  simp only [Region.length_storeSlab hlength]
  rfl

end Setup

namespace Controller

variable {before middle after controller : Controller}

/-- How the region is divided, while there is one. -/
def division (controller : Controller) : Option Division :=
  controller.setup.map (·.division)

/-- The region is divided as before, and each channel has the registrations that
it had before. -/
structure SameAssignment (before after : Controller) : Prop where
  division : after.division = before.division
  registrations : after.notifications.map (·.registrations) =
    before.notifications.map (·.registrations)

namespace SameAssignment

theorem refl (controller : Controller) : SameAssignment controller controller :=
  ⟨rfl, rfl⟩

theorem trans (hfirst : SameAssignment before middle) (hsecond : SameAssignment middle after) :
    SameAssignment before after :=
  ⟨hsecond.division.trans hfirst.division, hsecond.registrations.trans hfirst.registrations⟩

instance : Std.Refl SameAssignment :=
  ⟨refl⟩

instance : IsTrans Controller SameAssignment :=
  ⟨fun _ _ _ => trans⟩

theorem managed (hsame : SameAssignment before after) : after.managed = before.managed := by
  have hlength := congrArg List.length hsame.registrations
  rwa [List.length_map, List.length_map] at hlength

end SameAssignment

theorem Aside.sameAssignment (haside : Aside before after) : SameAssignment before after where
  division := by rw [division, division, haside.setup]
  registrations := by rw [haside.notifications]

theorem sameAssignment_updateNotifications {channel : Nat}
    {update : Notifications → Notifications}
    (hupdate : ∀ notifications, (update notifications).registrations =
      notifications.registrations) (controller : Controller) :
    SameAssignment controller (controller.updateNotifications channel update) where
  division := rfl
  registrations := by
    apply List.ext_getElem?
    intro other
    rw [updateNotifications, List.getElem?_map, List.getElem?_map, List.getElem?_modify]
    split <;> cases controller.notifications[other]? <;> simp [hupdate]

theorem sameAssignment_updateRequest (channel : Nat) (update : Request → Request)
    (controller : Controller) :
    SameAssignment controller (controller.updateRequest channel update) where
  division := by
    rw [division, division, updateRequest, Option.map_map]
    exact congrArg (controller.setup.map ·) (funext fun setup =>
      setup.division_updateRequest channel update)
  registrations := rfl

/-- Handling interrupts leaves all registrations alone. -/
theorem sameAssignment_onInterrupt (controller : Controller) :
    SameAssignment controller controller.onInterrupt.2 := by
  obtain ⟨hsetup, -, hmanaged, -⟩ := onInterrupt_frame controller
  refine ⟨by rw [division, division, hsetup], ?_⟩
  refine List.ext_getElem (by rwa [List.length_map, List.length_map]) fun channel hafter hbefore => ?_
  rw [List.length_map] at hafter hbefore
  obtain ⟨_, _, hmarks⟩ := sameButMarks_onInterrupt channel controller
  have hcounted : (controller.counted controller.raised channel).registrations =
      (controller.notificationsOf channel).registrations := by
    unfold counted
    split <;> rfl
  have hkept := (congrArg Notifications.registrations hmarks).trans hcounted
  rw [notificationsOf, notificationsOf, List.getD_eq_getElem _ _ hafter,
    List.getD_eq_getElem _ _ hbefore] at hkept
  rw [List.getElem_map, List.getElem_map]
  exact hkept

/-! ## Steps that assign nothing -/

theorem ThreadStep.sameAssignment (hstep : ThreadStep before after) :
    SameAssignment before after := by
  cases hstep with
  | aside haside => exact haside.sameAssignment
  | interrupt => exact sameAssignment_onInterrupt before
  | setAborted channel aborted => exact sameAssignment_updateNotifications (by exact fun _ => rfl) before
  | setRunning running channel => exact sameAssignment_updateRequest ..
  | launch =>
      obtain ⟨hsetup, -, hnotifications, -⟩ := issue_frame _ _ before
      exact ⟨by rw [division, division, hsetup], by rw [hnotifications]⟩

theorem ThreadSteps.sameAssignment (hsteps : ThreadSteps before after) :
    SameAssignment before after := by
  induction hsteps with
  | refl => exact .refl before
  | tail _ hstep ih => exact ih.trans hstep.sameAssignment

theorem sameAssignment_of_threadSteps {α : Type} {action : Attempt Controller α}
    (hfollows : Follows ThreadSteps action) : Follows SameAssignment action :=
  hfollows.mono fun _ _ => ThreadSteps.sameAssignment

/-- Writing a program changes the content of a slab, and not who holds it. -/
theorem sameAssignment_install {setup : Setup} (hsetup : controller.setup = some setup)
    (transfer : Transfer) (channel : Nat) :
    SameAssignment controller ((install transfer channel setup).perform controller).2 := by
  have hforget : SameAssignment controller (controller.setTransfer none channel) :=
    sameAssignment_updateRequest ..
  refine hforget.trans ?_
  have hinstalls := installs_install transfer channel setup controller
  generalize (install transfer channel setup).perform controller = outcome at hinstalls ⊢
  cases hinstalls with
  | fail => exact .refl _
  | @write size slab hwrite =>
      have hstored : SameAssignment (controller.setTransfer none channel)
          ((controller.setTransfer none channel).storeSlab slab channel) := by
        refine ⟨?_, rfl⟩
        rw [setTransfer, updateRequest, storeSlab, division, division, hsetup]
        exact congrArg some (Setup.division_storeSlab (Program.length_written hwrite))
      exact (hstored.trans (sameAssignment_updateRequest ..)).trans (aside_log ..).sameAssignment

theorem sameAssignment_submit (world : World) (channel : Nat) (order : Order) :
    Follows SameAssignment (submit world channel order) := by
  refine (sameAssignment_of_threadSteps (follows_noteAbort channel)).bind fun _ =>
    follows_get_bind fun controller => ?_
  split
  next setup hsetup =>
    dsimp only
    split
    · exact follows_throw_bind _ _ controller
    · split
      · exact follows_throw_bind _ _ controller
      · exact related_bind (sameAssignment_install hsetup ..) fun _ =>
          sameAssignment_of_threadSteps (follows_start world channel)
  next => exact follows_throw _ controller

theorem sameAssignment_pollPeriod (future : PeriodFuture) (waker : Waker)
    (controller : Controller) :
    SameAssignment controller (controller.pollPeriod future waker).2 := by
  unfold pollPeriod
  dsimp only
  split
  · exact .refl controller
  · split
    · exact .refl controller
    · exact sameAssignment_updateNotifications (by exact fun _ => rfl) controller

/-! ## Usable channels -/

/-- While there is a region, the channels that can be used are those that the
driver manages and the device has, with an event for each. -/
def Measured (controller : Controller) : Prop :=
  ∀ setup, controller.setup = some setup →
    setup.usable = Driver.usableChannels setup.device controller

theorem Measured.of_map {change : Setup → Setup} (hmeasured : before.Measured)
    (hafter : after.setup = before.setup.map change) (hmanaged : after.managed = before.managed)
    (hdevice : ∀ setup, (change setup).device = setup.device)
    (husable : ∀ setup, (change setup).usable = setup.usable) : after.Measured := by
  intro setup hsetup
  obtain ⟨earlier, hearlier, rfl⟩ := Option.map_eq_some_iff.mp (hafter ▸ hsetup)
  rw [husable, hdevice, hmeasured earlier hearlier, Driver.usableChannels, Driver.usableChannels,
    hmanaged]

theorem Measured.of_setup_eq (hmeasured : before.Measured) (hsetup : after.setup = before.setup)
    (hmanaged : after.managed = before.managed) : after.Measured :=
  hmeasured.of_map (hsetup.trans Option.map_id'.symm) hmanaged (fun _ => rfl) fun _ => rfl

theorem Measured.threadStep (hmeasured : before.Measured) (hstep : ThreadStep before after) :
    after.Measured := by
  have hmanaged := hstep.sameAssignment.managed
  cases hstep with
  | aside haside => exact hmeasured.of_setup_eq haside.setup hmanaged
  | interrupt => exact hmeasured.of_setup_eq (onInterrupt_frame before).1 hmanaged
  | setAborted => exact hmeasured.of_setup_eq rfl hmanaged
  | setRunning running channel =>
      exact hmeasured.of_map rfl hmanaged (fun _ => rfl) fun setup =>
        setup.usable_updateRequest channel _
  | launch => exact hmeasured.of_setup_eq (issue_frame _ _ before).1 hmanaged

theorem Measured.step (hmeasured : before.Measured) (hstep : Step before after) :
    after.Measured := by
  have hmanaged := hstep.managed
  cases hstep with
  | thread hthread => exact hmeasured.threadStep hthread
  | await | register | unregister | removeOwner | takePending | discardPending =>
      exact hmeasured.of_setup_eq rfl hmanaged
  | forget channel =>
      exact hmeasured.of_map rfl hmanaged (fun _ => rfl) fun setup =>
        setup.usable_updateRequest channel _
  | @install channel _ _ _ slab order =>
      refine hmeasured.of_map (Option.map_map ..) hmanaged (fun _ => rfl) fun setup => ?_
      exact List.length_modify ..
  | allocate | release =>
      exact hmeasured.of_map rfl hmanaged (fun _ => rfl) fun _ => List.length_set
  | «open» busAddress usable hclosed hdevice hsupported husable hregion =>
      intro setup hsetup
      cases hsetup
      exact List.length_replicate.trans husable
  | close => exact fun _ hsetup => nomatch hsetup

theorem Reachable.measured (hreachable : controller.Reachable) : controller.Measured := by
  obtain ⟨channels, start, hnew, hsteps⟩ := hreachable
  induction hsteps with
  | refl =>
      unfold new? at hnew
      split at hnew <;> cases hnew
      exact fun _ hsetup => nomatch hsetup
  | tail _ hstep ih => exact ih.step hstep

end Controller

end CyclicDma
