import CyclicDma.Proofs.Controller.Killing
import CyclicDma.Proofs.Controller.Writes

/-! # Serving all channels at once

When interrupts are handled, the channels are served one after the other, and any of
them may have signalled, faulted, or both. `Served` says what serving several channels
comes to, all registers and all channels included: the periods that are counted, the
faults that are marked, and the kills, each with the mask of its own event. Serving
some channels and then others is serving all of them.
-/

namespace CyclicDma

/-- What becomes of the notification state of a channel that is served. -/
def Notifications.served (signalled faulting busy : Bool) (notifications : Notifications) :
    Notifications :=
  let counted := if signalled then notifications.addPending else notifications
  if faulting then { counted with faulted := true, aborted := counted.aborted || !busy }
  else counted

/-- The fault of a channel is marked after its period was counted. -/
theorem Notifications.served_of_fault {notifications counted : Notifications}
    {signalled busy : Bool} (hcounted : counted = notifications.served signalled false busy) :
    notifications.served signalled true busy =
      { counted with faulted := true, aborted := counted.aborted || !busy } := by
  subst hcounted
  cases signalled <;> rfl

theorem Notifications.aborted_served (signalled faulting busy : Bool)
    (notifications : Notifications) :
    (notifications.served signalled faulting busy).aborted =
      (notifications.aborted || faulting && !busy) := by
  cases signalled <;> cases faulting <;> simp [served, addPending]

theorem Notifications.faulted_served (signalled faulting busy : Bool)
    (notifications : Notifications) :
    (notifications.served signalled faulting busy).faulted =
      (notifications.faulted || faulting) := by
  cases signalled <;> cases faulting <;> simp [served, addPending]

namespace Controller

variable {before middle after controller : Controller} {channel : Nat}
variable {raised faults : UInt32} {first second : List Nat}

/-- How often it was said that the kill of the channel is put off. -/
def deferrals (channel : Nat) (controller : Controller) : Nat :=
  controller.history.count (.log (.killDeferred channel))

/-- The channels, among several ones, that are to be killed: they are faulting and were
not killed before. -/
def attempted (faults : UInt32) (channels : List Nat) (controller : Controller) : List Nat :=
  channels.filter fun channel =>
    hasChannel faults channel && !(controller.notificationsOf channel).aborted

/-- The channels that are killed. A busy debug interface takes no kill. -/
def killed (faults : UInt32) (channels : List Nat) (controller : Controller) : List Nat :=
  if controller.isDebugBusy then [] else controller.attempted faults channels

/-- The channels whose kills are put off with a message, if messages of that kind are
admitted. -/
def deferred (faults : UInt32) (channels : List Nat) (controller : Controller) : List Nat :=
  if controller.isDebugBusy && LogLevel.warn.isAdmitted controller.config.verbosity then
    controller.attempted faults channels
  else []

/-- A register that drives no channel keeps its content if only those are written that do. -/
theorem Stores.read_of_not_driving {values : List (Register × UInt32)}
    (hstores : Stores values before after)
    (hvalues : ∀ written ∈ values, written.1 ∈ Register.driving) {register : Register}
    (hregister : register ∉ Register.driving) : after.read register = before.read register := by
  refine hstores.read_of_not_mem fun hmem => hregister ?_
  obtain ⟨written, hwritten, rfl⟩ := List.mem_map.mp hmem
  exact hvalues written hwritten

/-- The events that are still enabled when those of some channels are masked. -/
def maskAll (enabled : UInt32) (channels : List Nat) : UInt32 :=
  channels.foldl (fun enabled channel => enabled &&& ~~~channelBit channel) enabled

/-- The writes that kill some channels, one after the other. -/
def killAllWrites (enabled : UInt32) : List Nat → List (Register × UInt32)
  | [] => []
  | channel :: rest =>
      killWrites enabled (.channel channel) ++
        killAllWrites (enabled &&& ~~~channelBit channel) rest

/-- What serving some channels comes to. -/
structure Served (raised faults : UInt32) (channels : List Nat) (before after : Controller) :
    Prop where
  stores : Stores (killAllWrites (before.read .interruptEnable) (before.killed faults channels))
    before after
  enabled : after.read .interruptEnable =
    maskAll (before.read .interruptEnable) (before.killed faults channels)
  state (channel : Nat) : after.notificationsOf channel =
    if channel ∈ channels then
      (before.notificationsOf channel).served (hasChannel raised channel)
        (hasChannel faults channel) before.isDebugBusy
    else before.notificationsOf channel
  kills (channel : Nat) : after.kills channel =
    before.kills channel + (before.killed faults channels).count channel
  deferrals (channel : Nat) : after.deferrals channel =
    before.deferrals channel + (before.deferred faults channels).count channel
  busy : after.isDebugBusy = before.isDebugBusy
  managed : after.managed = before.managed
  config : after.config = before.config

theorem bitOf_maskAll {channels : List Nat} (hchannels : ∀ channel ∈ channels, channel < 32)
    (enabled : UInt32) (channel : Nat) :
    bitOf (maskAll enabled channels) channel =
      (bitOf enabled channel && !decide (channel ∈ channels)) := by
  unfold maskAll
  induction channels generalizing enabled with
  | nil => simp
  | cons first rest ih =>
      obtain ⟨hfirst, hrest⟩ := List.forall_mem_cons.mp hchannels
      rw [List.foldl_cons, ih hrest, bitOf_and_not, bitOf_channelBit hfirst, Bool.and_assoc,
        ← Bool.not_or]
      simp

theorem killAllWrites_append (enabled : UInt32) (first second : List Nat) :
    killAllWrites enabled (first ++ second) =
      killAllWrites enabled first ++ killAllWrites (maskAll enabled first) second := by
  induction first generalizing enabled with
  | nil => rfl
  | cons channel rest ih =>
      rw [List.cons_append, killAllWrites, ih, killAllWrites, List.append_assoc]
      rfl

/-- Kills are written to the registers that drive channels. -/
theorem mem_driving_of_mem_killWrites (enabled : UInt32) (thread : ThreadId) :
    ∀ written ∈ killWrites enabled thread, written.1 ∈ Register.driving := by
  have hsilenced : ∀ written ∈ silenceWrites enabled thread, written.1 ∈ Register.driving := by
    unfold silenceWrites
    split
    · simp
    · split <;> simp [Register.driving]
  refine List.forall_mem_append.mpr ⟨?_, hsilenced⟩
  simp [Register.driving]

theorem mem_driving_of_mem_killAllWrites (enabled : UInt32) (channels : List Nat) :
    ∀ written ∈ killAllWrites enabled channels, written.1 ∈ Register.driving := by
  induction channels generalizing enabled with
  | nil => simp [killAllWrites]
  | cons channel rest ih =>
      exact List.forall_mem_append.mpr ⟨mem_driving_of_mem_killWrites enabled _, ih _⟩

/-! ## Serving more channels -/

theorem Served.refl (raised faults : UInt32) (controller : Controller) :
    Served raised faults [] controller controller where
  stores := by
    have hnone : controller.killed faults [] = [] := by simp [killed, attempted]
    rw [hnone]
    exact .refl controller
  enabled := by simp [killed, attempted, maskAll]
  state _ := by simp
  kills _ := by simp [killed, attempted]
  deferrals _ := by simp [deferred, attempted]
  busy := rfl
  managed := rfl
  config := rfl

section

variable (hfirst : Served raised faults first before middle)
variable (hdistinct : ∀ channel ∈ second, channel ∉ first)

include hfirst hdistinct

/-- Whether a channel is to be killed does not depend on the ones that were served
before. -/
theorem Served.attempted_eq : middle.attempted faults second = before.attempted faults second := by
  refine List.filter_congr fun channel hmem => ?_
  rw [hfirst.state, if_neg (hdistinct channel hmem)]

theorem Served.killed_append :
    before.killed faults (first ++ second) =
      before.killed faults first ++ middle.killed faults second := by
  unfold killed
  rw [hfirst.busy, hfirst.attempted_eq hdistinct]
  split
  · rfl
  · exact List.filter_append ..

theorem Served.deferred_append :
    before.deferred faults (first ++ second) =
      before.deferred faults first ++ middle.deferred faults second := by
  unfold deferred
  rw [hfirst.busy, hfirst.config, hfirst.attempted_eq hdistinct]
  split
  · exact List.filter_append ..
  · rfl

theorem Served.append (hsecond : Served raised faults second middle after) :
    Served raised faults (first ++ second) before after := by
  have hkilled := hfirst.killed_append hdistinct
  have hdeferred := hfirst.deferred_append hdistinct
  refine ⟨?_, ?_, fun channel => ?_, fun channel => ?_, fun channel => ?_,
    hsecond.busy.trans hfirst.busy, hsecond.managed.trans hfirst.managed,
    hsecond.config.trans hfirst.config⟩
  · rw [hkilled, killAllWrites_append, ← hfirst.enabled]
    exact hfirst.stores.trans hsecond.stores
  · rw [hkilled, hsecond.enabled, hfirst.enabled, maskAll, maskAll, maskAll, List.foldl_append]
  · rw [hsecond.state, hfirst.busy, hfirst.state]
    by_cases hlate : channel ∈ second
    · simp [hlate, hdistinct channel hlate]
    · simp [hlate]
  · rw [hsecond.kills, hfirst.kills, hkilled, List.count_append, Nat.add_assoc]
  · rw [hsecond.deferrals, hfirst.deferrals, hdeferred, List.count_append, Nat.add_assoc]

end

/-! ## One channel -/

/-- Nothing happens but that something is remembered or said, which does not put off a
kill. -/
structure Notes (before after : Controller) : Prop where
  stores : Stores [] before after
  kills (channel : Nat) : after.kills channel = before.kills channel
  deferrals (channel : Nat) : after.deferrals channel = before.deferrals channel
  managed : after.managed = before.managed
  config : after.config = before.config

theorem Notes.refl (controller : Controller) : Notes controller controller :=
  ⟨.refl controller, fun _ => rfl, fun _ => rfl, rfl, rfl⟩

theorem Notes.trans (hfirst : Notes before middle) (hsecond : Notes middle after) :
    Notes before after where
  stores := hfirst.stores.quietly hsecond.stores
  kills channel := (hsecond.kills channel).trans (hfirst.kills channel)
  deferrals channel := (hsecond.deferrals channel).trans (hfirst.deferrals channel)
  managed := hsecond.managed.trans hfirst.managed
  config := hsecond.config.trans hfirst.config

theorem Notes.read (hnotes : Notes before after) (register : Register) :
    after.read register = before.read register :=
  hnotes.stores.read_of_not_mem List.not_mem_nil

theorem Notes.busy (hnotes : Notes before after) : after.isDebugBusy = before.isDebugBusy := by
  rw [isDebugBusy, isDebugBusy, hnotes.read]

theorem notes_updateNotifications (channel : Nat) (update : Notifications → Notifications)
    (controller : Controller) : Notes controller (controller.updateNotifications channel update) :=
  ⟨⟨.of_history rfl, rfl, rfl⟩, fun _ => rfl, fun _ => rfl, managed_updateNotifications .., rfl⟩

theorem notes_log {message : LogMessage} (hmessage : ∀ channel, message ≠ .killDeferred channel)
    (controller : Controller) : Notes controller (controller.log message) where
  stores := stores_log message controller
  kills channel := kills_log message channel controller
  deferrals channel := by
    unfold log logAt
    split
    · exact List.count_cons_of_ne fun heq => hmessage channel (Event.log.inj heq)
    · rfl
  managed := (aside_log message controller).managed
  config := (aside_log message controller).config

/-- Whoever serves one channel leaves the state of the other ones alone. -/
theorem served_state
    (hstate : after.notificationsOf channel =
      (before.notificationsOf channel).served (hasChannel raised channel)
        (hasChannel faults channel) before.isDebugBusy)
    (hothers : ∀ other, other ≠ channel →
      after.notificationsOf other = before.notificationsOf other) (other : Nat) :
    after.notificationsOf other =
      if other ∈ [channel] then
        (before.notificationsOf other).served (hasChannel raised other)
          (hasChannel faults other) before.isDebugBusy
      else before.notificationsOf other := by
  by_cases hsame : other = channel
  · subst hsame
    rw [if_pos (List.mem_singleton_self _), hstate]
  · rw [if_neg (mt List.mem_singleton.mp hsame), hothers other hsame]

/-- A channel with nothing to be killed for is served by taking notes. -/
theorem Notes.served (hnotes : Notes before after)
    (hstate : after.notificationsOf channel =
      (before.notificationsOf channel).served (hasChannel raised channel)
        (hasChannel faults channel) before.isDebugBusy)
    (hothers : ∀ other, other ≠ channel →
      after.notificationsOf other = before.notificationsOf other)
    (hnone : before.attempted faults [channel] = []) :
    Served raised faults [channel] before after := by
  have hkilled : before.killed faults [channel] = [] := by rw [killed, hnone, ite_self]
  have hdeferred : before.deferred faults [channel] = [] := by rw [deferred, hnone, ite_self]
  refine ⟨?_, ?_, served_state hstate hothers, fun other => ?_, fun other => ?_, hnotes.busy,
    hnotes.managed, hnotes.config⟩
  · rw [hkilled]
    exact hnotes.stores
  · rw [hkilled]
    exact hnotes.read _
  · rw [hkilled]
    exact hnotes.kills other
  · rw [hdeferred]
    exact hnotes.deferrals other

/-- A message is there if the verbosity admits it. -/
theorem deferrals_log_killDeferred (channel other : Nat) (controller : Controller) :
    (controller.log (.killDeferred channel)).deferrals other =
      controller.deferrals other +
        (if LogLevel.warn.isAdmitted controller.config.verbosity then [channel] else []).count
          other := by
  change (if LogLevel.warn.isAdmitted controller.config.verbosity then
    controller.record (.log (.killDeferred channel)) else controller).deferrals other = _
  split
  · rw [deferrals, record, List.count_cons, List.count_singleton]
    simp [deferrals]
  · rfl

/-- The kill of a channel that has to be killed is put off. -/
theorem Notes.served_of_busy (hnotes : Notes before middle)
    (hbusy : before.isDebugBusy = true)
    (hstate : middle.notificationsOf channel =
      (before.notificationsOf channel).served (hasChannel raised channel)
        (hasChannel faults channel) before.isDebugBusy)
    (hothers : ∀ other, other ≠ channel →
      middle.notificationsOf other = before.notificationsOf other)
    (hattempted : before.attempted faults [channel] = [channel]) :
    Served raised faults [channel] before (middle.log (.killDeferred channel)) := by
  have hkilled : before.killed faults [channel] = [] := if_pos hbusy
  have hlogged := aside_log (.killDeferred channel) middle
  have hstores := hnotes.stores.quietly (stores_log (.killDeferred channel) middle)
  refine ⟨?_, ?_, served_state ((hlogged.notificationsOf _).trans hstate) fun other hne =>
      (hlogged.notificationsOf other).trans (hothers other hne), fun other => ?_,
    fun other => ?_, ?_, hlogged.managed.trans hnotes.managed,
    hlogged.config.trans hnotes.config⟩
  · rw [hkilled]
    exact hstores
  · rw [hkilled]
    exact hstores.read_of_not_mem List.not_mem_nil
  · rw [hkilled, kills_log]
    exact hnotes.kills other
  · rw [deferred, hbusy, Bool.true_and, hattempted, ← hnotes.deferrals, ← hnotes.config]
    exact deferrals_log_killDeferred ..
  · rw [isDebugBusy, isDebugBusy, hstores.read_of_not_mem List.not_mem_nil]

/-! ### Kills -/

theorem stores_abort (hidle : controller.isDebugBusy = false) (channel : Nat) :
    Stores (killWrites (controller.read .interruptEnable) (.channel channel)) controller
      (controller.abort channel) := by
  rw [abort_of_idle hidle]
  exact ((stores_kill (.channel channel) controller).quietly (stores_log ..)).quietly
    (notes_updateNotifications ..).stores

theorem read_interruptEnable_abort (hidle : controller.isDebugBusy = false) (channel : Nat) :
    (controller.abort channel).read .interruptEnable =
      controller.read .interruptEnable &&& ~~~channelBit channel := by
  rw [abort_of_idle hidle]
  change read .interruptEnable (log ..) = _
  rw [read_log, read_interruptEnable_kill]

/-- A kill leaves the debug interface alone otherwise. -/
theorem isDebugBusy_abort (channel : Nat) (controller : Controller) :
    (controller.abort channel).isDebugBusy = controller.isDebugBusy := by
  cases hbusy : controller.isDebugBusy with
  | true => rw [abort_of_busy hbusy, hbusy]
  | false =>
      rw [← hbusy, isDebugBusy, isDebugBusy,
        (stores_abort hbusy channel).read_of_not_driving (mem_driving_of_mem_killWrites _ _)
          (by decide)]

theorem deferrals_abort (channel other : Nat) (controller : Controller) :
    (controller.abort channel).deferrals other = controller.deferrals other := by
  cases hbusy : controller.isDebugBusy with
  | true => rw [abort_of_busy hbusy]
  | false =>
      have hwritten : ∀ register value, ∀ controller : Controller,
          (controller.write register value).deferrals other = controller.deferrals other :=
        fun register value controller => List.count_cons_of_ne (by exact nofun)
      have hissued : (controller.issue (.channel channel) .kill).deferrals other =
          controller.deferrals other :=
        ((notes_log (by exact nofun) _).deferrals other).trans
          (List.count_cons_of_ne (by exact nofun))
      rw [abort_of_idle hbusy, (notes_updateNotifications ..).deferrals,
        (notes_log (by exact nofun) _).deferrals, ← hissued]
      unfold silence
      dsimp only
      split
      · exact (hwritten ..).trans (hwritten ..)
      · exact hwritten ..

theorem notificationsOf_abort_of_idle (hidle : controller.isDebugBusy = false)
    (hmanaged : channel < controller.managed) :
    (controller.abort channel).notificationsOf channel =
      { controller.notificationsOf channel with aborted := true } := by
  rw [abort_of_idle hidle]
  have haside := ((aside_issue_kill (.channel channel) controller).trans
    (aside_silence (.channel channel) _)).trans (aside_log (.aborted (.channel channel)) _)
  rw [notificationsOf_updateNotifications_self _ (haside.managed.symm ▸ hmanaged),
    haside.notificationsOf]

/-- A channel that has to be killed is killed. -/
theorem Notes.served_of_idle (hnotes : Notes before middle)
    (hmanaged : channel < before.managed) (hchannel : channel < 32)
    (hidle : before.isDebugBusy = false)
    (hstate : { middle.notificationsOf channel with aborted := true } =
      (before.notificationsOf channel).served (hasChannel raised channel)
        (hasChannel faults channel) before.isDebugBusy)
    (hothers : ∀ other, other ≠ channel →
      middle.notificationsOf other = before.notificationsOf other)
    (hattempted : before.attempted faults [channel] = [channel]) :
    Served raised faults [channel] before (middle.abort channel) := by
  have hstill : middle.isDebugBusy = false := hnotes.busy.trans hidle
  have hkept : channel < middle.managed := hnotes.managed.symm ▸ hmanaged
  have hkilled : before.killed faults [channel] = [channel] := by
    rw [killed, hattempted, hidle]
    rfl
  have hdeferred : before.deferred faults [channel] = [] := by
    rw [deferred, hidle]
    rfl
  have hself := (notificationsOf_abort_of_idle hstill hkept).trans hstate
  refine ⟨?_, ?_, served_state hself fun other hne =>
      (notificationsOf_abort_of_ne hne middle).trans (hothers other hne), fun other => ?_,
    fun other => ?_, (isDebugBusy_abort ..).trans hnotes.busy,
    (keeps_abort ..).managed.trans hnotes.managed, (keeps_abort ..).config.trans hnotes.config⟩
  · rw [hkilled, killAllWrites, killAllWrites, List.append_nil, ← hnotes.read .interruptEnable]
    exact hnotes.stores.trans (stores_abort hstill channel)
  · rw [hkilled, read_interruptEnable_abort hstill, hnotes.read]
    rfl
  · rw [hkilled, ← hnotes.kills, List.count_singleton]
    by_cases hsame : other = channel
    · subst hsame
      rw [(kills_abort hstill hkept hchannel).issued]
      simp
    · rw [(spares_abort (Ne.symm hsame) hchannel middle).kills]
      simp [Ne.symm hsame]
  · rw [hdeferred, deferrals_abort]
    exact hnotes.deferrals other

/-! ## Serving -/

/-- A channel is among those to be killed if it is faulting and was not killed before. -/
theorem attempted_singleton (faults : UInt32) (channel : Nat) (controller : Controller) :
    controller.attempted faults [channel] =
      if hasChannel faults channel && !(controller.notificationsOf channel).aborted then [channel]
      else [] := by
  rw [attempted, List.filter_singleton]
  cases hasChannel faults channel && !(controller.notificationsOf channel).aborted <;> rfl

/-- The period of a channel that signalled is counted, and nothing else happens. -/
structure Counts (raised : UInt32) (channel : Nat) (before after : Controller) : Prop where
  notes : Notes before after
  state : after.notificationsOf channel =
    (before.notificationsOf channel).served (hasChannel raised channel) false before.isDebugBusy
  others (other : Nat) (hne : other ≠ channel) :
    after.notificationsOf other = before.notificationsOf other

theorem counts_addPending (hmanaged : channel < controller.managed) (raised : UInt32) :
    Counts raised channel controller
      (if hasChannel raised channel then
        controller.updateNotifications channel Notifications.addPending
      else controller) := by
  split
  next hraised =>
    refine ⟨notes_updateNotifications .., ?_, fun other hne =>
      notificationsOf_updateNotifications_of_ne _ hne⟩
    rw [notificationsOf_updateNotifications_self _ hmanaged, hraised]
    rfl
  next hraised =>
    refine ⟨.refl controller, ?_, fun _ _ => rfl⟩
    rw [Bool.eq_false_of_not_eq_true hraised]
    rfl

/-- A fault is marked before the channel is killed. -/
theorem onFault_eq (hmanaged : channel < controller.managed) :
    ∃ noted : Controller, Notes controller noted ∧
      noted.notificationsOf channel =
        { controller.notificationsOf channel with faulted := true } ∧
      (∀ other, other ≠ channel →
        noted.notificationsOf other = controller.notificationsOf other) ∧
      controller.onFault channel =
        if (noted.notificationsOf channel).aborted then noted
        else if ((noted.abort channel).notificationsOf channel).aborted then noted.abort channel
        else (noted.abort channel).log (.killDeferred channel) := by
  have hlogged := aside_log (.channelFault channel ⟨controller.read (.faultType channel)⟩)
    (controller.updateNotifications channel ({ · with faulted := true }))
  refine ⟨_, (notes_updateNotifications ..).trans (notes_log (by exact nofun) _),
    (hlogged.notificationsOf channel).trans ?_, fun other hne =>
      (hlogged.notificationsOf other).trans ?_, rfl⟩
  · exact notificationsOf_updateNotifications_self _ hmanaged
  · exact notificationsOf_updateNotifications_of_ne _ hne

/-- A channel that is faulting is served after its period was counted. -/
theorem Counts.served_onFault (hcounts : Counts raised channel before middle)
    (hmanaged : channel < before.managed) (hchannel : channel < 32)
    (hfault : hasChannel faults channel = true) :
    Served raised faults [channel] before (middle.onFault channel) := by
  have hlive : (middle.notificationsOf channel).aborted =
      (before.notificationsOf channel).aborted := by
    rw [hcounts.state, Notifications.aborted_served, Bool.false_and, Bool.or_false]
  have hattempted : before.attempted faults [channel] =
      if !(middle.notificationsOf channel).aborted then [channel] else [] := by
    rw [attempted_singleton, hfault, Bool.true_and, hlive]
  have hserved := Notifications.served_of_fault hcounts.state
  obtain ⟨noted, hnotes, hstate, hothers, heq⟩ :=
    onFault_eq (hcounts.notes.managed.symm ▸ hmanaged : channel < middle.managed)
  have hnoted := hcounts.notes.trans hnotes
  have hapart := fun other hne => (hothers other hne).trans (hcounts.others other hne)
  rw [heq, hstate]
  cases hmarked : (middle.notificationsOf channel).aborted with
  | true =>
      rw [if_pos rfl]
      refine hnoted.served ?_ hapart ?_
      · rw [hstate, hfault, hserved]
        simp [hmarked]
      · rw [hattempted, hmarked]
        rfl
  | false =>
      rw [hmarked] at hattempted
      rw [if_neg (by simp)]
      cases hbusy : before.isDebugBusy with
      | true =>
          rw [abort_of_busy (hnoted.busy.trans hbusy), hstate, hmarked, if_neg (by simp)]
          refine hnoted.served_of_busy hbusy ?_ hapart hattempted
          rw [hstate, hfault, hserved, hbusy]
          simp
      | false =>
          rw [notificationsOf_abort_of_idle (hnoted.busy.trans hbusy)
            (hnoted.managed.symm ▸ hmanaged), if_pos rfl]
          refine hnoted.served_of_idle hmanaged hchannel hbusy ?_ hapart hattempted
          rw [hstate, hfault, hserved, hbusy]
          simp

theorem served_serveChannel (hmanaged : channel < controller.managed) (hchannel : channel < 32)
    (raised faults : UInt32) :
    Served raised faults [channel] controller (controller.serveChannel raised faults channel) := by
  have hcounts := counts_addPending hmanaged raised
  unfold serveChannel
  dsimp only
  split
  next hfault => exact hcounts.served_onFault hmanaged hchannel hfault
  next hsound =>
    have hsound := Bool.eq_false_of_not_eq_true hsound
    refine hcounts.notes.served ?_ hcounts.others ?_
    · rw [hcounts.state, hsound]
    · rw [attempted_singleton, hsound]
      rfl

theorem served_serveChannels {channels : List Nat} (hdistinct : channels.Nodup)
    (hchannels : ∀ channel ∈ channels, channel < controller.managed ∧ channel < 32)
    (raised faults : UInt32) :
    Served raised faults channels controller
      (channels.foldl (serveChannel raised faults) controller) := by
  induction channels generalizing controller with
  | nil => exact .refl raised faults controller
  | cons first rest ih =>
      obtain ⟨⟨hmanaged, hfirst⟩, hrest⟩ := List.forall_mem_cons.mp hchannels
      obtain ⟨hother, hrests⟩ := List.nodup_cons.mp hdistinct
      have hserved := served_serveChannel hmanaged hfirst raised faults
      refine hserved.append (fun channel hmem => ?_) (ih hrests fun channel hmem => ?_)
      · rw [List.mem_singleton]
        rintro rfl
        exact hother hmem
      · rw [hserved.managed]
        exact hrest channel hmem

end Controller

end CyclicDma
