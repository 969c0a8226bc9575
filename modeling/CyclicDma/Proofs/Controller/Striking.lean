import CyclicDma.Proofs.Controller.Handling
import CyclicDma.Proofs.Controller.Operations

/-! # Kills, counted

Handling interrupts and delivering periods kills faulting channels, and marks those that
it kills. `Strikes` says which ones were killed in the meantime, and that nothing but
acknowledgements was written besides. A channel that is marked is killed by neither, so
the kills and the mark of a channel keep each other's account until its slot is cleared or
its holder takes note of the mark.
-/

namespace CyclicDma

/-- The event says that the slot of the channel was cleared. -/
def Event.clears (channel : Nat) : Event → Bool
  | discard cleared _ => cleared = channel
  | _ => false

theorem Event.IsAside.clears_eq_false {event : Event} (haside : event.IsAside) (channel : Nat) :
    event.clears channel = false := by
  cases event with
  | discard => exact haside.elim
  | _ => rfl

namespace Controller

variable {before middle after controller : Controller} {channel driven : Nat}
variable {first second : List Nat}

/-- How often the slot of the channel was cleared. -/
def clears (channel : Nat) (controller : Controller) : Nat :=
  controller.history.countP (·.clears channel)

theorem clears_of_history {events : List Event}
    (hhistory : after.history = events ++ before.history)
    (hevents : ∀ event ∈ events, event.clears channel = false) :
    after.clears channel = before.clears channel := by
  have hnone : events.countP (·.clears channel) = 0 :=
    List.countP_eq_zero.mpr fun event hevent => Bool.eq_false_iff.mp (hevents event hevent)
  rw [clears, clears, hhistory, List.countP_append, hnone, Nat.zero_add]

theorem Keeps.clears (hkeeps : Keeps before after) (channel : Nat) :
    after.clears channel = before.clears channel := by
  obtain ⟨events, hhistory, haside⟩ := hkeeps.history
  exact clears_of_history hhistory fun event hevent => (haside event hevent).clears_eq_false channel

theorem clears_onInterrupt (channel : Nat) (controller : Controller) :
    controller.onInterrupt.2.clears channel = controller.clears channel := by
  obtain ⟨-, -, -, events, hhistory, haside⟩ := onInterrupt_frame controller
  refine clears_of_history hhistory (List.forall_mem_append.mpr ⟨fun event hevent => ?_, ?_⟩)
  · exact (haside event hevent).clears_eq_false channel
  · unfold acknowledgement
    split <;> simp [Event.clears]

/-! ## Strikes -/

/-- Some channels are killed, one after the other, and nothing else is done to the
controller than that events are acknowledged. -/
structure Strikes (channels : List Nat) (before after : Controller) : Prop where
  stores : ∃ values, Stores values before after ∧
    values.filter (·.1 ≠ .interruptClear) =
      (killAllWrites (before.read .interruptEnable) channels).filter (·.1 ≠ .interruptClear)
  distinct : channels.Nodup
  struck (channel : Nat) (hmem : channel ∈ channels) :
    before.isDebugBusy = false ∧ channel < before.managed ∧
      hasChannel (before.read .channelFaultStatus) channel = true ∧
      (before.notificationsOf channel).aborted = false
  enabled : after.read .interruptEnable = maskAll (before.read .interruptEnable) channels
  aborted (channel : Nat) : (after.notificationsOf channel).aborted =
    ((before.notificationsOf channel).aborted || decide (channel ∈ channels))
  kills (channel : Nat) : after.kills channel = before.kills channel + channels.count channel
  clears (channel : Nat) : after.clears channel = before.clears channel
  faults : after.read .channelFaultStatus = before.read .channelFaultStatus
  busy : after.isDebugBusy = before.isDebugBusy
  managed : after.managed = before.managed

/-- Nothing is killed where nothing but acknowledgements is written. -/
theorem Strikes.of_stores {values : List (Register × UInt32)}
    (hstores : Stores values before after)
    (hvalues : ∀ written ∈ values, written.1 = .interruptClear)
    (haborted : ∀ channel, (after.notificationsOf channel).aborted =
      (before.notificationsOf channel).aborted)
    (hkills : ∀ channel, after.kills channel = before.kills channel)
    (hclears : ∀ channel, after.clears channel = before.clears channel)
    (hmanaged : after.managed = before.managed) : Strikes [] before after := by
  have hread : ∀ register, register ≠ .interruptClear →
      after.read register = before.read register := by
    refine fun register hregister => hstores.read_of_not_mem fun hmem => ?_
    obtain ⟨written, hwritten, rfl⟩ := List.mem_map.mp hmem
    exact hregister (hvalues written hwritten)
  refine ⟨⟨values, hstores, ?_⟩, List.nodup_nil, by simp, hread _ (by decide), fun channel => ?_,
    hkills, hclears, hread _ (by decide), ?_, hmanaged⟩
  · refine List.filter_eq_nil_iff.mpr fun written hwritten => ?_
    simp [hvalues written hwritten]
  · simp [haborted]
  · rw [isDebugBusy, isDebugBusy, hread _ (by decide)]

theorem Strikes.refl (controller : Controller) : Strikes [] controller controller :=
  .of_stores (.refl controller) (by simp) (fun _ => rfl) (fun _ => rfl) (fun _ => rfl) rfl

/-- A channel that was killed is not killed again. -/
theorem Strikes.trans (hfirst : Strikes first before middle)
    (hsecond : Strikes second middle after) : Strikes (first ++ second) before after := by
  have hlater : ∀ channel ∈ second, channel ∉ first ∧
      (before.notificationsOf channel).aborted = false := by
    intro channel hmem
    obtain ⟨-, -, -, hlive⟩ := hsecond.struck channel hmem
    rw [hfirst.aborted, Bool.or_eq_false_iff] at hlive
    exact ⟨of_decide_eq_false hlive.2, hlive.1⟩
  obtain ⟨earlier, hearlier, hfirsts⟩ := hfirst.stores
  obtain ⟨later, hlast, hseconds⟩ := hsecond.stores
  refine ⟨⟨earlier ++ later, hearlier.trans hlast, ?_⟩, ?_, fun channel hmem => ?_, ?_,
    fun channel => ?_, fun channel => ?_,
    fun channel => (hsecond.clears channel).trans (hfirst.clears channel),
    hsecond.faults.trans hfirst.faults, hsecond.busy.trans hfirst.busy,
    hsecond.managed.trans hfirst.managed⟩
  · rw [killAllWrites_append, ← hfirst.enabled, List.filter_append, List.filter_append, hfirsts,
      hseconds]
  · refine List.nodup_append.mpr ⟨hfirst.distinct, hsecond.distinct, ?_⟩
    rintro channel hearly _ hlate rfl
    exact (hlater channel hlate).1 hearly
  · rcases List.mem_append.mp hmem with hearly | hlate
    · exact hfirst.struck channel hearly
    · obtain ⟨hidle, hmanaged, hfault, -⟩ := hsecond.struck channel hlate
      rw [hfirst.busy] at hidle
      rw [hfirst.managed] at hmanaged
      rw [hfirst.faults] at hfault
      exact ⟨hidle, hmanaged, hfault, (hlater channel hlate).2⟩
  · rw [hsecond.enabled, hfirst.enabled, maskAll, maskAll, maskAll, List.foldl_append]
  · rw [hsecond.aborted, hfirst.aborted, Bool.or_assoc]
    simp
  · rw [hsecond.kills, hfirst.kills, List.count_append, Nat.add_assoc]

/-- Handling interrupts kills the channels that it finds faulting. -/
theorem strikes_onInterrupt (hfew : controller.managed ≤ 32) :
    Strikes controller.struck controller controller.onInterrupt.2 := by
  have hhandles := handles_onInterrupt hfew
  have hacknowledged : ∀ written ∈ (acknowledgement controller.raised).flatMap Event.writes,
      written.1 = .interruptClear := by
    unfold acknowledgement
    split <;> simp [Event.writes]
  have hread : ∀ register, register ∉ Register.driving →
      controller.onInterrupt.2.read register = controller.read register := by
    have hdriving : ∀ written ∈ (acknowledgement controller.raised).flatMap Event.writes,
        written.1 ∈ Register.driving := by
      intro written hwritten
      rw [hacknowledged written hwritten]
      decide
    exact fun register => hhandles.stores.read_of_not_driving
      (List.forall_mem_append.mpr ⟨hdriving, mem_driving_of_mem_killAllWrites _ _⟩)
  have hsmall : ∀ channel ∈ controller.struck, channel < 32 := fun channel hmem =>
    Nat.lt_of_lt_of_le (mem_struck.mp hmem).2.1 hfew
  refine ⟨⟨_, hhandles.stores, ?_⟩, nodup_struck controller, fun channel => mem_struck.mp, ?_,
    fun channel => ?_, fun channel => ?_, fun channel => clears_onInterrupt channel controller,
    hread _ (by decide), ?_, hhandles.managed⟩
  · rw [List.filter_append, List.filter_eq_nil_iff.mpr, List.nil_append]
    intro written hwritten
    simp [hacknowledged written hwritten]
  · refine eq_of_bitOf_eq fun position _ => ?_
    rw [hhandles.enabled, bitOf_maskAll hsmall]
  · rw [hhandles.state]
    split
    next hmanaged =>
      rw [Notifications.aborted_served]
      cases haborted : (controller.notificationsOf channel).aborted with
      | true => rfl
      | false => simp [mem_struck, hmanaged, haborted, Bool.and_comm]
    next hout =>
      have hnone : channel ∉ controller.struck := fun hmem => hout (mem_struck.mp hmem).2.1
      simp [hnone]
  · rw [hhandles.kills, (nodup_struck controller).count]
  · rw [isDebugBusy, isDebugBusy, hread _ (by decide)]

/-- A channel that is faulting is killed by a trial that finds the debug interface idle. -/
theorem strikes_abort (hmanaged : channel < controller.managed) (hchannel : channel < 32)
    (hfault : hasChannel (controller.read .channelFaultStatus) channel = true)
    (hlive : (controller.notificationsOf channel).aborted = false) :
    Strikes (if controller.isDebugBusy then [] else [channel]) controller
      (controller.abort channel) := by
  split
  next hbusy =>
    rw [abort_of_busy hbusy]
    exact .refl controller
  next hbusy =>
    have hidle := Bool.eq_false_of_not_eq_true hbusy
    have hstores := stores_abort hidle channel
    refine ⟨⟨_, hstores, ?_⟩, List.nodup_singleton channel, fun other hmem => ?_,
      read_interruptEnable_abort hidle channel, fun other => ?_, fun other => ?_,
      (keeps_abort channel controller).clears, ?_, isDebugBusy_abort channel controller,
      (keeps_abort channel controller).managed⟩
    · rw [killAllWrites, killAllWrites, List.append_nil]
    · cases List.mem_singleton.mp hmem
      exact ⟨hidle, hmanaged, hfault, hlive⟩
    · by_cases hsame : other = channel
      · subst hsame
        rw [notificationsOf_abort_of_idle hidle hmanaged]
        simp
      · rw [notificationsOf_abort_of_ne hsame]
        simp [hsame]
    · by_cases hsame : other = channel
      · subst hsame
        rw [(kills_abort hidle hmanaged hchannel).issued, List.count_singleton_self]
      · rw [(spares_abort (Ne.symm hsame) hchannel controller).kills,
          List.count_singleton]
        simp [Ne.symm hsame]
    · exact hstores.read_of_not_driving (mem_driving_of_mem_killWrites _ _) (by decide)

/-! ## Accounts -/

/-- The number of kills of a channel and its mark agree with each other: unless its slot is
cleared, a kill sets the mark, and a channel that is marked is not killed. -/
structure Accounts (channel : Nat) (before after : Controller) : Prop where
  managed : after.managed = before.managed
  cleared (hfew : before.managed ≤ 32) : before.clears channel ≤ after.clears channel
  balance (hfew : before.managed ≤ 32) (hkept : after.clears channel = before.clears channel) :
    after.kills channel + (before.notificationsOf channel).aborted.toNat =
      before.kills channel + (after.notificationsOf channel).aborted.toNat

namespace Accounts

theorem of_eq (hmanaged : after.managed = before.managed)
    (hclears : after.clears channel = before.clears channel)
    (hkills : after.kills channel = before.kills channel)
    (haborted : (after.notificationsOf channel).aborted =
      (before.notificationsOf channel).aborted) : Accounts channel before after :=
  ⟨hmanaged, fun _ => hclears.ge, fun _ _ => by rw [hkills, haborted]⟩

theorem of_aside (haside : Aside before after)
    (hkills : after.kills channel = before.kills channel) : Accounts channel before after :=
  .of_eq haside.managed (haside.clears channel) hkills (by rw [haside.notificationsOf])

theorem refl (channel : Nat) (controller : Controller) : Accounts channel controller controller :=
  .of_eq rfl rfl rfl rfl

theorem trans (hfirst : Accounts channel before middle) (hsecond : Accounts channel middle after) :
    Accounts channel before after := by
  refine ⟨hsecond.managed.trans hfirst.managed, fun hfew => ?_, fun hfew hkept => ?_⟩
  · exact (hfirst.cleared hfew).trans (hsecond.cleared (hfirst.managed.symm ▸ hfew))
  · have hstill := hfirst.managed.symm ▸ hfew
    have hearly := hfirst.cleared hfew
    have hlate := hsecond.cleared hstill
    have hfirsts := hfirst.balance hfew (by omega)
    have hseconds := hsecond.balance hstill (by omega)
    omega

instance : Std.Refl (Accounts channel) :=
  ⟨refl channel⟩

instance : IsTrans Controller (Accounts channel) :=
  ⟨fun _ _ _ => trans⟩

end Accounts

theorem Strikes.accounts {channels : List Nat} (hstrikes : Strikes channels before after)
    (channel : Nat) : Accounts channel before after := by
  refine ⟨hstrikes.managed, fun _ => (hstrikes.clears channel).ge, fun _ _ => ?_⟩
  rw [hstrikes.kills, hstrikes.aborted, hstrikes.distinct.count]
  by_cases hmem : channel ∈ channels
  · obtain ⟨-, -, -, hlive⟩ := hstrikes.struck channel hmem
    simp [hmem, hlive]
  · simp [hmem]

theorem accounts_onInterrupt (channel : Nat) (controller : Controller) :
    Accounts channel controller controller.onInterrupt.2 := by
  obtain ⟨-, -, hmanaged, -⟩ := onInterrupt_frame controller
  exact ⟨hmanaged, fun hfew => ((strikes_onInterrupt hfew).accounts channel).cleared hfew,
    fun hfew => ((strikes_onInterrupt hfew).accounts channel).balance hfew⟩

theorem accounts_write (channel : Nat) (register : Register) (value : UInt32)
    (controller : Controller) : Accounts channel controller (controller.write register value) :=
  .of_aside (aside_write ..) (List.count_cons_of_ne (by exact nofun))

theorem accounts_change (channel : Nat) (register : Register) (value : UInt32)
    (controller : Controller) : Accounts channel controller (controller.change register value) :=
  .of_aside (aside_change ..) (List.count_cons_of_ne (by exact nofun))

theorem accounts_changeAll (channel : Nat) (changes : List (Register × UInt32))
    (controller : Controller) : Accounts channel controller (controller.changeAll changes) := by
  unfold changeAll
  induction changes generalizing controller with
  | nil => exact .refl channel controller
  | cons first rest ih => exact (accounts_change channel _ _ controller).trans (ih _)

theorem accounts_logAt (channel : Nat) (verbosity : Verbosity) (message : LogMessage)
    (controller : Controller) :
    Accounts channel controller (controller.logAt verbosity message) := by
  refine .of_aside (aside_logAt ..) ?_
  unfold logAt
  split
  · exact List.count_cons_of_ne (by exact nofun)
  · rfl

theorem accounts_log (channel : Nat) (message : LogMessage) (controller : Controller) :
    Accounts channel controller (controller.log message) :=
  accounts_logAt ..

/-- A command for another thread is no kill of the channel. -/
theorem accounts_issue {thread : ThreadId} {command : Command}
    (hother : thread ≠ .channel channel ∨ command ≠ .kill) (controller : Controller) :
    Accounts channel controller (controller.issue thread command) := by
  obtain ⟨registers, hissue, -⟩ := issue_eq thread command controller
  rw [hissue]
  refine Accounts.trans ?_ (accounts_log ..)
  refine .of_eq rfl (List.countP_cons_of_neg (by exact Bool.false_ne_true)) ?_ rfl
  refine List.count_cons_of_ne fun hsame => ?_
  obtain ⟨hthread, hcommand⟩ := Event.issue.inj hsame
  exact hother.elim (· hthread) (· hcommand)

/-- The marks of other channels may change. -/
theorem accounts_updateNotifications {update : Notifications → Notifications}
    (hupdate : driven = channel →
      (update (controller.notificationsOf channel)).aborted =
        (controller.notificationsOf channel).aborted) :
    Accounts channel controller (controller.updateNotifications driven update) := by
  refine .of_eq (managed_updateNotifications ..) rfl rfl ?_
  rw [notificationsOf_updateNotifications]
  split
  next hboth =>
    obtain ⟨rfl, -⟩ := hboth
    exact hupdate rfl
  next => rfl

/-! ### Other channels -/

theorem accounts_stopping {thread : ThreadId} (hthread : thread ≠ .channel channel) :
    Stopping thread (Accounts channel) where
  change := accounts_change channel
  interrupt := accounts_onInterrupt channel
  tick controller := .of_aside (aside_tick controller) (List.count_cons_of_ne (by exact nofun))
  log := accounts_log channel
  kill := accounts_issue (.inl hthread)
  silence controller := .of_aside (aside_silence ..) (kills_silence ..)
  markStopped controller := by
    cases thread with
    | manager => exact .refl channel controller
    | channel driven => exact .of_eq rfl rfl rfl rfl

/-- What is done for the holder of another channel keeps the accounts. -/
theorem accounts_submitting (hne : driven ≠ channel) : Submitting driven (Accounts channel) where
  toStopping := accounts_stopping (by simpa using hne)
  noteAbort controller := by
    unfold noteAbort
    split
    · have hnoted : Accounts channel controller
          (controller.updateNotifications driven ({ · with aborted := false })) :=
        accounts_updateNotifications fun hsame => absurd hsame hne
      exact hnoted.trans (.of_eq rfl rfl rfl rfl)
    · exact .refl channel controller
  unmaskEvent _ := accounts_write ..
  maskEvent _ := accounts_write ..
  launch _ _ := (accounts_issue (.inr (by exact nofun)) _).trans (.of_eq rfl rfl rfl rfl)
  forget _ := .of_eq rfl rfl rfl rfl
  install _ _ _ := .of_eq rfl rfl rfl rfl

end Controller

end CyclicDma
