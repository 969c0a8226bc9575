import CyclicDma.Proofs.Controller.Guarding
import CyclicDma.Proofs.Controller.Halting
import CyclicDma.Proofs.Controller.Timing

/-! # The most time that operations take

An operation is a sequence of waits, and which wait comes next depends on what the one
before it found. Nothing changes between the end of a wait and the next pause, so a
channel that was just found faulting is killed without another look at it, and one that
was just found stopped is not killed at all. Starting a channel therefore takes four
waits at most, and stopping it two.
-/

namespace CyclicDma

/-- The most waits that stopping a thread takes that is found in a state. -/
def ThreadState.stopWaits (state : ThreadState) : Nat :=
  if state = .channel .faultCompleting then 2
  else if state.isStopping then 0
  else 1

/-- The most waits that bringing a channel to a stop takes that is found in a state. -/
def ChannelState.settleWaits : ChannelState → Nat
  | stopped => 0
  | faulting => 2
  | faultCompleting => 3
  | _ => 1

/-- The most waits that starting a channel takes that is found in a state. -/
def ChannelState.startWaits (state : ChannelState) : Nat :=
  if state.isActive || state = .waitingForEvent || state = .invalid then 0
  else state.settleWaits + 1

theorem ThreadState.stopWaits_le (state : ThreadState) : state.stopWaits ≤ 2 := by
  unfold stopWaits
  split
  · exact Nat.le_refl 2
  · split <;> decide

theorem ThreadState.stopWaits_manager_le (state : ManagerState) :
    (ThreadState.manager state).stopWaits ≤ 1 := by
  unfold stopWaits
  rw [if_neg nofun]
  split <;> decide

theorem ChannelState.startWaits_le (state : ChannelState) : state.startWaits ≤ 4 := by
  cases state <;> decide

namespace Controller

variable {before middle after controller decided : Controller} {world : World}
variable {microseconds first second bound : Nat} {thread : ThreadId} {channel : Nat}

/-- No more than so many microseconds pass. -/
def LastsAtMost (bound : Nat) (before after : Controller) : Prop :=
  ∃ microseconds ≤ bound, Lasts microseconds before after

theorem Lasts.atMost (hlasts : Lasts microseconds before after) (hbound : microseconds ≤ bound) :
    LastsAtMost bound before after :=
  ⟨microseconds, hbound, hlasts⟩

/-- What takes no time keeps every limit. -/
theorem Lasts.within (hlasts : Lasts 0 before after) (bound : Nat) :
    LastsAtMost bound before after :=
  hlasts.atMost (Nat.zero_le bound)

theorem LastsAtMost.refl (bound : Nat) (controller : Controller) :
    LastsAtMost bound controller controller :=
  (Lasts.refl controller).within bound

theorem LastsAtMost.mono (hlasts : LastsAtMost first before after) (hle : first ≤ second) :
    LastsAtMost second before after := by
  obtain ⟨microseconds, hbound, hexactly⟩ := hlasts
  exact hexactly.atMost (hbound.trans hle)

theorem LastsAtMost.trans (hfirst : LastsAtMost first before middle)
    (hsecond : LastsAtMost second middle after) : LastsAtMost (first + second) before after := by
  obtain ⟨earlier, hearlier, hbegin⟩ := hfirst
  obtain ⟨later, hlater, hend⟩ := hsecond
  exact (hbegin.trans hend).atMost (Nat.add_le_add hearlier hlater)

theorem LastsAtMost.then (hlasts : LastsAtMost bound before middle)
    (hnone : Lasts 0 middle after) : LastsAtMost bound before after :=
  hlasts.trans (hnone.within 0)

theorem LastsAtMost.upon (hnone : Lasts 0 before middle)
    (hlasts : LastsAtMost bound middle after) : LastsAtMost bound before after := by
  have hlimit := (hnone.within 0).trans hlasts
  rwa [Nat.zero_add] at hlimit

/-- The limits of operations that follow each other add up. What comes next may rely on
what the first operation returned and left. -/
theorem LastsAtMost.bind {α β : Type} {attempt : Attempt Controller α}
    {next : α → Attempt Controller β}
    (hfirst : LastsAtMost first before (attempt.perform before).2) (second : Nat)
    (hnext : ∀ value middle, attempt.perform before = (.ok value, middle) →
      LastsAtMost second middle ((next value).perform middle).2) :
    LastsAtMost (first + second) before ((attempt >>= next).perform before).2 := by
  cases hperform : attempt.perform before with
  | mk result middle =>
      rw [hperform] at hfirst
      cases result with
      | error error =>
          rw [Attempt.perform_bind_of_error hperform]
          exact hfirst.mono (Nat.le_add_right ..)
      | ok value =>
          rw [Attempt.perform_bind_of_ok hperform]
          exact hfirst.trans (hnext value middle hperform)

/-! ## Waiting -/

theorem lastsAtMost_waitFor (world : World) (condition : Controller → Bool)
    (before : Controller) :
    LastsAtMost waitBound before (waitFor world condition waitBound before).2 := by
  rcases waitFor_cases world condition waitBound before with
    ⟨microseconds, hbound, -, hwait⟩ | ⟨-, hwait⟩
  · rw [hwait]
    exact (lasts_later world microseconds before).atMost hbound
  · rw [hwait]
    dsimp only
    exact (lasts_later world waitBound before).atMost (Nat.le_refl _)

theorem lastsAtMost_awaitState (world : World) (channel : Nat) (accept : ChannelState → Bool)
    (before : Controller) :
    LastsAtMost waitBound before ((awaitState world channel accept).perform before).2 := by
  rcases awaitState_found world channel accept before with
    ⟨microseconds, hbound, -, hawait⟩ | ⟨-, message, hawait⟩
  · rw [hawait]
    exact (lasts_later ..).atMost hbound
  · rw [hawait]
    dsimp only
    exact ((lasts_later world waitBound before).atMost (Nat.le_refl _)).then (lasts_log ..)

/-- A channel that was waited for is still in the state that was accepted. -/
theorem accepted_of_awaitState {accept : ChannelState → Bool} {state : ChannelState}
    (hawait : (awaitState world channel accept).perform before = (.ok state, after)) :
    after.channelState channel = state ∧ accept state = true := by
  rcases awaitState_found world channel accept before with
    ⟨microseconds, -, hfound, hperform⟩ | ⟨-, message, hperform⟩
  · cases hperform.symm.trans hawait
    exact ⟨rfl, hfound.holds⟩
  · cases hperform.symm.trans hawait

theorem lastsAtMost_awaitStopped (world : World) (channel : Nat) (before : Controller) :
    LastsAtMost waitBound before
      ((discard (awaitState world channel (· = .stopped))).perform before).2 :=
  (lastsAtMost_awaitState world channel (· = .stopped) before).bind 0 fun _ middle _ =>
    .refl 0 middle

theorem stopped_of_awaitStopped
    (hawait : (discard (awaitState world channel (· = .stopped))).perform before =
      (.ok (), after)) :
    after.channelState channel = .stopped := by
  obtain ⟨state, middle, hstopped, hdone⟩ := run_bind_eq_ok hawait
  obtain ⟨hstate, haccepted⟩ := accepted_of_awaitState hstopped
  cases hdone
  exact hstate.trans (of_decide_eq_true haccepted)

/-! ## Stopping -/

/-- At most one wait decides whether a thread is killed, and only a channel that is about
to fault is waited for. -/
theorem Decides.lastsAtMost {state : ThreadState}
    (hdecides : Decides world thread before state decided) :
    (state = before.threadState thread ∧ decided = before ∧
      before.threadState thread ≠ .channel .faultCompleting) ∨
    before.threadState thread = .channel .faultCompleting ∧
      LastsAtMost waitBound before decided := by
  cases hdecides with
  | entry hstate => exact .inl ⟨rfl, rfl, hstate⟩
  | waited hentry hbound hfound =>
      exact .inr ⟨congrArg ThreadState.channel hentry, (lasts_later ..).atMost hbound⟩

/-- A thread that is not stopping is waited for once more before it is killed. -/
theorem Decides.lastsAtMost_then {state : ThreadState}
    (hdecides : Decides world thread before state decided) (hlive : state.isStopping = false)
    (hwaits : LastsAtMost waitBound decided after) :
    LastsAtMost ((before.threadState thread).stopWaits * waitBound) before after := by
  rcases hdecides.lastsAtMost with ⟨rfl, rfl, hentry⟩ | ⟨hentry, hdecided⟩
  · rw [ThreadState.stopWaits, if_neg hentry, if_neg (by simp [hlive]), Nat.one_mul]
    exact hwaits
  · rw [hentry]
    exact hdecided.trans hwaits

theorem lastsAtMost_stopThread (world : World) (thread : ThreadId) (before : Controller) :
    LastsAtMost ((before.threadState thread).stopWaits * waitBound) before
      ((stopThread world thread).perform before).2 := by
  have hhalts := halts_stopThread world thread before
  generalize (stopThread world thread).perform before = outcome at hhalts ⊢
  cases hhalts with
  | spare hdecides hstopping =>
      refine LastsAtMost.then ?_ (lasts_markStopped ..)
      rcases hdecides.lastsAtMost with ⟨-, rfl, -⟩ | ⟨hentry, hdecided⟩
      · exact .refl ..
      · rw [hentry]
        exact hdecided.mono (by decide)
  | @kill state decided microseconds hdecides hlive hbound hidle =>
      refine hdecides.lastsAtMost_then hlive ?_
      have hkilled := ((lasts_later world microseconds decided).atMost hbound).then
        (lasts_issue thread .kill _)
      exact hkilled.then ((lasts_silence ..).trans ((lasts_log ..).trans (lasts_markStopped ..)))
  | @undecided channel message hthread hentry hnever =>
      have hfault : before.threadState thread = .channel .faultCompleting := by
        rw [hthread]
        exact congrArg ThreadState.channel hentry
      have hstuck := (lasts_later world waitBound before).trans (lasts_log message _)
      rw [hfault]
      dsimp only
      exact hstuck.atMost (by decide)
  | @busy state decided message hdecides hlive hnever =>
      have hdropped := (lasts_later world waitBound decided).trans (lasts_log message _)
      dsimp only
      exact hdecides.lastsAtMost_then hlive (hdropped.atMost (Nat.le_refl _))

/-! ## Starting -/

/-- A channel that was found faulting is killed, and then waited for. -/
theorem lastsAtMost_kill (hfaulting : before.channelState channel = .faulting) :
    LastsAtMost (2 * waitBound) before
      (Attempt.perform (do
        stopThread world (.channel channel)
        discard (awaitState world channel (· = .stopped))) before).2 := by
  have hstop := lastsAtMost_stopThread world (.channel channel) before
  rw [threadState, hfaulting] at hstop
  exact hstop.bind waitBound fun _ middle _ => lastsAtMost_awaitStopped world channel middle

theorem lastsAtMost_settle (world : World) (channel : Nat) (before : Controller) :
    LastsAtMost ((before.channelState channel).settleWaits * waitBound) before
      ((settle world channel (before.channelState channel)).perform before).2 := by
  cases hstate : before.channelState channel with
  | stopped => exact .refl _ before
  | faulting => exact lastsAtMost_kill hstate
  | faultCompleting =>
      refine (lastsAtMost_awaitState world channel _ before).bind (2 * waitBound)
        fun state reached hawait => ?_
      obtain ⟨hreached, haccepted⟩ := accepted_of_awaitState hawait
      dsimp only
      by_cases hkilling : state = .killing
      · -- it is killed already, and once it has stopped nothing is left to wait for
        rw [if_pos hkilling]
        refine (lastsAtMost_awaitStopped world channel reached).bind waitBound
          fun _ stopped hawait => ?_
        change LastsAtMost waitBound stopped
          (Attempt.perform (do
            stopThread world (.channel channel)
            discard (awaitState world channel (· = .stopped))) stopped).2
        rw [perform_spare world (stopped_of_awaitStopped hawait)]
        exact (lasts_markStopped (.channel channel) stopped).within waitBound
      · have hfaulting : reached.channelState channel = .faulting := by
          simpa [hkilling, hreached] using haccepted
        rw [if_neg hkilling]
        exact lastsAtMost_kill hfaulting
  | _ => exact (lastsAtMost_awaitStopped world channel before).mono (by decide)

theorem lasts_setRunning (running : Bool) (channel : Nat) (controller : Controller) :
    Lasts 0 controller (controller.setRunning running channel) :=
  .of_eq rfl rfl

/-- A launch takes one wait, for the debug interface. -/
theorem lastsAtMost_trigger (world : World) (channel : Nat) (before : Controller) :
    LastsAtMost waitBound before ((trigger world channel).perform before).2 := by
  have hwaits := LastsAtMost.upon (lasts_write ..)
    (lastsAtMost_waitFor world (!·.isDebugBusy) (before.unmaskEvent channel))
  have htriggers := triggers_trigger world channel before
  generalize (trigger world channel).perform before = outcome at htriggers ⊢
  cases htriggers with
  | leave | refuse => exact .refl ..
  | launch hsetup hidle hsome hwaited =>
      rw [hwaited] at hwaits
      exact hwaits.then ((lasts_issue ..).trans ((lasts_setRunning ..).trans (lasts_log ..)))
  | drop hsetup hidle hsome hwaited =>
      rw [hwaited] at hwaits
      exact hwaits.then ((lasts_log ..).trans (lasts_write ..))

/-- A channel that is neither active nor unable to start is settled and launched. -/
theorem lastsAtMost_startThread (world : World) (channel : Nat) (before : Controller) :
    LastsAtMost ((before.channelState channel).startWaits * waitBound) before
      ((startThread world channel).perform before).2 := by
  unfold startThread
  rw [Attempt.perform_bind, Attempt.perform_get]
  dsimp only
  split
  next => exact .refl ..
  next hactive =>
    split
    next => exact (lasts_log ..).within _
    next hable =>
      have hwaits : (before.channelState channel).startWaits =
          (before.channelState channel).settleWaits + 1 := by
        rw [ChannelState.startWaits, Bool.or_assoc, if_neg (by simp [hactive, hable])]
      rw [hwaits, Nat.succ_mul]
      exact (lastsAtMost_settle world channel before).bind waitBound fun _ settled _ =>
        lastsAtMost_trigger world channel settled

theorem lastsAtMost_start (world : World) (channel : Nat) (before : Controller) :
    LastsAtMost ((before.channelState channel).startWaits * waitBound) before
      ((start world channel).perform before).2 := by
  have hstart := LastsAtMost.upon (lasts_noteAbort channel before)
    (lastsAtMost_startThread world channel (before.noteAbort channel))
  rwa [channelState_noteAbort] at hstart

theorem lastsAtMost_stop (world : World) (channel : Nat) (before : Controller) :
    LastsAtMost ((before.threadState (.channel channel)).stopWaits * waitBound) before
      ((stop world channel).perform before).2 := by
  have hstop := LastsAtMost.upon (lasts_noteAbort channel before)
    (lastsAtMost_stopThread world (.channel channel) (before.noteAbort channel))
  rwa [threadState, channelState_noteAbort] at hstop

/-- The manager is never waited for before it is killed. -/
theorem lastsAtMost_stopManager (world : World) (before : Controller) :
    LastsAtMost waitBound before ((stopManager world).perform before).2 := by
  have hstop := lastsAtMost_stopThread world .manager before
  exact hstop.mono ((Nat.mul_le_mul_right waitBound (ThreadState.stopWaits_manager_le _)).trans_eq
    (Nat.one_mul waitBound))

/-! ## Submitting -/

/-- A program is written at once. -/
theorem lasts_install (transfer : Transfer) (channel : Nat) (setup : Setup)
    (controller : Controller) :
    Lasts 0 controller ((install transfer channel setup).perform controller).2 := by
  have hinstalls := installs_install transfer channel setup controller
  generalize (install transfer channel setup).perform controller = outcome at hinstalls ⊢
  cases hinstalls with
  | fail hwrite => exact .of_eq rfl rfl
  | @write size slab hwrite =>
      have hstored : Lasts 0 controller
          (((controller.setTransfer none channel).storeSlab slab channel).setTransfer
            (some transfer) channel) :=
        .of_eq rfl rfl
      exact hstored.trans (lasts_log ..)

/-- Orders are only taken for a channel that is stopped, and such a channel is launched
right away. -/
theorem lastsAtMost_submit (world : World) (channel : Nat) (order : Order) (before : Controller) :
    LastsAtMost waitBound before ((submit world channel order).perform before).2 := by
  have hsubmits := submits_submit world channel order before
  generalize (submit world channel order).perform before = outcome at hsubmits ⊢
  refine LastsAtMost.upon (lasts_noteAbort channel before) ?_
  cases hsubmits with
  | refuse error => exact .refl ..
  | @fail setup error installed hsetup hidle hinstall =>
      have hfailed := lasts_install (order.transfer (before.noteAbort channel).config) channel
        setup (before.noteAbort channel)
      rw [hinstall] at hfailed
      exact hfailed.within waitBound
  | @start setup installed outcome hsetup hidle hstopped _ hinstall hstart =>
      have hwritten := lasts_install (order.transfer (before.noteAbort channel).config) channel
        setup (before.noteAbort channel)
      have hready := (Idle.installed ⟨hstopped, hidle⟩ hinstall).1
      have hlaunched := lastsAtMost_start world channel installed
      rw [hinstall] at hwritten
      rw [hready.state, hstart] at hlaunched
      exact .upon hwritten hlaunched

end Controller

end CyclicDma
