import CyclicDma.Proofs.Controller.Submission
import CyclicDma.Proofs.Controller.Waiting
import CyclicDma.Proofs.Controller.Writes

/-! # Stopping is all or nothing

A driver waits up to twice to stop a thread: for a channel that is about to fault, and
for the debug interface. Whatever the registers do in the meantime, the thread is
killed as a whole, spared as a whole, or left as it was: a kill comes with the mask of
the thread's event, at the moment at which the debug interface was found idle, and
only a thread that was spared or killed is forgotten to be running.
-/

namespace CyclicDma

/-- The states in which a thread is stopped, or will be without being killed. -/
theorem ThreadState.isStopping_iff_mem (state : ThreadState) :
    state.isStopping = true ↔
      state ∈ [.manager .stopped, .channel .completing, .channel .killing, .channel .stopped] := by
  cases state with
  | manager state => cases state <;> decide
  | channel state => cases state <;> decide

namespace Controller

/-- The channel is faulting or being killed, and not about to fault any more. -/
def hasFaulted (channel : Nat) (controller : Controller) : Bool :=
  controller.channelState channel = .faulting || controller.channelState channel = .killing

/-- The state that decides whether a thread is killed, and the moment at which it was
read. It is read on entry; a channel that is about to fault is waited for, until it is
first found to be faulting or being killed. -/
inductive Decides (world : World) :
    ThreadId → Controller → ThreadState → Controller → Prop
  | entry {thread : ThreadId} {before : Controller}
      (hstate : before.threadState thread ≠ .channel .faultCompleting) :
      Decides world thread before (before.threadState thread) before
  | waited {channel : Nat} {before : Controller} {microseconds : Nat}
      (hentry : before.channelState channel = .faultCompleting) (hbound : microseconds ≤ waitBound)
      (hfound : FoundAfter world (hasFaulted channel) before microseconds) :
      Decides world (.channel channel) before
        (.channel ((later world microseconds before).channelState channel))
        (later world microseconds before)

/-- The ways in which stopping a thread ends. -/
inductive Halts (world : World) (thread : ThreadId) (before : Controller) :
    Except DmaError Unit × Controller → Prop
  | spare {state : ThreadState} {decided : Controller}
      (hdecides : Decides world thread before state decided)
      (hstopping : state.isStopping = true) :
      Halts world thread before (.ok (), decided.markStopped thread)
  | kill {state : ThreadState} {decided : Controller} {microseconds : Nat}
      (hdecides : Decides world thread before state decided)
      (hlive : state.isStopping = false) (hbound : microseconds ≤ waitBound)
      (hidle : FoundAfter world (!·.isDebugBusy) decided microseconds) :
      Halts world thread before (.ok (),
        ((((later world microseconds decided).issue thread .kill).silence thread).log
          (.killed thread state)).markStopped thread)
  | undecided {channel : Nat} {message : LogMessage} (hthread : thread = .channel channel)
      (hentry : before.channelState channel = .faultCompleting)
      (hnever : NeverFound world (hasFaulted channel) before) :
      Halts world thread before (.error .timeout, (later world waitBound before).log message)
  | busy {state : ThreadState} {decided : Controller} {message : LogMessage}
      (hdecides : Decides world thread before state decided)
      (hlive : state.isStopping = false) (hnever : NeverFound world (!·.isDebugBusy) decided) :
      Halts world thread before (.error .timeout, (later world waitBound decided).log message)

variable {world : World} {thread : ThreadId} {before decided after : Controller} {channel : Nat}

/-- The deciding state is found, unless a channel that is about to fault does not get
on in time. -/
theorem perform_decidingState (world : World) (thread : ThreadId) (before : Controller) :
    (∃ state decided, Decides world thread before state decided ∧
      (decidingState world thread).perform before = (.ok state, decided)) ∨
    ∃ channel message, thread = .channel channel ∧
      before.channelState channel = .faultCompleting ∧
      NeverFound world (hasFaulted channel) before ∧
      (decidingState world thread).perform before =
        (.error .timeout, (later world waitBound before).log message) := by
  cases thread with
  | manager => exact .inl ⟨_, _, .entry (by exact nofun), rfl⟩
  | channel channel =>
      unfold decidingState
      rw [Attempt.perform_bind, Attempt.perform_get]
      dsimp only [threadState]
      by_cases hentry : before.channelState channel = .faultCompleting
      · rw [hentry]
        rcases awaitState_found world channel (fun state => state = .faulting || state = .killing)
            before with ⟨microseconds, hbound, hfound, hawait⟩ | ⟨hnever, message, hawait⟩
        · exact .inl ⟨_, _, .waited hentry hbound hfound, Attempt.perform_bind_of_ok hawait _⟩
        · exact .inr ⟨channel, message, rfl, hentry, hnever,
            Attempt.perform_bind_of_error hawait _⟩
      · have hstate : before.threadState (.channel channel) ≠ .channel .faultCompleting :=
          fun heq => hentry (ThreadState.channel.inj heq)
        refine .inl ⟨_, _, .entry hstate, ?_⟩
        split
        next heq => exact absurd (ThreadState.channel.inj heq) hentry
        next => rfl

theorem halts_stopThread (world : World) (thread : ThreadId) (before : Controller) :
    Halts world thread before ((stopThread world thread).perform before) := by
  unfold stopThread
  rcases perform_decidingState world thread before with
    ⟨state, decided, hdecides, hdecide⟩ | ⟨channel, message, hthread, hentry, hnever, hdecide⟩
  · rw [Attempt.perform_bind_of_ok hdecide]
    dsimp only
    split
    next hlive =>
      have hlive : state.isStopping = false := by simpa using hlive
      rcases execute_found world thread .kill decided with
        ⟨microseconds, hbound, hidle, hexecute⟩ | ⟨hnever, message, hexecute⟩
      · rw [Attempt.perform_bind_of_ok hexecute]
        exact .kill hdecides hlive hbound hidle
      · rw [Attempt.perform_bind_of_ok hexecute]
        exact .busy hdecides hlive hnever
    next hstopping => exact .spare hdecides (by simpa using hstopping)
  · rw [Attempt.perform_bind_of_error hdecide]
    exact .undecided hthread hentry hnever

/-! ## All or nothing -/

theorem Decides.elapses {state : ThreadState} (hdecides : Decides world thread before state decided) :
    Elapses world before decided := by
  cases hdecides with
  | entry => exact .refl
  | waited => exact elapses_later ..

theorem stores_markStopped (thread : ThreadId) (controller : Controller) :
    Stores [] controller (controller.markStopped thread) := by
  cases thread <;> exact ⟨.of_history rfl, rfl, rfl⟩

/-- A thread is killed at a moment, and by nothing else: the debug words name the thread
and hold the kill, and the event of a channel is acknowledged if it was enabled, and
masked. -/
structure KillsOnly (thread : ThreadId) (before waited after : Controller) : Prop where
  writes : ∃ word, Command.addressee word = thread ∧
    Command.firstByteField.get word = 1 ∧ Command.secondByteField.get word = 0 ∧
    after.writesSince before =
      [(.debugInstruction0, word), (.debugInstruction1, 0), (.debugCommand, 0)] ++
        match thread with
        | .manager => []
        | .channel channel =>
            (if hasChannel (waited.read .interruptEnable) channel then
              [(.interruptClear, channelBit channel)] else []) ++
              [(.interruptEnable, waited.read .interruptEnable &&& ~~~channelBit channel)]
  registers : after.registers =
    (killWrites (waited.read .interruptEnable) thread).foldl
      (fun registers (register, value) => registers.write register value) waited.registers
  clock : after.clock = waited.clock
  masked (channel : Nat) : thread = .channel channel →
    hasChannel (after.read .interruptEnable) channel = false

/-- What stopping a thread comes to. -/
structure AllOrNothing (world : World) (thread : ThreadId) (before : Controller)
    (outcome : Except DmaError Unit × Controller) : Prop where
  forgotten : outcome.1 = .ok () → ∀ channel, thread = .channel channel →
    outcome.2.wasStarted channel = false
  stopped : outcome.1 = .ok () → ∃ state decided, Decides world thread before state decided ∧
    if state ∈ [.manager .stopped, .channel .completing, .channel .killing, .channel .stopped] then
      outcome.2.writesSince before = []
    else ∃ microseconds ≤ waitBound, FoundAfter world (!·.isDebugBusy) decided microseconds ∧
      KillsOnly thread before (later world microseconds decided) outcome.2
  failed (error : DmaError) : outcome.1 = .error error → error = .timeout ∧
    outcome.2.writesSince before = [] ∧
    ∀ channel, outcome.2.wasStarted channel = before.wasStarted channel

theorem wasStarted_setRunning (running : Bool) (channel : Nat) (controller : Controller) :
    (controller.setRunning running channel).wasStarted channel =
      ((controller.request? channel).isSome && running) := by
  rw [wasStarted, setRunning, request?_updateRequest]
  cases controller.request? channel <;> simp

theorem wasStarted_markStopped (channel : Nat) (controller : Controller) :
    (controller.markStopped (.channel channel)).wasStarted channel = false :=
  (wasStarted_setRunning ..).trans (Bool.and_false _)

/-- Nothing is done to a thread that is given up. -/
theorem allOrNothing_timeout (hworld : world.Causes Disturbance.IsChange)
    (helapses : Elapses world before after) (message : LogMessage) :
    AllOrNothing world thread before (.error .timeout, after.log message) where
  forgotten := nofun
  stopped := nofun
  failed error herror := by
    have hidles := helapses.idles hworld
    refine ⟨(Except.error.inj herror).symm, ?_, fun channel => ?_⟩
    · exact (hidles.writes.trans (stores_log ..).writes).writesSince_eq
    · rw [wasStarted_of_setup (aside_log ..).setup, hidles.wasStarted]

theorem killsOnly_kill (hworld : world.Causes Disturbance.IsChange) (hthread : thread.Exists)
    {waited : Controller} (helapses : Elapses world before waited) (message : LogMessage) :
    KillsOnly thread before waited
      ((((waited.issue thread .kill).silence thread).log message).markStopped thread) := by
  have hstores : Stores (killWrites (waited.read .interruptEnable) thread) waited
      ((((waited.issue thread .kill).silence thread).log message).markStopped thread) :=
    ((stores_kill thread waited).quietly (stores_log ..)).quietly (stores_markStopped ..)
  obtain ⟨hname, hfirst, hsecond, -⟩ := Command.addressee_kill hthread
  refine ⟨⟨_, hname, hfirst, hsecond, ?_⟩, hstores.registers, hstores.clock, ?_⟩
  · rw [((helapses.idles hworld).writes.trans hstores.writes).writesSince_eq]
    cases thread <;> rfl
  · rintro channel rfl
    have hchannel : channel < 32 := Nat.lt_of_lt_of_le hthread (by decide)
    change hasChannel (read .interruptEnable (log ..)) channel = false
    rw [read_log, read_interruptEnable_kill]
    exact hasChannel_and_not hchannel _

/-- Stopping a thread is all or nothing, whatever the registers do while its driver
waits. It succeeds only by killing the thread, or by sparing a thread that is stopping
anyway. Either way a channel is not taken for running any more. Otherwise it times out
without having written a register, and the channel is taken for running as before. -/
theorem stopThread_all_or_nothing (hworld : world.Causes Disturbance.IsChange)
    (hthread : thread.Exists) (before : Controller) :
    AllOrNothing world thread before ((stopThread world thread).perform before) := by
  have hhalts := halts_stopThread world thread before
  generalize (stopThread world thread).perform before = outcome at hhalts ⊢
  cases hhalts with
  | @spare state decided hdecides hstopping =>
      refine ⟨?_, fun _ => ⟨state, decided, hdecides, ?_⟩, nofun⟩
      · rintro - channel rfl
        exact wasStarted_markStopped channel decided
      · rw [if_pos (state.isStopping_iff_mem.mp hstopping)]
        exact ((hdecides.elapses.idles hworld).writes.trans
          (stores_markStopped ..).writes).writesSince_eq
  | @kill state decided microseconds hdecides hlive hbound hidle =>
      refine ⟨?_, fun _ => ⟨state, decided, hdecides, ?_⟩, nofun⟩
      · rintro - channel rfl
        exact wasStarted_markStopped channel _
      · rw [if_neg (mt state.isStopping_iff_mem.mpr (by simp [hlive]))]
        exact ⟨microseconds, hbound, hidle, killsOnly_kill hworld hthread
          (hdecides.elapses.trans (elapses_later ..)) _⟩
  | undecided => exact allOrNothing_timeout hworld (elapses_later ..) _
  | busy hdecides => exact allOrNothing_timeout hworld (hdecides.elapses.trans (elapses_later ..)) _

/-- A channel that was started, with a transfer that moves a byte, and is about to
fault. -/
def failingController : Controller :=
  { registers := Registers.zero.write (.status 0) 0xE
    config := {}
    setup := some
      { device := Device.ofRegisters .zero
        region := ⟨0, List.replicate 256 0⟩
        busAddress := 0x1000
        requests := [some
          { transfer := some (Order.transfer ⟨.memoryToMemory, 0x2000, 0x3000, 1, 1⟩ {})
            running := true }] }
    notifications := [{}]
    clock := 0
    history := [] }

/-- The channel is about to fault when it is to be stopped. Its fault is there after a
while, when all events are enabled and the debug interface is busy for some time. -/
def haltingWorld : World
  | 3 => [.change (.status 0) 0xF, .change .debugStatus 1, .change .interruptEnable 0xFF]
  | 5 => [.change .debugStatus 0]
  | _ => []

theorem causes_halting : haltingWorld.Causes Disturbance.IsChange := by
  intro time
  unfold haltingWorld
  split <;> simp [Disturbance.IsChange]

/-- The channel is killed once the debug interface is idle, and only its own event is
masked. -/
theorem stopThread_all_or_nothing_failing :
    ((stopThread haltingWorld (.channel 0)).perform failingController).2.wasStarted 0 = false ∧
      ((stopThread haltingWorld (.channel 0)).perform failingController).2.writesSince
          failingController =
        [(.debugInstruction0, 0x10001), (.debugInstruction1, 0), (.debugCommand, 0),
          (.interruptClear, 1), (.interruptEnable, 0xFE)] ∧
      ∃ decided microseconds,
        FoundAfter haltingWorld (!·.isDebugBusy) decided microseconds ∧
        KillsOnly (.channel 0) failingController (later haltingWorld microseconds decided)
          ((stopThread haltingWorld (.channel 0)).perform failingController).2 := by
  have hok : ((stopThread haltingWorld (.channel 0)).perform failingController).1 = .ok () := by
    decide +kernel
  have hwrites : ((stopThread haltingWorld (.channel 0)).perform failingController).2.writesSince
      failingController =
        [(.debugInstruction0, 0x10001), (.debugInstruction1, 0), (.debugCommand, 0),
          (.interruptClear, 1), (.interruptEnable, 0xFE)] := by
    decide +kernel
  have hchannel : (ThreadId.channel 0).Exists := by
    change 0 < Register.maxChannels
    decide
  have hstops := stopThread_all_or_nothing causes_halting hchannel failingController
  obtain ⟨state, decided, -, hcases⟩ := hstops.stopped hok
  refine ⟨hstops.forgotten hok 0 rfl, hwrites, decided, ?_⟩
  split at hcases
  next =>
    rw [hwrites] at hcases
    cases hcases
  next =>
    obtain ⟨microseconds, -, hidle, hkills⟩ := hcases
    exact ⟨microseconds, hidle, hkills⟩

end Controller

end CyclicDma
