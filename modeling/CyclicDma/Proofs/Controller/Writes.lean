import CyclicDma.Proofs.Controller.Entries
import CyclicDma.Proofs.Controller.Tending

/-! # What a driver writes

The history tells which registers a driver wrote, with which values and in which
order, between two moments. `Writes` adds them up; `Stores` says besides that the
registers changed in no other way. A kill is four or five writes: the command is
handed over, and the event of a channel is acknowledged if it was enabled, and
masked.
-/

namespace CyclicDma

/-- The thread exists. -/
def ThreadId.Exists : ThreadId → Prop
  | manager => True
  | channel number => number < Register.maxChannels

namespace Command

/-- The thread that the first debug word names. -/
def addressee (word : UInt32) : ThreadId :=
  if threadField.get word = 0 then .manager else .channel (channelField.get word).toNat

/-- The debug words of a kill name the thread, and hold the instruction with zeros after
it. -/
theorem addressee_kill {thread : ThreadId} (hthread : thread.Exists) :
    addressee (kill.firstWord thread) = thread ∧
      firstByteField.get (kill.firstWord thread) = 1 ∧
      secondByteField.get (kill.firstWord thread) = 0 ∧ kill.secondWord = 0 := by
  cases thread with
  | manager => decide
  | channel number =>
      have hall : ∀ number < Register.maxChannels,
          addressee (kill.firstWord (.channel number)) = .channel number ∧
            firstByteField.get (kill.firstWord (.channel number)) = 1 ∧
            secondByteField.get (kill.firstWord (.channel number)) = 0 ∧ kill.secondWord = 0 := by
        decide
      exact hall number hthread

end Command

theorem Event.IsOfWorld.writes_eq_nil {event : Event} (hworld : event.IsOfWorld) :
    event.writes = [] := by
  cases event with
  | delay | change => rfl
  | _ => exact hworld.elim

namespace Controller

variable {before middle after controller : Controller}
variable {earlier later : List (Register × UInt32)} {channel : Nat}

/-- The register writes of the driver since an earlier state, in order. -/
def writesSince (controller earlier : Controller) : List (Register × UInt32) :=
  (controller.eventsSince earlier).flatMap Event.writes

/-- The driver writes some values in order, whatever else happens. -/
def Writes (values : List (Register × UInt32)) (before after : Controller) : Prop :=
  ∃ events, after.history = events ++ before.history ∧
    events.reverse.flatMap Event.writes = values

theorem Writes.writesSince_eq {values : List (Register × UInt32)}
    (hwrites : Writes values before after) : after.writesSince before = values := by
  obtain ⟨events, hhistory, hvalues⟩ := hwrites
  rw [writesSince, eventsSince_of_history hhistory, hvalues]

theorem Writes.of_event (event : Event) (hhistory : after.history = event :: before.history) :
    Writes event.writes before after :=
  ⟨[event], hhistory, by simp⟩

theorem Writes.of_history (hhistory : after.history = before.history) :
    Writes [] before after :=
  ⟨[], hhistory, rfl⟩

theorem Writes.trans (hfirst : Writes earlier before middle) (hsecond : Writes later middle after) :
    Writes (earlier ++ later) before after := by
  obtain ⟨older, holder, hearlier⟩ := hfirst
  obtain ⟨newer, hnewer, hlater⟩ := hsecond
  refine ⟨newer ++ older, by rw [hnewer, holder, List.append_assoc], ?_⟩
  rw [List.reverse_append, List.flatMap_append, hearlier, hlater]

/-- A driver that lets time pass writes nothing. -/
theorem Idles.writes (hidles : Idles before after) : Writes [] before after := by
  obtain ⟨events, hhistory, hworld, -⟩ := hidles.elapsed
  refine ⟨events, hhistory, List.flatMap_eq_nil_iff.mpr fun event hevent => ?_⟩
  exact Event.IsOfWorld.writes_eq_nil (hworld event (List.mem_reverse.mp hevent))

/-! ## At once -/

/-- The driver writes some values in order and at once, so that no register changes in
another way. -/
structure Stores (values : List (Register × UInt32)) (before after : Controller) : Prop where
  writes : Writes values before after
  registers : after.registers =
    values.foldl (fun registers (register, value) => registers.write register value)
      before.registers
  clock : after.clock = before.clock

theorem Stores.refl (controller : Controller) : Stores [] controller controller :=
  ⟨.of_history rfl, rfl, rfl⟩

theorem Stores.trans (hfirst : Stores earlier before middle) (hsecond : Stores later middle after) :
    Stores (earlier ++ later) before after where
  writes := hfirst.writes.trans hsecond.writes
  registers := by rw [hsecond.registers, hfirst.registers, List.foldl_append]
  clock := hsecond.clock.trans hfirst.clock

/-- What is only remembered or said adds nothing to what was written. -/
theorem Stores.quietly (hstores : Stores earlier before middle) (hquiet : Stores [] middle after) :
    Stores earlier before after := by
  simpa using hstores.trans hquiet

/-- A register that is not among those that are written keeps its content. -/
theorem Stores.read_of_not_mem (hstores : Stores earlier before after) {register : Register}
    (hregister : register ∉ earlier.map Prod.fst) : after.read register = before.read register := by
  rw [read, read, hstores.registers]
  generalize before.registers = registers
  clear hstores
  induction earlier generalizing registers with
  | nil => rfl
  | cons first rest ih =>
      rw [List.map_cons, List.mem_cons, not_or] at hregister
      exact (ih hregister.2 _).trans (Registers.read_write_of_ne _ _ hregister.1)

theorem stores_log (message : LogMessage) (controller : Controller) :
    Stores [] controller (controller.log message) := by
  unfold log logAt
  split
  · exact ⟨.of_event (.log message) rfl, rfl, rfl⟩
  · exact .refl controller

theorem stores_write (register : Register) (value : UInt32) (controller : Controller) :
    Stores [(register, value)] controller (controller.write register value) :=
  ⟨.of_event (.write register value) rfl, rfl, rfl⟩

theorem stores_acknowledge (raised : UInt32) (controller : Controller) :
    Stores [(.interruptClear, raised)] controller (controller.acknowledge raised) :=
  ⟨.of_event (.acknowledge raised) rfl, rfl, rfl⟩

theorem stores_issue (thread : ThreadId) (command : Command) (controller : Controller) :
    Stores (Event.issue thread command).writes controller (controller.issue thread command) := by
  refine Stores.quietly ?_ (stores_log ..)
  exact ⟨.of_event (.issue thread command) rfl, rfl, rfl⟩

/-! ## Kills -/

/-- The writes that silence a thread while some events are enabled. -/
def silenceWrites (enabled : UInt32) : ThreadId → List (Register × UInt32)
  | .manager => []
  | .channel channel =>
      (if hasChannel enabled channel then [(.interruptClear, channelBit channel)] else []) ++
        [(.interruptEnable, enabled &&& ~~~channelBit channel)]

/-- The writes that kill a thread while some events are enabled. -/
def killWrites (enabled : UInt32) (thread : ThreadId) : List (Register × UInt32) :=
  [(.debugInstruction0, Command.kill.firstWord thread), (.debugInstruction1, 0),
    (.debugCommand, 0)] ++ silenceWrites enabled thread

theorem stores_silence (thread : ThreadId) (controller : Controller) :
    Stores (silenceWrites (controller.read .interruptEnable) thread) controller
      (controller.silence thread) := by
  cases thread with
  | manager => exact .refl controller
  | channel channel =>
      unfold silence silenceWrites
      dsimp only
      split
      · exact (stores_write ..).trans (stores_write ..)
      · exact stores_write ..

theorem stores_kill (thread : ThreadId) (controller : Controller) :
    Stores (killWrites (controller.read .interruptEnable) thread) controller
      ((controller.issue thread .kill).silence thread) := by
  have hissued := stores_issue thread .kill controller
  have hsilenced := stores_silence thread (controller.issue thread .kill)
  rw [read_issue_interruptEnable] at hsilenced
  exact hissued.trans hsilenced

/-- The event of a thread that was killed is masked, and the other ones are as before. -/
theorem read_interruptEnable_kill (thread : ThreadId) (controller : Controller) :
    ((controller.issue thread .kill).silence thread).read .interruptEnable =
      match thread with
      | .manager => controller.read .interruptEnable
      | .channel channel => controller.read .interruptEnable &&& ~~~channelBit channel := by
  rw [read, (stores_kill thread controller).registers, killWrites, List.foldl_append]
  cases thread with
  | manager => rfl
  | channel channel =>
      rw [silenceWrites, List.foldl_append]
      exact Registers.read_write_self ..

theorem hasChannel_and_not (hchannel : channel < 32) (bits : UInt32) :
    hasChannel (bits &&& ~~~channelBit channel) channel = false := by
  rw [hasChannel_eq_bitOf hchannel, bitOf_and_not, bitOf_channelBit hchannel, decide_eq_true rfl]
  exact Bool.and_false _

end Controller

end CyclicDma
