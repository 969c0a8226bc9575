import CyclicDma.Proofs.Program.Trace

/-! # The addresses that a program accesses

Each side of a transfer has an address register. A move loads it, and every burst
advances it by the bytes that were moved, if the control word in force says so.
A pass of a program accesses each byte of its ring once and in order on a side
that increments, and a fixed address on a side that does not.
-/

namespace CyclicDma

/-! ## Address registers -/

/-- The addresses of some bytes: one after the other, or all the same. -/
def span (increments : Bool) (address : UInt32) (bytes : Nat) : List UInt32 :=
  (List.range bytes).map fun position => if increments then address + .ofNat position else address

/-- The address behind some bytes. -/
def advance (increments : Bool) (address : UInt32) (bytes : Nat) : UInt32 :=
  if increments then address + .ofNat bytes else address

@[simp]
theorem span_zero (increments : Bool) (address : UInt32) : span increments address 0 = [] := rfl

@[simp]
theorem advance_zero (increments : Bool) (address : UInt32) :
    advance increments address 0 = address := by
  cases increments
  · rfl
  · exact UInt32.add_zero address

theorem advance_advance (increments : Bool) (address : UInt32) (first second : Nat) :
    advance increments (advance increments address first) second =
      advance increments address (first + second) := by
  cases increments
  · rfl
  · simp only [advance, if_true, UInt32.ofNat_add]
    exact UInt32.add_assoc ..

/-- Bytes that are accessed one after the other are accessed without a gap. -/
theorem span_append (increments : Bool) (address : UInt32) (first second : Nat) :
    span increments address first ++ span increments (advance increments address first) second =
      span increments address (first + second) := by
  unfold span
  rw [List.range_add, List.map_append, List.map_map]
  congr 1
  apply List.map_congr_left
  intro position _
  cases increments
  · rfl
  · simp only [advance, if_true, Function.comp_apply, UInt32.ofNat_add]
    exact UInt32.add_assoc ..

namespace AddressRegister

/-- The move that loads the register. -/
def target : AddressRegister → MoveTarget
  | source => .source
  | destination => .destination

/-- The address increments under a control word. -/
def increments : AddressRegister → ControlWord → Bool
  | source => ControlWord.sourceIncrements
  | destination => ControlWord.destinationIncrements

/-- The bytes that an executed instruction moves on the register's side. -/
def moved : AddressRegister → Executed → Nat
  | source => Executed.loaded
  | destination => Executed.stored

variable (register : AddressRegister)

/-- The content of the register after an instruction. -/
def after (address : UInt32) (executed : Executed) : UInt32 :=
  match executed.instruction with
  | .move target value => if target = register.target then value else address
  | .addHalfword other value => if other = register then address + value.toUInt32 else address
  | _ => advance (register.increments executed.control) address (register.moved executed)

/-- The addresses of all bytes that a trace accesses on the register's side, in
order. -/
def accesses : UInt32 → List Executed → List UInt32
  | _, [] => []
  | address, executed :: rest =>
      span (register.increments executed.control) address (register.moved executed) ++
        accesses (register.after address executed) rest

/-- The bytes that a trace moves on the register's side. -/
def movedBy (trace : List Executed) : Nat :=
  (trace.map register.moved).sum

/-- The instruction does not load the register, and leaves it to the control word
in force whether the address increments. -/
def Steady (increments : Bool) (executed : Executed) : Prop :=
  register.increments executed.control = increments ∧
    match executed.instruction with
    | .move target _ => target ≠ register.target
    | .addHalfword other _ => other ≠ register
    | _ => True

theorem accesses_append (address : UInt32) (first second : List Executed) :
    register.accesses address (first ++ second) =
      register.accesses address first ++
        register.accesses (first.foldl register.after address) second := by
  induction first generalizing address with
  | nil => rfl
  | cons executed first ih =>
      rw [List.cons_append, accesses, ih, accesses, List.append_assoc]
      rfl

variable {register} {increments : Bool} {trace : List Executed}

theorem Steady.after {executed : Executed} (hsteady : register.Steady increments executed)
    (address : UInt32) :
    register.after address executed = advance increments address (register.moved executed) := by
  obtain ⟨hincrements, hkept⟩ := hsteady
  -- what could load the register moves no bytes, and is not its own move
  obtain ⟨instruction, control⟩ := executed
  cases instruction with
  | move target value =>
      have hnone : register.moved ⟨.move target value, control⟩ = 0 := by cases register <;> rfl
      rw [hnone, advance_zero]
      exact if_neg hkept
  | addHalfword other value =>
      have hnone : register.moved ⟨.addHalfword other value, control⟩ = 0 := by
        cases register <;> rfl
      rw [hnone, advance_zero]
      exact if_neg hkept
  | _ => exact congrArg (advance · address _) hincrements

/-- While the address is not loaded, the bytes of a trace are accessed one after
the other. -/
theorem accesses_of_steady (hsteady : ∀ executed ∈ trace, register.Steady increments executed)
    (address : UInt32) :
    register.accesses address trace = span increments address (register.movedBy trace) ∧
      trace.foldl register.after address = advance increments address (register.movedBy trace) := by
  induction trace generalizing address with
  | nil => exact ⟨rfl, (advance_zero ..).symm⟩
  | cons executed trace ih =>
      obtain ⟨hfirst, hrest⟩ := List.forall_mem_cons.mp hsteady
      obtain ⟨haccesses, hafter⟩ := ih hrest (register.after address executed)
      rw [hfirst.after] at haccesses hafter
      have htotal : register.movedBy (executed :: trace) =
          register.moved executed + register.movedBy trace := List.sum_cons
      constructor
      · rw [accesses, hfirst.1, hfirst.after, haccesses, span_append, htotal]
      · rw [List.foldl_cons, hfirst.after, hafter, advance_advance, htotal]

theorem movedBy_eq_of_moves (register : AddressRegister) {bytes : Nat}
    (hmoves : Executed.Moves trace bytes) :
    register.movedBy trace = bytes := by
  cases register with
  | source => exact hmoves.loaded
  | destination => exact hmoves.stored

end AddressRegister

/-! ## Steady traces -/

namespace ControlWord

theorem increments_burst (register : AddressRegister) (size length : UInt32)
    (control : ControlWord) :
    register.increments (control.burst size length) = register.increments control := by
  cases register with
  | source => exact control.sourceIncrements_burst size
  | destination => exact control.destinationIncrements_burst size

end ControlWord

namespace Direction

/-- The side of the register is in memory. -/
def isMemory (direction : Direction) : AddressRegister → Bool
  | .source => direction.readsMemory
  | .destination => direction.writesMemory

theorem increments_control (direction : Direction) (register : AddressRegister)
    (control : ControlWord) :
    register.increments (direction.control control) = direction.isMemory register := by
  rw [control_eq_increment]
  cases register with
  | source => exact ControlWord.sourceIncrements_increment ..
  | destination => exact ControlWord.destinationIncrements_increment ..

variable (direction : Direction) {register : AddressRegister} {control : ControlWord}
  {increments : Bool}

theorem steady_burstTrace (hincrements : register.increments control = increments) :
    ∀ executed ∈ direction.burstTrace control, register.Steady increments executed := by
  intro executed hmem
  cases direction with
  | memoryToMemory =>
      simp only [burstTrace, List.mem_cons, List.not_mem_nil, or_false] at hmem
      rcases hmem with rfl | rfl <;> exact ⟨hincrements, trivial⟩
  | memoryToPeripheral peripheral | peripheralToMemory peripheral =>
      simp only [burstTrace, List.mem_cons, List.not_mem_nil, or_false] at hmem
      rcases hmem with rfl | rfl | rfl <;> exact ⟨hincrements, trivial⟩

theorem steady_flushTrace (hincrements : register.increments control = increments) :
    ∀ executed ∈ direction.flushTrace control, register.Steady increments executed := by
  intro executed hmem
  cases direction with
  | memoryToMemory => exact absurd hmem List.not_mem_nil
  | memoryToPeripheral peripheral | peripheralToMemory peripheral =>
      exact List.eq_of_mem_singleton hmem ▸ ⟨hincrements, trivial⟩

end Direction

namespace Transfer

open AddressRegister (Steady)

variable (transfer : Transfer) (register : AddressRegister) (event : UInt8)

/-- The bus address at which a pass starts on the side of the register. -/
def start : AddressRegister → UInt32
  | .source => transfer.source
  | .destination => transfer.destination

theorem steady_move_control {increments : Bool} {control : ControlWord} (value : UInt32)
    (hincrements : register.increments control = increments) :
    register.Steady increments ⟨.move .control value, control⟩ :=
  ⟨hincrements, by cases register <;> exact nofun⟩

/-- A burst of another shape increments the same addresses. -/
theorem steady_shortTrace (size length : UInt32) :
    ∀ executed ∈ transfer.shortTrace (transfer.control.burst size length),
      register.Steady (register.increments transfer.control) executed := by
  have hincrements := transfer.control.increments_burst register size length
  exact List.forall_mem_cons.mpr
    ⟨steady_move_control register _ hincrements, transfer.direction.steady_burstTrace hincrements⟩

theorem steady_restTrace : ∀ executed ∈ transfer.restTrace,
    register.Steady (register.increments transfer.control) executed := by
  unfold restTrace
  apply forall_mem_unless
  refine List.forall_mem_append.mpr ⟨List.forall_mem_append.mpr ⟨?_, ?_⟩, ?_⟩
  · exact forall_mem_unless (transfer.steady_shortTrace register _ _)
  · exact forall_mem_unless (transfer.steady_shortTrace register _ _)
  · exact List.forall_mem_singleton.mpr (steady_move_control register _ rfl)

theorem steady_periodTrace : ∀ executed ∈ transfer.periodTrace event,
    register.Steady (register.increments transfer.control) executed := by
  have hburst : ∀ executed ∈ transfer.direction.burstTrace transfer.control,
      register.Steady (register.increments transfer.control) executed :=
    transfer.direction.steady_burstTrace rfl
  have hsignal : register.Steady (register.increments transfer.control)
      ⟨.signalEvent event, transfer.control⟩ :=
    ⟨rfl, trivial⟩
  unfold periodTrace
  refine List.forall_mem_append.mpr ⟨List.forall_mem_append.mpr
    ⟨List.forall_mem_append.mpr ⟨?_, forall_mem_repeated hburst _⟩, ?_⟩, ?_⟩
  · exact transfer.direction.steady_flushTrace rfl
  · exact transfer.steady_restTrace register
  · exact List.forall_mem_singleton.mpr hsignal

/-! ## Passes -/

variable {transfer}

/-- Wherever the address was, a pass accesses the bytes of its ring. -/
theorem accesses_passTrace (hshape : transfer.control.SameShape)
    (hbeat : transfer.control.burstSize ≤ 16) (address : UInt32) :
    register.accesses address (transfer.passTrace event) =
      span (register.increments transfer.control) (transfer.start register)
        (transfer.periods.toNat * transfer.periodBytes.toNat) := by
  have hsteady := forall_mem_repeated (transfer.steady_periodTrace register event)
    transfer.periods.toNat
  have hmoved := AddressRegister.movedBy_eq_of_moves register
    ((moves_periodTrace hshape hbeat event).replicate transfer.periods.toNat)
  -- the moves at the start forget where the address was
  have hstart : [⟨.move .source transfer.source, transfer.control⟩,
      ⟨.move .destination transfer.destination, transfer.control⟩].foldl register.after address =
      transfer.start register := by
    cases register <;> rfl
  have hnone : register.accesses address [⟨.move .source transfer.source, transfer.control⟩,
      ⟨.move .destination transfer.destination, transfer.control⟩] = [] := by
    cases register <;> rfl
  rw [passTrace, AddressRegister.accesses_append, hstart, hnone, List.nil_append,
    (AddressRegister.accesses_of_steady hsteady _).1, hmoved]

/-- Each pass accesses the bytes of the ring again. -/
theorem accesses_programTrace (hshape : transfer.control.SameShape)
    (hbeat : transfer.control.burstSize ≤ 16) (passes : Nat) (address : UInt32) :
    register.accesses address (transfer.programTrace event passes) =
      (List.replicate passes
        (span (register.increments transfer.control) (transfer.start register)
          (transfer.periods.toNat * transfer.periodBytes.toNat))).flatten := by
  have hpasses : ∀ address,
      register.accesses address (List.replicate passes (transfer.passTrace event)).flatten =
        (List.replicate passes
          (span (register.increments transfer.control) (transfer.start register)
            (transfer.periods.toNat * transfer.periodBytes.toNat))).flatten := by
    induction passes with
    | zero => exact fun _ => rfl
    | succ passes ih =>
        intro address
        simp only [List.replicate_succ, List.flatten_cons]
        rw [AddressRegister.accesses_append, ih, accesses_passTrace register event hshape hbeat]
  have hnone : register.moved ⟨.move .control transfer.control.raw, transfer.control⟩ = 0 := by
    cases register <;> rfl
  rw [programTrace, AddressRegister.accesses, hnone, span_zero, List.nil_append, hpasses]

end Transfer

end CyclicDma
