import CyclicDma.Program.Cyclic
import CyclicDma.Proofs.ControlWord
import CyclicDma.Proofs.Microcode.Code

/-! # What a cyclic program does

The trace of a transfer lists the instructions that its program executes, with
the control words in force: the loops are unrolled, and the bytes of a period
are divided into bursts by ordinary arithmetic. A period loads and stores
exactly its bytes, and signals its event once.
-/

namespace CyclicDma

/-- What holds of all items of a list also holds of them where the list may be
left out. -/
theorem forall_mem_unless {α : Type} {property : α → Prop} {absent : Prop} [Decidable absent]
    {items : List α} (hall : ∀ item ∈ items, property item) :
    ∀ item ∈ (if absent then [] else items), property item := by
  split
  · exact fun _ hmem => absurd hmem List.not_mem_nil
  · exact hall

/-- What holds of all items of a list also holds of them where the list is
repeated. -/
theorem forall_mem_repeated {α : Type} {property : α → Prop} {items : List α}
    (hall : ∀ item ∈ items, property item) (count : Nat) :
    ∀ item ∈ (List.replicate count items).flatten, property item := by
  intro item hmem
  obtain ⟨copy, hcopy, hitem⟩ := List.mem_flatten.mp hmem
  exact hall item (List.eq_of_mem_replicate hcopy ▸ hitem)

/-! ## Observing data -/

namespace Executed

/-- The bytes that an executed instruction loads. -/
def loaded (executed : Executed) : Nat :=
  match executed.instruction with
  | .load _ | .loadPeripheral .. => executed.control.loadBytes
  | _ => 0

/-- The bytes that an executed instruction stores. -/
def stored (executed : Executed) : Nat :=
  match executed.instruction with
  | .store _ | .storePeripheral .. | .storeZero => executed.control.storeBytes
  | _ => 0

/-- The event that an executed instruction signals. -/
def signalled? (executed : Executed) : Option UInt8 :=
  match executed.instruction with
  | .signalEvent event => some event
  | _ => none

/-- The bytes that a trace loads. -/
def bytesLoaded (trace : List Executed) : Nat :=
  (trace.map loaded).sum

/-- The bytes that a trace stores. -/
def bytesStored (trace : List Executed) : Nat :=
  (trace.map stored).sum

/-- The events that a trace signals, in order. -/
def events (trace : List Executed) : List UInt8 :=
  trace.filterMap signalled?

variable (first second trace : List Executed) (count : Nat)

@[simp]
theorem events_nil : events [] = [] := rfl

@[simp]
theorem bytesLoaded_append :
    bytesLoaded (first ++ second) = bytesLoaded first + bytesLoaded second := by
  simp [bytesLoaded]

@[simp]
theorem bytesStored_append :
    bytesStored (first ++ second) = bytesStored first + bytesStored second := by
  simp [bytesStored]

@[simp]
theorem events_append : events (first ++ second) = events first ++ events second :=
  List.filterMap_append

@[simp]
theorem bytesLoaded_replicate :
    bytesLoaded (List.replicate count trace).flatten = count * bytesLoaded trace := by
  induction count with
  | zero => simp [bytesLoaded]
  | succ count ih =>
      rw [List.replicate_succ, List.flatten_cons, bytesLoaded_append, ih, Nat.succ_mul,
        Nat.add_comm]

@[simp]
theorem bytesStored_replicate :
    bytesStored (List.replicate count trace).flatten = count * bytesStored trace := by
  induction count with
  | zero => simp [bytesStored]
  | succ count ih =>
      rw [List.replicate_succ, List.flatten_cons, bytesStored_append, ih, Nat.succ_mul,
        Nat.add_comm]

@[simp]
theorem events_replicate :
    events (List.replicate count trace).flatten = (List.replicate count (events trace)).flatten := by
  induction count with
  | zero => rfl
  | succ count ih =>
      simp only [List.replicate_succ, List.flatten_cons]
      rw [events_append, ih]

end Executed

namespace Executed

/-- A trace loads a number of bytes, and stores as many. -/
structure Moves (trace : List Executed) (bytes : Nat) : Prop where
  loaded : bytesLoaded trace = bytes
  stored : bytesStored trace = bytes

theorem moves_nil : Moves [] 0 := ⟨rfl, rfl⟩

theorem moves_move (target : MoveTarget) (value : UInt32) (control : ControlWord) :
    Moves [⟨.move target value, control⟩] 0 := ⟨rfl, rfl⟩

variable {first second trace : List Executed} {few many bytes : Nat}

theorem Moves.append (hfirst : Moves first few) (hsecond : Moves second many) :
    Moves (first ++ second) (few + many) where
  loaded := by rw [bytesLoaded_append, hfirst.loaded, hsecond.loaded]
  stored := by rw [bytesStored_append, hfirst.stored, hsecond.stored]

theorem Moves.replicate (hmoves : Moves trace bytes) (count : Nat) :
    Moves (List.replicate count trace).flatten (count * bytes) where
  loaded := by rw [bytesLoaded_replicate, hmoves.loaded]
  stored := by rw [bytesStored_replicate, hmoves.stored]

theorem Moves.congr (hmoves : Moves trace few) (hbytes : few = many) : Moves trace many :=
  hbytes ▸ hmoves

end Executed

/-- Bursts under the control word move a number of bytes on either side. -/
structure ControlWord.Carries (control : ControlWord) (bytes : Nat) : Prop where
  load : control.loadBytes = bytes
  store : control.storeBytes = bytes

/-! ## Traces of a transfer -/

/-- One burst. A peripheral is waited for, and told when it was served. -/
def Direction.burstTrace (direction : Direction) (control : ControlWord) : List Executed :=
  match direction with
  | memoryToMemory => [⟨.load .always, control⟩, ⟨.store .always, control⟩]
  | memoryToPeripheral peripheral =>
      [⟨.waitForPeripheral .burst peripheral, control⟩, ⟨.load .always, control⟩,
        ⟨.storePeripheral .burst peripheral, control⟩]
  | peripheralToMemory peripheral =>
      [⟨.waitForPeripheral .burst peripheral, control⟩,
        ⟨.loadPeripheral .burst peripheral, control⟩, ⟨.store .always, control⟩]

/-- Stale requests of a peripheral are dropped. -/
def Direction.flushTrace (direction : Direction) (control : ControlWord) : List Executed :=
  match direction with
  | memoryToMemory => []
  | memoryToPeripheral peripheral | peripheralToMemory peripheral =>
      [⟨.flushPeripheral peripheral, control⟩]

theorem Direction.moves_burstTrace (direction : Direction) {control : ControlWord} {bytes : Nat}
    (hcarries : control.Carries bytes) : Executed.Moves (direction.burstTrace control) bytes := by
  obtain ⟨hload, hstore⟩ := hcarries
  cases direction <;>
    exact ⟨by simp [burstTrace, Executed.bytesLoaded, Executed.loaded, hload],
      by simp [burstTrace, Executed.bytesStored, Executed.stored, hstore]⟩

theorem Direction.moves_flushTrace (direction : Direction) (control : ControlWord) :
    Executed.Moves (direction.flushTrace control) 0 := by
  cases direction <;> exact ⟨rfl, rfl⟩

namespace Transfer

variable (transfer : Transfer) (event : UInt8)

/-- The bytes of a period that whole bursts leave over. -/
def restBytes : Nat :=
  transfer.periodBytes.toNat % transfer.control.loadBytes

/-- One burst under a control word that is put in force for it. -/
def shortTrace (control : ControlWord) : List Executed :=
  ⟨.move .control control.raw, control⟩ :: transfer.direction.burstTrace control

/-- The bytes that are left over: whole beats in one burst, then single bytes in
another, then the control word is restored. -/
def restTrace : List Executed :=
  let size := transfer.control.burstSize
  let beats := transfer.restBytes / size.toNat
  let tail := transfer.restBytes % size.toNat
  if transfer.restBytes = 0 then []
  else
    (if beats = 0 then [] else transfer.shortTrace (transfer.control.burst size (.ofNat beats))) ++
      (if tail = 0 then [] else transfer.shortTrace (transfer.control.burst 1 (.ofNat tail))) ++
      [⟨.move .control transfer.control.raw, transfer.control⟩]

/-- One period: whole bursts under the transfer's own control word, what they
leave over, and the event. -/
def periodTrace : List Executed :=
  transfer.direction.flushTrace transfer.control ++
    (List.replicate (transfer.periodBytes.toNat / transfer.control.loadBytes)
      (transfer.direction.burstTrace transfer.control)).flatten ++
    transfer.restTrace ++ [⟨.signalEvent event, transfer.control⟩]

/-- One pass: the addresses are loaded, and all periods are moved. -/
def passTrace : List Executed :=
  [⟨.move .source transfer.source, transfer.control⟩,
    ⟨.move .destination transfer.destination, transfer.control⟩] ++
    (List.replicate transfer.periods.toNat (transfer.periodTrace event)).flatten

/-- The control word is put in force once, and passes follow. -/
def programTrace (passes : Nat) : List Executed :=
  ⟨.move .control transfer.control.raw, transfer.control⟩ ::
    (List.replicate passes (transfer.passTrace event)).flatten

/-! ## Unrolled code -/

variable {transfer} in
theorem toNat_bursts :
    transfer.bursts.toNat = transfer.periodBytes.toNat / transfer.control.loadBytes := by
  rw [bursts, UInt32.toNat_div, ControlWord.toNat_burstBytes]

variable {transfer} in
theorem toNat_remainderBytes : transfer.remainderBytes.toNat = transfer.restBytes := by
  rw [remainderBytes, UInt32.toNat_mod, ControlWord.toNat_burstBytes, restBytes]

theorem annotate_moveBurst (direction : Direction) (control : ControlWord) :
    Executed.annotate control direction.moveBurst = direction.burstTrace control := by
  cases direction <;> rfl

theorem afterAll_moveBurst (direction : Direction) (control : ControlWord) :
    control.afterAll direction.moveBurst = control := by
  cases direction <;> rfl

theorem annotate_flush (direction : Direction) (control : ControlWord) :
    Executed.annotate control direction.flush = direction.flushTrace control := by
  cases direction <;> rfl

theorem afterAll_flush (direction : Direction) (control : ControlWord) :
    control.afterAll direction.flush = control := by
  cases direction <;> rfl

theorem annotate_moveShort (size length : UInt32) (control : ControlWord) :
    Executed.annotate control (transfer.moveShort size length) =
      transfer.shortTrace (transfer.control.burst size length) :=
  congrArg (_ :: ·) (annotate_moveBurst transfer.direction _)

/-- The control word is in force again after what was left over. -/
theorem afterAll_moveRemainder :
    transfer.control.afterAll transfer.moveRemainder = transfer.control := by
  unfold moveRemainder
  dsimp only
  split
  · rfl
  · rw [ControlWord.afterAll_append]
    rfl

/-- A short burst that has no bytes is left out, under whatever control word. -/
theorem annotate_moveShort_unless (size : UInt32) {beats : UInt32} {count : Nat}
    (hbeats : beats.toNat = count) (control : ControlWord) :
    Executed.annotate control (if beats = 0 then [] else transfer.moveShort size beats) =
      if count = 0 then [] else transfer.shortTrace (transfer.control.burst size (.ofNat count)) := by
  have hzero : beats = 0 ↔ count = 0 := by
    rw [← hbeats, ← UInt32.toNat_inj, UInt32.toNat_zero]
  simp only [hzero]
  split
  · rfl
  · rw [annotate_moveShort, ← hbeats, UInt32.ofNat_toNat]

theorem annotate_moveRemainder :
    Executed.annotate transfer.control transfer.moveRemainder = transfer.restTrace := by
  have hrest : transfer.remainderBytes = 0 ↔ transfer.restBytes = 0 := by
    rw [← toNat_remainderBytes, ← UInt32.toNat_inj, UInt32.toNat_zero]
  unfold moveRemainder restTrace
  simp only [hrest]
  split
  · rfl
  · rw [Executed.annotate_append, Executed.annotate_append,
      transfer.annotate_moveShort_unless _ (by rw [UInt32.toNat_div, toNat_remainderBytes]),
      transfer.annotate_moveShort_unless _ (by rw [UInt32.toNat_mod, toNat_remainderBytes])]
    rfl

theorem unroll_period :
    (transfer.period event).unroll =
      transfer.direction.flush ++
        (List.replicate transfer.bursts.toNat transfer.direction.moveBurst).flatten ++
        transfer.moveRemainder ++ [.signalEvent event] := by
  simp [period, Code.unroll]

theorem afterAll_period :
    transfer.control.afterAll (transfer.period event).unroll = transfer.control := by
  rw [unroll_period, ControlWord.afterAll_append, ControlWord.afterAll_append,
    ControlWord.afterAll_append, afterAll_flush,
    ControlWord.afterAll_replicate (afterAll_moveBurst _ _), afterAll_moveRemainder]
  rfl

theorem annotate_period :
    Executed.annotate transfer.control (transfer.period event).unroll =
      transfer.periodTrace event := by
  have hflush := afterAll_flush transfer.direction transfer.control
  -- each part begins under the control word of the transfer
  have hbursts : transfer.control.afterAll
      (List.replicate transfer.bursts.toNat transfer.direction.moveBurst).flatten =
      transfer.control :=
    ControlWord.afterAll_replicate (afterAll_moveBurst _ _) _
  rw [unroll_period]
  simp only [Executed.annotate_append, ControlWord.afterAll_append, hflush, hbursts,
    afterAll_moveRemainder, annotate_flush, annotate_moveRemainder]
  rw [Executed.annotate_replicate (afterAll_moveBurst _ _), annotate_moveBurst, toNat_bursts]
  rfl

theorem unroll_pass :
    (transfer.pass event).unroll =
      [.move .source transfer.source, .move .destination transfer.destination] ++
        (List.replicate transfer.periods.toNat (transfer.period event).unroll).flatten := by
  simp [pass, Code.unroll]

theorem afterAll_pass :
    transfer.control.afterAll (transfer.pass event).unroll = transfer.control := by
  rw [unroll_pass, ControlWord.afterAll_append]
  exact ControlWord.afterAll_replicate (transfer.afterAll_period event) _

theorem annotate_pass :
    Executed.annotate transfer.control (transfer.pass event).unroll = transfer.passTrace event := by
  rw [unroll_pass, Executed.annotate_append, passTrace, ← annotate_period,
    ← Executed.annotate_replicate (transfer.afterAll_period event)]
  rfl

/-! ## Bytes and events -/

variable {transfer}

/-- What is left over fills less than a burst. -/
theorem restBytes_lt : transfer.restBytes < transfer.control.loadBytes :=
  Nat.mod_lt _ transfer.control.loadBytes_pos

/-- The beats that are left over fit into one burst. -/
theorem restBeats_lt : transfer.restBytes / transfer.control.burstSize.toNat < 16 := by
  rw [Nat.div_lt_iff_lt_mul transfer.control.burstSize_pos]
  calc transfer.restBytes
      < transfer.control.loadBytes := restBytes_lt
    _ = transfer.control.burstLength.toNat * transfer.control.burstSize.toNat := by
        rw [ControlWord.loadBytes, ControlWord.toNat_burstLength, ControlWord.toNat_burstSize,
          Nat.mul_comm]
    _ ≤ 16 * transfer.control.burstSize.toNat :=
        Nat.mul_le_mul_right _ transfer.control.burstLength_le

/-- The whole beats that are left over are moved by one short burst. -/
theorem carries_beats (hsome : transfer.restBytes / transfer.control.burstSize.toNat ≠ 0) :
    ControlWord.Carries
      (transfer.control.burst transfer.control.burstSize
        (.ofNat (transfer.restBytes / transfer.control.burstSize.toNat)))
      (transfer.control.burstSize.toNat *
        (transfer.restBytes / transfer.control.burstSize.toNat)) := by
  obtain ⟨exponent, hexponent, hsize⟩ := transfer.control.exists_burstSize_eq
  have hlt := transfer.restBeats_lt
  generalize transfer.restBytes / transfer.control.burstSize.toNat = beats at hsome hlt ⊢
  have hbeats : (UInt32.ofNat beats).toNat = beats := by
    rw [UInt32.toNat_ofNat', Nat.mod_eq_of_lt (by omega)]
  -- neither the beats nor their size overflow a word
  have hpow : 2 ^ exponent ≤ 2 ^ 7 := Nat.pow_le_pow_right (by decide) (by omega)
  have hexact : (UInt32.ofNat (2 ^ exponent)).toNat = 2 ^ exponent := by
    rw [UInt32.toNat_ofNat', Nat.mod_eq_of_lt (by omega)]
  have hlength : 1 ≤ (UInt32.ofNat beats).toNat ∧ (UInt32.ofNat beats).toNat ≤ 16 := by omega
  have hload := transfer.control.loadBytes_burst hexponent hlength
  have hshape := transfer.control.sameShape_burst hexponent hlength
  rw [hbeats] at hload
  rw [hsize, hexact]
  exact ⟨hload, (ControlWord.storeBytes_eq_loadBytes hshape).trans hload⟩

/-- The single bytes that are left over are moved by one burst of bytes. -/
theorem carries_tail (hbeat : transfer.control.burstSize ≤ 16)
    (hsome : transfer.restBytes % transfer.control.burstSize.toNat ≠ 0) :
    ControlWord.Carries
      (transfer.control.burst 1 (.ofNat (transfer.restBytes % transfer.control.burstSize.toNat)))
      (transfer.restBytes % transfer.control.burstSize.toNat) := by
  have hlt := Nat.mod_lt transfer.restBytes transfer.control.burstSize_pos
  have hle : transfer.control.burstSize.toNat ≤ 16 := UInt32.le_iff_toNat_le.mp hbeat
  generalize transfer.restBytes % transfer.control.burstSize.toNat = tail at hsome hlt ⊢
  have htail : (UInt32.ofNat tail).toNat = tail := by
    rw [UInt32.toNat_ofNat', Nat.mod_eq_of_lt (by omega)]
  have hlength : 1 ≤ (UInt32.ofNat tail).toNat ∧ (UInt32.ofNat tail).toNat ≤ 16 := by omega
  have hload := transfer.control.loadBytes_burst (show 0 < 8 by decide) hlength
  have hshape := transfer.control.sameShape_burst (show 0 < 8 by decide) hlength
  rw [htail, Nat.pow_zero, Nat.one_mul] at hload
  exact ⟨hload, (ControlWord.storeBytes_eq_loadBytes hshape).trans hload⟩

theorem moves_shortTrace {control : ControlWord} {bytes : Nat} (hcarries : control.Carries bytes) :
    Executed.Moves (transfer.shortTrace control) bytes := by
  have hburst := transfer.direction.moves_burstTrace hcarries
  exact (Executed.moves_move .control control.raw control).append hburst |>.congr (Nat.zero_add _)

theorem moves_restTrace (hbeat : transfer.control.burstSize ≤ 16) :
    Executed.Moves transfer.restTrace transfer.restBytes := by
  -- whole beats and single bytes add up to what is left over
  have hdivision := Nat.div_add_mod transfer.restBytes transfer.control.burstSize.toNat
  unfold restTrace
  dsimp only
  split
  next hnone => exact hnone ▸ Executed.moves_nil
  next =>
    have hbeats : Executed.Moves
        (if transfer.restBytes / transfer.control.burstSize.toNat = 0 then []
        else transfer.shortTrace (transfer.control.burst transfer.control.burstSize
          (.ofNat (transfer.restBytes / transfer.control.burstSize.toNat))))
        (transfer.control.burstSize.toNat *
          (transfer.restBytes / transfer.control.burstSize.toNat)) := by
      split
      next hnone => exact hnone ▸ Executed.moves_nil
      next hsome => exact moves_shortTrace (carries_beats hsome)
    have htail : Executed.Moves
        (if transfer.restBytes % transfer.control.burstSize.toNat = 0 then []
        else transfer.shortTrace (transfer.control.burst 1
          (.ofNat (transfer.restBytes % transfer.control.burstSize.toNat))))
        (transfer.restBytes % transfer.control.burstSize.toNat) := by
      split
      next hnone => exact hnone ▸ Executed.moves_nil
      next hsome => exact moves_shortTrace (carries_tail hbeat hsome)
    exact ((hbeats.append htail).append (Executed.moves_move .control _ _)).congr hdivision

/-- A period loads and stores its bytes. -/
theorem moves_periodTrace (hshape : transfer.control.SameShape)
    (hbeat : transfer.control.burstSize ≤ 16) (event : UInt8) :
    Executed.Moves (transfer.periodTrace event) transfer.periodBytes.toNat := by
  have hcarries : transfer.control.Carries transfer.control.loadBytes :=
    ⟨rfl, ControlWord.storeBytes_eq_loadBytes hshape⟩
  have hbursts := (transfer.direction.moves_burstTrace hcarries).replicate
    (transfer.periodBytes.toNat / transfer.control.loadBytes)
  have hsum : 0 + transfer.periodBytes.toNat / transfer.control.loadBytes *
      transfer.control.loadBytes + transfer.restBytes + 0 = transfer.periodBytes.toNat := by
    rw [Nat.zero_add, Nat.add_zero, restBytes, Nat.mul_comm]
    exact Nat.div_add_mod ..
  have hevent : Executed.Moves [⟨.signalEvent event, transfer.control⟩] 0 := ⟨rfl, rfl⟩
  exact (((transfer.direction.moves_flushTrace transfer.control).append hbursts).append
    (moves_restTrace hbeat) |>.append hevent).congr hsum

/-- A pass loads and stores the bytes of all periods. -/
theorem moves_passTrace (hshape : transfer.control.SameShape)
    (hbeat : transfer.control.burstSize ≤ 16) (event : UInt8) :
    Executed.Moves (transfer.passTrace event)
      (transfer.periods.toNat * transfer.periodBytes.toNat) := by
  have haddresses := (Executed.moves_move .source transfer.source transfer.control).append
    (Executed.moves_move .destination transfer.destination transfer.control)
  exact (haddresses.append ((moves_periodTrace hshape hbeat event).replicate _)).congr
    (Nat.zero_add _)

variable (transfer)

theorem events_restTrace : Executed.events transfer.restTrace = [] := by
  have hshort : ∀ control, Executed.events (transfer.shortTrace control) = [] := by
    intro control
    unfold shortTrace
    cases transfer.direction <;> rfl
  unfold restTrace
  dsimp only
  split
  · rfl
  · rw [Executed.events_append, Executed.events_append]
    split <;> split <;> simp [hshort] <;> rfl

/-- A period signals its event, once. -/
theorem events_periodTrace : Executed.events (transfer.periodTrace event) = [event] := by
  have hburst : Executed.events (transfer.direction.burstTrace transfer.control) = [] := by
    cases transfer.direction <;> rfl
  have hflush : Executed.events (transfer.direction.flushTrace transfer.control) = [] := by
    cases transfer.direction <;> rfl
  unfold periodTrace
  rw [Executed.events_append, Executed.events_append, Executed.events_append,
    Executed.events_replicate, hburst, hflush, events_restTrace]
  simp [Executed.events, Executed.signalled?]

/-- A pass signals the event once for each period. -/
theorem events_passTrace :
    Executed.events (transfer.passTrace event) = List.replicate transfer.periods.toNat event := by
  unfold passTrace
  rw [Executed.events_append, Executed.events_replicate, events_periodTrace]
  simp [Executed.events, Executed.signalled?]

end Transfer

end CyclicDma
