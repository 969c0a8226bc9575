import CyclicDma.Proofs.Controller.Standing

/-! # Channels that can be heard

A driver hears of a running channel only while the channel's event is enabled,
and an event that is enabled while its channel does not run is a stray one. Both
depend on how a channel stands, so what keeps a channel heard, and what may make
its event a stray one, is told by the moves between standings.
-/

namespace CyclicDma.Standing

/-- The channel was started, and neither stopped nor killed since. -/
def isRunning (standing : Standing) : Bool :=
  standing.request.any (·.running) && !standing.aborted

/-- The transfer that was submitted to the channel. -/
def transfer? (standing : Standing) : Option Transfer :=
  standing.request.bind (·.transfer)

/-- The event of the channel is enabled, but the channel does not run. -/
def IsStray (standing : Standing) : Prop :=
  standing.enabled = true ∧ standing.isRunning = false

/-! ## Moves -/

/-- The interrupt handler killed the channel. -/
def killed (standing : Standing) : Standing :=
  { standing with aborted := true, enabled := false, command := some .kill }

/-- The holder does not take the channel for running any more. -/
def stopped (standing : Standing) : Standing :=
  { standing with request := standing.request.map ({ · with running := false }) }

/-- The event of the channel is masked. -/
def masked (standing : Standing) : Standing :=
  { standing with enabled := false }

/-- The holder killed the channel. -/
def halted (standing : Standing) : Standing :=
  { standing.stopped.masked with command := some .kill }

/-- The holder took note of an abort. -/
def noted (standing : Standing) : Standing :=
  if standing.aborted then { standing.stopped with aborted := false } else standing

/-- The channel was started. -/
def launched (standing : Standing) : Standing :=
  { standing with
    request := standing.request.map ({ · with running := true })
    enabled := true
    command := standing.launch }

/-- What may become of a channel. Where something may lead its event astray, the
channel may be started although it was aborted, and it need not be killed when it
is stopped. -/
inductive Move (astray : Prop) : Standing → Standing → Prop
  | kill (standing) : Move astray standing standing.killed
  | note (standing) : Move astray standing standing.noted
  | halt (standing) : Move astray standing standing.halted
  | mask (standing) : Move astray standing standing.stopped.masked
  /-- A channel without a transfer does not run. -/
  | rest {standing : Standing} (hnone : standing.transfer? = none) :
      Move astray standing standing.stopped
  | launch {standing : Standing} {channel address nonsecure}
      (hlaunch : standing.launch = some (.go channel address nonsecure))
      (hsome : standing.transfer?.isSome = true) (hsound : standing.aborted = true → astray) :
      Move astray standing standing.launched
  /-- The interrupt handler kills the channel before it is started. -/
  | overtake (standing) : Move astray standing { standing.killed.launched with enabled := false }
  | submit {standing : Standing} (transfer) (hstopped : standing.request.any (·.running) = false) :
      Move astray standing
        { standing with request := standing.request.map ({ · with transfer }) }
  | spare {standing : Standing} (hastray : astray) : Move astray standing standing.stopped
  | allocate {standing : Standing} (hfree : standing.request = none) :
      Move astray standing { standing with request := some {} }
  | release {standing : Standing} (hstopped : standing.isRunning = false) :
      Move astray standing { standing with request := none, aborted := false }
  /-- A region is accepted or handed back while the channel is free. -/
  | vacate {before after : Standing} (hbefore : before.request = none)
      (hafter : after.request = none) (hcommand : after.command = before.command)
      (henabled : after.enabled = true → before.enabled = true) : Move astray before after

/-- Any number of moves. -/
abbrev Moves (astray : Prop) : Standing → Standing → Prop :=
  Relation.ReflTransGen (Move astray)

/-- The channel stands as before, or it is handed over while it does not run. -/
inductive Handed : Standing → Standing → Prop
  | keep (standing) : Handed standing standing
  | allocate {standing : Standing} (hfree : standing.request = none) :
      Handed standing { standing with request := some {} }
  | release {standing : Standing} (hstopped : standing.isRunning = false) :
      Handed standing { standing with request := none, aborted := false }
  | vacate {before after : Standing} (hbefore : before.request = none)
      (hafter : after.request = none) (hcommand : after.command = before.command)
      (henabled : after.enabled = true → before.enabled = true) : Handed before after

variable {before after standing : Standing} {astray : Prop}

/-- Handing a channel over is a move of the channel. -/
theorem Handed.moves (hhanded : Handed before after) : Moves astray before after := by
  cases hhanded with
  | keep => exact .refl
  | allocate hfree => exact .single (.allocate hfree)
  | release hstopped => exact .single (.release hstopped)
  | vacate hbefore hafter hcommand henabled =>
      exact .single (.vacate hbefore hafter hcommand henabled)

/-! ## What is stopped -/

theorem running_stopped (standing : Standing) :
    standing.stopped.request.any (·.running) = false := by
  unfold stopped
  cases standing.request <;> rfl

theorem isRunning_of_stopped (hstopped : standing.request.any (·.running) = false) :
    standing.isRunning = false := by
  rw [isRunning, hstopped, Bool.false_and]

theorem stopped_eq (hstopped : standing.request.any (·.running) = false) :
    standing.stopped = standing := by
  obtain ⟨request, _, _, _, _⟩ := standing
  cases request with
  | none => rfl
  | some request =>
      obtain ⟨transfer, running⟩ := request
      cases running with
      | false => rfl
      | true => cases hstopped

theorem transfer?_stopped (standing : Standing) :
    standing.stopped.transfer? = standing.transfer? := by
  unfold stopped transfer?
  cases standing.request <;> rfl

/-- A transfer is recorded for a channel that is held. -/
theorem exists_request (hsome : standing.transfer?.isSome = true) :
    ∃ request transfer, standing.request = some request ∧ request.transfer = some transfer := by
  obtain ⟨transfer, htransfer⟩ := Option.isSome_iff_exists.mp hsome
  rw [transfer?] at htransfer
  obtain ⟨request, hrequest, htransfer⟩ := Option.bind_eq_some_iff.mp htransfer
  exact ⟨request, transfer, hrequest, htransfer⟩

theorem isRunning_of_vacant (hvacant : standing.request = none) : standing.isRunning = false := by
  rw [isRunning, hvacant]
  rfl

theorem noted_cases (standing : Standing) :
    standing.aborted = true ∧ standing.noted = { standing.stopped with aborted := false } ∨
      standing.aborted = false ∧ standing.noted = standing := by
  unfold noted
  cases haborted : standing.aborted with
  | true => exact .inl ⟨rfl, rfl⟩
  | false => exact .inr ⟨rfl, rfl⟩

/-! ## What moves keep -/

/-- A channel that runs can be heard: its event is enabled, its transfer is there,
and the last command started it. -/
def Heard (standing : Standing) : Prop :=
  standing.isRunning = true →
    standing.enabled = true ∧ standing.transfer?.isSome = true ∧
      standing.command = standing.launch

theorem Heard.of_not_running (hstopped : standing.isRunning = false) : standing.Heard :=
  fun hrunning => absurd hrunning (by simp [hstopped])

/-- An event is enabled only if the last command started the channel. -/
def Started (standing : Standing) : Prop :=
  standing.enabled = true → ∃ channel address nonsecure,
    standing.command = some (.go channel address nonsecure)

theorem Move.heard (hmove : Move astray before after) (hheard : before.Heard) : after.Heard := by
  cases hmove with
  | kill => exact .of_not_running (Bool.and_false _)
  | note =>
      rcases noted_cases before with ⟨-, hnoted⟩ | ⟨-, hsame⟩
      · rw [hnoted]
        exact .of_not_running (isRunning_of_stopped (running_stopped before))
      · exact hsame.symm ▸ hheard
  | halt | mask | rest | spare =>
      exact .of_not_running (isRunning_of_stopped (running_stopped before))
  | launch hlaunch hsome =>
      intro _
      obtain ⟨request, transfer, hrequest, htransfer⟩ := exists_request hsome
      refine ⟨rfl, ?_, rfl⟩
      rw [transfer?, launched, hrequest]
      exact Option.isSome_iff_exists.mpr ⟨transfer, htransfer⟩
  | overtake => exact .of_not_running (Bool.and_false _)
  | submit transfer hstopped =>
      refine .of_not_running (isRunning_of_stopped ?_)
      dsimp only
      rw [Option.any_map]
      exact hstopped
  | allocate => exact .of_not_running rfl
  | release => exact .of_not_running rfl
  | vacate _ hafter => exact .of_not_running (isRunning_of_vacant hafter)

theorem Move.started (hmove : Move astray before after) (hstarted : before.Started) :
    after.Started := by
  cases hmove with
  | kill | halt | mask | overtake => exact fun henabled => absurd henabled Bool.false_ne_true
  | note =>
      rcases noted_cases before with ⟨-, hnoted⟩ | ⟨-, hsame⟩
      · rw [hnoted]
        exact hstarted
      · exact hsame.symm ▸ hstarted
  | rest | submit | spare | allocate | release => exact hstarted
  | launch hlaunch => exact fun _ => ⟨_, _, _, hlaunch⟩
  | vacate _ _ hcommand henabled => exact fun hafter => hcommand ▸ hstarted (henabled hafter)

/-- An event is led astray only where something may do so. -/
theorem Move.isStray (hmove : Move astray before after) (hheard : before.Heard)
    (hstray : after.IsStray) : before.IsStray ∨ astray := by
  obtain ⟨henabled, hstopped⟩ := hstray
  cases hmove with
  | kill | halt | mask | overtake => exact absurd henabled Bool.false_ne_true
  | note =>
      rcases noted_cases before with ⟨haborted, hnoted⟩ | ⟨-, hsame⟩
      · rw [hnoted] at henabled
        exact .inl ⟨henabled, by rw [isRunning, haborted, Bool.not_true, Bool.and_false]⟩
      · exact .inl ⟨hsame ▸ henabled, hsame ▸ hstopped⟩
  | rest hnone =>
      refine .inl ⟨henabled, Bool.eq_false_iff.mpr fun hrunning => ?_⟩
      obtain ⟨-, hsome, -⟩ := hheard hrunning
      rw [hnone] at hsome
      cases hsome
  | launch hlaunch hsome hsound =>
      -- the channel was started, so it does not run only if it was aborted
      refine .inr (hsound ?_)
      obtain ⟨request, _, hrequest, -⟩ := exists_request hsome
      rw [isRunning, Standing.launched, hrequest] at hstopped
      simpa using hstopped
  | submit transfer hbefore => exact .inl ⟨henabled, isRunning_of_stopped hbefore⟩
  | spare hastray => exact .inr hastray
  | allocate hfree => exact .inl ⟨henabled, isRunning_of_vacant hfree⟩
  | release hbefore => exact .inl ⟨henabled, hbefore⟩
  | vacate hbefore _ _ hkept => exact .inl ⟨hkept henabled, isRunning_of_vacant hbefore⟩

theorem Moves.mono {wider : Prop} (hmoves : Moves astray before after)
    (hwider : astray → wider) : Moves wider before after := by
  refine Relation.ReflTransGen.mono (fun before after hmove => ?_) _ _ hmoves
  cases hmove with
  | launch hlaunch hsome hsound =>
      exact .launch hlaunch hsome fun haborted => hwider (hsound haborted)
  | spare hastray => exact .spare (hwider hastray)
  | kill => exact .kill before
  | note => exact .note before
  | halt => exact .halt before
  | mask => exact .mask before
  | rest hnone => exact .rest hnone
  | overtake => exact .overtake before
  | submit transfer hstopped => exact .submit transfer hstopped
  | allocate hfree => exact .allocate hfree
  | release hstopped => exact .release hstopped
  | vacate hbefore hafter hcommand henabled => exact .vacate hbefore hafter hcommand henabled

theorem Moves.heard (hmoves : Moves astray before after) (hheard : before.Heard) : after.Heard := by
  induction hmoves with
  | refl => exact hheard
  | tail _ hmove ih => exact hmove.heard ih

theorem Moves.started (hmoves : Moves astray before after) (hstarted : before.Started) :
    after.Started := by
  induction hmoves with
  | refl => exact hstarted
  | tail _ hmove ih => exact hmove.started ih

theorem Moves.isStray (hmoves : Moves astray before after) (hheard : before.Heard)
    (hstray : after.IsStray) : before.IsStray ∨ astray := by
  induction hmoves with
  | refl => exact .inl hstray
  | tail hearlier hmove ih =>
      rcases hmove.isStray (Moves.heard hearlier hheard) hstray with hmiddle | hastray
      · exact ih hmiddle
      · exact .inr hastray

end CyclicDma.Standing
