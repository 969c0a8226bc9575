import CyclicDma.Proofs.Board.Holding
import CyclicDma.Proofs.Board.Reachable
import CyclicDma.Proofs.Driver.Tally

/-! # References to owners

Owners have registrations at several controllers. At every moment, also in the
middle of a delivery, an owner has as many references as there are registrations
that name it, so no reference is given up that is not there.
-/

namespace CyclicDma

/-- How the registrations of an owner are removed at a controller. -/
structure Driver.RemovesOwner (owner : Nat) (driver : Driver) : Prop where
  answer : (driver.removeOwner owner).1 = driver.controller.countOwner owner
  /-- The registrations that do not name the owner stay, in order. -/
  kept : (driver.removeOwner owner).2.controller.notifications.map (·.registrations) =
    driver.controller.notifications.map (·.registrations.filter (·.owner ≠ some owner))
  enough : ∀ count, driver.references[owner]? = some count →
    driver.controller.countOwner owner ≤ count
  lowered : (driver.removeOwner owner).2.references[owner]? =
    driver.references[owner]?.map (· - driver.controller.countOwner owner)
  others : ∀ other, other ≠ owner →
    (driver.removeOwner owner).2.references[other]? = driver.references[other]?

namespace Board

variable {board before after : Board} {controller : Controller} {driver : Driver} {handle : Handle}
variable {index name : Nat} {gained released : List Nat}

/-- The registrations at all controllers that name an owner. -/
def countOwner (owner : Nat) (board : Board) : Nat :=
  (board.controllers.map (·.countOwner owner)).sum

/-- Owners have as many references as registrations name them. -/
def Counted (board : Board) : Prop :=
  ∀ owner count, board.references[owner]? = some count → count = board.countOwner owner

/-- What the driver of a controller does, with the owners that it takes references
for and those that it gives references up for, and what clients do in between. -/
inductive Tally : (gained released : List Nat) → Board → Board → Prop
  | driver {gained released : List Nat} {board : Board} {index : Nat}
      {controller : Controller} {driver : Driver}
      (hfound : board.controllers[index]? = some controller)
      (htally : Driver.Tally gained released ⟨controller, board.references⟩ driver) :
      Tally gained released board (board.withDriver index driver)
  | hold {before after : Board} (hcontrollers : after.controllers = before.controllers)
      (hreferences : after.references = before.references) : Tally [] [] before after

/-- Any number of tallies. -/
abbrev Tallies : Board → Board → Prop :=
  Relation.ReflTransGen fun before after => ∃ gained released, Tally gained released before after

/-- Registrations and ids that are refused change nothing but futures. -/
structure Refuses (board : Board) : Prop where
  full : ∀ name handle controller callback context owner, board.handle? name = some handle →
    board.controllers[handle.controller]? = some controller →
    (controller.notificationsOf handle.channel).registrations.length =
      Notifications.maxRegistrations →
    board.perform (.channel name (.register callback context owner)) =
      (.error (.failed .resourceExhausted), board.dropFutures handle)
  unknown : ∀ name handle controller number, board.handle? name = some handle →
    board.controllers[handle.controller]? = some controller →
    (∀ registration ∈ (controller.notificationsOf handle.channel).registrations,
      registration.id.toNat ≠ number) →
    ∃ refusal, board.perform (.channel name (.unregister number)) =
      (.error refusal, board.dropFutures handle)

/-! ## Tallies keep counts exact -/

theorem countOwner_withDriver (hfound : board.controllers[index]? = some controller)
    (driver : Driver) (owner : Nat) :
    (board.withDriver index driver).countOwner owner + controller.countOwner owner =
      board.countOwner owner + driver.controller.countOwner owner := by
  have hcount : (board.controllers.map (·.countOwner owner))[index]? =
      some (controller.countOwner owner) := by
    rw [List.getElem?_map, hfound]
    rfl
  rw [countOwner, countOwner, ← Controller.sum_set hcount]
  exact congrArg (List.sum · + controller.countOwner owner) List.map_set

theorem Tally.count (htally : Tally gained released before after) (owner : Nat) :
    after.countOwner owner + released.count owner =
      before.countOwner owner + gained.count owner := by
  cases htally with
  | @driver _ _ _ _ _ driver hfound htally =>
      have hboard := countOwner_withDriver hfound driver owner
      have hdriver := htally.count owner
      dsimp only at hdriver
      omega
  | hold hcontrollers => rw [countOwner, countOwner, hcontrollers]

theorem Tally.references (htally : Tally gained released before after) (owner : Nat) :
    after.references[owner]? =
      before.references[owner]?.map (· + gained.count owner - released.count owner) := by
  cases htally with
  | driver hfound htally => exact htally.references owner
  | hold _ hreferences =>
      rw [hreferences]
      exact Option.map_id'.symm

/-- References are not taken and given up at once. -/
theorem Tally.one_sided (htally : Tally gained released before after) :
    gained = [] ∨ released = [] := by
  cases htally with
  | driver _ htally =>
      cases htally with
      | keep | unregister | removeOwner | clear => exact .inl rfl
      | register => exact .inr rfl
  | hold => exact .inl rfl

theorem Counted.tally (hcounted : before.Counted) (htally : Tally gained released before after) :
    after.Counted := by
  intro owner count hafter
  rw [htally.references] at hafter
  obtain ⟨former, hbefore, rfl⟩ := Option.map_eq_some_iff.mp hafter
  have hcount := htally.count owner
  have hexact := hcounted owner former hbefore
  omega

/-- No reference is given up that is not there. -/
theorem Counted.covers (hcounted : before.Counted) (htally : Tally gained released before after) :
    before.references.Covers released := by
  refine References.covers_of_count_le fun owner count hbefore => ?_
  have hcount := htally.count owner
  have hexact := hcounted owner count hbefore
  rcases htally.one_sided with rfl | rfl
  · rw [List.count_nil] at hcount
    omega
  · exact Nat.zero_le _

theorem Counted.tallies (hcounted : before.Counted) (htallies : Tallies before after) :
    after.Counted := by
  induction htallies with
  | refl => exact hcounted
  | tail _ hlast ih =>
      obtain ⟨gained, released, htally⟩ := hlast
      exact ih.tally htally

theorem Counted.removesOwner (hcounted : board.Counted)
    (hfound : board.controllers[index]? = some controller) (owner : Nat) :
    Driver.RemovesOwner owner ⟨controller, board.references⟩ := by
  have hremoved := Driver.Tally.removeOwner owner ⟨controller, board.references⟩
  refine ⟨Controller.foldl_countOwner owner controller, ?_, fun count hcount => ?_, ?_,
    fun other hne => ?_⟩
  · exact List.map_map
  · have hbefore := (Tally.driver hfound hremoved).count owner
    rw [List.count_replicate_self, List.count_nil] at hbefore
    rw [hcounted owner count hcount]
    dsimp only at hbefore ⊢
    omega
  · rw [hremoved.references, List.count_replicate_self]
    rfl
  · rw [hremoved.references, List.count_replicate, if_neg (by simpa using Ne.symm hne)]
    exact Option.map_id'

/-! ## Operations are tallies -/

/-- How many channels the driver of a controller manages. -/
def managedAt (index : Nat) (board : Board) : Nat :=
  (board.controllers.map (·.managed)).getD index 0

theorem managedAt_eq (hfound : board.controllers[index]? = some controller) :
    board.managedAt index = controller.managed := by
  rw [managedAt, List.getD_eq_getElem?_getD, List.getElem?_map, hfound]
  rfl

/-- What a driver does to its controller and the references, it does on the
board. -/
theorem tallies_withDriver (hfound : board.controllers[index]? = some controller)
    (htallies : Driver.Tallies ⟨controller, board.references⟩ driver) :
    Tallies board (board.withDriver index driver) := by
  induction htallies with
  | refl => rw [withDriver_self hfound]
  | @tail middle driver _ hlast ih =>
      obtain ⟨gained, released, htally⟩ := hlast
      have hnext : Tally gained released (board.withDriver index middle)
          ((board.withDriver index middle).withDriver index driver) :=
        .driver (found_withDriver hfound middle) htally
      rw [withDriver_withDriver] at hnext
      exact ih.tail ⟨gained, released, hnext⟩

/-- Whatever drivers do is a sequence of tallies, as long as callbacks are
registered for managed channels only. -/
theorem Moves.tallies {allowed : Disturbance → Prop}
    (hmoves : Moves allowed (fun index channel => channel < before.managedAt index) before after) :
    Tallies before after := by
  have hkept := Works.keep (fun board => Tallies before board ∧
      board.controllers.map (·.managed) = before.controllers.map (·.managed))
    hmoves ?_ ?_ ⟨.refl, rfl⟩
  · exact hkept.1
  · intro board index controller driver hfound hdriver ⟨htallies, hmanaged⟩
    have hchannels : controller.managed = before.managedAt index := by
      rw [← managedAt_eq hfound, managedAt, managedAt, hmanaged]
    have hsame : driver.controller.managed = controller.managed :=
      Controller.Steps.managed hdriver.steps
    exact ⟨htallies.trans (tallies_withDriver hfound (hdriver.tallies hchannels)),
      (map_managed_withDriver hfound hsame).trans hmanaged⟩
  · intro middle after hcontrollers hreferences _ ⟨htallies, hmanaged⟩
    exact ⟨htallies.tail ⟨[], [], .hold hcontrollers hreferences⟩, hcontrollers ▸ hmanaged⟩

/-- The channels that clients hold are managed. -/
theorem Reachable.held_lt_managedAt (hboard : board.Reachable) {operation : Operation} :
    ∀ name request, operation = .channel name request →
      ∀ handle ∈ board.handle? name, handle.channel < board.managedAt handle.controller := by
  intro name request _ handle hhandle
  obtain ⟨controller, _, _, hfound, -, -, hmanaged⟩ := hboard.usable (handle?_eq_some hhandle).1
  exact managedAt_eq hfound ▸ hmanaged

theorem Reachable.tallies_perform (hboard : board.Reachable) (operation : Operation) :
    Tallies board (board.perform operation).2 :=
  (moves_perform hboard.held_lt_managedAt operation.causes_anything).tallies

theorem tallies_deliver (index depth : Nat) (board : Board) :
    Tallies board
      ((onDriver index fun driver => ((), driver.dispatchNested depth)).run.run board).2 := by
  have huses : Uses (fun _ => True) (fun index channel => channel < board.managedAt index) board
      ((onDriver index fun driver => ((), driver.dispatchNested depth)).run.run board).2 :=
    uses_deliver index depth board
  exact huses.moves.tallies

/-- References are exact at all times. -/
theorem Reachable.counted (hboard : board.Reachable) : board.Counted := by
  induction hboard with
  | new hnew =>
      intro owner count hcount
      have hclosed := new_of_new? hnew
      obtain ⟨controllers, -, rfl⟩ := Option.map_eq_some_iff.mp hnew
      have hzero : count = 0 := (List.mem_replicate.mp (List.mem_of_getElem? hcount)).2
      rw [hzero, countOwner, eq_comm]
      refine List.sum_eq_zero fun number hmem => ?_
      obtain ⟨controller, hcontroller, rfl⟩ := List.mem_map.mp hmem
      obtain ⟨managed, hfresh⟩ := hclosed controller hcontroller
      unfold Controller.new? at hfresh
      split at hfresh <;> cases hfresh
      rw [Controller.countOwner, List.map_replicate]
      exact List.sum_eq_zero fun number hmem => (List.mem_replicate.mp hmem).2
  | perform operation hboard ih => exact ih.tallies (hboard.tallies_perform operation)
  | deliver index depth _ ih => exact ih.tallies (tallies_deliver index depth _)

/-! ## Refusals -/

theorem refuses (board : Board) : board.Refuses := by
  refine ⟨?_, ?_⟩
  · intro name handle controller callback context owner hhandle hfound hfull
    have hregister : (controller.notificationsOf handle.channel).register callback context owner =
        .error .resourceExhausted :=
      if_neg (hfull ▸ Nat.lt_irrefl _)
    have hdropped : (board.dropFutures handle).controllers[handle.controller]? = some controller :=
      hfound
    have hattempt := run_attempt hdropped (Driver.register handle.channel callback context owner)
    rw [Driver.perform_register_of_error hregister] at hattempt
    dsimp only at hattempt
    rw [withDriver_self hdropped] at hattempt
    rw [perform_channel hhandle]
    exact run_bind_of_error ((run_bind_of_ok rfl _).trans hattempt) _
  · intro name handle controller number hhandle hfound hunknown
    rw [perform_channel hhandle]
    cases hid : board.ids.find? (·.toNat = number) with
    | none =>
        have hmissing : (existing ((board.dropFutures handle).ids.find? (·.toNat = number))).run.run
            (board.dropFutures handle) = (.error .unknown, board.dropFutures handle) := by
          rw [show (board.dropFutures handle).ids = board.ids from rfl, hid]
          rfl
        exact ⟨.unknown, (run_bind_of_ok rfl _).trans
          ((run_bind_of_ok rfl _).trans (run_bind_of_error hmissing _))⟩
    | some id =>
        have hexisting : (existing ((board.dropFutures handle).ids.find? (·.toNat = number))).run.run
            (board.dropFutures handle) = (.ok id, board.dropFutures handle) := by
          rw [show (board.dropFutures handle).ids = board.ids from rfl, hid]
          rfl
        have hnumber : id.toNat = number := by simpa using List.find?_some hid
        have hunregister : (controller.notificationsOf handle.channel).unregister id =
            .error .notRegistered := by
          have hnone : (controller.notificationsOf handle.channel).registrations.find?
              (·.id = id) = none := by
            refine List.find?_eq_none.mpr fun registration hmem hsame => ?_
            have hid : registration.id = id := by simpa using hsame
            exact hunknown registration hmem (hid ▸ hnumber)
          rw [Notifications.unregister, hnone]
        have hdropped : (board.dropFutures handle).controllers[handle.controller]? =
            some controller := hfound
        have hattempt := run_attempt hdropped (Driver.unregister handle.channel id)
        rw [Driver.perform_unregister_of_error hunregister] at hattempt
        dsimp only at hattempt
        rw [withDriver_self hdropped] at hattempt
        exact ⟨_, (run_bind_of_ok rfl _).trans ((run_bind_of_ok rfl _).trans
          ((run_bind_of_ok hexisting _).trans (run_bind_of_error hattempt _)))⟩

/-! ## Exact references -/

/-- In a reachable board, and at each moment while something is done with it,
owners have as many references as registrations name them, and no reference is
given up that is not there. Removing an owner at a controller removes the
registrations that name it there, and as many references. Refused registrations
and unknown ids change no count. -/
theorem references_exact (hboard : board.Reachable) :
    (∀ operation, Tallies board (board.perform operation).2) ∧
      (∀ index depth, Tallies board
        ((onDriver index fun driver => ((), driver.dispatchNested depth)).run.run board).2) ∧
      (∀ moment, Tallies board moment → moment.Counted ∧
        (∀ gained released next, Tally gained released moment next →
          moment.references.Covers released) ∧
        ∀ index controller owner, moment.controllers[index]? = some controller →
          Driver.RemovesOwner owner ⟨controller, moment.references⟩ ∧
          moment.perform (.controller index (.removeOwner owner)) =
            (.ok (.count (controller.countOwner owner)),
              moment.withDriver index
                (Driver.removeOwner owner ⟨controller, moment.references⟩).2)) ∧
      board.Refuses := by
  refine ⟨hboard.tallies_perform, fun index depth => tallies_deliver index depth board,
    fun moment hmoment => ?_, refuses board⟩
  have hcounted := hboard.counted.tallies hmoment
  refine ⟨hcounted, fun gained released next htally => hcounted.covers htally,
    fun index controller owner hfound => ⟨hcounted.removesOwner hfound owner, ?_⟩⟩
  rw [← (hcounted.removesOwner hfound owner).answer]
  exact run_bind_of_ok (run_onDriver hfound (Driver.removeOwner owner)) _

/-- Two controllers that share two owners. -/
def sharedBoard : Board :=
  { smallBoard with
    controllers := smallBoard.controllers ++ smallBoard.controllers
    references := [0, 0] }

/-- One owner has registrations at both controllers. -/
def sharingOperations : List Operation :=
  [.controller 0 (.init (.fresh (List.replicate 256 0)) 0x1000 (Config.withBurst 1 4 {})),
    .controller 1 (.init (.fresh (List.replicate 256 0)) 0x2000 (Config.withBurst 1 4 {})),
    .controller 0 (.allocate 7 none), .controller 1 (.allocate 8 none),
    .channel 7 (.register ⟨1, []⟩ 0 (some 0)), .channel 8 (.register ⟨2, []⟩ 0 (some 0)),
    .channel 7 (.register ⟨3, []⟩ 0 (some 1)), .channel 7 (.register ⟨4, []⟩ 0 (some 0))]

theorem references_exact_sharing :
    (sharedBoard.performAll sharingOperations).countOwner 0 = 3 ∧
      ((sharedBoard.performAll sharingOperations).perform (.controller 0 (.removeOwner 0))).1 =
        .ok (.count 2) ∧
      ((sharedBoard.performAll sharingOperations).perform
        (.controller 0 (.removeOwner 0))).2.references[0]? = some 1 := by
  have hnew : new? [1, 1] 2 = some sharedBoard := rfl
  have hreferences : (sharedBoard.performAll sharingOperations).references = [3, 1] := by
    decide +kernel
  have hcounts : (sharedBoard.performAll sharingOperations).controllers.map (·.countOwner 0) =
      [2, 1] := by
    decide +kernel
  obtain ⟨-, -, hmoments, -⟩ := references_exact ((Reachable.new hnew).performAll sharingOperations)
  obtain ⟨hcounted, -, hremoves⟩ := hmoments _ .refl
  obtain ⟨controller, rest, hcontrollers, hcount, -⟩ := List.map_eq_cons_iff.mp hcounts
  have hfound : (sharedBoard.performAll sharingOperations).controllers[0]? = some controller := by
    rw [hcontrollers]
    rfl
  obtain ⟨hremoved, hperform⟩ := hremoves 0 controller 0 hfound
  refine ⟨(hcounted 0 3 (by rw [hreferences]; rfl)).symm, ?_, ?_⟩
  · rw [hperform, hcount]
  · rw [hperform]
    refine hremoved.lowered.trans ?_
    dsimp only
    rw [hreferences, hcount]
    rfl

end Board

end CyclicDma
