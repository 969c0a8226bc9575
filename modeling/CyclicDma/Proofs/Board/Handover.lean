import CyclicDma.Proofs.Board.Work

/-! # Handovers

Initializing a controller hands a region to it, allocating a channel hands a slab
to a client, and both are handed back later. Every other operation leaves alone who
holds what.
-/

namespace CyclicDma.Board

/-- A region is taken for an initialization. -/
inductive Takes (board : Board) : Region → Board → Prop
  | fresh (bytes) :
      Takes board ⟨board.regions, bytes⟩ { board with regions := board.regions + 1 }
  | returned {number region} (hspare : board.spare.find? (·.number = number) = some region) :
      Takes board region { board with spare := board.spare.filter (·.number ≠ number) }

/-- What becomes of an initialization, and of the board. -/
inductive Opening (index : Nat) (source : RegionSource) (busAddress : UInt32) (config : Config)
    (board : Board) : Except Refusal Answer × Board → Prop
  /-- The region is not there. -/
  | missing : Opening index source busAddress config board (.error .unknown, board)
  /-- The controller is not there, and the region is not handed back. -/
  | waste {region taken} (htaken : (takeRegion source).run.run board = (.ok region, taken))
      (hmissing : board.controllers[index]? = none) :
      Opening index source busAddress config board (.error .unknown, taken)
  | lose {region taken controller error} {logged : Driver}
      (htaken : (takeRegion source).run.run board = (.ok region, taken))
      (hfound : board.controllers[index]? = some controller)
      (hlogs : Driver.Logs ⟨controller, board.references⟩ logged) :
      Opening index source busAddress config board
        (.error (.failed error),
          { taken.withDriver index logged with lost := taken.lost ++ [region] })
  | init {region taken controller}
      (htaken : (takeRegion source).run.run board = (.ok region, taken))
      (hfound : board.controllers[index]? = some controller) (hclosed : controller.setup = none) :
      Opening index source busAddress config board
        (.ok (.device (some (Device.ofRegisters controller.registers))),
          taken.withDriver index
            (Driver.opened region busAddress config ⟨controller, board.references⟩))

/-- A slab or a region changes hands, or the operation is refused. -/
inductive Handover : Board → Board → Prop
  /-- The futures of a channel may have been taken away before. -/
  | refuse {board : Board} {futures} (hfewer : futures ⊆ board.futures) :
      Handover board { board with futures }
  | allocate {board : Board} {index controller setup channel} (name)
      (hfound : board.controllers[index]? = some controller)
      (hsetup : controller.setup = some setup) (hfree : setup.requests[channel]? = some none) :
      Handover board
        ((board.withDriver index ⟨controller.setRequest channel (some {}), board.references⟩).addHandle
          ⟨name, index, channel⟩)
  | release {board : Board} {controller name handle} (hhandle : board.handle? name = some handle)
      (hfound : board.controllers[handle.controller]? = some controller)
      (hstopped : controller.isRunning handle.channel = false) :
      Handover board
        { (board.dropFutures handle).withDriver handle.controller
            (Driver.released handle.channel ⟨controller, board.references⟩) with
          handles := board.handles.filter (·.name ≠ name) }
  | deinit {board : Board} {index controller setup}
      (hfound : board.controllers[index]? = some controller)
      (hsetup : controller.setup = some setup) (hfree : setup.requests.any (·.isSome) = false) :
      Handover board
        { board.withDriver index (Driver.closed setup ⟨controller, board.references⟩) with
          spare := board.spare ++ [setup.region] }
  | abandon {board : Board} {name handle} (hhandle : board.handle? name = some handle) :
      Handover board (board.letGo handle)

/-! ## Managing operations in full -/

variable {board : Board} {controller : Controller} {setup : Setup} {handle : Handle}
variable {index name : Nat} {α : Type}

theorem takes_of_takeRegion {source : RegionSource} {region : Region} {taken : Board}
    (htaken : (takeRegion source).run.run board = (.ok region, taken)) :
    board.Takes region taken := by
  obtain ⟨_, _, hget, hrest⟩ := run_bind_eq_ok htaken
  cases hget
  cases source with
  | fresh bytes =>
      cases hrest
      exact .fresh bytes
  | returned number =>
      obtain ⟨found, _, hexisting, hrest⟩ := run_bind_eq_ok hrest
      obtain ⟨hspare, rfl⟩ := existing_eq_ok hexisting
      cases hrest
      exact .returned hspare

theorem takeRegion_returned {number : Nat} {region : Region}
    (hspare : board.spare.find? (·.number = number) = some region) :
    (takeRegion (.returned number)).run.run board =
      (.ok region, { board with spare := board.spare.filter (·.number ≠ number) }) := by
  have hexisting : (existing (board.spare.find? (·.number = number))).run.run board =
      (.ok region, board) := by
    rw [hspare]
    rfl
  exact (run_bind_of_ok rfl _).trans (run_bind_of_ok hexisting _)

theorem takeRegion_missing {number : Nat}
    (hspare : board.spare.find? (·.number = number) = none) :
    (takeRegion (.returned number)).run.run board = (.error .unknown, board) := by
  have hmissing : (existing (board.spare.find? (·.number = number))).run.run board =
      (.error .unknown, board) := by
    rw [hspare]
    rfl
  exact (run_bind_of_ok rfl _).trans (run_bind_of_error hmissing _)

/-- A region is taken, or it is not there. -/
theorem takeRegion_cases (source : RegionSource) (board : Board) :
    (takeRegion source).run.run board = (.error .unknown, board) ∨
      ∃ region taken, (takeRegion source).run.run board = (.ok region, taken) := by
  cases source with
  | fresh bytes => exact .inr ⟨_, _, rfl⟩
  | returned number =>
      cases hspare : board.spare.find? (·.number = number) with
      | none => exact .inl (takeRegion_missing hspare)
      | some region => exact .inr ⟨_, _, takeRegion_returned hspare⟩

theorem run_attempt (hfound : board.controllers[index]? = some controller)
    (action : Attempt Driver α) :
    (attempt index action).run.run board =
      match action.perform ⟨controller, board.references⟩ with
      | (.error error, driver) => (.error (.failed error), board.withDriver index driver)
      | (.ok value, driver) => (.ok value, board.withDriver index driver) := by
  refine (run_bind_of_ok (run_onDriver hfound action.run) _).trans ?_
  change (succeed (action.perform ⟨controller, board.references⟩).1).run.run
    (board.withDriver index (action.perform ⟨controller, board.references⟩).2) = _
  rcases action.perform ⟨controller, board.references⟩ with ⟨error | value, driver⟩
  · rfl
  · rfl

theorem run_attempt_of_none (hmissing : board.controllers[index]? = none)
    (action : Attempt Driver α) :
    (attempt index action).run.run board = (.error .unknown, board) :=
  run_bind_of_error (run_onDriver_of_none hmissing action.run) _

/-- An operation on a channel is performed for whoever holds it by the name. -/
theorem perform_channel (hhandle : board.handle? name = some handle)
    (operation : ChannelOperation) :
    board.perform (.channel name operation) = (stepChannel handle operation).run.run board := by
  have hexisting : (existing (board.handle? name)).run.run board = (.ok handle, board) := by
    rw [hhandle]
    rfl
  exact (run_bind_of_ok rfl _).trans (run_bind_of_ok hexisting _)

theorem perform_channel_of_none (hhandle : board.handle? name = none)
    (operation : ChannelOperation) :
    board.perform (.channel name operation) = (.error .unknown, board) := by
  have hmissing : (existing (board.handle? name)).run.run board = (.error .unknown, board) := by
    rw [hhandle]
    rfl
  exact (run_bind_of_ok rfl _).trans (run_bind_of_error hmissing _)

/-- A channel is driven by its controller, once its futures are taken away. -/
theorem run_drive (hfound : board.controllers[handle.controller]? = some controller)
    (action : World → Attempt Controller Unit) (world : World) :
    (do
      let world ← during handle.controller world
      exclusively handle (Driver.onController (action world))
      return .done : Step Answer).run.run board =
      match (action (world.delayed controller.clock)).perform controller with
      | (.error error, later) =>
          (.error (.failed error),
            (board.dropFutures handle).withDriver handle.controller ⟨later, board.references⟩)
      | (.ok _, later) =>
          (.ok .done,
            (board.dropFutures handle).withDriver handle.controller ⟨later, board.references⟩) := by
  have hduring : (during handle.controller world).run.run board =
      (.ok (world.delayed controller.clock), board) := run_bind_of_ok (run_view hfound _) _
  have hdropped : (board.dropFutures handle).controllers[handle.controller]? = some controller :=
    hfound
  have hattempt := run_attempt hdropped
    (Driver.onController (action (world.delayed controller.clock)))
  rw [Driver.perform_onController] at hattempt
  refine (run_bind_of_ok hduring _).trans ?_
  cases hdriven : (action (world.delayed controller.clock)).perform controller with
  | mk result later =>
      dsimp only at hattempt
      rw [hdriven] at hattempt
      cases result with
      | error error => exact run_bind_of_error ((run_bind_of_ok rfl _).trans hattempt) _
      | ok value => exact run_bind_of_ok ((run_bind_of_ok rfl _).trans hattempt) _

/-- What comes of driving a channel is decided at its controller. -/
theorem drive_cases {world : World} {outcome : Except Refusal Answer} {after : Board}
    (hfound : board.controllers[handle.controller]? = some controller)
    (action : World → Attempt Controller Unit)
    (hperform : (do
      let world ← during handle.controller world
      exclusively handle (Driver.onController (action world))
      return .done : Step Answer).run.run board = (outcome, after)) :
    ∃ result later, (action (world.delayed controller.clock)).perform controller = (result, later) ∧
      after.controllers[handle.controller]? = some later ∧
      outcome = (result.map fun _ => .done).mapError .failed := by
  rw [run_drive hfound] at hperform
  cases hdriven : (action (world.delayed controller.clock)).perform controller with
  | mk result later =>
      rw [hdriven] at hperform
      cases result with
      | error error =>
          cases hperform
          exact ⟨_, later, rfl, found_withDriver hfound ⟨later, board.references⟩, rfl⟩
      | ok value =>
          cases hperform
          exact ⟨_, later, rfl, found_withDriver hfound ⟨later, board.references⟩, rfl⟩

theorem perform_stop (hhandle : board.handle? name = some handle)
    (hfound : board.controllers[handle.controller]? = some controller) (world : World) :
    board.perform (.channel name (.stop world)) =
      match (Controller.stop (world.delayed controller.clock) handle.channel).perform controller with
      | (.error error, later) =>
          (.error (.failed error),
            (board.dropFutures handle).withDriver handle.controller ⟨later, board.references⟩)
      | (.ok _, later) =>
          (.ok .done,
            (board.dropFutures handle).withDriver handle.controller ⟨later, board.references⟩) :=
  (perform_channel hhandle _).trans
    (run_drive hfound (fun world => Controller.stop world handle.channel) world)

/-- A channel is allocated to the client that asks for it. -/
theorem perform_allocate (hfound : board.controllers[index]? = some controller)
    (hsetup : controller.setup = some setup) (name : Nat) (channel? : Option Nat) :
    board.perform (.controller index (.allocate name channel?)) =
      match Driver.chooseChannel channel? setup with
      | .error error => (.error (.failed error), board)
      | .ok channel =>
          (.ok (.channel channel),
            (board.withDriver index
              ⟨controller.setRequest channel (some {}), board.references⟩).addHandle
                ⟨name, index, channel⟩) := by
  have hattempt := run_attempt hfound (Driver.allocate channel?)
  rw [Driver.perform_allocate hsetup] at hattempt
  cases hchosen : Driver.chooseChannel channel? setup with
  | error error =>
      rw [hchosen] at hattempt
      dsimp only at hattempt
      rw [withDriver_self hfound] at hattempt
      exact run_bind_of_error hattempt _
  | ok channel =>
      rw [hchosen] at hattempt
      exact run_bind_of_ok hattempt _

/-- A channel is not given back to another controller. -/
theorem perform_release_of_ne (hhandle : board.handle? name = some handle)
    (hforeign : handle.controller ≠ index) :
    board.perform (.controller index (.release name)) =
      (.error (.failed .invalidHandle), board.dropFutures handle) := by
  have hexisting : (existing (board.handle? name)).run.run board = (.ok handle, board) := by
    rw [hhandle]
    rfl
  refine (run_bind_of_ok rfl _).trans ((run_bind_of_ok hexisting _).trans ?_)
  refine (run_bind_of_ok rfl _).trans ?_
  dsimp only
  rw [if_pos hforeign]
  rfl

/-- A channel is given back to the controller that it came from by an attempt of
the controller's driver. -/
theorem perform_release_self (hhandle : board.handle? name = some handle) :
    board.perform (.controller handle.controller (.release name)) =
      ((attempt handle.controller (Driver.release handle.channel) >>= fun _ => do
        modify fun board => { board with handles := board.handles.filter (·.name ≠ name) }
        return .done : Step Answer).run.run (board.dropFutures handle)) := by
  have hexisting : (existing (board.handle? name)).run.run board = (.ok handle, board) := by
    rw [hhandle]
    rfl
  refine (run_bind_of_ok rfl _).trans ((run_bind_of_ok hexisting _).trans ?_)
  refine (run_bind_of_ok rfl _).trans ?_
  dsimp only
  rw [if_neg (fun hforeign => hforeign rfl)]

/-- A running channel is not taken back. -/
theorem perform_release_of_running (hhandle : board.handle? name = some handle)
    (hfound : board.controllers[handle.controller]? = some controller)
    (hrunning : controller.isRunning handle.channel = true) :
    board.perform (.controller handle.controller (.release name)) =
      (.error (.failed .busy), board.dropFutures handle) := by
  have hdropped : (board.dropFutures handle).controllers[handle.controller]? = some controller :=
    hfound
  have hattempt := run_attempt hdropped (Driver.release handle.channel)
  rw [Driver.perform_release, if_pos hrunning] at hattempt
  dsimp only at hattempt
  rw [withDriver_self hdropped] at hattempt
  rw [perform_release_self hhandle]
  exact run_bind_of_error hattempt _

theorem perform_release (hhandle : board.handle? name = some handle)
    (hfound : board.controllers[handle.controller]? = some controller)
    (hstopped : controller.isRunning handle.channel = false) :
    board.perform (.controller handle.controller (.release name)) =
      (.ok .done,
        { (board.dropFutures handle).withDriver handle.controller
            (Driver.released handle.channel ⟨controller, board.references⟩) with
          handles := board.handles.filter (·.name ≠ name) }) := by
  have hdropped : (board.dropFutures handle).controllers[handle.controller]? = some controller :=
    hfound
  have hattempt := run_attempt hdropped (Driver.release handle.channel)
  rw [Driver.perform_release, if_neg (by simp [hstopped])] at hattempt
  rw [perform_release_self hhandle]
  exact run_bind_of_ok hattempt _

/-- The region is handed back once all channels are free. -/
theorem perform_deinit (hfound : board.controllers[index]? = some controller)
    (hsetup : controller.setup = some setup) :
    board.perform (.controller index .deinit) =
      if setup.requests.any (·.isSome) then (.error (.failed .busy), board)
      else
        (.ok (.region setup.region.number setup.region.bytes.length),
          { board.withDriver index (Driver.closed setup ⟨controller, board.references⟩) with
            spare := board.spare ++ [setup.region] }) := by
  have hattempt := run_attempt hfound Driver.deinit
  rw [Driver.perform_deinit hsetup] at hattempt
  split
  next hbusy =>
    rw [if_pos hbusy] at hattempt
    dsimp only at hattempt
    rw [withDriver_self hfound] at hattempt
    exact run_bind_of_error hattempt _
  next hfree =>
    rw [if_neg hfree] at hattempt
    exact run_bind_of_ok hattempt _

/-- Without a region there is nothing to allocate or hand back. -/
theorem perform_allocate_of_none (hfound : board.controllers[index]? = some controller)
    (hsetup : controller.setup = none) (name : Nat) (channel? : Option Nat) :
    board.perform (.controller index (.allocate name channel?)) =
      (.error (.failed .notInitialized), board) := by
  have hattempt := run_attempt hfound (Driver.allocate channel?)
  rw [Driver.perform_allocate_of_none hsetup] at hattempt
  dsimp only at hattempt
  rw [withDriver_self hfound] at hattempt
  exact run_bind_of_error hattempt _

theorem perform_deinit_of_none (hfound : board.controllers[index]? = some controller)
    (hsetup : controller.setup = none) :
    board.perform (.controller index .deinit) = (.error (.failed .notInitialized), board) := by
  have hattempt := run_attempt hfound Driver.deinit
  rw [Driver.perform_deinit_of_none hsetup] at hattempt
  dsimp only at hattempt
  rw [withDriver_self hfound] at hattempt
  exact run_bind_of_error hattempt _

theorem Takes.frame {taken : Board} {region : Region} (htakes : board.Takes region taken) :
    taken.controllers = board.controllers ∧ taken.references = board.references ∧
      taken.handles = board.handles ∧ taken.abandoned = board.abandoned := by
  cases htakes <;> exact ⟨rfl, rfl, rfl, rfl⟩

theorem Takes.found {region : Region} {taken : Board} (htakes : board.Takes region taken)
    (hfound : board.controllers[index]? = some controller) :
    taken.controllers[index]? = some controller :=
  htakes.frame.1 ▸ hfound

theorem Takes.futures {taken : Board} {region : Region} (htakes : board.Takes region taken) :
    taken.futures = board.futures := by
  cases htakes <;> rfl

/-- A controller is initialized with a region once the region is taken. If that fails, the
region is lost. -/
theorem perform_init {source : RegionSource} {region : Region} {taken : Board}
    {busAddress : UInt32} {config : Config}
    (htaken : (takeRegion source).run.run board = (.ok region, taken))
    (hfound : board.controllers[index]? = some controller) :
    board.perform (.controller index (.init source busAddress config)) =
      match (Driver.init region busAddress config).perform ⟨controller, board.references⟩ with
      | (.error error, driver) =>
          (.error (.failed error),
            { taken.withDriver index driver with lost := taken.lost ++ [region] })
      | (.ok device, driver) =>
          (.ok (.device (some device)), taken.withDriver index driver) := by
  have htakes := takes_of_takeRegion htaken
  obtain ⟨-, hreferences, -⟩ := htakes.frame
  have htook := htakes.found hfound
  have hdriver := run_onDriver htook (Driver.init region busAddress config).run
  cases hinit : (Driver.init region busAddress config).perform ⟨controller, board.references⟩ with
  | mk result driver =>
      rw [hreferences, show (Driver.init region busAddress config).run.run
        ⟨controller, board.references⟩ = (result, driver) from hinit] at hdriver
      refine (run_bind_of_ok htaken _).trans ((run_bind_of_ok hdriver _).trans ?_)
      cases result with
      | error error => rfl
      | ok device => rfl

/-- A region that is taken for a controller that is not there is gone. -/
theorem perform_init_of_none {source : RegionSource} {region : Region} {taken : Board}
    (htaken : (takeRegion source).run.run board = (.ok region, taken))
    (hmissing : board.controllers[index]? = none) (busAddress : UInt32) (config : Config) :
    board.perform (.controller index (.init source busAddress config)) =
      (.error .unknown, taken) := by
  have htook : taken.controllers[index]? = none :=
    (takes_of_takeRegion htaken).frame.1 ▸ hmissing
  exact (run_bind_of_ok htaken _).trans (run_bind_of_error (run_onDriver_of_none htook _) _)

/-! ## Every operation that manages is one of these -/

theorem opening_perform (index : Nat) (source : RegionSource) (busAddress : UInt32)
    (config : Config) (board : Board) :
    Opening index source busAddress config board
      (board.perform (.controller index (.init source busAddress config))) := by
  rcases takeRegion_cases source board with hmissing | ⟨region, taken, htaken⟩
  · have hrefused : board.perform (.controller index (.init source busAddress config)) =
        (.error .unknown, board) := run_bind_of_error hmissing _
    rw [hrefused]
    exact .missing
  · cases hfound : board.controllers[index]? with
    | none =>
        rw [perform_init_of_none htaken hfound]
        exact .waste htaken hfound
    | some controller =>
        rw [perform_init htaken hfound]
        rcases Driver.init_cases region busAddress config ⟨controller, board.references⟩ with
          ⟨error, logged, hfailed, hlogs⟩ | ⟨hclosed, -, -, hopened⟩
        · rw [hfailed]
          exact .lose htaken hfound hlogs
        · rw [hopened]
          exact .init htaken hfound hclosed

theorem handover_allocate (index name : Nat) (channel? : Option Nat) (board : Board) :
    Handover board (board.perform (.controller index (.allocate name channel?))).2 := by
  cases hfound : board.controllers[index]? with
  | none =>
      have hrefused : board.perform (.controller index (.allocate name channel?)) =
          (.error .unknown, board) := run_bind_of_error (run_attempt_of_none hfound _) _
      rw [hrefused]
      exact .refuse (List.Subset.refl board.futures)
  | some controller =>
      cases hsetup : controller.setup with
      | none =>
          rw [perform_allocate_of_none hfound hsetup]
          exact .refuse (List.Subset.refl board.futures)
      | some setup =>
          rw [perform_allocate hfound hsetup]
          cases hchosen : Driver.chooseChannel channel? setup with
          | error error => exact .refuse (List.Subset.refl board.futures)
          | ok channel => exact .allocate name hfound hsetup (Driver.free_of_chooseChannel hchosen)

theorem handover_release (index name : Nat) (board : Board) :
    Handover board (board.perform (.controller index (.release name))).2 := by
  cases hhandle : board.handle? name with
  | none =>
      have hmissing : (existing (board.handle? name)).run.run board = (.error .unknown, board) := by
        rw [hhandle]
        rfl
      have hrefused : board.perform (.controller index (.release name)) =
          (.error .unknown, board) :=
        (run_bind_of_ok rfl _).trans (run_bind_of_error hmissing _)
      rw [hrefused]
      exact .refuse (List.Subset.refl board.futures)
  | some handle =>
      by_cases hforeign : handle.controller = index
      · subst hforeign
        cases hfound : board.controllers[handle.controller]? with
        | none =>
            have hmissing : (board.dropFutures handle).controllers[handle.controller]? = none :=
              hfound
            rw [perform_release_self hhandle,
              run_bind_of_error (run_attempt_of_none hmissing _) _]
            exact .refuse (List.filter_subset_self ..)
        | some controller =>
            cases hrunning : controller.isRunning handle.channel with
            | true =>
                rw [perform_release_of_running hhandle hfound hrunning]
                exact .refuse (List.filter_subset_self ..)
            | false =>
                rw [perform_release hhandle hfound hrunning]
                exact .release hhandle hfound hrunning
      · rw [perform_release_of_ne hhandle hforeign]
        exact .refuse (List.filter_subset_self ..)

theorem handover_deinit (index : Nat) (board : Board) :
    Handover board (board.perform (.controller index .deinit)).2 := by
  cases hfound : board.controllers[index]? with
  | none =>
      have hrefused : board.perform (.controller index .deinit) = (.error .unknown, board) :=
        run_bind_of_error (run_attempt_of_none hfound _) _
      rw [hrefused]
      exact .refuse (List.Subset.refl board.futures)
  | some controller =>
      cases hsetup : controller.setup with
      | none =>
          rw [perform_deinit_of_none hfound hsetup]
          exact .refuse (List.Subset.refl board.futures)
      | some setup =>
          rw [perform_deinit hfound hsetup]
          split
          · exact .refuse (List.Subset.refl board.futures)
          next hfree => exact .deinit hfound hsetup (by simpa using hfree)

theorem handover_abandon (name : Nat) (board : Board) :
    Handover board (board.perform (.channel name .abandon)).2 := by
  cases hhandle : board.handle? name with
  | none =>
      rw [perform_channel_of_none hhandle]
      exact .refuse (List.Subset.refl board.futures)
  | some handle =>
      rw [perform_channel hhandle]
      exact .abandon hhandle

/-- An operation uses the controllers, hands something over, or initializes a
controller. -/
theorem perform_cases (operation : Operation) (board : Board) :
    Uses (fun _ => True) (fun _ _ => True) board (board.perform operation).2 ∨
      Handover board (board.perform operation).2 ∨
      ∃ index source busAddress config,
        operation = .controller index (.init source busAddress config) := by
  by_cases hmanages : operation.Manages
  · right
    cases operation with
    | controller index operation =>
        cases operation with
        | init source busAddress config => exact .inr ⟨_, _, _, _, rfl⟩
        | allocate name channel? => exact .inl (handover_allocate index name channel? board)
        | release name => exact .inl (handover_release index name board)
        | deinit => exact .inl (handover_deinit index board)
        | _ => exact hmanages.elim
    | channel name operation =>
        cases operation with
        | abandon => exact .inl (handover_abandon name board)
        | _ => exact hmanages.elim
    | _ => exact hmanages.elim
  · exact .inl (uses_perform (fun _ _ _ _ _ => trivial) operation.causes_anything hmanages)

end CyclicDma.Board
