import CyclicDma.Proofs.Board.Moments

/-! # Registrations of a channel

The table of a channel holds registrations in the order in which they were made.
Their ids count the registrations that were ever made for the channel, whoever held
it, so an id stands for one registration only.
-/

namespace CyclicDma

/-! ## Tables and what was registered -/

namespace Notifications

variable {made : List Registration} {before after notifications later : Notifications}
variable {callback : Callback} {context : UInt64} {owner : Option Nat} {id : UInt32}

/-- The table of a channel for which some registrations were made, newest first. Some
of them may be removed. -/
structure Enrolled (made : List Registration) (notifications : Notifications) : Prop where
  nextId : notifications.nextId = .ofNat made.length
  numbered : made.reverse.map (·.id) = (List.range made.length).map .ofNat
  sublist : notifications.registrations.Sublist made.reverse
  bounded : notifications.registrations.length ≤ maxRegistrations

/-- Registrations are removed at most. -/
structure Shrinks (before after : Notifications) : Prop where
  nextId : after.nextId = before.nextId
  sublist : after.registrations.Sublist before.registrations

theorem Shrinks.refl (notifications : Notifications) : Shrinks notifications notifications :=
  ⟨rfl, .refl _⟩

theorem Shrinks.trans (hfirst : Shrinks before notifications)
    (hsecond : Shrinks notifications after) : Shrinks before after :=
  ⟨hsecond.nextId.trans hfirst.nextId, hsecond.sublist.trans hfirst.sublist⟩

namespace Enrolled

theorem nil : Enrolled [] {} :=
  ⟨rfl, rfl, .slnil, Nat.zero_le _⟩

theorem shrink (henrolled : before.Enrolled made) (hshrinks : Shrinks before after) :
    after.Enrolled made :=
  ⟨hshrinks.nextId.trans henrolled.nextId, henrolled.numbered,
    hshrinks.sublist.trans henrolled.sublist, hshrinks.sublist.length_le.trans henrolled.bounded⟩

/-- A new registration comes last, with the next number. -/
theorem register (henrolled : notifications.Enrolled made)
    (hregister : notifications.register callback context owner = .ok (id, later)) :
    later.Enrolled (⟨id, callback, context, owner⟩ :: made) := by
  unfold Notifications.register at hregister
  split at hregister <;> cases hregister
  next hroom =>
    refine ⟨?_, ?_, ?_, ?_⟩
    · change notifications.nextId + 1 = _
      rw [henrolled.nextId, List.length_cons, UInt32.ofNat_add]
      rfl
    · rw [List.reverse_cons, List.map_append, henrolled.numbered, List.length_cons,
        List.range_succ, List.map_append]
      exact congrArg (_ ++ [·]) henrolled.nextId
    · rw [List.reverse_cons, henrolled.nextId]
      exact henrolled.sublist.append_right _
    · rw [List.length_append]
      exact hroom

/-- Ids are given out in increasing order, as long as they do not wrap around. -/
theorem increasing (henrolled : notifications.Enrolled made) (hfew : made.length ≤ 2 ^ 32) :
    (made.reverse.map (·.id)).Pairwise (· < ·) := by
  rw [henrolled.numbered, List.pairwise_map]
  refine List.pairwise_lt_range.imp_of_mem fun {first second} _ hsecond hlt => ?_
  have hsmall : second < 2 ^ 32 := (List.mem_range.mp hsecond).trans_le hfew
  rw [UInt32.lt_iff_toNat_lt, UInt32.toNat_ofNat_of_lt' (hlt.trans hsmall),
    UInt32.toNat_ofNat_of_lt' hsmall]
  exact hlt

theorem lt_nextId (henrolled : notifications.Enrolled made) (hfew : made.length < 2 ^ 32) :
    ∀ registration ∈ made, registration.id < notifications.nextId := by
  intro registration hmem
  have hid : registration.id ∈ (List.range made.length).map UInt32.ofNat :=
    henrolled.numbered ▸ List.mem_map_of_mem (List.mem_reverse.mpr hmem)
  obtain ⟨number, hnumber, hid⟩ := List.mem_map.mp hid
  have hlt := List.mem_range.mp hnumber
  rw [← hid, henrolled.nextId, UInt32.lt_iff_toNat_lt,
    UInt32.toNat_ofNat_of_lt' (hlt.trans hfew), UInt32.toNat_ofNat_of_lt' hfew]
  exact hlt

theorem nodup (henrolled : notifications.Enrolled made) (hfew : made.length ≤ 2 ^ 32) :
    (made.map (·.id)).Nodup := by
  have hnodup := (henrolled.increasing hfew).imp fun hlt => UInt32.ne_of_lt hlt
  rw [List.map_reverse] at hnodup
  exact List.nodup_reverse.mp hnodup

theorem ordered (henrolled : notifications.Enrolled made) (hfew : made.length ≤ 2 ^ 32) :
    (notifications.registrations.map (·.id)).Pairwise (· < ·) :=
  (henrolled.increasing hfew).sublist (henrolled.sublist.map _)

end Enrolled

theorem register_of_room (hroom : notifications.registrations.length < maxRegistrations)
    (callback : Callback) (context : UInt64) (owner : Option Nat) :
    notifications.register callback context owner =
      .ok (notifications.nextId, { notifications with
        registrations :=
          notifications.registrations ++ [⟨notifications.nextId, callback, context, owner⟩]
        nextId := notifications.nextId + 1 }) :=
  if_pos hroom

theorem register_of_full (hfull : notifications.registrations.length = maxRegistrations)
    (callback : Callback) (context : UInt64) (owner : Option Nat) :
    notifications.register callback context owner = .error .resourceExhausted :=
  if_neg hfull.ge.not_gt

theorem unregister_of_forall_ne
    (hunknown : ∀ registration ∈ notifications.registrations, registration.id ≠ id) :
    notifications.unregister id = .error .notRegistered := by
  have hnone : notifications.registrations.find? (·.id = id) = none :=
    List.find?_eq_none.mpr fun registration hmem => by simpa using hunknown registration hmem
  rw [unregister, hnone]

/-- Among different ids there is at most one to remove. -/
theorem eraseP_id_eq_filter {table : List Registration} (hnodup : (table.map (·.id)).Nodup)
    (id : UInt32) : table.eraseP (·.id = id) = table.filter (·.id ≠ id) := by
  induction table with
  | nil => rfl
  | cons first rest ih =>
      obtain ⟨hfirst, hrest⟩ := List.nodup_cons.mp hnodup
      by_cases hid : first.id = id
      · have hothers : rest.filter (·.id ≠ id) = rest :=
          List.filter_eq_self.mpr fun registration hmem => by
            have hne : registration.id ≠ id := fun hsame =>
              hfirst (List.mem_map.mpr ⟨registration, hmem, hsame.trans hid.symm⟩)
            simpa using hne
        rw [List.eraseP_cons_of_pos (by simpa using hid),
          List.filter_cons_of_neg (by simpa using hid), hothers]
      · rw [List.eraseP_cons_of_neg (by simpa using hid),
          List.filter_cons_of_pos (by simpa using hid), ih hrest]

/-- The registration with the id is taken out, and the others stay in order. -/
theorem unregister_of_mem {registration : Registration}
    (hnodup : (notifications.registrations.map (·.id)).Nodup)
    (hmem : registration ∈ notifications.registrations) :
    notifications.unregister registration.id =
      .ok (registration, { notifications with
        registrations := notifications.registrations.filter (·.id ≠ registration.id) }) := by
  have hfound : notifications.registrations.find? (·.id = registration.id) = some registration := by
    cases hfind : notifications.registrations.find? (·.id = registration.id) with
    | none => simpa using List.find?_eq_none.mp hfind registration hmem
    | some found =>
        have hid : found.id = registration.id := by simpa using List.find?_some hfind
        exact congrArg some
          (List.inj_on_of_nodup_map hnodup (List.mem_of_find?_eq_some hfind) hmem hid)
  rw [unregister, hfound, eraseP_id_eq_filter hnodup]

end Notifications

/-- Only the present state of a channel matters to an update. -/
theorem Controller.updateNotifications_congr {controller : Controller} {channel : Nat}
    {first second : Notifications → Notifications}
    (hsame : first (controller.notificationsOf channel) =
      second (controller.notificationsOf channel)) :
    controller.updateNotifications channel first =
      controller.updateNotifications channel second := by
  have hmodified : controller.notifications.modify channel first =
      controller.notifications.modify channel second := by
    refine List.ext_getElem? fun other => ?_
    rw [List.getElem?_modify, List.getElem?_modify]
    split
    next hother =>
      subst hother
      rw [notificationsOf, List.getD_eq_getElem?_getD] at hsame
      cases hfound : controller.notifications[channel]? with
      | none => rfl
      | some notifications =>
          rw [hfound] at hsame
          exact congrArg some hsame
    next => rfl
  rw [updateNotifications, hmodified]
  rfl

/-! ## Registering and unregistering -/

namespace Driver

open Notifications

variable {channel : Nat} {act : Act} {before after : Notifications} {driver : Driver}
variable {made : List Registration}

/-- What registering and unregistering do to a channel for which some registrations
were made, newest first. -/
structure KeepsTable (channel : Nat) (made : List Registration) (driver : Driver) : Prop where
  register : (driver.controller.notificationsOf channel).registrations.length < maxRegistrations →
    ∀ callback context owner, (register channel callback context owner).perform driver =
      (.ok (driver.controller.notificationsOf channel).nextId,
        { controller := driver.controller.updateNotifications channel fun notifications =>
            { notifications with
              registrations := notifications.registrations ++
                [⟨notifications.nextId, callback, context, owner⟩]
              nextId := notifications.nextId + 1 }
          references := owner.elim driver.references (References.hold · driver.references) })
  full : (driver.controller.notificationsOf channel).registrations.length = maxRegistrations →
    ∀ callback context owner, (Driver.register channel callback context owner).perform driver =
      (.error .resourceExhausted, driver)
  unregister : ∀ registration ∈ (driver.controller.notificationsOf channel).registrations,
    (unregister channel registration.id).perform driver =
      (.ok (),
        { controller := driver.controller.updateNotifications channel fun notifications =>
            { notifications with
              registrations := notifications.registrations.filter (·.id ≠ registration.id) }
          references := driver.references.releaseAll registration.owner.toList })
  unknown : ∀ id, (∀ registration ∈ (driver.controller.notificationsOf channel).registrations,
      registration.id ≠ id) →
    (Driver.unregister channel id).perform driver = (.error .notRegistered, driver)
  /-- What was registered later than an id was given out is not removed by it. -/
  later : ∀ newer older, made = newer ++ older → ∀ kept ∈ older, ∀ registration ∈ newer,
    registration ∈ (driver.controller.notificationsOf channel).registrations →
    registration ∈ (((Driver.unregister channel kept.id).perform
      driver).2.controller.notificationsOf channel).registrations

/-- Whatever a driver does but register, it removes registrations at most. -/
theorem Alters.shrinks (halters : Alters channel act before after)
    (hother : ∀ owner, act ≠ .register channel owner) : Shrinks before after := by
  cases halters with
  | keep | interrupt | take | await | note => exact ⟨rfl, .refl _⟩
  | removeOwner => exact ⟨rfl, List.filter_sublist⟩
  | register => exact absurd rfl (hother _)
  | unregister hunregister =>
      obtain ⟨-, rfl⟩ := unregister_eq_ok hunregister
      exact ⟨rfl, List.eraseP_sublist⟩
  | clear => exact ⟨rfl, List.nil_sublist _⟩

/-- An id takes out its registration, or nothing. -/
theorem keepsTable (henrolled : (driver.controller.notificationsOf channel).Enrolled made)
    (hfew : made.length ≤ 2 ^ 32) : KeepsTable channel made driver := by
  have hnodup : ((driver.controller.notificationsOf channel).registrations.map (·.id)).Nodup :=
    (henrolled.ordered hfew).imp fun hlt => UInt32.ne_of_lt hlt
  have hunregister : ∀ registration ∈ (driver.controller.notificationsOf channel).registrations,
      (Driver.unregister channel registration.id).perform driver =
        (.ok (),
          { controller := driver.controller.updateNotifications channel fun notifications =>
              { notifications with
                registrations := notifications.registrations.filter (·.id ≠ registration.id) }
            references := driver.references.releaseAll registration.owner.toList }) := by
    intro registration hmem
    rw [perform_unregister_of_ok (unregister_of_mem hnodup hmem)]
    exact congrArg (fun controller => (_, Driver.mk controller _))
      (Controller.updateNotifications_congr rfl)
  have hunknown : ∀ id, (∀ registration ∈
      (driver.controller.notificationsOf channel).registrations, registration.id ≠ id) →
      (Driver.unregister channel id).perform driver = (.error .notRegistered, driver) :=
    fun id hunknown => perform_unregister_of_error (unregister_of_forall_ne hunknown)
  refine ⟨?_, ?_, hunregister, hunknown, ?_⟩
  · intro hroom callback context owner
    rw [perform_register_of_ok (register_of_room hroom callback context owner)]
    exact congrArg (fun controller => (_, Driver.mk controller _))
      (Controller.updateNotifications_congr rfl)
  · intro hfull callback context owner
    exact perform_register_of_error (register_of_full hfull callback context owner)
  · rintro newer older rfl kept hkept registration hregistration hmem
    have hdistinct := henrolled.nodup hfew
    rw [List.map_append] at hdistinct
    have hne : registration.id ≠ kept.id :=
      (List.nodup_append.mp hdistinct).2.2 _ (List.mem_map_of_mem hregistration) _
        (List.mem_map_of_mem hkept)
    by_cases hknown : ∃ found ∈ (driver.controller.notificationsOf channel).registrations,
        found.id = kept.id
    · obtain ⟨found, hfound, hid⟩ := hknown
      rw [← hid, hunregister found hfound, Controller.notificationsOf_updateNotifications]
      split
      · exact List.mem_filter.mpr ⟨hmem, by simpa [hid] using hne⟩
      · exact hmem
    · rw [hunknown kept.id fun found hfound hid => hknown ⟨found, hfound, hid⟩]
      exact hmem

end Driver

/-! ## Boards and what was registered -/

namespace Moment

variable {allowed : Moment → Nat → Act → Prop} {start moment : Moment} {index channel : Nat}

/-- Without registering, registrations are removed at most. -/
theorem Unfolds.shrinks (hunfolds : Unfolds allowed start moment)
    (hother : ∀ moment owner, ¬ allowed moment index (.register channel owner)) :
    Notifications.Shrinks (start.board.stateOf index channel)
      (moment.board.stateOf index channel) := by
  induction hunfolds with
  | refl => exact .refl _
  | tail _ hnext ih =>
      refine ih.trans ?_
      rcases hnext.alters index channel with hsame | ⟨act, hallowed, -, halters⟩
      · rw [hsame]
        exact .refl _
      · refine halters.shrinks ?_
        rintro owner rfl
        exact hother _ owner hallowed

end Moment

namespace Board

variable {board : Board} {operation : Operation} {index channel name : Nat} {handle : Handle}
variable {controller : Controller} {made : List Registration} {owner : Option Nat}

/-- The registrations that an operation makes for a channel, at most one. -/
def enrolled (index channel : Nat) (board : Board) (operation : Operation) : List Registration :=
  match operation with
  | .channel name (.register callback context owner) =>
      match board.handle? name, (board.perform operation).1 with
      | some handle, .ok (.id id) =>
          if handle.controller = index ∧ handle.channel = channel then
            [⟨id, callback, context, owner⟩]
          else []
      | _, _ => []
  | _ => []

/-- Boards that come about, with the registrations that were made for a channel until
then, newest first. -/
inductive Enrols (index channel : Nat) : Board → List Registration → Prop
  | new {channels owners board} (hnew : new? channels owners = some board) :
      Enrols index channel board []
  | perform {board : Board} {made : List Registration} (operation : Operation)
      (henrols : Enrols index channel board made) :
      Enrols index channel (board.perform operation).2
        (board.enrolled index channel operation ++ made)
  | deliver {board : Board} {made : List Registration} (other depth : Nat)
      (henrols : Enrols index channel board made) :
      Enrols index channel
        ((onDriver other fun driver => ((), driver.dispatchNested depth)).run.run board).2 made

theorem Enrols.reachable (henrols : Enrols index channel board made) : board.Reachable := by
  induction henrols with
  | new hnew => exact .new hnew
  | perform operation _ ih => exact .perform operation ih
  | deliver other depth _ ih => exact .deliver other depth ih

/-- The registrations that some operations make for a channel, one after the other. -/
def enrolledAll (index channel : Nat) (board : Board) : List Operation → List Registration
  | [] => []
  | operation :: operations =>
      enrolledAll index channel (board.perform operation).2 operations ++
        board.enrolled index channel operation

theorem Enrols.performAll (henrols : Enrols index channel board made)
    (operations : List Operation) :
    Enrols index channel (board.performAll operations)
      (board.enrolledAll index channel operations ++ made) := by
  induction operations generalizing board made with
  | nil => exact henrols
  | cons operation operations ih =>
      rw [enrolledAll, List.append_assoc]
      exact ih (.perform operation henrols)

/-- However a board comes about, some registrations were made until then. -/
theorem Reachable.enrols (hboard : board.Reachable) (index channel : Nat) :
    ∃ made, Enrols index channel board made := by
  induction hboard with
  | new hnew => exact ⟨[], .new hnew⟩
  | perform operation _ ih =>
      obtain ⟨made, henrols⟩ := ih
      exact ⟨_, .perform operation henrols⟩
  | deliver other depth _ ih =>
      obtain ⟨made, henrols⟩ := ih
      exact ⟨made, .deliver other depth henrols⟩

/-- Only the holder of a channel registers for it. -/
theorem register_of_involves
    (hinvolves : operation.Involves board index (.register channel owner)) :
    ∃ name callback context handle, operation = .channel name (.register callback context owner) ∧
      board.handle? name = some handle ∧ handle.controller = index ∧ handle.channel = channel := by
  obtain ⟨demand, hasks, hinvolves⟩ := hinvolves
  have hdemand : ∃ callback context, demand = .register channel callback context owner := by
    cases demand with
    | register other callback context named =>
        cases hinvolves
        exact ⟨callback, context, rfl⟩
    | submit | start | stop => exact absurd hinvolves (by simp [Driver.Demand.Involves])
    | init | deinit | release | stopManager =>
        exact absurd hinvolves (by simp [Driver.Demand.Involves])
    | deliver => exact hinvolves.elim
    | _ => cases hinvolves
  obtain ⟨callback, context, rfl⟩ := hdemand
  obtain ⟨name, handle, request, rfl, hhandle, hindex, hchannel, hasks⟩ :=
    Operation.exists_of_concerns hasks rfl
  cases request with
  | register =>
      cases hasks
      exact ⟨name, callback, context, handle, rfl, hhandle, hindex, hchannel⟩
  | submit | start | stop | unregister => exact nomatch hasks
  | state | inspect | nextPeriod | abandon => exact hasks.elim

theorem length_enrolled_le (board : Board) (index channel : Nat) (operation : Operation) :
    (board.enrolled index channel operation).length ≤ 1 := by
  unfold Board.enrolled
  split
  · split
    · split <;> simp
    · simp
  · simp

theorem involves_of_mem_enrolled {registration : Registration}
    (hmem : registration ∈ board.enrolled index channel operation) :
    ∃ owner, operation.Involves board index (.register channel owner) := by
  unfold Board.enrolled at hmem
  split at hmem
  next name callback context owner =>
    split at hmem
    next handle id hhandle hdone =>
      split at hmem
      next hchannel =>
        obtain ⟨rfl, rfl⟩ := hchannel
        exact ⟨owner, _, ⟨handle, hhandle, rfl, rfl⟩, rfl⟩
      next => cases hmem
    next => cases hmem
  next => cases hmem

/-- A callback is registered for the holder of a channel. -/
theorem perform_register (hhandle : board.handle? name = some handle)
    (hfound : board.controllers[handle.controller]? = some controller)
    (callback : Callback) (context : UInt64) (owner : Option Nat) :
    board.perform (.channel name (.register callback context owner)) =
      match (controller.notificationsOf handle.channel).register callback context owner with
      | .error error => (.error (.failed error), board.dropFutures handle)
      | .ok (id, notifications) =>
          (.ok (.id id),
            { (board.dropFutures handle).withDriver handle.controller
                { controller :=
                    controller.updateNotifications handle.channel fun _ => notifications
                  references := owner.elim board.references (References.hold · board.references) }
              with ids := id :: board.ids }) := by
  have hdropped : (board.dropFutures handle).controllers[handle.controller]? = some controller :=
    hfound
  have hattempt := run_attempt hdropped (Driver.register handle.channel callback context owner)
  rw [perform_channel hhandle]
  cases hregister : (controller.notificationsOf handle.channel).register callback context owner with
  | error error =>
      rw [Driver.perform_register_of_error hregister] at hattempt
      dsimp only at hattempt
      rw [withDriver_self hdropped] at hattempt
      exact run_bind_of_error ((run_bind_of_ok rfl _).trans hattempt) _
  | ok registered =>
      rw [Driver.perform_register_of_ok hregister] at hattempt
      exact run_bind_of_ok ((run_bind_of_ok rfl _).trans hattempt) _

theorem stateOf_of_new? {channels : List Nat} {owners : Nat}
    (hnew : new? channels owners = some board) (index channel : Nat) :
    board.stateOf index channel = {} := by
  cases hfound : board.controllers[index]? with
  | none =>
      rw [stateOf, hfound]
      rfl
  | some controller =>
      obtain ⟨managed, hfresh⟩ := new_of_new? hnew controller (List.mem_of_getElem? hfound)
      unfold Controller.new? at hfresh
      split at hfresh <;> cases hfresh
      rw [stateOf_eq hfound, Controller.notificationsOf, List.getD_eq_getElem?_getD,
        List.getElem?_replicate]
      split <;> rfl

/-- Whatever is done with a board, the table of a channel goes with the registrations
that were made for it. -/
theorem Reachable.enrolled_perform (hboard : board.Reachable)
    (henrolled : (board.stateOf index channel).Enrolled made) (operation : Operation) :
    ((board.perform operation).2.stateOf index channel).Enrolled
      (board.enrolled index channel operation ++ made) := by
  by_cases hregisters : ∃ owner, operation.Involves board index (.register channel owner)
  · obtain ⟨owner, hinvolves⟩ := hregisters
    obtain ⟨name, callback, context, handle, rfl, hhandle, rfl, rfl⟩ :=
      register_of_involves hinvolves
    obtain ⟨controller, _, _, hfound, -, -, hmanaged⟩ := hboard.usable (handle?_eq_some hhandle).1
    have hperform := perform_register hhandle hfound callback context owner
    rw [stateOf_eq hfound] at henrolled
    unfold Board.enrolled
    dsimp only
    rw [hhandle, hperform]
    cases hregister :
        (controller.notificationsOf handle.channel).register callback context owner with
    | error error =>
        have hstate : (board.dropFutures handle).stateOf handle.controller handle.channel =
            controller.notificationsOf handle.channel := stateOf_eq hfound _
        rw [hstate]
        exact henrolled
    | ok registered =>
        obtain ⟨id, notifications⟩ := registered
        dsimp only
        rw [if_pos ⟨rfl, rfl⟩]
        have hdropped : (board.dropFutures handle).controllers[handle.controller]? =
            some controller := hfound
        have hstate := stateOf_withDriver_self hdropped
          { controller := controller.updateNotifications handle.channel fun _ => notifications
            references := owner.elim board.references (References.hold · board.references) }
          handle.channel
        rw [Controller.notificationsOf_updateNotifications_self _ hmanaged] at hstate
        have hlater := henrolled.register hregister
        rw [← hstate] at hlater
        exact hlater
  · have hnone : board.enrolled index channel operation = [] :=
      List.eq_nil_iff_forall_not_mem.mpr fun _ hmem => hregisters (involves_of_mem_enrolled hmem)
    obtain ⟨next, hunfolds⟩ := hboard.unfolds_perform operation [] 0
    rw [hnone]
    exact henrolled.shrink
      (hunfolds.shrinks fun _ owner hinvolves => hregisters ⟨owner, hinvolves⟩)

theorem Enrols.enrolled (henrols : Enrols index channel board made) :
    (board.stateOf index channel).Enrolled made := by
  induction henrols with
  | new hnew =>
      rw [stateOf_of_new? hnew]
      exact .nil
  | perform operation henrols ih => exact henrols.reachable.enrolled_perform ih operation
  | @deliver board made other depth henrols ih =>
      obtain ⟨next, hunfolds⟩ := unfolds_deliver other depth board [] 0
      exact ih.shrink (hunfolds.shrinks fun _ _ hdelivers => hdelivers.2)

/-- A table holds at most sixteen of the registrations that were ever made for its
channel, in the order in which they were made. Their ids increase and are below the
next one, and no id is given out twice, whoever holds the channel. A full table takes
no registration and does not use up an id, an id takes out its own registration and
nothing else, and an id that is not there changes nothing. -/
theorem registrations_enrolled (henrols : Enrols index channel board made)
    (hfew : made.length < 2 ^ 32) :
    (board.stateOf index channel).registrations.length ≤ Notifications.maxRegistrations ∧
    ((board.stateOf index channel).registrations.map (·.id)).Pairwise (· < ·) ∧
    (∀ registration ∈ (board.stateOf index channel).registrations,
      registration.id < (board.stateOf index channel).nextId) ∧
    (board.stateOf index channel).registrations.Sublist made.reverse ∧
    (∀ operation, ((board.enrolled index channel operation ++ made).map (·.id)).Nodup) ∧
    ∀ driver : Driver, board.controllers[index]? = some driver.controller →
      driver.KeepsTable channel made := by
  have henrolled := henrols.enrolled
  refine ⟨henrolled.bounded, henrolled.ordered hfew.le, ?_, henrolled.sublist, ?_, ?_⟩
  · intro registration hmem
    exact henrolled.lt_nextId hfew registration
      (List.mem_reverse.mp (henrolled.sublist.subset hmem))
  · intro operation
    refine (henrols.reachable.enrolled_perform henrolled operation).nodup ?_
    have hone := length_enrolled_le board index channel operation
    rw [List.length_append]
    omega
  · intro driver hfound
    rw [stateOf_eq hfound] at henrolled
    exact Driver.keepsTable henrolled hfew.le

/-- Two callbacks are registered, the first one is taken back, and the next holder of
the channel registers another one. -/
def enrollingOperations : List Operation :=
  ringOperations.take 2 ++
    [.channel 7 (.register ⟨1, []⟩ 5 none), .channel 7 (.register ⟨2, []⟩ 6 none),
      .channel 7 (.unregister 0), .controller 0 (.release 7), .controller 0 (.allocate 8 none),
      .channel 8 (.register ⟨3, []⟩ 7 none)]

/-- An id that the former holder kept does not take out what the next one
registered. -/
theorem registrations_enrolled_reallocated :
    ∃ controller ∈ (smallBoard.performAll enrollingOperations).controllers,
      (controller.notificationsOf 0).registrations = [⟨2, ⟨3, []⟩, 7, none⟩] ∧
      ∀ id ∈ [0, 1], ⟨2, ⟨3, []⟩, 7, none⟩ ∈
        (((Driver.unregister 0 id).perform
          ⟨controller, []⟩).2.controller.notificationsOf 0).registrations := by
  have hmade : smallBoard.enrolledAll 0 0 enrollingOperations =
      [⟨2, ⟨3, []⟩, 7, none⟩, ⟨1, ⟨2, []⟩, 6, none⟩, ⟨0, ⟨1, []⟩, 5, none⟩] := by
    decide +kernel
  have hstates : (smallBoard.performAll enrollingOperations).controllers.map
      (·.notificationsOf 0) = [{ registrations := [⟨2, ⟨3, []⟩, 7, none⟩], nextId := 3 }] := by
    decide +kernel
  have henrols : Enrols 0 0 (smallBoard.performAll enrollingOperations) _ :=
    (Enrols.new (show new? [1] 0 = some smallBoard from rfl)).performAll enrollingOperations
  rw [List.append_nil, hmade] at henrols
  obtain ⟨controller, rest, hcontrollers, hstate, -⟩ := List.map_eq_cons_iff.mp hstates
  obtain ⟨-, -, -, -, -, htable⟩ := registrations_enrolled henrols (by decide)
  have hkeeps := htable ⟨controller, []⟩ (by rw [hcontrollers]; rfl)
  have htable : (controller.notificationsOf 0).registrations = [⟨2, ⟨3, []⟩, 7, none⟩] := by
    rw [hstate]
  refine ⟨controller, by rw [hcontrollers]; exact List.mem_cons_self, htable, ?_⟩
  have hlater := fun kept hkept => hkeeps.later [⟨2, ⟨3, []⟩, 7, none⟩] _ rfl kept hkept _
    List.mem_cons_self (by rw [htable]; exact List.mem_cons_self)
  intro id hid
  rcases List.mem_pair.mp hid with rfl | rfl
  · exact hlater ⟨0, ⟨1, []⟩, 5, none⟩ (by decide)
  · exact hlater ⟨1, ⟨2, []⟩, 6, none⟩ (by decide)

end Board

end CyclicDma
