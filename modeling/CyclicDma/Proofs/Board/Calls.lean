import CyclicDma.Proofs.Board.Visits

/-! # Calls and removals

A visit calls the registrations that it found when it took the pending periods. A
callback may remove some of them meanwhile, and visits that began before still call
them. A visit that begins later does not.
-/

namespace CyclicDma

/-! ## Registrations that come and go -/

namespace Driver.Alters

variable {act : Act} {channel owner : Nat} {before after : Notifications}
variable {registration : Registration}

/-- A registration stays, unless it is removed. -/
theorem kept (halters : Alters channel act before after)
    (hmem : registration ∈ before.registrations) :
    registration ∈ after.registrations ∨ act.Removes channel registration := by
  cases halters with
  | keep | interrupt | take | await | note => exact .inl hmem
  | removeOwner removed =>
      by_cases howner : registration.owner = some removed
      · exact .inr howner
      · exact .inl (List.mem_filter.mpr ⟨hmem, by simpa using howner⟩)
  | register hregister =>
      obtain rfl := Notifications.register_eq_ok hregister
      exact .inl (List.mem_append_left _ hmem)
  | @unregister id _ _ _ hunregister =>
      obtain ⟨-, rfl⟩ := Notifications.unregister_eq_ok hunregister
      by_cases hid : registration.id = id
      · exact .inr ⟨rfl, hid⟩
      · exact .inl ((List.mem_eraseP_of_neg (by simpa using hid)).mpr hmem)
  | clear => exact .inr rfl

/-- A registration that was not there before was just made. -/
theorem entered (halters : Alters channel act before after)
    (hmem : registration ∈ after.registrations) :
    registration ∈ before.registrations ∨ act = .register channel registration.owner := by
  cases halters with
  | keep | interrupt | take | await | note => exact .inl hmem
  | removeOwner => exact .inl (List.mem_of_mem_filter hmem)
  | register hregister =>
      obtain rfl := Notifications.register_eq_ok hregister
      rcases List.mem_append.mp hmem with hformer | hnew
      · exact .inl hformer
      · rw [List.mem_singleton.mp hnew]
        exact .inr rfl
  | unregister hunregister =>
      obtain ⟨-, rfl⟩ := Notifications.unregister_eq_ok hunregister
      exact .inl (List.mem_of_mem_eraseP hmem)
  | clear => exact absurd hmem List.not_mem_nil

end Driver.Alters

namespace Board

variable {board : Board} {index channel owner count : Nat} {registration : Registration}

/-- Who is named by a registration has a reference. -/
theorem Counted.references_pos (hcounted : board.Counted)
    (hmem : registration ∈ (board.stateOf index channel).registrations)
    (howner : registration.owner = some owner) (hcount : board.references[owner]? = some count) :
    0 < count := by
  rw [hcounted owner count hcount]
  cases hfound : board.controllers[index]? with
  | none =>
      rw [stateOf, hfound] at hmem
      exact absurd hmem List.not_mem_nil
  | some controller =>
      rw [stateOf_eq hfound] at hmem
      have hmanaged : channel < controller.managed := by
        by_contra hout
        rw [Controller.notificationsOf_of_ge _ (Nat.le_of_not_lt hout)] at hmem
        exact absurd hmem List.not_mem_nil
      have hnotifications : controller.notificationsOf channel ∈ controller.notifications := by
        rw [Controller.notificationsOf, List.getD_eq_getElem _ _ hmanaged]
        exact List.getElem_mem hmanaged
      have hnamed : 0 < (controller.notificationsOf channel).countOwner owner :=
        List.count_pos_iff.mpr (List.mem_filterMap.mpr ⟨registration, hmem, howner⟩)
      have hchannel : (controller.notificationsOf channel).countOwner owner ≤
          controller.countOwner owner :=
        List.le_sum_of_mem (List.mem_map_of_mem hnotifications)
      have hcontroller : controller.countOwner owner ≤ board.countOwner owner :=
        List.le_sum_of_mem (List.mem_map_of_mem (List.mem_of_getElem? hfound))
      omega

end Board

namespace Moment

variable {allowed : Moment → Nat → Act → Prop} {start before after moment next last : Moment}
variable {visit : Visit} {registration : Registration} {index channel owner : Nat}

/-! ## Registrations from moment to moment -/

/-- A registration of a channel was removed on the way from one moment to another
one. -/
def RemovedBetween (index channel : Nat) (registration : Registration)
    (first last : Moment) : Prop :=
  ∃ before act after, Leads first before ∧ Does index act before after ∧
    act.Removes channel registration ∧ Leads after last

/-- A registration stays, unless it is removed. -/
theorem Leads.kept (hleads : Leads start moment)
    (hmem : registration ∈ (start.board.stateOf index channel).registrations) :
    registration ∈ (moment.board.stateOf index channel).registrations ∨
      RemovedBetween index channel registration start moment := by
  induction hleads with
  | refl => exact .inl hmem
  | tail hleads hnext ih =>
      rcases ih with hpresent | ⟨before, act, after, hbefore, hdoes, hremoves, hafter⟩
      · rcases hnext.alters index channel with hsame | ⟨act, -, hdoes, halters⟩
        · exact .inl (hsame ▸ hpresent)
        · rcases halters.kept hpresent with hkept | hremoves
          · exact .inl hkept
          · exact .inr ⟨_, act, _, hleads, hdoes, hremoves, .refl⟩
      · exact .inr ⟨before, act, after, hbefore, hdoes, hremoves, hafter.tail hnext⟩

/-- No registration of the controller names the owner. -/
def Unnamed (index owner : Nat) (moment : Moment) : Prop :=
  ∀ channel, ∀ registration ∈ (moment.board.stateOf index channel).registrations,
    registration.owner ≠ some owner

theorem Does.unnamed (hdoes : Does index (.removeOwner owner) before after) :
    after.Unnamed index owner := by
  cases hdoes with
  | act hfound hdriver =>
      cases hdriver with
      | removeOwner =>
          intro channel registration hmem
          rw [Board.stateOf_withDriver_self hfound, Driver.notificationsOf_removeOwner] at hmem
          simpa using (List.mem_filter.mp hmem).2

/-- An owner that is not named stays so, unless a callback is registered for it. -/
theorem Unfolds.unnamed (hunfolds : Unfolds allowed start moment)
    (hallowed : ∀ moment act, allowed moment index act →
      ∀ channel, act ≠ .register channel (some owner))
    (hstart : start.Unnamed index owner) : moment.Unnamed index owner := by
  induction hunfolds with
  | refl => exact hstart
  | tail _ hnext ih =>
      intro channel registration hmem howner
      rcases hnext.alters index channel with hsame | ⟨act, hact, -, halters⟩
      · exact ih channel registration (hsame ▸ hmem) howner
      · rcases halters.entered hmem with hformer | hregister
        · exact ih channel registration hformer howner
        · exact hallowed _ act hact channel (howner ▸ hregister)

/-! ## Where calls come from -/

/-- A registration is called by the newest visit. It was registered when the visit
began, and it still is, unless it was removed since. -/
structure CalledBy (start : Moment) (visit : Visit) (began : Moment) (index channel : Nat)
    (registration : Registration) (moment : Moment) : Prop where
  newest : moment.visits.head? = some visit
  controller_eq : visit.controller = index
  channel_eq : visit.channel = channel
  due : visit.calls.head? = some registration
  begins : BeganAt (fun _ _ _ => True) start began visit moment
  registered : registration ∈ (began.board.stateOf index channel).registrations
  present : registration ∈ (moment.board.stateOf index channel).registrations ∨
    RemovedBetween index channel registration began moment

theorem Does.calledBy (hdoes : Does index (.call channel registration) moment next)
    (hleads : Leads start moment) (hnone : start.visits = []) :
    ∃ visit began, CalledBy start visit began index channel registration moment := by
  obtain ⟨number, rest, waker, visits, hvisits, -⟩ := hdoes.visits_call
  have hmem : ⟨number, index, channel, registration :: rest, waker⟩ ∈ moment.visits :=
    hvisits ▸ List.mem_cons_self
  rcases hleads.mem_visits hmem with ⟨former, hformer, -⟩ | ⟨began, hbegan⟩
  · exact absurd (hnone ▸ hformer) List.not_mem_nil
  · obtain ⟨taken, -, -, htaken, hafter, hcontinues⟩ := id hbegan
    have hregistered := mem_of_mem_beginning (hcontinues.calls.subset List.mem_cons_self)
    have htakes : Next (fun _ _ _ => True) began taken := .act trivial htaken
    refine ⟨_, began, by rw [hvisits]; rfl, rfl, rfl, rfl, hbegan, hregistered, ?_⟩
    exact Leads.kept (hafter.head htakes) hregistered

/-- Who calls is told by what is written down. -/
theorem Next.called {callback : Callback} {context : UInt64} (hnext : Next allowed before after)
    (hcalled : after.board.deliveriesOf index =
      .call callback channel context :: before.board.deliveriesOf index) :
    ∃ registration, registration.callback = callback ∧ registration.context = context ∧
      Does index (.call channel registration) before after := by
  rcases hnext.deliveries index with hsame | ⟨act, -, hdoes, hdeliveries⟩
  · rw [hsame] at hcalled
    exact absurd hcalled.symm (List.cons_ne_self _ _)
  · have hact : act.deliveries = [.call callback channel context] :=
      List.append_cancel_right (hdeliveries.symm.trans hcalled)
    cases act with
    | call channel registration =>
        cases hact
        exact ⟨registration, rfl, rfl, hdoes⟩
    | finish _ waker => cases waker <;> cases hact
    | _ => cases hact

/-- When an owner was removed at a controller, and no callback is registered for it
again, it is named only by what was to be called already. -/
theorem Does.calls_taken_before_removal (hremoves : Does index (.removeOwner owner) before after)
    (hunfolds : Unfolds allowed after last)
    (hallowed : ∀ moment act, allowed moment index act →
      ∀ channel, act ≠ .register channel (some owner))
    (hcalls : Does index (.call channel registration) last next)
    (howner : registration.owner = some owner) :
    ∃ visit ∈ last.visits.head?, ∃ former ∈ after.visits, visit.Continues former ∧
      former.controller = index ∧ former.channel = channel ∧ registration ∈ former.calls := by
  obtain ⟨number, rest, waker, visits, hvisits, -⟩ := hcalls.visits_call
  have hmem : ⟨number, index, channel, registration :: rest, waker⟩ ∈ last.visits :=
    hvisits ▸ List.mem_cons_self
  rcases hunfolds.mem_visits hmem with
    ⟨former, hformer, hcontinues⟩ | ⟨began, _, hreached, -, -, -, hcontinues⟩
  · refine ⟨_, by rw [hvisits]; rfl, former, hformer, hcontinues, hcontinues.controller.symm,
      hcontinues.channel.symm, hcontinues.calls.subset List.mem_cons_self⟩
  · -- a visit that began later found no registration of the owner
    have hregistered := mem_of_mem_beginning (hcontinues.calls.subset List.mem_cons_self)
    exact absurd howner (hreached.unnamed hallowed hremoves.unnamed channel registration hregistered)

end Moment

namespace Board

open Moment (Leads Unfolds Next Does)

variable {board : Board}

/-! ## Calls find what they call registered -/

/-- Whatever is done with a board, also by callbacks: when a callback is called, the
visit that calls it found it registered when it took the periods of the channel, and
it is still registered unless it was removed since. Owners that are named have
references all the time. After an owner was removed at a controller, no callback is
called for it there unless it is registered again, or a visit was about to call it
before. -/
theorem calls_registered (hboard : board.Reachable) :
    board.IsPlayed ∧ ∀ moment, Leads ⟨board, [], 0⟩ moment →
      (∀ next index callback channel context, Next (fun _ _ _ => True) moment next →
        next.board.deliveriesOf index =
          .call callback channel context :: moment.board.deliveriesOf index →
        ∃ registration, registration.callback = callback ∧ registration.context = context ∧
          Does index (.call channel registration) moment next) ∧
      (∀ index channel registration owner count,
        registration ∈ (moment.board.stateOf index channel).registrations →
        registration.owner = some owner → moment.board.references[owner]? = some count →
        0 < count) ∧
      (∀ index channel registration next,
        Does index (.call channel registration) moment next →
        ∃ visit began,
          Moment.CalledBy ⟨board, [], 0⟩ visit began index channel registration moment) ∧
      ∀ index owner removed last, Does index (.removeOwner owner) moment removed →
        Unfolds (fun _ other act => other = index → ∀ channel, act ≠ .register channel (some owner))
          removed last →
        ∀ channel registration next, Does index (.call channel registration) last next →
          registration.owner = some owner →
          ∃ visit ∈ last.visits.head?, ∃ former ∈ removed.visits, visit.Continues former ∧
            former.controller = index ∧ former.channel = channel ∧
            registration ∈ former.calls := by
  refine ⟨hboard.isPlayed, fun moment hleads => ⟨?_, ?_, ?_, ?_⟩⟩
  · intro next index callback channel context hnext hcalled
    exact hnext.called hcalled
  · intro index channel registration owner count hmem howner hcount
    have hcounted : moment.board.Counted := hboard.counted.tallies hleads.tallies
    exact hcounted.references_pos hmem howner hcount
  · intro index channel registration next hcalls
    exact hcalls.calledBy hleads rfl
  · intro index owner removed last hremoves hunfolds channel registration next hcalls howner
    exact hremoves.calls_taken_before_removal hunfolds (fun _ _ hact => hact rfl) hcalls howner

/-- A board with one controller and one owner. -/
def ownedBoard : Board :=
  { smallBoard with references := [0] }

/-- Removes the owner when it is called. -/
def removingRegistration : Registration :=
  ⟨0, ⟨1, [.removeOwner 0]⟩, 1, none⟩

def ownedRegistration : Registration :=
  ⟨1, ⟨0, []⟩, 2, some 0⟩

/-- The owner has a registration behind the one that removes it, and a period is
acknowledged. -/
def removingOperations : List Operation :=
  ringOperations ++
    [.channel 7 (.register removingRegistration.callback 1 none),
      .channel 7 (.register ownedRegistration.callback 2 (some 0)),
      .controller 0 (.change [(.eventStatus, 1)]), .controller 0 .interrupt]

theorem reachable_removing : (ownedBoard.performAll removingOperations).Reachable :=
  (Reachable.new (show new? [1] 1 = some ownedBoard from rfl)).performAll removingOperations

/-- The owner is removed by the first call, and the second one is still to come. -/
theorem removed_before_call :
    ∃ moment next, Leads ⟨ownedBoard.performAll removingOperations, [], 0⟩ moment ∧
      Does 0 (.call 0 ownedRegistration) moment next ∧ moment.Unnamed 0 0 := by
  have hstates : (ownedBoard.performAll removingOperations).controllers.map (·.notificationsOf 0) =
      [{ registrations := [removingRegistration, ownedRegistration], nextId := 2, pending := 1 }] := by
    decide +kernel
  obtain ⟨controller, rest, hcontrollers, hstate, -⟩ := List.map_eq_cons_iff.mp hstates
  generalize ownedBoard.performAll removingOperations = board at hcontrollers ⊢
  have hfound : board.controllers[0]? = some controller := by
    rw [hcontrollers]
    rfl
  have hdue : Driver.Due 0 ⟨controller, board.references⟩ := by
    rw [Driver.Due, hstate]
    decide
  have htakes := Does.act hfound (Driver.Does.take hdue) (.begin 0 [] 0)
  rw [hstate] at htakes
  have hfirst := found_withDriver hfound (Driver.taken 0 ⟨controller, board.references⟩)
  have hcalls := Does.act hfirst (Driver.Does.call 0 removingRegistration _)
    (.call 0 0 removingRegistration [ownedRegistration] none [] 1)
  have hsecond := found_withDriver hfirst
    ((Driver.taken 0 ⟨controller, board.references⟩).update
      (·.record (.call removingRegistration.callback 0 removingRegistration.context)))
  have hremoves := Does.act hsecond (Driver.Does.removeOwner 0 _)
    (.keep (by exact trivial) ([⟨0, 0, 0, [ownedRegistration], none⟩], 1))
  have hthird := found_withDriver hsecond (((Driver.taken 0 ⟨controller, board.references⟩).update
    (·.record (.call removingRegistration.callback 0 removingRegistration.context))).removeOwner 0).2
  have hlast := Does.act hthird (Driver.Does.call 0 ownedRegistration _)
    (.call 0 0 ownedRegistration [] none [] 1)
  exact ⟨_, _, ((Relation.ReflTransGen.single (.act trivial htakes)).tail
    (.act trivial hcalls)).tail (.act trivial hremoves), hlast, hremoves.unnamed⟩

theorem calls_registered_removing :
    ∃ visit began moment,
      Moment.CalledBy ⟨ownedBoard.performAll removingOperations, [], 0⟩ visit began 0 0
        ownedRegistration moment ∧
      Moment.RemovedBetween 0 0 ownedRegistration began moment := by
  obtain ⟨moment, next, hleads, hcalls, hunnamed⟩ := removed_before_call
  obtain ⟨-, hmoments⟩ := calls_registered reachable_removing
  obtain ⟨-, -, hcalled, -⟩ := hmoments moment hleads
  obtain ⟨visit, began, hby⟩ := hcalled 0 0 ownedRegistration next hcalls
  refine ⟨visit, began, moment, hby, hby.present.resolve_left fun hpresent => ?_⟩
  exact hunnamed 0 ownedRegistration hpresent rfl

/-- A callback is called after the removal of its owner has returned: it is no longer
registered, and the owner has no reference left. -/
theorem called_after_removal :
    (∃ moment next, Leads ⟨ownedBoard.performAll removingOperations, [], 0⟩ moment ∧
      Does 0 (.call 0 ownedRegistration) moment next ∧ moment.Unnamed 0 0) ∧
    ((ownedBoard.performAll removingOperations).perform (.controller 0 .dispatch)).2.controllers.map
        (fun controller =>
          (controller.history.take 3, (controller.notificationsOf 0).registrations)) =
      [([.call ownedRegistration.callback 0 2, .ownerRemoved 1,
        .call removingRegistration.callback 0 1], [removingRegistration])] ∧
    (ownedBoard.performAll removingOperations).references = [1] ∧
    ((ownedBoard.performAll removingOperations).perform
      (.controller 0 .dispatch)).2.references = [0] := by
  refine ⟨removed_before_call, ?_, ?_, ?_⟩
  all_goals decide +kernel

end Board

end CyclicDma
