import CyclicDma.Proofs.Driver.Moves

/-! # Counting registrations

A registration that names an owner holds a reference to it. Whatever a driver
does, the registrations that its tables gain and lose are those that references
are taken and given up for.
-/

namespace CyclicDma

/-! ## References -/

namespace References

variable {references : References} {owners : List Nat} {owner : Nat}

theorem getElem?_hold (other owner : Nat) (references : References) :
    (references.hold other)[owner]? = references[owner]?.map (· + [other].count owner) := by
  rw [hold, List.getElem?_modify, List.count_singleton]
  by_cases hsame : other = owner <;> cases references[owner]? <;> simp [hsame]

theorem getElem?_release (other owner : Nat) (references : References) :
    (references.release other)[owner]? = references[owner]?.map (· - [other].count owner) := by
  rw [release, List.getElem?_modify, List.count_singleton]
  by_cases hsame : other = owner <;> cases references[owner]? <;> simp [hsame]

/-- Giving up references lowers the number of each owner by as much as it is
listed. -/
theorem getElem?_releaseAll (owners : List Nat) (owner : Nat) (references : References) :
    (references.releaseAll owners)[owner]? = references[owner]?.map (· - owners.count owner) := by
  induction owners generalizing references with
  | nil => simp [releaseAll]
  | cons first rest ih =>
      change (releaseAll rest (references.release first))[owner]? =
        references[owner]?.map (· - ([first] ++ rest).count owner)
      rw [ih, getElem?_release, Option.map_map, List.count_append]
      exact congrArg (references[owner]?.map ·) (funext fun count => Nat.sub_sub ..)

/-- No reference is given up that is not there: when it is an owner's turn, there
is one left. -/
def Covers (references : References) (released : List Nat) : Prop :=
  ∀ earlier owner later count, released = earlier ++ owner :: later →
    (references.releaseAll earlier)[owner]? = some count → 0 < count

theorem covers_of_count_le {released : List Nat}
    (hfew : ∀ owner count, references[owner]? = some count → released.count owner ≤ count) :
    references.Covers released := by
  intro earlier owner later count hsplit hleft
  rw [getElem?_releaseAll] at hleft
  obtain ⟨before, hbefore, rfl⟩ := Option.map_eq_some_iff.mp hleft
  have hle := hfew owner before hbefore
  rw [hsplit, List.count_append, List.count_cons_self] at hle
  omega

end References

/-! ## Registrations that name an owner -/

namespace Notifications

variable {notifications later : Notifications} {registration : Registration} {id : UInt32}

theorem countOwner_register {callback : Callback} {context : UInt64} {owner? : Option Nat}
    (hregister : notifications.register callback context owner? = .ok (id, later)) (owner : Nat) :
    later.countOwner owner = notifications.countOwner owner + owner?.toList.count owner := by
  obtain rfl := register_eq_ok hregister
  simp only [countOwner, owners, List.filterMap_append, List.count_append]
  cases owner? <;> rfl

theorem countOwner_unregister (hunregister : notifications.unregister id = .ok (registration, later))
    (owner : Nat) :
    later.countOwner owner + registration.owner.toList.count owner =
      notifications.countOwner owner := by
  obtain ⟨hfound, rfl⟩ := unregister_eq_ok hunregister
  obtain ⟨hid, earlier, others, hregistrations, hearlier⟩ := List.find?_eq_some_iff_append.mp hfound
  have herased : notifications.registrations.eraseP (·.id = id) = earlier ++ others := by
    rw [hregistrations, List.eraseP_append_right _ (by simpa using hearlier),
      List.eraseP_cons_of_pos (p := fun other : Registration => decide (other.id = id)) hid]
  rw [countOwner, countOwner, owners, owners, herased, hregistrations, List.filterMap_append,
    List.filterMap_append, List.count_append, List.count_append]
  cases howner : registration.owner with
  | none =>
      rw [List.filterMap_cons_none howner]
      rfl
  | some named =>
      rw [List.filterMap_cons_some howner, Option.toList_some, List.count_cons, List.count_cons,
        List.count_nil, Nat.zero_add]
      exact Nat.add_assoc ..

theorem owners_removeOwner (removed : Nat) (notifications : Notifications) :
    (notifications.removeOwner removed).owners = notifications.owners.filter (· ≠ removed) := by
  rw [owners, owners, removeOwner, List.filterMap_filter, List.filter_filterMap]
  refine congrArg (List.filterMap · _) (funext fun registration => ?_)
  cases registration.owner with
  | none => rfl
  | some named => by_cases hsame : named = removed <;> simp [hsame, Option.filter]

theorem countOwner_removeOwner (removed owner : Nat) (notifications : Notifications) :
    (notifications.removeOwner removed).countOwner owner =
      if owner = removed then 0 else notifications.countOwner owner := by
  rw [countOwner, countOwner, owners_removeOwner]
  split
  next hsame => exact List.count_eq_zero.mpr (by simp [hsame])
  next hne => exact List.count_filter (by simpa using hne)

end Notifications

namespace Controller

variable {before after controller : Controller} {channel : Nat}

/-- The registrations of all channels that name an owner. -/
def countOwner (owner : Nat) (controller : Controller) : Nat :=
  (controller.notifications.map (·.countOwner owner)).sum

theorem countOwner_of_registrations
    (hsame : after.notifications.map (·.registrations) =
      before.notifications.map (·.registrations)) (owner : Nat) :
    after.countOwner owner = before.countOwner owner := by
  have hcount := congrArg (List.map fun registrations =>
    (registrations.filterMap (·.owner)).count owner) hsame
  rw [List.map_map, List.map_map] at hcount
  exact congrArg List.sum hcount

/-- One number of a sum is replaced. -/
theorem sum_set {numbers : List Nat} {index former : Nat} (hfound : numbers[index]? = some former)
    (later : Nat) : (numbers.set index later).sum + former = numbers.sum + later := by
  obtain ⟨hbound, rfl⟩ := List.getElem?_eq_some_iff.mp hfound
  have hlater := (List.set_perm_cons_eraseIdx hbound later).sum_eq
  have hformer := (List.getElem_cons_eraseIdx_perm hbound).sum_eq
  rw [List.sum_cons] at hlater hformer
  omega

/-- The registrations of the other channels stay. -/
theorem countOwner_updateNotifications (hmanaged : channel < controller.managed)
    (update : Notifications → Notifications) (owner : Nat) :
    (controller.updateNotifications channel update).countOwner owner +
        (controller.notificationsOf channel).countOwner owner =
      controller.countOwner owner +
        (update (controller.notificationsOf channel)).countOwner owner := by
  have hnotifications : controller.notifications[channel]? =
      some (controller.notificationsOf channel) := by
    rw [notificationsOf, List.getD_eq_getElem _ _ hmanaged, List.getElem?_eq_getElem hmanaged]
  have hfound : (controller.notifications.map (·.countOwner owner))[channel]? =
      some ((controller.notificationsOf channel).countOwner owner) := by
    rw [List.getElem?_map, hnotifications]
    rfl
  have hset : (controller.notifications.modify channel update).map (·.countOwner owner) =
      (controller.notifications.map (·.countOwner owner)).set channel
        ((update (controller.notificationsOf channel)).countOwner owner) := by
    rw [List.modify_eq_set_getElem?, hnotifications]
    exact List.map_set
  have hsum := sum_set hfound ((update (controller.notificationsOf channel)).countOwner owner)
  rw [← hset] at hsum
  exact hsum

theorem managed_of_registration {id : UInt32} {registration : Registration}
    {notifications : Notifications}
    (hunregister : (controller.notificationsOf channel).unregister id =
      .ok (registration, notifications)) : channel < controller.managed := by
  by_contra hout
  rw [notificationsOf_of_ge _ (Nat.le_of_not_lt hout)] at hunregister
  cases hunregister

theorem countOwner_clear (channel owner : Nat) (controller : Controller) :
    (controller.updateNotifications channel Notifications.clear).countOwner owner +
        (controller.notificationsOf channel).countOwner owner =
      controller.countOwner owner := by
  rcases Nat.lt_or_ge channel controller.managed with hmanaged | hout
  · exact countOwner_updateNotifications hmanaged Notifications.clear owner
  · have hsame : controller.notifications.modify channel Notifications.clear =
        controller.notifications := by
      rw [List.modify_eq_set_getElem?, List.getElem?_eq_none hout]
      rfl
    rw [notificationsOf_of_ge _ hout, updateNotifications, hsame]
    rfl

theorem countOwner_removeOwner (removed owner : Nat) (controller : Controller) :
    countOwner owner
        { controller with
          notifications := controller.notifications.map (·.removeOwner removed) } =
      if owner = removed then 0 else controller.countOwner owner := by
  rw [countOwner, countOwner, List.map_map]
  split
  next hsame =>
    refine List.sum_eq_zero fun count hmem => ?_
    obtain ⟨notifications, -, rfl⟩ := List.mem_map.mp hmem
    exact (Notifications.countOwner_removeOwner ..).trans (if_pos hsame)
  next hne =>
    refine congrArg List.sum (List.map_congr_left fun notifications _ => ?_)
    exact (Notifications.countOwner_removeOwner ..).trans (if_neg hne)

theorem foldl_countOwner (owner : Nat) (controller : Controller) :
    controller.notifications.foldl (fun count slots => count + slots.countOwner owner) 0 =
      controller.countOwner owner := by
  rw [countOwner, List.sum_eq_foldl, List.foldl_map]

end Controller

/-! ## Tallies -/

namespace Driver

variable {before after driver : Driver} {gained released : List Nat}

/-- What a driver does, with the owners that it takes references for and those
that it gives references up for, in order. -/
inductive Tally : (gained released : List Nat) → Driver → Driver → Prop
  | keep {before after : Driver}
      (hregistrations : after.controller.notifications.map (·.registrations) =
        before.controller.notifications.map (·.registrations))
      (hreferences : after.references = before.references) : Tally [] [] before after
  | register {driver : Driver} {channel callback context owner id notifications}
      (hmanaged : channel < driver.controller.managed)
      (hregister : (driver.controller.notificationsOf channel).register callback context owner =
        .ok (id, notifications)) :
      Tally owner.toList [] driver ((register channel callback context owner).perform driver).2
  | unregister {driver : Driver} {channel id registration notifications}
      (hunregister : (driver.controller.notificationsOf channel).unregister id =
        .ok (registration, notifications)) :
      Tally [] registration.owner.toList driver ((unregister channel id).perform driver).2
  | removeOwner (owner driver) :
      Tally [] (List.replicate (driver.controller.countOwner owner) owner) driver
        (driver.removeOwner owner).2
  | clear (channel driver) :
      Tally [] (driver.controller.notificationsOf channel).owners driver
        (driver.clearChannel channel)

/-- The tables gain and lose the registrations that references are taken and given
up for. -/
theorem Tally.count (htally : Tally gained released before after) (owner : Nat) :
    after.controller.countOwner owner + released.count owner =
      before.controller.countOwner owner + gained.count owner := by
  cases htally with
  | keep hregistrations =>
      rw [Controller.countOwner_of_registrations hregistrations]
  | @register _ _ _ _ _ _ notifications hmanaged hregister =>
      have hcount := Controller.countOwner_updateNotifications hmanaged (fun _ => notifications) owner
      rw [Notifications.countOwner_register hregister] at hcount
      rw [perform_register_of_ok hregister, List.count_nil]
      dsimp only
      omega
  | @unregister _ _ _ _ notifications hunregister =>
      have hmanaged := Controller.managed_of_registration hunregister
      have hcount := Controller.countOwner_updateNotifications hmanaged (fun _ => notifications) owner
      rw [← Notifications.countOwner_unregister hunregister] at hcount
      rw [perform_unregister_of_ok hunregister, List.count_nil]
      dsimp only
      omega
  | removeOwner removed =>
      have hcount := Controller.countOwner_removeOwner removed owner before.controller
      rw [Driver.removeOwner, hcount, List.count_replicate, List.count_nil]
      by_cases hsame : owner = removed
      · rw [if_pos hsame, if_pos (by simp [hsame]), hsame, Nat.zero_add, Nat.add_zero]
      · rw [if_neg hsame, if_neg (by simpa using Ne.symm hsame)]
  | clear channel => exact Controller.countOwner_clear channel owner _

/-- References are taken and given up for the owners that are listed. -/
theorem Tally.references (htally : Tally gained released before after) (owner : Nat) :
    after.references[owner]? =
      before.references[owner]?.map (· + gained.count owner - released.count owner) := by
  cases htally with
  | keep _ hreferences =>
      rw [hreferences]
      exact Option.map_id'.symm
  | @register _ _ _ _ owner? _ _ hmanaged hregister =>
      rw [perform_register_of_ok hregister]
      cases owner? with
      | none => exact Option.map_id'.symm
      | some named => exact References.getElem?_hold named owner before.references
  | unregister hunregister =>
      rw [perform_unregister_of_ok hunregister]
      exact References.getElem?_releaseAll ..
  | removeOwner removed =>
      rw [Driver.removeOwner, Controller.foldl_countOwner]
      exact References.getElem?_releaseAll ..
  | clear channel => exact References.getElem?_releaseAll ..

/-- Any number of tallies. -/
abbrev Tallies : Driver → Driver → Prop :=
  Relation.ReflTransGen fun before after => ∃ gained released, Tally gained released before after

theorem Tallies.of_keep
    (hregistrations : after.controller.notifications.map (·.registrations) =
      before.controller.notifications.map (·.registrations))
    (hreferences : after.references = before.references) : Tallies before after :=
  .single ⟨[], [], .keep hregistrations hreferences⟩

theorem tallies_clearChannels (channels : List Nat) (driver : Driver) :
    Tallies driver (channels.foldl clearChannel driver) := by
  induction channels generalizing driver with
  | nil => exact .refl
  | cons channel channels ih =>
      exact Relation.ReflTransGen.head ⟨[], _, .clear channel driver⟩ (ih _)

variable {allowed : Disturbance → Prop} {channels : Nat}

theorem Use.tallies (huse : Use allowed (· < channels) before after)
    (hmanaged : before.controller.managed = channels) : Tallies before after := by
  rcases huse.cases with ⟨hsame, hreferences⟩ | ⟨owner, rfl⟩ |
    ⟨channel, callback, context, owner, hheld, rfl⟩ | ⟨channel, id, rfl⟩
  · exact Tallies.of_keep hsame.registrations hreferences
  · exact .single ⟨[], _, .removeOwner owner before⟩
  · cases hregister :
        (before.controller.notificationsOf channel).register callback context owner with
    | error error => rw [perform_register_of_error hregister]
    | ok registered => exact .single ⟨_, [], .register (hmanaged ▸ hheld) hregister⟩
  · cases hunregister : (before.controller.notificationsOf channel).unregister id with
    | error error => rw [perform_unregister_of_error hunregister]
    | ok removed => exact .single ⟨[], _, .unregister hunregister⟩

/-- Whatever a driver does is a sequence of tallies, as long as it registers
callbacks for managed channels only. -/
theorem Move.tallies (hmove : Move allowed (· < channels) before after)
    (hmanaged : before.controller.managed = channels) : Tallies before after := by
  cases hmove with
  | use huse => exact huse.tallies hmanaged
  | init region busAddress config =>
      rcases init_cases region busAddress config before with
        ⟨error, logged, hfailed, hlogs⟩ | ⟨hclosed, -, -, hopened⟩
      · rw [hfailed]
        exact Tallies.of_keep hlogs.aside.sameAssignment.registrations hlogs.references
      · rw [hopened]
        refine (tallies_clearChannels _ before).trans (Tallies.of_keep ?_ rfl)
        exact (Controller.aside_log _ _).sameAssignment.registrations
  | allocate index =>
      cases hsetup : before.controller.setup with
      | none => rw [perform_allocate_of_none hsetup]
      | some setup =>
          rw [perform_allocate hsetup]
          cases chooseChannel index setup with
          | error error => exact .refl
          | ok channel => exact Tallies.of_keep rfl rfl
  | release channel =>
      rw [perform_release]
      split
      · exact .refl
      · have hcleared : Tallies before (before.clearChannel channel) :=
          .single ⟨[], _, .clear channel before⟩
        exact hcleared.trans (Tallies.of_keep rfl rfl)
  | deinit =>
      cases hsetup : before.controller.setup with
      | none => rw [perform_deinit_of_none hsetup]
      | some setup =>
          rw [perform_deinit hsetup]
          split
          · exact .refl
          · have hmasked : Tallies before (before.update fun controller =>
                controller.write .interruptEnable
                  (controller.read .interruptEnable &&& ~~~channelBits setup.usable)) :=
              Tallies.of_keep rfl rfl
            exact (hmasked.trans (tallies_clearChannels _ _)).trans (Tallies.of_keep rfl rfl)

theorem Moves.tallies (hmoves : Moves allowed (· < channels) before after)
    (hmanaged : before.controller.managed = channels) : Tallies before after := by
  induction hmoves with
  | refl => exact .refl
  | tail hearlier hmove ih =>
      refine ih.trans (hmove.tallies ?_)
      exact (Controller.Steps.managed (Moves.steps hearlier)).trans hmanaged

end Driver

end CyclicDma
