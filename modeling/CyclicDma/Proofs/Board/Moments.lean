import CyclicDma.Proofs.Board.References
import CyclicDma.Proofs.Driver.Acts

/-! # Moments of a board

An operation of a board unfolds into the acts of its drivers. In between stand the
moments of the board: the visits that are under way are stacked there, each with the
registrations that it still has to call, since a callback may start others. Visits
are numbered in the order in which they begin.
-/

namespace CyclicDma

open Driver (Demand)

/-! ## Acts that demands involve -/

/-- The act may belong to a delivery. -/
def Act.IsDelivering : Act → Prop
  | work | interrupt | take _ | pass _ | call .. | finish .. | removeOwner _ => True
  | _ => False

/-- The act may be part of what is asked. -/
def Driver.Demand.Involves : Demand → Act → Prop
  | change _, act | interrupted _, act | allocate _, act => act = .work
  | interrupt, act => act = .interrupt
  | deliver _, act => act.IsDelivering
  | removeOwner owner, act => act = .removeOwner owner
  | poll future waker, act => act = .await future.channel waker
  | stopManager _, act => act = .work ∨ act = .interrupt
  | submit _ channel _, act | start _ channel, act | stop _ channel, act =>
      act = .work ∨ act = .interrupt ∨ act = .note channel
  | register channel _ _ owner, act => act = .register channel owner
  | unregister channel id, act => act = .unregister channel id
  | init .., act | deinit, act => act = .work ∨ ∃ channel, act = .clear channel
  | release channel, act => act = .work ∨ act = .clear channel

/-- The act may be part of the operation. -/
def Operation.Involves (board : Board) (operation : Operation) (index : Nat) (act : Act) : Prop :=
  ∃ demand, operation.Asks board index demand ∧ demand.Involves act

/-! ## Moments -/

/-- A visit to a channel that is under way. -/
structure Visit where
  number : Nat
  controller : Nat
  channel : Nat
  /-- The registrations that are still to be called, in order. -/
  calls : List Registration
  waker : Option Waker

/-- A board while something is done with it. -/
structure Moment where
  board : Board
  /-- The visits that are under way, newest first. -/
  visits : List Visit := []
  /-- The number of visits that began so far. -/
  begun : Nat := 0

/-- The act neither begins nor ends a visit, and is no call. -/
def Act.KeepsVisits : Act → Prop
  | take _ | call .. | finish .. => False
  | _ => True

namespace Moment

/-- How visits go on while the driver of a controller acts. -/
inductive Visiting (index : Nat) (controller : Controller) :
    Act → List Visit × Nat → List Visit × Nat → Prop
  | keep {act} (hkeeps : act.KeepsVisits) (visits) : Visiting index controller act visits visits
  | begin (channel visits begun) :
      Visiting index controller (.take channel) (visits, begun)
        ({ number := begun
           controller := index
           channel
           calls := Driver.calls (controller.notificationsOf channel).pending.toNat
             (controller.notificationsOf channel).registrations
           waker := (controller.notificationsOf channel).waker } :: visits, begun + 1)
  | call (number channel registration rest waker visits begun) :
      Visiting index controller (.call channel registration)
        (⟨number, index, channel, registration :: rest, waker⟩ :: visits, begun)
        (⟨number, index, channel, rest, waker⟩ :: visits, begun)
  | finish (number channel waker visits begun) :
      Visiting index controller (.finish channel waker)
        (⟨number, index, channel, [], waker⟩ :: visits, begun) (visits, begun)

/-- The driver of a controller acts. -/
inductive Does (index : Nat) (act : Act) : Moment → Moment → Prop
  | act {board : Board} {controller driver visits later begun next}
      (hfound : board.controllers[index]? = some controller)
      (hdoes : Driver.Does act ⟨controller, board.references⟩ driver)
      (hvisits : Visiting index controller act (visits, begun) (later, next)) :
      Does index act ⟨board, visits, begun⟩ ⟨board.withDriver index driver, later, next⟩

/-- A driver acts as it is allowed to, or what clients hold changes. -/
inductive Next (allowed : Moment → Nat → Act → Prop) : Moment → Moment → Prop
  | act {index act before after} (hallowed : allowed before index act)
      (hdoes : Does index act before after) : Next allowed before after
  | hold {before after : Board} (hcontrollers : after.controllers = before.controllers)
      (hreferences : after.references = before.references) (visits begun) :
      Next allowed ⟨before, visits, begun⟩ ⟨after, visits, begun⟩

/-- One moment leads to another one, by acts that are allowed. -/
abbrev Unfolds (allowed : Moment → Nat → Act → Prop) : Moment → Moment → Prop :=
  Relation.ReflTransGen (Next allowed)

/-- One moment leads to another one. -/
abbrev Leads : Moment → Moment → Prop :=
  Unfolds fun _ _ _ => True

theorem Unfolds.mono {allowed wider : Moment → Nat → Act → Prop} {before after : Moment}
    (hunfolds : Unfolds allowed before after)
    (hwider : ∀ moment index act, allowed moment index act → wider moment index act) :
    Unfolds wider before after := by
  refine Relation.ReflTransGen.mono (fun before after hnext => ?_) _ _ hunfolds
  cases hnext with
  | act hallowed hdoes => exact .act (hwider _ _ _ hallowed) hdoes
  | hold hcontrollers hreferences => exact .hold hcontrollers hreferences ..

end Moment

/-! ## Drivers act on a board -/

namespace Driver

open Moment (Unfolds)

variable {index : Nat} {involved : Act → Prop} {before middle after driver : Driver} {act : Act}

/-- What the driver of a controller does unfolds into acts, whatever visits are under
way. -/
structure Plays (index : Nat) (involved : Act → Prop) (before after : Driver) : Prop where
  managed : after.controller.managed = before.controller.managed
  unfolds (board : Board) (visits begun)
    (hfound : board.controllers[index]? = some before.controller)
    (hreferences : board.references = before.references) :
    ∃ next, Unfolds (fun _ other act => other = index ∧ involved act) ⟨board, visits, begun⟩
      ⟨board.withDriver index after, visits, next⟩

namespace Plays

theorem refl (driver : Driver) : Plays index involved driver driver := by
  refine ⟨rfl, fun board visits begun hfound hreferences => ⟨begun, ?_⟩⟩
  have hself := Board.withDriver_self hfound
  rw [hreferences] at hself
  rw [hself]

theorem trans (hfirst : Plays index involved before middle)
    (hsecond : Plays index involved middle after) : Plays index involved before after := by
  refine ⟨hsecond.managed.trans hfirst.managed, fun board visits begun hfound hreferences => ?_⟩
  obtain ⟨next, hbegins⟩ := hfirst.unfolds board visits begun hfound hreferences
  obtain ⟨last, hends⟩ := hsecond.unfolds (board.withDriver index middle) visits next
    (Board.found_withDriver hfound middle) rfl
  rw [Board.withDriver_withDriver] at hends
  exact ⟨last, hbegins.trans hends⟩

instance : Std.Refl (Plays index involved) :=
  ⟨refl⟩

instance : IsTrans Driver (Plays index involved) :=
  ⟨fun _ _ _ => trans⟩

theorem foldl {α : Type} {step : Driver → α → Driver}
    (hstep : ∀ driver item, Plays index involved driver (step driver item)) (items : List α)
    (driver : Driver) : Plays index involved driver (items.foldl step driver) := by
  induction items generalizing driver with
  | nil => exact .refl driver
  | cons item items ih => exact (hstep driver item).trans (ih _)

/-- A single act. -/
theorem single (hinvolved : involved act) (hkeeps : act.KeepsVisits) (hdoes : Does act before after) :
    Plays index involved before after := by
  refine ⟨hdoes.managed, fun board visits begun hfound hreferences => ⟨begun, ?_⟩⟩
  obtain ⟨controller, references⟩ := before
  cases hreferences
  exact .single (.act ⟨rfl, hinvolved⟩ (.act hfound hdoes (.keep hkeeps _)))

theorem work (hinvolved : involved .work)
    (hquiet : Controller.Quiet before.controller after.controller)
    (hreferences : after.references = before.references) : Plays index involved before after :=
  .single hinvolved trivial (.work hquiet hreferences)

end Plays

/-! ### Deliveries -/

theorem delivering_managed :
    Delivering fun before after => after.controller.managed = before.controller.managed where
  refl _ := rfl
  trans hfirst hsecond := hsecond.trans hfirst
  record _ _ _ := rfl
  abort _ := (Controller.keeps_abort ..).managed
  take _ _ := Controller.managed_updateNotifications ..
  removeOwner _ _ := List.length_map ..
  interrupt driver := (Does.interrupt driver).managed

section

variable {react : React}
variable (hinvolved : ∀ act : Act, act.IsDelivering → involved act)
variable (hreact : ∀ reaction driver, Plays index involved driver (react reaction driver))

include hinvolved hreact

/-- A visit calls its registrations, one after the other. -/
theorem unfolds_calls (channel : Nat) (registrations : List Registration) (driver : Driver)
    (board : Board) (number : Nat) (waker : Option Waker) (visits : List Visit) (begun : Nat)
    (hfound : board.controllers[index]? = some driver.controller)
    (hreferences : board.references = driver.references) :
    ∃ next, Unfolds (fun _ other act => other = index ∧ involved act)
      ⟨board, ⟨number, index, channel, registrations, waker⟩ :: visits, begun⟩
      ⟨board.withDriver index (registrations.foldl (call react channel) driver),
        ⟨number, index, channel, [], waker⟩ :: visits, next⟩ := by
  induction registrations generalizing driver board begun with
  | nil => exact (Plays.refl driver : Plays index involved driver driver).unfolds board _ begun hfound hreferences
  | cons registration rest ih =>
      obtain ⟨controller, references⟩ := driver
      cases hreferences
      have hcalled := Does.call channel registration ⟨controller, board.references⟩
      have hreacted := Plays.foldl (fun driver reaction => hreact reaction driver)
        registration.callback.reactions (update (·.record
          (.call registration.callback channel registration.context)) ⟨controller, board.references⟩)
      -- the call comes first, then what the callback does, then the remaining calls
      obtain ⟨reacted, hreacts⟩ := hreacted.unfolds _
        (⟨number, index, channel, rest, waker⟩ :: visits) begun
        (Board.found_withDriver hfound _) rfl
      obtain ⟨last, hrest⟩ := ih (call react channel ⟨controller, board.references⟩ registration)
        (board.withDriver index _) reacted (Board.found_withDriver hfound _) rfl
      rw [Board.withDriver_withDriver] at hreacts hrest
      have hcall : involved (.call channel registration) := hinvolved _ trivial
      refine ⟨last, .head (.act ⟨rfl, hcall⟩ (.act hfound hcalled (.call ..))) ?_⟩
      exact hreacts.trans hrest

theorem plays_visit (driver : Driver) (channel : Nat) :
    Plays index involved driver (visit react driver channel) := by
  by_cases hdue : driver.Due channel
  · refine ⟨delivering_managed.visit (fun reaction driver => (hreact reaction driver).managed) ..,
      fun board visits begun hfound hreferences => ?_⟩
    obtain ⟨controller, references⟩ := driver
    cases hreferences
    rw [visit_of_due hdue]
    obtain ⟨last, hcalls⟩ := unfolds_calls hinvolved hreact channel
      (calls (controller.notificationsOf channel).pending.toNat
        (controller.notificationsOf channel).registrations)
      (taken channel ⟨controller, board.references⟩)
      (board.withDriver index (taken channel ⟨controller, board.references⟩)) begun
      (controller.notificationsOf channel).waker visits (begun + 1)
      (Board.found_withDriver hfound (taken channel ⟨controller, board.references⟩)) rfl
    rw [Board.withDriver_withDriver] at hcalls
    generalize (calls (controller.notificationsOf channel).pending.toNat
      (controller.notificationsOf channel).registrations).foldl (call react channel)
        (taken channel ⟨controller, board.references⟩) = called at hcalls ⊢
    have hbegins := Moment.Does.act hfound (Does.take hdue) (.begin channel visits begun)
    have hends := Moment.Does.act (Board.found_withDriver hfound called)
      (Does.finish channel (controller.notificationsOf channel).waker called)
      (.finish begun channel _ visits last)
    rw [Board.withDriver_withDriver] at hends
    have htake : involved (.take channel) := hinvolved _ trivial
    have hfinish : involved (.finish channel (controller.notificationsOf channel).waker) :=
      hinvolved _ trivial
    exact ⟨last, .head (.act ⟨rfl, htake⟩ hbegins) (hcalls.tail (.act ⟨rfl, hfinish⟩ hends))⟩
  · have hpassed : Plays index involved driver driver :=
      .single (hinvolved (.pass channel) trivial) trivial (.pass hdue)
    rw [visit_of_not_due hdue]
    exact hpassed

theorem plays_dispatchWith (driver : Driver) :
    Plays index involved driver (dispatchWith react driver) :=
  Plays.foldl (plays_visit hinvolved hreact) _ driver

omit hreact

theorem plays_reaction (depth : Nat) (reaction : Reaction) (driver : Driver) :
    Plays index involved driver (Driver.reaction depth reaction driver) := by
  induction depth generalizing reaction driver with
  | zero => exact .refl driver
  | succ depth ih =>
      have hreport : ∀ event : Event, ¬ event.IsDelivery → ∀ driver : Driver,
          Plays index involved driver (driver.update (·.record event)) := fun event hevent driver =>
        .work (hinvolved _ trivial) (Controller.quiet_record hevent _) rfl
      cases reaction with
      | removeOwner owner =>
          exact (Plays.single (hinvolved (.removeOwner owner) trivial) trivial
            (.removeOwner owner driver)).trans (hreport (.ownerRemoved _) id _)
      | interrupt =>
          exact (Plays.single (hinvolved .interrupt trivial) trivial (.interrupt driver)).trans
            (hreport (.interrupted _) id _)
      -- callbacks that are called here react at the depth below
      | dispatch =>
          have hdelivered := plays_dispatchWith hinvolved ih driver
          rw [← dispatchNested_eq] at hdelivered
          exact hdelivered.trans (hreport .dispatched id _)

theorem plays_dispatchNested (depth : Nat) (driver : Driver) :
    Plays index involved driver (driver.dispatchNested depth) := by
  rw [dispatchNested_eq]
  exact plays_dispatchWith hinvolved (plays_reaction hinvolved depth) driver

end

/-! ### Threads -/

/-- The controller of the driver is all that changes. -/
def PlaysOn (index : Nat) (involved : Act → Prop) (before after : Controller) : Prop :=
  ∀ references, Plays index involved ⟨before, references⟩ ⟨after, references⟩

instance : Std.Refl (PlaysOn index involved) :=
  ⟨fun _ _ => .refl _⟩

instance : IsTrans Controller (PlaysOn index involved) :=
  ⟨fun _ _ _ hfirst hsecond references => (hfirst references).trans (hsecond references)⟩

theorem stirs_playsOn {noted : Nat → Prop} (hwork : involved .work)
    (hinterrupt : involved .interrupt) (hnote : ∀ channel, noted channel → involved (.note channel)) :
    Controller.Stirs noted (PlaysOn index involved) where
  quiet hquiet _ := .work hwork hquiet rfl
  interrupt _ _ := .single hinterrupt trivial (.interrupt _)
  note hnoted _ _ := .single (hnote _ hnoted) trivial (.note _ _)

/-! ### Demands -/

theorem plays_clearChannels (hclear : ∀ channel, involved (.clear channel)) (channels : List Nat)
    (driver : Driver) : Plays index involved driver (channels.foldl clearChannel driver) :=
  Plays.foldl (fun driver channel => .single (hclear channel) trivial (.clear channel driver))
    channels driver

theorem plays_init (region : Region) (busAddress : UInt32) (config : Config) (driver : Driver) :
    Plays index (Demand.init region busAddress config).Involves driver
      ((init region busAddress config).perform driver).2 := by
  have hwork : (Demand.init region busAddress config).Involves .work := .inl rfl
  rcases init_cases region busAddress config driver with
    ⟨error, logged, hfailed, hlogs⟩ | ⟨-, -, -, hopened⟩
  · rw [hfailed]
    exact .work hwork hlogs.quiet hlogs.references
  · rw [hopened]
    have hclear : ∀ channel, (Demand.init region busAddress config).Involves (.clear channel) :=
      fun channel => .inr ⟨channel, rfl⟩
    have hcleared : Plays index _ driver _ := plays_clearChannels hclear
      (List.range (usableChannels (Device.ofRegisters driver.controller.registers)
        driver.controller)) driver
    refine hcleared.trans (.work hwork ?_ rfl)
    refine Controller.Quiet.trans ?_ (Controller.quiet_log ..)
    exact ⟨rfl, rfl⟩

theorem plays_allocate (channel? : Option Nat) (driver : Driver) :
    Plays index (Demand.allocate channel?).Involves driver
      ((allocate channel?).perform driver).2 := by
  cases hsetup : driver.controller.setup with
  | none =>
      rw [perform_allocate_of_none hsetup]
      exact .refl driver
  | some setup =>
      rw [perform_allocate hsetup]
      cases chooseChannel channel? setup with
      | error error => exact .refl driver
      | ok channel => exact .work rfl (Controller.quiet_setup ..) rfl

theorem plays_release (channel : Nat) (driver : Driver) :
    Plays index (Demand.release channel).Involves driver ((release channel).perform driver).2 := by
  rw [perform_release]
  split
  · exact .refl driver
  · have hcleared : Plays index (Demand.release channel).Involves driver
        (driver.clearChannel channel) := .single (.inr rfl) trivial (.clear channel driver)
    exact hcleared.trans (.work (.inl rfl) (Controller.quiet_setup ..) rfl)

theorem plays_deinit (driver : Driver) :
    Plays index Demand.deinit.Involves driver (deinit.perform driver).2 := by
  cases hsetup : driver.controller.setup with
  | none =>
      rw [perform_deinit_of_none hsetup]
      exact .refl driver
  | some setup =>
      rw [perform_deinit hsetup]
      split
      · exact .refl driver
      · have hmasked : Plays index Demand.deinit.Involves driver
            (driver.update fun controller =>
              controller.write .interruptEnable
                (controller.read .interruptEnable &&& ~~~channelBits setup.usable)) :=
          .work (.inl rfl) (Controller.quiet_write ..) rfl
        have hclear : ∀ channel, Demand.deinit.Involves (.clear channel) :=
          fun channel => .inr ⟨channel, rfl⟩
        have hcleared : Plays index _ _ _ := plays_clearChannels hclear
          (List.range driver.controller.managed) (driver.update fun controller =>
            controller.write .interruptEnable
              (controller.read .interruptEnable &&& ~~~channelBits setup.usable))
        exact (hmasked.trans hcleared).trans (.work (.inl rfl) (Controller.quiet_setup ..) rfl)

theorem plays_poll (future : PeriodFuture) (waker : Waker) (driver : Driver) :
    Plays index (Demand.poll future waker).Involves driver
      ((Demand.poll future waker).perform driver) := by
  rcases Controller.pollPeriod_cases future waker driver.controller with
    ⟨result, hready⟩ | hpending
  · rw [Demand.perform, hready]
    exact .refl driver
  · rw [Demand.perform, hpending]
    exact .single rfl trivial (.await future.channel waker driver)

/-- Whatever a driver is asked for unfolds into acts that this involves. Callbacks are
registered for channels that are managed. -/
theorem Demand.plays (demand : Demand) (driver : Driver)
    (hregister : ∀ channel callback context owner,
      demand = .register channel callback context owner → channel < driver.controller.managed) :
    Plays index demand.Involves driver (demand.perform driver) := by
  cases demand with
  | change changes => exact .work rfl (Controller.quiet_changeAll ..) rfl
  | interrupt => exact .single rfl trivial (.interrupt driver)
  | interrupted handled =>
      exact .work rfl (Controller.quiet_record (show ¬ (Event.interrupted handled).IsDelivery from id) _)
        rfl
  | deliver depth => exact plays_dispatchNested (fun _ hdelivering => hdelivering) depth driver
  | removeOwner owner => exact .single rfl trivial (.removeOwner owner driver)
  | poll future waker => exact plays_poll future waker driver
  | stopManager world =>
      have hstirs : Controller.Stirs (fun _ => False)
          (PlaysOn index (Demand.stopManager world).Involves) :=
        stirs_playsOn (.inl rfl) (.inr rfl) fun _ hnoted => hnoted.elim
      exact (hstirs.stopping .manager).stopThread world driver.controller driver.references
  | submit world channel order =>
      have hstirs : Controller.Stirs (· = channel)
          (PlaysOn index (Demand.submit world channel order).Involves) :=
        stirs_playsOn (.inl rfl) (.inr (.inl rfl)) fun _ hnoted => .inr (.inr (by rw [hnoted]))
      exact (hstirs.submitting rfl).submit world order driver.controller driver.references
  | start world channel =>
      have hstirs : Controller.Stirs (· = channel)
          (PlaysOn index (Demand.start world channel).Involves) :=
        stirs_playsOn (.inl rfl) (.inr (.inl rfl)) fun _ hnoted => .inr (.inr (by rw [hnoted]))
      exact (hstirs.submitting rfl).start world driver.controller driver.references
  | stop world channel =>
      have hstirs : Controller.Stirs (· = channel)
          (PlaysOn index (Demand.stop world channel).Involves) :=
        stirs_playsOn (.inl rfl) (.inr (.inl rfl)) fun _ hnoted => .inr (.inr (by rw [hnoted]))
      exact (hstirs.submitting rfl).stop world driver.controller driver.references
  | register channel callback context owner =>
      change Plays index _ driver
        ((Driver.register channel callback context owner).perform driver).2
      cases hregistered :
          (driver.controller.notificationsOf channel).register callback context owner with
      | error error =>
          rw [perform_register_of_error hregistered]
          exact .refl driver
      | ok registered =>
          exact .single rfl trivial (.register (hregister _ _ _ _ rfl) hregistered)
  | unregister channel id =>
      change Plays index _ driver ((Driver.unregister channel id).perform driver).2
      cases hunregistered : (driver.controller.notificationsOf channel).unregister id with
      | error error =>
          rw [perform_unregister_of_error hunregistered]
          exact .refl driver
      | ok removed => exact .single rfl trivial (.unregister hunregistered)
  | init region busAddress config => exact plays_init region busAddress config driver
  | allocate channel? => exact plays_allocate channel? driver
  | release channel => exact plays_release channel driver
  | deinit => exact plays_deinit driver

theorem Plays.mono {wider : Act → Prop} (hplays : Plays index involved before after)
    (hwider : ∀ act, involved act → wider act) : Plays index wider before after := by
  refine ⟨hplays.managed, fun board visits begun hfound hreferences => ?_⟩
  obtain ⟨next, hunfolds⟩ := hplays.unfolds board visits begun hfound hreferences
  exact ⟨next, hunfolds.mono fun _ _ act hboth => ⟨hboth.1, hwider act hboth.2⟩⟩

/-- Whatever is asked of a driver unfolds into acts. -/
theorem Serves.plays {asked : Demand → Prop} (hserves : Serves asked before after)
    (hregister : ∀ channel callback context owner,
      asked (.register channel callback context owner) → channel < before.controller.managed) :
    Plays index (fun act => ∃ demand, asked demand ∧ demand.Involves act) before after := by
  induction hserves with
  | refl => exact .refl before
  | tail _ hlast ih =>
      obtain ⟨demand, hasked, rfl⟩ := hlast
      refine ih.trans ((demand.plays _ ?_).mono fun act hinvolves => ⟨demand, hasked, hinvolves⟩)
      rintro channel callback context owner rfl
      rw [ih.managed]
      exact hregister channel callback context owner hasked

end Driver

/-! ## Operations unfold -/

namespace Board

open Moment (Unfolds)

variable {board before after : Board} {asked : Nat → Demand → Prop}
variable {hold : Board → Board → Prop}

/-- Whatever is asked of drivers unfolds into acts that this involves. -/
theorem Serves.unfolds (hserves : Serves asked hold before after)
    (hregister : ∀ index channel callback context owner,
      asked index (.register channel callback context owner) → channel < before.managedAt index)
    (visits : List Visit) (begun : Nat) :
    ∃ next, Unfolds (fun _ index act => ∃ demand, asked index demand ∧ demand.Involves act)
      ⟨before, visits, begun⟩ ⟨after, visits, next⟩ := by
  have hkept := Works.keep (fun board =>
      (∃ next, Unfolds (fun _ index act => ∃ demand, asked index demand ∧ demand.Involves act)
        ⟨before, visits, begun⟩ ⟨board, visits, next⟩) ∧
        board.controllers.map (·.managed) = before.controllers.map (·.managed))
    hserves ?_ ?_ ⟨⟨begun, .refl⟩, rfl⟩
  · exact hkept.1
  · intro board index controller driver hfound hdriver ⟨⟨middle, hunfolds⟩, hmanaged⟩
    have hchannels : controller.managed = before.managedAt index := by
      rw [← managedAt_eq hfound, managedAt, managedAt, hmanaged]
    have hplays : Driver.Plays index _ _ _ := Driver.Serves.plays hdriver
      fun channel callback context owner hasked =>
        hchannels ▸ hregister index channel callback context owner hasked
    obtain ⟨next, hmore⟩ := hplays.unfolds board visits middle hfound rfl
    refine ⟨⟨next, hunfolds.trans (hmore.mono ?_)⟩,
      (map_managed_withDriver hfound hplays.managed).trans hmanaged⟩
    rintro moment other act ⟨rfl, hinvolved⟩
    exact hinvolved
  · intro middle after hcontrollers hreferences _ ⟨⟨next, hunfolds⟩, hmanaged⟩
    exact ⟨⟨next, hunfolds.tail (.hold hcontrollers hreferences ..)⟩, hcontrollers ▸ hmanaged⟩

/-- An operation unfolds into acts that are part of it. -/
theorem Reachable.unfolds_perform (hboard : board.Reachable) (operation : Operation)
    (visits : List Visit) (begun : Nat) :
    ∃ next, Unfolds (fun _ => operation.Involves board) ⟨board, visits, begun⟩
      ⟨(board.perform operation).2, visits, next⟩ := by
  refine (serves_perform operation board).unfolds ?_ visits begun
  intro index channel callback context owner hasks
  exact @Operation.within_of_asks (fun _ => True) (fun index channel => channel < board.managedAt index)
    board operation index _ hboard.held_lt_managedAt operation.causes_anything hasks

/-- So does a delivery. -/
theorem unfolds_deliver (index depth : Nat) (board : Board) (visits : List Visit) (begun : Nat) :
    ∃ next, Unfolds (fun _ other act => other = index ∧ act.IsDelivering) ⟨board, visits, begun⟩
      ⟨((onDriver index fun driver => ((), driver.dispatchNested depth)).run.run board).2,
        visits, next⟩ := by
  cases hfound : board.controllers[index]? with
  | none =>
      rw [run_onDriver_of_none hfound]
      exact ⟨begun, .refl⟩
  | some controller =>
      rw [run_onDriver hfound]
      exact (Driver.plays_dispatchNested (fun _ hdelivering => hdelivering) depth
        ⟨controller, board.references⟩).unfolds board visits begun hfound rfl

/-- Whatever is done with the board unfolds into acts that belong to it, also while
visits are under way. -/
structure IsPlayed (board : Board) : Prop where
  perform (operation : Operation) (visits : List Visit) (begun : Nat) :
    ∃ next, Unfolds (fun _ => operation.Involves board) ⟨board, visits, begun⟩
      ⟨(board.perform operation).2, visits, next⟩
  deliver (index depth : Nat) (visits : List Visit) (begun : Nat) :
    ∃ next, Unfolds (fun _ other act => other = index ∧ act.IsDelivering) ⟨board, visits, begun⟩
      ⟨((onDriver index fun driver => ((), driver.dispatchNested depth)).run.run board).2,
        visits, next⟩

theorem Reachable.isPlayed (hboard : board.Reachable) : board.IsPlayed :=
  ⟨hboard.unfolds_perform, fun index depth => unfolds_deliver index depth board⟩

/-! ## The state of a channel from moment to moment -/

/-- The notification state of a channel. -/
def stateOf (index channel : Nat) (board : Board) : Notifications :=
  board.controllers[index]?.elim {} (·.notificationsOf channel)

/-- Who was called or woken by the driver of a controller, newest first. -/
def deliveriesOf (index : Nat) (board : Board) : List Event :=
  board.controllers[index]?.elim [] (·.deliveries)

variable {controller : Controller} {driver : Driver} {index other channel : Nat}

theorem stateOf_eq (hfound : board.controllers[index]? = some controller) (channel : Nat) :
    board.stateOf index channel = controller.notificationsOf channel := by
  rw [stateOf, hfound]
  rfl

theorem stateOf_withDriver_self (hfound : board.controllers[index]? = some controller)
    (driver : Driver) (channel : Nat) :
    (board.withDriver index driver).stateOf index channel =
      driver.controller.notificationsOf channel :=
  stateOf_eq (found_withDriver hfound driver) channel

theorem stateOf_withDriver_of_ne (hne : other ≠ index) (driver : Driver) (channel : Nat) :
    (board.withDriver other driver).stateOf index channel = board.stateOf index channel := by
  rw [stateOf, stateOf, withDriver, List.getElem?_set_ne hne]

end Board

namespace Moment

variable {allowed : Moment → Nat → Act → Prop} {act : Act} {index other : Nat}
variable {before after : Moment}

theorem Does.alters (hdoes : Does index act before after) (channel : Nat) :
    Driver.Alters channel act (before.board.stateOf index channel)
      (after.board.stateOf index channel) := by
  cases hdoes with
  | act hfound hdoes =>
      rw [Board.stateOf_eq hfound, Board.stateOf_withDriver_self hfound]
      exact hdoes.alters channel

/-- The channels of the other controllers are left alone. -/
theorem Does.stateOf_of_ne (hdoes : Does other act before after) (hne : other ≠ index)
    (channel : Nat) : after.board.stateOf index channel = before.board.stateOf index channel := by
  cases hdoes with
  | act => exact Board.stateOf_withDriver_of_ne hne _ channel

/-- What becomes of the state of a channel is due to an act of its driver. -/
theorem Next.alters (hnext : Next allowed before after) (index channel : Nat) :
    after.board.stateOf index channel = before.board.stateOf index channel ∨
      ∃ act, allowed before index act ∧ Does index act before after ∧
        Driver.Alters channel act (before.board.stateOf index channel)
          (after.board.stateOf index channel) := by
  cases hnext with
  | @act acting act _ _ hallowed hdoes =>
      by_cases hsame : acting = index
      · subst hsame
        exact .inr ⟨act, hallowed, hdoes, hdoes.alters channel⟩
      · exact .inl (hdoes.stateOf_of_ne hsame channel)
  | hold hcontrollers => exact .inl (by rw [Board.stateOf, Board.stateOf, hcontrollers])

theorem Does.deliveriesOf (hdoes : Does index act before after) :
    after.board.deliveriesOf index = act.deliveries ++ before.board.deliveriesOf index := by
  cases hdoes with
  | act hfound hdoes =>
      rw [Board.deliveriesOf, Board.deliveriesOf, Board.found_withDriver hfound, hfound]
      exact hdoes.deliveries

/-- Whoever is called or woken is called or woken by an act. -/
theorem Next.deliveries (hnext : Next allowed before after) (index : Nat) :
    after.board.deliveriesOf index = before.board.deliveriesOf index ∨
      ∃ act, allowed before index act ∧ Does index act before after ∧
        after.board.deliveriesOf index = act.deliveries ++ before.board.deliveriesOf index := by
  cases hnext with
  | @act acting act _ _ hallowed hdoes =>
      by_cases hsame : acting = index
      · subst hsame
        exact .inr ⟨act, hallowed, hdoes, hdoes.deliveriesOf⟩
      · cases hdoes with
        | act =>
            refine .inl ?_
            rw [Board.deliveriesOf, Board.deliveriesOf, Board.withDriver,
              List.getElem?_set_ne hsame]
  | hold hcontrollers =>
      exact .inl (by rw [Board.deliveriesOf, Board.deliveriesOf, hcontrollers])

theorem Does.managedAt (hdoes : Does index act before after) (other : Nat) :
    after.board.managedAt other = before.board.managedAt other := by
  cases hdoes with
  | act hfound hdriver =>
      rw [Board.managedAt, Board.managedAt, Board.map_managed_withDriver hfound hdriver.managed]

theorem Unfolds.managedAt (hunfolds : Unfolds allowed before after) (index : Nat) :
    after.board.managedAt index = before.board.managedAt index := by
  induction hunfolds with
  | refl => rfl
  | tail _ hnext ih =>
      refine Eq.trans ?_ ih
      cases hnext with
      | act _ hdoes => exact hdoes.managedAt index
      | hold hcontrollers => rw [Board.managedAt, Board.managedAt, hcontrollers]

theorem Does.found_interrupt (hdoes : Does index .interrupt before after) :
    ∃ controller, before.board.controllers[index]? = some controller ∧
      after.board.controllers[index]? = some controller.onInterrupt.2 := by
  cases hdoes with
  | act hfound hdriver =>
      cases hdriver with
      | interrupt => exact ⟨_, hfound, Board.found_withDriver hfound _⟩

theorem Does.found_take {channel : Nat} (hdoes : Does index (.take channel) before after) :
    ∃ driver : Driver, before.board.controllers[index]? = some driver.controller ∧
      driver.Due channel ∧
      after.board.controllers[index]? = some (driver.taken channel).controller := by
  cases hdoes with
  | act hfound hdriver =>
      cases hdriver with
      | take hdue => exact ⟨_, hfound, hdue, Board.found_withDriver hfound _⟩

/-- Only managed channels are visited. -/
theorem Does.managed_of_take {channel : Nat} (hdoes : Does index (.take channel) before after) :
    channel < before.board.managedAt index := by
  obtain ⟨_, hfound, hdue, -⟩ := hdoes.found_take
  rw [Board.managedAt_eq hfound]
  exact hdue.managed

theorem Does.tallies (hdoes : Does index act before after) :
    Board.Tallies before.board after.board := by
  cases hdoes with
  | act hfound hdoes => exact Board.tallies_withDriver hfound hdoes.tallies

theorem Next.tallies (hnext : Next allowed before after) :
    Board.Tallies before.board after.board := by
  cases hnext with
  | act _ hdoes => exact hdoes.tallies
  | hold hcontrollers hreferences => exact .single ⟨[], [], .hold hcontrollers hreferences⟩

/-- References stay exact from moment to moment. -/
theorem Unfolds.tallies (hunfolds : Unfolds allowed before after) :
    Board.Tallies before.board after.board := by
  induction hunfolds with
  | refl => exact .refl
  | tail _ hnext ih => exact ih.trans hnext.tallies

end Moment

end CyclicDma
