import CyclicDma.Proofs.Board.Places
import CyclicDma.Proofs.Board.Slabs
import CyclicDma.Proofs.Driver.Initializing

/-! # Sessions

An initialization opens a session, or it is refused and leaves everything as it was. The
session lasts until the region is handed back. Then the controller is as if it had never
been initialized, as far as another initialization can tell.
-/

namespace CyclicDma

namespace Controller

/-- The channels that can be used, as far as the registers tell. -/
def usable (controller : Controller) : Nat :=
  Driver.usableChannels (Device.ofRegisters controller.registers) controller

/-- A region was divided among the channels of a controller. -/
structure Divided (region : Region) (busAddress : UInt32) (config : Config)
    (before after : Controller) : Prop where
  registers : after.registers = before.registers
  config : after.config = config
  /-- All channels that can be used are free. -/
  setup : after.setup = some
    { device := Device.ofRegisters before.registers
      region
      busAddress
      requests := List.replicate before.usable none }
  /-- Nothing is registered and nothing waits for delivery. Ids and the periods that were
  delivered count on. -/
  silent : ∀ channel < before.usable, ∃ nextId periods,
    after.notificationsOf channel = { nextId, periods }
  slabs : ∀ channel < before.usable, (region.slab channel).length = Region.slabBytes
  /-- No slab shares a byte with another one. -/
  apart : ∀ channel < before.usable, ∀ other ≠ channel, ∀ slab : List UInt8,
    slab.length = Region.slabBytes →
      (region.storeSlab channel slab).slab channel = slab ∧
        (region.storeSlab channel slab).slab other = region.slab other
  addresses : ∀ setup channel, after.setup = some setup →
    busAddress.toNat + Region.slabBytes * channel < UInt32.size →
      (setup.slabAddress channel).toNat = busAddress.toNat + Region.slabBytes * channel

/-- A region was handed back. -/
structure Undivided (device : Device) (before after : Controller) : Prop where
  setup : after.setup = none
  /-- The events of the channels that could be used are masked. -/
  events : ∀ position, bitOf (after.read .interruptEnable) position =
    (bitOf (before.read .interruptEnable) position &&
      !decide (position < Driver.usableChannels device before))
  registers : ∀ register ≠ .interruptEnable, after.read register = before.read register
  silent : ∀ channel, ∃ nextId periods,
    after.notificationsOf channel = { nextId, periods }

end Controller

/-- Slabs are found where the region says, as long as addresses do not wrap around. -/
theorem Setup.toNat_slabAddress {setup : Setup} {channel : Nat}
    (hbound : setup.busAddress.toNat + Region.slabBytes * channel < UInt32.size) :
    (setup.slabAddress channel).toNat =
      setup.busAddress.toNat + Region.slabBytes * channel := by
  have hoffset : Region.slabBytes * channel < UInt32.size :=
    Nat.lt_of_le_of_lt (Nat.le_add_left ..) hbound
  rw [slabAddress, UInt32.toNat_add, UInt32.toNat_ofNat_of_lt' hoffset]
  exact Nat.mod_eq_of_lt hbound

theorem Driver.divided_opened {region : Region} {driver : Driver}
    (hregion : Region.slabBytes * driver.controller.usable ≤ region.bytes.length)
    (busAddress : UInt32) (config : Config) :
    Controller.Divided region busAddress config driver.controller
      (driver.opened region busAddress config).controller := by
  have hslabs : ∀ channel < driver.controller.usable,
      (region.slab channel).length = Region.slabBytes := fun channel husable =>
    Region.length_slab_of_le ((Nat.mul_le_mul_left _ husable).trans hregion)
  refine ⟨registers_opened .., config_opened .., setup_opened .., fun channel husable => ?_, hslabs,
    fun channel husable other hother slab hlength => ?_, fun setup channel hsetup hbound => ?_⟩
  · exact ⟨_, _, (notificationsOf_opened ..).trans (if_pos husable)⟩
  · have hsame := hlength.trans (hslabs channel husable).symm
    exact ⟨Region.slab_storeSlab_self hsame, Region.slab_storeSlab_of_ne hsame hother⟩
  · rw [setup_opened] at hsetup
    cases hsetup
    exact Setup.toNat_slabAddress hbound

theorem Driver.division_opened (region : Region) (busAddress : UInt32) (config : Config)
    (driver : Driver) :
    (driver.opened region busAddress config).controller.division =
      some
        { region := region.number
          length := region.bytes.length
          busAddress
          device := Device.ofRegisters driver.controller.registers
          held := List.replicate driver.controller.usable false } := by
  rw [Controller.division, setup_opened, Option.map_some, Setup.division, List.map_replicate]
  rfl

theorem Driver.undivided_closed {setup : Setup} (driver : Driver)
    (hmeasured : setup.usable = usableChannels setup.device driver.controller)
    (hfew : setup.usable ≤ Register.maxChannels) :
    Controller.Undivided setup.device driver.controller (driver.closed setup).controller := by
  refine ⟨rfl, fun position => ?_, fun register hother => ?_, fun channel => ?_⟩
  · rcases Nat.lt_or_ge position 32 with hposition | hposition
    · rw [read_closed, if_pos rfl, bitOf_and, bitOf_not hposition,
        bitOf_channelBits (hfew.trans (by decide)), hmeasured]
    · rw [bitOf_of_ge hposition, bitOf_of_ge hposition, Bool.false_and]
  · rw [read_closed, if_neg hother]
  · exact ⟨_, _, notificationsOf_closed setup channel driver⟩

/-- The driver records messages at most. -/
theorem Driver.Logs.eq_record {before after : Driver} (hlogs : Logs before after) :
    ∃ messages : List LogMessage, after = before.update fun controller =>
      { controller with history := messages.map .log ++ controller.history } := by
  rcases hlogs with rfl | ⟨verbosity, message, rfl⟩
  · exact ⟨[], rfl⟩
  · by_cases hadmitted : message.level.isAdmitted verbosity
    · refine ⟨[message], ?_⟩
      simp only [update, Controller.logAt, if_pos hadmitted]
      rfl
    · refine ⟨[], ?_⟩
      simp only [update, Controller.logAt, if_neg hadmitted]
      rfl

namespace Board

variable {board taken opened later : Board} {controller : Controller} {device : Device}
variable {region : Region} {source : RegionSource} {busAddress : UInt32} {config : Config}
variable {index : Nat}

/-! ## Opening a session -/

/-- The board is as before, apart from messages that a controller recorded and from where
regions are. -/
def LeftAlone (index : Nat) (controller : Controller) (before after : Board) : Prop :=
  ∃ (messages : List LogMessage) (spare lost : List Region) (regions : Nat), after =
    { before with
      controllers := before.controllers.set index
        { controller with history := messages.map .log ++ controller.history }
      spare, lost, regions }

/-- What comes of initializing a controller with a region. -/
structure Initializes (index : Nat) (region : Region) (busAddress : UInt32) (config : Config)
    (controller : Controller) (board : Board) (outcome : Except Refusal Answer × Board) :
    Prop where
  accepted : (∃ answer, outcome.1 = .ok answer) ↔
    config.SupportedBy (Device.ofRegisters controller.registers) ∧
      Region.slabBytes * controller.usable ≤ region.bytes.length ∧ controller.setup = none
  unsupported : ¬ config.SupportedBy (Device.ofRegisters controller.registers) →
    outcome.1 = .error (.failed .invalidTransfer)
  small : config.SupportedBy (Device.ofRegisters controller.registers) →
    region.bytes.length < Region.slabBytes * controller.usable →
      outcome.1 = .error (.failed .resourceExhausted)
  busy : config.SupportedBy (Device.ofRegisters controller.registers) →
    Region.slabBytes * controller.usable ≤ region.bytes.length → controller.setup ≠ none →
      outcome.1 = .error (.failed .busy)
  refused : ∀ refusal, outcome.1 = .error refusal → LeftAlone index controller board outcome.2
  divided : ∀ answer, outcome.1 = .ok answer →
    answer = .device (some (Device.ofRegisters controller.registers)) ∧
      ∃ later, outcome.2.controllers[index]? = some later ∧
        controller.Divided region busAddress config later

theorem Takes.leftAlone {messages : List LogMessage} (htakes : board.Takes region taken)
    (lost : List Region) :
    LeftAlone index controller board
      { taken.withDriver index ⟨{ controller with
          history := messages.map .log ++ controller.history }, board.references⟩ with lost } := by
  cases htakes with
  | fresh bytes => exact ⟨messages, _, _, _, rfl⟩
  | returned hspare => exact ⟨messages, _, _, _, rfl⟩

/-- An initialization is refused for the first reason that applies, or it divides the region. -/
theorem initializes (htaken : (takeRegion source).run.run board = (.ok region, taken))
    (hfound : board.controllers[index]? = some controller) (busAddress : UInt32)
    (config : Config) :
    Initializes index region busAddress config controller board
      (board.perform (.controller index (.init source busAddress config))) := by
  have hperform : board.perform (.controller index (.init source busAddress config)) = _ :=
    perform_init htaken hfound
  have hfails : ∀ {error logged},
      (Driver.init region busAddress config).perform ⟨controller, board.references⟩ =
        (.error error, logged) →
      board.perform (.controller index (.init source busAddress config)) =
        (.error (.failed error),
          { taken.withDriver index logged with lost := taken.lost ++ [region] }) :=
    fun hfailed => by rw [hperform, hfailed]
  have hopens : ∀ {device driver},
      (Driver.init region busAddress config).perform ⟨controller, board.references⟩ =
        (.ok device, driver) →
      board.perform (.controller index (.init source busAddress config)) =
        (.ok (.device (some device)), taken.withDriver index driver) :=
    fun hopened => by rw [hperform, hopened]
  refine ⟨⟨fun ⟨answer, hok⟩ => ?_, fun ⟨hsupported, hregion, hclosed⟩ => ?_⟩,
    fun hunsupported => ?_, fun hsupported hsmall => ?_, fun hsupported hregion hopen => ?_,
    fun refusal hrefused => ?_, fun answer hok => ?_⟩
  · rcases Driver.init_cases region busAddress config ⟨controller, board.references⟩ with
      ⟨error, logged, hfailed, -⟩ | ⟨hclosed, hsupported, hregion, -⟩
    · rw [hfails hfailed] at hok
      cases hok
    · exact ⟨hsupported, hregion, hclosed⟩
  · have hopened := @Driver.perform_init ⟨controller, board.references⟩ region config hsupported
      hregion hclosed busAddress
    rw [hopens hopened]
    exact ⟨_, rfl⟩
  · have hfailed := @Driver.perform_init_of_unsupported ⟨controller, board.references⟩ config
      hunsupported region busAddress
    rw [hfails hfailed]
  · have hfailed := @Driver.perform_init_of_small ⟨controller, board.references⟩ region config
      hsupported hsmall busAddress
    rw [hfails hfailed]
  · obtain ⟨setup, hsetup⟩ := Option.ne_none_iff_exists'.mp hopen
    have hfailed := @Driver.perform_init_of_setup ⟨controller, board.references⟩ setup region
      config hsupported hregion hsetup busAddress
    rw [hfails hfailed]
  · rcases Driver.init_cases region busAddress config ⟨controller, board.references⟩ with
      ⟨error, logged, hfailed, hlogs⟩ | ⟨-, -, -, hopened⟩
    · obtain ⟨messages, rfl⟩ := hlogs.eq_record
      rw [hfails hfailed]
      exact (takes_of_takeRegion htaken).leftAlone _
    · rw [hopens hopened] at hrefused
      cases hrefused
  · rcases Driver.init_cases region busAddress config ⟨controller, board.references⟩ with
      ⟨error, logged, hfailed, -⟩ | ⟨-, -, hregion, hopened⟩
    · rw [hfails hfailed] at hok
      cases hok
    · rw [hopens hopened] at hok ⊢
      cases hok
      exact ⟨rfl, _, found_withDriver ((takes_of_takeRegion htaken).found hfound) _,
        Driver.divided_opened hregion busAddress config⟩

/-! ## The course of a session -/

/-- Boards that come of another one while a controller stays initialized. -/
inductive InSession (index : Nat) (opened : Board) : Board → Prop
  | refl : InSession index opened opened
  | perform {board : Board} (operation : Operation) (hsession : InSession index opened board)
      (hopen : (board.perform operation).2.IsOpen index) :
      InSession index opened (board.perform operation).2
  | deliver {board : Board} (other depth : Nat) (hsession : InSession index opened board) :
      InSession index opened
        ((onDriver other fun driver => ((), driver.dispatchNested depth)).run.run board).2

namespace InSession

theorem reachable (hsession : InSession index opened later) (hopened : opened.Reachable) :
    later.Reachable := by
  induction hsession with
  | refl => exact hopened
  | perform operation _ _ ih => exact ih.perform operation
  | deliver other depth _ ih => exact ih.deliver other depth

/-- The region stays divided as it was when the session began, apart from who holds what. -/
theorem divides {α : Type} (query : Division → α)
    (hquery : ∀ division held, query { division with held } = query division) {value : α}
    (hsession : InSession index opened later)
    (hvalue : opened.divisions[index]?.join.map query = some value) :
    later.divisions[index]?.join.map query = some value := by
  induction hsession with
  | refl => exact hvalue
  | perform operation _ hopen ih => exact divides_perform hquery ih operation hopen
  | @deliver board other depth _ ih =>
      have huses : Uses (fun _ => True) (fun _ _ => True) board _ := uses_deliver other depth board
      rw [huses.divisions]
      exact ih

/-- A controller of the board has been there since the session began. -/
theorem managed (hsession : InSession index opened later)
    (hfound : later.controllers[index]? = some controller) :
    ∃ earlier, opened.controllers[index]? = some earlier ∧
      earlier.managed = controller.managed := by
  have hkept : ∀ {before after : Board}, Moves (fun _ => True) (fun _ _ => True) before after →
      ∀ {controller}, after.controllers[index]? = some controller →
        ∃ earlier, before.controllers[index]? = some earlier ∧
          earlier.managed = controller.managed := by
    intro before after hmoves controller hfound
    obtain ⟨earlier, hearlier, hsteps⟩ := hmoves.extends index controller hfound
    exact ⟨earlier, hearlier, hsteps.managed.symm⟩
  induction hsession generalizing controller with
  | refl => exact ⟨controller, hfound, rfl⟩
  | @perform board operation _ _ ih =>
      obtain ⟨middle, hmiddle, hmanaged⟩ := hkept (moves_anything operation board) hfound
      obtain ⟨earlier, hearlier, hsame⟩ := ih hmiddle
      exact ⟨earlier, hearlier, hsame.trans hmanaged⟩
  | @deliver board other depth _ ih =>
      obtain ⟨middle, hmiddle, hmanaged⟩ := hkept (uses_deliver other depth board).moves hfound
      obtain ⟨earlier, hearlier, hsame⟩ := ih hmiddle
      exact ⟨earlier, hearlier, hsame.trans hmanaged⟩

end InSession

/-! ## Closing a session -/

/-- What comes of handing the region back once all channels are free. -/
structure Closes (index : Nat) (region : Region) (busAddress : UInt32) (device : Device)
    (opened later closed : Board) : Prop where
  /-- The very region can be taken again. Its bytes may be others. -/
  returned : ∃ bytes, bytes.length = region.bytes.length ∧
    closed.spare = later.spare ++ [⟨region.number, bytes⟩]
  undivided : ∃ before after, later.controllers[index]? = some before ∧
    closed.controllers[index]? = some after ∧ Controller.Undivided device before after
  /-- Initializing with the region divides it as it was when the session began. -/
  again : ∀ changes changed restored config,
    closed.perform (.controller index (.change changes)) = (.ok .done, changed) →
    changed.controllers[index]? = some restored →
    Device.ofRegisters restored.registers = device → config.SupportedBy device →
      ∃ reopened, changed.perform
          (.controller index (.init (.returned region.number) busAddress config)) =
            (.ok (.device (some device)), reopened) ∧
        reopened.divisions[index]? = opened.divisions[index]?

theorem perform_change (hfound : board.controllers[index]? = some controller)
    (changes : List (Register × UInt32)) :
    board.perform (.controller index (.change changes)) =
      (.ok .done, board.withDriver index ⟨controller.changeAll changes, board.references⟩) :=
  run_bind_of_ok (run_onDriver hfound _) _

/-- An initialization that succeeds divides the region that it took. -/
theorem divisions_of_init {answer : Answer}
    (htaken : (takeRegion source).run.run board = (.ok region, taken))
    (hfound : board.controllers[index]? = some controller)
    (hinit : board.perform (.controller index (.init source busAddress config)) =
      (.ok answer, opened)) :
    answer = .device (some (Device.ofRegisters controller.registers)) ∧
      opened.divisions[index]? = some (some
        { region := region.number
          length := region.bytes.length
          busAddress
          device := Device.ofRegisters controller.registers
          held := List.replicate controller.usable false }) := by
  have hopening := opening_perform index source busAddress config board
  rw [hinit] at hopening
  cases hopening with
  | init htaken' hfound' hclosed =>
      cases htaken.symm.trans htaken'
      cases hfound.symm.trans hfound'
      have hlater := (takes_of_takeRegion htaken).found hfound
      refine ⟨rfl, (getElem?_divisions (found_withDriver hlater _)).trans ?_⟩
      rw [Driver.division_opened]

/-- Once all channels are free, the region is divided as it was when the session began. -/
theorem Reachable.division_of_free {division : Division} (hopened : opened.Reachable)
    (hsession : InSession index opened later)
    (hdivided : opened.divisions[index]? = some (some division))
    (hfree : ∀ channel, later.holders index channel = []) :
    ∃ last setup, later.controllers[index]? = some last ∧ last.setup = some setup ∧
      setup.requests.any (·.isSome) = false ∧
        setup.division =
          { division with
            held := List.replicate (Driver.usableChannels division.device last) false } := by
  have hlater := hsession.reachable hopened
  -- the session keeps what does not depend on the holders
  have hkept := hsession.divides (fun division => (division.toLease, division.device))
    (fun _ _ => rfl) (congrArg (Option.map _ ∘ Option.join) hdivided)
  obtain ⟨last, setup, hlast, hsetup⟩ : later.IsOpen index :=
    isOpen_of_lease? (hsession.divides Division.toLease (fun _ _ => rfl)
      (congrArg (Option.map _ ∘ Option.join) hdivided))
  rw [getElem?_divisions_of_setup hlast hsetup] at hkept
  obtain ⟨hlease, hdevice⟩ := Prod.mk.inj (Option.some.inj hkept)
  have hnone : ∀ channel < setup.usable, setup.requests[channel]? = some none := by
    intro channel husable
    cases hrequest : setup.requests[channel]? with
    | none => exact absurd husable (Nat.not_lt_of_le (List.getElem?_eq_none_iff.mp hrequest))
    | some request =>
        cases request with
        | none => rfl
        | some request =>
            obtain ⟨handle, hholder⟩ :=
              (hlater.slabsExclusive hlast hsetup).held channel request hrequest
            rw [hfree channel] at hholder
            cases hholder
  have hrequests := setup.all_free.mpr hnone
  have hmeasured := (hlater.controllers last (List.mem_of_getElem? hlast)).measured setup hsetup
  have hheld : setup.requests.map (·.isSome) =
      List.replicate (Driver.usableChannels division.device last) false := by
    refine List.eq_replicate_iff.mpr ⟨?_, fun held hmem => ?_⟩
    · rw [← hdevice, List.length_map]
      exact hmeasured
    · obtain ⟨request, hrequest, rfl⟩ := List.mem_map.mp hmem
      exact Bool.eq_false_iff.mpr (List.any_eq_false.mp hrequests request hrequest)
  refine ⟨last, setup, hlast, hsetup, hrequests, ?_⟩
  rw [← hheld, ← hlease, ← hdevice]
  rfl

/-- The region that is handed back is found by its number. -/
theorem SlabsExclusive.find?_append {setup : Setup}
    (hexclusive : board.SlabsExclusive index setup) :
    (board.spare ++ [setup.region]).find? (·.number = setup.region.number) =
      some setup.region := by
  have hnone : board.spare.find? (·.number = setup.region.number) = none :=
    List.find?_eq_none.mpr fun other hmem => by
      simpa using hexclusive.unavailable other (List.mem_append_left _ hmem)
  rw [List.find?_append, hnone]
  simp

/-- A region that was handed back is divided again, whatever became of the registers. -/
theorem divides_again {changes : List (Register × UInt32)} {changed : Board}
    {restored : Controller}
    (hspare : board.spare.find? (·.number = region.number) = some region)
    (hfound : board.controllers[index]? = some controller) (hclosed : controller.setup = none)
    (hchange : board.perform (.controller index (.change changes)) = (.ok .done, changed))
    (hrestored : changed.controllers[index]? = some restored)
    (hdevice : Device.ofRegisters restored.registers = device)
    (hsupported : config.SupportedBy device)
    (hregion : Region.slabBytes * Driver.usableChannels device controller ≤ region.bytes.length)
    (busAddress : UInt32) :
    ∃ reopened, changed.perform
        (.controller index (.init (.returned region.number) busAddress config)) =
          (.ok (.device (some device)), reopened) ∧
      reopened.divisions[index]? = some (some
        { region := region.number
          length := region.bytes.length
          busAddress
          device
          held := List.replicate (Driver.usableChannels device controller) false }) := by
  subst hdevice
  rw [perform_change hfound] at hchange
  cases hchange
  cases (found_withDriver hfound _).symm.trans hrestored
  have haside := Controller.aside_changeAll changes controller
  have husable : Controller.usable (controller.changeAll changes) =
      Driver.usableChannels (Device.ofRegisters (controller.changeAll changes).registers)
        controller := by
    rw [Controller.usable, Driver.usableChannels, Driver.usableChannels, haside.managed]
  have htaken := @takeRegion_returned (board.withDriver index
    ⟨controller.changeAll changes, board.references⟩) region.number region hspare
  obtain ⟨answer, hok⟩ := (initializes htaken hrestored busAddress config).accepted.mpr
    ⟨hsupported, husable ▸ hregion, haside.setup.trans hclosed⟩
  obtain ⟨rfl, hdivided⟩ := divisions_of_init htaken hrestored (Prod.ext hok rfl)
  rw [husable] at hdivided
  exact ⟨_, Prod.ext hok rfl, hdivided⟩

/-- A session whose channels are all free is closed, and can be opened again. -/
theorem Reachable.closes {first : Controller} (hopened : opened.Reachable)
    (hsession : InSession index opened later) (hfirst : opened.controllers[index]? = some first)
    (hdivided : opened.divisions[index]? = some (some
      { region := region.number
        length := region.bytes.length
        busAddress
        device
        held := List.replicate (Driver.usableChannels device first) false }))
    (hfree : ∀ channel, later.holders index channel = []) :
    ∃ closed, later.perform (.controller index .deinit) =
        (.ok (.region region.number region.bytes.length), closed) ∧
      Closes index region busAddress device opened later closed := by
  have hlater := hsession.reachable hopened
  obtain ⟨last, setup, hlast, hsetup, hrequests, hsame⟩ :=
    hopened.division_of_free hsession hdivided hfree
  obtain ⟨_, hearlier, hmanaged⟩ := hsession.managed hlast
  cases hearlier.symm.trans hfirst
  have hcontroller := hlater.controllers last (List.mem_of_getElem? hlast)
  have hsound := hcontroller.sound.setup setup hsetup
  obtain rfl : setup.device = device := congrArg Division.device hsame
  obtain ⟨hnumber, hlength⟩ : setup.region.number = region.number ∧
      setup.region.bytes.length = region.bytes.length :=
    ⟨congrArg (·.region) hsame, congrArg (·.length) hsame⟩
  have hdeinit := perform_deinit hlast hsetup
  rw [if_neg (by simp [hrequests]), hnumber, hlength] at hdeinit
  obtain ⟨closed, hdone, hspare, hafter⟩ :
      ∃ closed, later.perform (.controller index .deinit) =
          (.ok (.region region.number region.bytes.length), closed) ∧
        closed.spare = later.spare ++ [setup.region] ∧
        closed.controllers[index]? =
          some (Driver.closed setup ⟨last, later.references⟩).controller :=
    ⟨_, hdeinit, rfl, found_withDriver hlast _⟩
  have hmeasured := hcontroller.measured setup hsetup
  refine ⟨closed, hdone, ⟨setup.region.bytes, hlength, ?_⟩, ⟨last, _, hlast, hafter, ?_⟩,
    fun changes changed restored config hchange hrestored hdevice hsupported => ?_⟩
  · rw [hspare, ← hnumber]
  · exact Driver.undivided_closed ⟨last, later.references⟩ hmeasured hsound.usable
  · have husable : Driver.usableChannels setup.device
        (Driver.closed setup ⟨last, later.references⟩).controller =
          Driver.usableChannels setup.device first := by
      rw [Driver.usableChannels, Driver.usableChannels, hmanaged, Driver.managed_closed]
    have hstored := (hlater.slabsExclusive hlast hsetup).find?_append
    rw [← hspare] at hstored
    have hcount : setup.usable = Driver.usableChannels setup.device first := by
      rw [hmeasured, Driver.usableChannels, Driver.usableChannels, hmanaged]
    obtain ⟨reopened, hinit, hagain⟩ := divides_again hstored hafter rfl hchange hrestored hdevice
      hsupported (husable ▸ hcount ▸ hsound.region) busAddress
    rw [husable, hnumber, hlength] at hagain
    exact ⟨reopened, hnumber ▸ hinit, hagain.trans hdivided.symm⟩

/-- An initialization is refused for the first reason that applies, and leaves everything as it
was, or it divides its region among channels that are free and silent. Once they are all free
again, the region is handed back and the events of these channels are masked. The registers
being the same, the controller can then be initialized as if for the first time. -/
theorem session_undone (htaken : (takeRegion source).run.run board = (.ok region, taken))
    (hfound : board.controllers[index]? = some controller) (busAddress : UInt32)
    (config : Config) :
    Initializes index region busAddress config controller board
        (board.perform (.controller index (.init source busAddress config))) ∧
      (board.Reachable → ∀ device opened later,
        board.perform (.controller index (.init source busAddress config)) =
          (.ok (.device (some device)), opened) →
        InSession index opened later → (∀ channel, later.holders index channel = []) →
          ∃ closed, later.perform (.controller index .deinit) =
              (.ok (.region region.number region.bytes.length), closed) ∧
            Closes index region busAddress device opened later closed) := by
  have hinitializes := initializes htaken hfound busAddress config
  refine ⟨hinitializes, fun hboard device opened later hinit hsession hfree => ?_⟩
  have hopened : opened.Reachable := by
    have hperformed := hboard.perform (.controller index (.init source busAddress config))
    rwa [hinit] at hperformed
  obtain ⟨hdevice, hdivided⟩ := divisions_of_init htaken hfound hinit
  cases hdevice
  obtain ⟨-, first, hfirst, hfirstly⟩ :=
    hinitializes.divided _ (congrArg Prod.fst hinit)
  rw [hinit] at hfirst
  have hmeasured := (hopened.controllers first (List.mem_of_getElem? hfirst)).measured _
    hfirstly.setup
  have hcount : controller.usable =
      Driver.usableChannels (Device.ofRegisters controller.registers) first :=
    List.length_replicate.symm.trans hmeasured
  rw [hcount] at hdivided
  exact hopened.closes hsession hfirst hdivided hfree

/-- The registers are zero, so there is one channel and the bus carries single bytes. -/
def sessionOpening : Operation :=
  .controller 0 (.init (.fresh (List.replicate 256 0)) 0x1000 (Config.withBurst 1 4 {}))

/-- The channel is allocated, submitted to, stopped and released, and two events are enabled. -/
def sessionOperations : List Operation :=
  [.controller 0 (.allocate 7 none), .channel 7 (.submit ringOrder fun _ => []),
    .channel 7 (.stop fun _ => []), .controller 0 (.change [(.interruptEnable, 3)]),
    .controller 0 (.release 7)]

theorem session_undone_small :
    ∃ opened closed reopened : Board, ∃ before after : Controller,
      smallBoard.perform sessionOpening =
        (.ok (.device (some (Device.ofRegisters .zero))), opened) ∧
      (opened.performAll sessionOperations).perform (.controller 0 .deinit) =
        (.ok (.region 0 256), closed) ∧
      (opened.performAll sessionOperations).controllers[0]? = some before ∧
      closed.controllers[0]? = some after ∧
      before.read .interruptEnable = 3 ∧ after.read .interruptEnable = 2 ∧
      (closed.perform (.controller 0 (.change []))).2.perform
        (.controller 0 (.init (.returned 0) 0x1000 (Config.withBurst 1 4 {}))) =
          (.ok (.device (some (Device.ofRegisters .zero))), reopened) ∧
      reopened.divisions[0]? = opened.divisions[0]? := by
  obtain ⟨hinitializes, hcloses⟩ := session_undone
    (show (takeRegion (.fresh (List.replicate 256 0))).run.run smallBoard =
      (.ok ⟨0, List.replicate 256 0⟩, { smallBoard with regions := 1 }) from rfl)
    (show smallBoard.controllers[0]? = some _ from rfl) 0x1000 (Config.withBurst 1 4 {})
  change Initializes 0 _ _ _ _ _ (smallBoard.perform sessionOpening) at hinitializes
  obtain ⟨answer, hok⟩ := hinitializes.accepted.mpr ⟨by decide, by decide +kernel, rfl⟩
  obtain ⟨rfl, -⟩ := hinitializes.divided answer hok
  have hinit := Prod.fst_eq_iff.mp hok
  have hsession : InSession 0 (smallBoard.perform sessionOpening).2
      ((smallBoard.perform sessionOpening).2.performAll sessionOperations) :=
    ((((InSession.refl.perform _ (by decide +kernel)).perform _ (by decide +kernel)).perform _
      (by decide +kernel)).perform _ (by decide +kernel)).perform _ (by decide +kernel)
  have hempty : ((smallBoard.perform sessionOpening).2.performAll
      sessionOperations).allHandles = [] := by
    decide +kernel
  obtain ⟨closed, hdeinit, hcloses⟩ := hcloses
    (Reachable.new (show new? [1] 0 = some smallBoard from rfl)) _ _ _ hinit hsession
      fun channel => by rw [holders, hempty]; rfl
  obtain ⟨before, after, hbefore, hafter, hundivided⟩ := hcloses.undivided
  have hlast : ((smallBoard.perform sessionOpening).2.performAll sessionOperations).controllers.map
      (fun controller => (controller.managed, controller.read .interruptEnable)) = [(1, 3)] := by
    decide +kernel
  have hshut : (((smallBoard.perform sessionOpening).2.performAll sessionOperations).perform
      (.controller 0 .deinit)).2.controllers.map (fun controller =>
        Device.ofRegisters controller.registers) = [Device.ofRegisters .zero] := by
    decide +kernel
  rw [hdeinit] at hshut
  have hdevice : Device.ofRegisters after.registers = Device.ofRegisters .zero := by
    have hmapped := congrArg (·[0]?) hshut
    simpa [hafter] using hmapped
  obtain ⟨hmanaged, hread⟩ : before.managed = 1 ∧ before.read .interruptEnable = 3 := by
    have hmapped := congrArg (·[0]?) hlast
    simpa [hbefore] using hmapped
  have hmasked : after.read .interruptEnable = 2 := by
    refine eq_of_bitOf_eq fun position hposition => ?_
    rw [hundivided.events, hread, Driver.usableChannels, hmanaged]
    revert position
    decide
  obtain ⟨reopened, hagain, hsame⟩ := hcloses.again [] _ _ (Config.withBurst 1 4 {})
    (perform_change hafter []) (found_withDriver hafter _) hdevice (by decide)
  refine ⟨_, closed, reopened, before, after, hinit, ?_, hbefore, hafter, hread, hmasked, ?_, hsame⟩
  · rw [hdeinit, List.length_replicate]
  · rw [perform_change hafter []]
    exact hagain

end Board

end CyclicDma
