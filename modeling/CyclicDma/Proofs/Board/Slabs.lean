import CyclicDma.Proofs.Board.Reachable
import CyclicDma.Proofs.Board.Regions

/-! # Exclusive slabs

No two clients ever hold the same slab. A slab is free or it has one holder, who
got it by an allocation and keeps it until it is released, and a region is handed
back once all of its slabs are free.
-/

namespace CyclicDma

theorem Setup.all_free (setup : Setup) :
    setup.requests.any (·.isSome) = false ↔
      ∀ channel < setup.usable, setup.requests[channel]? = some none := by
  rw [List.any_eq_false]
  refine ⟨fun hfree channel husable => ?_, fun hfree request hmem => ?_⟩
  · have hnone := hfree _ (List.getElem_mem husable)
    rw [List.getElem?_eq_getElem husable, Option.not_isSome_iff_eq_none.mp hnone]
  · obtain ⟨channel, husable, rfl⟩ := List.getElem_of_mem hmem
    have hnone := hfree channel husable
    rw [List.getElem?_eq_getElem husable, Option.some_inj] at hnone
    rw [hnone]
    exact Bool.false_ne_true

namespace Board

variable {board : Board} {controller : Controller} {setup : Setup} {handle : Handle}
variable {index name channel : Nat}

/-! ## What holds of slabs -/

/-- Each slab of a region is free or has one holder, and nobody else has the
region. -/
structure SlabsExclusive (index : Nat) (setup : Setup) (board : Board) : Prop where
  /-- The slabs of all usable channels are in the region. -/
  length : ∀ channel < setup.usable, (setup.region.slab channel).length = Region.slabBytes
  free : ∀ channel, setup.requests[channel]? = some none → board.holders index channel = []
  held : ∀ channel request, setup.requests[channel]? = some (some request) →
    ∃ handle, board.holders index channel = [handle]
  unusable : ∀ channel, setup.usable ≤ channel → board.holders index channel = []
  /-- No other controller has the region. -/
  region : ∀ other controller later, board.controllers[other]? = some controller →
    controller.setup = some later → later.region.number = setup.region.number → other = index
  /-- The region cannot be taken for an initialization. -/
  unavailable : ∀ region ∈ board.spare ++ board.lost, region.number ≠ setup.region.number

/-- How channels of an initialized controller are allocated. -/
structure Allocates (index : Nat) (setup : Setup) (board : Board) : Prop where
  asked : ∀ name channel,
    (∃ answer, (board.perform (.controller index (.allocate name (some channel)))).1 =
      .ok answer) ↔ setup.requests[channel]? = some none
  /-- The first free channel is allocated where none is asked for. -/
  first : ∀ name channel,
    (board.perform (.controller index (.allocate name none))).1 = .ok (.channel channel) ↔
      setup.requests[channel]? = some none ∧
        ∀ lower < channel, setup.requests[lower]? ≠ some none
  exhausted : ∀ name,
    (board.perform (.controller index (.allocate name none))).1 =
      .error (.failed .resourceExhausted) ↔ ∀ channel : Nat, setup.requests[channel]? ≠ some none
  /-- Whoever asked is the only holder of the channel. -/
  granted : ∀ name channel? answer after,
    board.perform (.controller index (.allocate name channel?)) = (.ok answer, after) →
      ∃ channel, answer = .channel channel ∧ (∀ asked ∈ channel?, channel = asked) ∧
        after.handle? name = some ⟨name, index, channel⟩ ∧
        after.holders index channel = [⟨name, index, channel⟩]

/-- How the channels that clients hold are released at a controller. -/
structure Releases (index : Nat) (controller : Controller) (board : Board) : Prop where
  accepted : ∀ name handle, board.handle? name = some handle →
    ((∃ answer, (board.perform (.controller index (.release name))).1 = .ok answer) ↔
      handle.controller = index ∧ controller.isRunning handle.channel = false)
  /-- A refusal says why, and takes nothing but futures of the channel away. -/
  refused : ∀ name handle, board.handle? name = some handle →
    ¬ (handle.controller = index ∧ controller.isRunning handle.channel = false) →
      board.perform (.controller index (.release name)) =
        (.error (.failed (if handle.controller = index then .busy else .invalidHandle)),
          board.dropFutures handle)
  /-- The slab has no holder any more. -/
  returned : ∀ name handle answer after, board.handle? name = some handle →
    board.perform (.controller index (.release name)) = (.ok answer, after) →
      after.holders index handle.channel = []

/-- How the region of a controller is handed back. -/
structure HandsBack (index : Nat) (controller : Controller) (board : Board) : Prop where
  accepted : (∃ answer, (board.perform (.controller index .deinit)).1 = .ok answer) ↔
    ∃ setup, controller.setup = some setup ∧
      ∀ channel < setup.usable, setup.requests[channel]? = some none
  /-- The controller of a region was given it by an initialization. -/
  given : ∀ setup, controller.setup = some setup →
    ∃ region busAddress, board.Given index region busAddress
  kept : ∀ setup region busAddress, controller.setup = some setup →
    board.Given index region busAddress →
      setup.region.number = region.number ∧
        setup.region.bytes.length = region.bytes.length ∧ setup.busAddress = busAddress
  /-- The region that was given can be taken again. Its bytes may be others. -/
  returned : ∀ region busAddress answer after, board.Given index region busAddress →
    board.perform (.controller index .deinit) = (.ok answer, after) →
      answer = .region region.number region.bytes.length ∧
        ∃ bytes, bytes.length = region.bytes.length ∧
          after.spare = board.spare ++ [⟨region.number, bytes⟩]

/-! ## Holders -/

theorem Exclusive.holders_eq (hexclusive : board.Exclusive) (hmem : handle ∈ board.handles) :
    board.holders handle.controller handle.channel = [handle] := by
  obtain ⟨holder, hholder⟩ := hexclusive.exists_holder (hexclusive.isHeld hmem)
  have hfiltered : handle ∈ board.holders handle.controller handle.channel :=
    List.mem_filter.mpr ⟨List.mem_append_left _ hmem, Handle.isOf_iff.mpr ⟨rfl, rfl⟩⟩
  rw [hholder] at hfiltered
  rw [hholder, List.mem_singleton.mp hfiltered]

theorem Exclusive.handle?_eq (hexclusive : board.Exclusive) (hmem : handle ∈ board.handles) :
    board.handle? handle.name = some handle := by
  cases hhandle : board.handle? handle.name with
  | none => exact absurd (List.mem_map_of_mem hmem) (handle?_eq_none hhandle)
  | some other =>
      obtain ⟨hother, hname⟩ := handle?_eq_some hhandle
      exact congrArg some (List.inj_on_of_nodup_map hexclusive.names hother hmem hname)

theorem mem_addHandle (handle : Handle) (board : Board) :
    handle ∈ (board.addHandle handle).handles :=
  List.mem_append_right _ (List.mem_singleton_self handle)

/-! ## Slabs -/

theorem mem_numbersOf {divisions : List (Option Division)} {division : Division}
    (hfound : divisions[index]? = some (some division)) :
    division.region ∈ numbersOf divisions :=
  List.mem_filterMap.mpr ⟨some division, List.mem_of_getElem? hfound, rfl⟩

/-- Two controllers do not have the same region. -/
theorem Apart.eq_of_region_eq (hapart : board.Apart) {other : Nat} {division later : Division}
    (hfound : board.divisions[index]? = some (some division))
    (hother : board.divisions[other]? = some (some later))
    (hsame : later.region = division.region) : other = index := by
  by_contra hne
  -- without the one division, the number is still there
  have hperm := numbersOf_set hfound none
  have hnodup := (List.nodup_append.mp hapart.nodup).1
  have hgone := (List.nodup_cons.mp (hperm.nodup_iff.mpr hnodup)).1
  have hstill : (board.divisions.set index none)[other]? = some (some later) := by
    rw [List.getElem?_set_ne (Ne.symm hne), hother]
  have hmem := mem_numbersOf hstill
  rw [hsame] at hmem
  exact hgone hmem

theorem Reachable.slabsExclusive (hboard : board.Reachable)
    (hfound : board.controllers[index]? = some controller)
    (hsetup : controller.setup = some setup) : board.SlabsExclusive index setup := by
  have hsound := (hboard.controllers controller (List.mem_of_getElem? hfound)).sound.setup setup hsetup
  have hexclusive := hboard.exclusive
  have hheld := isHeld_eq hfound hsetup
  refine ⟨fun channel husable => ?_, fun channel hfree => ?_, fun channel request hrequest => ?_,
    fun channel hout => ?_, fun other controller later hother hlater hsame => ?_,
    fun region hmem => ?_⟩
  · refine Region.length_slab_of_le (Nat.le_trans (Nat.mul_le_mul_left _ ?_) hsound.region)
    exact husable
  · exact hexclusive.holders_eq_nil (by rw [hheld, hfree]; rfl)
  · exact hexclusive.exists_holder (by rw [hheld, hrequest]; rfl)
  · exact hexclusive.holders_eq_nil (by rw [hheld, List.getElem?_eq_none hout]; rfl)
  · exact hboard.apart.eq_of_region_eq (getElem?_divisions_of_setup hfound hsetup)
      (getElem?_divisions_of_setup hother hlater) hsame
  · intro hsame
    have hstored : region.number ∈ (board.spare ++ board.lost).map (·.number) :=
      List.mem_map_of_mem hmem
    have hused := mem_numbersOf (getElem?_divisions_of_setup hfound hsetup)
    exact (List.nodup_append.mp hboard.apart.nodup).2.2 _ hused _ hstored hsame.symm

/-! ## Allocations -/

theorem Reachable.allocates (hboard : board.Reachable)
    (hfound : board.controllers[index]? = some controller)
    (hsetup : controller.setup = some setup) : board.Allocates index setup := by
  have hperform := perform_allocate hfound hsetup
  refine ⟨fun name channel => ?_, fun name channel => ?_, fun name => ?_,
    fun name channel? answer after hdone => ?_⟩
  · rw [hperform]
    cases hchosen : Driver.chooseChannel (some channel) setup with
    | error error =>
        refine ⟨fun ⟨_, hok⟩ => (nomatch hok), fun hfree => ?_⟩
        exact nomatch hchosen.symm.trans (Driver.chooseChannel_some_eq_ok.mpr ⟨rfl, hfree⟩)
    | ok found =>
        obtain ⟨-, hfree⟩ := Driver.chooseChannel_some_eq_ok.mp hchosen
        exact ⟨fun _ => hfree, fun _ => ⟨_, rfl⟩⟩
  · rw [hperform, ← Driver.chooseChannel_none_eq_ok]
    cases Driver.chooseChannel none setup with
    | error error => exact ⟨fun hok => (nomatch hok), fun hok => (nomatch hok)⟩
    | ok found => simp
  · rw [hperform]
    cases hchosen : Driver.chooseChannel none setup with
    | error error =>
        obtain ⟨rfl, hheld⟩ := Driver.chooseChannel_none_eq_error.mp hchosen
        exact ⟨fun _ => hheld, fun _ => rfl⟩
    | ok found =>
        obtain ⟨hfree, -⟩ := Driver.chooseChannel_none_eq_ok.mp hchosen
        exact ⟨fun hfull => (nomatch hfull), fun hheld => absurd hfree (hheld found)⟩
  · have hafter : after.Reachable := by
      have hperformed := hboard.perform (.controller index (.allocate name channel?))
      rwa [hdone] at hperformed
    rw [hperform] at hdone
    cases hchosen : Driver.chooseChannel channel? setup with
    | error error =>
        rw [hchosen] at hdone
        cases hdone
    | ok channel =>
        rw [hchosen] at hdone
        cases hdone
        have hmem := mem_addHandle ⟨name, index, channel⟩ (board.withDriver index
          ⟨controller.setRequest channel (some {}), board.references⟩)
        refine ⟨channel, rfl, fun asked hasked => ?_, hafter.exclusive.handle?_eq hmem,
          hafter.exclusive.holders_eq hmem⟩
        cases hasked
        exact (Driver.chooseChannel_some_eq_ok.mp hchosen).1

/-! ## Releases -/

theorem Reachable.releases (hboard : board.Reachable)
    (hfound : board.controllers[index]? = some controller) : board.Releases index controller := by
  have hrefused : ∀ name handle, board.handle? name = some handle →
      ¬ (handle.controller = index ∧ controller.isRunning handle.channel = false) →
      board.perform (.controller index (.release name)) =
        (.error (.failed (if handle.controller = index then .busy else .invalidHandle)),
          board.dropFutures handle) := by
    intro name handle hhandle hunfit
    split
    next hown =>
      subst hown
      have hrunning : controller.isRunning handle.channel = true := by simpa using hunfit
      exact perform_release_of_running hhandle hfound hrunning
    next hforeign => exact perform_release_of_ne hhandle hforeign
  refine ⟨fun name handle hhandle => ⟨fun ⟨answer, hok⟩ => ?_, fun ⟨hown, hstopped⟩ => ?_⟩, hrefused,
    fun name handle answer after hhandle hdone => ?_⟩
  · by_contra hunfit
    rw [hrefused name handle hhandle hunfit] at hok
    cases hok
  · subst hown
    exact ⟨.done, by rw [perform_release hhandle hfound hstopped]⟩
  · have hafter : after.Reachable := by
      have hperformed := hboard.perform (.controller index (.release name))
      rwa [hdone] at hperformed
    obtain ⟨rfl, hstopped⟩ : handle.controller = index ∧
        controller.isRunning handle.channel = false := by
      by_contra hunfit
      exact nomatch (hrefused name handle hhandle hunfit).symm.trans hdone
    obtain ⟨_, setup, request, hsame, hsetup, hrequest, -⟩ :=
      hboard.usable (handle?_eq_some hhandle).1
    cases hsame.symm.trans hfound
    rw [perform_release hhandle hfound hstopped] at hdone
    cases hdone
    refine hafter.exclusive.holders_eq_nil ?_
    have husable : handle.channel < setup.usable := (List.getElem?_eq_some_iff.mp hrequest).1
    exact (isHeld_setRequest none hfound hsetup husable (divisions_withDriver ..)
      handle.controller handle.channel).trans (if_pos ⟨rfl, rfl⟩)

/-! ## Regions handed back -/

theorem Reachable.handsBack (hboard : board.Reachable)
    (hfound : board.controllers[index]? = some controller) : board.HandsBack index controller := by
  have hkept : ∀ setup region busAddress, controller.setup = some setup →
      board.Given index region busAddress →
        setup.region.number = region.number ∧
          setup.region.bytes.length = region.bytes.length ∧ setup.busAddress = busAddress := by
    intro setup region busAddress hsetup hgiven
    have hlease := (lease?_eq hfound hsetup).symm.trans hgiven.lease?
    simpa using hlease
  refine ⟨⟨fun ⟨answer, hok⟩ => ?_, fun ⟨setup, hsetup, hfree⟩ => ?_⟩, fun setup hsetup => ?_, hkept,
    fun region busAddress answer after hgiven hdone => ?_⟩
  · cases hsetup : controller.setup with
    | none =>
        rw [perform_deinit_of_none hfound hsetup] at hok
        cases hok
    | some setup =>
        rw [perform_deinit hfound hsetup] at hok
        split at hok
        · cases hok
        next hfree => exact ⟨setup, rfl, setup.all_free.mp (by simpa using hfree)⟩
  · rw [perform_deinit hfound hsetup, if_neg (by simpa using setup.all_free.mpr hfree)]
    exact ⟨_, rfl⟩
  · exact hboard.given (lease?_eq hfound hsetup)
  · obtain ⟨_, setup, hsame, hsetup⟩ := isOpen_of_lease? hgiven.lease?
    cases hsame.symm.trans hfound
    obtain ⟨hnumber, hlength, -⟩ := hkept setup region busAddress hsetup hgiven
    rw [perform_deinit hfound hsetup] at hdone
    split at hdone
    · cases hdone
    · cases hdone
      rw [← hnumber, ← hlength]
      exact ⟨rfl, setup.region.bytes, rfl, rfl⟩

/-- In a reachable board, each slab of an initialized controller is free or has
one holder. A channel is allocated if its slab is free, and released if it came
from the controller and does not run. The region is handed back once all slabs
are free, and it is the region that the initialization was given. -/
theorem slabs_exclusive (hboard : board.Reachable)
    (hfound : board.controllers[index]? = some controller) :
    (∀ setup, controller.setup = some setup →
      setup.usable = Driver.usableChannels setup.device controller ∧
        board.SlabsExclusive index setup ∧ board.Allocates index setup) ∧
      board.Releases index controller ∧ board.HandsBack index controller := by
  have hreachable := hboard.controllers controller (List.mem_of_getElem? hfound)
  refine ⟨fun setup hsetup => ⟨hreachable.measured setup hsetup, ?_, ?_⟩, ?_, ?_⟩
  · exact hboard.slabsExclusive hfound hsetup
  · exact hboard.allocates hfound hsetup
  · exact hboard.releases hfound
  · exact hboard.handsBack hfound

theorem slabs_exclusive_ring :
    (∃ handle, (smallBoard.performAll ringOperations).holders 0 0 = [handle]) ∧
      ((smallBoard.performAll ringOperations).perform (.controller 0 (.allocate 8 none))).1 =
        .error (.failed .resourceExhausted) ∧
      ((smallBoard.performAll ringOperations).perform (.controller 0 (.release 7))).1 =
        .error (.failed .busy) := by
  have hstate : (smallBoard.performAll ringOperations).controllers.map (fun controller =>
      (controller.isRunning 0, controller.setup.map (·.requests.map (·.isSome)))) =
        [(true, some [true])] := by
    decide +kernel
  have hhandle : (smallBoard.performAll ringOperations).handle? 7 = some ⟨7, 0, 0⟩ := by
    decide +kernel
  obtain ⟨controller, rest, hcontrollers, hfacts, -⟩ := List.map_eq_cons_iff.mp hstate
  obtain ⟨hrunning, hrequests⟩ : controller.isRunning 0 = true ∧
      controller.setup.map (·.requests.map (·.isSome)) = some [true] := by
    simpa only [Prod.mk.injEq] using hfacts
  obtain ⟨setup, hsetup, hheld⟩ := Option.map_eq_some_iff.mp hrequests
  obtain ⟨request, others, hrequest, hsome, hothers⟩ := List.map_eq_cons_iff.mp hheld
  obtain ⟨request, rfl⟩ := Option.isSome_iff_exists.mp hsome
  obtain rfl := List.map_eq_nil_iff.mp hothers
  have hfound : (smallBoard.performAll ringOperations).controllers[0]? = some controller := by
    rw [hcontrollers]
    rfl
  obtain ⟨hslabs, hreleases, -⟩ := slabs_exclusive reachable_ring hfound
  obtain ⟨-, hexclusive, hallocates⟩ := hslabs setup hsetup
  refine ⟨hexclusive.held 0 request (by rw [hrequest]; rfl), ?_, ?_⟩
  · refine (hallocates.exhausted 8).mpr fun channel => ?_
    rw [hrequest]
    cases channel <;> simp
  · rw [hreleases.refused 7 _ hhandle (fun hfree => by simp [hrunning] at hfree)]
    rfl

end Board

end CyclicDma
