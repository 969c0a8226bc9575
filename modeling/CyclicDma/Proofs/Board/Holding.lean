import CyclicDma.Proofs.Board.Reachable

/-! # Holders of channels

A channel that is held has one holder, and a channel that is free has none. A
holder is a handle that a client calls by a name, or one that was let go without
being given back.
-/

namespace CyclicDma

/-- The handle stands for a channel of a controller. -/
def Handle.isOf (index channel : Nat) (handle : Handle) : Bool :=
  handle.controller = index ∧ handle.channel = channel

@[simp]
theorem Handle.isOf_iff {index channel : Nat} {handle : Handle} :
    handle.isOf index channel = true ↔ index = handle.controller ∧ channel = handle.channel := by
  rw [isOf, decide_eq_true_iff, eq_comm, @eq_comm _ _ channel]

/-! ## Telling things apart -/

section

variable {α : Type} {items : List α} {item : α} {key : α → Nat}

/-- Keys tell things apart, so one thing is taken away with its key. -/
theorem perm_cons_filter_key (hkeys : (items.map key).Nodup) (hmem : item ∈ items) :
    items.Perm (item :: items.filter (key · ≠ key item)) := by
  induction items with
  | nil => exact absurd hmem List.not_mem_nil
  | cons first rest ih =>
      rw [List.map_cons, List.nodup_cons] at hkeys
      obtain ⟨hfirst, hrest⟩ := hkeys
      rcases List.mem_cons.mp hmem with rfl | hlater
      · have hothers : ∀ other ∈ rest, decide (key other ≠ key item) = true := by
          intro other hother
          refine decide_eq_true fun hsame => hfirst ?_
          exact hsame ▸ List.mem_map_of_mem hother
        rw [List.filter_cons_of_neg (by simp), List.filter_eq_self.mpr hothers]
      · have hne : key first ≠ key item := fun hsame =>
          hfirst (hsame ▸ List.mem_map_of_mem hlater)
        rw [List.filter_cons_of_pos (by simpa using hne)]
        exact ((ih hrest hlater).cons first).trans (.swap ..)

theorem nodup_filter_key (hkeys : (items.map key).Nodup) (number : Nat) :
    ((items.filter (key · ≠ number)).map key).Nodup :=
  hkeys.sublist (List.filter_sublist.map _)

end

namespace Board

variable {board before after : Board} {controller : Controller} {setup : Setup} {handle : Handle}
variable {index name channel : Nat}

theorem handle?_eq_some (hhandle : board.handle? name = some handle) :
    handle ∈ board.handles ∧ handle.name = name :=
  ⟨List.mem_of_find?_eq_some hhandle, by simpa using List.find?_some hhandle⟩

theorem handle?_eq_none (hhandle : board.handle? name = none) :
    name ∉ board.handles.map (·.name) := by
  intro hmem
  obtain ⟨handle, hhandle', hname⟩ := List.mem_map.mp hmem
  have hother := List.find?_eq_none.mp hhandle handle hhandle'
  exact hother (by simpa using hname)

/-- Every channel that was allocated and not given back, with or without a
name. -/
def allHandles (board : Board) : List Handle :=
  board.handles ++ board.abandoned

/-- The handles of a channel. -/
def holders (index channel : Nat) (board : Board) : List Handle :=
  board.allHandles.filter (Handle.isOf index channel)

/-- The channel that is let go stays allocated. -/
theorem perm_letGo (hnames : (board.handles.map (·.name)).Nodup) (hmem : handle ∈ board.handles) :
    (board.letGo handle).allHandles.Perm board.allHandles := by
  have hmoved := (perm_cons_filter_key hnames hmem).append_right board.abandoned
  refine List.Perm.trans ?_ hmoved.symm
  rw [allHandles, letGo, ← List.append_assoc]
  exact List.perm_append_singleton ..

/-- A handle is added, whether its name was used before or not. -/
theorem perm_addHandle (board : Board) (hnames : (board.handles.map (·.name)).Nodup)
    (handle : Handle) :
    (board.addHandle handle).allHandles.Perm (handle :: board.allHandles) ∧
      ((board.addHandle handle).handles.map (·.name)).Nodup := by
  have hadd : ∀ board : Board, (board.handles.map (·.name)).Nodup →
      handle.name ∉ board.handles.map (·.name) →
      List.Perm ((board.handles ++ [handle]) ++ board.abandoned) (handle :: board.allHandles) ∧
        ((board.handles ++ [handle]).map (·.name)).Nodup := by
    intro board hnames hnew
    refine ⟨?_, ?_⟩
    · rw [List.append_assoc, List.singleton_append]
      exact List.perm_middle
    · rw [List.map_append, List.nodup_append_comm]
      exact List.nodup_cons.mpr ⟨hnew, hnames⟩
  unfold addHandle
  cases hhandle : board.handle? handle.name with
  | none => exact hadd board hnames (handle?_eq_none hhandle)
  | some former =>
      obtain ⟨hmem, hname⟩ := handle?_eq_some hhandle
      have hothers := nodup_filter_key hnames former.name
      have hnew : handle.name ∉ (board.letGo former).handles.map (·.name) := by
        intro hmem
        obtain ⟨other, hother, hsame⟩ := List.mem_map.mp hmem
        have hdiffers := (List.mem_filter.mp hother).2
        exact absurd (hsame.trans hname.symm) (by simpa using hdiffers)
      obtain ⟨hperm, hnodup⟩ := hadd (board.letGo former) hothers hnew
      exact ⟨hperm.trans ((perm_letGo hnames hmem).cons handle), hnodup⟩

/-! ## Divisions -/

/-- How the regions of the controllers are divided. -/
def divisions (board : Board) : List (Option Division) :=
  board.controllers.map (·.division)

theorem divisions_withDriver (index : Nat) (driver : Driver) (board : Board) :
    (board.withDriver index driver).divisions =
      board.divisions.set index driver.controller.division :=
  List.map_set

theorem getElem?_divisions (hfound : board.controllers[index]? = some controller) :
    board.divisions[index]? = some controller.division := by
  rw [divisions, List.getElem?_map, hfound]
  rfl

theorem getElem?_divisions_of_setup (hfound : board.controllers[index]? = some controller)
    (hsetup : controller.setup = some setup) :
    board.divisions[index]? = some (some setup.division) := by
  rw [getElem?_divisions hfound, Controller.division, hsetup]
  rfl

theorem divisions_withDriver_of_eq {driver : Driver}
    (hfound : board.controllers[index]? = some controller)
    (hsame : driver.controller.division = controller.division) :
    (board.withDriver index driver).divisions = board.divisions := by
  obtain ⟨hbound, hdivided⟩ := List.getElem?_eq_some_iff.mp (getElem?_divisions hfound)
  rw [divisions_withDriver, hsame, ← hdivided, List.set_getElem_self]

/-- Using controllers divides nothing anew. -/
theorem Uses.divisions {allowed : Disturbance → Prop} {held : Nat → Nat → Prop}
    (huses : Uses allowed held before after) : after.divisions = before.divisions := by
  refine Works.keep (·.divisions = before.divisions) huses ?_ ?_ rfl
  · intro board index controller driver hfound hdriver hsame
    exact (divisions_withDriver_of_eq hfound (Driver.Uses.division hdriver)).trans hsame
  · intro middle after hcontrollers _ _ hsame
    rw [Board.divisions, hcontrollers]
    exact hsame

/-- The channel is held, as far as its controller knows. -/
def isHeld (index channel : Nat) (board : Board) : Bool :=
  (board.divisions[index]?.join.bind (·.held[channel]?)).getD false

theorem isHeld_eq (hfound : board.controllers[index]? = some controller)
    (hsetup : controller.setup = some setup) (channel : Nat) :
    board.isHeld index channel = setup.requests[channel]?.join.isSome := by
  rw [isHeld, getElem?_divisions_of_setup hfound hsetup]
  change ((setup.requests.map (·.isSome))[channel]?).getD false = _
  rw [List.getElem?_map]
  cases setup.requests[channel]? with
  | none => rfl
  | some request => rfl

theorem isHeld_of_none (hfound : board.controllers[index]? = some controller)
    (hsetup : controller.setup = none) (channel : Nat) : board.isHeld index channel = false := by
  rw [isHeld, getElem?_divisions hfound, Controller.division, hsetup]
  rfl

/-- Another division at one controller changes nothing at the others. -/
theorem isHeld_of_set {division : Option Division}
    (hset : after.divisions = before.divisions.set index division)
    (hbound : index < before.divisions.length) (other channel : Nat) :
    after.isHeld other channel =
      if other = index then (division.bind (·.held[channel]?)).getD false
      else before.isHeld other channel := by
  rw [isHeld, isHeld, hset]
  split
  next hsame => rw [hsame, List.getElem?_set_self hbound, Option.join_some]
  next hne => rw [List.getElem?_set_ne (Ne.symm hne)]

/-- Giving the request of a channel another value decides whether the channel is
held. -/
theorem isHeld_setRequest (request : Option Request)
    (hfound : before.controllers[index]? = some controller)
    (hsetup : controller.setup = some setup) (hchannel : channel < setup.usable)
    (hset : after.divisions =
      before.divisions.set index (controller.setRequest channel request).division)
    (other slot : Nat) :
    after.isHeld other slot =
      if other = index ∧ slot = channel then request.isSome else before.isHeld other slot := by
  obtain ⟨hbound, -⟩ := List.getElem?_eq_some_iff.mp (getElem?_divisions hfound)
  rw [isHeld_of_set hset hbound]
  by_cases hsame : other = index
  · subst hsame
    rw [if_pos rfl, isHeld_eq hfound hsetup, Controller.division, Controller.setRequest, hsetup]
    change (((setup.requests.set channel request).map (·.isSome))[slot]?).getD false = _
    rw [List.getElem?_map, List.getElem?_set]
    by_cases hslot : channel = slot
    · subst hslot
      have hin : channel < setup.requests.length := hchannel
      rw [if_pos rfl, if_pos hin, if_pos ⟨rfl, rfl⟩]
      rfl
    · rw [if_neg hslot, if_neg (fun hboth => hslot hboth.2.symm)]
      cases setup.requests[slot]? with
      | none => rfl
      | some request => rfl
  · rw [if_neg hsame, if_neg (fun hboth => hsame hboth.1)]

/-! ## Exclusive holders -/

/-- Names tell handles apart, and a channel has one handle while it is held, and
none while it is free. -/
structure Exclusive (board : Board) : Prop where
  names : (board.handles.map (·.name)).Nodup
  holders : ∀ index channel,
    (board.holders index channel).length = if board.isHeld index channel then 1 else 0

theorem Exclusive.holders_eq_nil (hexclusive : board.Exclusive)
    (hfree : board.isHeld index channel = false) : board.holders index channel = [] := by
  have hlength := hexclusive.holders index channel
  rwa [hfree, if_neg Bool.false_ne_true, List.length_eq_zero_iff] at hlength

theorem Exclusive.exists_holder (hexclusive : board.Exclusive)
    (hheld : board.isHeld index channel = true) :
    ∃ handle, board.holders index channel = [handle] := by
  have hlength := hexclusive.holders index channel
  rwa [hheld, if_pos rfl, List.length_eq_one_iff] at hlength

/-- A channel is held while there is a handle for it. -/
theorem Exclusive.isHeld (hexclusive : board.Exclusive) (hmem : handle ∈ board.handles) :
    board.isHeld handle.controller handle.channel = true := by
  by_contra hfree
  have hnone := hexclusive.holders_eq_nil (Bool.eq_false_iff.mpr hfree)
  have hholder : handle ∈ board.holders handle.controller handle.channel :=
    List.mem_filter.mpr ⟨List.mem_append_left _ hmem, by simp⟩
  rw [hnone] at hholder
  exact absurd hholder List.not_mem_nil

theorem Exclusive.of_eq (hexclusive : before.Exclusive)
    (hhandles : after.handles = before.handles) (habandoned : after.abandoned = before.abandoned)
    (hdivisions : after.divisions = before.divisions) : after.Exclusive where
  names := hhandles ▸ hexclusive.names
  holders index channel := by
    rw [Board.holders, allHandles, hhandles, habandoned, Board.isHeld, hdivisions]
    exact hexclusive.holders index channel

theorem Exclusive.of_perm (hexclusive : before.Exclusive)
    (hnames : (after.handles.map (·.name)).Nodup)
    (hperm : after.allHandles.Perm before.allHandles)
    (hheld : ∀ index channel, after.isHeld index channel = before.isHeld index channel) :
    after.Exclusive where
  names := hnames
  holders index channel := by
    rw [hheld, ← hexclusive.holders index channel]
    exact (hperm.filter _).length_eq

/-- A free channel gets a handle, and is held from then on. -/
theorem Exclusive.allocate (hexclusive : before.Exclusive)
    (hnames : (after.handles.map (·.name)).Nodup)
    (hperm : after.allHandles.Perm (handle :: before.allHandles))
    (hfree : before.isHeld handle.controller handle.channel = false)
    (hheld : ∀ index channel, after.isHeld index channel =
      if index = handle.controller ∧ channel = handle.channel then true
      else before.isHeld index channel) : after.Exclusive where
  names := hnames
  holders index channel := by
    rw [Board.holders, (hperm.filter _).length_eq, hheld]
    by_cases hsame : index = handle.controller ∧ channel = handle.channel
    · rw [if_pos hsame, if_pos rfl]
      obtain ⟨rfl, rfl⟩ := hsame
      rw [List.filter_cons_of_pos (by simp), List.length_cons]
      exact congrArg (· + 1) (List.length_eq_zero_iff.mpr (hexclusive.holders_eq_nil hfree))
    · rw [List.filter_cons_of_neg (mt Handle.isOf_iff.mp hsame), if_neg hsame]
      exact hexclusive.holders index channel

/-- A channel that loses its handle is free from then on. -/
theorem Exclusive.release (hexclusive : before.Exclusive)
    (hnames : (after.handles.map (·.name)).Nodup)
    (hperm : before.allHandles.Perm (handle :: after.allHandles))
    (hheld : ∀ index channel, after.isHeld index channel =
      if index = handle.controller ∧ channel = handle.channel then false
      else before.isHeld index channel) : after.Exclusive where
  names := hnames
  holders index channel := by
    have hbefore := hexclusive.holders index channel
    rw [Board.holders, (hperm.filter _).length_eq] at hbefore
    rw [hheld]
    by_cases hsame : index = handle.controller ∧ channel = handle.channel
    · rw [if_pos hsame, if_neg Bool.false_ne_true]
      obtain ⟨rfl, rfl⟩ := hsame
      rw [List.filter_cons_of_pos (by simp), List.length_cons] at hbefore
      -- one handle was there at most
      have hone : (if before.isHeld handle.controller handle.channel then 1 else 0) ≤ 1 := by
        split <;> decide
      rw [← hbefore] at hone
      exact Nat.le_zero.mp (Nat.le_of_succ_le_succ hone)
    · rw [List.filter_cons_of_neg (mt Handle.isOf_iff.mp hsame)] at hbefore
      rw [if_neg hsame]
      exact hbefore

/-! ## Handovers -/

theorem exists_request (hheld : board.isHeld index channel = true) :
    ∃ controller setup request, board.controllers[index]? = some controller ∧
      controller.setup = some setup ∧ setup.requests[channel]? = some (some request) := by
  cases hfound : board.controllers[index]? with
  | none =>
      rw [isHeld, divisions, List.getElem?_map, hfound] at hheld
      exact absurd hheld Bool.false_ne_true
  | some controller =>
      cases hsetup : controller.setup with
      | none =>
          rw [isHeld_of_none hfound hsetup] at hheld
          exact absurd hheld Bool.false_ne_true
      | some setup =>
          rw [isHeld_eq hfound hsetup] at hheld
          cases hrequest : setup.requests[channel]? with
          | none =>
              rw [hrequest] at hheld
              exact absurd hheld Bool.false_ne_true
          | some request =>
              cases request with
              | none =>
                  rw [hrequest] at hheld
                  exact absurd hheld Bool.false_ne_true
              | some request => exact ⟨controller, setup, request, rfl, hsetup, hrequest⟩

/-- No channel is held where all requests are gone. -/
theorem isHeld_of_free (hfound : board.controllers[index]? = some controller)
    (hsetup : controller.setup = some setup) (hfree : setup.requests.any (·.isSome) = false)
    (channel : Nat) : board.isHeld index channel = false := by
  rw [isHeld_eq hfound hsetup]
  cases hrequest : setup.requests[channel]? with
  | none => rfl
  | some request =>
      exact Bool.eq_false_iff.mpr (List.any_eq_false.mp hfree request (List.mem_of_getElem? hrequest))

theorem Takes.divisions {region : Region} {taken : Board} (htakes : board.Takes region taken) :
    taken.divisions = board.divisions :=
  congrArg (List.map _) htakes.frame.1

/-- An initialization changes no holder. -/
theorem Exclusive.opening {source : RegionSource} {busAddress : UInt32} {config : Config}
    {outcome : Except Refusal Answer × Board} (hexclusive : board.Exclusive)
    (hopening : Opening index source busAddress config board outcome) : outcome.2.Exclusive := by
  cases hopening with
  | missing => exact hexclusive
  | waste htaken =>
      have htakes := takes_of_takeRegion htaken
      obtain ⟨-, -, hhandles, habandoned⟩ := htakes.frame
      exact hexclusive.of_eq hhandles habandoned htakes.divisions
  | @lose region taken controller error logged htaken hfound hlogs =>
      have htakes := takes_of_takeRegion htaken
      obtain ⟨-, -, hhandles, habandoned⟩ := htakes.frame
      have hsame := divisions_withDriver_of_eq (htakes.found hfound)
        hlogs.aside.sameAssignment.division
      exact hexclusive.of_eq hhandles habandoned (hsame.trans htakes.divisions)
  | @init region taken controller htaken hfound hclosed =>
      have htakes := takes_of_takeRegion htaken
      obtain ⟨-, -, hhandles, habandoned⟩ := htakes.frame
      obtain ⟨hbound, -⟩ := List.getElem?_eq_some_iff.mp (getElem?_divisions hfound)
      refine hexclusive.of_perm (hhandles ▸ hexclusive.names)
        (List.Perm.of_eq (congrArg₂ _ hhandles habandoned)) fun other channel => ?_
      have hset := divisions_withDriver index
        (Driver.opened region busAddress config ⟨controller, board.references⟩) taken
      rw [htakes.divisions] at hset
      rw [isHeld_of_set hset hbound]
      split
      next hsame =>
        rw [hsame, isHeld_of_none hfound hclosed, Controller.division, Driver.setup_opened]
        change ((List.map _ (List.replicate _ none))[channel]?).getD false = false
        rw [List.map_replicate, List.getElem?_replicate]
        split <;> rfl
      next => rfl

/-- Handing something over leaves each channel with at most one holder. -/
theorem Exclusive.handover (hexclusive : before.Exclusive) (hhandover : Handover before after) :
    after.Exclusive := by
  cases hhandover with
  | refuse => exact hexclusive.of_eq rfl rfl rfl
  | @allocate index controller setup channel name hfound hsetup hfree =>
      have husable : channel < setup.usable := (List.getElem?_eq_some_iff.mp hfree).1
      obtain ⟨hperm, hnames⟩ := perm_addHandle
        (before.withDriver index ⟨controller.setRequest channel (some {}), before.references⟩)
        hexclusive.names ⟨name, index, channel⟩
      refine hexclusive.allocate hnames hperm ?_ ?_
      · rw [isHeld_eq hfound hsetup, hfree]
        rfl
      · refine isHeld_setRequest (some {}) hfound hsetup husable ?_
        rw [divisions, (addHandle_frame _ _).1]
        exact divisions_withDriver ..
  | @release controller name handle hhandle hfound hstopped =>
      obtain ⟨hmem, rfl⟩ := handle?_eq_some hhandle
      obtain ⟨_, setup, request, hsame, hsetup, hrequest⟩ := exists_request (hexclusive.isHeld hmem)
      cases hsame.symm.trans hfound
      have husable : handle.channel < setup.usable := (List.getElem?_eq_some_iff.mp hrequest).1
      refine hexclusive.release (nodup_filter_key hexclusive.names _)
        ((perm_cons_filter_key hexclusive.names hmem).append_right _) ?_
      exact isHeld_setRequest none hfound hsetup husable (divisions_withDriver ..)
  | @deinit index controller setup hfound hsetup hfree =>
      obtain ⟨hbound, -⟩ := List.getElem?_eq_some_iff.mp (getElem?_divisions hfound)
      refine hexclusive.of_perm hexclusive.names (.refl _) fun other channel => ?_
      have hset := divisions_withDriver index
        (Driver.closed setup ⟨controller, before.references⟩) before
      change (before.withDriver index _).isHeld other channel = _
      rw [isHeld_of_set hset hbound]
      split
      next hsame =>
        rw [hsame, isHeld_of_free hfound hsetup hfree]
        rfl
      next => rfl
  | abandon hhandle =>
      obtain ⟨hmem, -⟩ := handle?_eq_some hhandle
      exact hexclusive.of_perm (nodup_filter_key hexclusive.names _)
        (perm_letGo hexclusive.names hmem) fun _ _ => rfl

/-! ## Reachable boards -/

theorem exclusive_new {channels : List Nat} {owners : Nat}
    (hnew : new? channels owners = some board) : board.Exclusive := by
  have hclosed : ∀ index channel, board.isHeld index channel = false := by
    intro index channel
    by_contra hheld
    obtain ⟨controller, setup, _, hfound, hsetup, -⟩ :=
      exists_request (Bool.eq_true_of_not_eq_false hheld)
    obtain ⟨managed, hcontroller⟩ := new_of_new? hnew controller (List.mem_of_getElem? hfound)
    unfold Controller.new? at hcontroller
    split at hcontroller <;> cases hcontroller
    cases hsetup
  obtain ⟨controllers, -, rfl⟩ := Option.map_eq_some_iff.mp hnew
  refine ⟨List.nodup_nil, fun index channel => ?_⟩
  rw [hclosed]
  rfl

/-- In a reachable board, a channel that is held has one holder, and one that is
free has none. -/
theorem Reachable.exclusive (hboard : board.Reachable) : board.Exclusive := by
  refine hboard.keep exclusive_new (fun huses hexclusive => ?_)
    (fun hhandover hexclusive => hexclusive.handover hhandover)
    fun hopening hexclusive => hexclusive.opening hopening
  obtain ⟨hhandles, habandoned, -⟩ := huses.sameHolding
  exact hexclusive.of_eq hhandles habandoned huses.divisions

/-- The channels that clients hold are managed. -/
theorem Reachable.usable (hboard : board.Reachable) (hmem : handle ∈ board.handles) :
    ∃ controller setup request, board.controllers[handle.controller]? = some controller ∧
      controller.setup = some setup ∧
      setup.requests[handle.channel]? = some (some request) ∧
      handle.channel < controller.managed := by
  obtain ⟨controller, setup, request, hfound, hsetup, hrequest⟩ :=
    exists_request (hboard.exclusive.isHeld hmem)
  have husable : handle.channel < setup.usable := (List.getElem?_eq_some_iff.mp hrequest).1
  have hreachable := hboard.controllers controller (List.mem_of_getElem? hfound)
  rw [hreachable.measured setup hsetup] at husable
  exact ⟨controller, setup, request, hfound, hsetup, hrequest,
    Nat.lt_of_lt_of_le husable (Nat.min_le_left ..)⟩

end Board

end CyclicDma
