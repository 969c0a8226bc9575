import CyclicDma.Proofs.Board.Holding

/-! # Regions

A region is with one controller, or among those that can be taken, or lost. A
controller keeps the region that its initialization was given until it hands it
back.
-/

namespace CyclicDma.Board

variable {board before after taken : Board} {controller : Controller} {setup : Setup}
variable {region : Region} {index : Nat} {busAddress : UInt32}

/-! ## Where regions are -/

/-- The numbers of the regions that controllers have. -/
def numbersOf (divisions : List (Option Division)) : List Nat :=
  divisions.filterMap (·.map (·.region))

/-- The numbers of all regions that there are. -/
def regionNumbers (board : Board) : List Nat :=
  numbersOf board.divisions ++ (board.spare ++ board.lost).map (·.number)

/-- Another division takes the place of the one that is there. -/
theorem numbersOf_set {divisions : List (Option Division)} {former : Option Division}
    (hfound : divisions[index]? = some former) (later : Option Division) :
    ((former.map (·.region)).toList ++ numbersOf (divisions.set index later)).Perm
      ((later.map (·.region)).toList ++ numbersOf divisions) := by
  obtain ⟨hbound, rfl⟩ := List.getElem?_eq_some_iff.mp hfound
  have hcons : ∀ division : Option Division,
      numbersOf (division :: divisions.eraseIdx index) =
        (division.map (·.region)).toList ++ numbersOf (divisions.eraseIdx index) := by
    intro division
    cases division <;> rfl
  have hlater := (List.set_perm_cons_eraseIdx hbound later).filterMap (·.map (·.region))
  have hformer := (List.getElem_cons_eraseIdx_perm hbound).filterMap (·.map (·.region))
  rw [show List.filterMap _ (later :: _) = _ from hcons later] at hlater
  rw [show List.filterMap _ (divisions[index] :: _) = _ from hcons divisions[index]] at hformer
  refine (hlater.append_left _).trans ?_
  refine List.Perm.trans ?_ (hformer.append_left _)
  rw [← List.append_assoc, ← List.append_assoc]
  exact List.perm_append_comm.append_right _

/-- No two regions have the same number, and new regions get new ones. -/
structure Apart (board : Board) : Prop where
  nodup : board.regionNumbers.Nodup
  bound : ∀ number ∈ board.regionNumbers, number < board.regions

theorem Apart.of_perm (hapart : before.Apart)
    (hperm : after.regionNumbers.Perm before.regionNumbers)
    (hregions : after.regions = before.regions) : after.Apart where
  nodup := hperm.nodup_iff.mpr hapart.nodup
  bound number hmem := hregions ▸ hapart.bound number (hperm.mem_iff.mp hmem)

theorem Apart.of_eq (hapart : before.Apart)
    (hdivisions : numbersOf after.divisions = numbersOf before.divisions)
    (hspare : after.spare = before.spare) (hlost : after.lost = before.lost)
    (hregions : after.regions = before.regions) : after.Apart := by
  refine hapart.of_perm (List.Perm.of_eq ?_) hregions
  rw [regionNumbers, regionNumbers, hdivisions, hspare, hlost]

/-- The region that is taken is nowhere else. -/
theorem Apart.take (hapart : board.Apart) (htakes : board.Takes region taken) :
    taken.Apart ∧ region.number ∉ taken.regionNumbers ∧ region.number < taken.regions := by
  cases htakes with
  | fresh bytes =>
      refine ⟨⟨hapart.nodup, fun number hmem => ?_⟩, fun hmem => ?_, Nat.lt_succ_self _⟩
      · exact Nat.lt_succ_of_lt (hapart.bound number hmem)
      · exact Nat.lt_irrefl _ (hapart.bound _ hmem)
  | @returned number _ hspare =>
      have hmem := List.mem_of_find?_eq_some hspare
      obtain rfl : region.number = number := by simpa using List.find?_some hspare
      obtain ⟨-, hstock, -⟩ := List.nodup_append.mp hapart.nodup
      rw [List.map_append] at hstock
      have hspares := perm_cons_filter_key (List.nodup_append.mp hstock).1 hmem
      have hperm : board.regionNumbers.Perm (region.number :: regionNumbers
          { board with spare := board.spare.filter (·.number ≠ region.number) }) := by
        refine List.Perm.trans ?_ List.perm_middle
        exact ((hspares.append_right board.lost).map (·.number)).append_left _
      obtain ⟨hnew, hnodup⟩ := List.nodup_cons.mp (hperm.nodup_iff.mp hapart.nodup)
      refine ⟨⟨hnodup, fun number hmem => ?_⟩, hnew, ?_⟩
      · exact hapart.bound number (hperm.mem_iff.mpr (List.mem_cons_of_mem _ hmem))
      · exact hapart.bound _ (hperm.mem_iff.mpr List.mem_cons_self)

/-- A region that was nowhere is put somewhere. -/
theorem Apart.put (hapart : before.Apart) (hnew : region.number ∉ before.regionNumbers)
    (hbound : region.number < before.regions) (hregions : after.regions = before.regions)
    (hperm : after.regionNumbers.Perm (region.number :: before.regionNumbers)) : after.Apart where
  nodup := hperm.nodup_iff.mpr (List.nodup_cons.mpr ⟨hnew, hapart.nodup⟩)
  bound number hmem := by
    rw [hregions]
    rcases List.mem_cons.mp (hperm.mem_iff.mp hmem) with rfl | hold
    · exact hbound
    · exact hapart.bound number hold

theorem Apart.opening {source : RegionSource} {config : Config}
    {outcome : Except Refusal Answer × Board} (hapart : board.Apart)
    (hopening : Opening index source busAddress config board outcome) : outcome.2.Apart := by
  cases hopening with
  | missing => exact hapart
  | waste htaken => exact (hapart.take (takes_of_takeRegion htaken)).1
  | @lose region taken controller error logged htaken hfound hlogs =>
      have htakes := takes_of_takeRegion htaken
      obtain ⟨htaken, hnew, hbound⟩ := hapart.take htakes
      refine htaken.put hnew hbound rfl ?_
      have hsame := divisions_withDriver_of_eq (htakes.found hfound)
        hlogs.aside.sameAssignment.division
      have hlast : (numbersOf (taken.withDriver index logged).divisions ++
          (taken.spare ++ (taken.lost ++ [region])).map (·.number)).Perm
            (region.number :: taken.regionNumbers) := by
        rw [hsame, ← List.append_assoc, List.map_append, ← List.append_assoc]
        exact List.perm_append_singleton ..
      exact hlast
  | @init region taken controller htaken hfound hclosed =>
      have htakes := takes_of_takeRegion htaken
      obtain ⟨htaken, hnew, hbound⟩ := hapart.take htakes
      refine htaken.put hnew hbound rfl ?_
      have hformer : taken.divisions[index]? = some none := by
        rw [htakes.divisions, getElem?_divisions hfound, Controller.division, hclosed]
        rfl
      have hperm := numbersOf_set hformer
        (Driver.opened region busAddress config ⟨controller, board.references⟩).controller.division
      rw [← divisions_withDriver, Controller.division, Driver.setup_opened] at hperm
      exact hperm.append_right _

/-- The slab of a channel changes hands, and not the region. -/
theorem Apart.setRequest (channel : Nat) (request : Option Request) (hapart : before.Apart)
    (hfound : before.controllers[index]? = some controller)
    (hset : after.divisions =
      before.divisions.set index (controller.setRequest channel request).division)
    (hspare : after.spare = before.spare) (hlost : after.lost = before.lost)
    (hregions : after.regions = before.regions) : after.Apart := by
  have hregion : (controller.setRequest channel request).division.map (·.region) =
      controller.division.map (·.region) := by
    rw [Controller.division, Controller.division, Controller.setRequest]
    cases controller.setup <;> rfl
  have hperm := numbersOf_set (getElem?_divisions hfound)
    (controller.setRequest channel request).division
  rw [hregion, List.perm_append_left_iff, ← hset] at hperm
  refine hapart.of_perm ?_ hregions
  rw [regionNumbers, regionNumbers, hspare, hlost]
  exact hperm.append_right _

theorem addHandle_regions (handle : Handle) (board : Board) :
    (board.addHandle handle).spare = board.spare ∧ (board.addHandle handle).lost = board.lost ∧
      (board.addHandle handle).regions = board.regions := by
  unfold addHandle
  cases board.handle? handle.name <;> exact ⟨rfl, rfl, rfl⟩

theorem Apart.handover (hapart : before.Apart) (hhandover : Handover before after) :
    after.Apart := by
  cases hhandover with
  | refuse => exact hapart.of_eq rfl rfl rfl rfl
  | @allocate index controller setup channel name hfound hsetup hfree =>
      obtain ⟨hspare, hlost, hregions⟩ := addHandle_regions ⟨name, index, channel⟩
        (before.withDriver index ⟨controller.setRequest channel (some {}), before.references⟩)
      refine hapart.setRequest channel (some {}) hfound ?_ hspare hlost hregions
      rw [divisions, (addHandle_frame _ _).1]
      exact divisions_withDriver ..
  | @release controller name handle hhandle hfound hstopped =>
      exact hapart.setRequest handle.channel none hfound (divisions_withDriver ..) rfl rfl rfl
  | @deinit index controller setup hfound hsetup hfree =>
      refine hapart.of_perm ?_ rfl
      have hperm := numbersOf_set (getElem?_divisions hfound)
        (Driver.closed setup ⟨controller, before.references⟩).controller.division
      rw [← divisions_withDriver, Controller.division, hsetup] at hperm
      have hreturned : (numbersOf (before.withDriver index
          (Driver.closed setup ⟨controller, before.references⟩)).divisions ++
            ((before.spare ++ [setup.region]) ++ before.lost).map (·.number)).Perm
              before.regionNumbers := by
        refine List.Perm.trans ?_ (hperm.append_right _)
        rw [List.append_assoc, List.singleton_append, List.map_append, List.map_cons,
          ← List.append_assoc]
        refine List.perm_middle.trans (List.Perm.of_eq ?_)
        rw [List.append_assoc, ← List.map_append]
        rfl
      exact hreturned
  | abandon hhandle => exact hapart.of_eq rfl rfl rfl rfl

theorem apart_new {channels : List Nat} {owners : Nat}
    (hnew : new? channels owners = some board) : board.Apart := by
  have hnone : numbersOf board.divisions = [] := by
    refine List.filterMap_eq_nil_iff.mpr fun division hmem => ?_
    obtain ⟨controller, hcontroller, rfl⟩ := List.mem_map.mp hmem
    obtain ⟨managed, hfresh⟩ := new_of_new? hnew controller hcontroller
    unfold Controller.new? at hfresh
    split at hfresh <;> cases hfresh
    rfl
  obtain ⟨controllers, -, rfl⟩ := Option.map_eq_some_iff.mp hnew
  have hempty : regionNumbers { controllers, references := List.replicate owners 0 } = [] := by
    rw [regionNumbers, hnone]
    rfl
  constructor
  · rw [hempty]
    exact List.nodup_nil
  · rw [hempty]
    exact fun _ hmem => absurd hmem List.not_mem_nil

/-- In a reachable board, no two regions have the same number. -/
theorem Reachable.apart (hboard : board.Reachable) : board.Apart := by
  refine hboard.keep apart_new (fun huses hapart => ?_)
    (fun hhandover hapart => hapart.handover hhandover)
    fun hopening hapart => hapart.opening hopening
  obtain ⟨-, -, hspare, hlost, hregions⟩ := huses.sameHolding
  exact hapart.of_eq (congrArg numbersOf huses.divisions) hspare hlost hregions

/-! ## Leases -/

/-- What a controller was given and has not handed back. -/
def lease? (index : Nat) (board : Board) : Option Lease :=
  board.divisions[index]?.join.map (·.toLease)

theorem lease?_eq (hfound : board.controllers[index]? = some controller)
    (hsetup : controller.setup = some setup) :
    board.lease? index =
      some ⟨setup.region.number, setup.region.bytes.length, setup.busAddress⟩ := by
  rw [lease?, getElem?_divisions_of_setup hfound hsetup]
  rfl

theorem lease?_of_none (hfound : board.controllers[index]? = some controller)
    (hsetup : controller.setup = none) : board.lease? index = none := by
  rw [lease?, getElem?_divisions hfound, Controller.division, hsetup]
  rfl

theorem lease?_of_divisions (hsame : after.divisions = before.divisions) (index : Nat) :
    after.lease? index = before.lease? index := by
  rw [lease?, lease?, hsame]

theorem lease?_of_set {division : Option Division}
    (hset : after.divisions = before.divisions.set index division)
    (hbound : index < before.divisions.length) (other : Nat) :
    after.lease? other = if other = index then division.map (·.toLease) else before.lease? other := by
  rw [lease?, lease?, hset]
  split
  next hsame => rw [hsame, List.getElem?_set_self hbound, Option.join_some]
  next hne => rw [List.getElem?_set_ne (Ne.symm hne)]

/-- A region is divided as before, apart from who holds what, as long as it is not handed
back. -/
theorem Handover.divides {α : Type} {query : Division → α}
    (hquery : ∀ division held, query { division with held } = query division)
    (hhandover : Handover before after) (index : Nat) :
    after.divisions[index]?.join.map query = before.divisions[index]?.join.map query ∨
      after.divisions[index]?.join = none := by
  have hrequest : ∀ {after : Board} {other : Nat} {controller : Controller} (channel request),
      before.controllers[other]? = some controller →
      after.divisions =
        before.divisions.set other (controller.setRequest channel request).division →
      after.divisions[index]?.join.map query = before.divisions[index]?.join.map query := by
    intro after other controller channel request hfound hset
    obtain ⟨hbound, -⟩ := List.getElem?_eq_some_iff.mp (getElem?_divisions hfound)
    rw [hset]
    by_cases hsame : other = index
    · subst hsame
      rw [List.getElem?_set_self hbound, getElem?_divisions hfound, Controller.division,
        Controller.division, Controller.setRequest]
      cases controller.setup with
      | none => rfl
      | some setup => exact congrArg some (hquery setup.division _)
    · rw [List.getElem?_set_ne hsame]
  cases hhandover with
  | refuse => exact .inl rfl
  | @allocate other controller setup channel name hfound hsetup hfree =>
      refine .inl (hrequest channel (some {}) hfound ?_)
      rw [divisions, (addHandle_frame _ _).1]
      exact divisions_withDriver ..
  | @release controller name handle hhandle hfound hstopped =>
      exact .inl (hrequest handle.channel none hfound (divisions_withDriver ..))
  | @deinit other controller setup hfound hsetup hfree =>
      obtain ⟨hbound, -⟩ := List.getElem?_eq_some_iff.mp (getElem?_divisions hfound)
      have hset := divisions_withDriver other
        (Driver.closed setup ⟨controller, before.references⟩) before
      change Option.map query ((before.withDriver other _).divisions[index]?).join = _ ∨
        ((before.withDriver other _).divisions[index]?).join = none
      rw [hset]
      by_cases hsame : other = index
      · subst hsame
        exact .inr (congrArg Option.join (List.getElem?_set_self hbound))
      · exact .inl (by rw [List.getElem?_set_ne hsame])
  | abandon => exact .inl rfl

/-- A controller keeps its region as long as it does not hand it back. -/
theorem Handover.lease? (hhandover : Handover before after) (index : Nat) :
    after.lease? index = before.lease? index ∨ after.lease? index = none :=
  (hhandover.divides (fun _ _ => rfl) index).imp_right (congrArg (Option.map Division.toLease))

theorem lease?_opened {source : RegionSource}
    (htaken : (takeRegion source).run.run board = (.ok region, taken))
    (hfound : board.controllers[index]? = some controller) (busAddress : UInt32) (config : Config)
    (other : Nat) :
    (taken.withDriver index
      (Driver.opened region busAddress config ⟨controller, board.references⟩)).lease? other =
      if other = index then some ⟨region.number, region.bytes.length, busAddress⟩
      else board.lease? other := by
  obtain ⟨hbound, -⟩ := List.getElem?_eq_some_iff.mp (getElem?_divisions hfound)
  have hset := divisions_withDriver index
    (Driver.opened region busAddress config ⟨controller, board.references⟩) taken
  rw [(takes_of_takeRegion htaken).divisions] at hset
  rw [lease?_of_set hset hbound, Controller.division, Driver.setup_opened]
  rfl

/-- An initialization divides the region of the controller that it succeeds for, and there
was none before. -/
theorem Opening.divides {other : Nat} {source : RegionSource} {config : Config}
    {outcome : Except Refusal Answer × Board}
    (hopening : Opening other source busAddress config board outcome) (index : Nat) :
    outcome.2.divisions[index]? = board.divisions[index]? ∨
      index = other ∧ board.divisions[index]?.join = none ∧ ∃ region taken answer,
        (takeRegion source).run.run board = (.ok region, taken) ∧ outcome.1 = .ok answer := by
  cases hopening with
  | missing => exact .inl rfl
  | waste htaken =>
      exact .inl (congrArg (·[index]?) (takes_of_takeRegion htaken).divisions)
  | @lose region taken controller error logged htaken hfound hlogs =>
      have htakes := takes_of_takeRegion htaken
      have hsame := divisions_withDriver_of_eq (htakes.found hfound)
        hlogs.aside.sameAssignment.division
      exact .inl (congrArg (·[index]?) (hsame.trans htakes.divisions))
  | @init region taken controller htaken hfound hclosed =>
      by_cases hsame : index = other
      · subst hsame
        refine .inr ⟨rfl, ?_, region, taken, _, htaken, rfl⟩
        rw [getElem?_divisions hfound, Controller.division, hclosed]
        rfl
      · left
        have hset := divisions_withDriver other
          (Driver.opened region busAddress config ⟨controller, board.references⟩) taken
        dsimp only
        rw [hset, List.getElem?_set_ne (Ne.symm hsame), (takes_of_takeRegion htaken).divisions]

/-- An initialization changes the region of the controller that it succeeds for,
and there was none before. -/
theorem Opening.lease? {other : Nat} {source : RegionSource} {config : Config}
    {outcome : Except Refusal Answer × Board}
    (hopening : Opening other source busAddress config board outcome) (index : Nat) :
    outcome.2.lease? index = board.lease? index ∨
      index = other ∧ board.lease? index = none ∧ ∃ region taken answer,
        (takeRegion source).run.run board = (.ok region, taken) ∧ outcome.1 = .ok answer :=
  (hopening.divides index).imp
    (congrArg fun found => (Option.join found).map Division.toLease)
    (And.imp_right (And.imp_left (congrArg (Option.map Division.toLease))))

/-- The controller is initialized. -/
def IsOpen (index : Nat) (board : Board) : Prop :=
  ∃ controller setup, board.controllers[index]? = some controller ∧ controller.setup = some setup

instance (index : Nat) (board : Board) : Decidable (board.IsOpen index) :=
  decidable_of_iff ((board.controllers[index]?.bind (·.setup)).isSome = true) <| by
    rw [Option.isSome_iff_exists]
    simp only [Option.bind_eq_some_iff, IsOpen]
    exact exists_comm.trans (by simp)

/-- The region and the bus address that the controller was initialized with, and
has kept since then. -/
inductive Given (index : Nat) (region : Region) (busAddress : UInt32) : Board → Prop
  | init {board taken after : Board} {source config answer} (hboard : board.Reachable)
      (htaken : (takeRegion source).run.run board = (.ok region, taken))
      (hinit : board.perform (.controller index (.init source busAddress config)) =
        (.ok answer, after)) : Given index region busAddress after
  | perform {board : Board} (operation : Operation) (hgiven : Given index region busAddress board)
      (hopen : (board.perform operation).2.IsOpen index) :
      Given index region busAddress (board.perform operation).2
  | deliver {board : Board} (other depth : Nat) (hgiven : Given index region busAddress board) :
      Given index region busAddress
        ((onDriver other fun driver => ((), driver.dispatchNested depth)).run.run board).2

theorem isOpen_of_lease? {lease : Lease} (hlease : board.lease? index = some lease) :
    board.IsOpen index := by
  cases hfound : board.controllers[index]? with
  | none =>
      rw [lease?, divisions, List.getElem?_map, hfound] at hlease
      cases hlease
  | some controller =>
      cases hsetup : controller.setup with
      | none =>
          rw [lease?_of_none hfound hsetup] at hlease
          cases hlease
      | some setup => exact ⟨controller, setup, hfound, hsetup⟩

theorem IsOpen.divided (hopen : board.IsOpen index) : board.divisions[index]?.join ≠ none := by
  obtain ⟨controller, setup, hfound, hsetup⟩ := hopen
  rw [getElem?_divisions_of_setup hfound hsetup]
  exact Option.some_ne_none _

/-- No operation divides the region of a controller anew that has it already. -/
theorem divides_perform {α : Type} {query : Division → α}
    (hquery : ∀ division held, query { division with held } = query division) {value : α}
    (hvalue : board.divisions[index]?.join.map query = some value)
    (operation : Operation) (hopen : (board.perform operation).2.IsOpen index) :
    (board.perform operation).2.divisions[index]?.join.map query = some value := by
  rcases perform_cases operation board with huses | hhandover | ⟨other, _, _, _, rfl⟩
  · rw [huses.divisions, hvalue]
  · rcases hhandover.divides hquery index with hsame | hnone
    · exact hsame.trans hvalue
    · exact absurd hnone hopen.divided
  · rcases (opening_perform other ..).divides index with hsame | ⟨-, hnone, -⟩
    · rw [hsame, hvalue]
    · rw [hnone] at hvalue
      cases hvalue

/-- No operation gives a controller another region than the one that it has. -/
theorem lease?_perform {lease : Lease} (hlease : board.lease? index = some lease)
    (operation : Operation) (hopen : (board.perform operation).2.IsOpen index) :
    (board.perform operation).2.lease? index = some lease :=
  divides_perform (fun _ _ => rfl) hlease operation hopen

theorem lease?_deliver (other depth index : Nat) (board : Board) :
    ((onDriver other fun driver => ((), driver.dispatchNested depth)).run.run board).2.lease? index =
      board.lease? index := by
  have huses : Uses (fun _ => True) (fun _ _ => True) board _ := uses_deliver other depth board
  exact lease?_of_divisions huses.divisions index

/-- A controller has what it was given. -/
theorem Given.lease? (hgiven : board.Given index region busAddress) :
    board.lease? index = some ⟨region.number, region.bytes.length, busAddress⟩ := by
  induction hgiven with
  | @init board taken after source config answer hboard htaken hinit =>
      have hopening := opening_perform index source busAddress config board
      rw [hinit] at hopening
      cases hopening with
      | init htaken' hfound hclosed =>
          cases htaken.symm.trans htaken'
          rw [lease?_opened htaken hfound, if_pos rfl]
  | perform operation _ hopen ih => exact lease?_perform ih operation hopen
  | deliver other depth _ ih => exact (lease?_deliver other depth index _).trans ih

/-- A controller that has a region was given it. -/
theorem Reachable.given (hboard : board.Reachable) {lease : Lease}
    (hlease : board.lease? index = some lease) :
    ∃ region busAddress, board.Given index region busAddress := by
  induction hboard generalizing lease with
  | @new channels owners board hnew =>
      obtain ⟨controller, setup, hfound, hsetup⟩ := isOpen_of_lease? hlease
      obtain ⟨managed, hfresh⟩ := new_of_new? hnew controller (List.mem_of_getElem? hfound)
      unfold Controller.new? at hfresh
      split at hfresh <;> cases hfresh
      cases hsetup
  | @perform board operation hboard ih =>
      have hopen := isOpen_of_lease? hlease
      cases hbefore : board.lease? index with
      | some earlier =>
          obtain ⟨region, busAddress, hgiven⟩ := ih hbefore
          exact ⟨region, busAddress, hgiven.perform operation hopen⟩
      | none =>
          -- the region is new, so this is the initialization
          rcases perform_cases operation board with huses | hhandover | ⟨other, source, busAddress, config, rfl⟩
          · rw [lease?_of_divisions huses.divisions, hbefore] at hlease
            cases hlease
          · rcases hhandover.lease? index with hsame | hnone
            · exact nomatch (hsame.trans hbefore).symm.trans hlease
            · exact nomatch hnone.symm.trans hlease
          · rcases (opening_perform other source busAddress config board).lease? index with
              hsame | ⟨rfl, -, region, taken, answer, htaken, hok⟩
            · exact nomatch (hsame.trans hbefore).symm.trans hlease
            · exact ⟨region, busAddress, .init hboard htaken (Prod.ext hok rfl)⟩
  | deliver other depth hboard ih =>
      rw [lease?_deliver] at hlease
      obtain ⟨region, busAddress, hgiven⟩ := ih hlease
      exact ⟨region, busAddress, hgiven.deliver other depth⟩

end CyclicDma.Board
