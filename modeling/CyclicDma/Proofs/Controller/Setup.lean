import CyclicDma.Controller.Submit

/-! # Slabs and requests

Slabs do not overlap: replacing the slab of one channel leaves the others as they
are. The same holds for requests.
-/

namespace CyclicDma

/-! ## Slabs -/

namespace Region

variable {region : Region} {channel other : Nat} {slab : List UInt8}

theorem length_slab (region : Region) (channel : Nat) :
    (region.slab channel).length =
      min slabBytes (region.bytes.length - slabBytes * channel) := by
  rw [Region.slab, List.length_take, List.length_drop]

theorem length_slab_of_le (hregion : slabBytes * (channel + 1) ≤ region.bytes.length) :
    (region.slab channel).length = slabBytes := by
  rw [length_slab]
  unfold slabBytes at *
  omega

theorem getElem?_slab (region : Region) (channel index : Nat) :
    (region.slab channel)[index]? =
      if index < slabBytes then region.bytes[slabBytes * channel + index]? else none := by
  rw [Region.slab, List.getElem?_take, List.getElem?_drop]

/-- Replacing a slab changes the bytes of the slab, and no others. -/
theorem getElem?_storeSlab (hlength : slab.length = (region.slab channel).length) (index : Nat) :
    (region.storeSlab channel slab).bytes[index]? =
      if slabBytes * channel ≤ index ∧ index < slabBytes * channel + slab.length then
        slab[index - slabBytes * channel]?
      else region.bytes[index]? := by
  rw [length_slab] at hlength
  have hbefore : (region.bytes.take (slabBytes * channel)).length =
      min (slabBytes * channel) region.bytes.length :=
    List.length_take
  rw [storeSlab, List.append_assoc]
  -- the index is before the slab, within it or behind it
  by_cases hlow : index < slabBytes * channel
  · rw [if_neg (fun hboth => Nat.not_le_of_lt hlow hboth.1)]
    by_cases hin : index < region.bytes.length
    · rw [List.getElem?_append_left (by omega), List.getElem?_take, if_pos hlow]
    · rw [List.getElem?_append_right (by omega), List.getElem?_eq_none (Nat.le_of_not_lt hin)]
      apply List.getElem?_eq_none
      rw [List.length_append, List.length_drop, hbefore]
      omega
  · by_cases hhigh : index < slabBytes * channel + slab.length
    · rw [if_pos ⟨Nat.le_of_not_lt hlow, hhigh⟩, List.getElem?_append_right (by omega), hbefore,
        List.getElem?_append_left (by omega)]
      congr 1
      omega
    · rw [if_neg (fun hboth => hhigh hboth.2), List.getElem?_append_right (by omega), hbefore,
        List.getElem?_append_right (by omega), List.getElem?_drop]
      by_cases hin : slabBytes * channel ≤ region.bytes.length
      · congr 1
        omega
      · rw [List.getElem?_eq_none (by omega), List.getElem?_eq_none (by omega)]

theorem length_storeSlab (hlength : slab.length = (region.slab channel).length) :
    (region.storeSlab channel slab).bytes.length = region.bytes.length := by
  rw [length_slab] at hlength
  simp only [storeSlab, List.length_append, List.length_take, List.length_drop]
  omega

theorem slab_storeSlab_self (hlength : slab.length = (region.slab channel).length) :
    (region.storeSlab channel slab).slab channel = slab := by
  apply List.ext_getElem?
  intro index
  have hshort := hlength
  rw [length_slab] at hshort
  rw [getElem?_slab, getElem?_storeSlab hlength]
  by_cases hin : index < slab.length
  · rw [if_pos (by omega), if_pos (by omega), Nat.add_sub_cancel_left]
  · rw [List.getElem?_eq_none (Nat.le_of_not_lt hin)]
    split
    · rw [if_neg (by omega)]
      exact List.getElem?_eq_none (by omega)
    · rfl

theorem slab_storeSlab_of_ne (hlength : slab.length = (region.slab channel).length)
    (hne : other ≠ channel) : (region.storeSlab channel slab).slab other = region.slab other := by
  apply List.ext_getElem?
  intro index
  rw [length_slab] at hlength
  rw [getElem?_slab, getElem?_slab]
  split
  next hin =>
    rw [getElem?_storeSlab (by rw [hlength, length_slab]), if_neg]
    rintro ⟨hlow, hhigh⟩
    unfold slabBytes at *
    omega
  next => rfl

end Region

/-! ## Requests -/

namespace Setup

/-- The transfer that was last submitted to a channel. -/
def transfer? (setup : Setup) (channel : Nat) : Option Transfer :=
  setup.requests[channel]?.join.bind (·.transfer)

theorem lt_usable_of_transfer? {setup : Setup} {channel : Nat} {transfer : Transfer}
    (htransfer : setup.transfer? channel = some transfer) : channel < setup.usable := by
  rcases Nat.lt_or_ge channel setup.usable with hlt | hout
  · exact hlt
  · rw [transfer?, List.getElem?_eq_none hout] at htransfer
    cases htransfer

end Setup

theorem Controller.transfer?_eq {controller : Controller} {setup : Setup}
    (hsetup : controller.setup = some setup) (channel : Nat) :
    controller.transfer? channel = setup.transfer? channel := by
  rw [Controller.transfer?, Controller.request?, hsetup]
  rfl

namespace Setup

variable (setup : Setup) {channel other : Nat}

/-- The setup after the request of a channel was changed. -/
def updateRequest (setup : Setup) (channel : Nat) (update : Request → Request) : Setup :=
  { setup with requests := setup.requests.modify channel (·.map update) }

theorem transfer?_updateRequest (update : Request → Request) :
    (setup.updateRequest channel update).transfer? other =
      if other = channel then
        setup.requests[channel]?.join.bind (fun request => (update request).transfer)
      else setup.transfer? other := by
  unfold transfer? updateRequest
  split
  next hsame =>
    subst hsame
    simp only [List.getElem?_modify_eq]
    cases setup.requests[other]? with
    | none => rfl
    | some request => cases request <;> rfl
  next hne =>
    simp only [List.getElem?_modify_ne _ _ (Ne.symm hne)]

theorem transfer?_setRunning (running : Bool) :
    (setup.updateRequest channel ({ · with running })).transfer? other = setup.transfer? other := by
  rw [transfer?_updateRequest]
  split
  next hsame => rw [hsame, transfer?]
  next => rfl

end Setup

end CyclicDma
