import CyclicDma.Proofs.BitField
import CyclicDma.Proofs.Controller.Programs
import CyclicDma.Proofs.Driver.Initializing
import CyclicDma.Proofs.Program.Addresses

/-! # The setters of a control word

Each setter of a control word stores numbers in fields of its own. What it makes
of a bit that belongs to it does not depend on the word, and it leaves all other
bits alone; so setters commute, the last call of one is the one that counts, and
what they stored is read back from both sides. The control word of a transfer is
made by the setters, and short bursts change its shape only.
-/

namespace CyclicDma

/-! ## Storing in several fields -/

namespace BitField

/-- The bit of a word is part of the field. -/
def Contains (field : BitField) (position : Nat) : Prop :=
  field.offset ≤ position ∧ position < field.offset + field.width

instance (field : BitField) (position : Nat) : Decidable (field.Contains position) :=
  inferInstanceAs (Decidable (_ ∧ _))

/-- Store numbers in fields, one after the other. -/
def setAll (stores : List (BitField × UInt32)) (word : UInt32) : UInt32 :=
  stores.foldl (fun word store => store.1.set word store.2) word

variable {field : BitField} {stores : List (BitField × UInt32)}

theorem Disjoint.not_contains {first second : BitField} (hdisjoint : first.Disjoint second)
    {position : Nat} (hfirst : first.Contains position) : ¬ second.Contains position := by
  unfold Disjoint at hdisjoint
  unfold Contains at hfirst ⊢
  omega

theorem bitOf_set_eq_ite (hfits : field.Fits) (word value : UInt32) (position : Nat) :
    bitOf (field.set word value) position =
      if field.Contains position then bitOf value (position - field.offset)
      else bitOf word position :=
  bitOf_set hfits word value position

/-- Bits of the fields come from what is stored, all others from the word. -/
theorem bitOf_setAll (hfits : ∀ store ∈ stores, store.1.Fits) (word : UInt32) (position : Nat) :
    bitOf (setAll stores word) position =
      if ∃ store ∈ stores, store.1.Contains position then bitOf (setAll stores 0) position
      else bitOf word position := by
  induction stores generalizing word with
  | nil => simp [setAll]
  | cons store rest ih =>
      obtain ⟨hstore, hrest⟩ := List.forall_mem_cons.mp hfits
      have hsplit : (∃ other ∈ store :: rest, other.1.Contains position) ↔
          store.1.Contains position ∨ ∃ other ∈ rest, other.1.Contains position := by
        simp
      have hstep : ∀ word, bitOf (setAll (store :: rest) word) position =
          if ∃ other ∈ rest, other.1.Contains position then bitOf (setAll rest 0) position
          else if store.1.Contains position then bitOf store.2 (position - store.1.offset)
          else bitOf word position := fun word => by
        rw [← bitOf_set_eq_ite hstore]
        exact ih hrest _
      simp only [hstep, hsplit]
      by_cases hlater : ∃ other ∈ rest, other.1.Contains position
      · rw [if_pos hlater, if_pos (Or.inr hlater), if_pos hlater]
      · simp only [hlater, or_false, if_false]
        split_ifs <;> rfl

/-- A field that is apart from those that are stored in keeps its number. -/
theorem get_setAll_of_disjoint (hfits : ∀ store ∈ stores, store.1.Fits) (hfield : field.Fits)
    (hdisjoint : ∀ store ∈ stores, store.1.Disjoint field) (word : UInt32) :
    field.get (setAll stores word) = field.get word := by
  induction stores generalizing word with
  | nil => rfl
  | cons store rest ih =>
      obtain ⟨hstore, hrest⟩ := List.forall_mem_cons.mp hfits
      obtain ⟨hhere, hlater⟩ := List.forall_mem_cons.mp hdisjoint
      exact (ih hrest hlater _).trans (get_set_of_disjoint hstore hfield hhere word store.2)

/-- Fields that are apart give back what was stored in them. -/
theorem get_setAll (hfits : ∀ store ∈ stores, store.1.Fits)
    (hapart : stores.Pairwise fun first second => first.1.Disjoint second.1) (word : UInt32) :
    ∀ store ∈ stores, store.1.get (setAll stores word) = store.2 &&& store.1.limit := by
  induction stores generalizing word with
  | nil => exact nofun
  | cons store rest ih =>
      obtain ⟨hstore, hrest⟩ := List.forall_mem_cons.mp hfits
      obtain ⟨hhere, hlater⟩ := List.pairwise_cons.mp hapart
      refine List.forall_mem_cons.mpr ⟨?_, ih hrest hlater _⟩
      have hkept := get_setAll_of_disjoint hrest hstore (fun other hother =>
        (hhere other hother).symm) (store.1.set word store.2)
      exact hkept.trans (get_set_self hstore word store.2)

end BitField

namespace ControlWord

open BitField (setAll)

/-! ## Setters -/

/-- The side of a field that belongs to an address. -/
def SidedField.on (field : SidedField) : AddressRegister → BitField
  | .source => field.source
  | .destination => field.destination

/-- The setters of a control word. -/
inductive Setter where
  | increment
  | burst
  | protection
  | cache
  | swap
deriving DecidableEq, Repr

namespace Setter

/-- What a setter is called with. -/
abbrev Arguments : Setter → Type
  | increment | protection => Bool × Bool
  | burst => UInt32 × UInt32
  | cache | swap => UInt8

def apply : (setter : Setter) → setter.Arguments → ControlWord → ControlWord
  | increment, (source, destination) => .increment source destination
  | burst, (size, length) => .burst size length
  | protection, (privileged, nonsecure) => .protection privileged nonsecure
  | cache, bits => .cache bits
  | swap, bits => .swap bits

/-- The fields that a setter stores in. -/
def fields : Setter → List BitField
  | increment => [incrementField.source, incrementField.destination]
  | burst => [sizeField.source, sizeField.destination, lengthField.source,
      lengthField.destination]
  | protection => [protectionField.source, protectionField.destination]
  | cache => [cacheField.source, cacheField.destination]
  | swap => [swapField]

/-- What a setter stores in its fields. -/
def values : (setter : Setter) → setter.Arguments → List UInt32
  | increment, (source, destination) => [source.toUInt32, destination.toUInt32]
  | burst, (size, length) =>
      [.ofNat (trailingZeros size), .ofNat (trailingZeros size), length - 1, length - 1]
  | protection, (privileged, nonsecure) =>
      [privileged.toUInt32 ||| nonsecure.toUInt32 <<< 1,
        privileged.toUInt32 ||| nonsecure.toUInt32 <<< 1]
  | cache, bits => [bits.toUInt32, bits.toUInt32]
  | swap, bits => [bits.toUInt32]

def stores (setter : Setter) (arguments : setter.Arguments) : List (BitField × UInt32) :=
  setter.fields.zip (setter.values arguments)

theorem raw_apply (setter : Setter) (arguments : setter.Arguments) (control : ControlWord) :
    (setter.apply arguments control).raw = setAll (setter.stores arguments) control.raw := by
  cases setter <;> rfl

/-- The bit belongs to a setter. -/
def Owns (setter : Setter) (position : Nat) : Prop :=
  ∃ field ∈ setter.fields, field.Contains position

instance (setter : Setter) (position : Nat) : Decidable (setter.Owns position) :=
  inferInstanceAs (Decidable (∃ field ∈ setter.fields, field.Contains position))

variable {setter other : Setter}

theorem fits_of_mem_fields {field : BitField} (hfield : field ∈ setter.fields) : field.Fits := by
  have hall : ∀ field ∈ setter.fields, field.Fits := by cases setter <;> decide
  exact hall field hfield

theorem disjoint_of_ne (hne : setter ≠ other) {first second : BitField}
    (hfirst : first ∈ setter.fields) (hsecond : second ∈ other.fields) :
    first.Disjoint second := by
  have hall : ∀ first ∈ setter.fields, ∀ second ∈ other.fields, first.Disjoint second := by
    cases setter <;> cases other <;> first | exact absurd rfl hne | decide
  exact hall first hfirst second hsecond

theorem pairwise_fields (setter : Setter) : setter.fields.Pairwise BitField.Disjoint := by
  cases setter <;> decide

theorem map_fst_stores (setter : Setter) (arguments : setter.Arguments) :
    (setter.stores arguments).map Prod.fst = setter.fields := by
  cases setter <;> rfl

theorem mem_fields_of_mem_stores {arguments : setter.Arguments} {store : BitField × UInt32}
    (hstore : store ∈ setter.stores arguments) : store.1 ∈ setter.fields :=
  map_fst_stores setter arguments ▸ List.mem_map_of_mem hstore

theorem owns_iff (arguments : setter.Arguments) (position : Nat) :
    setter.Owns position ↔ ∃ store ∈ setter.stores arguments, store.1.Contains position := by
  rw [Owns, ← map_fst_stores setter arguments]
  simp

/-- The topmost bit belongs to no setter. -/
theorem lt_of_owns {position : Nat} (howns : setter.Owns position) : position < 31 := by
  obtain ⟨field, hfield, -, hlt⟩ := howns
  have hall : ∀ field ∈ setter.fields, field.offset + field.width ≤ 31 := by
    cases setter <;> decide
  exact hlt.trans_le (hall field hfield)

theorem not_owns_of_ne (hne : setter ≠ other) {position : Nat} (howns : setter.Owns position) :
    ¬ other.Owns position := by
  obtain ⟨field, hfield, hcontains⟩ := howns
  rintro ⟨second, hsecond, hother⟩
  exact (disjoint_of_ne hne hfield hsecond).not_contains hcontains hother

/-! ## Laws -/

/-- A setter overwrites its own bits, whatever they were, and no other ones. -/
theorem bitOf_apply (arguments : setter.Arguments) (control : ControlWord) (position : Nat) :
    bitOf (setter.apply arguments control).raw position =
      if setter.Owns position then bitOf (setter.apply arguments zero).raw position
      else bitOf control.raw position := by
  have hfits : ∀ store ∈ setter.stores arguments, store.1.Fits := fun _ hstore =>
    fits_of_mem_fields (mem_fields_of_mem_stores hstore)
  rw [raw_apply, raw_apply, BitField.bitOf_setAll hfits]
  simp only [owns_iff arguments, zero]

theorem bitOf_apply_of_not_owns {position : Nat} (howns : ¬ setter.Owns position)
    (arguments : setter.Arguments) (control : ControlWord) :
    bitOf (setter.apply arguments control).raw position = bitOf control.raw position := by
  rw [bitOf_apply, if_neg howns]

theorem eq_of_bitOf {first second : ControlWord}
    (hbits : ∀ position, bitOf first.raw position = bitOf second.raw position) :
    first = second := by
  have hraw : first.raw = second.raw := eq_of_bitOf_eq fun position _ => hbits position
  cases first
  cases second
  exact congrArg ControlWord.mk hraw

/-- Setters commute. -/
theorem apply_comm (hne : setter ≠ other) (arguments : setter.Arguments)
    (others : other.Arguments) (control : ControlWord) :
    setter.apply arguments (other.apply others control) =
      other.apply others (setter.apply arguments control) := by
  apply eq_of_bitOf
  intro position
  by_cases howns : setter.Owns position
  · have hother := not_owns_of_ne hne howns
    rw [bitOf_apply arguments (other.apply others control), if_pos howns,
      bitOf_apply_of_not_owns hother, bitOf_apply arguments control, if_pos howns]
  · rw [bitOf_apply_of_not_owns howns, bitOf_apply, bitOf_apply others (apply ..),
      bitOf_apply_of_not_owns howns]

/-- Of two calls of a setter, the last one counts. -/
theorem apply_apply (earlier later : setter.Arguments) (control : ControlWord) :
    setter.apply later (setter.apply earlier control) = setter.apply later control := by
  apply eq_of_bitOf
  intro position
  rw [bitOf_apply, bitOf_apply later control]
  split
  · rfl
  · rw [bitOf_apply_of_not_owns ‹_›]

/-- A setter leaves the fields of another one alone. -/
theorem get_apply_of_ne (hne : setter ≠ other) {field : BitField} (hfield : field ∈ other.fields)
    (arguments : setter.Arguments) (control : ControlWord) :
    field.get (setter.apply arguments control).raw = field.get control.raw := by
  rw [raw_apply]
  refine BitField.get_setAll_of_disjoint (fun _ hstore => ?_) (fits_of_mem_fields hfield)
    (fun _ hstore => ?_) control.raw
  · exact fits_of_mem_fields (mem_fields_of_mem_stores hstore)
  · exact disjoint_of_ne hne (mem_fields_of_mem_stores hstore) hfield

/-- The fields of a setter hold what it stored. -/
theorem get_apply {arguments : setter.Arguments} {field : BitField} {value : UInt32}
    (hstore : (field, value) ∈ setter.stores arguments) (control : ControlWord) :
    field.get (setter.apply arguments control).raw = value &&& field.limit := by
  have hfits : ∀ store ∈ setter.stores arguments, store.1.Fits := fun _ hmem =>
    fits_of_mem_fields (mem_fields_of_mem_stores hmem)
  have hapart : (setter.stores arguments).Pairwise fun first second =>
      first.1.Disjoint second.1 := by
    rw [← List.pairwise_map, map_fst_stores]
    exact setter.pairwise_fields
  have hget := BitField.get_setAll hfits hapart control.raw (field, value) hstore
  rw [raw_apply]
  exact hget

end Setter

/-! ## Independent setters -/

variable {exponent : Nat} {length : UInt32}

/-- A burst of a shape that its fields can hold reads back as that shape. -/
theorem burst_readBack (hexponent : exponent < 8)
    (hlength : 1 ≤ length.toNat ∧ length.toNat ≤ 16) (control : ControlWord) :
    (control.burst (.ofNat (2 ^ exponent)) length).burstSize = .ofNat (2 ^ exponent) ∧
      (control.burst (.ofNat (2 ^ exponent)) length).burstLength = length ∧
      (control.burst (.ofNat (2 ^ exponent)) length).burstBytes.toNat =
        2 ^ exponent * length.toNat ∧
      (control.burst (.ofNat (2 ^ exponent)) length).SameShape := by
  have hpow : 2 ^ exponent ≤ 2 ^ 7 := Nat.pow_le_pow_right (by decide) (by omega)
  refine ⟨UInt32.toNat_inj.mp ?_, ?_, ?_, control.sameShape_burst hexponent hlength⟩
  · rw [toNat_burstSize, (control.get_size_burst hexponent length).1,
      UInt32.toNat_ofNat_of_lt' (by change exponent < 2 ^ 32; omega),
      UInt32.toNat_ofNat_of_lt' (by change 2 ^ exponent < 2 ^ 32; omega)]
  · rw [burstLength, (control.get_length_burst _ hlength).1, UInt32.sub_add_cancel]
  · rw [toNat_burstBytes, control.loadBytes_burst hexponent hlength]

/-- What the setters do to a word. -/
structure SetIndependently (control : ControlWord) : Prop where
  /-- A setter leaves the bits alone that are not in its fields. -/
  others : ∀ (setter : Setter) arguments position, ¬ setter.Owns position →
    bitOf (setter.apply arguments control).raw position = bitOf control.raw position
  top : ∀ (setter : Setter) arguments,
    bitOf (setter.apply arguments control).raw 31 = bitOf control.raw 31
  /-- Its fields hold as much of what it stored as they have room for. -/
  holds : ∀ (setter : Setter) arguments, ∀ store ∈ setter.stores arguments,
    store.1.get (setter.apply arguments control).raw = store.2 &&& store.1.limit
  commute : ∀ first second : Setter, first ≠ second → ∀ arguments others,
    first.apply arguments (second.apply others control) =
      second.apply others (first.apply arguments control)
  last : ∀ (setter : Setter) earlier later,
    setter.apply later (setter.apply earlier control) = setter.apply later control
  burst : ∀ size length : UInt32, (∃ exponent ≤ 7, size.toNat = 2 ^ exponent) →
    1 ≤ length.toNat → length.toNat ≤ 16 →
      (control.burst size length).burstSize = size ∧
        (control.burst size length).burstLength = length ∧
        (control.burst size length).burstBytes.toNat = size.toNat * length.toNat ∧
        (control.burst size length).SameShape

theorem setIndependently (control : ControlWord) : control.SetIndependently where
  others _ arguments _ howns := Setter.bitOf_apply_of_not_owns howns arguments control
  top _ arguments :=
    Setter.bitOf_apply_of_not_owns (fun howns => absurd (Setter.lt_of_owns howns) (by decide))
      arguments control
  holds _ _ _ hstore := Setter.get_apply hstore control
  commute _ _ hne arguments others := Setter.apply_comm hne arguments others control
  last _ earlier later := Setter.apply_apply earlier later control
  burst size length hsize hone hmany := by
    obtain ⟨exponent, hexponent, hsize⟩ := hsize
    obtain rfl : size = .ofNat (2 ^ exponent) := by
      rw [← hsize, UInt32.ofNat_toNat]
    rw [hsize]
    exact burst_readBack (Nat.lt_succ_of_le hexponent) ⟨hone, hmany⟩ control

/-! ## The word of a configuration -/

/-- The attributes of all accesses are those of the configuration, on both sides,
and addresses increment as the direction says. -/
structure AccessesAs (control : ControlWord) (config : Config) (direction : Direction) :
    Prop where
  increments : ∀ side, (incrementField.on side).get control.raw =
    (direction.isMemory side).toUInt32
  protection : ∀ side, ((protectionField.on side).get control.raw).toNat =
    config.privileged.toNat + 2 * config.nonsecure.toNat
  cache : ∀ side, ((cacheField.on side).get control.raw).toNat = config.cacheControl.toNat % 8
  swap : swapField.get control.raw = 0
  top : bitOf control.raw 31 = false

/-- Bursts have the shape of the configuration, on both sides. -/
structure MovesAs (control : ControlWord) (config : Config) : Prop where
  size : ∀ side, 2 ^ ((sizeField.on side).get control.raw).toNat = config.burstSize.toNat
  length : ∀ side, ((lengthField.on side).get control.raw).toNat + 1 = config.burstLength.toNat

variable {control : ControlWord} {config : Config} {direction : Direction}

/-- Another shape changes no attribute. -/
theorem AccessesAs.burst (haccesses : control.AccessesAs config direction)
    (size length : UInt32) : (control.burst size length).AccessesAs config direction := by
  have hkept : ∀ {other : Setter}, Setter.burst ≠ other → ∀ {field : BitField},
      field ∈ other.fields → field.get (control.burst size length).raw = field.get control.raw :=
    fun hne _ hfield => Setter.get_apply_of_ne hne hfield (size, length) control
  have htop := control.setIndependently.top .burst (size, length)
  refine ⟨fun side => ?_, fun side => ?_, fun side => ?_, ?_, htop.trans haccesses.top⟩
  · rw [hkept (show Setter.burst ≠ .increment by decide) (by cases side <;> decide),
      haccesses.increments]
  · rw [hkept (show Setter.burst ≠ .protection by decide) (by cases side <;> decide),
      haccesses.protection]
  · rw [hkept (show Setter.burst ≠ .cache by decide) (by cases side <;> decide),
      haccesses.cache]
  · rw [hkept (show Setter.burst ≠ .swap by decide) (by decide), haccesses.swap]

/-- The word of a direction is what the setters make of the configuration. -/
theorem control_eq_apply (config : Config) (direction : Direction) :
    direction.control config.control =
      Setter.apply .increment (direction.readsMemory, direction.writesMemory)
        (Setter.apply .cache config.cacheControl
          (Setter.apply .protection (config.privileged, config.nonsecure)
            (Setter.apply .burst (config.burstSize.toUInt32, config.burstLength.toUInt32)
              zero))) :=
  direction.control_eq_increment config.control

theorem get_increment_control (config : Config) (direction : Direction) (side : AddressRegister) :
    (incrementField.on side).get (direction.control config.control).raw =
      (direction.isMemory side).toUInt32 := by
  have hstored : (incrementField.on side, (direction.isMemory side).toUInt32) ∈
      Setter.stores .increment (direction.readsMemory, direction.writesMemory) := by
    cases side <;>
      simp [Setter.stores, Setter.fields, Setter.values, SidedField.on, Direction.isMemory]
  have hbit : ∀ increments : Bool, increments.toUInt32 &&& (incrementField.on side).limit =
      increments.toUInt32 := by
    cases side <;> decide
  rw [control_eq_apply, Setter.get_apply hstored, hbit]

theorem get_protection_control (config : Config) (direction : Direction)
    (side : AddressRegister) :
    ((protectionField.on side).get (direction.control config.control).raw).toNat =
      config.privileged.toNat + 2 * config.nonsecure.toNat := by
  have hstored : (protectionField.on side,
        config.privileged.toUInt32 ||| config.nonsecure.toUInt32 <<< 1) ∈
      Setter.stores .protection (config.privileged, config.nonsecure) := by
    cases side <;> simp [Setter.stores, Setter.fields, Setter.values, SidedField.on]
  have hfield := Setter.mem_fields_of_mem_stores hstored
  have hbits : ∀ privileged nonsecure : Bool, ((privileged.toUInt32 |||
      nonsecure.toUInt32 <<< 1) &&& (protectionField.on side).limit).toNat =
        privileged.toNat + 2 * nonsecure.toNat := by
    cases side <;> decide
  rw [control_eq_apply,
    Setter.get_apply_of_ne (show Setter.increment ≠ .protection by decide) hfield,
    Setter.get_apply_of_ne (show Setter.cache ≠ .protection by decide) hfield,
    Setter.get_apply hstored, hbits]

/-- The cache attributes have three bits. -/
theorem get_cache_control (config : Config) (direction : Direction) (side : AddressRegister) :
    ((cacheField.on side).get (direction.control config.control).raw).toNat =
      config.cacheControl.toNat % 8 := by
  have hstored : (cacheField.on side, config.cacheControl.toUInt32) ∈
      Setter.stores .cache config.cacheControl := by
    cases side <;> simp [Setter.stores, Setter.fields, Setter.values, SidedField.on]
  have hlimit : (cacheField.on side).limit = 7 := by
    cases side <;> rfl
  rw [control_eq_apply,
    Setter.get_apply_of_ne (show Setter.increment ≠ .cache by decide)
      (Setter.mem_fields_of_mem_stores hstored),
    Setter.get_apply hstored, hlimit, UInt32.toNat_and, UInt8.toNat_toUInt32]
  exact Nat.and_two_pow_sub_one_eq_mod config.cacheControl.toNat 3

/-- Whatever the configuration, its attributes reach the word. -/
theorem accessesAs_control (config : Config) (direction : Direction) :
    (direction.control config.control).AccessesAs config direction where
  increments := get_increment_control config direction
  protection := get_protection_control config direction
  cache := get_cache_control config direction
  swap := by
    have hfield : swapField ∈ Setter.fields .swap := List.mem_singleton_self _
    rw [control_eq_apply,
      Setter.get_apply_of_ne (show Setter.increment ≠ .swap by decide) hfield,
      Setter.get_apply_of_ne (show Setter.cache ≠ .swap by decide) hfield,
      Setter.get_apply_of_ne (show Setter.protection ≠ .swap by decide) hfield,
      Setter.get_apply_of_ne (show Setter.burst ≠ .swap by decide) hfield]
    rfl
  top := by
    have htop : ∀ (setter : Setter) arguments (control : ControlWord),
        bitOf (setter.apply arguments control).raw 31 = bitOf control.raw 31 :=
      fun setter arguments control => control.setIndependently.top setter arguments
    rw [control_eq_apply, htop, htop, htop, htop]
    rfl

/-- A shape that the controller supports reaches the word. -/
theorem movesAs_control {device : Device} (hsupported : config.SupportedBy device)
    (direction : Direction) : (direction.control config.control).MovesAs config := by
  obtain ⟨exponent, hexponent, hsize⟩ := hsupported.exists_size
  have hlength : 1 ≤ config.burstLength.toUInt32.toNat ∧ config.burstLength.toUInt32.toNat ≤ 16 :=
    hsupported.2.2
  -- what is set after the shape leaves it alone
  have hkept : ∀ {field : BitField}, field ∈ Setter.fields .burst →
      field.get (direction.control config.control).raw =
        field.get (zero.burst (.ofNat (2 ^ exponent)) config.burstLength.toUInt32).raw := by
    intro field hfield
    rw [control_eq_apply, ← hsize,
      Setter.get_apply_of_ne (show Setter.increment ≠ .burst by decide) hfield,
      Setter.get_apply_of_ne (show Setter.cache ≠ .burst by decide) hfield,
      Setter.get_apply_of_ne (show Setter.protection ≠ .burst by decide) hfield]
    rfl
  have hpow : 2 ^ exponent ≤ 2 ^ 4 := Nat.pow_le_pow_right (by decide) hexponent
  have hexact : 2 ^ exponent = config.burstSize.toNat := by
    rw [← UInt8.toNat_toUInt32, hsize, UInt32.toNat_ofNat_of_lt' (by change _ < 2 ^ 32; omega)]
  obtain ⟨hsource, hdestination⟩ := zero.get_size_burst (show exponent < 8 by omega)
    config.burstLength.toUInt32
  obtain ⟨hsource', hdestination'⟩ := zero.get_length_burst (.ofNat (2 ^ exponent)) hlength
  have hsizes : ∀ side, (sizeField.on side).get (direction.control config.control).raw =
      .ofNat exponent := by
    intro side
    rw [hkept (by cases side <;> decide)]
    cases side
    · exact hsource
    · exact hdestination
  have hlengths : ∀ side, (lengthField.on side).get (direction.control config.control).raw =
      config.burstLength.toUInt32 - 1 := by
    intro side
    rw [hkept (by cases side <;> decide)]
    cases side
    · exact hsource'
    · exact hdestination'
  refine ⟨fun side => ?_, fun side => ?_⟩
  · rw [hsizes, UInt32.toNat_ofNat_of_lt' (by change _ < 2 ^ 32; omega), hexact]
  · have hone := hlength.1
    rw [hlengths, toNat_sub_one hone, Nat.sub_add_cancel hone]
    rfl

end ControlWord

/-! ## Short bursts -/

theorem Direction.control_of_mem_burstTrace {direction : Direction} {control : ControlWord}
    {executed : Executed} (hmem : executed ∈ direction.burstTrace control) :
    executed.control = control := by
  cases direction with
  | memoryToMemory =>
      simp only [burstTrace, List.mem_cons, List.not_mem_nil, or_false] at hmem
      rcases hmem with rfl | rfl <;> rfl
  | memoryToPeripheral peripheral | peripheralToMemory peripheral =>
      simp only [burstTrace, List.mem_cons, List.not_mem_nil, or_false] at hmem
      rcases hmem with rfl | rfl | rfl <;> rfl

namespace Transfer

variable {transfer : Transfer} {config : Config}

/-- The control word of the transfer is the one of the configuration. While short
bursts move what is left over, words of another shape are in force, which is the
same on both sides and comes with the same attributes; then the word is in force
again. -/
structure KeepsConfig (transfer : Transfer) (config : Config) : Prop where
  moves : transfer.control.MovesAs config
  accesses : transfer.control.AccessesAs config transfer.direction
  rest : ∀ executed ∈ Executed.annotate transfer.control transfer.moveRemainder,
    executed.control.SameShape ∧ executed.control.AccessesAs config transfer.direction
  restored : transfer.control.afterAll transfer.moveRemainder = transfer.control

theorem control_of_mem_shortTrace {control : ControlWord} {executed : Executed}
    (hmem : executed ∈ transfer.shortTrace control) : executed.control = control := by
  rcases List.mem_cons.mp hmem with rfl | hburst
  · rfl
  · exact Direction.control_of_mem_burstTrace hburst

/-- Short bursts have one shape on both sides, and the attributes of the others. -/
theorem rest_shortTrace {size : UInt32} (hsize : ∃ exponent < 8, size = .ofNat (2 ^ exponent))
    {count : Nat} (hcount : count ≠ 0 ∧ count < 16)
    (haccesses : transfer.control.AccessesAs config transfer.direction) :
    ∀ executed ∈ transfer.shortTrace (transfer.control.burst size (.ofNat count)),
      executed.control.SameShape ∧ executed.control.AccessesAs config transfer.direction := by
  intro executed hmem
  obtain ⟨exponent, hexponent, rfl⟩ := hsize
  have hlength : (UInt32.ofNat count).toNat = count :=
    UInt32.toNat_ofNat_of_lt' (by change count < 2 ^ 32; omega)
  rw [control_of_mem_shortTrace hmem]
  exact ⟨transfer.control.sameShape_burst hexponent (by omega), haccesses.burst _ _⟩

theorem keepsConfig_of_control {device : Device} (hsupported : config.SupportedBy device)
    (hcontrol : transfer.control = transfer.direction.control config.control) :
    transfer.KeepsConfig config := by
  have haccesses : transfer.control.AccessesAs config transfer.direction :=
    hcontrol ▸ ControlWord.accessesAs_control config transfer.direction
  have hbeat : transfer.control.burstSize.toNat ≤ 16 :=
    UInt32.le_iff_toNat_le.mp (hcontrol ▸ hsupported.burstSize_le transfer.direction)
  refine ⟨hcontrol ▸ ControlWord.movesAs_control hsupported transfer.direction, haccesses, ?_,
    afterAll_moveRemainder transfer⟩
  rw [annotate_moveRemainder]
  unfold restTrace
  apply forall_mem_unless
  refine List.forall_mem_append.mpr ⟨List.forall_mem_append.mpr ⟨?_, ?_⟩, ?_⟩
  · have hlt := transfer.restBeats_lt
    split
    · exact nofun
    · exact rest_shortTrace transfer.control.exists_burstSize_eq ⟨‹_›, hlt⟩ haccesses
  · have hlt := (Nat.mod_lt transfer.restBytes transfer.control.burstSize_pos).trans_le hbeat
    split
    · exact nofun
    · exact rest_shortTrace ⟨0, by decide, rfl⟩ ⟨‹_›, hlt⟩ haccesses
  · exact List.forall_mem_singleton.mpr
      ⟨hcontrol ▸ hsupported.sameShape transfer.direction, haccesses⟩

end Transfer

namespace ControlWord

/-- The setters of a control word are independent. Each changes the bits of its own
fields only, none of which is the topmost bit, and what it makes of them does not
depend on what they were; so different setters commute, and of two calls of one
the last counts. A burst shape that the fields can hold reads back, and is the
same on both sides. The word of any order that is carried out under a
configuration which an initialization accepted has the shape and the attributes of
the configuration on both sides, with the increments of the direction, and so has
the word of any transfer that is on record. It is in force again after the short
bursts that move what is left over, which change its shape only. -/
theorem setters_independent_and_config_kept :
    (∀ control : ControlWord, control.SetIndependently) ∧
      (∀ (driver opened : Driver) (region : Region) (busAddress : UInt32) (config : Config)
        (device : Device),
        (Driver.init region busAddress config).perform driver = (.ok device, opened) →
          opened.controller.config = config ∧
            ∀ order : Order, (order.transfer opened.controller.config).KeepsConfig config) ∧
      ∀ (controller : Controller) (setup : Setup) (channel : Nat) (transfer : Transfer),
        controller.Reachable → controller.setup = some setup →
          setup.transfer? channel = some transfer → transfer.KeepsConfig controller.config := by
  refine ⟨setIndependently, ?_, ?_⟩
  · intro driver opened region busAddress config device hinit
    rcases Driver.init_cases region busAddress config driver with
      ⟨error, logged, hfailed, -⟩ | ⟨-, hsupported, -, hopened⟩
    · rw [hfailed] at hinit
      cases hinit
    · rw [hopened] at hinit
      cases hinit
      have hconfig := Driver.config_opened region busAddress config driver
      refine ⟨hconfig, fun order => ?_⟩
      rw [hconfig]
      exact Transfer.keepsConfig_of_control hsupported rfl
  · intro controller setup channel transfer hreachable hsetup htransfer
    have hplaced := (hreachable.sound.setup setup hsetup).inPlace htransfer
    exact Transfer.keepsConfig_of_control hplaced.supported hplaced.allowed.control

/-- Single bytes in bursts of four, non-secure and with cache attributes that have a
bit too many, on a controller whose bus carries single bytes. -/
theorem setters_independent_and_config_kept_nonsecure :
    ∃ controller, Controller.new? 1 = some controller ∧
      ∃ opened, (Driver.init ⟨0, List.replicate 256 0⟩ 0x1000
          { burstSize := 1, burstLength := 4, nonsecure := true, cacheControl := 0xD }).perform
            ⟨controller, []⟩ = (.ok (Device.ofRegisters .zero), opened) ∧
        (Order.transfer ⟨.memoryToMemory, 0x2000, 0x3000, 12, 6⟩
          opened.controller.config).KeepsConfig
            { burstSize := 1, burstLength := 4, nonsecure := true, cacheControl := 0xD } ∧
        (Order.transfer ⟨.memoryToMemory, 0x2000, 0x3000, 12, 6⟩
          opened.controller.config).control.raw = 0x0ACC6B31 := by
  refine ⟨_, rfl, _, Driver.perform_init (by decide) (by decide +kernel) rfl 0x1000, ?_, by decide⟩
  exact (setters_independent_and_config_kept.2.1 _ _ _ _ _ _
    (Driver.perform_init (by decide) (by decide +kernel) rfl 0x1000)).2 _

end ControlWord

end CyclicDma
