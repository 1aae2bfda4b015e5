import Chip8.Proofs.Frame
import Chip8.Proofs.History
import Chip8.Proofs.Loading

/-!
# Registers and memory

Registers are stored to and loaded from a block of cells that begins at the index register.  Memory
goes round: above its last cell the block continues with the first.  So a cell is known by its
offset, which is how far it lies above the index register, going round, and it belongs to the block
when its offset is the number of one of the registers that are moved.

What is stored comes back when it is loaded again, and storing what was loaded changes nothing,
wherever the block lies and whatever it overlaps.
-/

namespace Chip8

namespace Memory

/-! ### Offsets -/

/-- How far an address lies above a base, going round from the last cell to the first. -/
def offset (base address : Nat) : Nat := (((address : Int) - base) % 4096).toNat

variable {base address : Nat}

theorem offset_add {distance : Nat} (inMemory : distance < 4096) :
    offset base (base + distance) = distance := by
  simp only [offset]
  omega

theorem wrap_eq_iff {other : Nat} : wrap address = wrap other ↔ address % 4096 = other % 4096 :=
  Fin.ext_iff

theorem offset_of_wrap_eq (same : wrap address = wrap base) : offset base address = 0 := by
  rw [wrap_eq_iff] at same
  simp only [offset]
  omega

/-- From the next address on, the base itself is the farthest. -/
theorem offset_succ_of_wrap_eq (same : wrap address = wrap base) :
    offset (base + 1) address = 4095 := by
  rw [wrap_eq_iff] at same
  simp only [offset]
  omega

theorem offset_eq_succ (apart : wrap address ≠ wrap base) :
    offset base address = offset (base + 1) address + 1 := by
  rw [Ne, wrap_eq_iff] at apart
  simp only [offset]
  omega

theorem wrap_add_offset (base address : Nat) :
    wrap (base + offset base address) = wrap address := by
  rw [wrap_eq_iff]
  simp only [offset]
  omega

/-! ### Writing a block -/

theorem read_congr (memory : Memory) {other : Nat} (same : wrap address = wrap other) :
    memory.read address = memory.read other :=
  congrArg (memory.cells[·]) same

theorem eq_of_read {one other : Memory} (same : ∀ address, one.read address = other.read address) :
    one = other := by
  obtain ⟨cells⟩ := one
  obtain ⟨cells_other⟩ := other
  congr 1
  apply Vector.ext
  intro cell inMemory
  have equal := same cell
  simp only [read, wrap, Fin.getElem_fin, Fin.val_ofNat, Nat.mod_eq_of_lt inMemory] at equal
  exact equal

/-- Bytes that are written in a row are found at their offsets, and all other cells are as they
were. -/
theorem read_writeAll (memory : Memory) {bytes : List UInt8} (fits : bytes.length ≤ 4096)
    (base address : Nat) :
    (memory.writeAll base bytes).read address =
      bytes[offset base address]?.getD (memory.read address) := by
  induction bytes generalizing memory base with
  | nil => rfl
  | cons byte bytes induction =>
      rw [writeAll, induction _ (Nat.le_of_succ_le fits), read_write]
      by_cases here : wrap address = wrap base
      · -- Going round once more would need as many bytes as there are cells.
        have beyond : bytes.length ≤ offset (base + 1) address := by
          rw [offset_succ_of_wrap_eq here]
          exact Nat.le_of_lt_succ fits
        rw [if_pos here, offset_of_wrap_eq here, List.getElem?_eq_none beyond]
        rfl
      · rw [if_neg here, offset_eq_succ here, List.getElem?_cons_succ]

end Memory

namespace Processor

/-! ### What is moved -/

/-- What storing the registers up to `Vx` leaves behind. -/
structure Stored (before : Processor) (x : Register) (after : Processor) : Prop where
  read : ∀ address, after.memory.read address =
    let offset := Memory.offset before.index.toNat address
    if upTo : offset ≤ x.val then before.register ⟨offset, Nat.lt_of_le_of_lt upTo x.isLt⟩
    else before.memory.read address
  index : after.index = before.index

/-- What loading the registers up to `Vx` leaves behind. -/
structure Loaded (before : Processor) (x : Register) (after : Processor) : Prop where
  register : ∀ j : Register, after.register j =
    if j ≤ x then before.memory.read (before.index.toNat + j.val) else before.register j
  memory : after.memory = before.memory
  index : after.index = before.index

/-- What storing the digits of `Vx` leaves behind. -/
structure StoredDecimal (before : Processor) (x : Register) (after : Processor) : Prop where
  digits :
    (after.memory.read before.index.toNat).toNat ≤ 9 ∧
      (after.memory.read (before.index.toNat + 1)).toNat ≤ 9 ∧
      (after.memory.read (before.index.toNat + 2)).toNat ≤ 9
  number :
    100 * (after.memory.read before.index.toNat).toNat +
      10 * (after.memory.read (before.index.toNat + 1)).toNat +
      (after.memory.read (before.index.toNat + 2)).toNat = (before.register x).toNat
  others : ∀ address, 2 < Memory.offset before.index.toNat address →
    after.memory.read address = before.memory.read address
  index : after.index = before.index

/-- The index register and the cells for the registers up to `Vx` are left alone. -/
structure KeepsBlock (before : Processor) (x : Register) (after : Processor) : Prop where
  index : after.index = before.index
  read : ∀ j ≤ x, after.memory.read (before.index.toNat + j.val) =
    before.memory.read (before.index.toNat + j.val)

variable {before after later : Processor} {x : Register}

theorem getElem?_take_registers (processor : Processor) (x : Register) (number : Nat) :
    (processor.registers.toList.take (x.val + 1))[number]? =
      if upTo : number ≤ x.val then
        some (processor.register ⟨number, Nat.lt_of_le_of_lt upTo x.isLt⟩)
      else none := by
  rw [List.getElem?_take]
  by_cases upTo : number ≤ x.val
  · have isRegister : number < 16 := Nat.lt_of_le_of_lt upTo x.isLt
    rw [if_pos (Nat.lt_succ_of_le upTo), dif_pos upTo]
    simp [register, isRegister]
  · rw [if_neg fun less => upTo (Nat.le_of_lt_succ less), dif_neg upTo]

theorem read_store (before : Processor) {bytes : List UInt8} (fits : bytes.length ≤ 4096)
    (address : Nat) :
    (before.store bytes).memory.read address =
      bytes[Memory.offset before.index.toNat address]?.getD (before.memory.read address) :=
  Memory.read_writeAll _ fits _ _

theorem read_store_of_placed (before : Processor) {bytes : List UInt8}
    (fits : bytes.length ≤ 4096) {place : Nat} {byte : UInt8}
    (placed : bytes[place]? = some byte) :
    (before.store bytes).memory.read (before.index.toNat + place) = byte := by
  have inMemory : place < 4096 :=
    Nat.lt_of_lt_of_le (List.getElem?_eq_some_iff.mp placed).1 fits
  rw [read_store _ fits, Memory.offset_add inMemory, placed, Option.getD_some]

theorem stored_storeRegisters (before : Processor) (x : Register) (pc : UInt16) :
    before.Stored x { before.storeRegisters x with pc } where
  read address := by
    have fits : (before.registers.toList.take (x.val + 1)).length ≤ 4096 := by
      rw [List.length_take]
      omega
    refine (before.read_store fits address).trans ?_
    rw [getElem?_take_registers]
    by_cases upTo : Memory.offset before.index.toNat address ≤ x.val
    · simp only [dif_pos upTo, Option.getD_some]
    · simp only [dif_neg upTo, Option.getD_none]
  index := rfl

theorem loaded_loadRegisters (before : Processor) (x : Register) (pc : UInt16) :
    before.Loaded x { before.loadRegisters x with pc } where
  register j := by
    simp only [register, loadRegisters, Fin.getElem_fin, Vector.getElem_ofFn, Fin.le_def]
  memory := by simp only [loadRegisters]
  index := by simp only [loadRegisters]

theorem storedDecimal_storeDecimal (before : Processor) (x : Register) (pc : UInt16) :
    before.StoredDecimal x { before.storeDecimal x with pc } := by
  have fits (hundreds tens ones : UInt8) : [hundreds, tens, ones].length ≤ 4096 :=
    Nat.le_of_ble_eq_true rfl
  have hundreds : (before.storeDecimal x).memory.read before.index.toNat =
      before.register x / 100 :=
    read_store_of_placed _ (fits _ _ _) (List.getElem?_cons_zero ..)
  have tens : (before.storeDecimal x).memory.read (before.index.toNat + 1) =
      before.register x / 10 % 10 :=
    read_store_of_placed _ (fits _ _ _) rfl
  have ones : (before.storeDecimal x).memory.read (before.index.toNat + 2) =
      before.register x % 10 :=
    read_store_of_placed _ (fits _ _ _) rfl
  have value_lt := (before.register x).toNat_lt
  refine ⟨?_, ?_, fun address beyond => ?_, rfl⟩
  · simp only [hundreds, tens, ones, UInt8.toNat_div, UInt8.toNat_mod, UInt8.reduceToNat]
    omega
  · simp only [hundreds, tens, ones, UInt8.toNat_div, UInt8.toNat_mod, UInt8.reduceToNat]
    omega
  · refine (before.read_store (fits _ _ _) address).trans ?_
    rw [List.getElem?_eq_none beyond, Option.getD_none]

/-! ### There and back -/

theorem Stored.read_of_beyond (stored : before.Stored x after) {address : Nat}
    (beyond : x.val < Memory.offset before.index.toNat address) :
    after.memory.read address = before.memory.read address :=
  (stored.read address).trans (dif_neg (Nat.not_le.mpr beyond))

theorem Stored.restored (stored : before.Stored x after) (kept : after.KeepsBlock x later)
    {back : Processor} (loaded : later.Loaded x back) {j : Register} (upTo : j ≤ x) :
    back.register j = before.register j := by
  have inMemory : j.val < 4096 := by omega
  have isMoved : Memory.offset before.index.toNat (before.index.toNat + j.val) ≤ x.val := by
    rw [Memory.offset_add inMemory]
    exact upTo
  rw [loaded.register, if_pos upTo, kept.index, kept.read j upTo, stored.index, stored.read]
  simp only [Memory.offset_add inMemory, dif_pos (Fin.le_def.mp upTo)]

theorem Loaded.memory_eq (loaded : before.Loaded x after) (index : later.index = after.index)
    (memory : later.memory = after.memory)
    (registers : ∀ j ≤ x, later.register j = after.register j)
    {back : Processor} (stored : later.Stored x back) : back.memory = before.memory := by
  apply Memory.eq_of_read
  intro address
  have same_index : later.index = before.index := index.trans loaded.index
  have same_memory : later.memory = before.memory := memory.trans loaded.memory
  simp only [stored.read, same_index, same_memory]
  by_cases upTo : Memory.offset before.index.toNat address ≤ x.val
  · have moved := registers ⟨_, Nat.lt_of_le_of_lt upTo x.isLt⟩ upTo
    rw [loaded.register, if_pos (Fin.le_def.mpr upTo)] at moved
    rw [dif_pos upTo]
    exact moved.trans (before.memory.read_congr (Memory.wrap_add_offset _ _))
  · rw [dif_neg upTo]

end Processor

namespace Machine

/-! ### Words -/

variable {machine : Machine} {x : Register}

theorem stored_cycle (denotes : machine.processor.opcode.Denotes (.storeRegisters x)) :
    machine.processor.Stored x machine.cycle.1.processor := by
  rw [processor_cycle_of_denotes denotes]
  exact machine.processor.stored_storeRegisters x _

theorem loaded_cycle (denotes : machine.processor.opcode.Denotes (.loadRegisters x)) :
    machine.processor.Loaded x machine.cycle.1.processor := by
  rw [processor_cycle_of_denotes denotes]
  exact machine.processor.loaded_loadRegisters x _

theorem storedDecimal_cycle (denotes : machine.processor.opcode.Denotes (.storeDecimal x)) :
    machine.processor.StoredDecimal x machine.cycle.1.processor := by
  rw [processor_cycle_of_denotes denotes]
  exact machine.processor.storedDecimal_storeDecimal x _

theorem processor_cycle_of_setIndex {address : UInt16}
    (denotes : machine.processor.opcode.Denotes (.setIndex address)) :
    machine.cycle.1.processor =
      { machine.processor with index := address, pc := (machine.processor.pc + 2) % 4096 } :=
  processor_cycle_of_denotes denotes

/-- A word that is not in the block comes up next as it was before the registers were stored. -/
theorem opcode_cycle_of_storeRegisters
    (denotes : machine.processor.opcode.Denotes (.storeRegisters x)) {next : Nat}
    (follows : ((machine.processor.pc + 2) % 4096).toNat = next)
    (high : x.val < Memory.offset machine.processor.index.toNat next)
    (low : x.val < Memory.offset machine.processor.index.toNat (next + 1)) :
    machine.cycle.1.processor.opcode =
      .ofBytes (machine.processor.memory.read next)
        (machine.processor.memory.read (next + 1)) := by
  have pc : machine.cycle.1.processor.pc = (machine.processor.pc + 2) % 4096 := by
    rw [processor_cycle_of_denotes denotes]
    rfl
  have stored := stored_cycle denotes
  rw [Processor.opcode, pc, follows, stored.read_of_beyond high, stored.read_of_beyond low]

theorem opcode_pokeRegister (machine : Machine) (number : Nat) (value : UInt8) :
    (machine.pokeRegister number value).processor.opcode = machine.processor.opcode :=
  rfl

theorem keepsBlock_pokeRegister (machine : Machine) (x : Register) (number : Nat)
    (value : UInt8) :
    machine.processor.KeepsBlock x (machine.pokeRegister number value).processor :=
  ⟨rfl, fun _ _ => rfl⟩

/-- Words that move bytes between the registers and memory move exactly the block, also if it goes
round the end of memory or overlaps the glyphs or the program.  Registers that were stored come back
after whatever left the block alone, and storing registers again that were loaded leaves memory as
it was. -/
theorem cycle_transfer (machine : Machine) (x : Register) :
    let before := machine.processor
    let after := machine.cycle.1
    (before.opcode.Denotes (.storeRegisters x) → before.Stored x after.processor) ∧
    (before.opcode.Denotes (.loadRegisters x) → before.Loaded x after.processor) ∧
    (before.opcode.Denotes (.storeDecimal x) → before.StoredDecimal x after.processor) ∧
    (∀ history, let later := after.performAll history
      before.opcode.Denotes (.storeRegisters x) →
      after.processor.KeepsBlock x later.processor →
      later.processor.opcode.Denotes (.loadRegisters x) →
      ∀ j ≤ x, later.cycle.1.processor.register j = before.register j) ∧
    ∀ history, let later := after.performAll history
      before.opcode.Denotes (.loadRegisters x) →
      later.processor.index = after.processor.index →
      later.processor.memory = after.processor.memory →
      (∀ j ≤ x, later.processor.register j = after.processor.register j) →
      later.processor.opcode.Denotes (.storeRegisters x) →
      later.cycle.1.processor.memory = before.memory := by
  intro before after
  refine ⟨stored_cycle, loaded_cycle, storedDecimal_cycle, ?_, ?_⟩
  · intro history later stores kept loads j upTo
    exact (stored_cycle stores).restored kept (loaded_cycle loads) upTo
  · intro history later loads index memory registers stores
    exact (loaded_cycle loads).memory_eq index memory registers (stored_cycle stores)

/-- A program that stores two registers around the end of memory and loads them again. -/
def aroundTheEnd : Array UInt8 := #[0xAF, 0xFF, 0xF1, 0x55, 0xF1, 0x65]

/-- The machine that is about to store them. -/
def atTheEnd : Machine := ((create 0 1 0).load aroundTheEnd 0).cycle.1

theorem processor_atTheEnd :
    atTheEnd.processor =
      { ((create 0 1 0).load aroundTheEnd 0).processor with index := 0xFFF, pc := 0x202 } := by
  refine processor_cycle_of_setIndex ?_
  rw [((create 0 1 0).opcode_of_loaded aroundTheEnd 0 0 rfl rfl (by decide) (by decide)).trans
    (by decide : _ = ⟨0xAFFF⟩)]
  exact ⟨rfl, rfl⟩

theorem memory_atTheEnd :
    atTheEnd.processor.memory = ((create 0 1 0).load aroundTheEnd 0).processor.memory :=
  (congrArg Processor.memory processor_atTheEnd :)

theorem index_atTheEnd : atTheEnd.processor.index.toNat = 0xFFF := by
  rw [processor_atTheEnd]
  rfl

theorem register_atTheEnd (j : Register) : atTheEnd.processor.register j = 0 := by
  rw [processor_atTheEnd]
  exact Vector.getElem_replicate ..

theorem stores_atTheEnd : atTheEnd.processor.opcode.Denotes (.storeRegisters 1) := by
  have pc : atTheEnd.processor.pc.toNat = 0x200 + 2 := by
    rw [processor_atTheEnd]
    rfl
  rw [((create 0 1 0).opcode_of_loaded aroundTheEnd 0 2 memory_atTheEnd pc (by decide)
    (by decide)).trans (by decide : _ = ⟨0xF155⟩)]
  exact ⟨rfl, rfl, rfl⟩

/-- The word that loads them is not written over. -/
theorem opcode_atTheEnd : atTheEnd.cycle.1.processor.opcode = ⟨0xF165⟩ := by
  have follows : ((atTheEnd.processor.pc + 2) % 4096).toNat = 0x204 := by
    rw [processor_atTheEnd]
    rfl
  have read (offset : Nat) (inProgram : offset < aroundTheEnd.size) :=
    (create 0 1 0).read_load_getElem 0 (by decide : aroundTheEnd.size ≤ 3584) inProgram
  rw [opcode_cycle_of_storeRegisters stores_atTheEnd follows, memory_atTheEnd]
  · exact (congrArg₂ Opcode.ofBytes (read 4 (by decide)) (read 5 (by decide))).trans (by decide)
  · rw [index_atTheEnd]
    decide
  · rw [index_atTheEnd]
    decide

theorem loads_atTheEnd : atTheEnd.cycle.1.processor.opcode.Denotes (.loadRegisters 1) := by
  rw [opcode_atTheEnd]
  exact ⟨rfl, rfl, rfl⟩

/-- `V0` lies in the last cell and `V1` in the first, in place of a row of a glyph, and `V0` comes
back after it was written over. -/
theorem cycle_transfer_atTheEnd :
    let history := [.pokeRegister 0 7]
    atTheEnd.cycle.1.processor.memory.read 0 = 0 ∧
      (atTheEnd.cycle.1.performAll history).processor.register 0 = 7 ∧
      (atTheEnd.cycle.1.performAll history).cycle.1.processor.register 0 = 0 := by
  intro history
  obtain ⟨store, -, -, restore, -⟩ := atTheEnd.cycle_transfer 1
  refine ⟨?_, register_pokeRegister _ 0 7 0, ?_⟩
  · have inBlock : Memory.offset atTheEnd.processor.index.toNat 0 ≤ (1 : Register).val := by
      rw [index_atTheEnd]
      decide
    exact ((store stores_atTheEnd).read 0).trans ((dif_pos inBlock).trans (register_atTheEnd _))
  · have kept := atTheEnd.cycle.1.keepsBlock_pokeRegister 1 0 7
    have loads := (opcode_pokeRegister atTheEnd.cycle.1 0 7).symm ▸ loads_atTheEnd
    have back := restore history stores_atTheEnd kept loads 0 (by decide)
    exact back.trans (register_atTheEnd 0)

end Machine
end Chip8
