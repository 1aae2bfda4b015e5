import Chip8.Proofs.Frame
import Chip8.Proofs.Loading

/-!
# Arithmetic in numbers

Registers hold bytes and addresses are words, and both wrap around.  Here the arithmetic of the
instructions is stated in numbers: what the result and the flag are, given the numbers in the
registers before.

The flag is written before the result, so a result that is destined for the flag register takes the
place of the flag.  Only the shift to the right reads its operand again after the flag was written,
and so loses what it was to shift when that is in the flag register.
-/

namespace Chip8

/-! ### Bytes and words -/

theorem toNat_address_add_byte {address : UInt16} (inMemory : address.toNat ≤ 0xFFF)
    (byte : UInt8) : (address + byte.toUInt16).toNat = address.toNat + byte.toNat := by
  have byte_lt := byte.toNat_lt
  simp only [UInt16.toNat_add, UInt8.toNat_toUInt16]
  omega

/-- The address of a sum, for which it makes no difference whether the sum wraps. -/
theorem toNat_address_add_byte_mod (address : UInt16) (byte : UInt8) :
    ((address + byte.toUInt16) % 4096).toNat = (address.toNat + byte.toNat) % 4096 := by
  simp only [UInt16.toNat_mod, UInt16.toNat_add, UInt8.toNat_toUInt16, UInt16.reduceToNat]
  omega

theorem toNat_byte_add (left right : UInt8) :
    (left.toUInt16 + right.toUInt16).toNat = left.toNat + right.toNat := by
  have left_lt := left.toNat_lt
  have right_lt := right.toNat_lt
  simp only [UInt16.toNat_add, UInt8.toNat_toUInt16]
  omega

theorem toNat_flag {condition : Prop} [Decidable condition] :
    (if condition then 1 else 0 : UInt8).toNat = if condition then 1 else 0 := by
  split <;> rfl

namespace Processor

/-- The number in a register. -/
def value (processor : Processor) (x : Register) : Nat := (processor.register x).toNat

/-- A register holds a difference and the flag register tells its sign.  A positive difference is
held as it is.  Otherwise there is a borrow, also if the difference is zero, and the amount is taken
from 255. -/
def HoldsDifference (processor : Processor) (x : Register) (minuend subtrahend : Nat) : Prop :=
  if subtrahend < minuend then
    processor.value flagRegister = 1 ∧ processor.value x = minuend - subtrahend
  else
    processor.value flagRegister = 0 ∧ processor.value x = 255 - (subtrahend - minuend)

variable (processor : Processor) {x : Register}

/-! ### Results -/

theorem value_setRegister (x : Register) (byte : UInt8) :
    (processor.setRegister x byte).value x = byte.toNat := by
  rw [value, register_setRegister, if_pos rfl]

theorem value_setRegister_of_ne {other : Register} (apart : other ≠ x) (byte : UInt8) :
    (processor.setRegister x byte).value other = processor.value other := by
  rw [value, register_setRegister, if_neg apart, value]

theorem values_setRegister (apart : x ≠ flagRegister) (byte : UInt8) :
    (processor.setRegister x byte).value x = byte.toNat ∧
      (processor.setRegister x byte).value flagRegister = processor.value flagRegister :=
  ⟨processor.value_setRegister x byte, processor.value_setRegister_of_ne apart.symm byte⟩

theorem value_setFlagged (flag : UInt8) (x : Register) (byte : UInt8) :
    (processor.setFlagged flag x byte).value x = byte.toNat :=
  value_setRegister _ x byte

theorem flag_setFlagged (apart : x ≠ flagRegister) (flag byte : UInt8) :
    (processor.setFlagged flag x byte).value flagRegister = flag.toNat := by
  rw [setFlagged, value_setRegister_of_ne _ apart.symm, value_setRegister]

theorem value_addRegisters (x y : Register) :
    (processor.addRegisters x y).value x = (processor.value x + processor.value y) % 256 := by
  rw [addRegisters, value_setFlagged, UInt16.toNat_toUInt8, toNat_byte_add]
  rfl

theorem flag_addRegisters (apart : x ≠ flagRegister) (y : Register) :
    (processor.addRegisters x y).value flagRegister =
      if 256 ≤ processor.value x + processor.value y then 1 else 0 := by
  rw [addRegisters, flag_setFlagged _ apart, toNat_flag]
  refine if_congr ?_ rfl rfl
  rw [UInt16.lt_iff_toNat_lt, toNat_byte_add]
  exact Iff.rfl

theorem difference_eq (minuend subtrahend : UInt8) :
    ((difference minuend subtrahend).1.toNat, (difference minuend subtrahend).2.toNat) =
      if subtrahend.toNat < minuend.toNat then (1, minuend.toNat - subtrahend.toNat)
      else (0, 255 - (subtrahend.toNat - minuend.toNat)) := by
  rw [difference]
  by_cases positive : subtrahend < minuend
  · rw [if_pos positive, if_pos (UInt8.lt_iff_toNat_lt.mp positive),
      UInt8.toNat_sub_of_le _ _ (UInt8.le_of_lt positive)]
    rfl
  · have borrow : minuend ≤ subtrahend := UInt8.not_lt.mp positive
    have amount : (subtrahend - minuend).toNat = subtrahend.toNat - minuend.toNat :=
      UInt8.toNat_sub_of_le _ _ borrow
    have amount_le : subtrahend - minuend ≤ 255 := by
      rw [UInt8.le_iff_toNat_le]
      exact Nat.le_of_lt_succ (subtrahend - minuend).toNat_lt
    rw [if_neg positive, if_neg fun less => positive (UInt8.lt_iff_toNat_lt.mpr less),
      UInt8.toNat_sub_of_le _ _ amount_le, amount]
    rfl

theorem value_setDifference (x : Register) (minuend subtrahend : UInt8) :
    (processor.setDifference x minuend subtrahend).value x =
      if subtrahend.toNat < minuend.toNat then minuend.toNat - subtrahend.toNat
      else 255 - (subtrahend.toNat - minuend.toNat) := by
  have law := congrArg Prod.snd (difference_eq minuend subtrahend)
  rw [apply_ite Prod.snd] at law
  rw [setDifference, value_setFlagged]
  exact law

theorem flag_setDifference (apart : x ≠ flagRegister) (minuend subtrahend : UInt8) :
    (processor.setDifference x minuend subtrahend).value flagRegister =
      if subtrahend.toNat < minuend.toNat then 1 else 0 := by
  have law := congrArg Prod.fst (difference_eq minuend subtrahend)
  rw [apply_ite Prod.fst] at law
  rw [setDifference, flag_setFlagged _ apart]
  exact law

theorem holdsDifference_setDifference (apart : x ≠ flagRegister) (minuend subtrahend : UInt8) :
    (processor.setDifference x minuend subtrahend).HoldsDifference x minuend.toNat
      subtrahend.toNat := by
  rw [HoldsDifference, flag_setDifference _ apart, value_setDifference]
  by_cases positive : subtrahend.toNat < minuend.toNat
  · simp only [if_pos positive, and_self]
  · simp only [if_neg positive, and_self]

theorem value_shiftLeft (x : Register) :
    (processor.shiftLeft x).value x = 2 * processor.value x % 256 := by
  rw [shiftLeft, value_setFlagged, UInt8.toNat_shiftLeft, Nat.shiftLeft_eq, Nat.mul_comm]
  rfl

theorem flag_shiftLeft (apart : x ≠ flagRegister) :
    (processor.shiftLeft x).value flagRegister = processor.value x / 128 := by
  rw [shiftLeft, flag_setFlagged _ apart, UInt8.toNat_shiftRight, Nat.shiftRight_eq_div_pow]
  rfl

theorem shiftedLeft_shiftLeft (apart : x ≠ flagRegister) :
    let after := processor.shiftLeft x
    256 * after.value flagRegister + after.value x = 2 * processor.value x := by
  intro after
  have value_lt : processor.value x < 256 := (processor.register x).toNat_lt
  rw [value_shiftLeft, flag_shiftLeft _ apart]
  omega

/-- Away from the flag register a shift to the right writes the flag and the result like all other
arithmetic. -/
theorem shiftRight_eq (apart : x ≠ flagRegister) :
    processor.shiftRight x =
      processor.setFlagged (processor.register x &&& 1) x (processor.register x >>> 1) := by
  rw [shiftRight, register_setRegister, if_neg apart]
  rfl

theorem value_shiftRight (apart : x ≠ flagRegister) :
    (processor.shiftRight x).value x = processor.value x / 2 := by
  rw [shiftRight_eq _ apart, value_setFlagged, UInt8.toNat_shiftRight, Nat.shiftRight_eq_div_pow]
  rfl

theorem flag_shiftRight (apart : x ≠ flagRegister) :
    (processor.shiftRight x).value flagRegister = processor.value x % 2 := by
  rw [shiftRight_eq _ apart, flag_setFlagged _ apart, UInt8.toNat_and]
  exact Nat.and_one_is_mod _

theorem shiftedRight_shiftRight (apart : x ≠ flagRegister) :
    let after := processor.shiftRight x
    2 * after.value x + after.value flagRegister = processor.value x ∧
      after.value flagRegister ≤ 1 := by
  intro after
  rw [value_shiftRight _ apart, flag_shiftRight _ apart]
  omega

/-- The flag register is shifted after the flag was written, and a flag leaves nothing. -/
theorem value_shiftRight_flagRegister :
    (processor.shiftRight flagRegister).value flagRegister = 0 := by
  rw [shiftRight, value_setRegister, register_setRegister, if_pos rfl, UInt8.toNat_shiftRight,
    UInt8.toNat_and, Nat.shiftRight_eq_div_pow]
  exact Nat.div_eq_of_lt (Nat.lt_of_le_of_lt Nat.and_le_right (by decide))

theorem toNat_index_addIndex (x : Register) :
    (processor.addIndex x).index.toNat =
      (processor.index.toNat + processor.value x) % 4096 :=
  toNat_address_add_byte_mod _ _

theorem flag_addIndex (inMemory : processor.index.toNat ≤ 0xFFF) (x : Register) :
    (processor.addIndex x).value flagRegister =
      if 4096 ≤ processor.index.toNat + processor.value x then 1 else 0 := by
  refine (processor.value_setRegister flagRegister _).trans (toNat_flag.trans ?_)
  refine if_congr ?_ rfl rfl
  rw [UInt16.lt_iff_toNat_lt, toNat_address_add_byte inMemory]
  exact Iff.rfl

/-! ### Words -/

/-- What a word computes, in numbers.  The result and the flag are in different registers here. -/
structure Arithmetic (before : Processor) (op : Opcode) (after : Processor) : Prop where
  /-- `8xy0` -/
  copy : ∀ {x y}, op.Denotes (.copy x y) → x ≠ flagRegister →
    after.value x = before.value y ∧ after.value flagRegister = before.value flagRegister
  /-- `8xy1` -/
  or : ∀ {x y}, op.Denotes (.or x y) → x ≠ flagRegister →
    after.value x = before.value x ||| before.value y ∧
      after.value flagRegister = before.value flagRegister
  /-- `8xy2` -/
  and : ∀ {x y}, op.Denotes (.and x y) → x ≠ flagRegister →
    after.value x = before.value x &&& before.value y ∧
      after.value flagRegister = before.value flagRegister
  /-- `8xy3` -/
  xor : ∀ {x y}, op.Denotes (.xor x y) → x ≠ flagRegister →
    after.value x = before.value x ^^^ before.value y ∧
      after.value flagRegister = before.value flagRegister
  /-- `8xy4` -/
  add : ∀ {x y}, op.Denotes (.add x y) → x ≠ flagRegister →
    after.value x = (before.value x + before.value y) % 256 ∧
      after.value flagRegister = if 256 ≤ before.value x + before.value y then 1 else 0
  /-- `8xy5` -/
  subtract : ∀ {x y}, op.Denotes (.subtract x y) → x ≠ flagRegister →
    after.HoldsDifference x (before.value x) (before.value y)
  /-- `8x_6`: the flag is the bit that is shifted out. -/
  shiftRight : ∀ {x}, op.Denotes (.shiftRight x) → x ≠ flagRegister →
    2 * after.value x + after.value flagRegister = before.value x ∧ after.value flagRegister ≤ 1
  /-- `8xy7` -/
  subtractFrom : ∀ {x y}, op.Denotes (.subtractFrom x y) → x ≠ flagRegister →
    after.HoldsDifference x (before.value y) (before.value x)
  /-- `8x_E`: the flag is the bit that is shifted out. -/
  shiftLeft : ∀ {x}, op.Denotes (.shiftLeft x) → x ≠ flagRegister →
    256 * after.value flagRegister + after.value x = 2 * before.value x
  /-- `7xkk` -/
  addByte : ∀ {x byte}, op.Denotes (.addByte x byte) → x ≠ flagRegister →
    after.value x = (before.value x + byte.toNat) % 256 ∧
      after.value flagRegister = before.value flagRegister
  /-- `Fx1E`: the flag tells that the sum left the address space. -/
  addIndex : ∀ {x}, op.Denotes (.addIndex x) →
    after.index.toNat = (before.index.toNat + before.value x) % 4096 ∧
      after.value flagRegister = if 4096 ≤ before.index.toNat + before.value x then 1 else 0
  /-- `Bnnn` -/
  jumpOffset : ∀ {address}, op.Denotes (.jumpOffset address) →
    after.pc.toNat = (address.toNat + before.value 0) % 4096

end Processor

namespace Machine

theorem value_cycle_of_denotes {machine : Machine} {instruction : Instruction}
    (denotes : machine.processor.opcode.Denotes instruction) (x : Register) :
    machine.cycle.1.processor.value x =
      (machine.processor.execute machine.random instruction).processor.value x := by
  rw [processor_cycle_of_denotes denotes]
  rfl

/-- Whatever word comes up while the index register is in memory, executing it computes what the
word says, also if both operands are one register or the flag register is the second of them. -/
theorem cycle_arithmetic (machine : Machine) (inMemory : machine.processor.index.toNat ≤ 0xFFF) :
    machine.processor.Arithmetic machine.processor.opcode machine.cycle.1.processor where
  copy denotes apart := by
    rw [processor_cycle_of_denotes denotes]
    exact Processor.values_setRegister _ apart _
  or denotes apart := by
    rw [processor_cycle_of_denotes denotes]
    exact (Processor.values_setRegister _ apart _).imp_left (·.trans (UInt8.toNat_or _ _))
  and denotes apart := by
    rw [processor_cycle_of_denotes denotes]
    exact (Processor.values_setRegister _ apart _).imp_left (·.trans (UInt8.toNat_and _ _))
  xor denotes apart := by
    rw [processor_cycle_of_denotes denotes]
    exact (Processor.values_setRegister _ apart _).imp_left (·.trans (UInt8.toNat_xor _ _))
  add denotes apart := by
    rw [processor_cycle_of_denotes denotes]
    exact ⟨Processor.value_addRegisters _ _ _, Processor.flag_addRegisters _ apart _⟩
  subtract denotes apart := by
    rw [processor_cycle_of_denotes denotes]
    exact Processor.holdsDifference_setDifference _ apart _ _
  shiftRight denotes apart := by
    rw [processor_cycle_of_denotes denotes]
    exact Processor.shiftedRight_shiftRight _ apart
  subtractFrom denotes apart := by
    rw [processor_cycle_of_denotes denotes]
    exact Processor.holdsDifference_setDifference _ apart _ _
  shiftLeft denotes apart := by
    rw [processor_cycle_of_denotes denotes]
    exact Processor.shiftedLeft_shiftLeft _ apart
  addByte denotes apart := by
    rw [processor_cycle_of_denotes denotes]
    exact (Processor.values_setRegister _ apart _).imp_left (·.trans (UInt8.toNat_add _ _))
  addIndex denotes := by
    rw [processor_cycle_of_denotes denotes]
    exact ⟨Processor.toNat_index_addIndex _ _, Processor.flag_addIndex _ inMemory _⟩
  jumpOffset denotes := by
    rw [processor_cycle_of_denotes denotes]
    exact toNat_address_add_byte_mod _ _

/-- A machine about to execute a word, with a byte in `V1` and one in `VF`. -/
def poised (high low one flag : UInt8) : Machine :=
  (((create 0 1 0).load #[high, low] 0).pokeRegister 1 one).pokeRegister 15 flag

theorem opcode_poised (high low one flag : UInt8) :
    (poised high low one flag).processor.opcode = .ofBytes high low :=
  (create 0 1 0).opcode_of_loaded #[high, low] 0 0 rfl rfl (by simp) (by simp)

theorem values_poised (high low one flag : UInt8) :
    (poised high low one flag).processor.value 1 = one.toNat ∧
      (poised high low one flag).processor.value flagRegister = flag.toNat := by
  simp only [Processor.value, poised, register_pokeRegister]
  exact ⟨rfl, rfl⟩

/-- `81F4`: the carry takes the place of the second operand. -/
theorem cycle_arithmetic_carry :
    let machine := poised 0x81 0xF4 200 100
    machine.processor.index.toNat ≤ 0xFFF ∧ machine.cycle.1.processor.value 1 = 44 ∧
      machine.cycle.1.processor.value flagRegister = 1 := by
  intro machine
  have inMemory : machine.processor.index.toNat ≤ 0xFFF := Nat.zero_le _
  have denotes : machine.processor.opcode.Denotes (.add 1 flagRegister) := by
    rw [opcode_poised]
    exact ⟨rfl, rfl, rfl, rfl⟩
  obtain ⟨left, right⟩ := values_poised 0x81 0xF4 200 100
  obtain ⟨value, flag⟩ := (machine.cycle_arithmetic inMemory).add denotes (by decide)
  rw [left, right] at value flag
  exact ⟨inMemory, value, flag⟩

/-! ### The flag register as destination -/

/-- A result that is destined for the flag register takes the place of the flag, except that a
shift to the right leaves zero.  So that shift is right for a flag and for nothing else. -/
theorem flag_destination (machine : Machine) :
    let before := machine.processor
    let op := before.opcode
    let after := machine.cycle.1.processor
    let flag := before.value flagRegister
    (∀ y, op.Denotes (.add flagRegister y) →
      after.value flagRegister = (flag + before.value y) % 256) ∧
    (∀ y, op.Denotes (.subtract flagRegister y) →
      after.value flagRegister =
        if before.value y < flag then flag - before.value y
        else 255 - (before.value y - flag)) ∧
    (∀ y, op.Denotes (.subtractFrom flagRegister y) →
      after.value flagRegister =
        if flag < before.value y then before.value y - flag
        else 255 - (flag - before.value y)) ∧
    (op.Denotes (.shiftLeft flagRegister) → after.value flagRegister = 2 * flag % 256) ∧
    (op.Denotes (.shiftRight flagRegister) →
      after.value flagRegister = 0 ∧ (after.value flagRegister = flag / 2 ↔ flag < 2)) := by
  intro before op after flag
  refine ⟨fun y denotes => ?_, fun y denotes => ?_, fun y denotes => ?_, fun denotes => ?_,
    fun denotes => ?_⟩
  · exact (value_cycle_of_denotes denotes _).trans (before.value_addRegisters flagRegister y)
  · exact (value_cycle_of_denotes denotes _).trans (before.value_setDifference flagRegister _ _)
  · exact (value_cycle_of_denotes denotes _).trans (before.value_setDifference flagRegister _ _)
  · exact (value_cycle_of_denotes denotes _).trans (before.value_shiftLeft flagRegister)
  · have zero : after.value flagRegister = 0 :=
      (value_cycle_of_denotes denotes _).trans before.value_shiftRight_flagRegister
    rw [zero]
    omega

/-- `8F14`: the sum takes the place of its carry. -/
theorem flag_destination_sum :
    let machine := poised 0x8F 0x14 100 200
    machine.processor.opcode.Denotes (.add flagRegister 1) ∧
      machine.cycle.1.processor.value flagRegister = 44 := by
  intro machine
  have denotes : machine.processor.opcode.Denotes (.add flagRegister 1) := by
    rw [opcode_poised]
    exact ⟨rfl, rfl, rfl, rfl⟩
  obtain ⟨right, left⟩ := values_poised 0x8F 0x14 100 200
  have value := machine.flag_destination.1 1 denotes
  rw [left, right] at value
  exact ⟨denotes, value⟩

/-- `8F06`: half of two is lost. -/
theorem flag_destination_fails_shiftRight :
    let machine := poised 0x8F 0x06 0 2
    machine.processor.opcode.Denotes (.shiftRight flagRegister) ∧
      machine.cycle.1.processor.value flagRegister ≠ machine.processor.value flagRegister / 2 := by
  intro machine
  have denotes : machine.processor.opcode.Denotes (.shiftRight flagRegister) := by
    rw [opcode_poised]
    exact ⟨rfl, rfl, rfl⟩
  have two := (values_poised 0x8F 0x06 0 2).2
  have zero := (value_cycle_of_denotes denotes flagRegister).trans
    (Processor.value_shiftRight_flagRegister _)
  refine ⟨denotes, ?_⟩
  rw [zero, two]
  decide

end Machine
end Chip8
