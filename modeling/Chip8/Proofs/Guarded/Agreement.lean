import Chip8.Proofs.Arithmetic
import Chip8.Proofs.Bounds
import Chip8.Proofs.Guarded

/-!
# Guarded execution never traps

Within the bounds of the machine state no check of guarded execution fails, and its answer is that
of plain execution.  So the conventions by which plain execution is total never take effect on a
machine with a history.
-/

namespace Chip8

namespace Guarded

theorem bind_ok {α β : Type} (value : α) (next : α → Guarded β) :
    (Except.ok value >>= next : Guarded β) = next value := rfl

theorem pure_eq {α : Type} (value : α) : (pure value : Guarded α) = .ok value := rfl

theorem get_of_lt {α : Type} {size index : Nat} (cells : Vector α size)
    (inRange : index < size) : get cells index = .ok cells[index] := by
  simp [get, inRange]

theorem set_of_lt {α : Type} {size index : Nat} (cells : Vector α size) (value : α)
    (inRange : index < size) : set cells index value = .ok (cells.set index value) := by
  simp [set, inRange]

theorem add16_of_lt {left right : Nat} (fits : left + right < 0x10000) :
    add16 left right = .ok (left + right) := if_pos fits

theorem mul16_of_lt {left right : Nat} (fits : left * right < 0x10000) :
    mul16 left right = .ok (left * right) := if_pos fits

theorem add64_of_lt {left right : Nat} (fits : left + right < 0x10000000000000000) :
    add64 left right = .ok (left + right) := if_pos fits

theorem mul64_of_lt {left right : Nat} (fits : left * right < 0x10000000000000000) :
    mul64 left right = .ok (left * right) := if_pos fits

theorem sub_of_le {left right : Nat} (fits : right ≤ left) :
    sub left right = .ok (left - right) := if_pos fits

theorem subSigned_of_le {left right : Int} (above : -32768 ≤ left - right)
    (below : left - right ≤ 32767) : subSigned left right = .ok (left - right) :=
  if_pos ⟨above, below⟩

theorem magnitude_of_le {value : Int} (fits : value.natAbs ≤ 32767) :
    magnitude value = .ok value.natAbs := if_pos fits

/-- A loop whose turns never trap is a fold. -/
theorem foldlM_of_ok {α β : Type} {step : β → α → Guarded β} {plain : β → α → β} {turns : List α}
    (agrees : ∀ state, ∀ turn ∈ turns, step state turn = .ok (plain state turn)) (initial : β) :
    turns.foldlM step initial = .ok (turns.foldl plain initial) := by
  induction turns generalizing initial with
  | nil => rfl
  | cons turn turns induction =>
      rw [List.foldlM_cons, agrees initial turn List.mem_cons_self, bind_ok]
      exact induction (fun state later member => agrees state later (.tail _ member)) _

end Guarded

open Guarded

namespace Memory

theorem and_addressMask (address : Nat) : address &&& addressMask = (wrap address).val :=
  Nat.and_two_pow_sub_one_eq_mod address 12

theorem guardedRead_eq (memory : Memory) (address : Nat) :
    memory.guardedRead address = .ok (memory.read address) := by
  simp only [guardedRead, and_addressMask]
  exact get_of_lt memory.cells (wrap address).isLt

theorem guardedWrite_eq (memory : Memory) (address : Nat) (byte : UInt8) :
    memory.guardedWrite address byte = .ok (memory.write address byte) := by
  simp only [guardedWrite, and_addressMask, set_of_lt memory.cells byte (wrap address).isLt]
  rfl

theorem writeAll_append (memory : Memory) (address : Nat) (first second : List UInt8) :
    memory.writeAll address (first ++ second) =
      (memory.writeAll address first).writeAll (address + first.length) second := by
  induction first generalizing memory address with
  | nil => rfl
  | cons byte first induction =>
      simp only [List.cons_append, writeAll, List.length_cons, induction]
      congr 1
      omega

end Memory

namespace Display

/-- Toggle a pixel and remember whether it was on. -/
def touch (drawn : Display × Bool) (pixel : Pixel) : Display × Bool :=
  (drawn.1.toggle pixel, drawn.2 || drawn.1.get pixel)

theorem foldl_touch (pixels : List Pixel) (display : Display) (collided : Bool) :
    pixels.foldl touch (display, collided) =
      ((display.toggleAll pixels).1, collided || (display.toggleAll pixels).2) := by
  induction pixels generalizing display collided with
  | nil => simp [toggleAll]
  | cons pixel pixels induction =>
      simp only [List.foldl_cons, touch, induction, toggleAll, Bool.or_assoc]

end Display

namespace Processor

variable (processor : Processor)

theorem guardedRegister_eq (x : Register) :
    processor.guardedRegister x.val = .ok (processor.register x) :=
  get_of_lt processor.registers x.isLt

theorem guardedSetRegister_eq (x : Register) (value : UInt8) :
    processor.guardedSetRegister x.val value = .ok (processor.setRegister x value) := by
  simp only [guardedSetRegister, set_of_lt processor.registers value x.isLt]
  rfl

theorem guardedSetFlagged_eq (flag : UInt8) (x : Register) (value : UInt8) :
    processor.guardedSetFlagged flag x.val value =
      .ok (processor.setFlagged flag x value, .next) := by
  have flagged : processor.guardedSetRegister 15 flag =
      .ok (processor.setRegister flagRegister flag) :=
    processor.guardedSetRegister_eq flagRegister flag
  simp only [guardedSetFlagged, flagged, bind_ok, guardedSetRegister_eq]
  rfl

/-- The address after the program counter needs no check. -/
theorem guardedOpcode_eq : processor.guardedOpcode = .ok processor.opcode := by
  have fits : processor.pc.toNat + 1 < 0x10000000000000000 := by
    have := processor.pc.toNat_lt
    omega
  simp only [guardedOpcode, Memory.guardedRead_eq, add64_of_lt fits, bind_ok]
  rfl

/-! ### Words and bytes -/

theorem and_mask (address : UInt16) : address &&& 0xFFF = address % 4096 := by
  apply UInt16.toNat_inj.mp
  rw [UInt16.toNat_and, UInt16.toNat_mod]
  exact Nat.and_two_pow_sub_one_eq_mod address.toNat 12

theorem ofNat_and_mask {sum : Nat} {word : UInt16} (same : word.toNat = sum) :
    UInt16.ofNat (sum &&& 0xFFF) = word % 4096 := by
  apply UInt16.toNat_inj.mp
  have masked : sum &&& 0xFFF = sum % 4096 := Nat.and_two_pow_sub_one_eq_mod sum 12
  rw [masked, UInt16.toNat_mod, same, UInt16.toNat_ofNat']
  simp only [UInt16.reduceToNat]
  omega

theorem ofInt_eq {value : Int} {byte : UInt8} (same : value = byte.toNat) :
    UInt8.ofInt value = byte := by
  have byte_lt := byte.toNat_lt
  apply UInt8.toNat_inj.mp
  simp only [UInt8.ofInt, UInt8.toNat_ofNat']
  omega

/-! ### Subroutines -/

theorem guardedReturn_eq (bounded : processor.Bounded) :
    processor.guardedReturn = .ok processor.returnFromCall := by
  have depth := bounded.sp
  by_cases bottom : processor.sp = 0
  · simp only [guardedReturn, returnFromCall, if_pos bottom, pure_eq]
  · have top : processor.sp - 1 < 16 := by omega
    simp only [guardedReturn, returnFromCall, if_neg bottom, pure_eq, bind_ok,
      sub_of_le (Nat.pos_of_ne_zero bottom), get_of_lt processor.stack top, and_mask,
      Vector.getElem?_eq_getElem top, Option.getD_some]

theorem guardedCall_eq (address : UInt16) :
    processor.guardedCall address = .ok (processor.callSubroutine address) := by
  by_cases full : 16 ≤ processor.sp
  · simp only [guardedCall, callSubroutine, if_pos full, pure_eq]
  · have free : processor.sp < 16 := Nat.lt_of_not_le full
    have fits : processor.sp + 1 < 0x10000000000000000 := by omega
    have pushed (value : UInt16) : processor.stack.set processor.sp value free =
        processor.stack.setIfInBounds processor.sp value := by
      simp [Vector.setIfInBounds, Vector.set, Array.setIfInBounds, free]
    simp only [guardedCall, callSubroutine, if_neg full, pure_eq, bind_ok, add64_of_lt fits,
      set_of_lt processor.stack _ free, and_mask, pushed]

/-! ### Arithmetic -/

theorem guardedDifference_eq (minuend subtrahend : UInt8) :
    guardedDifference minuend subtrahend = .ok (difference minuend subtrahend) := by
  have minuend_lt := minuend.toNat_lt
  have subtrahend_lt := subtrahend.toNat_lt
  have signed : subSigned minuend.toNat subtrahend.toNat =
      .ok ((minuend.toNat : Int) - subtrahend.toNat) := subSigned_of_le (by omega) (by omega)
  simp only [guardedDifference, difference, signed, bind_ok, pure_eq]
  by_cases positive : subtrahend < minuend
  · have less := UInt8.lt_iff_toNat_lt.mp positive
    have result_eq : UInt8.ofInt ((minuend.toNat : Int) - subtrahend.toNat) =
        minuend - subtrahend := by
      apply ofInt_eq
      rw [UInt8.toNat_sub_of_le _ _ (UInt8.le_of_lt positive)]
      omega
    rw [if_pos positive, if_pos (by omega), result_eq]
  · -- The difference may be zero here, which counts as a borrow.
    have borrow : minuend ≤ subtrahend := UInt8.not_lt.mp positive
    have above := UInt8.le_iff_toNat_le.mp borrow
    have distance : (subtrahend - minuend).toNat = subtrahend.toNat - minuend.toNat :=
      UInt8.toNat_sub_of_le _ _ borrow
    have below : subtrahend - minuend ≤ 255 := by
      rw [UInt8.le_iff_toNat_le, distance]
      exact Nat.le_trans (Nat.sub_le _ _) (Nat.le_of_lt_succ subtrahend_lt)
    have absolute : magnitude ((minuend.toNat : Int) - subtrahend.toNat) =
        .ok ((subtrahend.toNat - minuend.toNat : Nat) : Int) := by
      rw [magnitude_of_le (by omega)]
      congr 1
      omega
    have borrowed : subSigned 255 ((subtrahend.toNat - minuend.toNat : Nat) : Int) =
        .ok (255 - ((subtrahend.toNat - minuend.toNat : Nat) : Int)) :=
      subSigned_of_le (by omega) (by omega)
    have result_eq : UInt8.ofInt (255 - ((subtrahend.toNat - minuend.toNat : Nat) : Int)) =
        255 - (subtrahend - minuend) := by
      apply ofInt_eq
      rw [UInt8.toNat_sub_of_le _ _ below, distance]
      simp only [UInt8.reduceToNat]
      omega
    rw [if_neg positive, if_neg (by omega)]
    simp only [absolute, borrowed, bind_ok, result_eq]

theorem guardedArithmetic_add (x y : Register) :
    processor.guardedArithmetic (.add x y) = .ok (processor.addRegisters x y, .next) := by
  have left_lt := (processor.register x).toNat_lt
  have right_lt := (processor.register y).toNat_lt
  have fits : (processor.register x).toNat + (processor.register y).toNat < 0x10000 := by
    omega
  have sum_eq := toNat_byte_add (processor.register x) (processor.register y)
  have carries : 255 < (processor.register x).toNat + (processor.register y).toNat ↔
      255 < (processor.register x).toUInt16 + (processor.register y).toUInt16 := by
    rw [UInt16.lt_iff_toNat_lt, sum_eq]
    exact Iff.rfl
  have low : UInt8.ofNat (((processor.register x).toNat + (processor.register y).toNat) &&& 0xFF) =
      ((processor.register x).toUInt16 + (processor.register y).toUInt16).toUInt8 := by
    apply UInt8.toNat_inj.mp
    rw [UInt16.toNat_toUInt8, sum_eq, UInt8.toNat_ofNat',
      show (0xFF : Nat) = 2 ^ 8 - 1 from rfl, Nat.and_two_pow_sub_one_eq_mod, Nat.mod_mod]
  simp only [guardedArithmetic, guardedRegister_eq, bind_ok, add16_of_lt fits, low, carries,
    guardedSetFlagged_eq, addRegisters]

theorem guardedArithmetic_shiftRight (x : Register) :
    processor.guardedArithmetic (.shiftRight x) = .ok (processor.shiftRight x, .next) := by
  have flagged (bit : UInt8) : processor.guardedSetRegister 15 bit =
      .ok (processor.setRegister flagRegister bit) :=
    processor.guardedSetRegister_eq flagRegister bit
  simp only [guardedArithmetic, guardedRegister_eq, bind_ok, flagged, guardedSetRegister_eq]
  rfl

theorem guardedArithmetic_shiftLeft (x : Register) :
    processor.guardedArithmetic (.shiftLeft x) = .ok (processor.shiftLeft x, .next) := by
  have bit (value : UInt8) : (value >>> (7 : UInt8)) &&& (1 : UInt8) = value >>> (7 : UInt8) := by
    have value_lt := value.toNat_lt
    have power : 2 ^ (7 % 8) = 128 := rfl
    apply UInt8.toNat_inj.mp
    simp only [UInt8.toNat_and, UInt8.toNat_shiftRight, UInt8.reduceToNat, Nat.and_one_is_mod,
      Nat.shiftRight_eq_div_pow, power]
    omega
  simp only [guardedArithmetic, guardedRegister_eq, bind_ok, guardedSetFlagged_eq, bit]
  rfl

/-! ### Sprites -/

/-- The place of a pixel lies in the display, however far its column and row are beyond it. -/
theorem guardedPixel_eq {row : UInt8} {column line offset : Nat} (column_lt : column < 256)
    (offset_lt : offset < 8) (drawn : Display × Bool) :
    guardedPixel row column line drawn offset =
      .ok (if row.toNat.testBit (7 - offset) then
        Display.touch drawn (Display.pixelAt (column + offset) line) else drawn) := by
  have shifted : Guarded.sub 7 offset = .ok (7 - offset) := sub_of_le (Nat.le_of_lt_succ offset_lt)
  have bit : (row.toNat >>> (7 - offset)) &&& 1 = 0 ↔ row.toNat.testBit (7 - offset) = false := by
    rw [Nat.testBit, Nat.and_comm]
    simp
  simp only [guardedPixel, shifted, bind_ok, pure_eq, bit]
  cases row.toNat.testBit (7 - offset) with
  | false => rfl
  | true =>
      have column_mod : (column + offset) &&& 63 = (column + offset) % 64 :=
        Nat.and_two_pow_sub_one_eq_mod _ 6
      have line_mod : line &&& 31 = line % 32 := Nat.and_two_pow_sub_one_eq_mod _ 5
      have place_lt : (column + offset) % 64 + line % 32 * 64 < 2048 := by omega
      have across : Guarded.add64 column offset = .ok (column + offset) :=
        add64_of_lt (by omega)
      have down : Guarded.mul64 (line % 32) 64 = .ok (line % 32 * 64) := mul64_of_lt (by omega)
      have place : Guarded.add64 ((column + offset) % 64) (line % 32 * 64) =
          .ok ((column + offset) % 64 + line % 32 * 64) := add64_of_lt (by omega)
      simp only [Bool.true_eq_false, if_false, if_true, across, column_mod, line_mod, down, place,
        bind_ok, get_of_lt _ place_lt, set_of_lt _ _ place_lt, Bool.xor_true]
      rfl

theorem guardedRow_eq {column line index : Nat} (column_lt : column < 256) (line_lt : line < 256)
    (index_lt : index < 16) (rows : Nat) (drawn : Display × Bool) :
    processor.guardedRow column line drawn index =
      .ok ((Sprite.rowPixels processor.memory ⟨processor.index.toNat, rows⟩ column line
        index).foldl Display.touch drawn) := by
  have index_word_lt := processor.index.toNat_lt
  have address : Guarded.add64 processor.index.toNat index =
      .ok (processor.index.toNat + index) := add64_of_lt (by omega)
  have below : Guarded.add64 line index = .ok (line + index) := add64_of_lt (by omega)
  simp only [guardedRow, address, below, bind_ok, Memory.guardedRead_eq]
  rw [foldlM_of_ok fun state offset member =>
    guardedPixel_eq column_lt (List.mem_range.mp member) state]
  rw [Sprite.rowPixels, List.foldl_filterMap]
  congr 2
  funext state offset
  rw [Sprite.bit]
  split <;> rfl

theorem guardedDraw_eq (x y : Register) {rows : Nat} (rows_le : rows < 16) :
    processor.guardedDraw x.val y.val rows = .ok (processor.drawSprite x y rows, .next) := by
  have flagged (bit : UInt8) : processor.guardedSetRegister 15 bit =
      .ok (processor.setRegister flagRegister bit) :=
    processor.guardedSetRegister_eq flagRegister bit
  have turns (state : Display × Bool) (index : Nat) (member : index ∈ List.range rows) :=
    processor.guardedRow_eq (processor.register x).toNat_lt (processor.register y).toNat_lt
      (Nat.lt_trans (List.mem_range.mp member) rows_le) rows state
  simp only [guardedDraw, guardedRegister_eq, bind_ok, foldlM_of_ok turns,
    ← List.foldl_flatMap, Display.foldl_touch, Bool.false_or, flagged]
  rfl

/-! ### Memory transfers -/

theorem guardedStore_eq {count : Nat} (count_le : count ≤ 16) :
    processor.guardedStore count =
      .ok (processor.memory.writeAll processor.index.toNat
        (processor.registers.toList.take count)) := by
  have index_lt := processor.index.toNat_lt
  rw [guardedStore]
  induction count with
  | zero => rfl
  | succ count induction =>
      have register := processor.guardedRegister_eq ⟨count, count_le⟩
      have address : Guarded.add64 processor.index.toNat count =
          .ok (processor.index.toNat + count) := add64_of_lt (by omega)
      have inRange : count < processor.registers.toList.length := by
        rw [Vector.length_toList]
        exact count_le
      simp only at register
      rw [List.range_succ, List.foldlM_append, induction (Nat.le_of_succ_le count_le), bind_ok,
        List.foldlM_cons, register, bind_ok, address, bind_ok, Memory.guardedWrite_eq, bind_ok,
        List.foldlM_nil, pure_eq, List.take_succ_eq_append_getElem inRange,
        Memory.writeAll_append, List.length_take, Nat.min_eq_left (Nat.le_of_lt inRange)]
      rfl

/-- The registers after some turns of a load: those below the turn come from memory. -/
def loadedBelow (turn : Nat) : Vector UInt8 16 :=
  Vector.ofFn fun j =>
    if j.val < turn then processor.memory.read (processor.index.toNat + j.val)
    else processor.register j

theorem loadedBelow_zero : processor.loadedBelow 0 = processor.registers := by
  ext j j_lt
  simp [loadedBelow, register]

theorem loadedBelow_succ {turn : Nat} (turn_lt : turn < 16) :
    (processor.loadedBelow turn).set turn
        (processor.memory.read (processor.index.toNat + turn)) =
      processor.loadedBelow (turn + 1) := by
  ext j j_lt
  by_cases same : turn = j
  · simp [loadedBelow, same]
  · have next : j < turn + 1 ↔ j < turn := by omega
    simp only [loadedBelow, Vector.getElem_ofFn, Vector.getElem_set, if_neg same, next]

theorem guardedLoad_eq {count : Nat} (count_le : count ≤ 16) :
    processor.guardedLoad count = .ok (processor.loadedBelow count) := by
  have index_lt := processor.index.toNat_lt
  rw [guardedLoad]
  induction count with
  | zero => rw [List.range_zero, List.foldlM_nil, pure_eq, loadedBelow_zero]
  | succ count induction =>
      have address : Guarded.add64 processor.index.toNat count =
          .ok (processor.index.toNat + count) := add64_of_lt (by omega)
      rw [List.range_succ, List.foldlM_append, induction (Nat.le_of_succ_le count_le), bind_ok,
        List.foldlM_cons, address, bind_ok, Memory.guardedRead_eq, bind_ok,
        set_of_lt _ _ count_le, bind_ok, List.foldlM_nil, pure_eq, loadedBelow_succ]

/-- An index beyond memory would wrap here; the bounds exclude it. -/
theorem guardedTransfer_addIndex (bounded : processor.Bounded) (x : Register) :
    processor.guardedTransfer (.addIndex x) = .ok (processor.addIndex x, .next) := by
  have index_le := bounded.index
  have value_lt := (processor.register x).toNat_lt
  have sum_eq := toNat_address_add_byte bounded.index (processor.register x)
  have fits : Guarded.add16 processor.index.toNat (processor.register x).toNat =
      .ok (processor.index.toNat + (processor.register x).toNat) := add16_of_lt (by omega)
  have leaves : 4095 < processor.index.toNat + (processor.register x).toNat ↔
      4095 < processor.index + (processor.register x).toUInt16 := by
    rw [UInt16.lt_iff_toNat_lt, sum_eq]
    exact Iff.rfl
  have flagged (bit : UInt8) : processor.guardedSetRegister 15 bit =
      .ok (processor.setRegister flagRegister bit) :=
    processor.guardedSetRegister_eq flagRegister bit
  simp only [guardedTransfer, guardedRegister_eq, bind_ok, fits, flagged, leaves,
    ofNat_and_mask sum_eq, pure_eq, addIndex]

theorem guardedTransfer_pointGlyph (x : Register) :
    processor.guardedTransfer (.pointGlyph x) =
      .ok ({ processor with index := (processor.register x).toUInt16 * 5 % 4096 }, .next) := by
  have value_lt := (processor.register x).toNat_lt
  have product_eq : ((processor.register x).toUInt16 * 5).toNat =
      0 + (processor.register x).toNat * 5 := by
    simp only [UInt16.toNat_mul, UInt8.toNat_toUInt16, UInt16.reduceToNat]
    omega
  have offset : Guarded.mul16 (processor.register x).toNat Font.height =
      .ok ((processor.register x).toNat * 5) := mul16_of_lt (by unfold Font.height; omega)
  have address : Guarded.add16 Font.start ((processor.register x).toNat * 5) =
      .ok (0 + (processor.register x).toNat * 5) := add16_of_lt (by unfold Font.start; omega)
  simp only [guardedTransfer, guardedRegister_eq, bind_ok, offset, address,
    ofNat_and_mask product_eq, pure_eq]

theorem guardedTransfer_storeDecimal (x : Register) :
    processor.guardedTransfer (.storeDecimal x) = .ok (processor.storeDecimal x, .next) := by
  have index_lt := processor.index.toNat_lt
  have address (offset : Nat) (offset_le : offset ≤ 2) :
      Guarded.add64 processor.index.toNat offset = .ok (processor.index.toNat + offset) :=
    add64_of_lt (by omega)
  simp only [guardedTransfer, guardedRegister_eq, Memory.guardedWrite_eq, bind_ok,
    address 1 (by omega), address 2 (by omega), pure_eq]
  rfl

theorem guardedTransfer_storeRegisters (x : Register) :
    processor.guardedTransfer (.storeRegisters x) = .ok (processor.storeRegisters x, .next) := by
  simp only [guardedTransfer, processor.guardedStore_eq x.isLt, bind_ok, pure_eq]
  rfl

theorem guardedTransfer_loadRegisters (x : Register) :
    processor.guardedTransfer (.loadRegisters x) = .ok (processor.loadRegisters x, .next) := by
  simp only [guardedTransfer, processor.guardedLoad_eq x.isLt, bind_ok, pure_eq, loadedBelow,
    loadRegisters, Nat.lt_succ_iff]

/-! ### All instructions -/

theorem guardedFixed_jumpOffset {address : UInt16} (address_le : address.toNat ≤ 4095) :
    processor.guardedFixed (.jumpOffset address) =
      .ok (processor, .jump ((address + (processor.register 0).toUInt16) % 4096)) := by
  have value_lt := (processor.register 0).toNat_lt
  have register : processor.guardedRegister 0 = .ok (processor.register 0) :=
    processor.guardedRegister_eq 0
  have fits : Guarded.add16 address.toNat (processor.register 0).toNat =
      .ok (address.toNat + (processor.register 0).toNat) := add16_of_lt (by omega)
  simp only [guardedFixed, register, fits, bind_ok, pure_eq,
    ofNat_and_mask (toNat_address_add_byte address_le (processor.register 0))]

theorem guardedFixed_eq (bounded : processor.Bounded) {instruction : Instruction}
    (addressed : instruction.Addressed)
    (fixed : ∀ x mask, instruction ≠ .random x mask) :
    processor.guardedFixed instruction = .ok (processor.executeFixed instruction) := by
  cases instruction with
  | ret => exact processor.guardedReturn_eq bounded
  | call address => exact processor.guardedCall_eq address
  | add x y => exact processor.guardedArithmetic_add x y
  | shiftRight x => exact processor.guardedArithmetic_shiftRight x
  | shiftLeft x => exact processor.guardedArithmetic_shiftLeft x
  | jumpOffset address => exact processor.guardedFixed_jumpOffset addressed
  | draw x y rows => exact processor.guardedDraw_eq x y rows.isLt
  | addIndex x => exact processor.guardedTransfer_addIndex bounded x
  | pointGlyph x => exact processor.guardedTransfer_pointGlyph x
  | storeDecimal x => exact processor.guardedTransfer_storeDecimal x
  | storeRegisters x => exact processor.guardedTransfer_storeRegisters x
  | loadRegisters x => exact processor.guardedTransfer_loadRegisters x
  | random x mask => exact absurd rfl (fixed x mask)
  | awaitKey x =>
      simp only [guardedFixed, guardedTransfer, executeFixed]
      cases processor.keypad.lowest? with
      | none => rfl
      | some key => simp only [guardedSetRegister_eq, bind_ok, pure_eq]
  | subtract x y | subtractFrom x y =>
      simp only [guardedFixed, guardedArithmetic, guardedRegister_eq, bind_ok,
        guardedDifference_eq, guardedSetFlagged_eq]
      rfl
  | _ =>
      simp only [guardedFixed, guardedArithmetic, guardedTransfer, guardedCompare,
        guardedRegister_eq, guardedSetRegister_eq, bind_ok, pure_eq, executeFixed]

/-- Every instruction passes the checks. -/
theorem guardedExecute_eq (bounded : processor.Bounded) (random : Generator)
    {instruction : Instruction} (addressed : instruction.Addressed) :
    processor.guardedExecute random instruction = .ok (processor.execute random instruction) := by
  cases instruction with
  | random x mask =>
      simp only [guardedExecute, guardedSetRegister_eq, bind_ok, pure_eq, execute]
  | _ =>
      have fixed := processor.guardedFixed_eq bounded addressed (fun _ _ same => by cases same)
      simp only [guardedExecute, execute, fixed, bind_ok, pure_eq]

end Processor

namespace Machine

/-- Whatever has been done to a new machine, it is within its bounds: and there the fetch of an
instruction and the execution of any word, the one in memory among them, pass every check. -/
theorem guarded_performAll (interval : Nat) (seed : UInt64) (now : Int)
    (history : List Operation) :
    let machine := (create interval seed now).performAll history
    machine.Bounded ∧
      machine.processor.guardedOpcode = .ok machine.processor.opcode ∧
      ∀ word : UInt16,
        machine.processor.guardedExecute machine.random (Opcode.decode ⟨word⟩) =
          .ok (machine.processor.execute machine.random (Opcode.decode ⟨word⟩)) := by
  have bounded := bounded_performAll interval seed now history
  refine ⟨bounded, Processor.guardedOpcode_eq _, fun word => ?_⟩
  exact Processor.guardedExecute_eq _ bounded.processor _ (Opcode.addressed_decode ⟨word⟩)

end Machine
end Chip8
