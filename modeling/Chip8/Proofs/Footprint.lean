import Chip8.Proofs.Picture

/-!
# Footprints

What the word at the program counter may change.  The footprint of a word is read off its fields:
it says which registers, which cells of memory and which other parts of the machine executing the
word may leave different, and that nothing else is.
-/

namespace Chip8

namespace Opcode

/-- Executing the word may change the register.  Words that write a result and a flag may change
both, whichever registers they name. -/
inductive Writes (op : Opcode) (keypad : Keypad) : Register → Prop where
  /-- `6xkk`, `7xkk` and `Cxkk`. -/
  | byte (family : op.family = 0x6 ∨ op.family = 0x7 ∨ op.family = 0xC) : Writes op keypad op.x
  /-- `8xy0` to `8xy3`. -/
  | logic (family : op.family = 0x8) (last : op.n ≤ 0x3) : Writes op keypad op.x
  /-- The result of `8xy4` to `8xy7` and of `8xyE`. -/
  | result (family : op.family = 0x8) (last : 0x4 ≤ op.n ∧ op.n ≤ 0x7 ∨ op.n = 0xE) :
      Writes op keypad op.x
  /-- The flag of `8xy4` to `8xy7` and of `8xyE`. -/
  | flag (family : op.family = 0x8) (last : 0x4 ≤ op.n ∧ op.n ≤ 0x7 ∨ op.n = 0xE) :
      Writes op keypad flagRegister
  /-- `Dxyn`. -/
  | collision (family : op.family = 0xD) : Writes op keypad flagRegister
  /-- `Fx07`. -/
  | delay (family : op.family = 0xF) (byte : op.kk = 0x07) : Writes op keypad op.x
  /-- `Fx0A`, once a key is down. -/
  | key (family : op.family = 0xF) (byte : op.kk = 0x0A) (down : keypad.anyDown = true) :
      Writes op keypad op.x
  /-- `Fx1E`. -/
  | carry (family : op.family = 0xF) (byte : op.kk = 0x1E) : Writes op keypad flagRegister
  /-- `Fx65`. -/
  | load (family : op.family = 0xF) (byte : op.kk = 0x65) {register : Register}
      (upTo : register ≤ op.x) : Writes op keypad register

/-- Executing the word may change the cell of memory. -/
inductive Stores (op : Opcode) (index : UInt16) : Fin 4096 → Prop where
  /-- `Fx33`. -/
  | decimal (family : op.family = 0xF) (byte : op.kk = 0x33) {offset : Nat} (upTo : offset ≤ 2) :
      Stores op index (Memory.wrap (index.toNat + offset))
  /-- `Fx55`. -/
  | registers (family : op.family = 0xF) (byte : op.kk = 0x55) {offset : Nat}
      (upTo : offset ≤ op.x.val) : Stores op index (Memory.wrap (index.toNat + offset))

end Opcode

/-! ### Memory and keys -/

namespace Memory

/-- Writing bytes changes cells from the address on, one for each byte. -/
theorem exists_offset_of_read_writeAll_ne {memory : Memory} {address other : Nat}
    {bytes : List UInt8}
    (changed : (memory.writeAll address bytes).read other ≠ memory.read other) :
    ∃ offset < bytes.length, wrap other = wrap (address + offset) := by
  induction bytes generalizing memory address with
  | nil => exact absurd rfl changed
  | cons byte bytes induction =>
      by_cases here : wrap other = wrap address
      · exact ⟨0, Nat.succ_pos _, here⟩
      · have kept : (memory.write address byte).read other = memory.read other := by
          rw [read_write, if_neg here]
        rw [writeAll, ← kept] at changed
        obtain ⟨offset, offset_lt, same⟩ := induction changed
        refine ⟨offset + 1, Nat.succ_lt_succ offset_lt, ?_⟩
        rw [same, Nat.add_right_comm, Nat.add_assoc]

end Memory

namespace Keypad

theorem anyDown_of_lowest? {keypad : Keypad} {key : Key} (lowest : keypad.lowest? = some key) :
    keypad.anyDown = true := by
  have down := List.find?_some lowest
  rw [anyDown, bne_iff_ne]
  intro none_down
  simp [none_down] at down

end Keypad

/-! ### Instructions -/

namespace Processor

variable {processor : Processor} {op : Opcode} {instruction : Instruction}

theorem eq_of_setRegister_ne {x register : Register} {value : UInt8}
    (changed : (processor.setRegister x value).register register ≠ processor.register register) :
    register = x := by
  rw [register_setRegister] at changed
  by_cases same : register = x
  · exact same
  · exact absurd (if_neg same) changed

theorem eq_of_setFlagged_ne {x register : Register} {flag value : UInt8}
    (changed : (processor.setFlagged flag x value).register register ≠
      processor.register register) :
    register = x ∨ register = flagRegister := by
  by_cases same : register = x
  · exact .inl same
  · rw [setFlagged, register_setRegister, if_neg same] at changed
    exact .inr (eq_of_setRegister_ne changed)

theorem writes_of_register_ne (random : Generator) (denotes : op.Denotes instruction)
    {register : Register}
    (changed : (processor.execute random instruction).processor.register register ≠
      processor.register register) :
    op.Writes processor.keypad register := by
  cases instruction with
  | setByte x byte =>
      obtain ⟨family, rfl, -⟩ := denotes
      obtain rfl := eq_of_setRegister_ne changed
      exact .byte (.inl family)
  | addByte x byte =>
      obtain ⟨family, rfl, -⟩ := denotes
      obtain rfl := eq_of_setRegister_ne changed
      exact .byte (.inr (.inl family))
  | random x mask =>
      obtain ⟨family, rfl, -⟩ := denotes
      obtain rfl := eq_of_setRegister_ne changed
      exact .byte (.inr (.inr family))
  | copy x y | or x y | and x y | xor x y =>
      obtain ⟨family, last, rfl, -⟩ := denotes
      obtain rfl := eq_of_setRegister_ne changed
      exact .logic family (last.trans_le (by decide))
  | add x y | subtract x y | subtractFrom x y =>
      obtain ⟨family, last, rfl, -⟩ := denotes
      have selected : 0x4 ≤ op.n ∧ op.n ≤ 0x7 ∨ op.n = 0xE := by
        rw [last]
        decide
      rcases eq_of_setFlagged_ne changed with rfl | rfl
      · exact .result family selected
      · exact .flag family selected
  | shiftRight x | shiftLeft x =>
      obtain ⟨family, last, rfl⟩ := denotes
      have selected : 0x4 ≤ op.n ∧ op.n ≤ 0x7 ∨ op.n = 0xE := by
        rw [last]
        decide
      rcases eq_of_setFlagged_ne changed with rfl | rfl
      · exact .result family selected
      · exact .flag family selected
  | draw x y rows =>
      obtain rfl := eq_of_setRegister_ne changed
      exact .collision denotes.1
  | addIndex x =>
      obtain rfl := eq_of_setRegister_ne changed
      exact .carry denotes.1 denotes.2.1
  | readDelay x =>
      obtain ⟨family, byte, rfl⟩ := denotes
      obtain rfl := eq_of_setRegister_ne changed
      exact .delay family byte
  | awaitKey x =>
      obtain ⟨family, byte, rfl⟩ := denotes
      simp only [execute, executeFixed] at changed
      cases lowest : processor.keypad.lowest? with
      | none =>
          rw [lowest] at changed
          exact absurd rfl changed
      | some key =>
          rw [lowest] at changed
          obtain rfl := eq_of_setRegister_ne changed
          exact .key family byte (Keypad.anyDown_of_lowest? lowest)
  | loadRegisters x =>
      obtain ⟨family, byte, rfl⟩ := denotes
      by_cases upTo : register ≤ op.x
      · exact .load family byte upTo
      · refine absurd ?_ changed
        simp [execute, executeFixed, Processor.loadRegisters, Processor.register, upTo]
  | ret =>
      obtain ⟨sp, fault, after⟩ := processor.exists_execute_ret random
      rw [after] at changed
      exact absurd rfl changed
  | call address =>
      obtain ⟨sp, stack, fault, after⟩ := processor.exists_execute_call random address
      rw [after] at changed
      exact absurd rfl changed
  | _ => exact absurd rfl changed

theorem stores_of_read_ne (random : Generator) (denotes : op.Denotes instruction)
    {address : Nat}
    (changed : (processor.execute random instruction).processor.memory.read address ≠
      processor.memory.read address) :
    op.Stores processor.index (Memory.wrap address) := by
  cases instruction with
  | storeDecimal x =>
      obtain ⟨family, byte, -⟩ := denotes
      obtain ⟨offset, offset_lt, same⟩ := Memory.exists_offset_of_read_writeAll_ne changed
      rw [same]
      exact .decimal family byte (Nat.le_of_lt_succ offset_lt)
  | storeRegisters x =>
      obtain ⟨family, byte, rfl⟩ := denotes
      obtain ⟨offset, offset_lt, same⟩ := Memory.exists_offset_of_read_writeAll_ne changed
      rw [same]
      refine .registers family byte (Nat.le_of_lt_succ ?_)
      exact Nat.lt_of_lt_of_le offset_lt (List.length_take_le _ _)
  | ret =>
      obtain ⟨sp, fault, after⟩ := processor.exists_execute_ret random
      rw [after] at changed
      exact absurd rfl changed
  | call address =>
      obtain ⟨sp, stack, fault, after⟩ := processor.exists_execute_call random address
      rw [after] at changed
      exact absurd rfl changed
  | awaitKey x =>
      simp only [execute, executeFixed] at changed
      split at changed <;> exact absurd rfl changed
  -- the loaded values are kept folded, which `rfl` would compute
  | loadRegisters x => simp [execute, executeFixed, Processor.loadRegisters] at changed
  | _ => exact absurd rfl changed

theorem family_of_random_ne {random : Generator} (denotes : op.Denotes instruction)
    (changed : (processor.execute random instruction).random ≠ random) : op.family = 0xC := by
  cases instruction with
  | random x mask => exact denotes.1
  | _ => exact absurd rfl changed

theorem directive_eq_passOver_iff (random : Generator) (denotes : op.Denotes instruction) :
    (processor.execute random instruction).directive = .passOver ↔ ¬op.Known := by
  have skips (condition : Bool) : Directive.skipWhen condition ≠ .passOver := by
    cases condition <;> simp [Directive.skipWhen]
  have known (other : ∀ word, instruction ≠ .unknown word)
      (onward : (processor.execute random instruction).directive ≠ .passOver) :
      (processor.execute random instruction).directive = .passOver ↔ ¬op.Known :=
    iff_of_false onward (not_not_intro (Opcode.known_of_denotes denotes other))
  cases instruction with
  | unknown word => exact ⟨fun _ => denotes.1, fun _ => rfl⟩
  | skipIfByte | skipUnlessByte | skipIfEqual | skipUnlessEqual | skipIfPressed
  | skipUnlessPressed => exact known (by simp) (skips _)
  | ret =>
      refine known (by simp) ?_
      rw [directive_ret]
      split <;> simp
  | call address =>
      refine known (by simp) ?_
      rw [directive_call]
      split <;> simp
  | awaitKey x =>
      refine known (by simp) ?_
      simp only [execute, executeFixed]
      split <;> simp
  | _ => exact known (by simp) (by simp [execute, executeFixed])

/-- The words of two patterns paint. -/
theorem paints_iff (denotes : op.Denotes instruction) :
    instruction.paints = true ↔ op.word = 0x00E0 ∨ op.family = 0xD := by
  constructor
  · intro paints
    cases instruction with
    | clear => exact .inl denotes
    | draw x y rows => exact .inr denotes.1
    | _ => exact nomatch paints
  · rintro (word | family)
    · obtain rfl : instruction = .clear := denotes.unique word
      rfl
    · obtain rfl : instruction = .draw op.x op.y op.n := denotes.unique ⟨family, rfl, rfl, rfl⟩
      rfl

theorem sp_execute (random : Generator) (denotes : op.Denotes instruction) :
    (processor.execute random instruction).processor.sp =
      if op.family = 0x2 ∧ processor.sp < 16 then processor.sp + 1
      else if op.word = 0x00EE ∧ 0 < processor.sp then processor.sp - 1
      else processor.sp := by
  have law := (processor.executed_execute random instruction).sp
  by_cases calls : op.family = 0x2
  · -- a word that calls does not return as well, so only the first condition can hold
    obtain rfl : instruction = .call op.nnn := denotes.unique ⟨calls, rfl⟩
    have no_return : op.word ≠ 0x00EE := by
      intro word
      have same : Instruction.call op.nnn = .ret := denotes.unique word
      exact nomatch same
    simp only [law, calls, no_return, true_and, false_and, if_false]
    split <;> split <;> omega
  · by_cases returns : op.word = 0x00EE
    · obtain rfl : instruction = .ret := denotes.unique returns
      simp only [law, calls, returns, true_and, false_and, if_false]
      split <;> omega
    · simp only [calls, returns, false_and, if_false]
      cases instruction with
      | call address => exact absurd denotes.1 calls
      | ret => exact absurd denotes returns
      | _ => exact law

/-- What a word may leave different of a processor, apart from the program counter. -/
structure Footprint (before : Processor) (op : Opcode) (after : Processor) : Prop where
  registers : ∀ register, after.register register ≠ before.register register →
    op.Writes before.keypad register
  /-- `Annn`, `Fx1E` and `Fx29` set the index register. -/
  index : after.index ≠ before.index →
    op.family = 0xA ∨ op.family = 0xF ∧ (op.kk = 0x1E ∨ op.kk = 0x29)
  memory : ∀ address, after.memory.read address ≠ before.memory.read address →
    op.Stores before.index (Memory.wrap address)
  /-- `00E0` and `Dxyn` paint. -/
  display : after.display ≠ before.display → op.word = 0x00E0 ∨ op.family = 0xD
  repaint : after.repaint ≠ before.repaint → op.word = 0x00E0 ∨ op.family = 0xD
  /-- `2nnn` writes the first free slot, if there is one. -/
  stack : ∀ slot : Fin 16, after.stack.get slot ≠ before.stack.get slot →
    op.family = 0x2 ∧ slot.val = before.sp
  /-- `2nnn` goes one level deeper and `00EE` one level up, unless they fail. -/
  sp : after.sp =
    if op.family = 0x2 ∧ before.sp < 16 then before.sp + 1
    else if op.word = 0x00EE ∧ 0 < before.sp then before.sp - 1
    else before.sp
  /-- `Fx15` sets the delay timer. -/
  delayTimer : after.delayTimer ≠ before.delayTimer → op.family = 0xF ∧ op.kk = 0x15
  /-- `Fx18` sets the sound timer. -/
  soundTimer : after.soundTimer ≠ before.soundTimer → op.family = 0xF ∧ op.kk = 0x18
  /-- `2nnn` fails without a free slot and `00EE` without a slot in use. -/
  fault : after.fault ≠ before.fault →
    op.family = 0x2 ∧ 16 ≤ before.sp ∨ op.word = 0x00EE ∧ before.sp = 0
  keypad : after.keypad = before.keypad
  buzzing : after.buzzing = before.buzzing

theorem footprint_execute (processor : Processor) (random : Generator)
    (denotes : op.Denotes instruction) :
    processor.Footprint op (processor.execute random instruction).processor where
  registers _ changed := writes_of_register_ne random denotes changed
  index changed := by
    have law := (processor.executed_execute random instruction).index
    cases instruction with
    | setIndex address => exact .inl denotes.1
    | addIndex x => exact .inr ⟨denotes.1, .inl denotes.2.1⟩
    | pointGlyph x => exact .inr ⟨denotes.1, .inr denotes.2.1⟩
    | _ => exact absurd law changed
  memory _ changed := stores_of_read_ne random denotes changed
  display changed := by
    apply (paints_iff denotes).mp
    by_contra leaves
    exact changed (processor.display_execute random (Bool.eq_false_of_not_eq_true leaves))
  repaint changed := by
    apply (paints_iff denotes).mp
    by_contra leaves
    rw [processor.repaint_execute random, Bool.eq_false_of_not_eq_true leaves] at changed
    exact changed (Bool.or_false _)
  stack slot changed := by
    have law := (processor.executed_execute random instruction).stack
    rw [law] at changed
    cases instruction with
    | call address =>
        refine ⟨denotes.1, ?_⟩
        by_contra apart
        exact changed (Vector.getElem_setIfInBounds_ne slot.isLt (Ne.symm apart))
    | _ => exact absurd rfl changed
  sp := sp_execute random denotes
  delayTimer changed := by
    have law : (processor.execute random instruction).processor.delayTimer =
        (processor.periphery.after processor instruction).delayTimer :=
      congrArg Periphery.delayTimer (processor.periphery_execute random instruction)
    cases instruction with
    | setDelay x => exact ⟨denotes.1, denotes.2.1⟩
    | _ => exact absurd law changed
  soundTimer changed := by
    have law : (processor.execute random instruction).processor.soundTimer =
        (processor.periphery.after processor instruction).soundTimer :=
      congrArg Periphery.soundTimer (processor.periphery_execute random instruction)
    cases instruction with
    | setSound x => exact ⟨denotes.1, denotes.2.1⟩
    | _ => exact absurd law changed
  fault changed := by
    have law := (processor.executed_execute random instruction).fault
    cases instruction with
    | ret =>
        refine .inr ⟨denotes, ?_⟩
        by_contra room
        exact changed (law.trans (if_neg room))
    | call address =>
        refine .inl ⟨denotes.1, ?_⟩
        by_contra room
        exact changed (law.trans (if_neg room))
    | _ => exact absurd law changed
  keypad := (processor.executed_execute random instruction).keypad
  buzzing := (processor.executed_execute random instruction).buzzing

end Processor

namespace Machine

/-- What executing the word at the program counter may leave different, apart from the program
counter. -/
structure Footprint (before after : Machine) : Prop where
  processor : before.processor.Footprint before.processor.opcode after.processor
  /-- `Cxkk` takes from the generator. -/
  random : after.random ≠ before.random → before.processor.opcode.family = 0xC
  /-- A word that matches no pattern is counted. -/
  unknownCount : after.unknownCount =
    if before.processor.opcode.Known then before.unknownCount else before.unknownCount + 1
  font : after.font = before.font
  program : after.program = before.program
  clock : after.clock = before.clock
  timer : after.timer = before.timer

/-- Whatever word comes up, executing it stays within its footprint. -/
theorem cycle_footprint (machine : Machine) : machine.Footprint machine.cycle.1 where
  processor := by
    have law := machine.processor.footprint_execute machine.random
      machine.processor.opcode.denotes_decode
    exact { law with }
  random changed :=
    Processor.family_of_random_ne machine.processor.opcode.denotes_decode changed
  unknownCount := by
    have passes : machine.cycle.2 = .passOver ↔ ¬machine.processor.opcode.Known :=
      Processor.directive_eq_passOver_iff machine.random machine.processor.opcode.denotes_decode
    by_cases known : machine.processor.opcode.Known
    · rw [if_pos known]
      exact if_neg fun directive => passes.mp directive known
    · rw [if_neg known]
      exact if_pos (passes.mpr known)
  font := rfl
  program := rfl
  clock := rfl
  timer := rfl

end Machine
end Chip8
