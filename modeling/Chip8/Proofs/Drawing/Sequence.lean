import Chip8.Proofs.Drawing

/-!
# Sequences of draws

A draw switches over the pixels that its sprite covers.  In a sequence of draws from one memory a
pixel is switched over as often as it is covered, and only the parity of that number is left in the
end.  So the order of the draws makes no difference to the picture, and two equal draws cancel,
wherever they stand in the sequence.
-/

namespace Chip8

/-- Where a sprite is drawn. -/
structure Placement where
  /-- Address of its first row, which `I` holds. -/
  index : UInt16
  /-- Column of its leftmost pixels, which `Vx` holds. -/
  column : UInt8
  /-- Row of its topmost pixels, which `Vy` holds. -/
  row : UInt8
  /-- Number of its rows. -/
  rows : Fin 16
deriving DecidableEq, Repr

/-- Whether a sprite that is drawn in its place covers a pixel. -/
def Placement.covers (placement : Placement) (memory : Memory) (column : Fin 64) (row : Fin 32) :
    Bool :=
  Sprite.covers memory ⟨placement.index.toNat, placement.rows.val⟩ placement.column.toNat
    placement.row.toNat column row

namespace Display

theorem eq_of_get {one other : Display}
    (same : ∀ (column : Fin 64) (row : Fin 32),
      one.get (pixelAt column.val row.val) = other.get (pixelAt column.val row.val)) :
    one = other := by
  obtain ⟨one⟩ := one
  obtain ⟨other⟩ := other
  congr 1
  ext place place_lt
  obtain ⟨column, row, pixel⟩ := exists_pixelAt ⟨place, place_lt⟩
  have equal := same column row
  rwa [← pixel] at equal

end Display

namespace Processor

/-- A processor that is set to draw a sprite in its place executes `Dxyn`, and the program counter
moves on. -/
inductive Draws (ready : Processor) (placement : Placement) : Processor → Prop where
  | intro {op : Opcode} {x y : Register} (random : Generator) (pc : UInt16)
      (word : op.word.toNat = 0xD000 + 0x100 * x.val + 0x10 * y.val + placement.rows.val)
      (x_ne : x ≠ flagRegister) (y_ne : y ≠ flagRegister)
      (index : ready.index = placement.index) (column : ready.register x = placement.column)
      (row : ready.register y = placement.row) :
      Draws ready placement { (ready.execute random op.decode).processor with pc }

/-- Sprites are drawn one after the other, each from a processor that is made ready for it.
Whatever makes it ready leaves the memory and the display alone. -/
inductive DrawsAll : Processor → List Placement → Processor → Prop where
  | nil (processor : Processor) : DrawsAll processor [] processor
  | cons {before ready drawn after : Processor} {placement : Placement} {others : List Placement}
      (memory : ready.memory = before.memory) (display : ready.display = before.display)
      (draws : ready.Draws placement drawn) (later : DrawsAll drawn others after) :
      DrawsAll before (placement :: others) after

variable {before ready drawn after : Processor} {placement : Placement}

namespace Draws

theorem exists_eq_drawSprite (draws : ready.Draws placement drawn) :
    ∃ x y pc, ready.index = placement.index ∧ ready.register x = placement.column ∧
      ready.register y = placement.row ∧
      drawn = { ready.drawSprite x y placement.rows.val with pc } := by
  obtain ⟨random, pc, word, -, -, index, column, row⟩ := draws
  refine ⟨_, _, pc, index, column, row, ?_⟩
  rw [Opcode.decode_draw word]
  rfl

theorem memory_eq (draws : ready.Draws placement drawn) : drawn.memory = ready.memory := by
  obtain ⟨x, y, pc, -, -, -, rfl⟩ := draws.exists_eq_drawSprite
  rfl

theorem get_eq (draws : ready.Draws placement drawn) (column : Fin 64) (row : Fin 32) :
    drawn.display.get (Display.pixelAt column.val row.val) =
      (ready.display.get (Display.pixelAt column.val row.val) ^^
        placement.covers ready.memory column row) := by
  obtain ⟨x, y, pc, index, at_column, at_row, rfl⟩ := draws.exists_eq_drawSprite
  rw [Placement.covers, ← index, ← at_column, ← at_row]
  exact ready.get_drawSprite x y placement.rows column row

theorem flag_eq (draws : ready.Draws placement drawn) :
    drawn.register flagRegister =
      if ∃ (column : Fin 64) (row : Fin 32),
        ready.display.get (Display.pixelAt column.val row.val) = true ∧
          placement.covers ready.memory column row = true
      then 1 else 0 := by
  obtain ⟨x, y, pc, index, at_column, at_row, rfl⟩ := draws.exists_eq_drawSprite
  simp only [Placement.covers, ← index, ← at_column, ← at_row]
  exact ready.flag_drawSprite x y placement.rows

theorem stays (draws : ready.Draws placement drawn) :
    drawn.index = ready.index ∧ ∀ x ≠ flagRegister, drawn.register x = ready.register x := by
  obtain ⟨x, y, pc, -, -, -, rfl⟩ := draws.exists_eq_drawSprite
  refine ⟨rfl, fun other apart => ?_⟩
  exact (register_setRegister _ _ _ _).trans (if_neg apart)

end Draws

/-- A processor can be made ready for any draw, and then execute it. -/
theorem exists_draws (before : Processor) (placement : Placement) :
    ∃ ready drawn : Processor, ready.memory = before.memory ∧ ready.display = before.display ∧
      ready.Draws placement drawn := by
  let ready := { (before.setRegister 0 placement.column).setRegister 1 placement.row with
    index := placement.index }
  have column : ready.register 0 = placement.column := by
    have apart : ready.register 0 = (before.setRegister 0 placement.column).register 0 :=
      (register_setRegister _ _ _ _).trans (if_neg (by decide))
    exact apart.trans ((register_setRegister _ _ _ _).trans (if_pos rfl))
  have row : ready.register 1 = placement.row :=
    (register_setRegister _ _ _ _).trans (if_pos rfl)
  have word : (UInt16.ofNat (0xD010 + placement.rows.val)).toNat =
      0xD000 + 0x100 * (0 : Register).val + 0x10 * (1 : Register).val + placement.rows.val := by
    have rows_lt := placement.rows.isLt
    simp only [UInt16.toNat_ofNat', Fin.val_zero, Fin.val_one]
    omega
  let op : Opcode := ⟨UInt16.ofNat (0xD010 + placement.rows.val)⟩
  have draws : ready.Draws placement _ :=
    @Draws.intro _ _ op 0 1 (.ofSeed 0) 0 word (by decide) (by decide) rfl column row
  exact ⟨ready, _, rfl, rfl, draws⟩

namespace DrawsAll

variable {placements others : List Placement}

theorem total (before : Processor) (placements : List Placement) :
    ∃ after, before.DrawsAll placements after := by
  induction placements generalizing before with
  | nil => exact ⟨before, .nil before⟩
  | cons placement placements induction =>
      obtain ⟨ready, drawn, memory, display, draws⟩ := before.exists_draws placement
      obtain ⟨after, later⟩ := induction drawn
      exact ⟨after, .cons memory display draws later⟩

theorem append (drawn : before.DrawsAll placements ready)
    (drawn_later : ready.DrawsAll others after) : before.DrawsAll (placements ++ others) after := by
  induction drawn with
  | nil processor => exact drawn_later
  | cons memory display draws later induction =>
      exact .cons memory display draws (induction drawn_later)

/-- Only the parity of the number of times that a pixel was covered is left of a sequence. -/
theorem get_eq (drawn : before.DrawsAll placements after) (column : Fin 64) (row : Fin 32) :
    after.display.get (Display.pixelAt column.val row.val) =
      (before.display.get (Display.pixelAt column.val row.val) ^^
        decide (placements.countP (·.covers before.memory column row) % 2 = 1)) := by
  induction drawn with
  | nil processor => simp
  | @cons before ready drawn after placement placements memory display draws later induction =>
      rw [induction, draws.get_eq, draws.memory_eq, memory, display, List.countP_cons,
        Bool.xor_assoc]
      congr 1
      cases placement.covers _ column row with
      | false => simp
      | true =>
          rw [if_pos rfl, Bool.true_xor, ← decide_not, decide_eq_decide]
          omega

variable {after_other : Processor}

theorem display_eq_of_parity (drawn : before.DrawsAll placements after)
    (drawn_other : before.DrawsAll others after_other)
    (parity : ∀ (memory : Memory) (column : Fin 64) (row : Fin 32),
      placements.countP (·.covers memory column row) % 2 =
        others.countP (·.covers memory column row) % 2) :
    after.display = after_other.display := by
  apply Display.eq_of_get
  intro column row
  rw [drawn.get_eq, drawn_other.get_eq, parity]

theorem display_eq_of_perm (drawn : before.DrawsAll placements after)
    (drawn_other : before.DrawsAll others after_other) (perm : placements.Perm others) :
    after.display = after_other.display :=
  drawn.display_eq_of_parity drawn_other fun _ _ _ => by rw [perm.countP_eq]

theorem display_eq_of_pair (earlier between later : List Placement)
    (drawn : before.DrawsAll (earlier ++ placement :: between ++ placement :: later) after)
    (drawn_other : before.DrawsAll (earlier ++ between ++ later) after_other) :
    after.display = after_other.display := by
  refine drawn.display_eq_of_parity drawn_other fun memory column row => ?_
  simp only [List.countP_append, List.countP_cons]
  omega

theorem exists_draws_of_single (drawn : before.DrawsAll [placement] after) :
    ∃ ready : Processor, ready.memory = before.memory ∧ ready.display = before.display ∧
      ready.Draws placement after := by
  cases drawn with
  | cons memory display draws later =>
      cases later
      exact ⟨_, memory, display, draws⟩

/-- A draw that is repeated at once collides with what it has just drawn. -/
theorem flag_of_repeated {once twice : Processor} (first : before.DrawsAll [placement] once)
    (second : once.DrawsAll [placement] twice) :
    twice.register flagRegister =
      if ∃ (column : Fin 64) (row : Fin 32),
        placement.covers before.memory column row = true ∧
          before.display.get (Display.pixelAt column.val row.val) = false
      then 1 else 0 := by
  obtain ⟨ready, memory, display, draws⟩ := first.exists_draws_of_single
  obtain ⟨again, memory_again, display_again, draws_again⟩ := second.exists_draws_of_single
  rw [draws_again.flag_eq]
  refine if_congr (exists_congr fun column => exists_congr fun row => ?_) rfl rfl
  rw [memory_again, display_again, draws.get_eq, draws.memory_eq, memory, display]
  -- a covered pixel is on after the first draw exactly if it was off before
  cases placement.covers before.memory column row with
  | false => simp
  | true => simp

end DrawsAll

/-- Draws commute and cancel.  Whatever is to be drawn can be drawn, in any order and with any two
equal draws left out it leaves the same picture, and a draw that is repeated at once restores the
picture and reports whether it covers a pixel that was off before. -/
theorem draws_commute_and_cancel (before : Processor) :
    (∀ placements, ∃ after, before.DrawsAll placements after) ∧
    (∀ placements others after after_other, placements.Perm others →
      before.DrawsAll placements after → before.DrawsAll others after_other →
      after.display = after_other.display) ∧
    (∀ earlier placement between later after after_other,
      before.DrawsAll (earlier ++ placement :: between ++ placement :: later) after →
      before.DrawsAll (earlier ++ between ++ later) after_other →
      after.display = after_other.display) ∧
    ∀ placement once twice,
      before.DrawsAll [placement] once → once.DrawsAll [placement] twice →
      twice.display = before.display ∧
        twice.register flagRegister =
          if ∃ (column : Fin 64) (row : Fin 32),
            placement.covers before.memory column row = true ∧
              before.display.get (Display.pixelAt column.val row.val) = false
          then 1 else 0 := by
  refine ⟨DrawsAll.total before, ?_, ?_, ?_⟩
  · intro placements others after after_other perm drawn drawn_other
    exact drawn.display_eq_of_perm drawn_other perm
  · intro earlier placement between later after after_other drawn drawn_other
    exact DrawsAll.display_eq_of_pair earlier between later drawn drawn_other
  · intro placement once twice first second
    have both : before.DrawsAll [placement, placement] twice := first.append second
    exact ⟨DrawsAll.display_eq_of_pair [] [] [] both (.nil before), first.flag_of_repeated second⟩

end Processor

namespace Machine

theorem draws_cycle {machine : Machine} {x y : Register} {rows : Fin 16}
    (word : machine.processor.opcode.word.toNat =
      0xD000 + 0x100 * x.val + 0x10 * y.val + rows.val)
    (x_ne : x ≠ flagRegister) (y_ne : y ≠ flagRegister) :
    machine.processor.Draws
      ⟨machine.processor.index, machine.processor.register x, machine.processor.register y, rows⟩
      machine.cycle.1.processor :=
  .intro machine.random _ word x_ne y_ne rfl rfl rfl

theorem drawsAll_cycle_cycle {machine : Machine} {x y : Register} {rows : Fin 16}
    (word : machine.processor.opcode.word.toNat =
      0xD000 + 0x100 * x.val + 0x10 * y.val + rows.val)
    (same : machine.cycle.1.processor.opcode = machine.processor.opcode)
    (x_ne : x ≠ flagRegister) (y_ne : y ≠ flagRegister) :
    let placement := Placement.mk machine.processor.index (machine.processor.register x)
      (machine.processor.register y) rows
    machine.processor.DrawsAll [placement] machine.cycle.1.processor ∧
      machine.cycle.1.processor.DrawsAll [placement] machine.cycle.1.cycle.1.processor := by
  have word_again : machine.cycle.1.processor.opcode.word.toNat =
      0xD000 + 0x100 * x.val + 0x10 * y.val + rows.val := by rwa [same]
  have first := draws_cycle word x_ne y_ne
  have second := draws_cycle word_again x_ne y_ne
  obtain ⟨index, registers⟩ := first.stays
  rw [index, registers x x_ne, registers y y_ne] at second
  exact ⟨.cons rfl rfl first (.nil _), .cons rfl rfl second (.nil _)⟩

/-- A program that draws the glyph of zero twice in a corner. -/
def blink : Array UInt8 := #[0xD0, 0x15, 0xD0, 0x15]

theorem covers_corner {memory : Memory} (glyph : memory.read 0 = 0xF0) :
    Placement.covers ⟨0, 0, 0, 5⟩ memory 0 0 = true := by
  have bit : (memory.read 0).toNat.testBit 7 = true := by
    rw [glyph]
    decide
  exact bit

/-- A glyph that is drawn twice is gone again. -/
theorem draws_commute_and_cancel_blink :
    let machine := (create 0 1 0).load blink 0
    let twice := machine.cycle.1.cycle.1
    twice.processor.display = machine.processor.display ∧
      twice.processor.register flagRegister = 1 := by
  intro machine twice
  have first : machine.processor.opcode = ⟨0xD015⟩ :=
    ((create 0 1 0).opcode_of_loaded blink 0 0 rfl rfl (by decide) (by decide)).trans (by decide)
  have word : machine.processor.opcode.word.toNat =
      0xD000 + 0x100 * (0 : Register).val + 0x10 * (1 : Register).val + (5 : Fin 16).val := by
    rw [first]
    rfl
  have memory : machine.cycle.1.processor.memory = machine.processor.memory :=
    (draws_cycle word (by decide) (by decide)).memory_eq
  have pc : machine.cycle.1.processor.pc = (machine.processor.pc + 2) % 4096 :=
    congrArg Processor.pc (processor_cycle_of_draw (Opcode.decode_draw word))
  have second : machine.cycle.1.processor.opcode = ⟨0xD015⟩ := by
    have next : machine.cycle.1.processor.pc.toNat = 0x200 + 2 := by
      rw [pc]
      rfl
    exact ((create 0 1 0).opcode_of_loaded blink 0 2 memory next (by decide) (by decide)).trans
      (by decide)
  obtain ⟨once, again⟩ :=
    drawsAll_cycle_cycle word (second.trans first.symm) (by decide) (by decide)
  obtain ⟨-, -, -, repeated⟩ := machine.processor.draws_commute_and_cancel
  obtain ⟨restored, flag⟩ := repeated _ _ _ once again
  refine ⟨restored, flag.trans (if_pos ⟨0, 0, ?_, Display.get_blank _⟩)⟩
  have glyph : machine.processor.memory.read 0 = 0xF0 := by
    exact ((create 0 1 0).read_load blink 0 (by decide)).trans (by decide)
  have index : machine.processor.index = 0 := rfl
  have column : machine.processor.register 0 = 0 := rfl
  have row : machine.processor.register 1 = 0 := rfl
  rw [index, column, row]
  exact covers_corner glyph

end Machine
end Chip8
