import Chip8.Proofs.Encoding
import Chip8.Proofs.Frame
import Chip8.Proofs.Loading
import Mathlib.Data.List.Nodup

/-!
# Drawing sprites

A draw toggles the pixels of a sprite in place, one after the other, and notes a collision when a
pixel is on at its turn.  No two pixels of a sprite fall on the same place of the display, not even
where the sprite wraps around an edge.  So a draw has a closed form: the display is switched over
exactly where the sprite covers it, and there is a collision if the sprite covers a pixel that was
on before the draw.
-/

namespace Chip8

namespace Display

variable {display : Display} {pixels : List Pixel}

theorem pixelAt_eq_iff {column row other_column other_row : Nat} :
    pixelAt column row = pixelAt other_column other_row ↔
      column % 64 = other_column % 64 ∧ row % 32 = other_row % 32 := by
  simp only [pixelAt, Fin.mk.injEq]
  omega

theorem exists_pixelAt (pixel : Pixel) :
    ∃ (column : Fin 64) (row : Fin 32), pixel = pixelAt column.val row.val := by
  refine ⟨⟨pixel.val % 64, by omega⟩, ⟨pixel.val / 64, by omega⟩, Fin.ext ?_⟩
  simp only [pixelAt]
  omega

theorem get_toggleAll (distinct : pixels.Nodup) (pixel : Pixel) :
    (display.toggleAll pixels).1.get pixel = (display.get pixel ^^ pixels.contains pixel) := by
  induction pixels generalizing display with
  | nil => simp [toggleAll]
  | cons first rest induction =>
      obtain ⟨apart, rest_distinct⟩ := List.nodup_cons.mp distinct
      rw [toggleAll, induction rest_distinct, get_toggle]
      by_cases same : pixel = first
      · subst same
        simp [apart]
      · simp [same]

/-- No pixel has been toggled before its turn, so collisions can be told beforehand. -/
theorem toggleAll_collides_iff (distinct : pixels.Nodup) :
    (display.toggleAll pixels).2 = true ↔ ∃ pixel ∈ pixels, display.get pixel = true := by
  induction pixels generalizing display with
  | nil => simp [toggleAll]
  | cons first rest induction =>
      obtain ⟨apart, rest_distinct⟩ := List.nodup_cons.mp distinct
      have untouched : ∀ pixel ∈ rest, (display.toggle first).get pixel = display.get pixel := by
        intro pixel member
        have other : pixel ≠ first := fun same => apart (same ▸ member)
        simp [get_toggle, other]
      have later : ((display.toggle first).toggleAll rest).2 = true ↔
          ∃ pixel ∈ rest, display.get pixel = true := by
        rw [induction rest_distinct]
        exact exists_congr fun pixel => and_congr_right fun member => by rw [untouched pixel member]
      -- the pixels after the first are judged by the display as it was before the first
      rw [List.exists_mem_cons_iff, ← later]
      exact Bool.or_eq_true _ _ ▸ Iff.rfl

end Display

namespace Sprite

/-- Whether a sprite whose first pixel is drawn at a column and a row covers a pixel of the
display.  Distances to the right and downwards go round the display, and the leftmost pixel of a
row is the highest bit of its byte. -/
def covers (memory : Memory) (sprite : Sprite) (column row : Nat) (x : Fin 64) (y : Fin 32) :
    Bool :=
  let dx := ((x.val - column : Int) % 64).toNat
  let dy := ((y.val - row : Int) % 32).toNat
  dx < 8 && dy < sprite.rows && (memory.read (sprite.address + dy)).toNat.testBit (7 - dx)

variable {memory : Memory} {sprite : Sprite} {column row : Nat}

theorem mem_rowPixels_iff {index : Nat} {pixel : Pixel} :
    pixel ∈ sprite.rowPixels memory column row index ↔
      ∃ offset < 8, sprite.bit memory index offset = true ∧
        Display.pixelAt (column + offset) (row + index) = pixel := by
  simp [rowPixels]

theorem mem_pixels_iff {pixel : Pixel} :
    pixel ∈ sprite.pixels memory column row ↔
      ∃ index < sprite.rows, ∃ offset < 8, sprite.bit memory index offset = true ∧
        Display.pixelAt (column + offset) (row + index) = pixel := by
  simp only [pixels, List.mem_flatMap, List.mem_range, mem_rowPixels_iff]

theorem nodup_rowPixels (index : Nat) : (sprite.rowPixels memory column row index).Nodup := by
  rw [rowPixels, List.Nodup, List.pairwise_filterMap]
  refine List.nodup_range.imp_of_mem ?_
  intro offset other member member_other apart pixel drawn pixel_other drawn_other same
  simp only [Option.ite_none_right_eq_some, Option.some.injEq] at drawn drawn_other
  rw [List.mem_range] at member member_other
  rw [← drawn.2, ← drawn_other.2, Display.pixelAt_eq_iff] at same
  -- columns less than eight apart stay apart on a display of sixty-four
  omega

/-- A sprite that is no higher than the display does not cover a pixel twice. -/
theorem nodup_pixels (fits : sprite.rows ≤ 32) : (sprite.pixels memory column row).Nodup := by
  rw [pixels, List.nodup_flatMap]
  refine ⟨fun index _ => nodup_rowPixels index, ?_⟩
  refine List.nodup_range.imp_of_mem ?_
  intro index other member member_other apart pixel drawn drawn_other
  rw [mem_rowPixels_iff] at drawn drawn_other
  rw [List.mem_range] at member member_other
  obtain ⟨offset, -, -, rfl⟩ := drawn
  obtain ⟨offset_other, -, -, same⟩ := drawn_other
  rw [Display.pixelAt_eq_iff] at same
  omega

theorem pixelAt_mem_pixels_iff (fits : sprite.rows ≤ 32) (x : Fin 64) (y : Fin 32) :
    Display.pixelAt x.val y.val ∈ sprite.pixels memory column row ↔
      sprite.covers memory column row x y = true := by
  rw [mem_pixels_iff]
  simp only [covers, bit, Display.pixelAt_eq_iff, Bool.and_eq_true, decide_eq_true_eq]
  constructor
  · rintro ⟨index, index_lt, offset, offset_lt, set, at_column, at_row⟩
    have dx : ((x.val - column : Int) % 64).toNat = offset := by omega
    have dy : ((y.val - row : Int) % 32).toNat = index := by omega
    rw [dx, dy]
    exact ⟨⟨offset_lt, index_lt⟩, set⟩
  · rintro ⟨⟨offset_lt, index_lt⟩, set⟩
    exact ⟨_, index_lt, _, offset_lt, set, by omega, by omega⟩

end Sprite

namespace Opcode

theorem decode_draw {op : Opcode} {x y : Register} {rows : Fin 16}
    (word : op.word.toNat = 0xD000 + 0x100 * x.val + 0x10 * y.val + rows.val) :
    op.decode = .draw x y rows := by
  refine decode_eq_iff.mpr ⟨Fin.ext ?_, Fin.ext ?_, Fin.ext ?_, Fin.ext ?_⟩
  · rw [val_family, word, Fin.coe_ofNat_eq_mod]
    omega
  · simp only [Opcode.x, Fin.val_ofNat]
    omega
  · simp only [Opcode.y, Fin.val_ofNat]
    omega
  · simp only [Opcode.n, Fin.val_ofNat]
    omega

end Opcode

namespace Processor

variable (processor : Processor) (x y : Register) (rows : Fin 16)

/-- The pixels that a draw toggles in turn. -/
def spritePixels : List Pixel :=
  Sprite.pixels processor.memory ⟨processor.index.toNat, rows.val⟩
    (processor.register x).toNat (processor.register y).toNat

/-- Whether a draw covers a pixel of the display. -/
def covers (column : Fin 64) (row : Fin 32) : Bool :=
  Sprite.covers processor.memory ⟨processor.index.toNat, rows.val⟩
    (processor.register x).toNat (processor.register y).toNat column row

theorem nodup_spritePixels : (processor.spritePixels x y rows).Nodup :=
  Sprite.nodup_pixels (Nat.le_of_lt (Nat.lt_trans rows.isLt (by decide)))

theorem pixelAt_mem_spritePixels_iff (column : Fin 64) (row : Fin 32) :
    Display.pixelAt column.val row.val ∈ processor.spritePixels x y rows ↔
      processor.covers x y rows column row = true :=
  Sprite.pixelAt_mem_pixels_iff (Nat.le_of_lt (Nat.lt_trans rows.isLt (by decide))) column row

theorem get_drawSprite (column : Fin 64) (row : Fin 32) :
    (processor.drawSprite x y rows.val).display.get (Display.pixelAt column.val row.val) =
      (processor.display.get (Display.pixelAt column.val row.val) ^^
        processor.covers x y rows column row) := by
  refine (Display.get_toggleAll (processor.nodup_spritePixels x y rows) _).trans ?_
  congr 1
  rw [Bool.eq_iff_iff, List.contains_iff_mem, pixelAt_mem_spritePixels_iff]

theorem collides_iff :
    (processor.display.toggleAll (processor.spritePixels x y rows)).2 = true ↔
      ∃ (column : Fin 64) (row : Fin 32),
        processor.display.get (Display.pixelAt column.val row.val) = true ∧
          processor.covers x y rows column row = true := by
  rw [Display.toggleAll_collides_iff (processor.nodup_spritePixels x y rows)]
  constructor
  · rintro ⟨pixel, member, was_on⟩
    obtain ⟨column, row, rfl⟩ := Display.exists_pixelAt pixel
    exact ⟨column, row, was_on, (processor.pixelAt_mem_spritePixels_iff x y rows _ _).mp member⟩
  · rintro ⟨column, row, was_on, covered⟩
    exact ⟨_, (processor.pixelAt_mem_spritePixels_iff x y rows _ _).mpr covered, was_on⟩

theorem flag_drawSprite :
    (processor.drawSprite x y rows.val).register flagRegister =
      if ∃ (column : Fin 64) (row : Fin 32),
        processor.display.get (Display.pixelAt column.val row.val) = true ∧
          processor.covers x y rows column row = true
      then 1 else 0 := by
  refine (processor.register_setRegister flagRegister flagRegister _).trans ?_
  rw [if_pos rfl]
  exact if_congr (processor.collides_iff x y rows) rfl rfl

end Processor

namespace Machine

theorem processor_cycle_of_draw {machine : Machine} {x y : Register} {rows : Fin 16}
    (draws : machine.instruction = .draw x y rows) :
    machine.cycle.1.processor =
      { machine.processor.drawSprite x y rows.val with
        pc := (machine.processor.pc + 2) % 4096 } := by
  rw [processor_cycle, effect, draws]
  rfl

/-- A draw in closed form: the display is switched over where the sprite covers it, the flag tells
whether that switched off any pixel, and no pixel is toggled twice. -/
theorem draw_pointwise (machine : Machine) {x y : Register} {rows : Fin 16}
    (word : machine.processor.opcode.word.toNat =
      0xD000 + 0x100 * x.val + 0x10 * y.val + rows.val) :
    let before := machine.processor
    let after := machine.cycle.1.processor
    (∀ (column : Fin 64) (row : Fin 32),
      after.display.get (Display.pixelAt column.val row.val) =
        (before.display.get (Display.pixelAt column.val row.val) ^^
          before.covers x y rows column row)) ∧
    (after.register flagRegister =
      if ∃ (column : Fin 64) (row : Fin 32),
        before.display.get (Display.pixelAt column.val row.val) = true ∧
          before.covers x y rows column row = true
      then 1 else 0) ∧
    (before.spritePixels x y rows).Nodup := by
  intro before after
  have drawn : after = _ := processor_cycle_of_draw (Opcode.decode_draw word)
  rw [drawn]
  exact ⟨before.get_drawSprite x y rows, before.flag_drawSprite x y rows,
    before.nodup_spritePixels x y rows⟩

/-- A machine set to draw into its lower right corner, with a pixel on at the left edge. -/
def cornered (machine : Machine) : Machine :=
  ((machine.pokeRegister 0 62).pokeRegister 1 31).pokePixel 0 31 true

theorem register_cornered (machine : Machine) :
    machine.cornered.processor.register 0 = 62 ∧ machine.cornered.processor.register 1 = 31 := by
  have painted (machine : Machine) (column row : Nat) (isOn : Bool) (other : Register) :
      (machine.pokePixel column row isOn).processor.register other =
        machine.processor.register other := rfl
  simp only [cornered, painted, register_pokeRegister]
  exact ⟨rfl, rfl⟩

theorem covers_cornered {machine : Machine} (index : machine.processor.index = 0)
    (glyph : machine.processor.memory.read 0 = 0xF0) :
    machine.cornered.processor.covers 0 1 5 0 31 = true := by
  obtain ⟨column, row⟩ := machine.register_cornered
  have same_index : machine.cornered.processor.index = machine.processor.index := rfl
  have same_memory : machine.cornered.processor.memory = machine.processor.memory := rfl
  rw [Processor.covers, column, row, same_index, same_memory, index]
  have bit : (machine.processor.memory.read 0).toNat.testBit 5 = true := by
    rw [glyph]
    decide
  exact bit

/-- The glyph of zero in the lower right corner switches off a pixel at the left edge. -/
theorem draw_pointwise_corner :
    let machine := ((create 0 1 0).load #[0xD0, 0x15] 0).cornered
    machine.cycle.1.processor.display.get (Display.pixelAt 0 31) = false ∧
      machine.cycle.1.processor.register flagRegister = 1 := by
  intro machine
  have memory : machine.processor.memory = .image .standard (Array.take #[0xD0, 0x15] 3584) := rfl
  have word : machine.processor.opcode.word.toNat =
      0xD000 + 0x100 * (0 : Fin 16).val + 0x10 * (1 : Fin 16).val + (5 : Fin 16).val := by
    have high : machine.processor.memory.read 512 = 0xD0 := by simp [memory, Memory.read_image]
    have low : machine.processor.memory.read 513 = 0x15 := by simp [memory, Memory.read_image]
    have pc : machine.processor.pc.toNat = 512 := rfl
    rw [Processor.opcode, Opcode.toNat_word_ofBytes, pc, high, low]
    rfl
  have was_on : machine.processor.display.get (Display.pixelAt 0 31) = true :=
    (Display.get_set _ _ _ _).trans (if_pos rfl)
  have covered : machine.processor.covers 0 1 5 0 31 = true := by
    apply covers_cornered rfl
    have glyph : machine.processor.memory.read 0 = 0xF0 := by
      simp [memory, Memory.read_image, Font.standard]
    exact glyph
  obtain ⟨pixel, flag, -⟩ := draw_pointwise machine word
  constructor
  · refine (pixel 0 31).trans ?_
    rw [covered]
    exact congrArg (· ^^ true) was_on
  · exact flag.trans (if_pos ⟨0, 31, was_on, covered⟩)

end Machine
end Chip8
