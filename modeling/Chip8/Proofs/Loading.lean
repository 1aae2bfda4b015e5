import Chip8.Proofs.History

/-!
# Loading and reloading

A load keeps the keys, the font, the random number generator and the interval of the clock, and
makes everything else from the program and the time.  So nothing else of what a machine went
through is left after a load.  The retained program changes with loads only, and that is why a
reload is the load of the same program over again.
-/

namespace Chip8
namespace Machine

/-- What a load leaves: what it keeps of the machine before, what it makes of the program, and
everything else as in a machine that has just been made. -/
structure Restarted (before : Machine) (bytes : Array UInt8) (now : Int) (after : Machine) :
    Prop where
  /-- The glyphs of the font lie at the bottom of memory. -/
  glyphs : ∀ offset : Fin 80, after.processor.memory.read offset.val = before.font[offset]
  /-- The program lies where programs begin, as much of it as fits. -/
  placed : ∀ offset < min bytes.size 3584,
    after.processor.memory.read (0x200 + offset) = bytes[offset]?.getD 0
  /-- There is nothing between the glyphs and the program. -/
  between : ∀ address, 80 ≤ address → address < 0x200 → after.processor.memory.read address = 0
  /-- There is nothing above the program. -/
  above : ∀ address, 0x200 + min bytes.size 3584 ≤ address → address < 4096 →
    after.processor.memory.read address = 0
  registers : ∀ x, after.processor.register x = 0
  index : after.processor.index = 0
  pc : after.processor.pc = 0x200
  stack : after.processor.stack = Vector.replicate 16 0
  sp : after.processor.sp = 0
  delayTimer : after.processor.delayTimer = 0
  soundTimer : after.processor.soundTimer = 0
  /-- The buzzer is taken to be off. -/
  buzzing : after.processor.buzzing = false
  display : after.processor.display = .blank
  /-- The display is to be presented. -/
  repaint : after.processor.repaint = true
  fault : after.processor.fault = none
  unknownCount : after.unknownCount = 0
  /-- The clock starts afresh with the interval it had. -/
  clock : after.clock = ⟨now, before.clock.interval⟩
  /-- The clock of the timers starts afresh. -/
  timer : after.timer = .timer now
  /-- As much of the program as fits is retained. -/
  program : after.program = bytes.take 3584
  /-- The keys belong to the device. -/
  keypad : after.processor.keypad = before.processor.keypad
  font : after.font = before.font
  /-- The generator goes on. -/
  random : after.random = before.random

/-! ### What only loads change -/

/-- The pace of the timers and the retained program are out of reach of everything but a load, and
a load keeps the pace and cuts the program. -/
theorem stable_of_retained (property : Nat → Array UInt8 → Prop)
    (cut : ∀ interval program, property interval program →
      property interval (program.take programCapacity)) :
    Stable fun machine => property machine.timer.interval machine.program where
  reload _ _ held := cut _ _ held
  font _ _ held := held
  keypad _ _ held := held
  register _ _ _ held := held
  pixel _ _ _ _ held := held
  tick machine now held := by
    rw [tick]
    split
    · exact held
    · exact held
  cycle _ held := held
  clocks _ _ held := held
  shown _ _ _ held := held
  silenced _ held := held

theorem Reachable.timer {machine : Machine} (reachable : machine.Reachable) :
    machine.timer.interval = intervalOfFrequency timerFrequency :=
  (stable_of_retained (fun interval _ => interval = intervalOfFrequency timerFrequency)
    fun _ _ same => same).of_reachable (fun _ _ _ => rfl) (fun _ _ _ same => same) reachable

/-! ### What a load makes -/

theorem take_capacity_idem (bytes : Array UInt8) :
    (bytes.take programCapacity).take programCapacity = bytes.take programCapacity := by
  simp

theorem load_take (machine : Machine) (bytes : Array UInt8) (now : Int) :
    machine.load (bytes.take programCapacity) now = machine.load bytes now := by
  simp only [load, take_capacity_idem]

theorem load_eq_load {machine other : Machine} (bytes : Array UInt8) (now : Int)
    (font : machine.font = other.font)
    (keypad : machine.processor.keypad = other.processor.keypad)
    (random : machine.random = other.random)
    (clock : machine.clock.interval = other.clock.interval)
    (timer : machine.timer.interval = other.timer.interval) :
    machine.load bytes now = other.load bytes now := by
  simp only [load, resetClocks, Clock.reset, font, keypad, random, clock, timer]

theorem read_load (machine : Machine) (bytes : Array UInt8) (now : Int) {address : Nat}
    (inMemory : address < 4096) :
    (machine.load bytes now).processor.memory.read address =
      if inFont : address < 80 then machine.font[address]
      else if address < 0x200 then 0
      else if address - 0x200 < min bytes.size 3584 then bytes[address - 0x200]?.getD 0
      else 0 := by
  have read : (machine.load bytes now).processor.memory.read address =
      (Memory.image machine.font (bytes.take programCapacity)).read address := rfl
  have taken : (bytes.take programCapacity)[address - 0x200]?.getD 0 =
      if address - 0x200 < min bytes.size 3584 then bytes[address - 0x200]?.getD 0 else 0 := by
    simp only [Array.take_eq_extract, Array.getElem?_extract, programCapacity, Nat.sub_zero,
      Nat.zero_add, Nat.min_comm 3584]
    split <;> rfl
  simp only [read, Memory.read_image, Nat.mod_eq_of_lt inMemory, taken]

theorem read_load_getD (machine : Machine) (bytes : Array UInt8) (now : Int) {offset : Nat}
    (inMemory : offset < 3584) :
    (machine.load bytes now).processor.memory.read (0x200 + offset) = bytes[offset]?.getD 0 := by
  rw [read_load machine bytes now (by omega), dif_neg (by omega), if_neg (by omega),
    Nat.add_sub_cancel_left, ite_eq_left_iff]
  intro beyond
  rw [Array.getElem?_eq_none (by omega)]
  rfl

theorem read_load_getElem (machine : Machine) {program : Array UInt8} (now : Int) {offset : Nat}
    (fits : program.size ≤ 3584) (inProgram : offset < program.size) :
    (machine.load program now).processor.memory.read (0x200 + offset) = program[offset] := by
  rw [read_load_getD machine program now (by omega), Array.getElem?_eq_getElem inProgram]
  rfl

/-- The word at the program counter is a word of the program, as long as the memory is as it was
loaded. -/
theorem opcode_of_loaded (machine : Machine) (program : Array UInt8) (now : Int) (offset : Nat)
    {processor : Processor}
    (memory : processor.memory = (machine.load program now).processor.memory)
    (pc : processor.pc.toNat = 0x200 + offset) (fits : program.size ≤ 3584)
    (inProgram : offset + 1 < program.size) :
    processor.opcode = .ofBytes program[offset] program[offset + 1] := by
  rw [Processor.opcode, memory, pc, Nat.add_assoc, machine.read_load_getElem now fits inProgram,
    machine.read_load_getElem now fits (Nat.lt_of_succ_lt inProgram)]

/-- The first instruction after a load is the first word of the program. -/
theorem instruction_load (machine : Machine) (bytes : Array UInt8) (now : Int) :
    (machine.load bytes now).processor.opcode.decode =
      (Opcode.ofBytes (bytes[0]?.getD 0) (bytes[1]?.getD 0)).decode := by
  have pc : (machine.load bytes now).processor.pc.toNat = 0x200 := rfl
  rw [Processor.opcode, pc, ← machine.read_load_getD bytes now (show 0 < 3584 by decide),
    ← machine.read_load_getD bytes now (show 1 < 3584 by decide)]

theorem restarted_load {machine : Machine} (reachable : machine.Reachable)
    (bytes : Array UInt8) (now : Int) : machine.Restarted bytes now (machine.load bytes now) where
  glyphs offset := by
    rw [read_load machine bytes now (by omega), dif_pos offset.isLt]
    rfl
  placed _ placed := machine.read_load_getD bytes now (by omega)
  between address above below := by
    rw [read_load machine bytes now (by omega), dif_neg (by omega), if_pos below]
  above address above inMemory := by
    rw [read_load machine bytes now inMemory, dif_neg (by omega), if_neg (by omega),
      if_neg (by omega)]
  registers x := by simp [load, Processor.start, Processor.register]
  index := rfl
  pc := rfl
  stack := rfl
  sp := rfl
  delayTimer := rfl
  soundTimer := rfl
  buzzing := rfl
  display := rfl
  repaint := rfl
  fault := rfl
  unknownCount := rfl
  clock := rfl
  timer := congrArg (Clock.mk now) reachable.timer
  program := rfl
  keypad := rfl
  font := rfl
  random := rfl

/-! ### What a reload makes -/

/-- After a load, whatever happens but another load, a reload is the same load again. -/
theorem reload_performAll_load (machine : Machine) (bytes : Array UInt8) (now : Int)
    (history : List Operation) (keeps : ∀ operation ∈ history, operation.isLoad = false)
    (moment : Int) :
    ((machine.load bytes now).performAll history).reload moment =
      ((machine.load bytes now).performAll history).load bytes moment := by
  have stable : Stable fun machine => machine.program = bytes.take programCapacity := by
    refine stable_of_retained (fun _ program => program = bytes.take programCapacity) ?_
    intro _ program same
    rw [same, take_capacity_idem]
  have retained : ((machine.load bytes now).performAll history).program =
      bytes.take programCapacity := by
    refine stable.performAll _ history ?_ rfl
    intro operation member loads
    simp [keeps operation member] at loads
  rw [reload, retained, load_take]

/-- Loading leaks nothing and reloading restarts exactly.  Machines with any pasts that agree on
what a load keeps are the same after a load, and whatever follows it, a reload is the load again. -/
theorem load_restarts {machine other : Machine} (reachable : machine.Reachable)
    (reachable_other : other.Reachable) (font : machine.font = other.font)
    (keypad : machine.processor.keypad = other.processor.keypad)
    (random : machine.random = other.random)
    (clock : machine.clock.interval = other.clock.interval) (bytes : Array UInt8) (now : Int) :
    machine.load bytes now = other.load bytes now ∧
      machine.Restarted bytes now (machine.load bytes now) ∧
      machine.load (bytes.take 3584) now = machine.load bytes now ∧
      ∀ (history : List Operation), (∀ operation ∈ history, operation.isLoad = false) →
        ∀ moment, ((machine.load bytes now).performAll history).reload moment =
          ((machine.load bytes now).performAll history).load bytes moment := by
  have timer := reachable.timer.trans reachable_other.timer.symm
  refine ⟨load_eq_load bytes now font keypad random clock timer, restarted_load reachable bytes now,
    machine.load_take bytes now, ?_⟩
  exact machine.reload_performAll_load bytes now

/-- A machine that was loaded before and had a register written is the same after a load as one
that was not, and can be brought back to where it was. -/
theorem load_restarts_after_poke :
    let poked := ((create 0 1 0).load #[0x60, 0x05] 9).pokeRegister 3 7
    poked.load #[0x12, 0x00] 20 = (create 0 1 5).load #[0x12, 0x00] 20 ∧
      ((poked.load #[0x12, 0x00] 20).performAll [.cycle, .loadFont #[]]).reload 30 =
        ((poked.load #[0x12, 0x00] 20).performAll [.cycle, .loadFont #[]]).load
          #[0x12, 0x00] 30 := by
  have reachable := (reachable_create 0 1 0).performAll [.load #[0x60, 0x05] 9, .pokeRegister 3 7]
  have font (machine : Machine) :
      ((machine.load #[0x60, 0x05] 9).pokeRegister 3 7).font = machine.font := rfl
  have keypad (machine : Machine) :
      ((machine.load #[0x60, 0x05] 9).pokeRegister 3 7).processor.keypad =
        machine.processor.keypad := rfl
  have random (machine : Machine) :
      ((machine.load #[0x60, 0x05] 9).pokeRegister 3 7).random = machine.random := rfl
  have clock (machine : Machine) :
      ((machine.load #[0x60, 0x05] 9).pokeRegister 3 7).clock.interval =
        machine.clock.interval := rfl
  obtain ⟨same, -, -, again⟩ := load_restarts reachable (reachable_create 0 1 5) (font _)
    (keypad _) (random _) (clock _) #[0x12, 0x00] 20
  exact ⟨same, again [.cycle, .loadFont #[]] (by simp [Operation.isLoad]) 30⟩

end Machine
end Chip8
