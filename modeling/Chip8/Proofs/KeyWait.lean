import Chip8.Proofs.Time
import Chip8.Proofs.Timers

/-!
# Waiting for a key

The instruction that waits for a key comes up again and again while no key is down.  All that
happens meanwhile is what happens to the timers.  With any keys down, the next step stores the
lowest of them and goes on.
-/

namespace Chip8

theorem Opcode.decode_eq_awaitKey_iff (op : Opcode) (x : Register) :
    op.decode = .awaitKey x ↔ op.word.toNat = 0xF00A + 0x100 * x.val := by
  rw [decode_eq_iff]
  exact op.family_kk_x_iff 0xF x 0x0A

namespace Machine

/-- The machine is going to wait for a key for a register. -/
structure AwaitsKey (machine : Machine) (x : Register) : Prop where
  going : machine.processor.fault = none
  instruction : machine.instruction = .awaitKey x
  idle : machine.processor.keypad = .empty

variable {machine : Machine} {x : Register}

theorem step_of_awaitKey (now : Int) (going : machine.processor.fault = none)
    (awaits : machine.instruction = .awaitKey x) :
    machine.step now =
      ((machine.tick now).1.cycle.1, .ok (machine.tick now).1.cycle.2) := by
  have quiet : machine.raised? = none := by simp only [raised?, awaits, Processor.raised?]
  exact step_of_not_raised now going quiet

theorem cycle_of_idle (awaits : machine.AwaitsKey x) : machine.cycle = (machine, .stall) := by
  have decoded : machine.processor.opcode.decode = .awaitKey x := awaits.instruction
  have lowest : machine.processor.keypad.lowest? = none := by
    rw [awaits.idle]
    rfl
  simp only [cycle, decoded, Processor.execute, Processor.executeFixed, lowest]
  rfl

theorem AwaitsKey.ticked (awaits : machine.AwaitsKey x) (ticks : List Int) :
    (machine.ticked ticks).AwaitsKey x := ⟨awaits.going, awaits.instruction, awaits.idle⟩

theorem tick_eq_ticked (machine : Machine) (now : Int) :
    (machine.tick now).1 = machine.ticked (machine.tickTimes [now]) :=
  machine.performAll_tick [now]

/-- A step that waits is a look at the timers. -/
theorem AwaitsKey.step (awaits : machine.AwaitsKey x) (now : Int) :
    machine.step now = ((machine.tick now).1, .ok .stall) := by
  rw [step_of_awaitKey now awaits.going awaits.instruction, tick_eq_ticked,
    cycle_of_idle (awaits.ticked _)]

theorem AwaitsKey.performAll_step (awaits : machine.AwaitsKey x) (times : List Int) :
    machine.performAll (times.map .step) = machine.performAll (times.map .tick) := by
  induction times generalizing machine with
  | nil => rfl
  | cons now later induction =>
      have next : (machine.tick now).1.AwaitsKey x := by
        rw [tick_eq_ticked]
        exact awaits.ticked _
      have stepped : machine.perform (.step now) = machine.perform (.tick now) :=
        congrArg Prod.fst (awaits.step now)
      rw [List.map_cons, List.map_cons, performAll_cons, performAll_cons, stepped]
      exact induction next

theorem AwaitsKey.reports (awaits : machine.AwaitsKey x) (times : List Int) :
    machine.reports times =
      List.replicate times.length ⟨some machine.processor.opcode, .ok .stall⟩ := by
  induction times generalizing machine with
  | nil => rfl
  | cons now later induction =>
      have next : (machine.tick now).1.AwaitsKey x := by
        rw [tick_eq_ticked]
        exact awaits.ticked _
      have word : (machine.tick now).1.processor.opcode = machine.processor.opcode := by
        rw [tick_eq_ticked]
        rfl
      rw [Machine.reports, report, if_pos awaits.going, awaits.step now, induction next, word]
      rfl

theorem step_of_pressed {key : Key} (now : Int) (going : machine.processor.fault = none)
    (awaits : machine.instruction = .awaitKey x)
    (lowest : machine.processor.keypad.lowest? = some key) :
    let ticked := machine.ticked (machine.tickTimes [now])
    machine.step now =
      ({ ticked with
          processor :=
            { ticked.processor with pc := (machine.processor.pc + 2) % 4096 }.setRegister x
              key.toByte },
        .ok .next) := by
  intro ticked
  have decoded : ticked.processor.opcode.decode = .awaitKey x := awaits
  have lowest : ticked.processor.keypad.lowest? = some key := lowest
  rw [step_of_awaitKey now going awaits, tick_eq_ticked]
  simp only [cycle, show machine.ticked (machine.tickTimes [now]) = ticked from rfl, decoded,
    Processor.execute, Processor.executeFixed, lowest]
  rfl

/-- A wait for a key stalls exactly until a key is down.  Until then every step answers that it
stalled and the timers are all that changes; then the lowest key is stored. -/
theorem stalls_until_key (machine : Machine) (x : Register)
    (going : machine.processor.fault = none)
    (word : machine.processor.opcode.word.toNat = 0xF00A + 0x100 * x.val)
    (idle : machine.processor.keypad = .empty) (times : List Int) :
    let waiting := machine.performAll (times.map .step)
    machine.reports times =
        List.replicate times.length ⟨some machine.processor.opcode, .ok .stall⟩ ∧
      waiting = machine.ticked (machine.tickTimes times) ∧
      ∀ keypad : Keypad, keypad ≠ .empty → ∀ now,
        let pressed := waiting.withKeypad keypad
        let ticked := pressed.ticked (pressed.tickTimes [now])
        ∃ key : Key,
          (keypad.isDown key.toByte = true ∧
            ∀ other < key, keypad.isDown other.toByte = false) ∧
          pressed.step now =
            ({ ticked with
                processor :=
                  { ticked.processor with pc := (machine.processor.pc + 2) % 4096 }.setRegister x
                    key.toByte },
              .ok .next) := by
  intro waiting
  have awaits : machine.AwaitsKey x :=
    ⟨going, (Opcode.decode_eq_awaitKey_iff _ _).mpr word, idle⟩
  have waiting_eq : waiting = machine.ticked (machine.tickTimes times) :=
    (awaits.performAll_step times).trans (machine.performAll_tick times)
  refine ⟨awaits.reports times, waiting_eq, fun keypad pressed now => ?_⟩
  obtain ⟨key, lowest⟩ := Keypad.exists_lowest?_eq_some pressed
  rw [waiting_eq]
  refine ⟨key, (keypad.lowest?_eq_some_iff key).mp lowest, ?_⟩
  exact step_of_pressed now going awaits.instruction lowest

/-- A wait that ends between two ticks leaves the timers as it found them. -/
theorem wakes_between_ticks {keypad : Keypad} {key : Key} {pc : UInt16} {now : Int}
    (between : (machine.withKeypad keypad).tickTimes [now] = [])
    (wakes :
      let pressed := machine.withKeypad keypad
      let ticked := pressed.ticked (pressed.tickTimes [now])
      pressed.step now =
        ({ ticked with processor := { ticked.processor with pc }.setRegister x key.toByte },
          .ok .next)) :
    let woken := (machine.withKeypad keypad).step now
    woken.2 = .ok .next ∧ woken.1.processor.register x = key.toByte ∧ woken.1.processor.pc = pc ∧
      woken.1.processor.delayTimer = machine.processor.delayTimer ∧
      woken.1.processor.soundTimer = machine.processor.soundTimer := by
  simp only [between, ticked_nil] at wakes
  rw [wakes]
  refine ⟨rfl, ?_, rfl, rfl, rfl⟩
  exact (Processor.register_setRegister _ _ _ _).trans (if_pos rfl)

/-- A machine that is going to wait for a key, with both timers on. -/
def waiter : Machine :=
  let loaded := (create 0 1 0).load #[0xF1, 0x0A] 0
  { loaded with processor := { loaded.processor with delayTimer := 9, soundTimer := 1 } }

/-- A wait in which two of four steps tick, and which the key `5` ends between ticks. -/
theorem stalls_until_key_five :
    let times := [0, 20000000, 20000000, 40000000]
    let waiting := waiter.performAll (times.map .step)
    let woken := (waiting.withKeypad (Keypad.empty.set 5 true)).step 50000000
    waiter.reports times = List.replicate 4 ⟨some ⟨0xF10A⟩, .ok .stall⟩ ∧
      waiter.tickTimes times = [20000000, 40000000] ∧
      (waiting.processor.delayTimer = 7 ∧ waiting.processor.soundTimer = 0) ∧
      (woken.2 = .ok .next ∧ woken.1.processor.register 1 = 5 ∧ woken.1.processor.pc = 514) ∧
      woken.1.processor.delayTimer = 7 ∧ woken.1.processor.soundTimer = 0 := by
  intro times
  have word : waiter.processor.opcode = ⟨0xF10A⟩ := by
    have loaded : waiter.processor.opcode = _ :=
      opcode_of_loaded (create 0 1 0) #[0xF1, 0x0A] 0 0 rfl rfl (by decide) (by decide)
    exact loaded.trans (by decide)
  have waits : waiter.processor.opcode.word.toNat = 0xF00A + 0x100 * (1 : Register).val := by
    rw [word]
    rfl
  have only_five : ∀ key : Key, (Keypad.empty.set 5 true).isDown key.toByte = true → key = 5 := by
    decide
  have ticks : waiter.tickTimes times = [20000000, 40000000] := rfl
  obtain ⟨reports, counted, wakes⟩ := stalls_until_key waiter 1 rfl waits rfl times
  rw [word] at reports
  rw [ticks] at counted
  -- How the machine got there plays no part any more.
  generalize waiter.performAll (times.map .step) = waiting at counted wakes ⊢
  have slept : waiting.processor.delayTimer = 7 ∧ waiting.processor.soundTimer = 0 := by
    rw [counted]
    exact ⟨rfl, rfl⟩
  have between : (waiting.withKeypad (Keypad.empty.set 5 true)).tickTimes [50000000] = [] := by
    rw [counted]
    rfl
  obtain ⟨key, ⟨down, -⟩, step⟩ := wakes (Keypad.empty.set 5 true) (by decide) 50000000
  obtain ⟨goes_on, stored, pc, delay, sound⟩ := wakes_between_ticks between step
  rw [only_five key down] at stored
  rw [slept.1] at delay
  rw [slept.2] at sound
  exact ⟨reports, ticks, slept, ⟨goes_on, stored, pc⟩, delay, sound⟩

end Machine
end Chip8
