import Chip8.Proofs.Fault
import Chip8.Proofs.Loading

/-!
# Time and the program

Time changes the timers, the clocks and what is told to the buzzer.  A program can look at none of
these, except that one instruction loads the delay timer into a register.  Machines that differ in
nothing else make the same steps, at whatever times they make them, for as long as that
instruction does not come up.
-/

namespace Chip8

/-- What can be told of a step. -/
structure StepReport where
  /-- The word that was executed, unless the machine had stopped before. -/
  word : Option Opcode
  /-- Where execution went, or the fault. -/
  outcome : Except Fault Directive

namespace Machine

/-- The machine without its timers, the state of its buzzer and its clocks. -/
def timeless (machine : Machine) : Machine :=
  { machine with
    processor := { machine.processor with delayTimer := 0, soundTimer := 0, buzzing := false }
    clock := ⟨0, 0⟩
    timer := ⟨0, 0⟩ }

/-- What a step at a time would report. -/
def report (machine : Machine) (now : Int) : StepReport where
  word := if machine.processor.fault = none then some machine.processor.opcode else none
  outcome := (machine.step now).2

/-- The reports of a step at each of some times. -/
def reports (machine : Machine) : List Int → List StepReport
  | [] => []
  | now :: later => machine.report now :: (machine.step now).1.reports later

/-! ### One step -/

section Step

variable {machine one other : Machine}

theorem decode_of_report {now : Int} {word : Opcode}
    (executed : (machine.report now).word = some word) : word.decode = machine.instruction := by
  simp only [report, Option.ite_none_right_eq_some, Option.some.injEq] at executed
  rw [← executed.2, instruction]

theorem timeless_tick (machine : Machine) (now : Int) :
    (machine.tick now).1.timeless = machine.timeless := by
  rw [tick]
  split <;> rfl

/-- An instruction that does not read the delay timer does the same without time. -/
theorem cycle_timeless (blind : ∀ x, machine.instruction ≠ .readDelay x) :
    machine.timeless.cycle.1.timeless = machine.cycle.1.timeless ∧
      machine.timeless.cycle.2 = machine.cycle.2 := by
  let still : Periphery := ⟨0, 0, false, machine.processor.repaint⟩
  have law := machine.cycle_withPeriphery still fun x reads => absurd reads (blind x)
  have erased : machine.timeless.cycle =
      ({ (machine.withPeriphery still).cycle.1 with clock := ⟨0, 0⟩, timer := ⟨0, 0⟩ },
        (machine.withPeriphery still).cycle.2) := rfl
  have repaint : (still.after machine.processor machine.instruction).repaint =
      machine.cycle.1.processor.repaint := by
    refine Eq.trans ?_ (congrArg Periphery.repaint machine.periphery_cycle).symm
    cases machine.instruction <;> rfl
  rw [erased, law]
  constructor
  · simp only [timeless, withPeriphery, Processor.withPeriphery, repaint]
  · rfl

theorem timeless_cycle (same : other.timeless = one.timeless)
    (blind : ∀ x, one.instruction ≠ .readDelay x) :
    other.cycle.1.timeless = one.cycle.1.timeless ∧ other.cycle.2 = one.cycle.2 := by
  have word : other.instruction = one.instruction :=
    congrArg (fun machine => machine.instruction) same
  obtain ⟨after, directive⟩ := cycle_timeless blind
  obtain ⟨other_after, other_directive⟩ := cycle_timeless (by rwa [word])
  rw [← after, ← directive, ← other_after, ← other_directive, same]
  exact ⟨rfl, rfl⟩

theorem timeless_step (same : other.timeless = one.timeless) (now moment : Int)
    (blind : ∀ word, (one.report now).word = some word → ∀ x, word.decode ≠ .readDelay x) :
    (other.step moment).1.timeless = (one.step now).1.timeless ∧
      other.report moment = one.report now := by
  have shows (one other : Machine) (same : other.timeless = one.timeless) :
      other.processor.fault = one.processor.fault :=
    congrArg (fun machine => machine.processor.fault) same
  have word : other.processor.opcode = one.processor.opcode :=
    congrArg (fun machine => machine.processor.opcode) same
  obtain ⟨after, outcome⟩ := step_congr shows same fun going => by
    have ticked : (other.tick moment).1.timeless = (one.tick now).1.timeless := by
      rw [timeless_tick, timeless_tick, same]
    have unread : ∀ x, (one.tick now).1.instruction ≠ .readDelay x := by
      rw [instruction_tick]
      exact blind one.processor.opcode (if_pos going)
    exact timeless_cycle ticked unread
  refine ⟨after, ?_⟩
  rw [report, report, outcome, word, shows one other same]

end Step

/-! ### All steps -/

/-- Time reaches a program only through the instruction that reads the delay timer.  Machines that
agree on everything but time report the same of as many steps, at whatever times they make them,
and still agree after them, if that instruction is not among those of the first machine. -/
theorem time_only_by_readDelay {one other : Machine} (same : other.timeless = one.timeless)
    {times moments : List Int} (as_many : moments.length = times.length)
    (blind : ∀ report ∈ one.reports times, ∀ word, report.word = some word →
      ∀ x, word.decode ≠ .readDelay x) :
    other.reports moments = one.reports times ∧
      (other.performAll (moments.map .step)).timeless =
        (one.performAll (times.map .step)).timeless := by
  induction times generalizing one other moments with
  | nil =>
      obtain rfl := List.length_eq_zero_iff.mp as_many
      exact ⟨rfl, same⟩
  | cons now times induction =>
      obtain ⟨moment, moments, rfl⟩ := List.exists_cons_of_length_eq_add_one as_many
      obtain ⟨after, report⟩ := timeless_step same now moment (blind _ List.mem_cons_self)
      have as_many_later : moments.length = times.length := Nat.succ.inj as_many
      have blind_later : ∀ report ∈ (one.step now).1.reports times, ∀ word,
          report.word = some word → ∀ x, word.decode ≠ .readDelay x :=
        fun report member => blind report (List.mem_cons_of_mem _ member)
      obtain ⟨reports, agree⟩ := induction after as_many_later blind_later
      exact ⟨by rw [Machine.reports, report, reports]; rfl, agree⟩

/-- Machines with different clocks, loaded with a program that sets the delay timer after a call of
the host, report the same although the timers of one of them tick. -/
theorem time_only_by_readDelay_setDelay :
    let program : Array UInt8 := #[0x00, 0x00, 0xF0, 0x15]
    let one := (create 0 1 0).load program 0
    let other := (create 5 1 3).load program 7
    other.timeless = one.timeless ∧ other.reports [20000000, 3] = one.reports [0, 0] := by
  intro program one other
  have same : other.timeless = one.timeless := rfl
  have going : one.processor.fault = none := rfl
  have first : one.instruction = .system 0 := by
    rw [instruction, instruction_load]
    decide
  have second : (one.step 0).1.instruction = .setDelay 0 := by
    have pc : ((one.processor.pc + 2) % 4096).toNat = 514 := by decide
    rw [instruction_step_of_system 0 going first, Processor.opcode, pc,
      read_load _ _ _ (by decide), read_load _ _ _ (by decide)]
    decide
  have blind : ∀ report ∈ one.reports [0, 0], ∀ word, report.word = some word →
      ∀ x, word.decode ≠ .readDelay x := by
    intro report member word executed x
    simp only [reports, List.mem_cons, List.not_mem_nil, or_false] at member
    rcases member with rfl | rfl
    · rw [decode_of_report executed, first]
      simp
    · rw [decode_of_report executed, second]
      simp
  exact ⟨same, (@time_only_by_readDelay one other same [0, 0] [20000000, 3] rfl blind).1⟩

end Machine
end Chip8
