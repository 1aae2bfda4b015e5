import Chip8.Proofs.Execution
import Chip8.Proofs.Listing
import Chip8.Proofs.Loading

/-!
# Traces and listings

Every instruction that is executed is reported by one record of its own.  A listing is made from
the bytes of a program and a trace from memory, and where memory holds the bytes of the program the
two read alike.
-/

namespace Chip8

/-- What a trace shows of an execution. -/
def Execution.trace (execution : Execution) : List String :=
  (execution.records.filter fun record => record.level = .trace).map LogRecord.text

namespace Machine

/-- An instruction is traced once, whatever else is reported of it. -/
theorem filter_cycleRecords (machine : Machine) :
    (machine.cycleRecords.filter fun record => record.level = .trace) =
      [.executing machine.processor.pc machine.processor.opcode] := by
  rw [cycleRecords, List.filter_cons_of_pos (by rfl)]
  split <;> rfl

theorem chronicle_trace : Chronicle fun _ past => ∀ execution ∈ past,
    execution.trace =
      [Listing.instructionLine execution.machine.processor.pc.toNat
        execution.machine.processor.opcode] where
  load _ _ _ _ traced := traced
  font _ _ _ traced := traced
  keypad _ _ _ traced := traced
  register _ _ _ _ traced := traced
  pixel _ _ _ _ _ traced := traced
  tick _ _ _ traced := traced
  execute machine past verdict errors traced execution member := by
    rcases List.mem_append.mp member with earlier | last
    · exact traced execution earlier
    · obtain rfl := List.eq_of_mem_singleton last
      have failures : (verdict.filter fun record => record.level = .trace) = [] := by
        rw [List.filter_eq_nil_iff]
        intro record failure
        rw [errors record failure]
        decide
      rw [Execution.trace, List.filter_append, failures, List.append_nil, filter_cycleRecords]
      rfl
  clocks _ _ _ traced := traced
  shown _ _ _ _ traced := traced
  silenced _ _ traced := traced

theorem trace_of_mem_allExecutions {machine : Machine} {history : List Operation}
    {execution : Execution} (executed : execution ∈ machine.allExecutions history) :
    execution.trace =
      [Listing.instructionLine execution.machine.processor.pc.toNat
        execution.machine.processor.opcode] := by
  refine chronicle_trace.whole ?_ history execution executed
  exact fun _ member => absurd member List.not_mem_nil

/-- The disassembler, the loader and the trace agree.  After a load of a program that fits, memory
holds each whole word of it where the listing says that it does.  A history reports what is recorded
of its executions, in order, and whenever an instruction is executed there while memory still holds
its bytes, the trace is the line of the listing. -/
theorem trace_eq_listing (machine : Machine) {program : Array UInt8} (now : Int) {index : Nat}
    (fits : program.size ≤ 3584) (whole : 2 * index + 1 < program.size) :
    let loaded := machine.load program now
    let address := 0x200 + 2 * index
    let high := loaded.processor.memory.read address
    let low := loaded.processor.memory.read (address + 1)
    let listing := ({ program := program.toList } : Disassembler).pass {}
    listing.result = .ok () ∧
      (high = program[2 * index] ∧ low = program[2 * index + 1]) ∧
      ∃ line, Listing.line? listing.sink.written index = some line ∧
        line = Hex.text 4 address ++ ": " ++ Hex.text 4 (high.toNat * 256 + low.toNat) ++ "  " ++
          (Opcode.ofBytes high low).decode.text ∧
        ∀ history,
          ((loaded.allExecutions history).flatMap Execution.records).Sublist
              (loaded.allReported history) ∧
            ∀ execution ∈ loaded.allExecutions history,
              execution.machine.processor.pc.toNat = address →
                execution.machine.processor.memory.read address = high →
                  execution.machine.processor.memory.read (address + 1) = low →
                    execution.trace = [line] := by
  intro loaded address high low listing
  have high_eq : high = program[2 * index] := machine.read_load_getElem now fits _
  have low_eq : low = program[2 * index + 1] := machine.read_load_getElem now fits whole
  have pass : listing = _ := Disassembler.pass_of_unbounded _ rfl
  refine ⟨by rw [pass], ⟨high_eq, low_eq⟩, Listing.instructionLine address (.ofBytes high low),
    ?_, ?_, ?_⟩
  · have found : (Listing.lines programStart program.toList)[index]? = _ :=
      Listing.getElem?_lines programStart whole
    rw [Array.getElem_toList, Array.getElem_toList, ← high_eq, ← low_eq] at found
    obtain ⟨inRange, line⟩ := List.getElem?_eq_some_iff.mp found
    have read := Listing.line?_render program.toList inRange
    rw [line] at read
    rw [pass, String.empty_append]
    exact read
  · rw [Listing.instructionLine, Opcode.toNat_word_ofBytes]
  · intro history
    refine ⟨loaded.records_sublist_allReported history, ?_⟩
    intro execution executed pc same_high same_low
    rw [trace_of_mem_allExecutions executed, Processor.opcode, pc, same_high, same_low]

theorem exists_execution_step {machine : Machine} (now : Int)
    (going : machine.processor.fault = none) :
    ∃ execution, machine.allExecutions [.step now] = [execution] ∧
      execution.machine.processor.pc = machine.processor.pc ∧
      execution.machine.processor.memory = machine.processor.memory := by
  refine ⟨⟨(machine.tick now).1, machine.stepRecords now⟩, ?_, ?_⟩
  · simp [allExecutions, executions, stepExecutions, going]
  · rw [tick]
    split <;> exact ⟨rfl, rfl⟩

/-- A program that jumps to its own beginning is traced by its only line, which its step reports. -/
theorem trace_eq_listing_loop :
    let loaded := (create 0 1 0).load #[0x12, 0x00] 0
    let executed := loaded.allExecutions [.step 0]
    Listing.line? (({ program := [0x12, 0x00] } : Disassembler).pass {}).sink.written 0 =
        some "0200: 1200  JP 0x200" ∧
      executed.map Execution.trace = [["0200: 1200  JP 0x200"]] ∧
      (executed.flatMap Execution.records).Sublist (loaded.allReported [.step 0]) := by
  obtain ⟨-, ⟨high, low⟩, line, found, shown, traced⟩ :=
    @trace_eq_listing (create 0 1 0) #[0x12, 0x00] 0 0 (by decide) (by decide)
  have text : line = "0200: 1200  JP 0x200" := by
    rw [shown, high, low]
    cbv
  have going : ((create 0 1 0).load #[0x12, 0x00] 0).processor.fault = none := rfl
  obtain ⟨execution, executed, pc, memory⟩ := exists_execution_step 0 going
  obtain ⟨reported, listed⟩ := traced [.step 0]
  have trace : execution.trace = [line] := by
    refine listed execution ?_ ?_ ?_ ?_
    · rw [executed]
      exact List.mem_singleton_self _
    · rw [pc]
      rfl
    · rw [memory]
    · rw [memory]
  rw [text] at found trace
  refine ⟨found, ?_, reported⟩
  rw [executed, List.map_singleton, trace]

end Machine
end Chip8
