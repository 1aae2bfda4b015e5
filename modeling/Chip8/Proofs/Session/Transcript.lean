import Chip8.Proofs.Drawing
import Chip8.Proofs.Session.Output
import Chip8.Proofs.Session.Presentation
import Chip8.Proofs.Session.Timing

/-!
# The transcript of a session

What a session writes is the parts of the cycles that it polls, one after the other, and changes of
the theme in later cycles make no difference to it.
-/

namespace Chip8

namespace Session
namespace Plan

variable {plan : Plan} {cycle : Nat}

/-! ### Changes of the theme that never come up -/

theorem part_congr {other : Plan} (machine : other.machine = plan.machine)
    (stepped : other.stepped = plan.stepped) (outcome : other.outcome = plan.outcome)
    (theme : other.settings.theme = plan.settings.theme)
    (colour : other.settings.colour = plan.settings.colour)
    (before : other.changesBefore cycle = plan.changesBefore cycle)
    (after : other.changesBefore (cycle + 1) = plan.changesBefore (cycle + 1)) :
    other.part cycle = plan.part cycle := by
  have succeeds : other.succeeds = plan.succeeds := by
    funext cycle
    rw [Plan.succeeds, Plan.succeeds, outcome]
  have draws : other.draws = plan.draws := by
    funext cycle
    rw [Plan.draws, Plan.draws, succeeds, machine]
  have picture : other.picture = plan.picture := by
    funext cycle
    rw [Plan.picture, Plan.picture, stepped]
  have sounds : other.sounds = plan.sounds := by
    funext cycle
    rw [Plan.sounds, Plan.sounds, stepped]
  have soundsBefore : other.soundsBefore = plan.soundsBefore := by
    funext cycle
    cases cycle with
    | zero => rfl
    | succ cycle => exact congrFun sounds cycle
  have frame : other.frame = plan.frame := by
    funext changes picture
    rw [Plan.frame, Plan.frame, theme, colour]
  have due : other.settings.themeChanges.count cycle = plan.settings.themeChanges.count cycle := by
    rw [changesBefore_succ, changesBefore_succ] at after
    omega
  simp only [part, redrawn, redraws, lastPicture, drawn, rung, succeeds, draws, picture, sounds,
    soundsBefore, frame, before, after, due, colour]

/-- What the session writes does not depend on changes of the theme at cycles that it has not
come to. -/
theorem written_of_filter_eq
    (ordered_keys : Script.Ordered KeyChange.cycle plan.settings.keys)
    (ordered_themeChanges : Script.Ordered id plan.settings.themeChanges)
    (accepts : plan.screen.remaining = none) (iterations : Nat) {changes : List Nat}
    (ordered : Script.Ordered id changes)
    (same : changes.filter (· < (plan.after iterations).device.cycle) =
      plan.settings.themeChanges.filter (· < (plan.after iterations).device.cycle)) :
    (({ plan with settings := { plan.settings with themeChanges := changes } } : Plan).after
        iterations).device.screen.written =
      (plan.after iterations).device.screen.written := by
  let other : Plan := { plan with settings := { plan.settings with themeChanges := changes } }
  have same_input : plan.settings.SameInput other.settings := ⟨rfl, rfl, rfl⟩
  have begun := alike_begin same_input plan.image plan.screen plan.screen plan.wallClock 0
  have alike (cycle : Nat) : Alike (plan.after cycle) (other.after cycle) :=
    begun.complete plan.yield cycle
  have ready (cycle : Nat) : Alike (plan.ready cycle) (other.ready cycle) := (alike cycle).polled.1
  have steps (cycle : Nat) : (other.machine cycle).step (other.ready cycle).now =
      (plan.machine cycle).step (plan.ready cycle).now := by
    rw [machine, (ready cycle).machine, (ready cycle).now]
    rfl
  -- A part looks no further ahead than its own cycle, so it cannot tell the changes apart.
  have changesBefore_eq {cycle : Nat} (within : cycle ≤ (plan.after iterations).device.cycle) :
      other.changesBefore cycle = plan.changesBefore cycle := by
    have kept (script : List Nat) : script.countP (· < cycle) =
        (script.filter (· < (plan.after iterations).device.cycle)).countP (· < cycle) := by
      rw [List.countP_filter]
      refine List.countP_congr fun change _ => ?_
      simp only [decide_eq_true_eq, Bool.and_eq_true]
      omega
    rw [changesBefore, changesBefore, kept, kept plan.settings.themeChanges]
    exact congrArg (List.countP _) same
  have parts : other.partsBefore (plan.after iterations).device.cycle =
      plan.partsBefore (plan.after iterations).device.cycle := by
    refine List.flatMap_congr fun cycle member => ?_
    have polled := List.mem_range.mp member
    refine part_congr ?_ ?_ ?_ rfl rfl (changesBefore_eq (by omega)) (changesBefore_eq (by omega))
    · exact funext fun cycle => (ready cycle).machine
    · exact funext fun cycle => congrArg Prod.fst (steps cycle)
    · exact funext fun cycle => congrArg Prod.snd (steps cycle)
  have written : (other.after iterations).device.screen.written = _ :=
    @written_after other ordered_keys ordered accepts iterations
  rw [(alike iterations).input.cycle, parts] at written
  rw [written_after ordered_keys ordered_themeChanges accepts]
  exact written

/-! ### The transcript -/

/-- What a session writes, cycle by cycle. -/
structure Transcribed (plan : Plan) : Prop where
  /-- After any number of iterations, the output consists of the parts of the cycles polled. -/
  written : ∀ iterations, (plan.after iterations).device.screen.written =
    plan.screen.written ++
      String.ofList ((List.range (plan.after iterations).device.cycle).flatMap plan.part)
  /-- So does the output of the whole session. -/
  whole : plan.whole.device.screen.written =
    plan.screen.written ++ String.ofList ((List.range plan.whole.device.cycle).flatMap plan.part)
  /-- The poll that quits writes nothing. -/
  quits : ∀ cycle, (plan.after cycle).result = none →
    (plan.after cycle).device.exhausted = true →
      (plan.after (cycle + 1)).result = some (.ok ()) ∧
        (plan.after (cycle + 1)).device.screen = (plan.after cycle).device.screen
  /-- Changes of the theme at cycles that are never polled have no effect. -/
  unpolled : ∀ iterations changes, Script.Ordered id changes →
    changes.filter (· < (plan.after iterations).device.cycle) =
        plan.settings.themeChanges.filter (· < (plan.after iterations).device.cycle) →
      (({ plan with settings := { plan.settings with themeChanges := changes } } : Plan).after
          iterations).device.screen.written =
        (plan.after iterations).device.screen.written

/-- With any configuration and any program, a session writes the parts of its cycles. -/
theorem session_transcribed (plan : Plan) {text : String}
    (configured : Settings.ofText text = .ok plan.settings)
    (accepts : plan.screen.remaining = none) : plan.Transcribed := by
  obtain ⟨script, -, settings_eq⟩ := Settings.exists_written_of_ofText configured
  have ordered_keys : Script.Ordered KeyChange.cycle plan.settings.keys := by
    rw [settings_eq]
    exact script.ordered_keys
  have ordered_themeChanges : Script.Ordered id plan.settings.themeChanges := by
    rw [settings_eq]
    exact script.ordered_themeChanges
  have written := written_after ordered_keys ordered_themeChanges accepts
  refine ⟨written, written _, ?_, ?_⟩
  · intro cycle going exhausted
    have quits := quits_of_exhausted going exhausted
    exact ⟨quits.result, congrArg Terminal.screen quits.device⟩
  · intro iterations changes ordered same
    exact written_of_filter_eq ordered_keys ordered_themeChanges accepts iterations ordered same

/-! ### A bar and a bell -/

/-- So many pixels of one colour. -/
def cells (count : Nat) (channels : String) : List Char :=
  (List.replicate count (Frame.control ("48;2;" ++ channels ++ "m") ++ [' ', ' '])).flatten

/-- A frame in two colours that shows a bar of four pixels in the upper left corner. -/
def barFrame (off on : String) : List Char :=
  let ending := Frame.control "0m" ++ ['\n']
  Frame.control "2J" ++ Frame.control "H" ++
    (cells 4 on ++ cells 60 off ++ ending ++ (List.replicate 31 (cells 64 off ++ ending)).flatten)

theorem flatMap_range_of_constant {count : Nat} {text : Nat → List Char} {word : List Char}
    (constant : ∀ index < count, text index = word) :
    (List.range count).flatMap text = (List.replicate count word).flatten := by
  rw [List.flatMap_def, List.map_congr_left fun index member =>
    constant index (List.mem_range.mp member), List.map_const', List.length_range]

/-- Pixels in a row that are all on or all off. -/
theorem cells_of_constant (place : Nat) {picture : Display} {row start count : Nat} {isOn : Bool}
    (constant : ∀ column < count, picture.get (Display.pixelAt (start + column) row) = isOn) :
    ((List.range count).flatMap fun column => Frame.cellSpelled
        (Frame.channels place (picture.get (Display.pixelAt (start + column) row)))) =
      cells count (Frame.channels place isOn) := by
  refine flatMap_range_of_constant fun column column_lt => ?_
  rw [constant column column_lt]
  rfl

theorem colourSpelled_bar (place : Nat) {picture : Display}
    (bar : ∀ (column : Fin 64) (row : Fin 32),
      picture.get (Display.pixelAt column.val row.val) = decide (row.val = 0 ∧ column.val < 4)) :
    Frame.colourSpelled place picture =
      barFrame (Frame.channels place false) (Frame.channels place true) := by
  have pixel (column row : Nat) (column_lt : column < 64) (row_lt : row < 32) :
      picture.get (Display.pixelAt column row) = decide (row = 0 ∧ column < 4) :=
    bar ⟨column, column_lt⟩ ⟨row, row_lt⟩
  let line (row : Nat) : List Char := (List.range 64).flatMap fun column =>
    Frame.cellSpelled (Frame.channels place (picture.get (Display.pixelAt column row)))
  let ending : List Char := Frame.control "0m" ++ ['\n']
  have first : line 0 =
      cells 4 (Frame.channels place true) ++ cells 60 (Frame.channels place false) := by
    have left (column : Nat) (column_lt : column < 4) :
        picture.get (Display.pixelAt (0 + column) 0) = true :=
      (pixel _ 0 (by omega) (by omega)).trans (decide_eq_true (by omega))
    have right (column : Nat) (column_lt : column < 60) :
        picture.get (Display.pixelAt (4 + column) 0) = false :=
      (pixel _ 0 (by omega) (by omega)).trans (decide_eq_false (by omega))
    have cut : List.range 64 = (List.range 4).map (0 + ·) ++ (List.range 60).map (4 + ·) := rfl
    rw [← cells_of_constant place left, ← cells_of_constant place right]
    simp only [line, cut, List.flatMap_append, List.flatMap_map]
  have others (row : Nat) (row_lt : row < 31) :
      line (row + 1) = cells 64 (Frame.channels place false) := by
    have off (column : Nat) (column_lt : column < 64) :
        picture.get (Display.pixelAt (0 + column) (row + 1)) = false :=
      (pixel _ _ (by omega) (by omega)).trans (decide_eq_false (by omega))
    rw [← cells_of_constant place off]
    simp only [line, Nat.zero_add]
  have below : ((List.range 31).flatMap fun row => line (row + 1) ++ ending) =
      (List.replicate 31 (cells 64 (Frame.channels place false) ++ ending)).flatten :=
    flatMap_range_of_constant fun row row_lt => by rw [others row row_lt]
  have rows : List.range 32 = 0 :: (List.range 31).map Nat.succ := List.range_succ_eq_map
  calc Frame.colourSpelled place picture
      = Frame.control "2J" ++ Frame.control "H" ++
          (List.range 32).flatMap fun row => line row ++ ending := rfl
    _ = Frame.control "2J" ++ Frame.control "H" ++ (line 0 ++ ending ++
          (List.range 31).flatMap fun row => line (row + 1) ++ ending) := by
        rw [rows, List.flatMap_cons, List.flatMap_map]
    _ = barFrame (Frame.channels place false) (Frame.channels place true) := by
        rw [first, below]
        rfl

/-- The upper edge of the glyph of zero, in the upper left corner. -/
theorem covers_bar {memory : Memory} (glyph : memory.read 0 = 0xF0) (column : Fin 64)
    (row : Fin 32) :
    Sprite.covers memory ⟨0, 1⟩ 0 0 column row = decide (row.val = 0 ∧ column.val < 4) := by
  have column_lt := column.isLt
  have row_lt := row.isLt
  have right : ((column.val - (0 : Nat) : Int) % 64).toNat = column.val := by omega
  have down : ((row.val - (0 : Nat) : Int) % 32).toNat = row.val := by omega
  rw [Sprite.covers, right, down]
  by_cases top : row.val = 0
  · have bits : ∀ column : Fin 64,
        (decide (column.val < 8) && (0xF0 : UInt8).toNat.testBit (7 - column.val)) =
          decide (column.val < 4) := by decide
    have word : (memory.read (0 + 0)).toNat = (0xF0 : UInt8).toNat := by rw [glyph]
    simp only [top, word, Nat.one_pos, decide_true, Bool.and_true, true_and, bits]
  · have outside : ¬row.val < 1 := by omega
    simp only [top, outside, decide_false, Bool.and_false, Bool.false_and, false_and]

/-- A session of three cycles draws the bar, loads a register and sounds for as long as it says. -/
structure PlaysBar (plan : Plan) : Prop where
  limited : plan.settings.maxCycles = some 3
  draws : plan.word 0 = .draw 0 0 1
  loads : plan.word 1 = .setByte 0 5
  sounds : plan.word 2 = .setSound 0

namespace PlaysBar

variable (plays : plan.PlaysBar)
include plays

theorem straight (within : cycle < 3) : (plan.word cycle).isStraight = true := by
  rcases show cycle = 0 ∨ cycle = 1 ∨ cycle = 2 by omega with rfl | rfl | rfl
  · rw [plays.draws]
    rfl
  · rw [plays.loads]
    rfl
  · rw [plays.sounds]
    rfl

theorem reads (within : cycle < 3) : plan.Reads cycle :=
  reads_of_straight plays.limited (by omega) (by omega)
    fun _ before => plays.straight (Nat.lt_trans before within)

theorem succeeds (within : cycle < 3) : plan.succeeds cycle = true := by
  rw [Plan.succeeds, ((plays.reads within).step (by omega) (plays.straight within)).1]
  rfl

/-- What a cycle leaves, when its timers may have been counted down before its instruction. -/
theorem exists_processor (within : cycle < 3) :
    ∃ before pc,
      (before = (plan.machine cycle).processor ∨
        before = (plan.machine cycle).processor.countDown) ∧
      (plan.stepped cycle).processor =
        { (before.executeFixed (plan.word cycle)).1 with pc } := by
  refine (plays.reads within).exists_processor (by omega) (plays.straight within) ?_
  rintro x mask random
  rcases show cycle = 0 ∨ cycle = 1 ∨ cycle = 2 by omega with rfl | rfl | rfl
  · exact nomatch plays.draws.symm.trans random
  · exact nomatch plays.loads.symm.trans random
  · exact nomatch plays.sounds.symm.trans random

theorem exists_machine (within : cycle + 1 < 3) :
    ∃ keypad clock, plan.machine (cycle + 1) =
      { (plan.stepped cycle).presented.withKeypad keypad with clock } := by
  have reads := plays.reads (Nat.lt_of_succ_lt within)
  have straight := plays.straight (Nat.lt_of_succ_lt within)
  exact (reads.continues plays.limited (by omega) straight (by omega)).exists_machine

theorem get_picture (column : Fin 64) (row : Fin 32) :
    (plan.picture 0).get (Display.pixelAt column.val row.val) =
      decide (row.val = 0 ∧ column.val < 4) := by
  obtain ⟨before, pc, ticked, stepped⟩ := plays.exists_processor (show 0 < 3 by omega)
  have begun : before.display = .blank ∧ before.index = 0 ∧ before.register 0 = 0 ∧
      before.memory.read 0 = 0xF0 := by
    have glyph : (plan.machine 0).processor.memory.read 0 = 0xF0 :=
      (Machine.read_load _ _ 0 (by omega)).trans rfl
    rcases ticked with rfl | rfl
    · exact ⟨rfl, rfl, rfl, glyph⟩
    · exact ⟨rfl, rfl, rfl, glyph⟩
  obtain ⟨blank, index, corner, glyph⟩ := begun
  have pixel := before.get_drawSprite 0 0 1 column row
  rw [blank, Display.get_blank, Bool.false_xor, Processor.covers, index, corner] at pixel
  rw [Plan.picture, stepped, plays.draws]
  exact pixel.trans (covers_bar glyph column row)

theorem silent : plan.sounds 0 = false ∧ plan.sounds 1 = false := by
  have first : (plan.stepped 0).processor.soundTimer = 0 := by
    obtain ⟨before, pc, ticked, stepped⟩ := plays.exists_processor (show 0 < 3 by omega)
    have begun : before.soundTimer = 0 := by
      rcases ticked with rfl | rfl
      · rfl
      · rfl
    rw [stepped, plays.draws]
    exact begun
  have second : (plan.stepped 1).processor.soundTimer = 0 := by
    obtain ⟨before, pc, ticked, stepped⟩ := plays.exists_processor (show 1 < 3 by omega)
    obtain ⟨keypad, clock, machine⟩ := plays.exists_machine (show 0 + 1 < 3 by omega)
    have begun : (plan.machine 1).processor.soundTimer = 0 := by
      rw [machine]
      exact first
    rw [stepped, plays.loads]
    rcases ticked with rfl | rfl
    · exact begun
    · exact if_pos begun
  rw [Plan.sounds, Plan.sounds, first, second]
  exact ⟨rfl, rfl⟩

theorem loud : plan.sounds 2 = true := by
  have loaded : (plan.stepped 1).processor.register 0 = 5 := by
    obtain ⟨before, pc, -, stepped⟩ := plays.exists_processor (show 1 < 3 by omega)
    rw [stepped, plays.loads]
    exact (before.register_setRegister 0 0 5).trans (if_pos rfl)
  obtain ⟨before, pc, ticked, stepped⟩ := plays.exists_processor (show 2 < 3 by omega)
  obtain ⟨keypad, clock, machine⟩ := plays.exists_machine (show 1 + 1 < 3 by omega)
  have register : (plan.machine 2).processor.register 0 = 5 := by
    rw [machine]
    exact loaded
  have timer : (plan.stepped 2).processor.soundTimer = 5 := by
    rw [stepped, plays.sounds]
    rcases ticked with rfl | rfl
    · exact register
    · exact register
  rw [Plan.sounds, timer]
  rfl

theorem draws_zero : plan.draws 0 = true := by
  rw [Plan.draws, plays.succeeds (by omega)]
  rfl

theorem draws_succ (within : cycle + 1 < 3) : plan.draws (cycle + 1) = false := by
  have leaves : (plan.word (cycle + 1)).paints = false := by
    rcases show cycle = 0 ∨ cycle = 1 by omega with rfl | rfl
    · rw [plays.loads]
      rfl
    · rw [plays.sounds]
      rfl
  rw [Plan.draws, (plays.reads within).instruction (by omega), leaves]
  exact Bool.and_false _

/-- The bar is not drawn over. -/
theorem lastPicture_succ_eq (within : cycle < 2) :
    plan.lastPicture (cycle + 1) = some (plan.picture 0) := by
  induction cycle with
  | zero => rw [lastPicture_succ, plays.draws_zero, if_pos rfl]
  | succ cycle induction =>
      rw [lastPicture_succ, plays.draws_succ (by omega), if_neg Bool.false_ne_true,
        induction (by omega)]

theorem part_zero (unchanged : plan.changesBefore 1 = 0) :
    plan.part 0 = plan.frame 0 (plan.picture 0) := by
  have nothing : plan.redrawn 0 = [] := redraws_none _ _ _
  rw [part, nothing, drawn, plays.draws_zero, rung, plays.silent.1, unchanged]
  simp

theorem part_one (unchanged : plan.settings.themeChanges.count 1 = 0) : plan.part 1 = [] := by
  have last : plan.lastPicture 1 = some (plan.picture 0) := plays.lastPicture_succ_eq (by omega)
  rw [part, redrawn, unchanged, drawn, plays.draws_succ (by omega), rung, plays.silent.2, last]
  unfold redraws
  cases plan.settings.colour <;> simp

theorem part_two (coloured : plan.settings.colour = true)
    (unchanged : plan.changesBefore 2 = 0) :
    plan.part 2 =
      (List.range (plan.settings.themeChanges.count 2)).flatMap
        (fun change => plan.frame (change + 1) (plan.picture 0)) ++ ['\x07'] := by
  have last : plan.lastPicture 2 = some (plan.picture 0) := plays.lastPicture_succ_eq (by omega)
  have silent_before : plan.soundsBefore 2 = false := plays.silent.2
  rw [part, redrawn, drawn, plays.draws_succ (by omega), rung, plays.succeeds (by omega),
    plays.loud, silent_before, unchanged, last]
  simp [redraws, coloured]

/-- The output of such a session: the bar, the bar again for every change of the theme, and the
bell. -/
theorem partsBefore_eq (coloured : plan.settings.colour = true)
    (unchanged : plan.changesBefore 2 = 0) :
    plan.partsBefore 3 =
      plan.frame 0 (plan.picture 0) ++
        (List.range (plan.settings.themeChanges.count 2)).flatMap
          (fun change => plan.frame (change + 1) (plan.picture 0)) ++ ['\x07'] := by
  have sooner : plan.changesBefore 1 = 0 ∧ plan.settings.themeChanges.count 1 = 0 := by
    rw [changesBefore_succ] at unchanged
    omega
  rw [partsBefore_succ, partsBefore_succ, partsBefore_succ, plays.part_zero sooner.1,
    plays.part_one sooner.2, plays.part_two coloured unchanged]
  simp [partsBefore]

end PlaysBar

/-- A session that draws a bar, takes its next theme twice in the third cycle and then sounds.  The
change of the theme in the eighth cycle never comes up. -/
theorem session_transcribed_bar :
    ∃ settings,
      Settings.ofText
          "theme: bumblebee\ncolor: true\nmax_cycles: 3\ntheme_changes: [2, 7, 2]" =
        .ok settings ∧
      let image : ProgramImage := ⟨"bar", #[0xD0, 0x01, 0x60, 0x05, 0xF0, 0x18]⟩
      ({ settings, image, yield := 1 } : Plan).whole.device.screen.written =
        String.ofList (barFrame "16;24;32" "254;231;21" ++ barFrame "0;0;0" "255;255;255" ++
          barFrame "173;239;209" "0;32;63" ++ ['\x07']) := by
  let script : Settings :=
    { theme := .bumblebee, colour := true, maxCycles := some 3, themeChanges := [2, 7, 2] }
  have reading : Settings.written
      "theme: bumblebee\ncolor: true\nmax_cycles: 3\ntheme_changes: [2, 7, 2]" =
      .ok script := by decide +kernel
  have configured := Settings.ofText_eq
    "theme: bumblebee\ncolor: true\nmax_cycles: 3\ntheme_changes: [2, 7, 2]"
  rw [reading] at configured
  refine ⟨script.ordered, configured, ?_⟩
  let plan : Plan :=
    { settings := script.ordered
      image := ⟨"bar", #[0xD0, 0x01, 0x60, 0x05, 0xF0, 0x18]⟩
      yield := 1 }
  have plays : plan.PlaysBar := ⟨rfl, by decide, by decide, by decide⟩
  have unchanged : plan.changesBefore 2 = 0 :=
    (List.Perm.countP_eq _ (List.mergeSort_perm _ _)).trans (by decide)
  have twice : plan.settings.themeChanges.count 2 = 2 :=
    (List.Perm.count_eq (List.mergeSort_perm _ _) 2).trans (by decide)
  have counted : plan.whole.device.cycle = 3 :=
    (whole_of_ok plays.limited (by decide) fun cycle within =>
      ⟨_, ((plays.reads within).step (by omega) (plays.straight within)).1⟩).2.1
  have bar (changes : Nat) : plan.frame changes (plan.picture 0) =
      barFrame (Frame.channels (3 + changes) false) (Frame.channels (3 + changes) true) :=
    colourSpelled_bar _ plays.get_picture
  have first : plan.frame 0 (plan.picture 0) = barFrame "16;24;32" "254;231;21" := bar 0
  have second : plan.frame 1 (plan.picture 0) = barFrame "0;0;0" "255;255;255" := bar 1
  have third : plan.frame 2 (plan.picture 0) = barFrame "173;239;209" "0;32;63" := bar 2
  have parts : (List.range 3).flatMap plan.part = _ := plays.partsBefore_eq rfl unchanged
  have redrawn : ((List.range 2).flatMap fun change => plan.frame (change + 1) (plan.picture 0)) =
      plan.frame 1 (plan.picture 0) ++ plan.frame 2 (plan.picture 0) :=
    congrArg (plan.frame 1 (plan.picture 0) ++ ·) (List.append_nil _)
  have transcribed := session_transcribed plan configured rfl
  have written := transcribed.whole
  rw [counted, parts, twice, redrawn, first, second, third, ← List.append_assoc] at written
  exact written.trans String.empty_append

end Plan
end Session
end Chip8
