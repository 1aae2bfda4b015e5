import Chip8.Proofs.Buzzer
import Chip8.Proofs.Picture
import Chip8.Proofs.Session
import Chip8.Proofs.Terminal.Frame
import Chip8.Proofs.Terminal.Output

/-!
# What a session writes

Every cycle of a session has its part of what is written: the frames of the changes of the theme
that are due in it, the frame of a picture that its step painted, and a bell if its step made the
machine sound.  The whole output is these parts one after the other.  Nothing that a session shows
has an effect on its course.
-/

namespace Chip8

namespace Session
namespace Plan

/-! ### The parts of the output -/

section Parts

variable (plan : Plan) (cycle : Nat)

/-- Whether the step of a cycle succeeds. -/
def succeeds : Bool := (plan.outcome cycle).isOk

/-- Whether a picture is drawn in a cycle: the first one is, and every one that is painted. -/
def draws : Bool :=
  plan.succeeds cycle && (cycle == 0 || (plan.machine cycle).instruction.paints)

/-- The picture after the step of a cycle. -/
def picture : Display := (plan.stepped cycle).processor.display

/-- The picture drawn last before a cycle. -/
def lastPicture : Option Display :=
  ((List.range cycle).filter plan.draws).getLast?.map plan.picture

/-- Whether the machine sounds after the step of a cycle. -/
def sounds : Bool := (plan.stepped cycle).processor.soundTimer != 0

/-- Whether the machine sounds when a cycle begins. -/
def soundsBefore : Nat → Bool
  | 0 => false
  | cycle + 1 => plan.sounds cycle

/-- The changes of the theme due before a cycle. -/
def changesBefore : Nat := plan.settings.themeChanges.countP (· < cycle)

/-- The frame of a picture after some changes of the theme. -/
def frame (changes : Nat) (picture : Display) : List Char :=
  Frame.spelled plan.settings.colour (plan.settings.theme.place + changes) picture

/-- The frames of some more changes of the theme, if there is a picture in colour to draw again. -/
def redraws (changes : Nat) (picture : Option Display) (count : Nat) : List Char :=
  match plan.settings.colour, picture with
  | true, some picture =>
      (List.range count).flatMap fun change => plan.frame (changes + (change + 1)) picture
  | _, _ => []

/-- The frames that are drawn again in a cycle, one for each change of the theme that is due. -/
def redrawn : List Char :=
  plan.redraws (plan.changesBefore cycle) (plan.lastPicture cycle)
    (plan.settings.themeChanges.count cycle)

/-- The frame that is drawn in a cycle, when all changes of the theme up to it have been made. -/
def drawn : List Char :=
  if plan.draws cycle then plan.frame (plan.changesBefore (cycle + 1)) (plan.picture cycle) else []

/-- The bell of a cycle that makes the machine sound. -/
def rung : List Char :=
  if plan.succeeds cycle && (plan.sounds cycle && !plan.soundsBefore cycle) then ['\x07'] else []

/-- What is written in a cycle. -/
def part : List Char := plan.redrawn cycle ++ plan.drawn cycle ++ plan.rung cycle

/-- What is written before a cycle. -/
def partsBefore : List Char := (List.range cycle).flatMap plan.part

end Parts

variable {plan : Plan} {cycle : Nat}

theorem partsBefore_succ (plan : Plan) (cycle : Nat) :
    plan.partsBefore (cycle + 1) = plan.partsBefore cycle ++ plan.part cycle := by
  simp [partsBefore, List.range_succ]

theorem changesBefore_succ (plan : Plan) (cycle : Nat) :
    plan.changesBefore (cycle + 1) =
      plan.changesBefore cycle + plan.settings.themeChanges.count cycle := by
  unfold changesBefore
  induction plan.settings.themeChanges with
  | nil => rfl
  | cons change changes induction =>
      simp only [List.countP_cons, List.count_cons, induction, decide_eq_true_eq, beq_iff_eq]
      split <;> split <;> split <;> omega

theorem lastPicture_succ (plan : Plan) (cycle : Nat) :
    plan.lastPicture (cycle + 1) =
      if plan.draws cycle then some (plan.picture cycle) else plan.lastPicture cycle := by
  rw [lastPicture, List.range_succ, List.filter_append, List.getLast?_append]
  cases draws : plan.draws cycle with
  | false => simp [lastPicture, draws]
  | true => simp [draws]

theorem redraws_none (plan : Plan) (changes count : Nat) :
    plan.redraws changes none count = [] := by
  unfold redraws
  cases plan.settings.colour <;> rfl

/-! ### The terminal of a session -/

/-- What a terminal that has made some changes of the theme shows and has shown. -/
structure Shows (plan : Plan) (changes : Nat) (text : List Char) (picture : Option Display)
    (terminal : Terminal) : Prop where
  theme : terminal.theme = Theme.next^[changes] plan.settings.theme
  colour : terminal.colour = plan.settings.colour
  accepts : terminal.screen.remaining = none
  written : terminal.screen.written = plan.screen.written ++ String.ofList text
  picture : (if terminal.drawn then some terminal.picture else none) = picture

variable {changes : Nat} {text : List Char} {picture : Option Display} {terminal : Terminal}

theorem Shows.frame_eq (shows : plan.Shows changes text picture terminal) (more : Nat)
    (other : Display) :
    Frame.chars (Theme.next^[more] terminal.theme) terminal.colour other =
      plan.frame (changes + more) other := by
  rw [frame, ← Frame.chars_eq_spelled, shows.theme, shows.colour, Nat.add_comm,
    Function.iterate_add_apply]

theorem Shows.poll (shows : plan.Shows changes text picture terminal) (keypad : Keypad)
    (goes_on : terminal.exhausted = false) :
    plan.Shows (changes + terminal.dueThemeChanges.length)
      (text ++ plan.redraws changes picture terminal.dueThemeChanges.length) picture
      (terminal.poll keypad).device := by
  have redrawn_eq : terminal.redrawn terminal.dueThemeChanges.length =
      plan.redraws changes picture terminal.dueThemeChanges.length := by
    simp only [Terminal.redrawn, shows.frame_eq]
    unfold redraws
    rw [← shows.colour, ← shows.picture]
    cases terminal.colour <;> cases terminal.drawn <;> rfl
  rw [Terminal.poll_of_accepts shows.accepts keypad goes_on, redrawn_eq]
  constructor
  · rw [Nat.add_comm changes, Function.iterate_add_apply, ← shows.theme]
  · exact shows.colour
  · exact shows.accepts
  · simp only [Screen.add, shows.written, String.append_assoc, String.ofList_append]
  · exact shows.picture

theorem Shows.presentation (shows : plan.Shows changes text picture terminal)
    (machine : Machine) :
    plan.Shows changes
      (text ++ ((if machine.processor.repaint then plan.frame changes machine.processor.display
          else []) ++
        if machine.processor.soundTimer != 0 && !machine.processor.buzzing then ['\x07'] else []))
      (if machine.processor.repaint then some machine.processor.display else picture)
      (Terminal.device.reactAll terminal machine.presentation).device := by
  have frame_eq := shows.frame_eq 0 machine.processor.display
  have bell : Terminal.bell.toList = ['\x07'] := rfl
  simp only [Function.iterate_zero, id, Nat.add_zero] at frame_eq
  rw [Terminal.reactAll_presentation shows.accepts, frame_eq, bell]
  constructor
  · exact shows.theme
  · exact shows.colour
  · exact shows.accepts
  · simp only [Screen.add, shows.written, String.append_assoc, String.ofList_append]
  · cases machine.processor.repaint with
    | false => exact shows.picture
    | true => rfl

/-- A session in a cycle, when it has shown its parts up to there. -/
structure Showing (plan : Plan) (cycle : Nat) (run : Run Terminal) : Prop where
  atCycle : Terminal.AtCycle plan.settings cycle run.device
  shows : plan.Shows (plan.changesBefore cycle) (plan.partsBefore cycle) (plan.lastPicture cycle)
    run.device
  /-- The first picture is drawn whether it is painted or not. -/
  repaint : run.machine.processor.repaint = (cycle == 0)
  buzzing : run.machine.processor.buzzing = plan.soundsBefore cycle

theorem showing_begin (accepts : plan.screen.remaining = none) :
    plan.Showing 0 (plan.after 0) where
  atCycle := Terminal.atCycle_start _ _
  shows := by
    have none_before : plan.changesBefore 0 = 0 := by simp [changesBefore]
    rw [none_before]
    refine ⟨rfl, rfl, accepts, ?_, rfl⟩
    exact String.append_empty.symm
  repaint := rfl
  buzzing := rfl

section Course

variable (ordered_keys : Script.Ordered KeyChange.cycle plan.settings.keys)
  (ordered_themeChanges : Script.Ordered id plan.settings.themeChanges)

include ordered_themeChanges

/-- When a poll that goes on has been answered, the changes of the theme have been shown. -/
theorem Showing.ready (showing : plan.Showing cycle (plan.after cycle))
    (goes_on : (plan.after cycle).device.exhausted = false) :
    plan.Shows (plan.changesBefore (cycle + 1)) (plan.partsBefore cycle ++ plan.redrawn cycle)
      (plan.lastPicture cycle) (plan.ready cycle).device := by
  have due : (plan.after cycle).device.dueThemeChanges.length =
      plan.settings.themeChanges.count cycle := by
    rw [showing.atCycle.dueThemeChanges ordered_themeChanges, Script.during,
      ← List.countP_eq_length_filter]
    rfl
  have polled := showing.shows.poll (plan.after cycle).machine.processor.keypad goes_on
  rw [due, ← changesBefore_succ] at polled
  exact polled

include ordered_keys in
theorem Showing.next {directive : Directive} (showing : plan.Showing cycle (plan.after cycle))
    (continues : plan.Continues cycle directive) :
    plan.Showing (cycle + 1) (plan.after (cycle + 1)) := by
  have ready := showing.ready ordered_themeChanges continues.goes_on
  have succeeds : plan.succeeds cycle = true := by
    rw [Plan.succeeds, continues.outcome]
    rfl
  have repaint : (plan.stepped cycle).processor.repaint = plan.draws cycle := by
    have painted := Machine.repaint_step continues.outcome
    have before : (plan.machine cycle).processor.repaint = (cycle == 0) := showing.repaint
    rw [draws, succeeds, Bool.true_and, ← before]
    exact painted
  have buzzing : (plan.stepped cycle).processor.buzzing = plan.soundsBefore cycle :=
    (Run.buzzing_step _ _).trans showing.buzzing
  have presented := ready.presentation (plan.stepped cycle)
  -- The poll has written the first piece of the part, the presentation writes the other two.
  have text_eq : plan.partsBefore cycle ++ plan.redrawn cycle ++
      ((if plan.draws cycle then plan.frame (plan.changesBefore (cycle + 1)) (plan.picture cycle)
          else []) ++
        if plan.sounds cycle && !plan.soundsBefore cycle then ['\x07'] else []) =
      plan.partsBefore (cycle + 1) := by
    rw [partsBefore_succ, part, drawn, rung, succeeds, Bool.true_and]
    simp only [List.append_assoc]
  rw [repaint, buzzing] at presented
  constructor
  · have polled := showing.atCycle.poll ordered_keys ordered_themeChanges
      (plan.after cycle).machine.processor.keypad continues.goes_on
    rw [continues.next]
    exact polled.of_sameScript
      (sameScript_emit (plan.ready cycle).stepped (plan.stepped cycle).presentation)
  · rw [continues.next, lastPicture_succ, ← text_eq]
    exact presented
  · rw [continues.next]
    rfl
  · rw [continues.next]
    rfl

include ordered_keys in
theorem showing_of_going (accepts : plan.screen.remaining = none)
    (going : (plan.after cycle).result = none) : plan.Showing cycle (plan.after cycle) :=
  going_induction (motive := fun cycle => plan.Showing cycle (plan.after cycle))
    (showing_begin accepts)
    (fun _ _ _ showing continues => showing.next ordered_keys ordered_themeChanges continues) going

theorem Showing.stops {fault : Fault} (showing : plan.Showing cycle (plan.after cycle))
    (stops : plan.Stops cycle fault) :
    (plan.after (cycle + 1)).device.screen.written =
      plan.screen.written ++ String.ofList (plan.partsBefore (cycle + 1)) := by
  have ready := showing.ready ordered_themeChanges stops.goes_on
  have fails : plan.succeeds cycle = false := by
    rw [Plan.succeeds, stops.outcome]
    rfl
  have part_eq : plan.part cycle = plan.redrawn cycle := by
    simp [part, drawn, rung, draws, fails]
  -- The buzzer may still have to be switched off, but that is not heard.
  have silent : (plan.after (cycle + 1)).device = (plan.ready cycle).device := by
    rw [stops.next]
    exact Terminal.reactAll_silencing _ _
  rw [silent, ready.written, partsBefore_succ, part_eq]

omit ordered_themeChanges in
theorem Quits.device (quits : plan.Quits cycle) :
    (plan.after (cycle + 1)).device = (plan.after cycle).device := by
  rw [quits.next]
  refine (Terminal.reactAll_silencing _ _).trans ?_
  exact (Terminal.poll_of_exhausted _ quits.exhausted).1

include ordered_keys in
/-- At any time a session has written its parts up to there. -/
theorem written_after (accepts : plan.screen.remaining = none) (iterations : Nat) :
    (plan.after iterations).device.screen.written =
      plan.screen.written ++
        String.ofList (plan.partsBefore (plan.after iterations).device.cycle) := by
  induction iterations with
  | zero => exact (showing_begin accepts).shows.written
  | succ iterations induction =>
      cases going : (plan.after iterations).result with
      | some result =>
          rw [plan.after_of_ended (by simp [going]) (Nat.le_succ iterations)]
          exact induction
      | none =>
          have showing := showing_of_going ordered_keys ordered_themeChanges accepts going
          rcases plan.iteration iterations going with
            quits | ⟨fault, stops⟩ | ⟨directive, continues⟩
          · rw [quits.device]
            exact induction
          · rw [stops.counted going]
            exact showing.stops ordered_themeChanges stops
          · have next := showing.next ordered_keys ordered_themeChanges continues
            rw [next.atCycle.cycle]
            exact next.shows.written

end Course

end Plan
end Session
end Chip8
