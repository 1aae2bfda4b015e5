import Chip8.Proofs.Terminal

/-!
# The scripted keys

The terminal applies each written change of a key in the poll of its cycle, whatever the order of
the cycles in the configuration, and changes of one cycle in the order in which they are written.
So a key is down after some polls exactly when the last change written for it so far, by cycle and
then by place, presses it.
-/

namespace Chip8

/-- A change has the last word over a key before a cycle.  It stands between what is written before
and after it; of the other changes of the key before the cycle, those written before it have no
later cycle, and those written after it have an earlier cycle. -/
structure LastWord (script : List KeyChange) (wanted : Key) (limit : Nat)
    (before : List KeyChange) (change : KeyChange) (after : List KeyChange) : Prop where
  written : script = before ++ change :: after
  key : change.key = wanted
  cycle : change.cycle < limit
  before : ∀ rival ∈ before, rival.key = wanted → rival.cycle < limit →
    rival.cycle ≤ change.cycle
  after : ∀ rival ∈ after, rival.key = wanted → rival.cycle < limit → rival.cycle < change.cycle

/-! ### The last word over a key -/

/-- The last of what is selected from a list is followed by nothing that is selected. -/
theorem getLast?_filter_eq_some_iff {α : Type} (events : List α) (selects : α → Bool)
    (event : α) :
    (events.filter selects).getLast? = some event ↔
      ∃ before after, events = before ++ event :: after ∧ selects event = true ∧
        ∀ rival ∈ after, ¬selects rival = true := by
  rw [List.getLast?_eq_some_iff]
  constructor
  · rintro ⟨others, filtered⟩
    obtain ⟨front, back, rfl, -, filtered⟩ := List.filter_eq_append_iff.mp filtered
    obtain ⟨middle, after, rfl, -, selected, rest⟩ := List.filter_eq_cons_iff.mp filtered
    exact ⟨front ++ middle, after, by simp, selected, List.filter_eq_nil_iff.mp rest⟩
  · rintro ⟨before, after, rfl, selected, rest⟩
    exact ⟨before.filter selects, by simp [selected, List.filter_eq_nil_iff.mpr rest]⟩

/-- Among the changes before a cycle, taken cycle by cycle, the last one of a key has the last word
over it. -/
theorem lastWord_iff (script : List KeyChange) (wanted : Key) (limit : Nat)
    (change : KeyChange) :
    ((Script.before KeyChange.cycle script limit).filter
        fun change => change.key = wanted).getLast? = some change ↔
      ∃ before after, LastWord script wanted limit before change after := by
  induction limit with
  | zero =>
      constructor
      · simp [Script.before]
      · rintro ⟨before, after, lastWord⟩
        have := lastWord.cycle
        omega
  | succ limit induction =>
      have selected : (Script.during KeyChange.cycle script limit).filter
            (fun change => change.key = wanted) =
          script.filter fun change => change.key = wanted ∧ change.cycle = limit := by
        simp [Script.during, List.filter_filter]
      rw [Script.before_succ, List.filter_append, List.getLast?_append, selected]
      cases last : (script.filter fun change =>
          change.key = wanted ∧ change.cycle = limit).getLast? with
      | none =>
          -- The cycle holds nothing for the key, and the last word stays what it was.
          have nothing : ∀ rival ∈ script, rival.key = wanted → rival.cycle ≠ limit := by
            simpa using last
          rw [Option.none_or, induction]
          refine exists₂_congr fun before after => ⟨fun lastWord => ?_, fun lastWord => ?_⟩
          · have written := lastWord.written
            refine ⟨written, lastWord.key, Nat.lt_succ_of_lt lastWord.cycle, ?_, ?_⟩
            · intro rival member same early
              have := nothing rival (by simp [written, member]) same
              exact lastWord.before rival member same (by omega)
            · intro rival member same early
              have := nothing rival (by simp [written, member]) same
              exact lastWord.after rival member same (by omega)
          · have written := lastWord.written
            have early := lastWord.cycle
            have apart := nothing change (by simp [written]) lastWord.key
            refine ⟨written, lastWord.key, by omega, ?_, ?_⟩
            · exact fun rival member same early => lastWord.before rival member same (by omega)
            · exact fun rival member same early => lastWord.after rival member same (by omega)
      | some found =>
          rw [Option.some_or, ← last, getLast?_filter_eq_some_iff]
          simp only [decide_eq_true_eq]
          refine exists₂_congr fun before after => ⟨?_, fun lastWord => ?_⟩
          · rintro ⟨written, ⟨same, now⟩, rest⟩
            refine ⟨written, same, by omega, fun rival _ _ early => by omega, ?_⟩
            intro rival member same_rival early
            have apart : rival.cycle ≠ limit := fun again => rest rival member ⟨same_rival, again⟩
            omega
          · have written := lastWord.written
            have early := lastWord.cycle
            -- Something is written for the key in the cycle, so the last word is spoken in it.
            have now : change.cycle = limit := by
              have member := List.mem_of_getLast? last
              simp only [List.mem_filter, decide_eq_true_eq, written, List.mem_append,
                List.mem_cons] at member
              obtain ⟨earlier | rfl | later, same, found_now⟩ := member
              · have := lastWord.before found earlier same (by omega)
                omega
              · exact found_now
              · have := lastWord.after found later same (by omega)
                omega
            refine ⟨written, ⟨lastWord.key, now⟩, ?_⟩
            rintro rival member ⟨same, again⟩
            have := lastWord.after rival member same (by omega)
            omega

namespace Terminal

/-- Of the changes applied to a keypad, the last one of a key decides whether it is down. -/
theorem isDown_applyKeys (keypad : Keypad) (changes : List KeyChange) (wanted : Key) :
    (applyKeys keypad changes).isDown wanted.toByte =
      ((changes.filter fun change => change.key = wanted).getLast?.map KeyChange.pressed).getD
        (keypad.isDown wanted.toByte) := by
  induction changes using List.reverseRecOn with
  | nil => rfl
  | append_singleton changes change induction =>
      have set_eq : applyKeys keypad (changes ++ [change]) =
          (applyKeys keypad changes).set change.key.toByte change.pressed := by
        simp [applyKeys]
      have toByte_iff : wanted.toByte = change.key.toByte ∧ change.key.toByte < 16 ↔
          change.key = wanted := by
        have every : ∀ one other : Key,
            one.toByte = other.toByte ∧ other.toByte < 16 ↔ other = one := by decide
        exact every wanted change.key
      rw [set_eq, Keypad.isDown_set, List.filter_append, List.getLast?_append]
      by_cases same : change.key = wanted
      · rw [if_pos (toByte_iff.mpr same)]
        simp [same]
      · rw [if_neg fun pressed => same (toByte_iff.mp pressed)]
        simp [same, induction]

/-- A terminal and the keys that nothing else changes, after some polls.  Between the polls any
outputs may be asked of the terminal. -/
def attend (terminal : Terminal) (outputs : Nat → List Output) : Nat → Terminal × Keypad
  | 0 => (terminal, .empty)
  | polls + 1 =>
      let (terminal, keypad) := terminal.attend outputs polls
      let poll := terminal.poll keypad
      ((device.reactAll poll.device (outputs polls)).device, poll.keypad)

/-- The answer to one of the polls. -/
def answer (terminal : Terminal) (outputs : Nat → List Output) (poll : Nat) : Poll Terminal :=
  let (terminal, keypad) := terminal.attend outputs poll
  terminal.poll keypad

/-- How the keys follow what is written, over a number of polls of a terminal. -/
structure FollowsScript (written : Settings) (terminal : Terminal) (outputs : Nat → List Output)
    (polls : Nat) : Prop where
  /-- There are no more polls than cycles. -/
  within : ∀ maxCycles, written.maxCycles = some maxCycles → polls ≤ maxCycles
  /-- A poll applies what is written for its own cycle, in the order in which it is written. -/
  applied : ∀ cycle < polls, (terminal.answer outputs cycle).keypad =
    applyKeys (terminal.attend outputs cycle).2
      (written.keys.filter fun change => change.cycle = cycle)
  /-- Each of these changes is reported once, and no other. -/
  reported : ∀ cycle < polls,
    (terminal.answer outputs cycle).records.filterMap LogRecord.keyChange? =
      written.keys.filter fun change => change.cycle = cycle
  /-- The changes of later cycles are all still to come. -/
  pending : (terminal.attend outputs polls).1.keys.Perm
    (written.keys.filter fun change => polls ≤ change.cycle)
  /-- A key is down when the last word over it so far presses it. -/
  down : ∀ wanted : Key, (terminal.attend outputs polls).2.isDown wanted.toByte = true ↔
    ∃ before change after, LastWord written.keys wanted polls before change after ∧
      change.pressed = true

section

variable {written : Settings} {screen : Screen} {outputs : Nat → List Output} {polls : Nat}

theorem exhausted_of_answer {terminal : Terminal} {poll : Nat}
    (answered : (terminal.answer outputs poll).control = .proceed) :
    (terminal.attend outputs poll).1.exhausted = false := by
  rw [answer, control_poll] at answered
  simpa using answered

theorem attend_start
    (answered : ∀ poll < polls,
      ((start written.ordered screen).answer outputs poll).control = .proceed) :
    AtCycle written.ordered polls ((start written.ordered screen).attend outputs polls).1 ∧
      ((start written.ordered screen).attend outputs polls).2 =
        applyKeys .empty (Script.before KeyChange.cycle written.keys polls) := by
  induction polls with
  | zero => exact ⟨atCycle_start _ _, rfl⟩
  | succ polls induction =>
      obtain ⟨atCycle, keypad⟩ := induction fun poll earlier => answered poll (by omega)
      have goes_on := exhausted_of_answer (answered polls (Nat.lt_succ_self polls))
      have next := atCycle.poll written.ordered_keys written.ordered_themeChanges
        ((start written.ordered screen).attend outputs polls).2 goes_on
      refine ⟨next.of_sameScript (sameScript_reactAll _ _), ?_⟩
      have plays := plays_poll ((start written.ordered screen).attend outputs polls).2 goes_on
      refine plays.keypad.trans ?_
      rw [atCycle.dueKeys written.ordered_keys, Settings.during_ordered_keys, keypad,
        Script.before_succ, applyKeys, applyKeys, applyKeys, List.foldl_append]

theorem answered_of_within
    (within : ∀ maxCycles, written.maxCycles = some maxCycles → polls ≤ maxCycles) :
    ∀ poll < polls, ((start written.ordered screen).answer outputs poll).control = .proceed := by
  induction polls with
  | zero => simp
  | succ polls induction =>
      have earlier := induction fun maxCycles limited => by
        have := within maxCycles limited
        omega
      intro poll poll_lt
      rcases Nat.lt_succ_iff_lt_or_eq.mp poll_lt with before | rfl
      · exact earlier poll before
      · have atCycle := (attend_start earlier).1
        rw [answer, control_poll, exhausted, atCycle.maxCycles, atCycle.cycle]
        cases limited : written.maxCycles with
        | none => simp [Settings.ordered, limited]
        | some maxCycles =>
            have := within maxCycles limited
            simp only [Settings.ordered, limited, ite_eq_right_iff, decide_eq_true_eq, reduceCtorEq,
              imp_false]
            omega

theorem answer_of_atCycle {terminal : Terminal} {poll : Nat}
    (atCycle : AtCycle written.ordered poll (terminal.attend outputs poll).1)
    (answered : (terminal.answer outputs poll).control = .proceed) :
    (terminal.answer outputs poll).keypad =
        applyKeys (terminal.attend outputs poll).2
          (Script.during KeyChange.cycle written.keys poll) ∧
      (terminal.answer outputs poll).records.filterMap LogRecord.keyChange? =
        Script.during KeyChange.cycle written.keys poll := by
  have plays := plays_poll (terminal.attend outputs poll).2 (exhausted_of_answer answered)
  have due := (atCycle.dueKeys written.ordered_keys).trans (written.during_ordered_keys poll)
  constructor
  · rw [← due]
    exact plays.keypad
  · refine plays.reported.trans ?_
    rw [due, atCycle.cycle]
    refine (List.map_congr_left fun change member => ?_).trans (List.map_id _)
    simp only [Script.during, List.mem_filter, decide_eq_true_eq] at member
    simp [← member.2]

/-- Over any number of polls that were answered by going on, the keys follow the script. -/
theorem followsScript
    (answered : ∀ poll < polls,
      ((start written.ordered screen).answer outputs poll).control = .proceed) :
    FollowsScript written (start written.ordered screen) outputs polls := by
  have course (cycle : Nat) (earlier : cycle ≤ polls) :
      AtCycle written.ordered cycle ((start written.ordered screen).attend outputs cycle).1 :=
    (attend_start fun poll before => answered poll (by omega)).1
  obtain ⟨atCycle, keypad⟩ := attend_start answered
  constructor
  · intro maxCycles limited
    cases polls with
    | zero => exact Nat.zero_le _
    | succ polls =>
        have goes_on := exhausted_of_answer (answered polls (Nat.lt_succ_self polls))
        have before := course polls (Nat.le_succ polls)
        rw [exhausted, before.maxCycles, before.cycle] at goes_on
        simpa [Settings.ordered, limited, Nat.succ_le_iff] using goes_on
  · intro cycle earlier
    exact (answer_of_atCycle (course cycle (by omega)) (answered cycle earlier)).1
  · intro cycle earlier
    exact (answer_of_atCycle (course cycle (by omega)) (answered cycle earlier)).2
  · rw [atCycle.keys]
    exact (List.mergeSort_perm written.keys _).filter _
  · intro wanted
    have word := lastWord_iff written.keys wanted polls
    rw [keypad, isDown_applyKeys, Keypad.isDown_empty]
    cases last : ((Script.before KeyChange.cycle written.keys polls).filter
        fun change => change.key = wanted).getLast? with
    | none =>
        constructor
        · simp
        · rintro ⟨before, change, after, lastWord, -⟩
          have spoken := (word change).mpr ⟨before, after, lastWord⟩
          simp [last] at spoken
    | some change =>
        constructor
        · intro pressed
          obtain ⟨before, after, lastWord⟩ := (word change).mp last
          exact ⟨before, change, after, lastWord, pressed⟩
        · rintro ⟨before, other, after, lastWord, pressed⟩
          have spoken := (word other).mpr ⟨before, after, lastWord⟩
          rw [last, Option.some.injEq] at spoken
          rw [spoken]
          exact pressed

end

/-- The keys follow the script of a configuration over any number of polls, and only the order of
the changes within each cycle matters. -/
theorem keys_follow_script {text : String} {settings : Settings}
    (configured : Settings.ofText text = .ok settings) :
    ∃ written, Settings.written text = .ok written ∧
      (∀ (screen : Screen) (outputs : Nat → List Output) (polls : Nat),
        (∀ poll < polls, ((start settings screen).answer outputs poll).control = .proceed) →
          FollowsScript written (start settings screen) outputs polls) ∧
      ∀ keys : List KeyChange,
        (∀ cycle, (keys.filter fun change => change.cycle = cycle) =
          written.keys.filter fun change => change.cycle = cycle) →
        { written with keys }.ordered = settings := by
  obtain ⟨written, reading, rfl⟩ := Settings.exists_written_of_ofText configured
  refine ⟨written, reading, fun screen outputs polls => followsScript, ?_⟩
  intro keys same
  have keys_eq : { written with keys }.ordered.keys = written.ordered.keys := by
    refine (Settings.ordered_keys _).eq_of_during (Settings.ordered_keys _) fun cycle => ?_
    rw [Settings.during_ordered_keys, Settings.during_ordered_keys]
    exact same cycle
  simp only [Settings.ordered] at keys_eq ⊢
  rw [keys_eq]

/-- A key that is pressed in the first cycle and released in the third, written the other way
round, is down after the second. -/
theorem keys_follow_script_press_release :
    ∃ settings, Settings.ofText
        "keys: [{ cycle: 2, key: 5, pressed: false }, { cycle: 0, key: 5 }]" = .ok settings ∧
      ((start settings {}).attend (fun _ => []) 2).2.isDown (Key.toByte 5) = true := by
  let release : KeyChange := ⟨2, 5, false⟩
  let press : KeyChange := ⟨0, 5, true⟩
  have reading : Settings.written
      "keys: [{ cycle: 2, key: 5, pressed: false }, { cycle: 0, key: 5 }]" =
        .ok { keys := [release, press] } := by decide +kernel
  have configured := Settings.ofText_eq
    "keys: [{ cycle: 2, key: 5, pressed: false }, { cycle: 0, key: 5 }]"
  rw [reading] at configured
  obtain ⟨written, again, follows, -⟩ := keys_follow_script configured
  obtain rfl : { keys := [release, press] } = written := by
    rw [reading] at again
    exact Except.ok.inj again
  refine ⟨_, configured, ?_⟩
  have answered : ∀ poll < 2, ((start (Settings.ordered { keys := [release, press] }) {}).answer
      (fun _ => []) poll).control = .proceed := answered_of_within (by simp)
  refine ((follows {} _ 2 answered).down 5).mpr ⟨[release], press, [], ?_, rfl⟩
  exact ⟨rfl, rfl, by decide, by decide, by simp⟩

end Terminal
end Chip8
