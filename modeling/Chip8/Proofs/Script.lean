import Chip8.Configuration
import Mathlib.Data.Finset.Lattice.Fold

/-!
# Scripts

A script is a list of things to be done, each at its cycle.  It is written in any order and put
into the order of the cycles before it is played.  What is due is then found at its head, and
whatever belongs to one cycle comes up in the order in which it was written.
-/

namespace Chip8
namespace Script

variable {α : Type} (cycle : α → Nat)

/-- The things of a script are in the order of their cycles. -/
def Ordered (script : List α) : Prop :=
  script.Pairwise fun earlier later => cycle earlier ≤ cycle later

/-- What a script holds for one cycle, as written. -/
def during (script : List α) (moment : Nat) : List α :=
  script.filter fun event => cycle event = moment

/-- What a script holds for the cycles before a cycle, one cycle after the other. -/
def before (script : List α) (moment : Nat) : List α :=
  (List.range moment).flatMap (during cycle script)

/-- What a script holds for a cycle and those after it. -/
def upcoming (script : List α) (moment : Nat) : List α :=
  script.filter fun event => moment ≤ cycle event

theorem before_succ (script : List α) (moment : Nat) :
    before cycle script (moment + 1) =
      before cycle script moment ++ during cycle script moment := by
  simp [before, List.range_succ]

theorem upcoming_zero (script : List α) : upcoming cycle script 0 = script := by
  simp [upcoming]

variable {cycle} {script : List α}

/-! ### Playing an ordered script -/

theorem Ordered.upcoming_eq (ordered : Ordered cycle script) (moment : Nat) :
    upcoming cycle script moment =
      during cycle script moment ++ upcoming cycle script (moment + 1) := by
  unfold upcoming during
  induction script with
  | nil => rfl
  | cons event script induction =>
      obtain ⟨first, rest⟩ := List.pairwise_cons.mp ordered
      have tail := induction rest
      rcases Nat.lt_trichotomy (cycle event) moment with past | now | later
      · have apart : cycle event ≠ moment := by omega
        have not_now : ¬moment ≤ cycle event := by omega
        have not_later : ¬moment + 1 ≤ cycle event := by omega
        simp only [List.filter_cons, decide_eq_true_eq, apart, not_now, not_later, if_false]
        exact tail
      · have not_later : ¬moment + 1 ≤ moment := by omega
        simp only [List.filter_cons, decide_eq_true_eq, now, Nat.le_refl, not_later, if_true,
          if_false, List.cons_append]
        exact congrArg (event :: ·) tail
      · -- Nothing after an event to come belongs to the cycle.
        have none_due : script.filter (fun event => cycle event = moment) = [] := by
          simp only [List.filter_eq_nil_iff, decide_eq_true_eq]
          intro other member
          have := first other member
          omega
        have apart : cycle event ≠ moment := by omega
        have not_yet : moment ≤ cycle event := by omega
        have is_later : moment + 1 ≤ cycle event := by omega
        rw [none_due, List.nil_append] at tail
        simp only [List.filter_cons, decide_eq_true_eq, apart, not_yet, is_later, if_true, if_false,
          none_due, List.nil_append, tail]

/-- Once everything before a cycle has been taken off, what belongs to the cycle is due. -/
theorem Ordered.takeWhile_upcoming (ordered : Ordered cycle script) (moment : Nat) :
    (upcoming cycle script moment).takeWhile (fun event => cycle event ≤ moment) =
      during cycle script moment := by
  have due : ∀ event ∈ during cycle script moment, decide (cycle event ≤ moment) = true := by
    simp +contextual [during]
  have rest : (upcoming cycle script (moment + 1)).takeWhile
      (fun event => cycle event ≤ moment) = [] := by
    cases upcoming_eq : upcoming cycle script (moment + 1) with
    | nil => rfl
    | cons event others =>
        have member : event ∈ upcoming cycle script (moment + 1) := by simp [upcoming_eq]
        simp only [upcoming, List.mem_filter, decide_eq_true_eq] at member
        have not_due : ¬cycle event ≤ moment := by omega
        simp [not_due]
  rw [ordered.upcoming_eq, List.takeWhile_append_of_pos due, rest, List.append_nil]

theorem Ordered.drop_upcoming (ordered : Ordered cycle script) (moment : Nat) :
    (upcoming cycle script moment).drop (during cycle script moment).length =
      upcoming cycle script (moment + 1) := by
  rw [ordered.upcoming_eq, List.drop_left]

theorem Ordered.before_append_upcoming (ordered : Ordered cycle script) (moment : Nat) :
    before cycle script moment ++ upcoming cycle script moment = script := by
  induction moment with
  | zero => simp [before, upcoming_zero]
  | succ moment induction =>
      rw [before_succ, List.append_assoc, ← ordered.upcoming_eq, induction]

/-- An ordered script is determined by what it holds for each cycle. -/
theorem Ordered.eq_of_during {other : List α} (ordered : Ordered cycle script)
    (ordered_other : Ordered cycle other)
    (same : ∀ moment, during cycle script moment = during cycle other moment) :
    script = other := by
  let moments := ((script ++ other).map cycle).toFinset
  -- No cycle of either script lies beyond the last of all of them.
  have spent (events : List α) (part : events ⊆ script ++ other) :
      upcoming cycle events (moments.sup id + 1) = [] := by
    simp only [upcoming, List.filter_eq_nil_iff, decide_eq_true_eq]
    intro event member
    have moment : cycle event ∈ moments :=
      List.mem_toFinset.mpr (List.mem_map_of_mem (part member))
    have last : cycle event ≤ moments.sup id := Finset.le_sup (f := id) moment
    omega
  have spent_script := spent script (List.subset_append_left script other)
  have spent_other := spent other (List.subset_append_right script other)
  have played := ordered.before_append_upcoming (moments.sup id + 1)
  have played_other := ordered_other.before_append_upcoming (moments.sup id + 1)
  rw [spent_script, List.append_nil] at played
  rw [spent_other, List.append_nil] at played_other
  rw [← played, ← played_other, before, before, funext same]

/-! ### Putting a script in order -/

theorem ordered_mergeSort (cycle : α → Nat) (script : List α) :
    Ordered cycle (script.mergeSort fun left right => cycle left ≤ cycle right) := by
  have sorted : (script.mergeSort fun left right => cycle left ≤ cycle right).Pairwise
      fun left right => decide (cycle left ≤ cycle right) = true :=
    List.pairwise_mergeSort (fun a b c => by simp; omega) (fun a b => by simp; omega) script
  simpa [Ordered] using sorted

/-- Putting a script in order leaves what belongs to one cycle as it was written. -/
theorem during_mergeSort (cycle : α → Nat) (script : List α) (moment : Nat) :
    during cycle (script.mergeSort fun left right => cycle left ≤ cycle right) moment =
      during cycle script moment := by
  let sorted := script.mergeSort fun left right => cycle left ≤ cycle right
  have level : (during cycle script moment).Pairwise fun left right =>
      decide (cycle left ≤ cycle right) = true := by
    apply List.pairwise_of_forall_mem_list
    intro left member_left right member_right
    simp only [during, List.mem_filter, decide_eq_true_eq] at member_left member_right ⊢
    omega
  -- Sorting is stable, so what belongs to the cycle keeps its order, and none is lost.
  have kept : (during cycle script moment).Sublist sorted :=
    List.sublist_mergeSort (fun a b c => by simp; omega) (fun a b => by simp; omega) level
      List.filter_sublist
  have among : (during cycle script moment).Sublist (during cycle sorted moment) := by
    have filtered := kept.filter fun event => decide (cycle event = moment)
    rw [during, List.filter_filter] at filtered
    simpa only [during, Bool.and_self] using filtered
  have length_eq : (during cycle script moment).length = (during cycle sorted moment).length :=
    ((List.mergeSort_perm script _).filter _).length_eq.symm
  exact (among.eq_of_length length_eq).symm

end Script

/-! ### The scripts of settings -/

namespace Settings

/-- The settings that a configuration text writes down, with both scripts as they are written. -/
def written (text : String) : Except ConfigurationError Settings :=
  match Yaml.Document.ofText? text with
  | .error cause => .error (.malformed cause)
  | .ok none => .ok {}
  | .ok (some document) => Configuration.readSettings.run document

/-- The settings in use are those written down with both scripts put in order. -/
theorem ofText_eq (text : String) : ofText text = (written text).map ordered := by
  unfold ofText written
  cases Yaml.Document.ofText? text with
  | error cause => rfl
  | ok document =>
      cases document with
      | none => simp [Except.map, ordered]
      | some document => rfl

theorem exists_written_of_ofText {text : String} {settings : Settings}
    (configured : ofText text = .ok settings) :
    ∃ script, written text = .ok script ∧ settings = script.ordered := by
  rw [ofText_eq] at configured
  cases reading : written text with
  | error cause => simp [reading, Except.map] at configured
  | ok script =>
      simp only [reading, Except.map, Except.ok.injEq] at configured
      exact ⟨script, rfl, configured.symm⟩

theorem ordered_keys (settings : Settings) :
    Script.Ordered KeyChange.cycle settings.ordered.keys :=
  Script.ordered_mergeSort KeyChange.cycle settings.keys

theorem during_ordered_keys (settings : Settings) (moment : Nat) :
    Script.during KeyChange.cycle settings.ordered.keys moment =
      Script.during KeyChange.cycle settings.keys moment :=
  Script.during_mergeSort KeyChange.cycle settings.keys moment

theorem ordered_themeChanges (settings : Settings) :
    Script.Ordered id settings.ordered.themeChanges :=
  Script.ordered_mergeSort id settings.themeChanges

end Settings
end Chip8
