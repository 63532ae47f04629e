import Microboard.Checks.Run
import Mathlib.Data.List.Induction
import Mathlib.Data.List.Nodup

/-!
# What a run of gates does

A run deals with one gate after the other. Those that are wanted get a process each, in
the order of the gates, and every gate leaves its key in one of the three lists of the
report. The report and the processes are read off the gates and off how the processes
end, first after one more gate and then after all of them.
-/

namespace Microboard.Checks

/-- Whether a gate is to be run: it is not left out, and it is named if any gate is. -/
def Settings.Wants (settings : Settings) (gate : Gate) : Prop :=
  gate.key ∉ settings.skip ∧ (settings.only = [] ∨ gate.key ∈ settings.only)

instance (settings : Settings) (gate : Gate) : Decidable (settings.Wants gate) :=
  inferInstanceAs (Decidable (_ ∧ _))

theorem Settings.selects_eq (settings : Settings) (gate : Gate) :
    settings.selects gate = decide (settings.Wants gate) := by
  rw [Bool.eq_iff_iff, decide_eq_true_iff]
  simp [selects, Wants, and_comm]

/-- The process could be started, and it returned zero. -/
def Outcome.Succeeds (outcome : Outcome) : Prop :=
  ∃ out err, outcome = .ended 0 out err

theorem Outcome.passes_iff (outcome : Outcome) :
    outcome.passes = true ↔ outcome.Succeeds := by
  cases outcome with
  | missing reason => simp [passes, Succeeds]
  | ended code out err => simp [passes, Succeeds]

instance (outcome : Outcome) : Decidable outcome.Succeeds :=
  decidable_of_iff _ outcome.passes_iff

theorem Gate.run_passed (gate : Gate) (fix verbose : Bool) (outcome : Outcome) :
    (gate.run fix verbose outcome).passed = decide outcome.Succeeds := by
  have passes : (gate.run fix verbose outcome).passed = outcome.passes := by
    cases outcome with
    | missing reason => rfl
    | ended code out err => rfl
  rw [passes, Bool.eq_iff_iff, outcome.passes_iff, decide_eq_true_iff]

theorem Gate.run_call (gate : Gate) (fix verbose : Bool) (outcome : Outcome) :
    (gate.run fix verbose outcome).call = ⟨gate.chosen fix, gate.capture && !verbose⟩ := by
  cases outcome with
  | missing reason => rfl
  | ended code out err => rfl

theorem Gate.chosen_of_repair
    {gate : Gate} {command : List String}
    (given : gate.fixCommand = some command) (filled : command ≠ []) :
    gate.chosen true = command := by
  simp [chosen, repair?, given, filled]

theorem Gate.chosen_of_no_repair
    {gate : Gate} {fix : Bool}
    (idle : ∀ command, fix = true → gate.fixCommand = some command → command = []) :
    gate.chosen fix = gate.command := by
  unfold chosen repair?
  cases given : gate.fixCommand with
  | none => rfl
  | some command =>
      cases fix with
      | false => rfl
      | true => simp [idle command rfl given]

namespace Settings

/-- The gates that are run, each with the number of its process. -/
def started (settings : Settings) (gates : List Gate) : List (Gate × Nat) :=
  (gates.filter fun gate => decide (settings.Wants gate)).zipIdx

def passed (settings : Settings) (outcomes : Nat → Outcome) (gates : List Gate) : List Gate :=
  ((settings.started gates).filter fun start => decide (outcomes start.2).Succeeds).map (·.1)

def failed (settings : Settings) (outcomes : Nat → Outcome) (gates : List Gate) : List Gate :=
  ((settings.started gates).filter fun start => !decide (outcomes start.2).Succeeds).map (·.1)

def skipped (settings : Settings) (gates : List Gate) : List Gate :=
  gates.filter fun gate => !decide (settings.Wants gate)

/-- What is known when some gates have been dealt with. -/
def checked (settings : Settings) (outcomes : Nat → Outcome) (gates : List Gate) : Check where
  report :=
    { passed := (settings.passed outcomes gates).map (·.key)
      failed := (settings.failed outcomes gates).map (·.key)
      skipped := (settings.skipped gates).map (·.key) }
  runs := (settings.started gates).map fun start =>
    start.1.run settings.fix settings.verbose (outcomes start.2)

variable {settings : Settings} {outcomes : Nat → Outcome} {gates : List Gate} {gate : Gate}

theorem started_snoc (wants : settings.Wants gate) :
    settings.started (gates ++ [gate]) =
      settings.started gates ++ [(gate, (settings.started gates).length)] := by
  simp [started, List.zipIdx_append, wants]

theorem started_snoc_of_not (spared : ¬ settings.Wants gate) :
    settings.started (gates ++ [gate]) = settings.started gates := by
  simp [started, spared]

theorem skipped_snoc (wants : settings.Wants gate) :
    settings.skipped (gates ++ [gate]) = settings.skipped gates := by
  simp [skipped, wants]

theorem skipped_snoc_of_not (spared : ¬ settings.Wants gate) :
    settings.skipped (gates ++ [gate]) = settings.skipped gates ++ [gate] := by
  simp [skipped, spared]

theorem visit_checked :
    (settings.visit (Gate.start settings outcomes) (settings.checked outcomes gates).report
        gate).run
        (settings.checked outcomes gates).runs =
      pure ((settings.checked outcomes (gates ++ [gate])).report,
        (settings.checked outcomes (gates ++ [gate])).runs) := by
  by_cases wants : settings.Wants gate
  · have number : (settings.checked outcomes gates).runs.length =
        (settings.started gates).length := by
      simp [checked]
    by_cases ends : (outcomes (settings.started gates).length).Succeeds
    · simp [visit, selects_eq, wants, Gate.start, number, Gate.run_passed, ends]
      simp [checked, passed, failed, started_snoc, skipped_snoc, wants, ends]
    · simp [visit, selects_eq, wants, Gate.start, number, Gate.run_passed, ends]
      simp [checked, passed, failed, started_snoc, skipped_snoc, wants, ends]
  · simp [visit, selects_eq, wants]
    simp [checked, passed, failed, started_snoc_of_not, skipped_snoc_of_not, wants]

/-- By induction on the gates that have been dealt with; the processes they have got give
the number of the next one. -/
theorem runGates_eq (settings : Settings) (outcomes : Nat → Outcome) (gates : List Gate) :
    runGates settings outcomes gates = settings.checked outcomes gates := by
  have run : (reportFrom settings (Gate.start settings outcomes) gates).run [] =
      pure ((settings.checked outcomes gates).report, (settings.checked outcomes gates).runs) := by
    unfold reportFrom
    induction gates using List.reverseRecOn with
    | nil => rfl
    | append_singleton gates gate induction =>
        rw [List.foldlM_append, StateT.run_bind, induction, pure_bind]
        simpa using visit_checked
  unfold runGates
  rw [run]
  rfl

theorem passed_failed_perm (settings : Settings) (outcomes : Nat → Outcome)
    (gates : List Gate) :
    (settings.passed outcomes gates ++ settings.failed outcomes gates).Perm
      (gates.filter fun gate => decide (settings.Wants gate)) := by
  have starts := (List.filter_append_perm
    (fun start : Gate × Nat => decide (outcomes start.2).Succeeds)
    (settings.started gates)).map Prod.fst
  rw [List.map_append, started, List.zipIdx_map_fst] at starts
  exact starts

theorem perm (settings : Settings) (outcomes : Nat → Outcome) (gates : List Gate) :
    (settings.passed outcomes gates ++ settings.failed outcomes gates ++
      settings.skipped gates).Perm gates :=
  ((settings.passed_failed_perm outcomes gates).append_right _).trans
    (List.filter_append_perm _ gates)

theorem started_sublist (settings : Settings) (gates : List Gate) :
    ((settings.started gates).map (·.1)).Sublist gates := by
  rw [started, List.zipIdx_map_fst]
  exact List.filter_sublist

theorem failed_eq_nil_iff :
    settings.failed outcomes gates = [] ↔
      ∀ start ∈ settings.started gates, (outcomes start.2).Succeeds := by
  simp [failed, List.filter_eq_nil_iff]

end Settings

/-- What a check does and says, in terms of its gates and of how their processes end. -/
structure Partitions (settings : Settings) (outcomes : Nat → Outcome) (gates : List Gate)
    (check : Check) : Prop where
  starts : (settings.started gates).map (·.1) = gates.filter fun gate =>
    decide (gate.key ∉ settings.skip ∧ (settings.only = [] ∨ gate.key ∈ settings.only))
  numbers : (settings.started gates).map (·.2) = List.range (settings.started gates).length
  runs : check.runs = (settings.started gates).map fun start =>
    start.1.run settings.fix settings.verbose (outcomes start.2)
  calls : ∀ (gate : Gate) (outcome : Outcome),
    (gate.run settings.fix settings.verbose outcome).call =
      ⟨gate.chosen settings.fix, gate.capture && !settings.verbose⟩
  repairs : ∀ (gate : Gate) (command : List String), settings.fix = true →
    gate.fixCommand = some command → command ≠ [] → gate.chosen settings.fix = command
  inspects : ∀ gate : Gate,
    (∀ command, settings.fix = true → gate.fixCommand = some command → command = []) →
    gate.chosen settings.fix = gate.command
  passed : check.report.passed = ((settings.started gates).filter fun start =>
    decide (outcomes start.2).Succeeds).map (·.1.key)
  failed : check.report.failed = ((settings.started gates).filter fun start =>
    !decide (outcomes start.2).Succeeds).map (·.1.key)
  skipped : check.report.skipped = (gates.filter fun gate =>
    decide (gate.key ∈ settings.skip ∨ settings.only ≠ [] ∧ gate.key ∉ settings.only)).map (·.key)
  passed_ordered : check.report.passed.Sublist (gates.map (·.key))
  failed_ordered : check.report.failed.Sublist (gates.map (·.key))
  skipped_ordered : check.report.skipped.Sublist (gates.map (·.key))
  whole : (check.report.passed ++ check.report.failed ++ check.report.skipped).Perm
    (gates.map (·.key))
  verdict : ∀ start ∈ settings.started gates,
    (∀ other ∈ settings.started gates, other.1.key = start.1.key → other = start) →
    (start.1.key ∈ check.report.passed ↔ (outcomes start.2).Succeeds)
  status : check.status = 1 ↔
    ∃ start ∈ settings.started gates, ¬ (outcomes start.2).Succeeds
  otherwise : check.status ≠ 1 → check.status = 0

theorem Settings.checked_partitions (settings : Settings) (outcomes : Nat → Outcome)
    (gates : List Gate) :
    Partitions settings outcomes gates (settings.checked outcomes gates) := by
  have passed : (settings.checked outcomes gates).report.passed =
      ((settings.started gates).filter fun start =>
        decide (outcomes start.2).Succeeds).map (·.1.key) := by
    simp [Settings.checked, Settings.passed]
  have status : (settings.checked outcomes gates).status =
      if settings.failed outcomes gates = [] then 0 else 1 := by
    simp [Check.status, Report.status, Settings.checked]
  constructor
  case starts => exact List.zipIdx_map_fst 0 _
  case numbers => simp [Settings.started, List.range_eq_range']
  case runs => rfl
  case calls => intro gate outcome; exact gate.run_call _ _ outcome
  case repairs =>
    intro gate command fix given filled
    rw [fix]
    exact Gate.chosen_of_repair given filled
  case inspects => intro gate idle; exact Gate.chosen_of_no_repair idle
  case passed => exact passed
  case failed => simp [Settings.checked, Settings.failed]
  case skipped =>
    apply congrArg (List.map _)
    apply List.filter_congr
    intro gate _
    rw [← decide_not, decide_eq_decide, Settings.Wants, not_and_or, not_or, not_not]
  case passed_ordered =>
    exact ((List.filter_sublist.map Prod.fst).trans (settings.started_sublist gates)).map _
  case failed_ordered =>
    exact ((List.filter_sublist.map Prod.fst).trans (settings.started_sublist gates)).map _
  case skipped_ordered => exact List.filter_sublist.map _
  case whole =>
    have keys := (settings.perm outcomes gates).map (·.key)
    rwa [List.map_append, List.map_append] at keys
  case verdict =>
    intro start among single
    rw [passed, List.mem_map]
    constructor
    · rintro ⟨other, member, same⟩
      obtain ⟨listed, succeeds⟩ := List.mem_filter.1 member
      rw [single other listed same] at succeeds
      exact of_decide_eq_true succeeds
    · intro succeeds
      exact ⟨start, List.mem_filter.2 ⟨among, decide_eq_true succeeds⟩, rfl⟩
  case status =>
    rw [status]
    simp [Settings.failed_eq_nil_iff]
  case otherwise =>
    intro other
    rw [status] at other ⊢
    split at other <;> simp_all

theorem runGates_partitions (settings : Settings) (outcomes : Nat → Outcome)
    (gates : List Gate) :
    Partitions settings outcomes gates (runGates settings outcomes gates) := by
  rw [Settings.runGates_eq]
  exact settings.checked_partitions outcomes gates

theorem gates_keys_nodup (fast : Bool) : ((gates fast).map (·.key)).Nodup := by
  cases fast with
  | false => decide
  | true => decide

/-- The program runs its own gates. No two of them have the same key, so that the report
says of each what became of it. -/
theorem main_partitions
    {words : List String} {settings : Settings} (outcomes : Nat → Outcome)
    (read : Settings.read words = .ok settings) :
    ∃ check, main words outcomes = .ok check ∧
      Partitions settings outcomes (gates settings.fast) check ∧
      ∀ start ∈ settings.started (gates settings.fast),
        start.1.key ∈ check.report.passed ↔ (outcomes start.2).Succeeds := by
  have partitions := settings.checked_partitions outcomes (gates settings.fast)
  refine ⟨_, ?_, partitions, ?_⟩
  · rw [main, read, ← Settings.runGates_eq]
    rfl
  · intro start among
    apply partitions.verdict start among
    intro other listed same
    have distinct : ((settings.started (gates settings.fast)).map (·.1.key)).Nodup := by
      have keys := (settings.started_sublist (gates settings.fast)).map (·.key)
      rw [List.map_map] at keys
      exact (gates_keys_nodup settings.fast).sublist keys
    exact List.inj_on_of_nodup_map distinct listed among same

end Microboard.Checks
