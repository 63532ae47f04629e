import Microboard.Proofs.Config.Acceptance

/-!
# Accepted intervals

An interval is refused when it compares below zero.  Floats are in order, but for the one
that is not a number and compares with nothing; so what is accepted is at least zero or not
a number.  The reading of a configuration and the making of a scheduler agree on this.
-/

namespace Microboard

namespace Number

def AtLeastZero : Number → Prop
  | .whole value => 0 ≤ value
  | .real value => (0.0 : Float) ≤ value

def NotANumber : Number → Prop
  | .whole _ => False
  | .real value => value.isNaN = true

open Float.Model in
theorem unpacked_lt_zero_eq_false_iff (unpacked : UnpackedFloat) (sign : UnpackedFloat.Sign) :
    unpacked.lt (.zero sign) = false ↔
      UnpackedFloat.le (.zero sign) unpacked = true ∨ unpacked.isNaN = true := by
  cases unpacked with
  | notANumber => exact ⟨fun _ => .inr rfl, fun _ => rfl⟩
  | zero side => exact ⟨fun _ => .inl rfl, fun _ => rfl⟩
  | infinity side | finite side =>
      cases side with
      | positive => exact ⟨fun _ => .inl rfl, fun _ => rfl⟩
      | negative => exact ⟨nofun, nofun⟩

theorem zero_le_iff (value : Float) : (0.0 : Float) ≤ value ↔
    Float.Model.UnpackedFloat.le (.zero .positive) value.toModel.unpack = true := by
  have zero : (0.0 : Float).toModel.unpack = .zero .positive := rfl
  rw [← zero]
  exact decide_eq_true_iff

theorem real_lt_zero_iff (value : Float) :
    ¬ value < (0.0 : Float) ↔ (0.0 : Float) ≤ value ∨ value.isNaN = true := by
  have zero : (0.0 : Float).toModel.unpack = .zero .positive := rfl
  have below : value < (0.0 : Float) ↔ value.toModel.unpack.lt (.zero .positive) = true := by
    rw [← zero]
    exact decide_eq_true_iff
  rw [below, zero_le_iff, Bool.not_eq_true]
  exact unpacked_lt_zero_eq_false_iff _ _

theorem not_atLeastZero {number : Number} (unordered : number.NotANumber) :
    ¬ number.AtLeastZero := by
  cases number with
  | whole value => exact unordered.elim
  | real value =>
      have unpacked : value.toModel.unpack.isNaN = true := unordered
      rw [AtLeastZero, zero_le_iff]
      generalize value.toModel.unpack = model at unpacked ⊢
      cases model with
      | notANumber => exact nofun
      | zero | infinity | finite => cases unpacked

theorem isNegative_eq_false_iff (number : Number) :
    number.isNegative = false ↔ number.AtLeastZero ∨ number.NotANumber := by
  cases number with
  | whole value => simp [isNegative, AtLeastZero, NotANumber]
  | real value =>
      rw [isNegative, decide_eq_false_iff_not]
      exact real_lt_zero_iff value

end Number

/-- The intervals of a configuration. -/
def TimingConfig.delays (timing : TimingConfig) : List Number :=
  [timing.forever, timing.scroll]

theorem BadField.timing_met_iff (config : BoardConfig) :
    BadField.timing.Met config ↔
      ∀ delay ∈ config.timing.delays, delay.AtLeastZero ∨ delay.NotANumber := by
  simp only [Met, TimingConfig.delays, List.forall_mem_cons, List.not_mem_nil, false_implies,
    implies_true, and_true, Number.isNegative_eq_false_iff]

theorem BoardConfig.ofValue_eq_ok_iff_delays {raw : Value} {config : BoardConfig} :
    ofValue raw = .ok config ↔
      Fields raw config ∧ (∀ field : BadField, field ≠ .timing → field.Met config) ∧
        ∀ delay ∈ config.timing.delays, delay.AtLeastZero ∨ delay.NotANumber := by
  rw [ofValue_eq_ok_iff, ← BadField.timing_met_iff]
  constructor
  · rintro ⟨fields, met⟩
    exact ⟨fields, fun field _ => met field, met .timing⟩
  · rintro ⟨fields, others, timed⟩
    refine ⟨fields, fun field => ?_⟩
    by_cases last : field = .timing
    · exact last ▸ timed
    · exact others field last

/-- A loaded configuration has been read from a raw mapping, whatever the reader is. -/
theorem loadConfig_eq_ok {read : String → Option Value} {name path : Value} {config : BoardConfig}
    (loaded : loadConfig read name path = .ok config) :
    ∃ raw, BoardConfig.ofValue raw = .ok config := by
  obtain ⟨file, -, loaded⟩ := bind_eq_ok_iff.mp loaded
  unfold FileContent.config at loaded
  split at loaded
  · cases loaded
  · split at loaded
    · cases loaded
    · exact ⟨_, loaded⟩
    · cases loaded

theorem World.newScheduler_interval (world : World) (clock : Clock) (interval : Value) :
    ((world.newScheduler clock interval).1.schedulers.get world.schedulers.fresh).interval =
      interval := by
  simp only [newScheduler, newTable, Arena.get_push_fresh]

/-- The intervals of an accepted configuration are at least zero or not a number, and nothing
else is demanded of them; so are those of a configuration that is loaded with any reader of
documents.  A number makes a scheduler exactly when it is such an interval.  The one that is
not a number is not at least zero. -/
theorem accepted_intervals (read : String → Option Value) (raw name path : Value)
    (config : BoardConfig) (world : World) (clock : Clock) (interval : Value) (number : Number)
    (given : interval.number? = some number) :
    (BoardConfig.ofValue raw = .ok config ↔
      BoardConfig.Fields raw config ∧
        (∀ field : BadField, field ≠ .timing → field.Met config) ∧
        ∀ delay ∈ config.timing.delays, delay.AtLeastZero ∨ delay.NotANumber) ∧
    (loadConfig read name path = .ok config →
      ∀ delay ∈ config.timing.delays, delay.AtLeastZero ∨ delay.NotANumber) ∧
    ((∃ next target, world.buildScheduler clock interval = (next, .ok target)) ↔
      number.AtLeastZero ∨ number.NotANumber) ∧
    (∀ next target, world.buildScheduler clock interval = (next, .ok target) →
      (next.schedulers.get target).interval = interval) ∧
    ∀ delay : Number, delay.NotANumber → ¬ delay.AtLeastZero := by
  refine ⟨BoardConfig.ofValue_eq_ok_iff_delays, fun loaded => ?_, ⟨?_, ?_⟩,
    fun next target built => ?_, fun delay unordered => Number.not_atLeastZero unordered⟩
  · obtain ⟨raw, accepted⟩ := loadConfig_eq_ok loaded
    exact (BoardConfig.ofValue_eq_ok_iff_delays.mp accepted).2.2
  · rintro ⟨next, target, built⟩
    obtain ⟨-, -, checked⟩ := World.buildScheduler_ok built
    obtain ⟨-, other, found, fine⟩ := World.checkInterval_eq_ok_iff.mp checked
    obtain rfl : number = other := Option.some.inj (given.symm.trans found)
    exact number.isNegative_eq_false_iff.mp fine
  · intro fine
    have checked : checkInterval interval = .ok interval := World.checkInterval_eq_ok_iff.mpr
      ⟨rfl, number, given, number.isNegative_eq_false_iff.mpr fine⟩
    simp only [World.buildScheduler, checked]
    exact ⟨_, _, rfl⟩
  · obtain ⟨rfl, rfl, -⟩ := World.buildScheduler_ok built
    exact World.newScheduler_interval world clock interval

/-- A raw mapping with the delay that is not a number between the iterations. -/
def unorderedRaw : Value :=
  .dict
    [(.str "board_name", .str "sample"),
     (.str "pins", .dict [(.str "prefix", .str "P"), (.str "count", .int 1)]),
     (.str "display", .dict [(.str "width", .int 5), (.str "height", .int 5)]),
     (.str "timing", .dict
       [(.str "forever_interval_ms", .float (0.0 / 0.0)),
        (.str "scroll_interval_ms", .float 150.0)])]

/-- The delay that is not a number is loaded, and makes a scheduler. -/
theorem accepted_intervals_not_a_number :
    (Value.float (0.0 / 0.0)).number? = some (.real (0.0 / 0.0)) ∧
    (∃ config, BoardConfig.ofValue unorderedRaw = .ok config ∧
      BoardConfig.Fields unorderedRaw config) ∧
    ∃ next target, (World.initial true .empty).buildScheduler .simulated (.float (0.0 / 0.0)) =
      (next, .ok target) := by
  have accepted := accepted_intervals (fun _ => none) unorderedRaw .none .none
    ⟨"sample", ⟨"P", 1⟩, ⟨5, 5⟩, ["A", "B"], ⟨.real (0.0 / 0.0), .real 150.0⟩⟩
    (.initial true .empty) .simulated (.float (0.0 / 0.0)) (.real (0.0 / 0.0)) rfl
  exact ⟨rfl, ⟨_, rfl, (accepted.1.mp rfl).1⟩, accepted.2.2.1.mpr (.inr rfl)⟩

/-- An accepted delay is not at least zero, neither that of a configuration nor that of a
scheduler. -/
theorem accepted_interval_unordered :
    (∃ config, BoardConfig.ofValue unorderedRaw = .ok config ∧
      ¬ config.timing.forever.AtLeastZero) ∧
    ∃ next target number, (World.initial true .empty).buildScheduler .simulated
        (.float (0.0 / 0.0)) = (next, .ok target) ∧
      (next.schedulers.get target).interval.number? = some number ∧ ¬ number.AtLeastZero := by
  have unordered : ¬ (Number.real (0.0 / 0.0)).AtLeastZero := by
    change ¬ (0.0 : Float) ≤ 0.0 / 0.0
    decide
  let timing : TimingConfig := ⟨.real (0.0 / 0.0), .real 150.0⟩
  exact ⟨⟨⟨"sample", ⟨"P", 1⟩, ⟨5, 5⟩, ["A", "B"], timing⟩, rfl, unordered⟩,
    _, _, _, rfl, rfl, unordered⟩

end Microboard
