import Microboard.Proofs.Config.Acceptance

/-!
# Normal forms of configurations

A configuration can be spelled in many ways: numbers as texts, buttons as the letters of a
word, delays that are left out.  Written down from its own fields it is read again as the
same configuration, because every conversion leaves what it has converted as it is.
-/

namespace Microboard.BoardConfig

/-- The plain mapping that a configuration is written down as. -/
def mapping (config : BoardConfig) : Value :=
  .dict
    [(.str "board_name", .str config.boardName),
     (.str "pins", .dict
       [(.str "prefix", .str config.pins.stem), (.str "count", .int config.pins.count)]),
     (.str "display", .dict
       [(.str "width", .int config.display.width), (.str "height", .int config.display.height)]),
     (.str "buttons", .list (config.buttons.map .str)),
     (.str "timing", .dict
       [(.str "forever_interval_ms", config.timing.forever.value),
        (.str "scroll_interval_ms", config.timing.scroll.value)])]

/-- The fields meet every demand, and the delays are floats. -/
structure Normal (config : BoardConfig) : Prop where
  met : ∀ field : BadField, field.Met config
  forever : ∃ real, config.timing.forever = .real real
  scroll : ∃ real, config.timing.scroll = .real real

variable {raw : Value} {config : BoardConfig}

theorem Normal.of_accepted (accepted : ofValue raw = .ok config) : config.Normal := by
  obtain ⟨fields, met⟩ := ofValue_eq_ok_iff.mp accepted
  obtain ⟨given, -, ⟨_, forever, -, -, iterating⟩, ⟨_, scroll, -, -, scrolling⟩⟩ := fields.timing
  exact ⟨met, ⟨forever, iterating⟩, ⟨scroll, scrolling⟩⟩

/-- Every field of a mapping that has been written down converts to the field it comes from. -/
theorem Normal.fields_mapping (normal : config.Normal) : Fields config.mapping config := by
  obtain ⟨forever, iterating⟩ := normal.forever
  obtain ⟨scroll, scrolling⟩ := normal.scroll
  have written : (config.buttons.map Value.str).mapM Value.toText = .ok config.buttons := by
    have told : (config.buttons.map Value.str).findSome? Value.textFault? = none := by
      simp [Value.textFault?]
    simp only [Value.mapM_toText, told, List.map_map]
    exact congrArg Except.ok (List.map_id _)
  constructor
  case boardName => exact ⟨_, rfl, rfl⟩
  case pins => exact ⟨_, rfl, ⟨_, rfl, rfl⟩, ⟨_, rfl, rfl⟩⟩
  case display => exact ⟨_, rfl, ⟨_, rfl, rfl⟩, ⟨_, rfl, rfl⟩⟩
  case buttons => exact ⟨_, _, rfl, rfl, written⟩
  case timing =>
    refine ⟨_, rfl, ⟨_, forever, rfl, ?_, iterating⟩, ⟨_, scroll, rfl, ?_, scrolling⟩⟩
    · rw [iterating]
      rfl
    · rw [scrolling]
      rfl

theorem ofValue_mapping_iff : ofValue config.mapping = .ok config ↔ config.Normal :=
  ⟨Normal.of_accepted, fun normal =>
    ofValue_eq_ok_iff.mpr ⟨normal.fields_mapping, normal.met⟩⟩

/-- A configuration that has been accepted is accepted again, and is the same, when it is written
down from its own fields. -/
theorem accepted_config_reads_back (accepted : ofValue raw = .ok config) :
    ofValue config.mapping = .ok config :=
  ofValue_mapping_iff.mpr (.of_accepted accepted)

/-- A mapping whose fields are of other types than those of the configuration. -/
def looseRaw : Value :=
  .dict
    [(.str "timing", .dict [(.str "forever_interval_ms", .str " +nan "),
       (.str "scroll_interval_ms", .bool true)]),
     (.str "buttons", .dict [(.button .b, .none), (.str "A", .int 0)]),
     (.str "display", .dict [(.str "width", .float 5.5), (.str "height", .str "0_5")]),
     (.str "pins", .dict [(.str "prefix", .none), (.str "count", .str " 1_2 ")]),
     (.str "board_name", .list [.int 7, .str "x"])]

theorem accepted_config_reads_back_loose :
    ofValue looseRaw =
      .ok ⟨"[7, 'x']", ⟨"None", 12⟩, ⟨5, 5⟩, ["B", "A"], ⟨.real (0.0 / 0.0), .real 1.0⟩⟩ ∧
    ofValue (mapping
        ⟨"[7, 'x']", ⟨"None", 12⟩, ⟨5, 5⟩, ["B", "A"], ⟨.real (0.0 / 0.0), .real 1.0⟩⟩) =
      .ok ⟨"[7, 'x']", ⟨"None", 12⟩, ⟨5, 5⟩, ["B", "A"], ⟨.real (0.0 / 0.0), .real 1.0⟩⟩ := by
  have accepted : ofValue looseRaw =
      .ok ⟨"[7, 'x']", ⟨"None", 12⟩, ⟨5, 5⟩, ["B", "A"], ⟨.real (0.0 / 0.0), .real 1.0⟩⟩ := by
    rfl
  exact ⟨accepted, accepted_config_reads_back accepted⟩

end Microboard.BoardConfig
