import Mathlib.Data.List.Nodup
import Mathlib.Data.List.Perm.Subperm
import Microboard.Proofs.Board.Stop

/-!
# Acceptance of configurations

Which raw mappings are accepted as the configuration of a board, and what a board looks
like that is built from an accepted one.  The fields of a mapping and the demands on
them are stated here without the order in which they are read and checked.
-/

namespace Microboard

theorem bind_eq_ok_iff {ε α β : Type} {first : Except ε α} {next : α → Except ε β} {result : β} :
    first >>= next = .ok result ↔ ∃ value, first = .ok value ∧ next value = .ok result := by
  cases first with
  | error problem => simp [bind, Except.bind]
  | ok value => simp [bind, Except.bind]

theorem ConfigResult.convert_eq_ok_iff {α : Type} {result : Except Complaint α} {value : α} :
    ConfigResult.convert result = .ok value ↔ result = .ok value := by
  cases result <;> simp [ConfigResult.convert]

namespace Value

/-- A section has a value under a key, and the text of it is the given one. -/
def HoldsText (container : Value) (key text : String) : Prop :=
  ∃ value, container.section? key = .ok value ∧ value.toText = .ok text

/-- A section has a value under a key, and it converts to an integer. -/
def HoldsInteger (container : Value) (key : String) (number : Int) : Prop :=
  ∃ value, container.section? key = .ok value ∧ value.toInteger = .ok number

/-- A mapping has a value under a key, or the standard one is taken, and it converts to a
float. -/
def HoldsDelay (container : Value) (key : String) (standard : Int) (delay : Number) : Prop :=
  ∃ value real, container.option key (.int standard) = .ok value ∧ value.toReal = .ok real ∧
    delay = .real real

theorem toText_untold {value : Value} {cause : Fault} (untold : value.textFault? = some cause) :
    value.toText = .error (.untold cause) := by
  simp only [toText, untold]

/-- Values are written out one after the other, up to the first one without a text. -/
theorem mapM_toText (values : List Value) :
    values.mapM toText =
      match values.findSome? textFault? with
      | some cause => .error (.untold cause)
      | Option.none => .ok (values.map plain) := by
  induction values with
  | nil => rfl
  | cons first rest induction =>
      rw [List.mapM_cons, List.findSome?_cons]
      cases untold : first.textFault? with
      | some cause => simp only [toText_untold untold, bind, Except.bind]
      | none =>
          simp only [toText, untold, bind, Except.bind, induction]
          cases rest.findSome? textFault? <;> rfl

/-- What is read in the place of a timing section: an empty mapping, when there is none
or when it counts as false. -/
def timingOr (given : Value) : Value :=
  if given.truthy then given else .dict []

end Value

theorem distinct_of_nodup {names : List String} (nodup : names.Nodup) : distinct names = names := by
  have appended (seen rest : List String) (differ : (seen ++ rest).Nodup) :
      rest.foldl (fun seen name => if name ∈ seen then seen else seen ++ [name]) seen =
        seen ++ rest := by
    induction rest generalizing seen with
    | nil => simp
    | cons name rest induction =>
        have unseen : name ∉ seen := by
          intro member
          exact (List.nodup_append.mp differ).2.2 name member name List.mem_cons_self rfl
        rw [List.foldl_cons, if_neg unseen, induction (seen ++ [name]) (by simpa using differ)]
        simp
  exact appended [] names nodup

/-- Numerals of different numbers differ: the number can be read back. -/
theorem numeral_injective : Function.Injective fun number : Nat => toString number := by
  intro left right same
  have digits : Nat.toDigits 10 left = Nat.toDigits 10 right := String.ofList_injective same
  have read (number : Nat) : Nat.ofDigitChars 10 (Nat.toDigits 10 number) 0 = number :=
    Nat.ofDigitChars_toDigits (by decide) (by decide)
  rw [← read left, digits, read]

theorem PinsConfig.nodup_pinIds (pins : PinsConfig) : pins.pinIds.Nodup := by
  unfold PinsConfig.pinIds
  refine List.Nodup.map ?_ List.nodup_range
  intro left right same
  exact numeral_injective ((String.append_right_inj pins.stem).mp same)

namespace BadField

/-- The fields in the order in which they are checked. -/
def order : List BadField := [.pinCount, .pinStem, .display, .buttons, .timing]

/-- What is demanded of a field. -/
def Met (config : BoardConfig) : BadField → Prop
  | .pinCount => 1 ≤ config.pins.count
  | .pinStem => config.pins.stem ≠ ""
  | .display => config.display.width = 5 ∧ config.display.height = 5
  | .buttons => config.buttons.Perm ["A", "B"]
  | .timing => config.timing.forever.isNegative = false ∧ config.timing.scroll.isNegative = false

instance (config : BoardConfig) : (field : BadField) → Decidable (field.Met config)
  | .pinCount => inferInstanceAs (Decidable (_ ≤ _))
  | .pinStem => inferInstanceAs (Decidable (_ ≠ _))
  | .display => inferInstanceAs (Decidable (_ ∧ _))
  | .buttons => inferInstanceAs (Decidable (List.Perm _ _))
  | .timing => inferInstanceAs (Decidable (_ ∧ _))

/-- The demand on a field is the first one, in the order of the checks, that is not met. -/
def FirstUnmet (config : BoardConfig) (field : BadField) : Prop :=
  ¬ field.Met config ∧
    ∃ before after, order = before ++ field :: after ∧ ∀ earlier ∈ before, earlier.Met config

theorem mem_order (field : BadField) : field ∈ order := by
  cases field <;> simp [order]

end BadField

namespace BoardConfig

/-- The sections and keys of a raw mapping are there, and their values convert to the fields
of a configuration. -/
structure Fields (raw : Value) (config : BoardConfig) : Prop where
  boardName : raw.HoldsText "board_name" config.boardName
  pins : ∃ pins, raw.section? "pins" = .ok pins ∧ pins.HoldsText "prefix" config.pins.stem ∧
    pins.HoldsInteger "count" config.pins.count
  display : ∃ display, raw.section? "display" = .ok display ∧
    display.HoldsInteger "width" config.display.width ∧
    display.HoldsInteger "height" config.display.height
  buttons : ∃ buttons names, raw.option "buttons" standardButtons = .ok buttons ∧
    buttons.members = .ok names ∧ names.mapM Value.toText = .ok config.buttons
  timing : ∃ given, raw.option "timing" .none = .ok given ∧
    given.timingOr.HoldsDelay "forever_interval_ms" 20 config.timing.forever ∧
    given.timingOr.HoldsDelay "scroll_interval_ms" 150 config.timing.scroll

theorem readTiming_eq_ok_iff {raw : Value} {timing : TimingConfig} :
    readTiming raw = .ok timing ↔
      ∃ given, raw.option "timing" .none = .ok given ∧
        given.timingOr.HoldsDelay "forever_interval_ms" 20 timing.forever ∧
        given.timingOr.HoldsDelay "scroll_interval_ms" 150 timing.scroll := by
  simp only [readTiming, bind_eq_ok_iff, ConfigResult.convert_eq_ok_iff]
  constructor
  · rintro ⟨given, found, forever, delay, first, firstReal, scroll, pause, second, secondReal, same⟩
    cases same
    exact ⟨given, found, ⟨forever, first, delay, firstReal, rfl⟩,
      ⟨scroll, second, pause, secondReal, rfl⟩⟩
  · obtain ⟨forever, scroll⟩ := timing
    rintro ⟨given, found, ⟨delay, first, firstFound, firstReal, rfl⟩,
      ⟨pause, second, secondFound, secondReal, rfl⟩⟩
    exact ⟨given, found, delay, firstFound, first, firstReal, pause, secondFound, second,
      secondReal, rfl⟩

theorem convert_eq_ok {raw : Value} {config : BoardConfig} :
    convert raw = .ok config ↔ Fields raw config := by
  simp only [convert, bind_eq_ok_iff, ConfigResult.convert_eq_ok_iff, readTiming_eq_ok_iff]
  constructor
  · rintro ⟨pins, pinsFound, display, displayFound, named, nameFound, boardName, called, spelled,
      stemFound, stem, told, count, countFound, pinCount, counted, width, widthFound, columns, wide,
      height, heightFound, rows, high, buttons, listed, names, members, texts, written, timing,
      read, same⟩
    cases same
    exact
      { boardName := ⟨named, nameFound, called⟩
        pins := ⟨pins, pinsFound, ⟨spelled, stemFound, told⟩, ⟨count, countFound, counted⟩⟩
        display := ⟨display, displayFound, ⟨width, widthFound, wide⟩, ⟨height, heightFound, high⟩⟩
        buttons := ⟨buttons, names, listed, members, written⟩
        timing := read }
  · obtain ⟨name, ⟨stem, pinCount⟩, ⟨columns, rows⟩, known, timing⟩ := config
    rintro ⟨⟨named, nameFound, called⟩,
      ⟨pins, pinsFound, ⟨spelled, stemFound, told⟩, ⟨count, countFound, counted⟩⟩,
      ⟨display, displayFound, ⟨width, widthFound, wide⟩, ⟨height, heightFound, high⟩⟩,
      ⟨buttons, names, listed, members, written⟩, read⟩
    exact ⟨pins, pinsFound, display, displayFound, named, nameFound, _, called, spelled, stemFound,
      _, told, count, countFound, _, counted, width, widthFound, _, wide, height, heightFound, _,
      high, buttons, listed, names, members, _, written, timing, read, rfl⟩

/-- A list names every known button, nothing else, and no button twice, exactly when it is
a rearrangement of the known buttons. -/
theorem listsButtons_iff (names : List String) :
    listsButtons names = true ↔ names.Perm ["A", "B"] := by
  have known : buttonNames = ["A", "B"] := rfl
  simp only [listsButtons, known, Bool.and_eq_true, List.all_eq_true, List.contains_iff_mem,
    beq_iff_eq]
  constructor
  · rintro ⟨⟨-, listed⟩, size⟩
    have apart : ["A", "B"].Nodup := by decide
    have within : List.Subperm ["A", "B"] names := List.subperm_of_subset apart listed
    exact (within.perm_of_length_le (Nat.le_of_eq size)).symm
  · intro same
    exact ⟨⟨fun name member => same.mem_iff.mp member, fun name member => same.mem_iff.mpr member⟩,
      same.length_eq⟩

/-- The checks find the first demand that is not met. -/
theorem badField?_eq (config : BoardConfig) :
    config.badField? = BadField.order.find? fun field => !decide (field.Met config) := by
  have checked (field : BadField) (rest : List BadField) :
      (field :: rest).find? (fun field => !decide (field.Met config)) =
        if ¬ field.Met config then some field
        else rest.find? fun field => !decide (field.Met config) := by
    by_cases met : field.Met config <;> simp [met]
  have count : config.pins.count ≤ 0 ↔ ¬ BadField.pinCount.Met config := by
    simp only [BadField.Met]
    omega
  have stem : config.pins.stem.isEmpty = true ↔ ¬ BadField.pinStem.Met config := by
    simp [BadField.Met]
  have display : config.display ≠ ⟨Glyph.height, Glyph.height⟩ ↔ ¬ BadField.display.Met config := by
    cases size : config.display
    simp [BadField.Met, Glyph.height, size]
  have buttons : (!listsButtons config.buttons) = true ↔ ¬ BadField.buttons.Met config := by
    rw [Bool.not_eq_true', ← Bool.not_eq_true, listsButtons_iff]
    rfl
  have timing : (config.timing.forever.isNegative || config.timing.scroll.isNegative) = true ↔
      ¬ BadField.timing.Met config := by
    simp only [BadField.Met]
    cases config.timing.forever.isNegative <;> cases config.timing.scroll.isNegative <;> simp
  simp only [badField?, BadField.order, checked, List.find?_nil, count, stem, display, buttons,
    timing]

theorem badField?_eq_some_iff {config : BoardConfig} {field : BadField} :
    config.badField? = some field ↔ field.FirstUnmet config := by
  rw [badField?_eq, List.find?_eq_some_iff_append]
  simp [BadField.FirstUnmet]

theorem badField?_eq_none_iff {config : BoardConfig} :
    config.badField? = none ↔ ∀ field : BadField, field.Met config := by
  rw [badField?_eq, List.find?_eq_none]
  simp [BadField.mem_order]

theorem ofValue_of_fields {raw : Value} {config : BoardConfig} (fields : Fields raw config) :
    ofValue raw = match config.badField? with
      | some field => .error (.badField field)
      | none => .ok config := by
  rw [ofValue, convert_eq_ok.mpr fields]
  rfl

/-- A configuration is only returned for a mapping whose fields convert to it, and when it
meets every demand. -/
theorem ofValue_eq_ok_iff {raw : Value} {config : BoardConfig} :
    ofValue raw = .ok config ↔ Fields raw config ∧ ∀ field : BadField, field.Met config := by
  constructor
  · intro accepted
    obtain ⟨converted, fields, judged⟩ := bind_eq_ok_iff.mp accepted
    cases bad : converted.badField? with
    | some field => simp [bad] at judged
    | none =>
        simp only [bad, Except.ok.injEq] at judged
        subst judged
        exact ⟨convert_eq_ok.mp fields, badField?_eq_none_iff.mp bad⟩
  · rintro ⟨fields, met⟩
    simp only [ofValue_of_fields fields, badField?_eq_none_iff.mpr met]

theorem buildable_of_met {config : BoardConfig} (met : ∀ field : BadField, field.Met config) :
    config.Buildable where
  pins := by
    have count : 1 ≤ config.pins.count := met .pinCount
    simp only [PinsConfig.pinIds, ne_eq, List.map_eq_nil_iff, List.range_eq_nil]
    omega
  interval := by
    have delay : config.timing.forever.isNegative = false := (met .timing).1
    cases number : config.timing.forever with
    | whole value | real value =>
        rw [number] at delay
        simp [checkInterval, Number.value, Value.number?, delay]

/-- What the hardware of a board looks like when the power comes on: as many pins as the
configuration asks for, each with a name of its own, and nothing is set. -/
structure PoweredOn (config : BoardConfig) (snapshot : Snapshot) : Prop where
  pins : snapshot.pins = (List.range config.pins.count.toNat).map fun number =>
    (config.pins.stem ++ toString number, PinLevels.zero)
  count : (snapshot.pins.length : Int) = config.pins.count
  distinct : (snapshot.pins.map (·.1)).Nodup
  leds : snapshot.leds = List.replicate 5 (List.replicate 5 false)
  buttons : snapshot.buttons = .const false

theorem poweredOn_initial {config : BoardConfig} (met : ∀ field : BadField, field.Met config) :
    PoweredOn config
      (Hardware.initial config.pins.pinIds config.display.width
        config.display.height).snapshot := by
  have count : 1 ≤ config.pins.count := met .pinCount
  have size : config.display.width = 5 ∧ config.display.height = 5 := met .display
  have zeroed : Hardware.zeroPins config.pins.pinIds =
      (List.range config.pins.count.toNat).map fun number =>
        (config.pins.stem ++ toString number, PinLevels.zero) := by
    rw [Hardware.zeroPins, distinct_of_nodup config.pins.nodup_pinIds, PinsConfig.pinIds,
      List.map_map]
    rfl
  constructor
  case pins => exact zeroed
  case count =>
    simp only [Hardware.snapshot, Hardware.initial, zeroed, List.length_map, List.length_range]
    omega
  case distinct =>
    simp only [Hardware.snapshot, Hardware.initial, Hardware.zeroPins, List.map_map,
      distinct_of_nodup config.pins.nodup_pinIds]
    exact (List.map_id _).symm ▸ config.pins.nodup_pinIds
  case leds => simp only [Hardware.snapshot, Hardware.initial, Hardware.darkLeds, size]; rfl
  case buttons => rfl

/-- A raw mapping whose fields convert is accepted exactly when they meet every demand, and
otherwise the first demand that is not met is reported.  An accepted configuration builds a
board, in every world, with the hardware that it asks for. -/
theorem config_acceptance_exact {raw : Value} {config : BoardConfig} (fields : Fields raw config) :
    ((∃ accepted, ofValue raw = .ok accepted) ↔ ∀ field : BadField, field.Met config) ∧
    ((∃ field : BadField, ¬ field.Met config) → ∃ field : BadField, field.FirstUnmet config ∧
      ofValue raw = .error (.badField field) ∧
      (ConfigProblem.badField field).fault =
        .configuration (.str field.path) (.str field.demand) []) ∧
    ∀ accepted, ofValue raw = .ok accepted → accepted = config ∧
      ∀ (world : World) (arguments : Arguments) (identity : Nat),
        arguments.get 1 "config" = .boardConfig accepted identity →
        ∃ next target, world.construct .board arguments = (next, .ok (.board target)) ∧
          PoweredOn accepted
            (next.hardwares.get (next.boards.get target).hardware).snapshot := by
  have read := ofValue_of_fields fields
  have same {accepted : BoardConfig} (returned : ofValue raw = .ok accepted) :
      accepted = config := by
    cases bad : config.badField? with
    | some field => simp [read, bad] at returned
    | none =>
        simp only [read, bad, Except.ok.injEq] at returned
        exact returned.symm
  refine ⟨⟨?_, ?_⟩, ?_, ?_⟩
  · rintro ⟨accepted, returned⟩
    exact same returned ▸ (ofValue_eq_ok_iff.mp returned).2
  · exact fun met => ⟨config, ofValue_eq_ok_iff.mpr ⟨fields, met⟩⟩
  · rintro ⟨unmet, refused⟩
    cases bad : config.badField? with
    | some field => exact ⟨field, badField?_eq_some_iff.mp bad, by rw [read, bad], rfl⟩
    | none => exact absurd (badField?_eq_none_iff.mp bad unmet) refused
  · intro accepted returned
    refine ⟨same returned, fun world arguments identity given => ?_⟩
    have met := (ofValue_eq_ok_iff.mp returned).2
    obtain ⟨next, target, success⟩ := World.buildBoard_of_buildable (buildable_of_met met) world
      (World.clockOf (arguments.get 0 "clock")) identity
    refine ⟨next, target, ?_, ?_⟩
    · simp only [World.construct, World.constructBoard, given, success, World.built]
    · rw [World.buildBoard_hardware success]
      exact poweredOn_initial met

/-- A raw mapping that asks for so many pins. -/
def sampleRaw (count : Int) : Value :=
  .dict
    [(.str "board_name", .str "sample"),
     (.str "pins", .dict [(.str "prefix", .str "P"), (.str "count", .int count)]),
     (.str "display", .dict [(.str "width", .int 5), (.str "height", .int 5)]),
     (.str "timing", .dict
       [(.str "forever_interval_ms", .float 20.0), (.str "scroll_interval_ms", .float 150.0)])]

theorem config_acceptance_exact_pinless :
    ∃ field : BadField,
      field.FirstUnmet ⟨"sample", ⟨"P", 0⟩, ⟨5, 5⟩, ["A", "B"], ⟨.real 20.0, .real 150.0⟩⟩ ∧
      ofValue (sampleRaw 0) = .error (.badField field) ∧
      (ConfigProblem.badField field).fault =
        .configuration (.str field.path) (.str field.demand) [] :=
  (config_acceptance_exact (convert_eq_ok.mp rfl)).2.1 ⟨.pinCount, by decide⟩

end BoardConfig

end Microboard
