import Microboard.Proofs.Config.Acceptance

/-!
# Faults that leave the reading of a configuration

Nearly everything that can be wrong with a raw mapping is reported as a fault of the
configuration.  What is not are two kinds of numbers without an integer or a float, a
timing section that is no mapping, and what the objects of a script raise in place of
their text.
-/

namespace Microboard

theorem bind_eq_error_iff {ε α β : Type} {first : Except ε α} {next : α → Except ε β}
    {problem : ε} :
    first >>= next = .error problem ↔
      first = .error problem ∨ ∃ value, first = .ok value ∧ next value = .error problem := by
  cases first <;> simp [bind, Except.bind]

theorem ConfigResult.convert_eq_error_iff {α : Type} {result : Except Complaint α}
    {problem : ConfigProblem} :
    ConfigResult.convert result = .error problem ↔
      ∃ cause, result = .error cause ∧ problem = .complaint cause := by
  cases result <;> simp [ConfigResult.convert, eq_comm]

/-- The problem is reported as a fault of the configuration. -/
def ConfigProblem.Wrapped (problem : ConfigProblem) : Prop :=
  problem.fault.kind = .configuration

theorem ConfigProblem.wrapped_complaint {cause : Complaint}
    (caught : cause.kind = .type ∨ cause.kind = .value) : (complaint cause).Wrapped := by
  have heading : (Fault.complaint cause).heading? = some "Invalid config schema: " := by
    rcases caught with kind | kind <;> simp [Fault.heading?, Fault.kind, kind]
  have written : (Fault.complaint cause).textFault? = none := by
    simp [Fault.textFault?]
  simp [Wrapped, fault, Fault.reported, heading, written, configurationFault, Fault.kind]

namespace Value

/-- A section has an infinite float under a key. -/
def HoldsInfinity (container : Value) (key : String) : Prop :=
  ∃ real negative, container.section? key = .ok (.float real) ∧
    Decimal.reading real = .infinite negative

/-- A mapping has a whole number under a key that no float comes near to. -/
def HoldsTooLarge (container : Value) (key : String) (standard : Int) : Prop :=
  ∃ value number, container.option key (.int standard) = .ok value ∧
    value.number? = some (.whole number) ∧ Decimal.ofInt? number = Option.none

/-- A section has a value under a key that has no text. -/
def HoldsUntold (container : Value) (key : String) (cause : Fault) : Prop :=
  ∃ value, container.section? key = .ok value ∧ value.textFault? = some cause

theorem toText_error {value : Value} {problem : ConfigProblem}
    (failed : value.toText = .error problem) :
    ∃ cause, value.textFault? = some cause ∧ problem = .untold cause := by
  unfold toText at failed
  split at failed
  next cause untold =>
    cases failed
    exact ⟨cause, untold, rfl⟩
  next => cases failed

theorem HoldsInfinity.unread {container : Value} {key : String}
    (infinite : container.HoldsInfinity key) :
    ∃ value, container.section? key = .ok value ∧ value.toInteger = .error .infinityAsInteger := by
  obtain ⟨real, negative, found, reading⟩ := infinite
  refine ⟨.float real, found, ?_⟩
  simp only [toInteger, reading]

theorem HoldsTooLarge.unread {container : Value} {key : String} {standard : Int}
    (large : container.HoldsTooLarge key standard) :
    ∃ value, container.option key (.int standard) = .ok value ∧
      value.toReal = .error .tooLargeForFloat := by
  obtain ⟨value, number, found, whole, missing⟩ := large
  refine ⟨value, found, ?_⟩
  unfold toReal
  split
  · cases whole
  · simp only [whole, missing]

theorem section?_wrapped {container : Value} {key : String} {problem : ConfigProblem}
    (failed : container.section? key = .error problem) : problem.Wrapped := by
  unfold section? at failed
  split at failed
  · split at failed
    · cases failed
    · cases failed
      rfl
  · cases failed
    exact ConfigProblem.wrapped_complaint (.inl rfl)
  · cases failed
    exact ConfigProblem.wrapped_complaint (.inl rfl)
  · split at failed
    · cases failed
      exact ConfigProblem.wrapped_complaint (.inl rfl)
    · cases failed
      exact ConfigProblem.wrapped_complaint (.inl rfl)

theorem toInteger_error {value : Value} {cause : Complaint}
    (failed : value.toInteger = .error cause) :
    (ConfigProblem.complaint cause).Wrapped ∨ cause = .infinityAsInteger ∧
      ∃ real negative, value = .float real ∧ Decimal.reading real = .infinite negative := by
  unfold toInteger at failed
  split at failed
  · cases failed
  · cases failed
  · next real =>
    split at failed
    · cases failed
      exact .inl (ConfigProblem.wrapped_complaint (.inr rfl))
    · next negative infinite =>
      cases failed
      exact .inr ⟨rfl, real, negative, rfl, infinite⟩
    · cases failed
  · split at failed
    · split at failed
      · cases failed
      · cases failed
        exact .inl (ConfigProblem.wrapped_complaint (.inr rfl))
      · cases failed
        exact .inl (ConfigProblem.wrapped_complaint (.inr rfl))
    · cases failed
      exact .inl (ConfigProblem.wrapped_complaint (.inl rfl))

theorem toReal_error {value : Value} {cause : Complaint} (failed : value.toReal = .error cause) :
    (ConfigProblem.complaint cause).Wrapped ∨ cause = .tooLargeForFloat ∧
      ∃ number, value.number? = some (.whole number) ∧ Decimal.ofInt? number = Option.none := by
  unfold toReal at failed
  split at failed
  · cases failed
  · split at failed
    · next number _ _ _ whole =>
      split at failed
      · cases failed
      · next large =>
        cases failed
        exact .inr ⟨rfl, _, whole, large⟩
    · split at failed
      · cases failed
      · cases failed
        exact .inl (ConfigProblem.wrapped_complaint (.inr rfl))
    · cases failed
      exact .inl (ConfigProblem.wrapped_complaint (.inl rfl))

theorem members_wrapped {value : Value} {cause : Complaint}
    (failed : value.members = .error cause) :
    (ConfigProblem.complaint cause).Wrapped := by
  unfold members at failed
  split at failed
  · cases failed
  · cases failed
  · cases failed
  · split at failed
    · cases failed
    · cases failed
      exact ConfigProblem.wrapped_complaint (.inl rfl)

end Value

namespace BoardConfig

/-- The sections of a raw mapping are there. -/
structure Sectioned (raw pins display : Value) : Prop where
  first : raw.section? "pins" = .ok pins
  second : raw.section? "display" = .ok display

/-- The sections and the two names are there, and the names have a text. -/
structure Opened (raw pins display : Value) : Prop extends Sectioned raw pins display where
  boardName : ∃ text, raw.HoldsText "board_name" text
  stem : ∃ text, pins.HoldsText "prefix" text

/-- The numbers are there, too, and they convert. -/
structure Sized (raw pins display : Value) : Prop where
  opened : Opened raw pins display
  count : ∃ count, pins.HoldsInteger "count" count
  width : ∃ width, display.HoldsInteger "width" width
  height : ∃ height, display.HoldsInteger "height" height

/-- All that is read before the timing section is there and converts. -/
structure Measured (raw pins display : Value) : Prop where
  sized : Sized raw pins display
  buttons : ∃ buttons names texts, raw.option "buttons" standardButtons = .ok buttons ∧
    buttons.members = .ok names ∧ names.mapM Value.toText = .ok texts

/-- The faults that leave the reading of a raw mapping as they are, and the values that
raise them when all that is read before converts. -/
inductive Escapes (raw : Value) : Fault → Prop where
  | boardName {pins display : Value} {cause : Fault} (sections : Sectioned raw pins display)
      (untold : raw.HoldsUntold "board_name" cause)
      (foreign : cause.reported.kind ≠ .configuration) : Escapes raw cause.reported
  | stem {pins display : Value} {text : String} {cause : Fault}
      (sections : Sectioned raw pins display) (named : raw.HoldsText "board_name" text)
      (untold : pins.HoldsUntold "prefix" cause)
      (foreign : cause.reported.kind ≠ .configuration) : Escapes raw cause.reported
  | count {pins display : Value} (opened : Opened raw pins display)
      (infinite : pins.HoldsInfinity "count") : Escapes raw (.complaint .infinityAsInteger)
  | width {pins display : Value} {count : Int} (opened : Opened raw pins display)
      (counted : pins.HoldsInteger "count" count) (infinite : display.HoldsInfinity "width") :
      Escapes raw (.complaint .infinityAsInteger)
  | height {pins display : Value} {count width : Int} (opened : Opened raw pins display)
      (counted : pins.HoldsInteger "count" count) (wide : display.HoldsInteger "width" width)
      (infinite : display.HoldsInfinity "height") : Escapes raw (.complaint .infinityAsInteger)
  | buttons {pins display buttons : Value} {names : List Value} {cause : Fault}
      (sized : Sized raw pins display) (listed : raw.option "buttons" standardButtons = .ok buttons)
      (members : buttons.members = .ok names)
      (untold : names.findSome? Value.textFault? = some cause)
      (foreign : cause.reported.kind ≠ .configuration) : Escapes raw cause.reported
  | timing {pins display given : Value} (measured : Measured raw pins display)
      (found : raw.option "timing" .none = .ok given) (present : given.truthy = true)
      (shapeless : ∀ entries, given ≠ .dict entries) :
      Escapes raw (.complaint (.noAttribute given.typeName "get"))
  | forever {pins display given : Value} (measured : Measured raw pins display)
      (found : raw.option "timing" .none = .ok given)
      (large : given.timingOr.HoldsTooLarge "forever_interval_ms" 20) :
      Escapes raw (.complaint .tooLargeForFloat)
  | scroll {pins display given : Value} {delay : Number} (measured : Measured raw pins display)
      (found : raw.option "timing" .none = .ok given)
      (first : given.timingOr.HoldsDelay "forever_interval_ms" 20 delay)
      (large : given.timingOr.HoldsTooLarge "scroll_interval_ms" 150) :
      Escapes raw (.complaint .tooLargeForFloat)

theorem option_error {container : Value} {key : String} {standard : Value}
    {problem : ConfigProblem} (failed : container.option key standard = .error problem) :
    problem.fault = .complaint (.noAttribute container.typeName "get") ∧
      ∀ entries, container ≠ .dict entries := by
  unfold Value.option at failed
  split at failed
  · cases failed
  · next shapeless =>
    cases failed
    exact ⟨rfl, shapeless⟩

theorem timingOr_shapeless {given : Value} (shapeless : ∀ entries, given.timingOr ≠ .dict entries) :
    given.truthy = true ∧ given.timingOr = given := by
  unfold Value.timingOr at *
  by_cases present : given.truthy = true
  · simp [present]
  · simp [present] at shapeless

variable {entries : Entries} {pins display : Value} {problem : ConfigProblem}

theorem readTiming_error (measured : Measured (.dict entries) pins display)
    (failed : readTiming (.dict entries) = .error problem) :
    problem.Wrapped ∨ Escapes (.dict entries) problem.fault := by
  simp only [readTiming, bind_eq_error_iff, ConfigResult.convert_eq_error_iff,
    ConfigResult.convert_eq_ok_iff] at failed
  rcases failed with lost | ⟨given, found, failed⟩
  · cases lost
  have shaped {key : String} {standard : Value}
      (lost : given.timingOr.option key standard = .error problem) :
      Escapes (.dict entries) problem.fault := by
    obtain ⟨fault, shapeless⟩ := option_error lost
    obtain ⟨present, same⟩ := timingOr_shapeless shapeless
    rw [fault, same]
    exact .timing measured found present (same ▸ shapeless)
  rcases failed with lost | ⟨delay, delayFound, failed⟩
  · exact .inr (shaped lost)
  rcases failed with ⟨cause, failed, rfl⟩ | ⟨first, firstReal, failed⟩
  · rcases Value.toReal_error failed with wrapped | ⟨rfl, number, whole, large⟩
    · exact .inl wrapped
    · exact .inr (.forever measured found ⟨delay, number, delayFound, whole, large⟩)
  rcases failed with lost | ⟨pause, pauseFound, failed⟩
  · exact .inr (shaped lost)
  rcases failed with ⟨cause, failed, rfl⟩ | ⟨second, secondReal, failed⟩
  · rcases Value.toReal_error failed with wrapped | ⟨rfl, number, whole, large⟩
    · exact .inl wrapped
    · exact .inr (.scroll measured found ⟨delay, first, delayFound, firstReal, rfl⟩
        ⟨pause, number, pauseFound, whole, large⟩)
  · cases failed

theorem convert_error (failed : convert (.dict entries) = .error problem) :
    problem.Wrapped ∨ Escapes (.dict entries) problem.fault := by
  have integer {container value : Value} {key : String}
      (found : container.section? key = .ok value)
      (lost : ∃ cause, value.toInteger = .error cause ∧ problem = .complaint cause)
      (escapes : container.HoldsInfinity key →
        Escapes (.dict entries) (.complaint .infinityAsInteger)) :
      problem.Wrapped ∨ Escapes (.dict entries) problem.fault := by
    obtain ⟨cause, unread, rfl⟩ := lost
    rcases Value.toInteger_error unread with wrapped | ⟨rfl, real, negative, rfl, infinite⟩
    · exact .inl wrapped
    · exact .inr (escapes ⟨real, negative, found, infinite⟩)
  have text {cause : Fault} (lost : problem = .untold cause)
      (escapes : cause.reported.kind ≠ .configuration →
        Escapes (.dict entries) cause.reported) :
      problem.Wrapped ∨ Escapes (.dict entries) problem.fault := by
    subst lost
    by_cases wrapped : cause.reported.kind = .configuration
    · exact .inl wrapped
    · exact .inr (escapes wrapped)
  simp only [convert, bind_eq_error_iff, ConfigResult.convert_eq_error_iff,
    ConfigResult.convert_eq_ok_iff] at failed
  rcases failed with lost | ⟨pins, pinsFound, lost | ⟨display, displayFound, lost |
    ⟨named, nameFound, failed⟩⟩⟩
  · exact .inl (Value.section?_wrapped lost)
  · exact .inl (Value.section?_wrapped lost)
  · exact .inl (Value.section?_wrapped lost)
  have sections : Sectioned (.dict entries) pins display := ⟨pinsFound, displayFound⟩
  rcases failed with lost | ⟨boardName, called, failed⟩
  · obtain ⟨cause, untold, same⟩ := Value.toText_error lost
    exact text same (.boardName sections ⟨named, nameFound, untold⟩)
  have name : (Value.dict entries).HoldsText "board_name" boardName := ⟨named, nameFound, called⟩
  rcases failed with lost | ⟨spelled, stemFound, lost | ⟨stem, told, failed⟩⟩
  · exact .inl (Value.section?_wrapped lost)
  · obtain ⟨cause, untold, same⟩ := Value.toText_error lost
    exact text same (.stem sections name ⟨spelled, stemFound, untold⟩)
  have opened : Opened (.dict entries) pins display :=
    ⟨sections, ⟨_, name⟩, ⟨_, spelled, stemFound, told⟩⟩
  rcases failed with lost | ⟨count, countFound, lost | ⟨number, counted, failed⟩⟩
  · exact .inl (Value.section?_wrapped lost)
  · exact integer countFound lost (.count opened)
  have pinCount : pins.HoldsInteger "count" number := ⟨count, countFound, counted⟩
  rcases failed with lost | ⟨width, widthFound, lost | ⟨columns, wide, failed⟩⟩
  · exact .inl (Value.section?_wrapped lost)
  · exact integer widthFound lost (.width opened pinCount)
  have columnCount : display.HoldsInteger "width" columns := ⟨width, widthFound, wide⟩
  rcases failed with lost | ⟨height, heightFound, lost | ⟨rows, high, failed⟩⟩
  · exact .inl (Value.section?_wrapped lost)
  · exact integer heightFound lost (.height opened pinCount columnCount)
  have sized : Sized (.dict entries) pins display :=
    ⟨opened, ⟨_, pinCount⟩, ⟨_, columnCount⟩, ⟨_, height, heightFound, high⟩⟩
  rcases failed with lost | ⟨buttons, listed, ⟨cause, lost, rfl⟩ | ⟨names, members, failed⟩⟩
  · cases lost
  · exact .inl (Value.members_wrapped lost)
  rcases failed with lost | ⟨texts, written, failed⟩
  · rw [Value.mapM_toText] at lost
    split at lost
    next cause untold =>
      exact text (Except.error.inj lost).symm (.buttons sized listed members untold)
    next => cases lost
  have measured : Measured (.dict entries) pins display :=
    ⟨sized, buttons, names, texts, listed, members, written⟩
  rcases failed with lost | ⟨timing, read, failed⟩
  · exact readTiming_error measured lost
  · cases failed

/-- What is read of a raw mapping behind its names. -/
def convertRest (raw pins display : Value) (boardName stem : String) :
    ConfigResult BoardConfig := do
  let count ← pins.section? "count"
  let count ← ConfigResult.convert count.toInteger
  let width ← display.section? "width"
  let width ← ConfigResult.convert width.toInteger
  let height ← display.section? "height"
  let height ← ConfigResult.convert height.toInteger
  let buttons ← raw.option "buttons" standardButtons
  let buttons ← ConfigResult.convert buttons.members
  let buttons ← buttons.mapM Value.toText
  let timing ← readTiming raw
  return ⟨boardName, ⟨stem, count⟩, ⟨width, height⟩, buttons, timing⟩

variable {raw : Value}

theorem Opened.convert_eq (opened : Opened raw pins display) :
    ∃ boardName stem, convert raw = convertRest raw pins display boardName stem := by
  obtain ⟨boardName, named, nameFound, called⟩ := opened.boardName
  obtain ⟨stem, spelled, stemFound, told⟩ := opened.stem
  refine ⟨boardName, stem, ?_⟩
  simp only [convert, opened.first, opened.second, nameFound, called, stemFound, told, bind,
    Except.bind, convertRest]

/-- What is read of a raw mapping behind its numbers. -/
theorem Sized.convert_eq (sized : Sized raw pins display) :
    ∃ boardName stem count width height, convert raw = do
      let buttons ← raw.option "buttons" standardButtons
      let buttons ← ConfigResult.convert buttons.members
      let buttons ← buttons.mapM Value.toText
      let timing ← readTiming raw
      return ⟨boardName, ⟨stem, count⟩, ⟨width, height⟩, buttons, timing⟩ := by
  obtain ⟨boardName, stem, same⟩ := sized.opened.convert_eq
  obtain ⟨number, count, countFound, counted⟩ := sized.count
  obtain ⟨columns, width, widthFound, wide⟩ := sized.width
  obtain ⟨rows, height, heightFound, high⟩ := sized.height
  refine ⟨boardName, stem, number, columns, rows, ?_⟩
  rw [same]
  simp only [convertRest, countFound, counted, widthFound, wide, heightFound, high,
    ConfigResult.convert, bind, Except.bind]

theorem Measured.convert_error (measured : Measured raw pins display)
    (failed : readTiming raw = .error problem) : convert raw = .error problem := by
  obtain ⟨boardName, stem, count, width, height, same⟩ := measured.sized.convert_eq
  obtain ⟨buttons, names, texts, listed, members, written⟩ := measured.buttons
  rw [same]
  simp only [listed, members, written, failed, ConfigResult.convert, bind, Except.bind]

theorem Escapes.convert_error {fault : Fault} (escapes : Escapes raw fault) :
    ∃ problem, convert raw = .error problem ∧ problem.fault = fault ∧
      fault.kind ≠ .configuration := by
  cases escapes with
  | boardName sections untold foreign =>
      obtain ⟨value, found, untold⟩ := untold
      refine ⟨.untold _, ?_, rfl, foreign⟩
      simp only [convert, sections.first, sections.second, found, Value.toText_untold untold, bind,
        Except.bind]
  | stem sections named untold foreign =>
      obtain ⟨name, nameFound, called⟩ := named
      obtain ⟨value, found, untold⟩ := untold
      refine ⟨.untold _, ?_, rfl, foreign⟩
      simp only [convert, sections.first, sections.second, nameFound, called, found,
        Value.toText_untold untold, bind, Except.bind]
  | count opened infinite =>
      obtain ⟨boardName, stem, same⟩ := opened.convert_eq
      obtain ⟨value, found, unread⟩ := infinite.unread
      refine ⟨.complaint .infinityAsInteger, same.trans ?_, rfl, FaultKind.noConfusion⟩
      simp only [convertRest, found, unread, ConfigResult.convert, bind, Except.bind]
  | width opened counted infinite =>
      obtain ⟨boardName, stem, same⟩ := opened.convert_eq
      obtain ⟨count, countFound, number⟩ := counted
      obtain ⟨value, found, unread⟩ := infinite.unread
      refine ⟨.complaint .infinityAsInteger, same.trans ?_, rfl, FaultKind.noConfusion⟩
      simp only [convertRest, countFound, number, found, unread,
        ConfigResult.convert, bind, Except.bind]
  | height opened counted wide infinite =>
      obtain ⟨boardName, stem, same⟩ := opened.convert_eq
      obtain ⟨count, countFound, number⟩ := counted
      obtain ⟨width, widthFound, columns⟩ := wide
      obtain ⟨value, found, unread⟩ := infinite.unread
      refine ⟨.complaint .infinityAsInteger, same.trans ?_, rfl, FaultKind.noConfusion⟩
      simp only [convertRest, countFound, number, widthFound, columns, found, unread,
        ConfigResult.convert, bind, Except.bind]
  | buttons sized listed members untold foreign =>
      obtain ⟨boardName, stem, count, width, height, same⟩ := sized.convert_eq
      refine ⟨.untold _, same.trans ?_, rfl, foreign⟩
      simp only [listed, members, Value.mapM_toText, untold, ConfigResult.convert, bind,
        Except.bind]
  | @timing pins display given measured found present shapeless =>
      refine ⟨.complaint (.noAttribute given.typeName "get"), measured.convert_error ?_, rfl,
        FaultKind.noConfusion⟩
      have unread (key : String) (standard : Value) :
          given.option key standard = .error (.complaint (.noAttribute given.typeName "get")) := by
        cases given with
        | dict entries => exact absurd rfl (shapeless entries)
        | _ => rfl
      simp only [readTiming, found, present, if_true, unread, bind, Except.bind]
  | forever measured found large =>
      obtain ⟨value, valueFound, unread⟩ := large.unread
      refine ⟨.complaint .tooLargeForFloat, measured.convert_error ?_, rfl, FaultKind.noConfusion⟩
      rw [Value.timingOr] at valueFound
      simp only [readTiming, found, valueFound, unread, ConfigResult.convert, bind, Except.bind]
  | scroll measured found first large =>
      obtain ⟨delay, real, delayFound, read, _⟩ := first
      obtain ⟨value, valueFound, unread⟩ := large.unread
      refine ⟨.complaint .tooLargeForFloat, measured.convert_error ?_, rfl, FaultKind.noConfusion⟩
      rw [Value.timingOr] at delayFound valueFound
      simp only [readTiming, found, delayFound, read, valueFound, unread,
        ConfigResult.convert, bind, Except.bind]

theorem ofValue_error (failed : ofValue (.dict entries) = .error problem) :
    problem.Wrapped ∨ Escapes (.dict entries) problem.fault := by
  rcases bind_eq_error_iff.mp failed with unread | ⟨config, -, judged⟩
  · exact convert_error unread
  · cases bad : config.badField? with
    | some field =>
        simp only [bad, Except.error.injEq] at judged
        exact .inl (judged ▸ rfl)
    | none => simp [bad] at judged

/-- When the name and the path are texts, all that can happen is that there is no file. -/
theorem configFile_error {name path : Value} (named : name.isPath = true)
    (given : path ≠ .none → path.isPath = true) (failed : configFile name path = .error problem) :
    problem = .unreadable := by
  unfold configFile at failed
  split at failed
  next => cases failed
  next =>
    split at failed
    · cases failed
    · rw [if_pos named] at failed
      cases failed
      rfl
  next other =>
    rw [if_pos (given other)] at failed
    cases failed
    rfl

theorem loadConfig_error {read : String → Option Value} {name path : Value}
    (named : name.isPath = true) (given : path ≠ .none → path.isPath = true)
    (failed : loadConfig read name path = .error problem) :
    problem.Wrapped ∨ ∃ content entries, configFile name path = .ok (.text content) ∧
      read content = some (.dict entries) ∧ Escapes (.dict entries) problem.fault := by
  rcases bind_eq_error_iff.mp failed with lost | ⟨file, found, failed⟩
  · exact .inl (configFile_error named given lost ▸ rfl)
  · unfold FileContent.config at failed
    split at failed
    · cases failed
      exact .inl rfl
    · next content =>
      split at failed
      · cases failed
        exact .inl rfl
      · next entries value =>
        exact (ofValue_error failed).imp_right fun escapes =>
          ⟨content, entries, found, value, escapes⟩
      · cases failed
        exact .inl rfl

/-- A fault that is not one of the configuration leaves the reading of a raw mapping exactly
when a value that raises it is reached.  Whatever the reader of documents makes of a file,
loading it raises no others, and it raises those. -/
theorem config_faults_escape (entries : Entries) (fault : Fault) :
    ((∃ problem, ofValue (.dict entries) = .error problem ∧ problem.fault = fault ∧
        fault.kind ≠ .configuration) ↔ Escapes (.dict entries) fault) ∧
    ∀ (read : String → Option Value) (name path : Value), name.isPath = true →
      (path ≠ .none → path.isPath = true) →
      ((∃ problem, loadConfig read name path = .error problem ∧ problem.fault = fault ∧
          fault.kind ≠ .configuration) ↔
        ∃ content entries, configFile name path = .ok (.text content) ∧
          read content = some (.dict entries) ∧ Escapes (.dict entries) fault) := by
  have escape {entries : Entries} (escapes : Escapes (.dict entries) fault) :
      ∃ problem, ofValue (.dict entries) = .error problem ∧ problem.fault = fault ∧
        fault.kind ≠ .configuration := by
    obtain ⟨problem, unread, same, foreign⟩ := escapes.convert_error
    exact ⟨problem, bind_eq_error_iff.mpr (.inl unread), same, foreign⟩
  refine ⟨⟨?_, escape⟩, fun read name path named given => ⟨?_, ?_⟩⟩
  · rintro ⟨problem, failed, rfl, foreign⟩
    exact (ofValue_error failed).resolve_left foreign
  · rintro ⟨problem, failed, rfl, foreign⟩
    exact (loadConfig_error named given failed).resolve_left foreign
  · rintro ⟨content, entries, found, value, escapes⟩
    obtain ⟨problem, failed, same, foreign⟩ := escape escapes
    refine ⟨problem, ?_, same, foreign⟩
    simp only [loadConfig, found, FileContent.config, value, bind, Except.bind]
    exact failed

/-- A raw mapping with a list in the place of the timing section. -/
def listedTiming : Entries :=
  [(.str "board_name", .str "sample"),
   (.str "pins", .dict [(.str "prefix", .str "P"), (.str "count", .int 1)]),
   (.str "display", .dict [(.str "width", .int 5), (.str "height", .int 5)]),
   (.str "timing", .list [.int 1])]

/-- A list in the place of the timing section raises a fault that is none of the
configuration, also when it is read from a file. -/
theorem config_faults_escape_listed :
    Escapes (.dict listedTiming) (.complaint (.noAttribute "list" "get")) ∧
      ∃ problem, loadConfig (fun _ => some (.dict listedTiming)) (.str "any")
          (.file (.text "timing: [1]")) = .error problem ∧
        problem.fault = .complaint (.noAttribute "list" "get") ∧
        FaultKind.error .attribute ≠ .configuration := by
  have exact := config_faults_escape listedTiming (.complaint (.noAttribute "list" "get"))
  have escapes := exact.1.mp ⟨_, rfl, rfl, FaultKind.noConfusion⟩
  exact ⟨escapes, (exact.2 _ (.str "any") (.file (.text "timing: [1]")) rfl fun _ => rfl).mpr
    ⟨_, listedTiming, rfl, rfl, escapes⟩⟩

theorem config_fault_unwrapped :
    ofValue (.dict listedTiming) = .error (.complaint (.noAttribute "list" "get")) ∧
      (ConfigProblem.complaint (.noAttribute "list" "get")).fault.kind = .error .attribute :=
  ⟨rfl, rfl⟩

end BoardConfig

end Microboard
