import Microboard.Proofs.Pairing.Alike

/-!
# What is read off values that are alike

A fault that an operation finds tells of nothing but its arguments.  Whatever is read
off a value that means the same on both sides means the same on both sides.
-/

namespace Microboard

variable {pairing : Pairing}

/-- A fault that may be found means the same on both sides. -/
def Harmless (pairing : Pairing) (found : Option Fault) : Prop :=
  ∀ fault, found = some fault → fault.Blind pairing

namespace Harmless

variable {first second : Option Fault} {fault : Fault}

theorem none : Harmless pairing none := by
  intro fault found
  cases found

theorem some (blind : fault.Blind pairing) : Harmless pairing (some fault) := by
  intro other found
  cases found
  exact blind

theorem orElse (left : Harmless pairing first) (right : Harmless pairing second) :
    Harmless pairing (first <|> second) := by
  cases first with
  | none => exact right
  | some fault => exact .some (left fault rfl)

end Harmless

theorem harmless_digits (value : Int) : Harmless pairing (digitsFault? value) := by
  unfold digitsFault?
  split
  · exact .some trivial
  · exact .none

theorem harmless_whole (number : Whole) : Harmless pairing number.textFault? := by
  cases number with
  | flag value => exact .none
  | number value => exact harmless_digits value

theorem harmless_number (number : Number) : Harmless pairing number.textFault? := by
  cases number with
  | whole value => exact harmless_digits value
  | real value => exact .none

theorem harmless_event (event : Event) : Harmless pairing event.textFault? := by
  cases event with
  | pinChange pin value kind => exact harmless_digits value
  | ledChange x y value =>
      exact (harmless_whole x).orElse ((harmless_whole y).orElse (harmless_digits value))
  | buttonPress | reset => exact .none

theorem harmless_levels (levels : PinLevels) : Harmless pairing levels.textFault? :=
  (harmless_digits _).orElse (harmless_digits _)

theorem harmless_snapshot (snapshot : Snapshot) : Harmless pairing snapshot.textFault? := by
  intro fault found
  obtain ⟨entry, -, raised⟩ := List.exists_of_findSome?_eq_some found
  exact harmless_levels entry.2 fault raised

theorem harmless_display (display : DisplayConfig) : Harmless pairing display.textFault? :=
  (harmless_digits _).orElse (harmless_digits _)

theorem harmless_timing (timing : TimingConfig) : Harmless pairing timing.textFault? :=
  (harmless_number _).orElse (harmless_number _)

theorem harmless_config (config : BoardConfig) : Harmless pairing config.textFault? :=
  (harmless_digits _).orElse ((harmless_display _).orElse (harmless_timing _))

mutual

/-- What writing out a value raises means the same on both sides. -/
theorem harmless_value (value : Value) (blind : value.Blind pairing) :
    Harmless pairing value.textFault? := by
  cases value with
  | int value => exact harmless_digits value
  | list items | tuple items => exact harmless_items items blind
  | dict entries => exact harmless_entries entries blind
  | event event identity => exact harmless_event event
  | levels levels identity => exact harmless_levels levels
  | snapshot snapshot identity => exact harmless_snapshot snapshot
  | boardConfig config identity => exact harmless_config config
  | pinsConfig pins => exact harmless_digits _
  | displayConfig display => exact harmless_display display
  | timingConfig timing => exact harmless_timing timing
  | fault fault identity => exact harmless_fault fault blind
  | unwritable fault => exact .some blind
  | _ => exact .none

theorem harmless_items (items : List Value) (blind : ItemsBlind pairing items) :
    Harmless pairing (itemsTextFault? items) := by
  cases items with
  | nil => exact .none
  | cons item rest =>
      exact (harmless_value item blind.1).orElse (harmless_items rest blind.2)

theorem harmless_entries (entries : Entries) (blind : EntriesBlind pairing entries) :
    Harmless pairing (entriesTextFault? entries) := by
  cases entries with
  | nil => exact .none
  | cons entry rest =>
      obtain ⟨key, value⟩ := entry
      exact (harmless_value key blind.1).orElse
        ((harmless_value value blind.2.1).orElse (harmless_entries rest blind.2.2))

theorem harmless_fault (fault : Fault) (blind : fault.Blind pairing) :
    Harmless pairing fault.textFault? := by
  cases fault with
  | raised kind args => exact harmless_items args blind
  | simulator message details => exact harmless_value message blind.1
  | _ => exact .none

end

/-- The faults that a check can find mean the same on both sides. -/
def Sheltered {α : Type} (pairing : Pairing) (result : Except Fault α) : Prop :=
  ∀ fault, result = .error fault → fault.Blind pairing

namespace Sheltered

variable {α β : Type}

theorem ok (value : α) : Sheltered pairing (.ok value) := by
  intro fault failed
  cases failed

theorem error {fault : Fault} (blind : fault.Blind pairing) :
    Sheltered (α := α) pairing (.error fault) := by
  intro other failed
  cases failed
  exact blind

theorem bind {result : Except Fault α} {next : α → Except Fault β}
    (first : Sheltered pairing result) (second : ∀ value, Sheltered pairing (next value)) :
    Sheltered pairing (result >>= next) := by
  cases result with
  | error fault => exact .error (first fault rfl)
  | ok value => exact second value

theorem orFault (result : Except Complaint α) : Sheltered pairing (orFault result) := by
  cases result with
  | error cause => exact .error trivial
  | ok value => exact .ok value

end Sheltered

theorem sheltered_toButton (value : Value) : Sheltered pairing value.toButton := by
  unfold Value.toButton
  split
  · exact .ok _
  · split
    · exact .ok _
    · exact .error trivial

namespace Hardware

variable {pin x y : Value}

theorem sheltered_checkPin (hardware : Hardware) (blind : pin.Blind pairing) :
    Sheltered pairing (hardware.checkPin pin) := by
  unfold checkPin
  split
  · split
    · exact .ok _
    · exact .error ⟨blind, trivial⟩
  · exact .error ⟨blind, trivial⟩

theorem sheltered_checkLed (hardware : Hardware) (x y : Value) :
    Sheltered pairing (hardware.checkLed x y) := by
  refine .bind (.orFault _) fun column => .bind (.orFault _) fun row => ?_
  split
  · exact .ok _
  · exact .error ⟨trivial, trivial, trivial⟩

theorem sheltered_setLevel (hardware : Hardware) (kind : PinKind) (blind : pin.Blind pairing)
    (level : Value) : Sheltered pairing (hardware.setLevel kind pin level) :=
  .bind (hardware.sheltered_checkPin blind) fun _ => .bind (.orFault _) fun _ => .ok _

theorem sheltered_getLevel (hardware : Hardware) (kind : PinKind) (blind : pin.Blind pairing) :
    Sheltered pairing (hardware.getLevel kind pin) :=
  .bind (hardware.sheltered_checkPin blind) fun _ => .ok _

theorem sheltered_setLed (hardware : Hardware) (x y lit : Value) :
    Sheltered pairing (hardware.setLed x y lit) :=
  .bind (hardware.sheltered_checkLed x y) fun _ => .ok _

theorem sheltered_getLed (hardware : Hardware) (x y : Value) :
    Sheltered pairing (hardware.getLed x y) :=
  .bind (hardware.sheltered_checkLed x y) fun _ => .ok _

theorem sheltered_setButton (hardware : Hardware) (button pressed : Value) :
    Sheltered pairing (hardware.setButton button pressed) :=
  .bind (sheltered_toButton button) fun _ => .ok _

theorem sheltered_getButton (hardware : Hardware) (button : Value) :
    Sheltered pairing (hardware.getButton button) :=
  .bind (sheltered_toButton button) fun _ => .ok _

end Hardware

theorem blind_textTuple (names : List String) : (textTuple names).Blind pairing := by
  refine itemsBlind_iff.mpr fun item member => ?_
  obtain ⟨name, -, rfl⟩ := List.mem_map.mp member
  trivial

theorem blind_glyph (glyph : Glyph) : glyph.value.Blind pairing := by
  refine itemsBlind_iff.mpr fun row member => ?_
  obtain ⟨cells, -, rfl⟩ := List.mem_map.mp member
  refine itemsBlind_iff.mpr fun cell inside => ?_
  obtain ⟨lit, -, rfl⟩ := List.mem_map.mp inside
  trivial

theorem blind_handles (handles : List (Ref .handle)) :
    (Value.list (handles.map .handle)).Blind pairing := by
  refine itemsBlind_iff.mpr fun item member => ?_
  obtain ⟨handle, -, rfl⟩ := List.mem_map.mp member
  trivial

theorem blind_whole (number : Whole) : number.value.Blind pairing := by
  cases number <;> trivial

theorem blind_number (number : Number) : number.value.Blind pairing := by
  cases number <;> trivial

theorem blind_record (event : Event) : (Value.dict event.record).Blind pairing := by
  cases event with
  | pinChange pin value kind =>
      simp [Event.record, Value.Blind, EntriesBlind]
  | ledChange x y value =>
      simp [Event.record, Value.Blind, EntriesBlind, blind_whole]
  | buttonPress button => simp [Event.record, Value.Blind, EntriesBlind]
  | reset => simp [Event.record, Value.Blind, EntriesBlind]

/-- What can be read off a value means the same on both sides. -/
def Legible (pairing : Pairing) (found : Option Value) : Prop :=
  ∀ value, found = some value → value.Blind pairing

namespace Legible

theorem none : Legible pairing none := by
  intro value found
  cases found

theorem some {value : Value} (blind : value.Blind pairing) : Legible pairing (some value) := by
  intro other found
  cases found
  exact blind

theorem map {α : Type} {record : α → Value} (found : Option α)
    (blind : ∀ item, (record item).Blind pairing) : Legible pairing (found.map record) := by
  cases found with
  | none => exact .none
  | some item => exact .some (blind item)

end Legible

theorem legible_event (event : Event) (name : String) :
    Legible pairing (event.property? name) := by
  unfold Event.property?
  split <;> first
    | exact .some trivial
    | exact .some (blind_whole _)
    | exact .none

theorem legible_snapshot (snapshot : Snapshot) (identity : Nat) (name : String) :
    Legible pairing (snapshot.property? identity name) := by
  unfold Snapshot.property?
  split
  · refine .some (entriesBlind_iff.mpr fun entry member => ?_)
    obtain ⟨pin, -, rfl⟩ := List.mem_map.mp member
    exact ⟨trivial, trivial⟩
  · exact .some (blind_glyph _)
  · refine .some (entriesBlind_iff.mpr fun entry member => ?_)
    obtain ⟨button, -, rfl⟩ := List.mem_map.mp member
    exact ⟨trivial, trivial⟩
  · exact .none

theorem legible_pins (pins : PinsConfig) (name : String) :
    Legible pairing (pins.property? name) := by
  unfold PinsConfig.property?
  split
  · exact .some trivial
  · exact .some trivial
  · exact .some (blind_textTuple _)
  · exact .none

theorem legible_display (display : DisplayConfig) (name : String) :
    Legible pairing (display.property? name) := by
  unfold DisplayConfig.property?
  split
  · exact .some trivial
  · exact .some trivial
  · exact .none

theorem legible_timing (timing : TimingConfig) (name : String) :
    Legible pairing (timing.property? name) := by
  unfold TimingConfig.property?
  split
  · exact .some (blind_number _)
  · exact .some (blind_number _)
  · exact .none

theorem legible_config (config : BoardConfig) (name : String) :
    Legible pairing (config.property? name) := by
  unfold BoardConfig.property?
  split
  · exact .some trivial
  · exact .some trivial
  · exact .some trivial
  · exact .some (blind_textTuple _)
  · exact .some trivial
  · exact .none

theorem blind_lookup {entries : Entries} (blind : EntriesBlind pairing entries) (key : Value) :
    Legible pairing (Value.lookup? entries key) := by
  intro value found
  obtain ⟨entry, hit, rfl⟩ := Option.map_eq_some_iff.mp found
  exact (entriesBlind_iff.mp blind entry (List.mem_of_find?_eq_some hit)).2

theorem blind_insertEntry {entries : Entries} {key value : Value}
    (blind : EntriesBlind pairing entries) (keyBlind : key.Blind pairing)
    (valueBlind : value.Blind pairing) :
    EntriesBlind pairing (Value.insertEntry entries key value) := by
  rw [entriesBlind_iff] at blind ⊢
  intro entry member
  unfold Value.insertEntry at member
  split at member
  · obtain ⟨earlier, inside, rfl⟩ := List.mem_map.mp member
    split
    · exact ⟨(blind earlier inside).1, valueBlind⟩
    · exact blind earlier inside
  · rcases List.mem_append.mp member with earlier | last
    · exact blind entry earlier
    · rw [List.mem_singleton.mp last]
      exact ⟨keyBlind, valueBlind⟩

theorem legible_details {fault : Fault} (blind : fault.Blind pairing) :
    Legible pairing (fault.details?.map .dict) := by
  cases fault with
  | raised kind args => exact .none
  | complaint cause => exact .none
  | simulator message details => exact .some blind.2
  | configuration key message details => exact .some blind.2.2
  | invalidPin pin details => exact .some (blind_insertEntry blind.2 trivial blind.1)
  | outOfRange x y width height details =>
      exact .some (blind_insertEntry (blind_insertEntry blind.2.2 trivial blind.1) trivial
        blind.2.1)
  | handleDestroyed id => exact .some ⟨trivial, blind, trivial⟩
  | callbackFailure id kind cause =>
      exact .some ⟨trivial, blind.1, trivial, blind.2.1, trivial⟩

theorem legible_fault {fault : Fault} (blind : fault.Blind pairing) (name : String) :
    Legible pairing (fault.property? name) := by
  unfold Fault.property?
  split
  · exact legible_details blind
  · exact .some blind.1
  · exact .some blind.1
  · exact .some blind.1
  · exact .some blind.2.1
  · exact .some blind
  · exact .some blind.1
  · exact .some blind.2.1
  · exact .some blind.2.2
  · exact .none

theorem Value.Alike.typeName {left right : Value} (alike : left.Alike pairing right) :
    right.typeName = left.typeName := by
  cases alike with
  | same | token | unsubscriber => rfl
  | fault alike => cases alike <;> rfl

/-- Either both sides get work to await, and it is the same, or neither does. -/
theorem Value.Seen.work? {grade : Grade} {left right : Value}
    (seen : Value.Seen pairing grade left right) :
    right.work? = left.work? ∧ ∀ work, left.work? = some work → work.Blind pairing := by
  have idle {value : Value} (idle : value.work? = Option.none) :
      ∀ work, value.work? = some work → work.Blind pairing := by
    intro work found
    rw [idle] at found
    cases found
  cases seen with
  | number | token => exact ⟨rfl, idle rfl⟩
  | alike alike =>
      cases alike with
      | token | unsubscriber | fault => exact ⟨rfl, idle rfl⟩
      | same blind =>
          refine ⟨rfl, fun work found => ?_⟩
          cases left <;> cases found
          exact blind

theorem Fault.Alike.kind {left right : Fault} (alike : left.Alike pairing right) :
    right.kind = left.kind := by
  cases alike <;> rfl

theorem Fault.Alike.isOrdinary {left right : Fault} (alike : left.Alike pairing right) :
    right.isOrdinary = left.isOrdinary := by
  simp only [Fault.isOrdinary, alike.kind]

theorem Fault.Alike.textFault? {left right : Fault} (alike : left.Alike pairing right) :
    right.textFault? = left.textFault? ∧ Harmless pairing left.textFault? := by
  cases alike with
  | same blind => exact ⟨rfl, harmless_fault left blind⟩
  | handleDestroyed | callbackFailure => exact ⟨rfl, .none⟩

theorem Value.Alike.textFault? {left right : Value} (alike : left.Alike pairing right) :
    right.textFault? = left.textFault? ∧ Harmless pairing left.textFault? := by
  cases alike with
  | same blind => exact ⟨rfl, harmless_value left blind⟩
  | token | unsubscriber => exact ⟨rfl, .none⟩
  | fault alike => exact alike.textFault?

/-- Neither of two faults gets past an operation, or what does is alike. -/
theorem Fault.Alike.escapes {left right : Fault} (alike : left.Alike pairing right) :
    left.escape? = none ∧ right.escape? = none ∨
      ∃ other another, left.escape? = some other ∧ right.escape? = some another ∧
        other.Alike pairing another := by
  obtain ⟨same, harmless⟩ := alike.textFault?
  unfold Fault.escape?
  rw [alike.isOrdinary, same]
  split
  · cases written : left.textFault? with
    | none => exact .inl ⟨rfl, rfl⟩
    | some other => exact .inr ⟨other, other, rfl, rfl, .same (harmless other written)⟩
  · exact .inr ⟨left, right, rfl, rfl, alike⟩

end Microboard
