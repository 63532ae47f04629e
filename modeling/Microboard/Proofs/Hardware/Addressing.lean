import Microboard.Proofs.Hardware.LastWrite
import Mathlib.Data.List.Basic
import Mathlib.Data.List.Induction
import Mathlib.Data.List.Nodup

/-!
# Addresses into the stores of hardware

The stores of hardware as lists and tables whose subscripts can miss.  A list takes a
negative subscript from its end, and a table objects to a key that it does not have.  The
operations are written with such subscripts here, and they do to the stores what the
operations of hardware do: no subscript misses, whatever has been called before.
-/

namespace Microboard

section Subscript

variable {α β κ : Type}

/-- The place in a list that a subscript means. -/
def place? (size : Nat) (index : Int) : Option Nat :=
  let place := if index < 0 then index + size else index
  if 0 ≤ place ∧ place < size then some place.toNat else none

def itemAt (items : List α) (index : Int) : Except Fault α :=
  match (place? items.length index).bind fun place => items[place]? with
  | some item => .ok item
  | none => .error (.complaint .indexOutOfRange)

def withItem (items : List α) (index : Int) (item : α) : Except Fault (List α) :=
  match place? items.length index with
  | some place => .ok (items.set place item)
  | none => .error (.complaint .indexOutOfRange)

variable [DecidableEq κ]

def valueAt (record : κ → Value) (entries : List (κ × β)) (key : κ) : Except Fault β :=
  match entries.lookup key with
  | some value => .ok value
  | none => .error (.raised .key [record key])

/-- A table with a value under a key: in the place of the one before, or at the end. -/
def withValue (entries : List (κ × β)) (key : κ) (value : β) : List (κ × β) :=
  if (entries.lookup key).isSome then
    entries.map fun entry => if entry.1 = key then (entry.1, value) else entry
  else entries ++ [(key, value)]

def tableOf (keys : List κ) (value : β) : List (κ × β) :=
  keys.foldl (fun entries key => withValue entries key value) []

theorem place?_of_inside {size : Nat} {index : Int} (low : 0 ≤ index) (high : index < size) :
    place? size index = some index.toNat := by
  have plain : ¬ index < 0 := by omega
  simp [place?, plain, low, high]

theorem itemAt_of_getElem? {items : List α} {index : Int} {item : α} (low : 0 ≤ index)
    (found : items[index.toNat]? = some item) : itemAt items index = .ok item := by
  have inside := (List.getElem?_eq_some_iff.mp found).1
  have high : index < items.length := by omega
  simp [itemAt, place?_of_inside low high, found]

theorem withItem_of_inside {items : List α} {index : Int} (item : α) (low : 0 ≤ index)
    (high : index.toNat < items.length) :
    withItem items index item = .ok (items.set index.toNat item) := by
  have inside : index < items.length := by omega
  simp [withItem, place?_of_inside low inside]

theorem valueAt_of_lookup {record : κ → Value} {entries : List (κ × β)} {key : κ} {value : β}
    (found : entries.lookup key = some value) : valueAt record entries key = .ok value := by
  simp [valueAt, found]

theorem mem_of_lookup {entries : List (κ × β)} {key : κ} {value : β}
    (found : entries.lookup key = some value) : (key, value) ∈ entries := by
  obtain ⟨left, right, parts, _⟩ := List.lookup_eq_some_iff.mp found
  simp [parts]

/-- A table with distinct keys whose value under a key has changed. -/
theorem withValue_of_nodup {entries : List (κ × β)} {key : κ} {value : β}
    (distinct : (entries.map (·.1)).Nodup) (found : entries.lookup key = some value)
    (change : β → β) :
    withValue entries key (change value) =
      entries.map fun entry => if entry.1 = key then (entry.1, change entry.2) else entry := by
  rw [withValue, if_pos (by simp [found])]
  apply List.map_congr_left
  intro entry member
  split
  case isTrue same =>
    have single := List.inj_on_of_nodup_map distinct member (mem_of_lookup found) same
    rw [single]
  case isFalse => rfl

end Subscript

/-- The fields of hardware, with a table for the latches. -/
structure Stores where
  pinIds : List String
  width : Int
  height : Int
  pins : List (String × PinLevels)
  leds : List (List Bool)
  latches : List (Button × Bool)
deriving DecidableEq

def Hardware.stores (hardware : Hardware) : Stores where
  pinIds := hardware.pinIds
  width := hardware.width
  height := hardware.height
  pins := hardware.pins
  leds := hardware.leds
  latches := Button.all.map fun button => (button, hardware.latch button)

namespace Stores

def clearLeds (stores : Stores) : Stores :=
  { stores with
    leds := (List.range stores.width.toNat).map fun _ =>
      List.replicate stores.height.toNat false }

def reset (stores : Stores) : Stores :=
  { stores.clearLeds with
    pins := tableOf stores.pinIds .zero
    latches := tableOf Button.all false }

def initial (pinIds : List String) (width height : Int) : Stores :=
  reset ⟨pinIds, width, height, [], [], []⟩

def checkPin (stores : Stores) (pin : Value) : Except Fault String :=
  match pin.word? with
  | some name =>
    if (stores.pins.lookup name).isSome then .ok name else .error (.invalidPin pin [])
  | none => .error (.invalidPin pin [])

def checkLed (stores : Stores) (x y : Value) : Except Fault (Int × Int) := do
  let x ← orFault x.index
  let y ← orFault y.index
  if 0 ≤ x ∧ x < stores.width ∧ 0 ≤ y ∧ y < stores.height then .ok (x, y)
  else .error (.outOfRange (.int x) (.int y) stores.width stores.height [])

def setLevel (stores : Stores) (kind : PinKind) (pin level : Value) : Except Fault Stores := do
  let name ← stores.checkPin pin
  let level ← orFault level.index
  let levels ← valueAt .str stores.pins name
  return { stores with pins := withValue stores.pins name (levels.set kind level) }

def getLevel (stores : Stores) (kind : PinKind) (pin : Value) : Except Fault Int := do
  let name ← stores.checkPin pin
  let levels ← valueAt .str stores.pins name
  return levels.get kind

def setLed (stores : Stores) (x y lit : Value) : Except Fault Stores := do
  let (x, y) ← stores.checkLed x y
  let column ← itemAt stores.leds x
  let column ← withItem column y lit.truthy
  let leds ← withItem stores.leds x column
  return { stores with leds }

def getLed (stores : Stores) (x y : Value) : Except Fault Bool := do
  let (x, y) ← stores.checkLed x y
  let column ← itemAt stores.leds x
  itemAt column y

def setButton (stores : Stores) (button pressed : Value) : Except Fault Stores := do
  let button ← button.toButton
  return { stores with latches := withValue stores.latches button pressed.truthy }

def getButton (stores : Stores) (button : Value) : Except Fault Bool := do
  let button ← button.toButton
  valueAt .button stores.latches button

/-- What a call leaves of the stores. One that fails leaves them as they are. -/
def serve (stores : Stores) (operation : HardwareMethod) (arguments : Arguments) : Stores :=
  match operation with
  | .setDigital =>
    (stores.setLevel .digital (arguments.get 0 "pin")
      (arguments.get 1 "value")).toOption.getD stores
  | .setAnalog =>
    (stores.setLevel .analog (arguments.get 0 "pin")
      (arguments.get 1 "value")).toOption.getD stores
  | .setLed =>
    (stores.setLed (arguments.get 0 "x") (arguments.get 1 "y")
      (arguments.get 2 "lit")).toOption.getD stores
  | .setButton =>
    (stores.setButton (arguments.get 0 "button") (arguments.get 1 "pressed")).toOption.getD stores
  | .clearLeds => stores.clearLeds
  | .reset => stores.reset
  | .getDigital | .getAnalog | .getLed | .getButton | .snapshot => stores

end Stores

/-- No failure is one of a subscript. -/
def Hits {α : Type} (result : Except Fault α) : Prop :=
  ∀ fault, result = .error fault → fault.kind ≠ .error .index ∧ fault.kind ≠ .error .key

/-- The members of a list, each where it occurs first. -/
structure FirstOccurrences (ids names : List String) : Prop where
  same : ∀ name, name ∈ ids ↔ name ∈ names
  ordered : ids.Pairwise fun first second => names.idxOf first < names.idxOf second

theorem distinct_snoc (names : List String) (name : String) :
    distinct (names ++ [name]) =
      if name ∈ names then distinct names else distinct names ++ [name] := by
  rw [distinct, List.foldl_append]
  change (if name ∈ distinct names then distinct names else distinct names ++ [name]) = _
  simp only [mem_distinct]

/-- By induction on the names: one more name comes behind all others, if it is new. -/
theorem distinct_firstOccurrences (names : List String) :
    FirstOccurrences (distinct names) names := by
  refine ⟨fun name => mem_distinct, ?_⟩
  induction names using List.reverseRecOn with
  | nil => exact List.Pairwise.nil
  | append_singleton names name induction =>
      have kept : (distinct names).Pairwise fun first second =>
          (names ++ [name]).idxOf first < (names ++ [name]).idxOf second := by
        apply induction.imp_of_mem
        intro first second one other before
        rwa [List.idxOf_append_of_mem (mem_distinct.mp one),
          List.idxOf_append_of_mem (mem_distinct.mp other)]
      rw [distinct_snoc]
      split
      case isTrue => exact kept
      case isFalse fresh =>
        apply List.pairwise_append.mpr
        refine ⟨kept, List.pairwise_singleton _ _, ?_⟩
        intro first one second other
        have member := mem_distinct.mp one
        rw [List.mem_singleton.mp other, List.idxOf_append_of_mem member,
          List.idxOf_append_of_notMem fresh]
        have inside := List.idxOf_lt_length_iff.mpr member
        omega

theorem lookup_map_isSome {β : Type} (names : List String) (name : String) (f : String → β) :
    ((names.map fun name => (name, f name)).lookup name).isSome ↔ name ∈ names := by
  constructor
  · intro known
    obtain ⟨value, found⟩ := Option.isSome_iff_exists.mp known
    obtain ⟨other, listed, same⟩ := List.mem_map.mp (mem_of_lookup found)
    rwa [← (Prod.mk.inj same).1]
  · intro member
    rw [lookup_map_self f member]
    rfl

theorem tableOf_eq {β : Type} (names : List String) (value : β) :
    tableOf names value = (distinct names).map fun name => (name, value) := by
  induction names using List.reverseRecOn with
  | nil => rfl
  | append_singleton names name induction =>
      have last : tableOf (names ++ [name]) value = withValue (tableOf names value) name value := by
        rw [tableOf, List.foldl_append]
        rfl
      rw [last, induction, distinct_snoc, withValue]
      simp only [lookup_map_isSome, mem_distinct]
      split
      · simp
      · simp

namespace Stores

theorem checkLed_eq_ok {stores : Stores} {x y : Value} {column row : Int}
    (accepted : stores.checkLed x y = .ok (column, row)) :
    x.index = .ok column ∧ y.index = .ok row ∧
      0 ≤ column ∧ column < stores.width ∧ 0 ≤ row ∧ row < stores.height := by
  unfold checkLed at accepted
  cases first : x.index with
  | error cause => simp [first, orFault, bind, Except.bind] at accepted
  | ok left =>
      cases second : y.index with
      | error cause => simp [first, second, orFault, bind, Except.bind] at accepted
      | ok above =>
          simp only [first, second, orFault, bind, Except.bind] at accepted
          split at accepted
          case isTrue inside =>
            cases accepted
            exact ⟨rfl, rfl, inside⟩
          case isFalse => cases accepted

end Stores

namespace Hardware

variable {hardware : Hardware}

@[simp] theorem stores_width : hardware.stores.width = hardware.width := rfl

@[simp] theorem stores_height : hardware.stores.height = hardware.height := rfl

@[simp] theorem stores_pins : hardware.stores.pins = hardware.pins := rfl

@[simp] theorem stores_leds : hardware.stores.leds = hardware.leds := rfl

theorem checkPin_eq (pin : Value) : hardware.stores.checkPin pin = hardware.checkPin pin := rfl

theorem inMatrix_iff_stores {x y : Int} :
    hardware.inMatrix x y = true ↔
      0 ≤ x ∧ x < hardware.stores.width ∧ 0 ≤ y ∧ y < hardware.stores.height :=
  inMatrix_iff

theorem checkLed_eq_map (x y : Value) :
    hardware.checkLed x y =
      (hardware.stores.checkLed x y).map fun cell => (cell.1.toNat, cell.2.toNat) := by
  unfold checkLed Stores.checkLed
  cases x.index with
  | error cause => rfl
  | ok column =>
      cases y.index with
      | error cause => rfl
      | ok row =>
          simp only [orFault, bind, Except.bind]
          by_cases inside : hardware.inMatrix column row = true
          · rw [if_pos inside, if_pos (inMatrix_iff_stores.mp inside)]
            rfl
          · rw [if_neg inside, if_neg (mt inMatrix_iff_stores.mpr inside)]
            rfl

/-- A cell for every pair of coordinates that is accepted. -/
theorem Shaped.cell (shaped : hardware.Shaped) {x y : Value} {column row : Int}
    (accepted : hardware.stores.checkLed x y = .ok (column, row)) :
    ∃ cells lit, hardware.leds[column.toNat]? = some cells ∧ cells[row.toNat]? = some lit := by
  obtain ⟨_, _, left, right, above, below⟩ := Stores.checkLed_eq_ok accepted
  rw [stores_width] at right
  rw [stores_height] at below
  obtain ⟨lit, found⟩ := Option.isSome_iff_exists.mp
    (shaped.led?_isSome (x := column.toNat) (y := row.toNat) (by omega) (by omega))
  obtain ⟨cells, columnAt, rowAt⟩ := Option.bind_eq_some_iff.mp found
  exact ⟨cells, lit, columnAt, rowAt⟩

theorem darkLeds_eq (width height : Int) :
    darkLeds width height =
      (List.range width.toNat).map fun _ => List.replicate height.toNat false := by
  simp [darkLeds, List.map_const']

theorem stores_initial (pinIds : List String) (width height : Int) :
    (initial pinIds width height).stores = Stores.initial pinIds width height := by
  have pins : (initial pinIds width height).pins = tableOf pinIds .zero :=
    (tableOf_eq pinIds PinLevels.zero).symm
  simp only [Stores.initial, Stores.reset, Stores.clearLeds, ← pins, ← darkLeds_eq]
  rfl

theorem stores_clearLeds : hardware.clearLeds.stores = hardware.stores.clearLeds :=
  congrArg (fun leds => { hardware.stores with leds })
    (darkLeds_eq hardware.width hardware.height)

theorem stores_reset : hardware.reset.stores = hardware.stores.reset :=
  stores_initial hardware.pinIds hardware.width hardware.height

theorem checkPin_eq_ok {pin : Value} {name : String}
    (accepted : hardware.checkPin pin = .ok name) :
    pin.word? = some name ∧ ∃ levels, hardware.levels? name = some levels := by
  unfold checkPin at accepted
  cases word : pin.word? with
  | none => simp [word] at accepted
  | some other =>
      simp only [word] at accepted
      split at accepted
      case isTrue known =>
        cases accepted
        exact ⟨rfl, Option.isSome_iff_exists.mp known⟩
      case isFalse => cases accepted

theorem stores_getLevel (kind : PinKind) (pin : Value) :
    hardware.stores.getLevel kind pin = hardware.getLevel kind pin := by
  unfold Stores.getLevel getLevel
  rw [checkPin_eq]
  cases accepted : hardware.checkPin pin with
  | error fault => rfl
  | ok name =>
      obtain ⟨_, levels, found⟩ := checkPin_eq_ok accepted
      have entry : valueAt .str hardware.stores.pins name = .ok levels := valueAt_of_lookup found
      simp only [bind, Except.bind, entry, found]
      rfl

theorem Shaped.names_nodup (shaped : hardware.Shaped) : (hardware.pins.map (·.1)).Nodup := by
  rw [shaped.names]
  apply (distinct_firstOccurrences hardware.pinIds).ordered.imp
  intro first second before same
  rw [same] at before
  exact Nat.lt_irrefl _ before

theorem Shaped.stores_setLevel (shaped : hardware.Shaped) (kind : PinKind) (pin level : Value) :
    hardware.stores.setLevel kind pin level =
      (hardware.setLevel kind pin level).map Hardware.stores := by
  unfold Stores.setLevel setLevel
  rw [checkPin_eq]
  cases accepted : hardware.checkPin pin with
  | error fault => rfl
  | ok name =>
      cases level.index with
      | error cause => rfl
      | ok stored =>
          obtain ⟨_, levels, found⟩ := checkPin_eq_ok accepted
          have entry : valueAt .str hardware.stores.pins name = .ok levels :=
            valueAt_of_lookup found
          have written := withValue_of_nodup shaped.names_nodup found (·.set kind stored)
          simp only [bind, Except.bind, orFault, entry]
          exact congrArg (fun pins => Except.ok { hardware.stores with pins }) written

theorem Shaped.stores_getLed (shaped : hardware.Shaped) (x y : Value) :
    hardware.stores.getLed x y = hardware.getLed x y := by
  unfold Stores.getLed getLed
  rw [checkLed_eq_map]
  cases accepted : hardware.stores.checkLed x y with
  | error fault => rfl
  | ok cell =>
      obtain ⟨column, row⟩ := cell
      obtain ⟨_, _, left, _, above, _⟩ := Stores.checkLed_eq_ok accepted
      obtain ⟨cells, lit, columnAt, rowAt⟩ := shaped.cell accepted
      simp only [bind, Except.bind, stores_leds, itemAt_of_getElem? left columnAt,
        itemAt_of_getElem? above rowAt, Except.map, led?, columnAt, rowAt, Option.bind_some,
        Option.getD_some]
      rfl

theorem Shaped.stores_setLed (shaped : hardware.Shaped) (x y lit : Value) :
    hardware.stores.setLed x y lit = (hardware.setLed x y lit).map Hardware.stores := by
  unfold Stores.setLed setLed
  rw [checkLed_eq_map]
  cases accepted : hardware.stores.checkLed x y with
  | error fault => rfl
  | ok cell =>
      obtain ⟨column, row⟩ := cell
      obtain ⟨_, _, left, _, above, _⟩ := Stores.checkLed_eq_ok accepted
      obtain ⟨cells, before, columnAt, rowAt⟩ := shaped.cell accepted
      have right := (List.getElem?_eq_some_iff.mp columnAt).1
      have below := (List.getElem?_eq_some_iff.mp rowAt).1
      have written : hardware.leds.set column.toNat (cells.set row.toNat lit.truthy) =
          hardware.leds.modify column.toNat fun column => column.set row.toNat lit.truthy := by
        rw [List.modify_eq_set_getElem?, columnAt]
        rfl
      simp only [bind, Except.bind, stores_leds, itemAt_of_getElem? left columnAt,
        withItem_of_inside lit.truthy above below, withItem_of_inside _ left right, written]
      rfl

theorem stores_getButton (button : Value) :
    hardware.stores.getButton button = hardware.getButton button := by
  unfold Stores.getButton getButton
  cases button.toButton with
  | error fault => rfl
  | ok known => cases known <;> rfl

theorem stores_setButton (button pressed : Value) :
    hardware.stores.setButton button pressed =
      (hardware.setButton button pressed).map Hardware.stores := by
  unfold Stores.setButton setButton
  cases button.toButton with
  | error fault => rfl
  | ok known => cases known <;> rfl

end Hardware

section Hits

variable {α β : Type}

theorem Hits.ok (value : α) : Hits (.ok value) := by
  intro fault failed
  cases failed

theorem Hits.bind {result : Except Fault α} {next : α → Except Fault β} (first : Hits result)
    (rest : ∀ value, Hits (next value)) : Hits (result >>= next) := by
  cases result with
  | error fault =>
      intro raised failed
      cases failed
      exact first fault rfl
  | ok value => exact rest value

theorem hits_index (value : Value) : Hits (orFault value.index) := by
  intro fault failed
  cases value <;> first
    | cases failed
      exact ⟨by simp [Fault.kind, Complaint.kind], by simp [Fault.kind, Complaint.kind]⟩
    | cases failed

theorem hits_toButton (value : Value) : Hits value.toButton := by
  intro fault failed
  unfold Value.toButton at failed
  split at failed
  · cases failed
  · split at failed
    · cases failed
    · cases failed
      exact ⟨by simp [Fault.kind, Complaint.kind], by simp [Fault.kind, Complaint.kind]⟩

namespace Hardware

variable (hardware : Hardware)

theorem hits_checkPin (pin : Value) : Hits (hardware.checkPin pin) := by
  intro fault failed
  unfold checkPin at failed
  split at failed
  · split at failed
    · cases failed
    · cases failed
      exact ⟨by simp [Fault.kind], by simp [Fault.kind]⟩
  · cases failed
    exact ⟨by simp [Fault.kind], by simp [Fault.kind]⟩

theorem hits_checkLed (x y : Value) : Hits (hardware.checkLed x y) := by
  apply (hits_index x).bind
  intro column
  apply (hits_index y).bind
  intro row fault failed
  split at failed
  · cases failed
  · cases failed
    exact ⟨by simp [Fault.kind], by simp [Fault.kind]⟩

theorem hits_setLevel (kind : PinKind) (pin level : Value) :
    Hits (hardware.setLevel kind pin level) := by
  apply (hardware.hits_checkPin pin).bind
  intro name
  exact (hits_index level).bind fun stored => Hits.ok _

theorem hits_getLevel (kind : PinKind) (pin : Value) : Hits (hardware.getLevel kind pin) :=
  (hardware.hits_checkPin pin).bind fun _ => Hits.ok _

theorem hits_setLed (x y lit : Value) : Hits (hardware.setLed x y lit) :=
  (hardware.hits_checkLed x y).bind fun _ => Hits.ok _

theorem hits_getLed (x y : Value) : Hits (hardware.getLed x y) :=
  (hardware.hits_checkLed x y).bind fun _ => Hits.ok _

theorem hits_setButton (button pressed : Value) : Hits (hardware.setButton button pressed) :=
  (hits_toButton button).bind fun _ => Hits.ok _

theorem hits_getButton (button : Value) : Hits (hardware.getButton button) :=
  (hits_toButton button).bind fun _ => Hits.ok _

end Hardware

end Hits

theorem Hardware.shaped_after (pinIds : List String) (width height : Int) (writes : List Write) :
    (after pinIds width height writes).Shaped where
  columns := by simp [after, Snapshot.after]
  cells := by
    intro column member
    obtain ⟨x, _, rfl⟩ := List.mem_map.mp member
    simp [after]
  names := by simp [after, Snapshot.after, Function.comp_def]

namespace World

/-- The stores of hardware have a place for everything that its operations may name, and
the operations do the same with subscripts that could miss as they do in fact. -/
structure Addressed (world : World) (target : Ref .hardware) (names : List String)
    (width height : Int) (stores : Stores) : Prop where
  stored : (world.hardwares.get target).stores = stores
  snapshot : ∀ arguments : Arguments, ∃ shown,
    (world.callHardware target .snapshot arguments).2 =
      .value (.snapshot shown world.identities) ∧
    shown.pins = stores.pins ∧ shown.leds = stores.leds ∧
    ∀ button, stores.latches.lookup button = some (shown.buttons.get button)
  pins : FirstOccurrences (stores.pins.map (·.1)) names
  columns : (stores.leds.length : Int) = max width 0
  cells : ∀ column ∈ stores.leds, (column.length : Int) = max height 0
  latches : stores.latches.map (·.1) = [.a, .b]
  accepted_pin : ∀ (pin : Value) (name : String), stores.checkPin pin = .ok name →
    pin.word? = some name ∧ name ∈ names ∧ ∃ levels, stores.pins.lookup name = some levels
  accepted_cell : ∀ (x y : Value) (column row : Int), stores.checkLed x y = .ok (column, row) →
    x.index = .ok column ∧ y.index = .ok row ∧ 0 ≤ column ∧ 0 ≤ row ∧
    ∃ cells lit, stores.leds[column.toNat]? = some cells ∧ cells[row.toNat]? = some lit
  getLevel : ∀ (kind : PinKind) (pin : Value),
    stores.getLevel kind pin = (world.hardwares.get target).getLevel kind pin
  getLed : ∀ x y : Value, stores.getLed x y = (world.hardwares.get target).getLed x y
  getButton : ∀ button : Value,
    stores.getButton button = (world.hardwares.get target).getButton button
  setLevel : ∀ (kind : PinKind) (pin level : Value), stores.setLevel kind pin level =
    ((world.hardwares.get target).setLevel kind pin level).map Hardware.stores
  setLed : ∀ x y lit : Value, stores.setLed x y lit =
    ((world.hardwares.get target).setLed x y lit).map Hardware.stores
  setButton : ∀ button pressed : Value, stores.setButton button pressed =
    ((world.hardwares.get target).setButton button pressed).map Hardware.stores
  hits : ∀ (operation : HardwareMethod) (arguments : Arguments) (fault : Fault),
    (world.callHardware target operation arguments).2 = .raise fault →
    fault.kind ≠ .error .index ∧ fault.kind ≠ .error .key

variable {world : World} {target : Ref .hardware}

theorem answerWith_hits {α : Type} (record : α → Value) {result : Except Fault α}
    (hits : Hits result) {fault : Fault}
    (raised : (world.answerWith record result).2 = .raise fault) :
    fault.kind ≠ .error .index ∧ fault.kind ≠ .error .key := by
  cases result with
  | ok value => cases raised
  | error other =>
      cases raised
      exact hits fault rfl

theorem storeHardware_hits {result : Except Fault Hardware} (hits : Hits result) {fault : Fault}
    (raised : (world.storeHardware target result).2 = .raise fault) :
    fault.kind ≠ .error .index ∧ fault.kind ≠ .error .key := by
  cases result with
  | ok hardware => cases raised
  | error other =>
      cases raised
      exact hits fault rfl

theorem callHardware_hits (operation : HardwareMethod) (arguments : Arguments) {fault : Fault}
    (raised : (world.callHardware target operation arguments).2 = .raise fault) :
    fault.kind ≠ .error .index ∧ fault.kind ≠ .error .key := by
  cases operation with
  | setDigital | setAnalog => exact storeHardware_hits (Hardware.hits_setLevel _ _ _ _) raised
  | setLed => exact storeHardware_hits (Hardware.hits_setLed _ _ _ _) raised
  | setButton => exact storeHardware_hits (Hardware.hits_setButton _ _ _) raised
  | getDigital | getAnalog => exact answerWith_hits _ (Hardware.hits_getLevel _ _ _) raised
  | getLed => exact answerWith_hits _ (Hardware.hits_getLed _ _ _) raised
  | getButton => exact answerWith_hits _ (Hardware.hits_getButton _ _) raised
  | clearLeds | reset | snapshot => cases raised

theorem storeHardware_stores (has : world.hardwares.Has target)
    (result : Except Fault Hardware) :
    ((world.storeHardware target result).1.hardwares.get target).stores =
      (result.map Hardware.stores).toOption.getD (world.hardwares.get target).stores := by
  cases result with
  | error fault => rfl
  | ok hardware => exact congrArg Hardware.stores (Arena.get_modify_self (fun _ => hardware) has)

theorem answerWith_world {α : Type} (record : α → Value) (result : Except Fault α) :
    (world.answerWith record result).1 = world := by
  cases result <;> rfl

/-- A call does to the stores what it does with subscripts that could miss. -/
theorem callHardware_stores (has : world.hardwares.Has target)
    (shaped : (world.hardwares.get target).Shaped) (operation : HardwareMethod)
    (arguments : Arguments) :
    ((world.callHardware target operation arguments).1.hardwares.get target).stores =
      (world.hardwares.get target).stores.serve operation arguments := by
  cases operation with
  | setDigital | setAnalog =>
      refine (storeHardware_stores has _).trans ?_
      rw [← shaped.stores_setLevel]
      rfl
  | setLed =>
      refine (storeHardware_stores has _).trans ?_
      rw [← shaped.stores_setLed]
      rfl
  | setButton =>
      refine (storeHardware_stores has _).trans ?_
      rw [← Hardware.stores_setButton]
      rfl
  | clearLeds =>
      refine (congrArg Hardware.stores (Arena.get_modify_self Hardware.clearLeds has)).trans ?_
      exact Hardware.stores_clearLeds
  | reset =>
      refine (congrArg Hardware.stores (Arena.get_modify_self Hardware.reset has)).trans ?_
      exact Hardware.stores_reset
  | getDigital | getAnalog | getLed | getButton =>
      simp only [callHardware, answerWith_world]
      rfl
  | snapshot => rfl

variable {names : List String} {width height : Int} {writes : List Write}

theorem Stands.shaped (stands : world.Stands target names width height writes) :
    (world.hardwares.get target).Shaped := by
  rw [stands.same]
  exact Hardware.shaped_after names width height writes

theorem Stands.stores (stands : world.Stands target names width height writes)
    (calls : List HardwareCall) :
    ((world.callEach target calls).hardwares.get target).stores =
      calls.foldl (fun stores call => stores.serve call.1 call.2)
        (world.hardwares.get target).stores := by
  induction calls generalizing world writes with
  | nil => rfl
  | cons call rest induction =>
      refine (induction (stands.call call.1 call.2)).trans ?_
      rw [callHardware_stores stands.has stands.shaped]
      rfl

theorem Stands.addressed (stands : world.Stands target names width height writes) :
    world.Addressed target names width height (world.hardwares.get target).stores := by
  have shaped := stands.shaped
  have listed : (world.hardwares.get target).pins.map (·.1) = distinct names := by
    rw [shaped.names, stands.same]
    rfl
  constructor
  case stored => rfl
  case snapshot =>
    intro arguments
    refine ⟨_, rfl, rfl, rfl, ?_⟩
    intro button
    cases button <;> rfl
  case pins =>
    rw [Hardware.stores_pins, listed]
    exact distinct_firstOccurrences names
  case columns =>
    rw [Hardware.stores_leds, shaped.columns, stands.same]
    exact Int.toNat_eq_max width
  case cells =>
    intro column member
    rw [shaped.cells column member, stands.same]
    exact Int.toNat_eq_max height
  case latches => rfl
  case accepted_pin =>
    intro pin name accepted
    obtain ⟨word, levels, found⟩ := Hardware.checkPin_eq_ok accepted
    refine ⟨word, ?_, levels, found⟩
    rw [← mem_distinct, ← listed]
    exact List.mem_map_of_mem (mem_of_lookup found)
  case accepted_cell =>
    intro x y column row accepted
    obtain ⟨first, second, left, _, above, _⟩ := Stores.checkLed_eq_ok accepted
    exact ⟨first, second, left, above, shaped.cell accepted⟩
  case getLevel => exact Hardware.stores_getLevel
  case getLed => exact shaped.stores_getLed
  case getButton => exact Hardware.stores_getButton
  case setLevel => exact shaped.stores_setLevel
  case setLed => exact shaped.stores_setLed
  case setButton => exact Hardware.stores_setButton
  case hits => exact fun operation arguments fault => callHardware_hits operation arguments

/-- Whatever has been called, the stores have the shape that the hardware was built with,
and no call misses a place in them. -/
theorem hardware_addressed (world : World) {pins : Value} {names : List String}
    (width height : Int) (given : pins.members = .ok (names.map .str)) (filled : names ≠ []) :
    ∃ built target,
      world.buildHardware pins (.int width) (.int height) = (built, .ok target) ∧
      ∀ calls : List HardwareCall, (built.callEach target calls).Addressed target names width
        height (calls.foldl (fun stores call => stores.serve call.1 call.2)
          (.initial names width height)) := by
  have plain : (names.map Value.str).map Value.plain = names := by
    rw [List.map_map]
    exact List.map_id names
  refine ⟨(world.newHardware (.initial names width height)).1, world.hardwares.fresh, ?_, ?_⟩
  · simp [buildHardware, given, Value.index, filled, newHardware, plain]
  · intro calls
    have stands : World.Stands (world.newHardware (.initial names width height)).1
        world.hardwares.fresh names width height [] :=
      ⟨Arena.has_push_fresh _ _, (Arena.get_push_fresh _ _).trans Hardware.after_nil.symm⟩
    have initial := congrArg Hardware.stores
      ((Arena.get_push_fresh world.hardwares (Hardware.initial names width height)))
    rw [← Hardware.stores_initial, ← initial]
    exact (stands.stores calls) ▸ (stands.run calls).addressed

theorem hardware_addressed_repeated_pin :
    ∃ built target,
      (World.initial true .empty).buildHardware (textTuple ["P0", "P1", "P0"]) (.int 2) (.int 1) =
        (built, .ok target) ∧
      (built.callEach target [(.setLed, ⟨[.int (-1), .int 0, .bool true], []⟩),
          (.setLed, ⟨[.int 1, .int 0, .bool true], []⟩), (.getDigital, ⟨[.str "P2"], []⟩),
          (.setAnalog, ⟨[.str "P1", .int 7], []⟩)]).Addressed target ["P0", "P1", "P0"] 2 1
        ⟨["P0", "P1", "P0"], 2, 1, [("P0", ⟨0, 0⟩), ("P1", ⟨0, 7⟩)], [[false], [true]],
          [(.a, false), (.b, false)]⟩ := by
  obtain ⟨built, target, done, addressed⟩ := hardware_addressed (World.initial true .empty) 2 1
    (rfl : (textTuple ["P0", "P1", "P0"]).members = .ok (["P0", "P1", "P0"].map .str)) (by decide)
  exact ⟨built, target, done, addressed _⟩

end World

end Microboard
