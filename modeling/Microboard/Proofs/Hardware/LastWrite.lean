import Microboard.Proofs.Hardware.Shape
import Microboard.Proofs.World.Building

/-!
# The last write wins

What hardware shows after any calls: at every level, cell and latch the last write to
exactly this place since the hardware was reset, and zero where there is none.  Calls that
fail have written nothing.
-/

namespace Microboard

/-- What a call writes. -/
inductive Write where
  | level (kind : PinKind) (pin : String) (level : Int)
  | cell (x y : Int) (lit : Bool)
  | latch (button : Button) (pressed : Bool)
  | darken
  | reset
deriving DecidableEq

namespace Write

def level? (kind : PinKind) (pin : String) : Write → Option Int
  | .level written name stored => if written = kind ∧ name = pin then some stored else none
  | _ => none

def cell? (x y : Int) : Write → Option Bool
  | .cell column row lit => if column = x ∧ row = y then some lit else none
  | _ => none

def latch? (button : Button) : Write → Option Bool
  | .latch known pressed => if known = button then some pressed else none
  | _ => none

/-- What the last write left behind, of those after the last that ends all before it. -/
def latest {α : Type} (ends : Write → Bool) (found : Write → Option α) (default : α)
    (writes : List Write) : α :=
  ((writes.reverse.takeWhile fun write => !ends write).findSome? found).getD default

def levelAfter (writes : List Write) (kind : PinKind) (pin : String) : Int :=
  latest (· = .reset) (level? kind pin) 0 writes

def cellAfter (writes : List Write) (x y : Int) : Bool :=
  latest (fun write => write = .reset ∨ write = .darken) (cell? x y) false writes

def latchAfter (writes : List Write) (button : Button) : Bool :=
  latest (· = .reset) (latch? button) false writes

end Write

/-- What hardware shows after writes. -/
def Snapshot.after (pinIds : List String) (width height : Int) (writes : List Write) :
    Snapshot where
  pins := (distinct pinIds).map fun pin =>
    (pin, ⟨Write.levelAfter writes .digital pin, Write.levelAfter writes .analog pin⟩)
  leds := (List.range width.toNat).map fun x : Nat =>
    (List.range height.toNat).map fun y : Nat => Write.cellAfter writes x y
  buttons := ⟨Write.latchAfter writes .a, Write.latchAfter writes .b⟩

/-- What a call of an operation writes, unless it fails. -/
def HardwareMethod.write? (arguments : Arguments) : HardwareMethod → Option Write
  | .setDigital => do
    let pin ← (arguments.get 0 "pin").word?
    let level ← (arguments.get 1 "value").index.toOption
    return .level .digital pin level
  | .setAnalog => do
    let pin ← (arguments.get 0 "pin").word?
    let level ← (arguments.get 1 "value").index.toOption
    return .level .analog pin level
  | .setLed => do
    let x ← (arguments.get 0 "x").index.toOption
    let y ← (arguments.get 1 "y").index.toOption
    return .cell x y (arguments.get 2 "lit").truthy
  | .setButton => do
    let button ← (arguments.get 0 "button").toButton.toOption
    return .latch button (arguments.get 1 "pressed").truthy
  | .clearLeds => some .darken
  | .reset => some .reset
  | .getDigital | .getAnalog | .getLed | .getButton | .snapshot => none

def HardwareMethod.writes : HardwareMethod → Bool
  | .setDigital | .setAnalog | .setLed | .setButton | .clearLeds | .reset => true
  | .getDigital | .getAnalog | .getLed | .getButton | .snapshot => false

/-- The operation that reads the level of a pin. -/
def PinKind.reads : PinKind → HardwareMethod
  | .digital => .getDigital
  | .analog => .getAnalog

def Focus.fails : Focus → Bool
  | .reply (.error _) => true
  | _ => false

abbrev HardwareCall := HardwareMethod × Arguments

namespace World

/-- Calls operations of hardware, one after the other. -/
def callEach (world : World) (target : Ref .hardware) (calls : List HardwareCall) : World :=
  calls.foldl (fun world call => (world.callHardware target call.1 call.2).1) world

/-- What the calls that have not failed have written. -/
def written (world : World) (target : Ref .hardware) : List HardwareCall → List Write
  | [] => []
  | call :: rest =>
    let result := world.callHardware target call.1 call.2
    (if result.2.fails then [] else (call.1.write? call.2).toList) ++
      result.1.written target rest

/-- Hardware shows to all who read it what writes have left behind, and a call that does not
fail is known to write something. -/
structure Shows (world : World) (target : Ref .hardware) (pinIds : List String)
    (width height : Int) (writes : List Write) : Prop where
  levels : ∀ (kind : PinKind) (arguments : Arguments), ∀ pin ∈ pinIds,
    (arguments.get 0 "pin").word? = some pin →
    world.callHardware target kind.reads arguments =
      (world, .value (.int (Write.levelAfter writes kind pin)))
  cells : ∀ (arguments : Arguments) (x y : Int),
    (arguments.get 0 "x").index = .ok x → (arguments.get 1 "y").index = .ok y →
    0 ≤ x → x < width → 0 ≤ y → y < height →
    world.callHardware target .getLed arguments =
      (world, .value (.bool (Write.cellAfter writes x y)))
  latches : ∀ (arguments : Arguments) (button : Button),
    (arguments.get 0 "button").toButton = .ok button →
    world.callHardware target .getButton arguments =
      (world, .value (.bool (Write.latchAfter writes button)))
  snapshot : ∀ arguments : Arguments,
    world.callHardware target .snapshot arguments =
      ({ world with identities := world.identities + 1 },
        .value (.snapshot (.after pinIds width height writes) world.identities))
  heard : ∀ (operation : HardwareMethod) (arguments : Arguments), operation.writes = true →
    (world.callHardware target operation arguments).2.fails = false →
    (operation.write? arguments).isSome

end World

namespace Write

variable {α : Type} {ends : Write → Bool} {found : Write → Option α} {default : α}
variable {writes : List Write} {write : Write}

theorem latest_append :
    latest ends found default (writes ++ [write]) =
      if ends write then default else (found write).getD (latest ends found default writes) := by
  simp only [latest, List.reverse_append, List.reverse_singleton, List.singleton_append,
    List.takeWhile_cons]
  cases ends write with
  | true => rfl
  | false =>
      simp only [Bool.not_false, if_true, List.findSome?_cons]
      cases found write <;> rfl

theorem levelAfter_append (kind : PinKind) (pin : String) :
    levelAfter (writes ++ [write]) kind pin =
      if write = .reset then 0 else (write.level? kind pin).getD (levelAfter writes kind pin) := by
  simp [levelAfter, latest_append]

theorem cellAfter_append (x y : Int) :
    cellAfter (writes ++ [write]) x y =
      if write = .reset ∨ write = .darken then false
      else (write.cell? x y).getD (cellAfter writes x y) := by
  simp [cellAfter, latest_append]

theorem latchAfter_append (button : Button) :
    latchAfter (writes ++ [write]) button =
      if write = .reset then false else (write.latch? button).getD (latchAfter writes button) := by
  simp [latchAfter, latest_append]

end Write

theorem mem_distinct {names : List String} {name : String} :
    name ∈ distinct names ↔ name ∈ names := by
  have step : ∀ rest seen : List String,
      name ∈ rest.foldl (fun seen name => if name ∈ seen then seen else seen ++ [name]) seen ↔
        name ∈ seen ∨ name ∈ rest := by
    intro rest
    induction rest with
    | nil => simp
    | cons other rest induction =>
        intro seen
        rw [List.foldl_cons, induction]
        by_cases known : other ∈ seen
        · rw [if_pos known, List.mem_cons]
          grind
        · rw [if_neg known, List.mem_append, List.mem_singleton, List.mem_cons, or_assoc]
  rw [distinct, step names []]
  simp

theorem lookup_map_self {β : Type} {names : List String} {name : String} (f : String → β)
    (member : name ∈ names) :
    (names.map fun name => (name, f name)).lookup name = some (f name) := by
  induction names with
  | nil => cases member
  | cons first rest induction =>
      rw [List.map_cons, List.lookup_cons]
      by_cases same : name = first
      · simp [same]
      · have differs : (name == first) = false := by simpa using same
        rw [differs]
        exact induction ((List.mem_cons.mp member).resolve_left same)

namespace Hardware

/-- The hardware that writes leave behind. -/
def after (pinIds : List String) (width height : Int) (writes : List Write) : Hardware :=
  let shown := Snapshot.after pinIds width height writes
  ⟨pinIds, width, height, shown.pins, shown.leds, shown.buttons⟩

variable {pinIds : List String} {width height : Int} {writes : List Write}

theorem after_nil : after pinIds width height [] = initial pinIds width height := by
  have dark : (List.range width.toNat).map (fun _ => (List.range height.toNat).map fun _ => false) =
      darkLeds width height := by
    simp [darkLeds, List.map_const']
  exact congrArg (fun leds => { initial pinIds width height with leds }) dark

theorem after_level (kind : PinKind) (pin : String) (level : Int) :
    (after pinIds width height writes).writePin pin kind level =
      after pinIds width height (writes ++ [.level kind pin level]) := by
  simp only [writePin, after, Snapshot.after, Hardware.mk.injEq, true_and]
  refine ⟨?pins, ?cells, ?latches⟩
  case pins =>
    rw [List.map_map]
    apply List.map_congr_left
    intro name _
    by_cases same : name = pin
    · cases kind <;> simp [Write.levelAfter_append, Write.level?, PinLevels.set, same]
    · simp [Write.levelAfter_append, Write.level?, same, Ne.symm same]
  case cells => simp [Write.cellAfter_append, Write.cell?]
  case latches => simp [Write.latchAfter_append, Write.latch?]

theorem after_cell {x y : Int} (lit : Bool) (left : 0 ≤ x) (above : 0 ≤ y) :
    (after pinIds width height writes).writeLed x.toNat y.toNat lit =
      after pinIds width height (writes ++ [.cell x y lit]) := by
  simp only [writeLed, after, Snapshot.after, Hardware.mk.injEq, true_and]
  refine ⟨?pins, ?cells, ?latches⟩
  case pins => simp [Write.levelAfter_append, Write.level?]
  case cells =>
    apply List.ext_getElem
    · simp
    · intro column inside _
      by_cases sameColumn : x = column
      · apply List.ext_getElem
        · simp [sameColumn]
        · intro row _ _
          by_cases sameRow : y = row
          · simp [Write.cellAfter_append, Write.cell?, sameColumn, sameRow]
          · have otherRow : y.toNat ≠ row := by omega
            simp [Write.cellAfter_append, Write.cell?, sameColumn, sameRow,
              List.getElem_set_ne otherRow]
      · have otherColumn : x.toNat ≠ column := by omega
        simp [Write.cellAfter_append, Write.cell?, List.getElem_modify_ne, sameColumn, otherColumn]
  case latches => simp [Write.latchAfter_append, Write.latch?]

theorem after_latch (button : Button) (pressed : Bool) :
    (after pinIds width height writes).writeLatch button pressed =
      after pinIds width height (writes ++ [.latch button pressed]) := by
  simp only [writeLatch, after, Snapshot.after, Hardware.mk.injEq, true_and]
  refine ⟨?pins, ?cells, ?latches⟩
  case pins => simp [Write.levelAfter_append, Write.level?]
  case cells => simp [Write.cellAfter_append, Write.cell?]
  case latches => cases button <;> simp [Write.latchAfter_append, Write.latch?, PerButton.set]

theorem after_darken :
    (after pinIds width height writes).clearLeds =
      after pinIds width height (writes ++ [.darken]) := by
  simp only [clearLeds, after, Snapshot.after, Hardware.mk.injEq, true_and]
  refine ⟨?pins, ?cells, ?latches⟩
  case pins => simp [Write.levelAfter_append, Write.level?]
  case cells => simp [Write.cellAfter_append, darkLeds, List.map_const']
  case latches => simp [Write.latchAfter_append, Write.latch?]

theorem after_reset :
    (after pinIds width height writes).reset =
      after pinIds width height (writes ++ [.reset]) := by
  simp only [reset, initial, after, Snapshot.after, Hardware.mk.injEq, true_and]
  refine ⟨?pins, ?cells, ?latches⟩
  case pins => simp [Write.levelAfter_append, zeroPins, PinLevels.zero]
  case cells => simp [Write.cellAfter_append, darkLeds, List.map_const']
  case latches => simp [Write.latchAfter_append, PerButton.const]

theorem levels?_after {pin : String} (member : pin ∈ pinIds) :
    (after pinIds width height writes).levels? pin =
      some ⟨Write.levelAfter writes .digital pin, Write.levelAfter writes .analog pin⟩ :=
  lookup_map_self _ (mem_distinct.mpr member)

theorem led?_after {x y : Int} (left : 0 ≤ x) (right : x < width) (above : 0 ≤ y)
    (below : y < height) :
    (after pinIds width height writes).led? x.toNat y.toNat =
      some (Write.cellAfter writes x y) := by
  have column : x.toNat < width.toNat := by omega
  have row : y.toNat < height.toNat := by omega
  simp [led?, after, Snapshot.after, column, row, Int.max_eq_left left, Int.max_eq_left above]

theorem getLevel_after (kind : PinKind) {name : Value} {pin : String} (member : pin ∈ pinIds)
    (word : name.word? = some pin) :
    (after pinIds width height writes).getLevel kind name =
      .ok (Write.levelAfter writes kind pin) := by
  simp only [getLevel, checkPin, word, levels?_after member, Option.isSome_some, if_true, bind,
    Except.bind, pure, Except.pure, Option.getD_some]
  cases kind <;> rfl

theorem getLed_after {first second : Value} {x y : Int} (column : first.index = .ok x)
    (row : second.index = .ok y) (left : 0 ≤ x) (right : x < width) (above : 0 ≤ y)
    (below : y < height) :
    (after pinIds width height writes).getLed first second = .ok (Write.cellAfter writes x y) := by
  have inside : (after pinIds width height writes).inMatrix x y = true :=
    inMatrix_iff.mpr ⟨left, right, above, below⟩
  simp [getLed, checkLed, column, row, orFault, inside, bind, Except.bind, pure, Except.pure,
    led?_after left right above below]

theorem getButton_after {name : Value} {button : Button} (named : name.toButton = .ok button) :
    (after pinIds width height writes).getButton name =
      .ok (Write.latchAfter writes button) := by
  simp only [getButton, named]
  cases button <;> rfl

/-- A checked access that succeeds has added a write to those before. -/
def Adds (pinIds : List String) (width height : Int) (writes : List Write)
    (write : Option Write) (result : Except Fault Hardware) : Prop :=
  ∀ changed, result = .ok changed →
    ∃ added, write = some added ∧ changed = after pinIds width height (writes ++ [added])

theorem setLevel_adds (kind : PinKind) (pin level : Value) :
    Adds pinIds width height writes
      (do return .level kind (← pin.word?) (← level.index.toOption))
      ((after pinIds width height writes).setLevel kind pin level) := by
  intro changed success
  obtain ⟨name, stored, word, _, number, rfl⟩ := setLevel_eq_ok success
  refine ⟨.level kind name stored, ?_, after_level kind name stored⟩
  simp [word, number, Except.toOption]

theorem setLed_adds (x y lit : Value) :
    Adds pinIds width height writes
      (do return .cell (← x.index.toOption) (← y.index.toOption) lit.truthy)
      ((after pinIds width height writes).setLed x y lit) := by
  intro changed success
  obtain ⟨column, row, first, second, inside, rfl⟩ := setLed_eq_ok success
  obtain ⟨left, _, above, _⟩ := inMatrix_iff.mp inside
  refine ⟨.cell column row lit.truthy, ?_, after_cell lit.truthy left above⟩
  simp [first, second, Except.toOption]

theorem setButton_adds (button pressed : Value) :
    Adds pinIds width height writes
      (do return .latch (← button.toButton.toOption) pressed.truthy)
      ((after pinIds width height writes).setButton button pressed) := by
  intro changed success
  obtain ⟨known, named, rfl⟩ := setButton_eq_ok success
  refine ⟨.latch known pressed.truthy, ?_, after_latch known pressed.truthy⟩
  simp [named, Except.toOption]

end Hardware

namespace World

/-- Hardware is what writes have left behind. -/
structure Stands (world : World) (target : Ref .hardware) (pinIds : List String)
    (width height : Int) (writes : List Write) : Prop where
  has : world.hardwares.Has target
  same : world.hardwares.get target = .after pinIds width height writes

variable {world : World} {target : Ref .hardware} {pinIds : List String} {width height : Int}
variable {writes : List Write}

theorem heard_of_adds {write : Option Write} {result : Except Fault Hardware}
    (adds : Hardware.Adds pinIds width height writes write result)
    (succeeds : (world.storeHardware target result).2.fails = false) : write.isSome := by
  cases result with
  | error fault => cases succeeds
  | ok changed =>
      obtain ⟨added, rfl, _⟩ := adds changed rfl
      rfl

namespace Stands

theorem set (stands : world.Stands target pinIds width height writes) {write : Write}
    {change : Hardware → Hardware}
    (changes : change (.after pinIds width height writes) =
      .after pinIds width height (writes ++ [write])) :
    (world.setHardware target change).Stands target pinIds width height (writes ++ [write]) where
  has := Arena.has_modify.mpr stands.has
  same := by
    refine (Arena.get_modify_self change stands.has).trans ?_
    rw [stands.same, changes]

theorem store (stands : world.Stands target pinIds width height writes)
    {result : Except Fault Hardware} {write : Option Write}
    (adds : Hardware.Adds pinIds width height writes write result) :
    (world.storeHardware target result).1.Stands target pinIds width height
      (writes ++ if (world.storeHardware target result).2.fails then [] else write.toList) := by
  cases result with
  | error fault => simpa [storeHardware, Focus.fails, Focus.raise] using stands
  | ok changed =>
      obtain ⟨added, rfl, rfl⟩ := adds changed rfl
      exact stands.set rfl

theorem answerWith {α : Type} (stands : world.Stands target pinIds width height writes)
    (record : α → Value) (result : Except Fault α) :
    (world.answerWith record result).1.Stands target pinIds width height
      (writes ++ if (world.answerWith record result).2.fails then [] else []) := by
  rw [ite_self, List.append_nil]
  cases result <;> exact stands

/-- A call adds its write to those before, unless it fails. -/
theorem call (stands : world.Stands target pinIds width height writes)
    (operation : HardwareMethod) (arguments : Arguments) :
    (world.callHardware target operation arguments).1.Stands target pinIds width height
      (writes ++ if (world.callHardware target operation arguments).2.fails then []
        else (operation.write? arguments).toList) := by
  simp only [callHardware, stands.same]
  cases operation with
  | setDigital => exact stands.store (Hardware.setLevel_adds .digital _ _)
  | setAnalog => exact stands.store (Hardware.setLevel_adds .analog _ _)
  | setLed => exact stands.store (Hardware.setLed_adds _ _ _)
  | setButton => exact stands.store (Hardware.setButton_adds _ _)
  | clearLeds => exact stands.set Hardware.after_darken
  | reset => exact stands.set Hardware.after_reset
  | getDigital | getAnalog | getLed | getButton => exact stands.answerWith _ _
  | snapshot =>
      have kept : (world.answerSnapshot target).1.Stands target pinIds width height writes :=
        ⟨stands.has, stands.same⟩
      simpa [HardwareMethod.write?] using kept

theorem run (stands : world.Stands target pinIds width height writes)
    (calls : List HardwareCall) :
    (world.callEach target calls).Stands target pinIds width height
      (writes ++ world.written target calls) := by
  induction calls generalizing world writes with
  | nil => simpa [callEach, written] using stands
  | cons call rest induction =>
      have called := induction (stands.call call.1 call.2)
      rw [List.append_assoc] at called
      exact called

theorem shows (stands : world.Stands target pinIds width height writes) :
    world.Shows target pinIds width height writes := by
  constructor
  case levels =>
    intro kind arguments pin member word
    have read : (Hardware.after pinIds width height writes).getLevel kind (arguments.get 0 "pin") =
        .ok (Write.levelAfter writes kind pin) := Hardware.getLevel_after kind member word
    cases kind with
    | digital | analog =>
        simp only [PinKind.reads, callHardware, stands.same, read]
        rfl
  case cells =>
    intro arguments x y first second left right above below
    simp only [callHardware, stands.same,
      Hardware.getLed_after first second left right above below]
    rfl
  case latches =>
    intro arguments button named
    simp only [callHardware, stands.same, Hardware.getButton_after named]
    rfl
  case snapshot =>
    intro arguments
    simp only [callHardware, answerSnapshot, stands.same]
    rfl
  case heard =>
    intro operation arguments writing succeeds
    simp only [callHardware, stands.same] at succeeds
    cases operation with
    | setDigital => exact heard_of_adds (Hardware.setLevel_adds .digital _ _) succeeds
    | setAnalog => exact heard_of_adds (Hardware.setLevel_adds .analog _ _) succeeds
    | setLed => exact heard_of_adds (Hardware.setLed_adds _ _ _) succeeds
    | setButton => exact heard_of_adds (Hardware.setButton_adds _ _) succeeds
    | clearLeds | reset => rfl
    | getDigital | getAnalog | getLed | getButton | snapshot => cases writing

end Stands

/-- Each read of hardware returns what the last write to exactly this place has left. -/
theorem hardware_shows_last_writes (world : World) {pins width height : Value}
    {members : List Value} {columns rows : Int} (given : pins.members = .ok members)
    (filled : members ≠ []) (wide : width.index = .ok columns) (high : height.index = .ok rows) :
    ∃ built target, world.buildHardware pins width height = (built, .ok target) ∧
      ∀ calls : List HardwareCall, (built.callEach target calls).Shows target
        (members.map Value.plain) columns rows (built.written target calls) := by
  refine ⟨(world.newHardware (.initial (members.map Value.plain) columns rows)).1,
    world.hardwares.fresh, ?_, ?_⟩
  · simp [buildHardware, given, wide, high, filled, newHardware]
  · intro calls
    have stands : World.Stands (world.newHardware
        (.initial (members.map Value.plain) columns rows)).1 world.hardwares.fresh
        (members.map Value.plain) columns rows [] :=
      ⟨Arena.has_push_fresh _ _, (Arena.get_push_fresh _ _).trans Hardware.after_nil.symm⟩
    exact (stands.run calls).shows

theorem hardware_shows_last_writes_two_pins :
    ∃ built target, (World.initial true .empty).buildHardware (textTuple ["P0", "P1"]) (.int 2)
        (.int 1) = (built, .ok target) ∧
      (built.callEach target
        [(.setAnalog, ⟨[.str "P0", .int 512], []⟩), (.setDigital, ⟨[.str "P9", .int 1], []⟩),
          (.setLed, ⟨[.int 1, .int 0, .int 7], []⟩)]).Shows
        target ["P0", "P1"] 2 1 [.level .analog "P0" 512, .cell 1 0 true] := by
  obtain ⟨built, target, done, shows⟩ :=
    hardware_shows_last_writes (World.initial true .empty)
      (rfl : (textTuple ["P0", "P1"]).members = _) (by decide)
      (rfl : (Value.int 2).index = _) (rfl : (Value.int 1).index = _)
  refine ⟨built, target, done, ?_⟩
  cases done
  exact shows _

end World

end Microboard
