import Microboard.Proofs.Scroll.Marks
import Microboard.Proofs.World.Sound

/-!
# Drawing strokes

What the frames of a scrolling text do when they go on: the next mark is made on the
matrix and told, or a sleep is asked for.
-/

namespace Microboard.World

open Scroll

variable {world : World} {bridge : Ref .bridge} {hardware : Ref .hardware} {bus : Ref .bus}
variable {interval : Value}

/-- A bridge stands over a matrix of five by five cells. -/
structure Canvas (world : World) (bridge : Ref .bridge) (hardware : Ref .hardware)
    (bus : Ref .bus) : Prop where
  has : world.hardwares.Has hardware
  hasBridge : world.bridges.Has bridge
  matrix : (world.bridges.get bridge).hardware = hardware
  channel : (world.bridges.get bridge).bus = bus
  shaped : (world.hardwares.get hardware).Shaped
  width : (world.hardwares.get hardware).width = Glyph.height
  height : (world.hardwares.get hardware).height = Glyph.height

def shown (world : World) (hardware : Ref .hardware) : Picture :=
  fun x y => ((world.hardwares.get hardware).led? x y).getD false

theorem shown_congr {old new : World}
    (same : new.hardwares.get hardware = old.hardwares.get hardware) :
    new.shown hardware = old.shown hardware := by
  unfold shown
  rw [same]

def cellEvent (x y : Nat) (lit : Bool) : Event :=
  .ledChange (.number x) (.number y) (if lit then 1 else 0)

/-- The operations that draw, the innermost first, and the marks that they still have
to make. -/
inductive Drawing (bridge : Ref .bridge) (interval : Value) :
    List Frame → List Mark → Prop where
  | strokes (rest : List Stroke) :
      Drawing bridge interval [.drawing (.matrix bridge) interval rest] (marks rest)
  | sweeping (places : List (Nat × Nat)) (rest : List Stroke) :
      Drawing bridge interval
        [.clearing bridge places, .drawing (.matrix bridge) interval rest]
        (darken places ++ marks rest)

/-- An operation with the frames that it is going to wait in laid out. -/
inductive Lays : List Frame → Focus → List Frame → Focus → Prop where
  | here (stack : List Frame) (focus : Focus) : Lays stack focus stack focus
  | within {stack all : List Frame} {frame : Frame} {focus core : Focus}
      (lays : Lays (frame :: stack) focus all core) :
      Lays stack (.within frame focus) all core

/-- What happens when drawing goes on above some frames. -/
inductive Paints (world : World) (bridge : Ref .bridge) (hardware : Ref .hardware)
    (bus : Ref .bus) (interval : Value) :
    List Frame → List Mark → World × Focus → Prop where
  | ends : Paints world bridge hardware bus interval [] [] (world, .nothing)
  | falls {low : List Frame} {todo : List Mark} (drawing : Drawing bridge interval low todo) :
      Paints world bridge hardware bus interval low todo (world, .nothing)
  | paints {low all : List Frame} {x y : Nat} {lit : Bool} {todo : List Mark} {focus : Focus}
      (identity : Nat)
      (lays : Lays low focus all (.publish bus (.event (cellEvent x y lit) identity)))
      (drawing : Drawing bridge interval all todo) :
      Paints world bridge hardware bus interval low (.paint x y lit :: todo)
        ({ world.setHardware hardware (·.writeLed x y lit) with
            identities := world.identities + 1 }, focus)
  | pauses {low : List Frame} {rest : List Stroke} {focus : Focus}
      (lays : Lays low focus [.drawing (.matrix bridge) interval rest] (.sleep interval)) :
      Paints world bridge hardware bus interval low (.pause :: marks rest) (world, focus)

theorem sweep_paints (canvas : world.Canvas bridge hardware bus) (places : List (Nat × Nat))
    (rest : List Stroke) :
    Paints world bridge hardware bus interval [.drawing (.matrix bridge) interval rest]
      (darken places ++ marks rest) (world.sweep bridge places) := by
  cases places with
  | nil => exact .falls (.strokes rest)
  | cons place others =>
      obtain ⟨x, y⟩ := place
      have painted : Paints world bridge hardware bus interval
          [.drawing (.matrix bridge) interval rest] (darken ((x, y) :: others) ++ marks rest)
          ({ world.setHardware hardware (·.writeLed x y false) with
              identities := world.identities + 1 },
            .within (.clearing bridge others)
              (.publish bus (.event (cellEvent x y false) world.identities))) :=
        .paints world.identities (.within (.here _ _)) (.sweeping others rest)
      simp only [sweep, canvas.matrix, canvas.channel]
      exact painted

/-- What goes on above an operation that waits goes on above those below it. -/
theorem Paints.within {frame : Frame} {low : List Frame} {todo : List Mark}
    {next : World × Focus} (paints : Paints world bridge hardware bus interval
      (frame :: low) todo next) (begun : next.2 ≠ .nothing) :
    Paints world bridge hardware bus interval low todo (next.1, .within frame next.2) := by
  cases paints with
  | falls => exact absurd rfl begun
  | paints identity lays drawing => exact .paints identity (.within lays) drawing
  | pauses lays => exact .pauses (.within lays)

theorem drawCell_eq (canvas : world.Canvas bridge hardware bus) {x y : Nat}
    (column : x < Glyph.height) (row : y < Glyph.height) :
    world.drawCell bridge (.int x) (.int y) true =
      ({ world.setHardware hardware (·.writeLed x y true) with
          identities := world.identities + 1 },
        .publish bus (.event (cellEvent x y true) world.identities)) := by
  have inside : (world.hardwares.get hardware).inMatrix x y = true := by
    rw [Hardware.inMatrix_iff, canvas.width, canvas.height]
    omega
  have written : (world.hardwares.get hardware).setLed (.int x) (.int y) (.bool true) =
      .ok ((world.hardwares.get hardware).writeLed x y true) := by
    simp [Hardware.setLed, Hardware.checkLed, Value.index, orFault, inside, bind, Except.bind,
      pure, Except.pure, Value.truthy]
  simp only [drawCell, canvas.matrix, canvas.channel, written, Value.whole]
  exact congrArg (fun stored : World => stored.announce bus _)
    (setHardware_const world hardware (·.writeLed x y true))

theorem cellsOf_eq (canvas : world.Canvas bridge hardware bus) :
    cellsOf (world.hardwares.get hardware) = cells Glyph.height Glyph.height := by
  rw [cellsOf, canvas.width, canvas.height]
  rfl

theorem draw_paints (canvas : world.Canvas bridge hardware bus) {rest : List Stroke}
    (bounded : Bounded (marks rest)) :
    Paints world bridge hardware bus interval [] (marks rest)
      (world.draw (.matrix bridge) interval rest) := by
  cases rest with
  | nil => exact .ends
  | cons stroke rest =>
      cases stroke with
      | pause => exact .pauses (.within (.here _ _))
      | clear =>
          have cleared : Paints world bridge hardware bus interval
              [.drawing (.matrix bridge) interval rest]
              (darken (cells Glyph.height Glyph.height) ++ marks rest)
              (world.clearScreen bridge) := by
            rw [clearScreen, canvas.matrix, cellsOf_eq canvas]
            exact sweep_paints canvas _ rest
          apply cleared.within
          intro settled
          rw [clearScreen, canvas.matrix, cellsOf_eq canvas] at settled
          cases settled
      | plot x y =>
          obtain ⟨column, row⟩ := bounded x y true List.mem_cons_self
          simp only [draw, drawCell_eq canvas column row]
          exact .paints world.identities (.within (.here _ _)) (.strokes rest)

/-- Operations that draw go on with their next mark when the one before is told. -/
theorem resume_paints (canvas : world.Canvas bridge hardware bus) {frame : Frame}
    {low : List Frame} {todo : List Mark}
    (drawing : Drawing bridge interval (frame :: low) todo) (bounded : Bounded todo)
    (value : Value) :
    Paints world bridge hardware bus interval low todo (world.resume frame (.ok value)) := by
  cases drawing with
  | strokes rest => exact draw_paints canvas bounded
  | sweeping places rest => exact sweep_paints canvas places rest

theorem Canvas.grows {old new : World} (canvas : old.Canvas bridge hardware bus)
    (grows : Grows old new) : new.Canvas bridge hardware bus := by
  obtain ⟨has, succeeds⟩ := grows.hardwares _ canvas.has
  obtain ⟨hasBridge, same⟩ := grows.bridges _ canvas.hasBridge
  exact
    { has, hasBridge
      matrix := same ▸ canvas.matrix
      channel := same ▸ canvas.channel
      shaped := succeeds.shaped canvas.shaped
      width := succeeds.width.trans canvas.width
      height := succeeds.height.trans canvas.height }

theorem display_of_accepted {config : BoardConfig} (accepted : config.badField? = none) :
    config.display = ⟨Glyph.height, Glyph.height⟩ := by
  by_cases size : config.display = ⟨Glyph.height, Glyph.height⟩
  · exact size
  · unfold BoardConfig.badField? at accepted
    simp only [ne_eq, size, not_false_eq_true, if_true] at accepted
    split at accepted
    · cases accepted
    · split at accepted <;> cases accepted

theorem canvas_of_wired {board : Board} (sound : world.Sound) (wired : world.Wired board)
    (accepted : board.config.badField? = none) :
    world.Canvas board.bridge board.hardware board.bus := by
  have display := display_of_accepted accepted
  exact
    { has := wired.hasHardware
      hasBridge := wired.hasBridge
      matrix := congrArg Bridge.hardware wired.bridge
      channel := congrArg Bridge.bus wired.bridge
      shaped := sound.hardware _ wired.hasHardware
      width := wired.width.trans (congrArg DisplayConfig.width display)
      height := wired.height.trans (congrArg DisplayConfig.height display) }

theorem shown_writeLed (canvas : world.Canvas bridge hardware bus) {x y : Nat} (lit : Bool)
    (column : x < Glyph.height) (row : y < Glyph.height) :
    (world.setHardware hardware (·.writeLed x y lit)).shown hardware =
      (world.shown hardware).paint x y lit := by
  have width : (world.hardwares.get hardware).width.toNat = Glyph.height := by
    rw [canvas.width]
    rfl
  have height : (world.hardwares.get hardware).height.toNat = Glyph.height := by
    rw [canvas.height]
    rfl
  have painted : (world.setHardware hardware (·.writeLed x y lit)).hardwares.get hardware =
      (world.hardwares.get hardware).writeLed x y lit :=
    Arena.get_modify_self _ canvas.has
  funext other line
  rw [shown, painted, Picture.paint]
  by_cases same : other = x ∧ line = y
  · obtain ⟨rfl, rfl⟩ := same
    rw [canvas.shaped.led?_writeLed_self lit (width ▸ column) (height ▸ row)]
    simp
  · rw [Hardware.led?_writeLed, if_neg same, if_neg same]
    rfl

theorem getLed_eq (canvas : world.Canvas bridge hardware bus) {x y : Nat}
    (column : x < Glyph.height) (row : y < Glyph.height) :
    (world.hardwares.get hardware).getLed (.int x) (.int y) =
      .ok (world.shown hardware x y) := by
  have inside : (world.hardwares.get hardware).inMatrix x y = true := by
    rw [Hardware.inMatrix_iff, canvas.width, canvas.height]
    omega
  simp [Hardware.getLed, Hardware.checkLed, Value.index, orFault, inside, bind, Except.bind,
    pure, Except.pure, shown]

def Still (old new : World) : Prop :=
  ∀ target, (new.hardwares.get target).pins = (old.hardwares.get target).pins ∧
    (new.hardwares.get target).buttons = (old.hardwares.get target).buttons

theorem Still.refl (world : World) : Still world world :=
  fun _ => ⟨rfl, rfl⟩

theorem Still.of_eq {old new : World} (same : new.hardwares = old.hardwares) :
    Still old new :=
  fun _ => same ▸ ⟨rfl, rfl⟩

theorem Paints.still {low : List Frame} {todo : List Mark} {next : World × Focus}
    (paints : Paints world bridge hardware bus interval low todo next) :
    Still world next.1 := by
  cases paints with
  | ends | falls | pauses => exact .refl world
  | @paints _ _ x y lit =>
      exact fun target =>
        ⟨world.hardwares.get_modify_field Hardware.pins (·.writeLed x y lit) (fun _ => rfl)
            hardware target,
          world.hardwares.get_modify_field Hardware.buttons (·.writeLed x y lit) (fun _ => rfl)
            hardware target⟩

/-- The delay between the frames of a text: the one that is given, or that of the board. -/
def scrollDelay (board : Board) (given : Value) : Value :=
  match given with
  | .none => board.config.timing.scroll.value
  | delay => delay

theorem showString_eq {board : Board} {frames : List Scroll.Frame} {text : Value}
    (wired : world.Wired board) (accepted : board.config.badField? = none) (given : Value)
    (shown : frames? Glyph.font Glyph.height Glyph.height (text.text world.describe).toList =
      some frames) :
    world.showString board.bridge text given =
      world.draw (.matrix board.bridge) (scrollDelay board given) (strokes frames) := by
  have display := display_of_accepted accepted
  have width : board.config.display.width.toNat = Glyph.height := by
    rw [display]
    rfl
  have height : board.config.display.height.toNat = Glyph.height := by
    rw [display]
    rfl
  have found : world.framesOf (world.bridges.get board.bridge).scroller
      (text.text world.describe) = .ok frames := by
    simp only [framesOf, wired.scroller, width, height, shown]
  have interval : (world.bridges.get board.bridge).scrollInterval =
      board.config.timing.scroll.value :=
    congrArg Bridge.scrollInterval wired.bridge
  simp only [showString, scroll, found, wired.scroller]
  cases given with
  | none => simp only [scrollDelay, interval]
  | _ => rfl

end Microboard.World
