import Microboard.World.Building

/-!
# Functions

Operations that belong to no object: pictures of characters, configurations, the
shared registry, and what can be asked of any value.
-/

namespace Microboard

/-- All cells of rows of values; a cell is drawn when it is a hash. -/
def artRows : List Value → Except Complaint (List (List Char))
  | [] => .ok []
  | row :: rest => do
    let cells ← row.members
    let more ← artRows rest
    return cells.map (fun cell => if cell.equals (.str "#") then '#' else '.') :: more

/-- The first row of a drawing whose size differs from the given one ends the check. -/
def checkWidths (char : String) (width : Nat) : List Value → Except Complaint Unit
  | [] => .ok ()
  | row :: rest => do
    let size ← row.size
    if size ≠ width then .error (.glyph char .unevenRows)
    else checkWidths char width rest

def glyphOf (char art : Value) : Except Complaint Glyph := do
  let name := char.exact
  let count ← art.size
  if count ≠ Glyph.height then .error (.glyph name (.rowCount count))
  else
    let rows ← art.members
    let width ← (rows.headD .none).size
    if width = 0 then .error (.glyph name .unevenRows)
    else
      checkWidths name width rows
      let cells ← artRows rows
      match Glyph.parse cells with
      | .ok glyph => .ok glyph
      | .error problem => .error (.glyph name problem)

def fontGlyph (char : Value) : Except Fault Glyph :=
  match char.word?.bind fun word => Glyph.font.lookup word with
  | some glyph => .ok glyph
  | none => .error (.raised .key [char])

def fontCharacters : String :=
  String.join ((Glyph.font.map (·.1)).mergeSort fun left right => decide (left ≤ right))

def patternOf (text glyphs : Value) : Except Fault Value :=
  let glyphs := glyphs.glyphMap?.getD Glyph.font
  match text.members with
  | .error cause => .error (.complaint cause)
  | .ok chars =>
    match Scroll.pattern? glyphs (chars.flatMap fun char => char.plain.toList) with
    | some pattern => .ok (.list (pattern.map fun row => .list (row.map .bool)))
    | none => .error (.complaint .indexOutOfRange)

def replyWith {α : Type} (record : α → Value) : Except Complaint α → Reply
  | .ok value => .ok (record value)
  | .error cause => .complain cause

namespace World

def contains (world : World) (item container : Value) : Except Complaint Bool :=
  match container with
  | .table target =>
    match item with
    | .handle handle =>
      .ok ((world.tables.get target).find? (world.handles.get handle).id == some handle)
    | _ => .ok false
  | .registry target =>
    match item.word? with
    | some name => .ok ((world.registries.get target).find? name).isSome
    | none => .ok false
  | other =>
    match other.members with
    | .ok members => .ok (members.any fun member => member.equals item)
    | .error _ => .error (.notAContainer other.typeName)

def callFunction (world : World) (function : Function) (arguments : Arguments) :
    World × Reply :=
  match function with
  | .coerce =>
    match (arguments.get 0 "button").toButton with
    | .ok button => (world, .ok (.button button))
    | .error fault => (world, .error fault)
  | .parseGlyph =>
    (world, replyWith Glyph.value (glyphOf (arguments.get 0 "char") (arguments.get 1 "art")))
  | .glyphWidth =>
    match fontGlyph (arguments.get 0 "char") with
    | .ok glyph => (world, .ok (.int glyph.width))
    | .error fault => (world, .error fault)
  | .glyph =>
    match fontGlyph (arguments.get 0 "char") with
    | .ok glyph => (world, .ok glyph.value)
    | .error fault => (world, .error fault)
  | .glyphChars => (world, .ok (.str fontCharacters))
  | .scrollPattern =>
    (world, patternOf (arguments.get 0 "text") (arguments.get 1 "glyphs"))
  | .parseConfig => world.withConfig (BoardConfig.ofValue (arguments.get 0 "raw"))
  | .loadConfig =>
    world.withConfig (Microboard.loadConfig Yaml.read? (arguments.get 0 "board_name")
      (arguments.get 1 "path"))
  | .getConfig => world.getConfig (arguments.get 0 "board_name")
  | .clearConfigCache => (world.clearConfigs, .nothing)
  | .registerBoard =>
    world.registerBoard sharedRegistry (arguments.get 0 "name") (arguments.get 1 "board_class")
  | .getBoard =>
    (world, replyWith .type
      ((world.registries.get sharedRegistry).boardClass (arguments.get 0 "name").plain))
  | .createBoard =>
    world.createBoard sharedRegistry (arguments.get 0 "name")
      (arguments.named.filter fun entry => entry.1 ≠ "name")
  | .listBoards =>
    (world, .ok (.list ((world.registries.get sharedRegistry).names.map .str)))
  | .verifyBoards =>
    match (world.registries.get sharedRegistry).verify (arguments.positional.map Value.plain) with
    | some cause => (world, .complain cause)
    | none => (world, .nothing)
  | .length =>
    match arguments.get 0 "obj" with
    | .table target => (world, .ok (.int (world.tables.get target).entries.length))
    | other => (world, replyWith (fun count => .int count) other.size)
  | .list =>
    match arguments.get 0 "obj" with
    | .table target => (world, .ok (.list ((world.tables.get target).handles.map .handle)))
    | other => (world, replyWith .list other.members)
  | .repr => (world, (arguments.get 0 "obj").written (Value.repr world.describe))
  | .text => (world, (arguments.get 0 "obj").written (Value.text world.describe))
  | .contains =>
    (world, replyWith .bool (world.contains (arguments.get 0 "x") (arguments.get 1 "obj")))
  | .equal => (world, .ok (.bool ((arguments.get 0 "a").equals (arguments.get 1 "b"))))
  | .same => (world, .ok (.bool ((arguments.get 0 "a").same (arguments.get 1 "b"))))
  | .sleepers => (world, .nothing)

end World

end Microboard
