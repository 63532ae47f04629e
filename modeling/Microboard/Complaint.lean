import Microboard.Text.Quoted
import Microboard.Glyph

/-!
# Complaints

What the library itself objects to, one constructor for each cause. The wording
of all of them stands in `Complaint.message`.
-/

namespace Microboard

/-- The kinds of ordinary errors, and the cancellation of a task. -/
inductive ErrorKind where
  | value
  | key
  | runtime
  | type
  | zeroDivision
  | index
  | overflow
  | attribute
  | cancelled
  | unknownName
deriving DecidableEq, Repr, Inhabited

def ErrorKind.name : ErrorKind → String
  | .value => "ValueError"
  | .key => "KeyError"
  | .runtime => "RuntimeError"
  | .type => "TypeError"
  | .zeroDivision => "ZeroDivisionError"
  | .index => "IndexError"
  | .overflow => "OverflowError"
  | .attribute => "AttributeError"
  | .cancelled => "CancelledError"
  | .unknownName => "NoName"

/-- A cause of an error that the library finds. Texts of values and names of their
types are given as they stand in the message. -/
inductive Complaint where
  | notAnIndex (type : String)
  | notOrdered (relation left right : String)
  | noLength (type : String)
  | notIterable (type : String)
  | notAContainer (type : String)
  | notSubscriptable (type : String)
  | badSubscript (container type : String)
  | noAttribute (type name : String)
  | noClassAttribute (className name : String)
  | noMember (name : String)
  | notAnInteger (text : String)
  | notConvertible (target type : String)
  | notAFloat (text : String)
  | notANumberAsInteger
  | infinityAsInteger
  | tooLargeForFloat
  | indexOutOfRange
  | missingGlyph (char : String)
  | glyph (char : String) (error : GlyphError)
  | unknownButton (name : String)
  | noPins
  | negativeInterval
  | subscriberNotCallable
  | callbackNotCallable (kind : String)
  | notCallable (type : String)
  | noEventLoop
  | notAClass (name text : String)
  | boardNameTaken (name owner : String)
  | unknownBoard (name : String) (known : List String)
  | boardsMissing (names : List String)
  | noBoards
  | noSubtraction (type : String)
  | noDivision (type : String)
  | notAPath (type : String)
  | unresolvedName (name : String)
  | tooManyDigits
  | tooManyDigitsRead (count : Nat)
  | foreignFuture
  | foreignAwaited
  | awaitsItself
deriving DecidableEq, Repr

namespace Complaint

def kind : Complaint → ErrorKind
  | notAnIndex _ | notOrdered .. | noLength _ | notIterable _ | notAContainer _
  | notSubscriptable _
  | badSubscript .. | notConvertible .. | subscriberNotCallable
  | callbackNotCallable _ | notCallable _ | notAClass .. | noSubtraction _ | noDivision _
  | notAPath _ => .type
  | notAnInteger _ | notAFloat _ | notANumberAsInteger | glyph .. | unknownButton _
  | noPins | negativeInterval | boardNameTaken .. | unknownBoard ..
  | tooManyDigits | tooManyDigitsRead _ | foreignFuture => .value
  | noAttribute .. | noClassAttribute .. | noMember _ => .attribute
  | infinityAsInteger | tooLargeForFloat => .overflow
  | indexOutOfRange => .index
  | missingGlyph _ => .key
  | noEventLoop | boardsMissing _ | noBoards | foreignAwaited | awaitsItself => .runtime
  | unresolvedName _ => .unknownName

def glyphMessage (char : String) : GlyphError → String
  | .rowCount found =>
    "Glyph " ++ char ++ " must have " ++ toString Glyph.height ++ " rows, got " ++
      toString found
  | .unevenRows => "Glyph " ++ char ++ " rows must share a non-zero width"

def listed (names : List String) : String :=
  let row := ", ".intercalate names
  if row.isEmpty then "none" else row

def message : Complaint → String
  | notAnIndex type => "'" ++ type ++ "' object cannot be interpreted as an integer"
  | notOrdered relation left right =>
    "'" ++ relation ++ "' not supported between instances of '" ++ left ++ "' and '" ++
      right ++ "'"
  | noLength type => "object of type '" ++ type ++ "' has no len()"
  | notIterable type => "'" ++ type ++ "' object is not iterable"
  | notAContainer type => "argument of type '" ++ type ++ "' is not iterable"
  | notSubscriptable type => "'" ++ type ++ "' object is not subscriptable"
  | badSubscript "str" type => "string indices must be integers, not '" ++ type ++ "'"
  | badSubscript container type =>
    container ++ " indices must be integers or slices, not " ++ type
  | noAttribute type name =>
    "'" ++ type ++ "' object has no attribute '" ++ name ++ "'"
  | noClassAttribute className name =>
    "type object '" ++ className ++ "' has no attribute '" ++ name ++ "'"
  | noMember name => name
  | notAnInteger text => "invalid literal for int() with base 10: " ++ text
  | notConvertible "int" type =>
    "int() argument must be a string, a bytes-like object or a real number, not '" ++
      type ++ "'"
  | notConvertible target type =>
    target ++ "() argument must be a string or a real number, not '" ++ type ++ "'"
  | notAFloat text => "could not convert string to float: " ++ text
  | notANumberAsInteger => "cannot convert float NaN to integer"
  | infinityAsInteger => "cannot convert float infinity to integer"
  | tooLargeForFloat => "int too large to convert to float"
  | indexOutOfRange => "list index out of range"
  | missingGlyph char => char
  | glyph char error => glyphMessage char error
  | unknownButton name => Text.quoted name ++ " is not a valid Button"
  | noPins => "HardwareState needs at least one pin"
  | negativeInterval => "Forever interval must be >= 0"
  | subscriberNotCallable => "Event subscriber must be callable"
  | callbackNotCallable kind => kind ++ " callback must be callable"
  | notCallable type => "'" ++ type ++ "' object is not callable"
  | noEventLoop => "no running event loop"
  | notAClass name text =>
    "Board '" ++ name ++ "' must be registered with a class, got " ++ text
  | boardNameTaken name owner =>
    "Board name '" ++ name ++ "' is already taken by " ++ owner
  | unknownBoard name known =>
    "No board named '" ++ name ++ "' (registered: " ++ listed known ++ ")"
  | boardsMissing names =>
    "Boards not registered: " ++ ", ".intercalate names ++
      ". Import their packages first, e.g. `import microbit_sim.microbit`."
  | noBoards =>
    "No boards registered! Ensure board modules are imported. " ++
      "Example: from microbit_sim.microbit import MicrobitBoard"
  | noSubtraction type =>
    "unsupported operand type(s) for -: '" ++ type ++ "' and 'int'"
  | noDivision type =>
    "unsupported operand type(s) for /: 'PosixPath' and '" ++ type ++ "'"
  | notAPath type => "expected str, bytes or os.PathLike object, not " ++ type
  | unresolvedName name => name
  | tooManyDigits =>
    "Exceeds the limit (4300 digits) for integer string conversion; " ++
      "use sys.set_int_max_str_digits() to increase the limit"
  | tooManyDigitsRead count =>
    "Exceeds the limit (4300 digits) for integer string conversion: value has " ++
      toString count ++ " digits; use sys.set_int_max_str_digits() to increase the limit"
  | foreignFuture =>
    "The future belongs to a different loop than the one specified as the loop argument"
  | foreignAwaited => "Task got a Future attached to a different loop"
  | awaitsItself => "Task cannot await on itself"

end Complaint

end Microboard
