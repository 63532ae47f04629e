import Microboard.Value

/-!
# Names in scripts

The words by which a script refers to classes, kinds of faults and functions.
-/

namespace Microboard

def FaultKind.named : List FaultKind :=
  [.error .value, .error .key, .error .runtime, .error .type, .error .zeroDivision,
   .error .index, .error .cancelled, .error .overflow, .error .attribute, .simulator,
   .configuration, .invalidPin, .outOfRange, .handleDestroyed, .callbackFailure]

def FaultKind.ofName? (name : String) : Option FaultKind :=
  FaultKind.named.find? fun kind => kind.name = name

/-- The classes that are not kinds of faults. -/
def ClassName.plain : List ClassName :=
  [.hardware, .bus, .table, .scheduler, .dispatcher, .bridge, .scroller, .board,
   .wallClock, .registry, .pinLevels, .pinChange, .ledChange, .buttonPress, .reset,
   .boardConfig, .pinsConfig, .displayConfig, .timingConfig]

def ClassName.ofName? (name : String) : Option ClassName :=
  (ClassName.plain.find? fun className => className.name = name) <|>
    (FaultKind.ofName? name).map .fault

def Function.named : List (String × Function) :=
  [("coerce", .coerce), ("parse_glyph", .parseGlyph), ("glyph_width", .glyphWidth),
   ("glyph", .glyph), ("glyph_chars", .glyphChars),
   ("build_scroll_pattern", .scrollPattern), ("parse_config", .parseConfig),
   ("load_config", .loadConfig), ("get_config", .getConfig),
   ("clear_config_cache", .clearConfigCache), ("register_board", .registerBoard),
   ("get_board", .getBoard), ("create_board", .createBoard),
   ("list_available_boards", .listBoards), ("verify_boards_registered", .verifyBoards),
   ("len", .length), ("list", .list), ("repr", .repr), ("str", .text),
   ("in", .contains), ("eq", .equal), ("is", .same)]

def Function.ofName? (name : String) : Option Function :=
  Function.named.lookup name

end Microboard
