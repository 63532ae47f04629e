import Microboard.Text.Digit

/-!
# Command lines

A small grammar of options. A long option may be shortened as long as it stays clear
which one is meant, its value may follow an equals sign, and short flags may be
written together. There are no arguments besides the options and their values.
-/

namespace Microboard.Options

/-- What follows an option: nothing, one value, or one or more values. Help ends the
program. -/
inductive Arity where
  | flag
  | help
  | one
  | many
deriving DecidableEq, Repr

/-- An option: its names, what follows it, and which values it takes. -/
structure Spec (key : Type) where
  key : key
  names : List String
  arity : Arity
  accepts : String → Bool

/-- How a command line ends a program before it has begun. -/
inductive Exit where
  | help
  | usage
deriving DecidableEq, Repr

def Exit.status : Exit → Nat
  | .help => 0
  | .usage => 2

abbrev Occurrence (key : Type) := key × List String

/-- Text that stands behind an option in the same word, and whether an equals sign
parts it from the option. -/
structure Tail where
  isMarked : Bool
  text : String
deriving DecidableEq, Repr

/-- What one word of a command line is. An option may be unknown, and it may have a tail. -/
inductive Mark (key : Type) where
  | value
  | separator
  | option (spec : Option (Spec key)) (name : String) (tail : Option Tail)

/-- How a word of options ends: all of it is read, its last letters belong to no option,
or it leaves an option whose values stand in the next words. -/
inductive Ending (key : Type) where
  | complete
  | stray
  | awaiting (spec : Spec key)

variable {key : Type}

def find? (specs : List (Spec key)) (name : String) : Option (Spec key) :=
  specs.find? fun spec => spec.names.contains name

/-- Options with a name that begins in a given way, one for each such name. -/
def beginning (specs : List (Spec key)) (start : String) : List (Spec key × String) :=
  specs.flatMap fun spec =>
    (spec.names.filter fun name => start.toList.isPrefixOf name.toList).map fun name => (spec, name)

def splitEquals (word : String) : Option (String × String) :=
  let chars := word.toList
  if chars.contains '=' then
    some (String.ofList (chars.takeWhile (· ≠ '=')),
      String.ofList ((chars.dropWhile (· ≠ '=')).drop 1))
  else none

def isDigits (chars : List Char) : Bool :=
  chars.all fun char => (Text.digit? char).isSome

/-- The word is a negative number; a line break at its end does not count. -/
def isNegative (word : String) : Bool :=
  match word.toList with
  | '-' :: body =>
    let body := if body.getLast? = some '\n' then body.dropLast else body
    let whole := body.takeWhile (· ≠ '.')
    let fraction := (body.dropWhile (· ≠ '.')).drop 1
    isDigits whole && isDigits fraction &&
      (if body.contains '.' then !fraction.isEmpty else !whole.isEmpty)
  | _ => false

def candidates (specs : List (Spec key)) (word : String) :
    List (Spec key × String × Option Tail) :=
  match word.toList with
  | '-' :: '-' :: _ =>
    let (start, tail) := match splitEquals word with
      | some (start, text) => (start, some ⟨true, text⟩)
      | none => (word, none)
    (beginning specs start).map fun (spec, name) => (spec, name, tail)
  | '-' :: letter :: rest =>
    let short := String.ofList ['-', letter]
    match find? specs short with
    | some spec => [(spec, short, some ⟨false, String.ofList rest⟩)]
    | none => []
  | _ => []

/-- What a word is; an option that is not clear is an error. -/
def classify (specs : List (Spec key)) (word : String) : Except Exit (Mark key) :=
  if word.toList.head? ≠ some '-' || word = "-" then .ok .value
  else
    match find? specs word with
    | some spec => .ok (.option (some spec) word none)
    | none =>
      let exact := (splitEquals word).bind fun (name, text) =>
        (find? specs name).map fun spec => (spec, name, text)
      match exact with
      | some (spec, name, text) => .ok (.option (some spec) name (some ⟨true, text⟩))
      | none =>
        match candidates specs word with
        | [(spec, name, tail)] => .ok (.option (some spec) name tail)
        | _ :: _ :: _ => .error .usage
        | [] =>
          if isNegative word || word.toList.contains ' ' then .ok .value
          else .ok (.option none word none)

/-- What all words are; behind two dashes there are only values. -/
def classifyAll (specs : List (Spec key)) : List String → Except Exit (List (String × Mark key))
  | [] => .ok []
  | word :: rest =>
    if word = "--" then .ok ((word, .separator) :: rest.map fun word => (word, .value))
    else do
      let mark ← classify specs word
      let marks ← classifyAll specs rest
      return (word, mark) :: marks

def isValue (entry : String × Mark key) : Bool :=
  match entry.2 with
  | .value => true
  | _ => false

def isShort (name : String) : Bool :=
  match name.toList with
  | '-' :: '-' :: _ => false
  | _ => true

def Arity.takesValues : Arity → Bool
  | .flag | .help => false
  | .one | .many => true

/-- The options in a word whose first option has a tail. The tail of an option that
takes values is its value; behind a short flag, unmarked, stand more letters. -/
def unpack (specs : List (Spec key)) (spec : Spec key) (short isMarked : Bool) :
    List Char → Except Exit (List (Spec key × List String) × Ending key)
  | [] => if spec.arity.takesValues then .ok ([(spec, [""])], .complete) else .error .usage
  | letter :: rest =>
    if spec.arity.takesValues then
      .ok ([(spec, [String.ofList (letter :: rest)])], .complete)
    else if !short || isMarked || letter = '-' then .error .usage
    else
      match find? specs (String.ofList ['-', letter]) with
      | none => .ok ([(spec, [])], .stray)
      | some next =>
        match rest with
        | [] => .ok ([(spec, [])], .awaiting next)
        | '=' :: text => do
          let (more, ending) ← unpack specs next true true text
          return ((spec, []) :: more, ending)
        | letter :: text => do
          let (more, ending) ← unpack specs next true false (letter :: text)
          return ((spec, []) :: more, ending)

/-- Takes an option with its values: help ends the program, and so does a value that
the option does not accept. -/
def take (part : Spec key × List String) : Except Exit (Occurrence key) :=
  if part.1.arity = .help then .error .help
  else if part.2.all part.1.accepts then .ok (part.1.key, part.2)
  else .error .usage

def valuesBehind (spec : Spec key) (marks : List (String × Mark key)) :
    Except Exit (List String × List (String × Mark key)) :=
  match spec.arity with
  | .flag | .help => .ok ([], marks)
  | .one =>
    match marks with
    | (value, .value) :: rest => .ok ([value], rest)
    | _ => .error .usage
  | .many =>
    let values := (marks.takeWhile isValue).map (·.1)
    if values.isEmpty then .error .usage else .ok (values, marks.dropWhile isValue)

/-- Reads classified words one after the other; `stray` says whether there was one that
belongs to no option. -/
def readMarks (specs : List (Spec key)) (fuel : Nat) (found : List (Occurrence key))
    (stray : Bool) (marks : List (String × Mark key)) : Except Exit (List (Occurrence key)) :=
  match fuel, marks with
  | 0, _ | _, [] => if stray then .error .usage else .ok found
  | fuel + 1, (_, mark) :: rest =>
    match mark with
    | .value | .separator | .option none _ _ => readMarks specs fuel found true rest
    | .option (some spec) name tail => do
      let (parts, ending) ← match tail with
        | some tail => unpack specs spec (isShort name) tail.isMarked tail.text.toList
        | none => .ok ([], .awaiting spec)
      match ending with
      | .complete =>
        let more ← parts.mapM take
        readMarks specs fuel (found ++ more) stray rest
      | .stray =>
        let more ← parts.mapM take
        readMarks specs fuel (found ++ more) true rest
      | .awaiting spec =>
        let (values, rest) ← valuesBehind spec rest
        let more ← (parts ++ [(spec, values)]).mapM take
        readMarks specs fuel (found ++ more) stray rest

def read (specs : List (Spec key)) (words : List String) : Except Exit (List (Occurrence key)) := do
  let marks ← classifyAll specs words
  readMarks specs marks.length [] false marks

def valuesOf [BEq key] (wanted : key) (found : List (Occurrence key)) : Option (List String) :=
  found.reverse.lookup wanted

def isGiven [BEq key] (wanted : key) (found : List (Occurrence key)) : Bool :=
  found.any fun entry => entry.1 == wanted

end Microboard.Options
