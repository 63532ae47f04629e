import Microboard.Script
import Microboard.World.Building

/-!
# Programs of scripts

What a script does, as a program. A callback of the plain style ends with the first
coroutine that one of its actions gives; in the other styles it is awaited, and the
script goes on.
-/

namespace Microboard

def Value.coroutine? (value : Value) : Option Work :=
  match value.work? with
  | some work => if work.isCoroutine then some work else Option.none
  | Option.none => Option.none

/-- Reports a result and binds a name to it. A coroutine is passed on as it is. -/
def concluding (bound tag : Option String) (next : Reply → Program) (reply : Reply) :
    Program :=
  match reply with
  | .error fault => next (.error fault)
  | .ok value =>
    if value.coroutine?.isSome then next (.ok value)
    else
      let tagged := match tag with
        | none => next (.ok value)
        | some label => .report label (.ok value) (next (.ok value))
      match bound with
      | none => tagged
      | some name => .bind name value tagged

/-- Awaits a coroutine, except in the plain style. -/
def awaiting (style : Style) (value : Value) (next : Reply → Program) : Program :=
  match value.coroutine?, style with
  | some work, .coroutine | some work, .awaitable => .await work next
  | _, _ => next (.ok value)

def follow (value : Value) (next : Reply → Program) : List String → Program
  | [] => next (.ok value)
  | name :: rest =>
    .read value name fun reply =>
      match reply with
      | .ok found => follow found next rest
      | .error fault => next (.error fault)

/-- Calls what stands at the end of a path, unless it is a class or cannot be called. -/
def callOrGive (arguments : Arguments) (next : Reply → Program) (value : Value) : Program :=
  match value with
  | .type _ => next (.ok value)
  | value => if value.isCallable then .call value arguments next else next (.ok value)

/-- Closes a board and ends as its script has ended, unless closing fails. -/
def closing (board : Value) (next : Reply → Program) (reply : Reply) : Program :=
  .read board "aclose" fun method =>
    match method with
    | .error fault => next (.error fault)
    | .ok method =>
      .call method .empty fun result =>
        match result with
        | .error fault => next (.error fault)
        | .ok value =>
          awaiting .coroutine value fun closed =>
            match closed, reply with
            | .error fault, _ | .ok _, .error fault => next (.error fault)
            | .ok _, .ok _ => next .nothing

mutual

def Literal.make (literal : Literal) (next : Reply → Program) : Program :=
  match literal with
  | .none => next (.ok .none)
  | .bool value => next (.ok (.bool value))
  | .int value => next (.ok (.int value))
  | .float value => next (.ok (.float value))
  | .str value => next (.ok (.str value))
  | .list items =>
    makeItems items fun made =>
      match made with
      | .ok values => next (.ok (.list values))
      | .error fault => next (.error fault)
  | .tuple items =>
    makeItems items fun made =>
      match made with
      | .ok values => next (.ok (.tuple values))
      | .error fault => next (.error fault)
  | .dict entries =>
    makeEntries entries fun made =>
      match made with
      | .ok values => next (.ok (.dict (values.map fun entry => (.str entry.1, entry.2))))
      | .error fault => next (.error fault)
  | .name name => .lookup name next
  | .button button => next (.ok (.button button))
  | .pinKind kind => next (.ok (.pinKind kind))
  | .recorder label => next (.ok (.recorder label))
  | .panel label => next (.ok (.panel label))
  | .glyphs glyphs => next (.ok (.glyphs glyphs))
  | .keeper name => next (.ok (.type (.keeper name)))
  | .fault kind args =>
    makeItems args fun made =>
      match made with
      | .ok values =>
        .identify fun identity => next (.ok (.fault (Fault.make kind ⟨values, []⟩) identity))
      | .error fault => next (.error fault)
  | .file content => next (.ok (.file content))
  | .callback style body result =>
    .define style
      (fun invocation => runActions style invocation body fun reply =>
        match reply with
        | .error fault => .finish (.error fault)
        | .ok value =>
          if value.coroutine?.isSome then .finish (.ok value)
          else result.make fun made => .finish made)
      fun callback => next (.ok callback)

def makeItems (items : List Literal) (next : Except Fault (List Value) → Program) : Program :=
  match items with
  | [] => next (.ok [])
  | item :: rest =>
    item.make fun made =>
      match made with
      | .error fault => next (.error fault)
      | .ok value =>
        makeItems rest fun more =>
          match more with
          | .error fault => next (.error fault)
          | .ok values => next (.ok (value :: values))

def makeEntries (entries : List (String × Literal))
    (next : Except Fault (List (String × Value)) → Program) : Program :=
  match entries with
  | [] => next (.ok [])
  | (name, item) :: rest =>
    item.make fun made =>
      match made with
      | .error fault => next (.error fault)
      | .ok value =>
        makeEntries rest fun more =>
          match more with
          | .error fault => next (.error fault)
          | .ok values => next (.ok ((name, value) :: values))

def Action.perform (style : Style) (invocation : Nat) (action : Action)
    (next : Reply → Program) : Program :=
  match action with
  | .mk operation args named _ bound tag =>
    makeItems args fun made =>
      match made with
      | .error fault => next (.error fault)
      | .ok positional =>
        makeEntries named fun made =>
          match made with
          | .error fault => next (.error fault)
          | .ok named =>
            operation.perform style invocation ⟨positional, named⟩ bound
              (concluding bound tag next)

/-- Does an operation with its arguments; a board that is opened gets the name. -/
def Operation.perform (style : Style) (invocation : Nat) (operation : Operation)
    (arguments : Arguments) (bound : Option String) (next : Reply → Program) : Program :=
  match operation with
  | .note => .report "note" (.ok (arguments.get 0 "text")) (next .nothing)
  | .raise kind => next (.error (Fault.make kind arguments))
  | .attempt action =>
    action.perform style invocation fun reply =>
      match reply with
      | .error fault =>
        if fault.isOrdinary then .report "try" (.error fault) (next .nothing)
        else next (.error fault)
      | .ok value =>
        match value.coroutine?, style with
        | some _, .plain => next (.ok value)
        | _, _ =>
          awaiting style value fun result =>
            match result with
            | .error fault =>
              if fault.isOrdinary then .report "try" (.error fault) (next .nothing)
              else next (.error fault)
            | .ok value => .report "try" (.ok value) (next .nothing)
  | .branch condition met unmet =>
    condition.perform style invocation fun reply =>
      match reply with
      | .error fault => next (.error fault)
      | .ok value =>
        if value.truthy then runActions style invocation met next
        else runActions style invocation unmet next
  | .sequence actions => runActions .plain 1 actions next
  | .create className => .call (.type className) arguments next
  | .function function => .call (.method (.function function)) arguments next
  | .openBoard actions =>
    .define .coroutine
      (fun _ =>
        .call (.method (.function .createBoard)) arguments fun created =>
          match created with
          | .error fault => .finish (.error fault)
          | .ok board =>
            let body := runActions .coroutine 1 actions
              (closing board fun reply => .finish reply)
            match bound with
            | some name => .bind name board body
            | none => body)
      fun callback => .call callback .empty next
  | .spawn => .spawn (arguments.get 0 "callback") (next .nothing)
  | .path name properties =>
    .lookup name fun found =>
      match found with
      | .error fault => next (.error fault)
      | .ok value =>
        follow value
          (fun reply =>
            match reply with
            | .error fault => next (.error fault)
            | .ok target => callOrGive arguments next target)
          properties

/-- Does actions in order, those that are meant for an invocation. In the plain style
the first coroutine ends them; it is then the result. -/
def runActions (style : Style) (invocation : Nat) (actions : List Action)
    (next : Reply → Program) : Program :=
  match actions with
  | [] => next .nothing
  | action :: rest =>
    match action with
    | .mk operation args named only bound tag =>
      if (only.map fun invocations => invocations.contains invocation).getD true then
        (Action.mk operation args named only bound tag).perform style invocation fun reply =>
          match reply with
          | .error fault => next (.error fault)
          | .ok value =>
            match value.coroutine?, style with
            | some _, .plain => next (.ok value)
            | _, _ =>
              awaiting style value fun result =>
                match result with
                | .error fault => next (.error fault)
                | .ok _ => runActions style invocation rest next
      else runActions style invocation rest next

end

end Microboard
