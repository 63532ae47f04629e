import Microboard.Scroll.Stroke
import Microboard.World

/-!
# Programs

What runs on a machine. A program is what a callback does, one move after the other;
it sees nothing of the world but the replies to its moves. Around the programs stand
the frames of the library's own operations: each frame says how an operation goes on
when the call that it waits for has ended.
-/

namespace Microboard

/-- The arguments of a call, by place and by name. -/
structure Arguments where
  positional : List Value
  named : List (String × Value)
deriving Inhabited

namespace Arguments

def empty : Arguments := ⟨[], []⟩

def single (value : Value) : Arguments := ⟨[value], []⟩

def find? (arguments : Arguments) (place : Nat) (name : String) : Option Value :=
  arguments.positional[place]? <|> arguments.named.lookup name

/-- An argument that is not given counts as nothing. -/
def get (arguments : Arguments) (place : Nat) (name : String) : Value :=
  (arguments.find? place name).getD .none

end Arguments

/-- What calling a callback gives: its result, a coroutine, or something else that can
be awaited. -/
inductive Style where
  | plain
  | coroutine
  | awaitable
deriving DecidableEq, Repr, Inhabited

/-- The moves of a callback. A move that can fail is followed by a program for every
reply. `launch` makes a task of work and gives its future. -/
inductive Program where
  | finish (reply : Reply)
  | read (value : Value) (name : String) (next : Reply → Program)
  | call (target : Value) (arguments : Arguments) (next : Reply → Program)
  | await (work : Work) (next : Reply → Program)
  | lookup (name : String) (next : Reply → Program)
  | bind (name : String) (value : Value) (next : Program)
  | report (label : String) (reply : Reply) (next : Program)
  | define (style : Style) (body : Nat → Program) (next : Value → Program)
  | identify (next : Nat → Program)
  | spawn (callback : Value) (next : Program)
  | launch (work : Work) (next : Reply → Program)

instance : Inhabited Program := ⟨.finish .nothing⟩

/-- Who is told that a task has ended. -/
inductive Notice where
  | loopEnded (scheduler : Ref .scheduler) (id : Nat)
  | handlerEnded (dispatcher : Ref .dispatcher) (handle : Ref .handle)
  | release (waiter : Nat)
deriving DecidableEq, Repr

/-- An operation that waits for the end of a call. A dispatcher is `pressing` while a
handler is at work, and `serving` the others when it has taken on a future. -/
inductive Frame where
  | program (next : Reply → Program)
  | publishing (bus : Ref .bus) (event : Value) (current : Nat) (rest : List (Nat × Value))
  | pressed (dispatcher : Ref .dispatcher) (button : Button)
  | pressing (dispatcher : Ref .dispatcher) (current : Ref .handle)
      (rest : List (Ref .handle))
  | serving (dispatcher : Ref .dispatcher) (rest : List (Ref .handle))
  | clearing (bridge : Ref .bridge) (rest : List (Nat × Nat))
  | drawing (surface : Surface) (interval : Value) (rest : List Scroll.Stroke)
  | announced
  | loopSlept (scheduler : Ref .scheduler) (handle : Ref .handle)
  | iterating (scheduler : Ref .scheduler) (handle : Ref .handle)
  | iterationAwaits (scheduler : Ref .scheduler) (handle : Ref .handle)
  | closingLoops (board : Ref .board)
  | closingHandlers (board : Ref .board)
  | spawned
  | spawnAwaits

inductive Focus where
  | reply (reply : Reply)
  | within (frame : Frame) (focus : Focus)
  | run (program : Program)
  | call (target : Value) (arguments : Arguments)
  | await (work : Work)
  | invoke (handle : Ref .handle)
  | publish (bus : Ref .bus) (event : Value)
  | sleep (interval : Value)
  | start (work : Work) (notice : Notice)
  | adopt (task : TaskId) (dispatcher : Ref .dispatcher) (handle : Ref .handle)
  | wait (tasks : List TaskId)

namespace Focus

def value (value : Value) : Focus := .reply (.ok value)

def nothing : Focus := .reply .nothing

def raise (fault : Fault) : Focus := .reply (.error fault)

end Focus

end Microboard
