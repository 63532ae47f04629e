import Microboard.Proofs.Machine.Answering

/-!
# All or nothing

A call of a board or of its bridge, whatever it is given and whatever state it is made in,
either fails at once and has changed nothing, or it succeeds and tells of exactly the
events that it comes to.
-/

namespace Microboard.Machine

open World

variable {start next : Machine} {owner : Option TaskId} {base : List Frame} {board : Board}
variable {request : Request} {arguments : Arguments} {target : Ref .board}
variable {events : List Event}

/-- The level that a call tells of has been stored. -/
def Stores (board : Board) (arguments : Arguments) (events : List Event) (next : Machine) :
    Prop :=
  ∃ name level, events = [.pinChange name level .digital] ∧
    (next.world.hardwares.get board.hardware).getLevel .digital (arguments.get 0 "pin") =
      .ok level

/-- Each cell goes dark once, column after column. -/
def Sweeps (board : Board) (events : List Event) : Prop :=
  events = darkenings
      (Scroll.cells board.config.display.width.toNat board.config.display.height.toNat) ∧
    (board.config.display = ⟨5, 5⟩ → events.length = 25)

/-- What a call that is not refused keeps to.  Until it returns, it publishes its events in
order and nothing else; when it returns, it has published all of them and has not failed;
and it does return, if everybody who is served on its behalf does. -/
structure Performed (board : Board) (request : Request) (arguments : Arguments)
    (owner : Option TaskId) (base : List Frame) (events : List Event) (next : Machine) :
    Prop where
  stores : request = .bridge .digitalWrite → Stores board arguments events next
  sweeps : request = .bridge .clearScreen → Sweeps board events
  tells : ∀ past machine, Run next past machine →
    (∀ state ∈ past, ¬ state.Returns owner base) → (∀ state ∈ past, state.Polite board) →
    past.filterMap (published? owner base.length) <+: events.map (board.bus, ·)
  returns : ∀ past machine reply, Run next past machine →
    (∀ state ∈ past, ¬ state.Returns owner base) → (∀ state ∈ past, state.Polite board) →
    machine.control = .busy ⟨owner, base⟩ (.reply reply) →
    past.filterMap (published? owner base.length) = events.map (board.bus, ·) ∧
      ∃ value, reply = .ok value
  ends : Answered owner base next → Completes owner base next

theorem advance_request :
    start.advance ⟨owner, base⟩ (.call (.method (request.method board target)) arguments) =
      start.go ⟨owner, base⟩
        (start.world.callMethod (request.method board target) arguments) := by
  cases request <;> rfl

theorem sweeps_of_attempt {world : World}
    (attempted : world.attempt board arguments (.bridge .clearScreen) = .ok events) :
    Sweeps board events := by
  refine ⟨(Except.ok.inj attempted).symm, fun size => ?_⟩
  rw [← Except.ok.inj attempted, size]
  rfl

theorem performed_of_owes {focus : Focus} (sound : next.Sound)
    (wired : next.world.Wired board) (busy : next.control = .busy ⟨owner, base⟩ focus)
    (owes : focus.Owes board events)
    (stores : request = .bridge .digitalWrite → Stores board arguments events next)
    (sweeps : request = .bridge .clearScreen → Sweeps board events) :
    Performed board request arguments owner base events next := by
  have begun : OwesAt owner base board next events := .stands busy owes
  constructor
  case stores => exact stores
  case sweeps => exact sweeps
  case tells =>
    intro past machine run going polite
    obtain ⟨later, -, told⟩ := run.owes sound wired begun going polite
    exact ⟨_, told⟩
  case returns =>
    intro past machine reply run going polite ends
    obtain ⟨later, state, told⟩ := run.owes sound wired begun going polite
    obtain ⟨rfl, value, rfl⟩ := state.finished (run.sound sound) ends
    exact ⟨by simpa using told, value, rfl⟩
  case ends =>
    intro answered
    exact (Reaches.refl next).owes sound wired answered busy owes

variable {looping : Bool} {registry : Registry} {names : List (String × Value)}
variable {before : List Machine}

def knock : Program :=
  building <| .call (.method (.board ⟨0⟩ .subscribe)) (.single (.recorder "events")) fun _ =>
    .define .plain (fun _ => .finish (.complain .noEventLoop)) fun callback =>
      .call (.method (.bridge ⟨0⟩ .onButtonPressed)) ⟨[.button .a, callback], []⟩ fun _ =>
        .call (.method (.board ⟨0⟩ .pressButton)) (.single (.str "A")) .finish

def knocking : Machine := settle 15 (begun knock)

/-- A program that presses a button whose handler fails without a text. -/
def rattle : Program :=
  building <| .define .plain (fun _ => .finish (.error mute)) fun failing =>
    .call (.method (.bridge ⟨0⟩ .onButtonPressed)) ⟨[.button .a, failing], []⟩ fun _ =>
      .call (.method (.board ⟨0⟩ .pressButton)) (.single (.str "A")) .finish

def rattling : Machine := settle 11 (begun rattle)

end Microboard.Machine
