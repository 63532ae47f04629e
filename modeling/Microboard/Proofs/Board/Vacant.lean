import Microboard.Proofs.Machine.Follow

/-!
# Boards that nobody is in the midst of calling

An operation of a board that calls scripts, or that takes time, waits in a frame of its own.
A board is vacant while no thread holds such a frame.  A call that returns without having
given way to other threads leaves a board as vacant as it was.
-/

namespace Microboard

/-- The operations of a board that wait for the end of a call.  The iterations of its loops
are not among them. -/
def Frame.occupies (target : Ref .board) (board : Board) : Frame → Bool
  | .publishing bus .. => bus = board.bus
  | .pressed dispatcher _ | .pressing dispatcher .. | .serving dispatcher _ =>
    dispatcher = board.dispatcher
  | .clearing bridge _ | .drawing (.matrix bridge) .. => bridge = board.bridge
  | .closingLoops other | .closingHandlers other => other = target
  | _ => false

/-- A thread that is not in the midst of a call of a board. -/
def Thread.Spares (target : Ref .board) (board : Board) (thread : Thread) : Prop :=
  ∀ frame ∈ thread.stack, frame.occupies target board = false

namespace Machine

variable {start machine next : Machine} {past : List Machine} {target : Ref .board}
variable {board : Board}

/-- No thread is in the midst of a call of a board, whether it runs or not. -/
structure Vacant (target : Ref .board) (board : Board) (machine : Machine) : Prop where
  running : ∀ thread focus, machine.control = .busy thread focus → thread.Spares target board
  parked : ∀ thread focus, machine.Parked thread focus → thread.Spares target board

/-- A thread has run all the time. -/
def Steady (past : List Machine) : Prop :=
  ∀ state ∈ past, state.control ≠ .idle

def isBusy (machine : Machine) : Bool :=
  match machine.control with
  | .idle => false
  | .busy .. => true

theorem steady_of_evident (evident : past.all isBusy = true) : Steady past := by
  intro state member idle
  have seen := List.all_eq_true.mp evident state member
  simp [isBusy, idle] at seen

theorem Move.parked_of_steady (move : Move machine next) (sound : machine.Sound)
    (busy : machine.control ≠ .idle) (runs : next.control ≠ .idle)
    (parked : ∀ thread focus, machine.Parked thread focus → thread.Spares target board) :
    ∀ thread focus, next.Parked thread focus → thread.Spares target board := by
  intro thread focus stands
  cases move with
  | @turn runner focus running =>
      have booked := advance_booked machine runner (sound.focus _ _ running)
      rcases booked.parked runs stands with before | fresh
      · exact parked thread _ before
      · intro frame member
        rw [fresh frame member]
        rfl
  | take idle | wake idle | enter _ idle | launch _ idle | clock _ _ _ idle =>
      exact absurd idle busy

/-- As long as one thread runs, no other gets into the midst of a call. -/
theorem Run.parked_of_steady (run : Run start past machine) (sound : start.Sound)
    (steady : Steady past) (runs : machine.control ≠ .idle)
    (parked : ∀ thread focus, start.Parked thread focus → thread.Spares target board) :
    ∀ thread focus, machine.Parked thread focus → thread.Spares target board := by
  induction run with
  | refl => exact parked
  | @move past machine next run move induction =>
      have busy : machine.control ≠ .idle :=
        steady machine (List.mem_append_right _ (List.mem_singleton_self _))
      have earlier : Steady past := fun state member =>
        steady state (List.mem_append_left _ member)
      exact move.parked_of_steady (run.sound sound) busy runs (induction earlier busy)

/-- A call that returns to its caller without having given way to other threads leaves a
board vacant. -/
theorem Vacant.returns {owner : Option TaskId} {base : List Frame} {focus : Focus}
    {reply : Reply} (vacant : start.Vacant target board)
    (called : start.control = .busy ⟨owner, base⟩ focus) (sound : start.Sound)
    (run : Run start past machine) (steady : Steady past)
    (returned : machine.control = .busy ⟨owner, base⟩ (.reply reply)) :
    machine.Vacant target board where
  running thread focus busy := by
    obtain ⟨rfl, rfl⟩ := Control.busy.inj (returned.symm.trans busy)
    exact vacant.running _ _ called
  parked := by
    refine run.parked_of_steady sound steady ?_ vacant.parked
    rw [returned]
    exact Control.noConfusion

end Machine

end Microboard
