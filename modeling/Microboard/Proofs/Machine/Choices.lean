import Microboard.Proofs.Machine.Move

/-!
# Choices

A run leaves open in which order a machine goes on and what comes from outside.  A list
of choices settles both, so that two machines can be made to go on in the same way.
-/

namespace Microboard

/-- One way in which a machine is made to go on: by the running thread, by a job of the
queue or a sleeper at some place, or by something from outside. -/
inductive Choice where
  | turn
  | take (place : Nat)
  | wake (place : Nat)
  | enter (program : Program)
  | launch (work : Work)
  | clock (looping : Bool) (now : Float) (trace : List Entry)

namespace Machine

/-- The next state, if the choice can be followed. -/
def follow? (machine : Machine) (choice : Choice) : Option Machine :=
  match machine.control, choice with
  | .busy thread focus, .turn => some (machine.advance thread focus)
  | .idle, .take place =>
    (machine.ready[place]?).map fun job =>
      { machine with ready := machine.ready.eraseIdx place }.serve job
  | .idle, .wake place => (machine.sleepers[place]?).map machine.wake
  | .idle, .enter program =>
    if machine.live none = 0 then some (machine.entered program) else none
  | .idle, .launch work => some (machine.createTask [] (.await work) []).1
  | .idle, .clock looping now trace =>
    some { machine with world := { machine.world with looping, now, trace } }
  | _, _ => none

/-- What a machine goes through when it follows a list of choices. -/
inductive Play (start : Machine) : List Choice → List Machine → Machine → Prop where
  | refl : Play start [] [] start
  | move {choices : List Choice} {past : List Machine} {machine next : Machine} {choice : Choice}
      (play : Play start choices past machine) (follows : machine.follow? choice = some next) :
      Play start (choices ++ [choice]) (past ++ [machine]) next

variable {start machine next : Machine} {past : List Machine} {choice : Choice}

section Equations

variable {thread : Thread} {focus : Focus}

theorem follow?_turn (busy : machine.control = .busy thread focus) :
    machine.follow? .turn = some (machine.advance thread focus) := by
  simp only [follow?, busy]

theorem follow?_take (idle : machine.control = .idle) (place : Nat) :
    machine.follow? (.take place) = (machine.ready[place]?).map fun job =>
      { machine with ready := machine.ready.eraseIdx place }.serve job := by
  simp only [follow?, idle]

theorem follow?_wake (idle : machine.control = .idle) (place : Nat) :
    machine.follow? (.wake place) = (machine.sleepers[place]?).map machine.wake := by
  simp only [follow?, idle]

theorem follow?_enter (idle : machine.control = .idle) (program : Program) :
    machine.follow? (.enter program) =
      if machine.live none = 0 then some (machine.entered program) else none := by
  simp only [follow?, idle]

theorem follow?_launch (idle : machine.control = .idle) (work : Work) :
    machine.follow? (.launch work) = some (machine.createTask [] (.await work) []).1 := by
  simp only [follow?, idle]

theorem follow?_clock (idle : machine.control = .idle) (looping : Bool) (now : Float)
    (trace : List Entry) :
    machine.follow? (.clock looping now trace) =
      some { machine with world := { machine.world with looping, now, trace } } := by
  simp only [follow?, idle]

end Equations

theorem Move.of_follow? (follows : machine.follow? choice = some next) : Move machine next := by
  unfold follow? at follows
  split at follows
  next thread focus busy =>
    cases follows
    exact .turn busy
  next place idle =>
    obtain ⟨job, found, rfl⟩ := Option.map_eq_some_iff.mp follows
    obtain ⟨inside, rfl⟩ := List.getElem?_eq_some_iff.mp found
    rw [List.eraseIdx_eq_take_drop_succ]
    refine .take idle ?_
    rw [List.getElem_cons_drop, List.take_append_drop]
  next place idle =>
    obtain ⟨sleeper, found, rfl⟩ := Option.map_eq_some_iff.mp follows
    exact .wake idle (List.mem_of_getElem? found)
  next program idle =>
    split at follows
    next alone =>
      cases follows
      exact .enter program idle alone
    · cases follows
  next work idle =>
    cases follows
    exact .launch work idle
  next looping now trace idle =>
    cases follows
    exact .clock looping now trace idle
  · cases follows

/-- Every move is the consequence of a choice. -/
theorem Move.follows (move : Move machine next) :
    ∃ choice, machine.follow? choice = some next := by
  cases move with
  | turn busy => exact ⟨.turn, follow?_turn busy⟩
  | @take before after job idle queued =>
      refine ⟨.take before.length, ?_⟩
      have kept : (before ++ job :: after).eraseIdx before.length = before ++ after := by
        simp [List.eraseIdx_append_of_length_le]
      rw [follow?_take idle, queued, kept]
      simp
  | @wake sleeper idle asleep =>
      obtain ⟨place, found⟩ := List.mem_iff_getElem?.mp asleep
      exact ⟨.wake place, by rw [follow?_wake idle, found]; rfl⟩
  | enter program idle alone =>
      exact ⟨.enter program, by rw [follow?_enter idle, if_pos alone]; rfl⟩
  | launch work idle => exact ⟨.launch work, follow?_launch idle work⟩
  | clock looping now trace idle =>
      exact ⟨.clock looping now trace, follow?_clock idle looping now trace⟩

theorem Play.run {choices : List Choice} (play : Play start choices past machine) :
    Run start past machine := by
  induction play with
  | refl => exact .refl
  | move play follows induction => exact induction.move (.of_follow? follows)

/-- Every run follows some choices. -/
theorem Run.play (run : Run start past machine) :
    ∃ choices, Play start choices past machine := by
  induction run with
  | refl => exact ⟨[], .refl⟩
  | move run move induction =>
      obtain ⟨choices, play⟩ := induction
      obtain ⟨choice, follows⟩ := move.follows
      exact ⟨choices ++ [choice], play.move follows⟩

theorem Play.first {choices : List Choice} (follows : start.follow? choice = some next)
    (play : Play next choices past machine) :
    Play start (choice :: choices) (start :: past) machine := by
  induction play with
  | refl => exact .move .refl follows
  | move _ last induction => exact induction.move last

/-- The state in which a machine is left when it follows the choices that it can. -/
def pursue : List Choice → Machine → Machine
  | [], machine => machine
  | choice :: rest, machine => pursue rest ((machine.follow? choice).getD machine)

def pursued : List Choice → Machine → List Machine
  | [], _ => []
  | choice :: rest, machine => machine :: pursued rest ((machine.follow? choice).getD machine)

def follows : List Choice → Machine → Bool
  | [], _ => true
  | choice :: rest, machine =>
    (machine.follow? choice).isSome && follows rest ((machine.follow? choice).getD machine)

theorem play_pursue {choices : List Choice} (able : follows choices machine = true) :
    Play machine choices (pursued choices machine) (pursue choices machine) := by
  induction choices generalizing machine with
  | nil => exact .refl
  | cons choice rest induction =>
      obtain ⟨found, later⟩ := Bool.and_eq_true_iff.mp able
      obtain ⟨next, follows⟩ := Option.isSome_iff_exists.mp found
      simp only [pursued, pursue, follows, Option.getD_some] at later ⊢
      exact Play.first follows (induction later)

end Machine

end Microboard
