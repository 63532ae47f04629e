import Microboard.Proofs.Machine.Publication
import Microboard.Proofs.World.Attempts

/-!
# Announcing

A call of a board is followed until it returns.  It tells of the events that it owes, one
after the other, and of nothing else.  What subscribers and handlers publish while they
are served is not taken for something that the call does itself.
-/

namespace Microboard

/-- A script is called on behalf of an operation: a subscriber, or a handler of a button. -/
def Frame.isServing : Frame → Bool
  | .publishing .. | .pressing .. => true
  | _ => false

def Focus.isPublish : Focus → Bool
  | .publish .. => true
  | _ => false

def Focus.isReply : Focus → Bool
  | .reply _ => true
  | _ => false

namespace Machine

variable {start machine next : Machine} {past : List Machine} {owner : Option TaskId}
variable {base inner : List Frame} {board : Board} {todo : List Event} {depth : Nat}

/-- The frames of a stack above a depth. -/
def above (depth : Nat) (stack : List Frame) : List Frame :=
  stack.take (stack.length - depth)

theorem above_append (own base : List Frame) : above base.length (own ++ base) = own := by
  rw [above, List.length_append, Nat.add_sub_cancel, List.take_left]

/-- The event that a call, made by an owner's thread at a depth of its stack, publishes
itself. -/
def published? (owner : Option TaskId) (depth : Nat) (machine : Machine) :
    Option (Ref .bus × Event) :=
  match machine.control with
  | .busy thread (.publish bus (.event event _)) =>
    if thread.owner = owner ∧ ∀ frame ∈ above depth thread.stack, frame.isServing = false then
      some (bus, event)
    else none
  | _ => none

/-- The value is no future of another event loop, or no event loop is running. -/
def adoptable (machine : Machine) (value : Value) : Bool :=
  match value.work? with
  | some (.future task) => !machine.world.looping || decide (task.index < machine.tasks.length)
  | _ => true

/-- What a script comes back with is dealt with by the operation that has called it.  A bus
keeps ordinary faults to itself; a dispatcher keeps those of them whose text can be made, and
takes on no future of another event loop. -/
def endures (machine : Machine) : Frame → Reply → Bool
  | .pressing .., .error fault => fault.escape?.isNone
  | .pressing .., .ok value => machine.adoptable value
  | _, .error fault => fault.isOrdinary
  | _, .ok _ => true

/-- What a handler that a dispatcher serves comes back with is dealt with there. -/
def enduredBy (dispatcher : Ref .dispatcher) (machine : Machine) : Bool :=
  match machine.control with
  | .busy ⟨_, .pressing channel handle rest :: _⟩ (.reply reply) =>
    channel ≠ dispatcher || machine.endures (.pressing channel handle rest) reply
  | _ => true

/-- Subscribers of a board raise ordinary faults only, and what its handlers come back with is
dealt with. -/
structure Polite (board : Board) (machine : Machine) : Prop where
  subscribers : machine.ordinaryOn board.bus = true
  handlers : machine.enduredBy board.dispatcher = true

theorem published?_of_publish (inner : List Frame) {bus : Ref .bus} {event : Event}
    {identity : Nat}
    (busy : machine.control = .busy ⟨owner, inner ++ base⟩ (.publish bus (.event event identity)))
    (silent : ∀ frame ∈ inner, frame.isServing = false) :
    machine.published? owner base.length = some (bus, event) := by
  rw [published?, busy]
  exact if_pos ⟨rfl, (above_append inner base).symm ▸ silent⟩

theorem published?_of_serving {upper : List Frame} {frame : Frame} (inner : List Frame)
    {focus : Focus}
    (busy : machine.control = .busy ⟨owner, upper ++ frame :: (inner ++ base)⟩ focus)
    (serves : frame.isServing = true) : machine.published? owner base.length = none := by
  have split : upper ++ frame :: (inner ++ base) = (upper ++ frame :: inner) ++ base := by simp
  unfold published?
  split
  next thread bus event identity running =>
    obtain ⟨rfl, -⟩ := Control.busy.inj (busy.symm.trans running)
    apply if_neg
    rintro ⟨-, unserved⟩
    simp only [split, above_append] at unserved
    have silent := unserved frame (by simp)
    rw [serves] at silent
    cases silent
  next => rfl

theorem published?_of_parked {thread : Thread} {focus : Focus}
    (parked : machine.Parked thread focus) (sound : machine.Sound)
    (own : thread.owner = owner) : machine.published? owner depth = none := by
  unfold published?
  split
  next other bus event identity running =>
    have differs := parked.alone sound running
    simp [own ▸ differs]
  next => rfl

theorem published?_of_other {thread : Thread} {focus : Focus}
    (busy : machine.control = .busy thread focus)
    (other : focus.isPublish = false) : machine.published? owner depth = none := by
  unfold published?
  split
  next running bus event identity control =>
    obtain ⟨-, rfl⟩ := Control.busy.inj (busy.symm.trans control)
    cases other
  next => rfl

/-- The shapes that a machine has while a call of a board, made above `base`, goes on, and
the events that the call still owes. -/
inductive OwesAt (owner : Option TaskId) (base : List Frame) (board : Board)
    (machine : Machine) : List Event → Prop where
  | stands {focus : Focus} {todo : List Event} (busy : machine.control = .busy ⟨owner, base⟩ focus)
      (owes : focus.Owes board todo) : OwesAt owner base board machine todo
  | publishes {frame : Frame} {todo : List Event} {event : Event} {identity : Nat}
      (busy : machine.control =
        .busy ⟨owner, frame :: base⟩ (.publish board.bus (.event event identity)))
      (leads : Leads board [frame] todo) : OwesAt owner base board machine (event :: todo)
  | tells {inner : List Frame} {todo : List Event} {event : Value}
      {subscribers : List (Nat × Value)} {log : List Telling}
      (telling : PublishesAt owner inner base board.bus event subscribers machine log)
      (leads : Leads board inner todo) : OwesAt owner base board machine todo
  | serves (upper : List Frame) {handle : Ref .handle} {rest : List (Ref .handle)}
      {focus : Focus}
      (busy : machine.control =
        .busy ⟨owner, upper ++ .pressing board.dispatcher handle rest :: base⟩ focus) :
      OwesAt owner base board machine []
  | pauses {upper : List Frame} {handle : Ref .handle} {rest : List (Ref .handle)}
      (parked : machine.Parked
        ⟨owner, upper ++ .pressing board.dispatcher handle rest :: base⟩ .nothing) :
      OwesAt owner base board machine []
  | adopts {task : TaskId} {handle : Ref .handle} {rest : List (Ref .handle)}
      (listed : task.index < machine.tasks.length)
      (busy : machine.control = .busy ⟨owner, base⟩ (.within (.serving board.dispatcher rest)
        (.adopt task board.dispatcher handle))) : OwesAt owner base board machine []
  | adopting {task : TaskId} {handle : Ref .handle} {rest : List (Ref .handle)}
      (listed : task.index < machine.tasks.length)
      (busy : machine.control = .busy ⟨owner, .serving board.dispatcher rest :: base⟩
        (.adopt task board.dispatcher handle)) : OwesAt owner base board machine []
  | adopted {rest : List (Ref .handle)}
      (busy : machine.control = .busy ⟨owner, .serving board.dispatcher rest :: base⟩ .nothing) :
      OwesAt owner base board machine []
  | starts {value : Value} {work : Work} {notice : Notice}
      (busy : machine.control =
        .busy ⟨owner, .program (fun _ => .finish (.ok value)) :: base⟩ (.start work notice)) :
      OwesAt owner base board machine []
  | started {value : Value}
      (busy : machine.control =
        .busy ⟨owner, .program (fun _ => .finish (.ok value)) :: base⟩ .nothing) :
      OwesAt owner base board machine []

theorem control_adopt {thread : Thread} {task : TaskId} {target : Ref .dispatcher}
    {handle : Ref .handle} (listed : task.index < machine.tasks.length) :
    (machine.adopt thread task target handle).control = .busy thread .nothing := by
  rw [adopt, if_pos listed]
  rfl

theorem silent_of_leads (leads : Leads board inner todo) :
    ∀ frame ∈ inner, frame.isServing = false := by
  cases leads <;> simp [Frame.isServing]

theorem unpublishing_of_leads (leads : Leads board inner todo) :
    (inner.all fun frame => !frame.isPublishing) = true := by
  cases leads <;> rfl

theorem PublishesAt.published? {bus : Ref .bus} {event : Value}
    {subscribers : List (Nat × Value)} {log : List Telling}
    (telling : PublishesAt owner inner base bus event subscribers machine log)
    (sound : machine.Sound) : machine.published? owner base.length = none := by
  cases telling with
  | @tells done rest all busy => cases rest <;> exact published?_of_other busy rfl
  | serves upper focus all busy => exact published?_of_serving inner busy rfl
  | pauses upper all parked => exact published?_of_parked parked sound rfl

/-- When all subscribers have been told, a call goes on with what it owes. -/
theorem owesAt_of_told (leads : Leads board inner todo) (wired : machine.world.Wired board)
    (move : Move machine next)
    (finished : machine.control = .busy ⟨owner, inner ++ base⟩ .nothing)
    (going : ¬ machine.Returns owner base) : OwesAt owner base board next todo := by
  rw [move.of_busy finished]
  cases inner with
  | nil => exact absurd ⟨_, finished⟩ going
  | cons frame low =>
      have alone : low = [] := by cases leads <;> rfl
      subst alone
      exact .stands rfl (World.resume_owes wired leads .none)

/-- A handler goes on, or it has ended and the next one is served. -/
theorem owesAt_of_served {upper : List Frame} {handle : Ref .handle}
    {rest : List (Ref .handle)} {focus : Focus}
    (busy : machine.control =
      .busy ⟨owner, upper ++ .pressing board.dispatcher handle rest :: base⟩ focus)
    (move : Move machine next) (sound : machine.Sound) (polite : machine.Polite board) :
    OwesAt owner base board next [] := by
  rcases move.above sound busy with
    ⟨reply, rfl, rfl⟩ | ⟨upper, focus, busy⟩ | ⟨upper, parked⟩
  · have endured : machine.endures (.pressing board.dispatcher handle rest) reply = true := by
      simpa [enduredBy, busy] using polite.handlers
    have kept (fault : Fault) (failed : reply = .error fault) : fault.escape? = none := by
      subst failed
      simpa [endures] using endured
    rw [move.of_busy busy]
    rcases World.resume_pressing_owes kept with owes | ⟨task, rfl, looping, adopts⟩
    · exact .stands rfl owes
    · have listed : task.index < machine.tasks.length := by
        simpa [endures, adoptable, Value.work?, looping] using endured
      exact .adopts listed (congrArg (fun pair : World × Focus => Control.busy _ pair.2) adopts)
  · exact .serves upper busy
  · exact .pauses parked

/-- Every move of a call tells of the event that is due, or of none. -/
theorem OwesAt.move (state : OwesAt owner base board machine todo) (move : Move machine next)
    (sound : machine.Sound) (wired : machine.world.Wired board) (polite : machine.Polite board)
    (going : ¬ machine.Returns owner base) :
    ∃ later, OwesAt owner base board next later ∧
      (machine.published? owner base.length).toList ++ later.map (board.bus, ·) =
        todo.map (board.bus, ·) := by
  have silently {todo : List Event} (state : OwesAt owner base board next todo)
      (silent : machine.published? owner base.length = none) :
      ∃ later, OwesAt owner base board next later ∧
        (machine.published? owner base.length).toList ++ later.map (board.bus, ·) =
          todo.map (board.bus, ·) := by
    rw [silent]
    exact ⟨todo, state, rfl⟩
  cases state with
  | stands busy owes =>
      rw [move.of_busy busy] at silently ⊢
      cases owes with
      | returns value => exact absurd ⟨_, busy⟩ going
      | publishes event identity =>
          refine ⟨[], .tells (publishesAt_begun machine [] board.bus _) .ends, ?_⟩
          rw [published?_of_publish [] busy (by simp)]
          rfl
      | opens event identity leads =>
          exact silently (.publishes rfl leads) (published?_of_other busy rfl)
      | serves | hands => exact silently (.serves [] rfl) (published?_of_other busy rfl)
      | enlists value work notice =>
          exact silently (.starts rfl) (published?_of_other busy rfl)
      | finishes value =>
          exact silently (.stands rfl (.returns value)) (published?_of_other busy rfl)
  | @publishes frame rest event identity busy leads =>
      rw [move.of_busy busy]
      refine ⟨rest, .tells (publishesAt_begun machine [frame] board.bus _) leads, ?_⟩
      rw [published?_of_publish [frame] busy (silent_of_leads leads)]
      rfl
  | @tells inner todo event subscribers log telling leads =>
      refine silently ?_ (telling.published? sound)
      by_cases finished : machine.control = .busy ⟨owner, inner ++ base⟩ .nothing
      · exact owesAt_of_told leads wired move finished going
      · exact .tells (telling.move (unpublishing_of_leads leads) move sound finished
          polite.subscribers) leads
  | serves upper busy =>
      exact silently (owesAt_of_served busy move sound polite)
        (published?_of_serving [] busy rfl)
  | pauses parked =>
      refine silently ?_ (published?_of_parked parked sound rfl)
      rcases parked.move move sound with still | busy
      · exact .pauses still
      · exact .serves _ busy
  | adopts listed busy =>
      rw [move.of_busy busy] at silently ⊢
      exact silently (.adopting listed rfl) (published?_of_other busy rfl)
  | @adopting task handle rest listed busy =>
      rw [move.of_busy busy] at silently ⊢
      exact silently (.adopted (control_adopt listed)) (published?_of_other busy rfl)
  | adopted busy =>
      rw [move.of_busy busy] at silently ⊢
      exact silently (.stands rfl (World.serve_owes _)) (published?_of_other busy rfl)
  | starts busy =>
      rw [move.of_busy busy] at silently ⊢
      exact silently (.started rfl) (published?_of_other busy rfl)
  | started busy =>
      rw [move.of_busy busy] at silently ⊢
      exact silently (.stands rfl (.finishes _)) (published?_of_other busy rfl)

/-- Until a call returns, it has told of the first of its events and owes the others. -/
theorem Run.owes (run : Run start past machine) (sound : start.Sound)
    (wired : start.world.Wired board) (begun : OwesAt owner base board start todo)
    (going : ∀ state ∈ past, ¬ state.Returns owner base)
    (polite : ∀ state ∈ past, state.Polite board) :
    ∃ later, OwesAt owner base board machine later ∧
      past.filterMap (published? owner base.length) ++ later.map (board.bus, ·) =
        todo.map (board.bus, ·) := by
  induction run with
  | refl => exact ⟨todo, begun, rfl⟩
  | @move past machine next run move induction =>
      obtain ⟨goingBefore, goingLast⟩ := forall_snoc going
      obtain ⟨politeBefore, politeLast⟩ := forall_snoc polite
      obtain ⟨later, state, told⟩ := induction goingBefore politeBefore
      obtain ⟨rest, after, tells⟩ := state.move move (run.sound sound)
        (wired.grows (run.grows sound)) politeLast goingLast
      refine ⟨rest, after, ?_⟩
      rw [filterMap_snoc, List.append_assoc, tells, told]

/-- A call that returns owes nothing, and it has not failed. -/
theorem OwesAt.finished {reply : Reply} (state : OwesAt owner base board machine todo)
    (sound : machine.Sound) (ends : machine.control = .busy ⟨owner, base⟩ (.reply reply)) :
    todo = [] ∧ ∃ value, reply = .ok value := by
  cases state with
  | stands busy owes =>
      obtain ⟨-, rfl⟩ := Control.busy.inj (ends.symm.trans busy)
      cases owes with
      | returns value => exact ⟨rfl, value, rfl⟩
  | adopts listed busy =>
      rw [busy] at ends
      cases ends
  | publishes busy | adopting listed busy | adopted busy | starts busy | started busy =>
      exact (not_back [] [] (busy.symm.trans ends)).elim
  | serves upper busy => exact (not_back upper [] (busy.symm.trans ends)).elim
  | pauses parked =>
      have differs := parked.alone sound ends
      exact absurd rfl differs
  | @tells inner todo event subscribers log telling leads =>
      cases telling with
      | @tells done rest all busy =>
          rw [ends] at busy
          have depths := depth_of_busy busy
          simp only [List.length_append, Nat.right_eq_add, List.length_eq_zero_iff] at depths
          subst depths
          cases leads
          cases rest <;> cases busy
          exact ⟨rfl, .none, rfl⟩
      | serves upper focus all busy => exact (not_back upper inner (busy.symm.trans ends)).elim
      | pauses upper all parked =>
          have differs := parked.alone sound ends
          exact absurd rfl differs

end Machine

end Microboard
