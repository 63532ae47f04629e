import Microboard.Proofs.Machine.Follow
import Microboard.Proofs.World.Leaves

/-!
# Telling subscribers

What a call that publishes is seen to do: it publishes events, and it delivers them to
subscribers.  What happens while a subscriber is being served is not taken for
something that the call does itself.
-/

namespace Microboard

namespace Machine

variable {machine : Machine} {owner : Option TaskId} {depth : Nat}

/-- No subscriber is being served above a depth of a stack. -/
def unserved (depth : Nat) (stack : List Frame) : Bool :=
  (stack.take (stack.length - depth)).all fun frame => !frame.isPublishing

theorem unserved_append (own base : List Frame) :
    unserved base.length (own ++ base) = own.all fun frame => !frame.isPublishing := by
  have size : (own ++ base).length - base.length = own.length := by
    rw [List.length_append, Nat.add_sub_cancel]
  rw [unserved, size, List.take_left]

def Returns (owner : Option TaskId) (base : List Frame) (machine : Machine) : Prop :=
  ∃ reply, machine.control = .busy ⟨owner, base⟩ (.reply reply)

def repliesAt (owner : Option TaskId) (depth : Nat) (machine : Machine) : Bool :=
  match machine.control with
  | .busy thread (.reply _) => thread.owner = owner && thread.stack.length = depth
  | _ => false

theorem going_of_evident {past : List Machine} {owner : Option TaskId} {base : List Frame}
    (evident : past.any (repliesAt owner base.length) = false) :
    ∀ state ∈ past, ¬ state.Returns owner base := by
  rintro state member ⟨reply, busy⟩
  have seen := List.any_eq_false.mp evident state member
  simp [repliesAt, busy] at seen

theorem depth_of_busy {left right : Thread} {first second : Focus}
    (same : Control.busy left first = .busy right second) :
    left.stack.length = right.stack.length := by
  cases same
  rfl

/-- A thread that has frames above those of its caller has not come back to it. -/
theorem not_back (upper low : List Frame) {base : List Frame} {frame : Frame}
    {owner other : Option TaskId} {first second : Focus}
    (same : Control.busy ⟨owner, upper ++ frame :: (low ++ base)⟩ first =
      .busy ⟨other, base⟩ second) : False := by
  have depths := depth_of_busy same
  simp only [List.length_append, List.length_cons] at depths
  omega

/-- What a call does about events. -/
inductive Telling where
  | publishes (bus : Ref .bus) (event : Value)
  | delivers (id : Nat) (subscriber : Value) (arguments : Arguments)

namespace Telling

def isDelivery : Telling → Bool
  | .publishes .. => false
  | .delivers .. => true

def delivery (event : Value) (subscription : Nat × Value) : Telling :=
  .delivers subscription.1 subscription.2 (.single event)

/-- The publication of an event and its delivery to every subscription. -/
def publication (bus : Ref .bus) (event : Value) (subscribers : List (Nat × Value)) :
    List Telling :=
  .publishes bus event :: subscribers.map (delivery event)

end Telling

/-- A call that an owner's thread has made at a depth of its stack goes on itself. -/
def acts (owner : Option TaskId) (depth : Nat) (machine : Machine) : Option Focus :=
  match machine.control with
  | .idle => none
  | .busy thread focus =>
    if thread.owner = owner ∧ unserved depth thread.stack = true then some focus else none

/-- What a state shows of a call about events. -/
def telling? (owner : Option TaskId) (depth : Nat) (machine : Machine) : Option Telling :=
  match machine.acts owner depth with
  | some (.publish bus event) => some (.publishes bus event)
  | some (.within (.publishing _ _ id _) (.call subscriber arguments)) =>
    some (.delivers id subscriber arguments)
  | _ => none

/-- What a subscriber of a bus raises, if anything, is an ordinary fault. -/
def ordinaryOn (bus : Ref .bus) (machine : Machine) : Bool :=
  match machine.control with
  | .busy ⟨_, .publishing channel _ _ _ :: _⟩ (.reply (.error fault)) =>
    channel ≠ bus || fault.isOrdinary
  | _ => true

theorem acts_of_busy {own base : List Frame} {focus : Focus}
    (busy : machine.control = .busy ⟨owner, own ++ base⟩ focus)
    (silent : (own.all fun frame => !frame.isPublishing) = true) :
    machine.acts owner base.length = some focus := by
  simp [acts, busy, unserved_append, silent]

theorem acts_self {base : List Frame} {focus : Focus}
    (busy : machine.control = .busy ⟨owner, base⟩ focus) :
    machine.acts owner base.length = some focus :=
  acts_of_busy (show machine.control = .busy ⟨owner, [] ++ base⟩ focus from busy) rfl

theorem acts_cons {frame : Frame} {base : List Frame} {focus : Focus}
    (busy : machine.control = .busy ⟨owner, frame :: base⟩ focus)
    (silent : frame.isPublishing = false) : machine.acts owner base.length = some focus :=
  acts_of_busy (show machine.control = .busy ⟨owner, [frame] ++ base⟩ focus from busy)
    (by simp [silent])

theorem acts_of_parked {thread : Thread} {focus : Focus} (parked : machine.Parked thread focus)
    (sound : machine.Sound) (own : thread.owner = owner) :
    machine.acts owner depth = none := by
  unfold acts
  cases control : machine.control with
  | idle => rfl
  | busy other running =>
      have differs := parked.alone sound control
      simp [own ▸ differs]

theorem acts_of_serving {above own base rest : List Frame} {frame : Frame} {focus : Focus}
    (busy : machine.control = .busy ⟨owner, above ++ frame :: rest⟩ focus)
    (below : rest = own ++ base) (serves : frame.isPublishing = true) :
    machine.acts owner base.length = none := by
  have split : above ++ frame :: rest = (above ++ frame :: own) ++ base := by
    simp [below]
  have served : unserved base.length (above ++ frame :: rest) = false := by
    rw [split, unserved_append, List.all_append, List.all_cons, serves]
    simp
  simp [acts, busy, served]

end Machine

end Microboard
