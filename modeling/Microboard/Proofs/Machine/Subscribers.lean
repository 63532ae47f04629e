import Microboard.Proofs.Machine.Telling
import Microboard.Proofs.World.Apart

/-!
# Subscribers that keep apart

What a board may rely on of the subscribers of its bus: they do not act on the board,
they do not suspend, and they raise ordinary faults only.  While such a subscriber is
served, the hardware of the board stays as it is.
-/

namespace Microboard.Machine

variable {machine : Machine} {owner : Option TaskId} {hardware : Ref .hardware}
variable {bus : Ref .bus} {channels : Ref .bus → Prop}

/-- A subscriber of a bus is being served in a thread. -/
def Serves (bus : Ref .bus) (thread : Thread) : Prop :=
  ∃ event id rest, .publishing bus event id rest ∈ thread.stack

theorem Serves.shown {thread : Thread} (serves : Serves bus thread) :
    (thread.stack.all fun frame => !frame.isPublishing) = false := by
  obtain ⟨event, id, rest, member⟩ := serves
  exact List.all_eq_false.mpr ⟨_, member, by simp [Frame.isPublishing]⟩

/-- What is relied on of the subscribers of a bus while they are served: they keep apart
from the hardware, publish on the allowed buses only, do not suspend (they are called and
not awaited), and raise ordinary faults. -/
structure Civil (hardware : Ref .hardware) (bus : Ref .bus) (channels : Ref .bus → Prop)
    (machine : Machine) : Prop where
  ordinary : machine.ordinaryOn bus = true
  apart : ∀ thread focus, machine.control = .busy thread focus → Serves bus thread →
    focus.Permitted (machine.world.apart hardware channels) machine.world
  awake : ∀ thread focus, machine.control = .busy thread focus → Serves bus thread →
    (∀ interval, focus ≠ .sleep interval) ∧ ∀ tasks, focus ≠ .wait tasks

theorem advance_busy {thread : Thread} {focus : Focus}
    (awake : (∀ interval, focus ≠ .sleep interval) ∧ ∀ tasks, focus ≠ .wait tasks)
    (going : ∀ reply, focus = .reply reply → thread.stack ≠ []) :
    ∃ after next, (machine.advance thread focus).control = .busy after next := by
  cases focus with
  | reply reply =>
      simp only [advance]
      split
      next empty => exact absurd empty (going reply rfl)
      next => exact ⟨_, _, rfl⟩
  | within | publish | start => exact ⟨_, _, rfl⟩
  | run program =>
      cases program with
      | launch work next =>
          simp only [advance, Machine.run]
          split <;> exact ⟨_, _, rfl⟩
      | _ => exact ⟨_, _, rfl⟩
  | call target arguments =>
      simp only [advance, call]
      split
      · split <;> exact ⟨_, _, rfl⟩
      · exact ⟨_, _, rfl⟩
      · exact ⟨_, _, rfl⟩
  | await work =>
      simp only [advance, await]
      split
      next task =>
        rcases join_cases machine thread task with ⟨reply, joins⟩ | joins <;>
          exact ⟨_, _, congrArg Machine.control joins⟩
      · exact ⟨_, _, rfl⟩
      · exact ⟨_, _, rfl⟩
  | adopt task target handle =>
      rcases adopt_cases machine thread task target handle with ⟨-, adopts⟩ | ⟨-, refuses⟩
      · exact ⟨_, _, congrArg Machine.control adopts⟩
      · exact ⟨_, _, congrArg Machine.control refuses⟩
  | invoke handle =>
      simp only [advance]
      split <;> exact ⟨_, _, rfl⟩
  | sleep interval => exact absurd rfl (awake.1 interval)
  | wait tasks => exact absurd rfl (awake.2 tasks)

/-- A thread that serves a subscriber: everything above the publication keeps apart. -/
structure Serving (hardware : Ref .hardware) (channels : Ref .bus → Prop) (world : World)
    (above : List Frame) (focus : Focus) : Prop where
  frames : ∀ frame ∈ above, frame.Within (world.apart hardware channels)
  inside : focus.Within (world.apart hardware channels)

/-- A turn of a subscriber keeps apart from the board and goes on. -/
theorem Serving.turn {above below : List Frame} {focus : Focus} {event : Value} {id : Nat}
    {others : List (Nat × Value)} (serving : Serving hardware channels machine.world above focus)
    (sound : machine.Sound) (civil : machine.Civil hardware bus channels)
    (busy : machine.control =
      .busy ⟨owner, above ++ .publishing bus event id others :: below⟩ focus)
    (going : ∀ reply, focus = .reply reply → above ≠ []) :
    let next := machine.advance ⟨owner, above ++ .publishing bus event id others :: below⟩ focus
    World.Steps (machine.world.apart hardware channels) machine.world next.world ∧
      ∃ after focus', next.control =
          .busy ⟨owner, after ++ .publishing bus event id others :: below⟩ focus' ∧
        Serving hardware channels next.world after focus' := by
  intro next
  have serves : Serves bus ⟨owner, above ++ .publishing bus event id others :: below⟩ :=
    ⟨event, id, others, by simp⟩
  have turn : Turn (machine.world.apart hardware channels) machine owner
      (.publishing bus event id others :: below) next :=
    advance_turn (World.apart_closed sound.world) serving.frames serving.inside
      (civil.apart _ _ busy serves) going
  obtain ⟨running, present, control⟩ : ∃ after focus', next.control = .busy after focus' :=
    advance_busy (civil.awake _ _ busy serves) (by simp)
  cases turn with
  | goes after focus' steps busy frames inside =>
      have narrower : (machine.world.apart hardware channels).Narrower
          (next.world.apart hardware channels) :=
        World.apart_grows steps.grows
      refine ⟨steps, after, focus', busy, ?_⟩
      constructor
      case frames =>
        intro frame member
        exact Frame.Within.widen (frames frame member) narrower
      case inside => exact Focus.Within.widen inside narrower
  | parks after steps idle =>
      rw [idle] at control
      cases control

/-- A turn of a thread that serves a subscriber keeps apart from the board: it goes on with
the subscriber, or hands the event to the next one. -/
theorem Serving.advance {above below : List Frame} {focus : Focus} {event : Value} {id : Nat}
    {others : List (Nat × Value)} (serving : Serving hardware channels machine.world above focus)
    (sound : machine.Sound) (civil : machine.Civil hardware bus channels)
    (busy : machine.control =
      .busy ⟨owner, above ++ .publishing bus event id others :: below⟩ focus) :
    let next := machine.advance ⟨owner, above ++ .publishing bus event id others :: below⟩ focus
    World.Steps (machine.world.apart hardware channels) machine.world next.world ∧
      (next.control = .busy ⟨owner, below⟩ (World.publishRest bus event others) ∨
        ∃ after focus', next.control =
            .busy ⟨owner, after ++ .publishing bus event id others :: below⟩ focus' ∧
          Serving hardware channels next.world after focus') := by
  by_cases returns : ∃ reply, focus = .reply reply ∧ above = []
  · obtain ⟨reply, rfl, rfl⟩ := returns
    cases reply with
    | ok value => exact ⟨World.steps_refl _, .inl rfl⟩
    | error fault =>
        have ordinary : fault.isOrdinary = true := by
          simpa [ordinaryOn, busy] using civil.ordinary
        simp only [List.nil_append, Machine.advance, World.resume, ordinary, if_true]
        exact ⟨World.steps_log _ _ _ _, .inl rfl⟩
  · have going : ∀ reply, focus = .reply reply → above ≠ [] :=
      fun reply same empty => returns ⟨reply, same, empty⟩
    exact (serving.turn sound civil busy going).imp_right .inr

end Microboard.Machine
