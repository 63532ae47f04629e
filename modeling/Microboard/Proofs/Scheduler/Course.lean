import Microboard.Proofs.Machine.Follow

/-!
# The course of a loop

What the task of a forever loop is seen to do: it asks for a sleep, it wakes and
looks whether its handle is active, it calls the callback, it awaits what the
callback gave, and at the end of the iteration it looks again.
-/

namespace Microboard

/-- What the task of a loop is seen to do. -/
inductive LoopEvent where
  | sleeps (interval : Value)
  | wakes (active : Bool)
  | calls
  | awaits (work : Work)
  | ends (active : Bool)

/-- Where the task of a loop stands. -/
inductive LoopPhase where
  | starting
  | asking
  | sleeping
  | calling
  | iterating
  | awaiting
  | ended
deriving DecidableEq

namespace LoopPhase

/-- The task goes on, or it has ended. -/
def after (active : Bool) (next : LoopPhase) : LoopPhase :=
  if active then next else .ended

end LoopPhase

/-- The courses that a loop may take: an iteration follows a sleep exactly when the
handle is active on waking, and a sleep follows an iteration exactly when the handle
is active at its end. -/
inductive Course (interval : Value) : List LoopEvent → LoopPhase → Prop where
  | start : Course interval [] .starting
  | first : Course interval [.sleeps interval] .sleeping
  | sleeps {events : List LoopEvent} (course : Course interval events .asking) :
      Course interval (events ++ [.sleeps interval]) .sleeping
  | wakes {events : List LoopEvent} (active : Bool)
      (course : Course interval events .sleeping) :
      Course interval (events ++ [.wakes active]) (.after active .calling)
  | calls {events : List LoopEvent} (course : Course interval events .calling) :
      Course interval (events ++ [.calls]) .iterating
  | awaits {events : List LoopEvent} (work : Work)
      (course : Course interval events .iterating) :
      Course interval (events ++ [.awaits work]) .awaiting
  | ends {events : List LoopEvent} (active : Bool)
      (course : Course interval events .iterating) :
      Course interval (events ++ [.ends active]) (.after active .asking)
  | endsAwaiting {events : List LoopEvent} (active : Bool)
      (course : Course interval events .awaiting) :
      Course interval (events ++ [.ends active]) (.after active .asking)

namespace LoopEvent

/-- The event is something that the task does; the others are what it finds. -/
def isAction : LoopEvent → Bool
  | .wakes _ | .ends _ => false
  | _ => true

/-- After such an event the task goes no further. -/
def stops : LoopEvent → Bool
  | .wakes active | .ends active => !active
  | _ => false

/-- One round of a loop: a call, the awaiting of what it gave, if anything, and a
sleep. -/
def round (interval : Value) (work : Option Work) : List LoopEvent :=
  .calls :: work.toList.map .awaits ++ [.sleeps interval]

end LoopEvent

/-- A sleep and then whole rounds. -/
def rounds (interval : Value) (works : List (Option Work)) : List LoopEvent :=
  .sleeps interval :: works.flatMap (LoopEvent.round interval)

/-- What has been done in a phase, as the beginning of a sleep and whole rounds. -/
def LoopPhase.Done (interval : Value) (actions : List LoopEvent) : LoopPhase → Prop
  | .starting => actions = []
  | .sleeping | .calling => ∃ works, actions = rounds interval works
  | .iterating => ∃ works, actions = rounds interval works ++ [.calls]
  | .awaiting => ∃ works work, actions = rounds interval works ++ [.calls, .awaits work]
  | .asking => ∃ works, actions ++ [.sleeps interval] = rounds interval works
  | .ended => ∃ works, actions <+: rounds interval works

variable {interval : Value} {events : List LoopEvent} {phase : LoopPhase}

theorem Course.eq_nil (course : Course interval events phase)
    (starts : phase = .starting) : events = [] := by
  cases course with
  | start => rfl
  | wakes active | ends active | endsAwaiting active => cases active <;> cases starts
  | _ => cases starts

theorem Course.ended_iff (course : Course interval events phase) :
    phase = .ended ↔ ∃ last, events.getLast? = some last ∧ last.stops = true := by
  cases course with
  | start | first | sleeps | calls | awaits => simp [LoopEvent.stops]
  | wakes active | ends active | endsAwaiting active =>
      cases active <;> simp [LoopPhase.after, LoopEvent.stops]

theorem rounds_append (interval : Value) (works : List (Option Work)) (work : Option Work) :
    rounds interval (works ++ [work]) =
      rounds interval works ++ LoopEvent.round interval work := by
  simp [rounds]

theorem begins_rounds (interval : Value) (works : List (Option Work)) (work : Option Work) :
    rounds interval works ++ .calls :: work.toList.map .awaits <+:
      rounds interval (works ++ [work]) := by
  refine ⟨[.sleeps interval], ?_⟩
  rw [rounds_append, LoopEvent.round]
  simp

theorem done_after {actions : List LoopEvent} (works : List (Option Work))
    (work : Option Work) (active : Bool)
    (done : actions = rounds interval works ++ .calls :: work.toList.map .awaits) :
    (LoopPhase.after active .asking).Done interval actions := by
  cases active with
  | true =>
      refine ⟨works ++ [work], ?_⟩
      rw [done, rounds_append, LoopEvent.round]
      simp
  | false => exact ⟨works ++ [work], done ▸ begins_rounds interval works work⟩

theorem Course.done (course : Course interval events phase) :
    phase.Done interval (events.filter LoopEvent.isAction) := by
  induction course with
  | start => rfl
  | first => exact ⟨[], rfl⟩
  | sleeps course induction =>
      obtain ⟨works, done⟩ := induction
      exact ⟨works, by rw [← done, List.filter_append]; rfl⟩
  | wakes active course induction =>
      obtain ⟨works, done⟩ := induction
      rw [List.filter_append, done]
      cases active with
      | true => exact ⟨works, by simp [LoopEvent.isAction]⟩
      | false => exact ⟨works, by simp [LoopEvent.isAction]⟩
  | calls course induction =>
      obtain ⟨works, done⟩ := induction
      exact ⟨works, by rw [← done, List.filter_append]; rfl⟩
  | awaits work course induction =>
      obtain ⟨works, done⟩ := induction
      refine ⟨works, work, ?_⟩
      rw [List.filter_append, done, List.append_assoc]
      rfl
  | ends active course induction =>
      obtain ⟨works, done⟩ := induction
      apply done_after works none active
      rw [List.filter_append, done]
      simp [LoopEvent.isAction]
  | endsAwaiting active course induction =>
      obtain ⟨works, work, done⟩ := induction
      apply done_after works (some work) active
      rw [List.filter_append, done]
      simp [LoopEvent.isAction]

theorem Course.begins_rounds (course : Course interval events phase) :
    ∃ works, events.filter LoopEvent.isAction <+: rounds interval works := by
  have done := course.done
  cases phase with
  | starting => exact ⟨[], by rw [show events.filter _ = [] from done]; exact List.nil_prefix⟩
  | asking =>
      obtain ⟨works, done⟩ := done
      exact ⟨works, done ▸ List.prefix_append _ _⟩
  | sleeping | calling =>
      obtain ⟨works, done⟩ := done
      exact ⟨works, done ▸ List.prefix_rfl⟩
  | iterating =>
      obtain ⟨works, done⟩ := done
      exact ⟨works ++ [none], done ▸ Microboard.begins_rounds interval works none⟩
  | awaiting =>
      obtain ⟨works, work, done⟩ := done
      exact ⟨works ++ [some work], done ▸ Microboard.begins_rounds interval works (some work)⟩
  | ended => exact done

end Microboard
