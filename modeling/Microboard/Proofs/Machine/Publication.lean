import Microboard.Proofs.Machine.Awaiting
import Microboard.Proofs.Machine.Telling

/-!
# Publications

Whoever publishes an event is followed until every subscriber has been told.  A task
that has ended has left no publication halfway.
-/

namespace Microboard.Machine

variable {start machine next : Machine} {past : List Machine} {owner : Option TaskId}
variable {inner base : List Frame} {bus : Ref .bus} {event : Value}
variable {subscribers : List (Nat × Value)} {log : List Telling}

/-- The shapes that a machine has while a thread, below whose frames `inner ++ base` lie,
tells subscribers of an event.  The log is what it has done so far. -/
inductive PublishesAt (owner : Option TaskId) (inner base : List Frame) (bus : Ref .bus)
    (event : Value) (subscribers : List (Nat × Value)) (machine : Machine) :
    List Telling → Prop where
  | tells {done rest : List (Nat × Value)} (all : subscribers = done ++ rest)
      (busy : machine.control =
        .busy ⟨owner, inner ++ base⟩ (World.publishRest bus event rest)) :
      PublishesAt owner inner base bus event subscribers machine
        (Telling.publication bus event done)
  | serves {done rest : List (Nat × Value)} {subscription : Nat × Value}
      (above : List Frame) (focus : Focus)
      (all : subscribers = done ++ subscription :: rest)
      (busy : machine.control =
        .busy ⟨owner, above ++ .publishing bus event subscription.1 rest :: (inner ++ base)⟩
          focus) :
      PublishesAt owner inner base bus event subscribers machine
        (Telling.publication bus event (done ++ [subscription]))
  | pauses {done rest : List (Nat × Value)} {subscription : Nat × Value}
      (above : List Frame) (all : subscribers = done ++ subscription :: rest)
      (parked : machine.Parked
        ⟨owner, above ++ .publishing bus event subscription.1 rest :: (inner ++ base)⟩
          .nothing) :
      PublishesAt owner inner base bus event subscribers machine
        (Telling.publication bus event (done ++ [subscription]))

theorem PublishesAt.ended {done rest : List (Nat × Value)} {id : Nat} (reply : Reply)
    (all : subscribers = done ++ rest)
    (ordinary : ∀ fault, reply = .error fault → fault.isOrdinary = true) :
    PublishesAt owner inner base bus event subscribers
      (machine.go ⟨owner, inner ++ base⟩
        (machine.world.resume (.publishing bus event id rest) reply))
      (Telling.publication bus event done) := by
  apply PublishesAt.tells all
  cases reply with
  | ok value => rfl
  | error fault => simp only [World.resume, ordinary fault rfl, if_true]; rfl

/-- Every move takes a publication on, and shows what it does, as long as subscribers
raise ordinary faults only. -/
theorem PublishesAt.move (silent : (inner.all fun frame => !frame.isPublishing) = true)
    (state : PublishesAt owner inner base bus event subscribers machine log)
    (move : Move machine next) (sound : machine.Sound)
    (going : machine.control ≠ .busy ⟨owner, inner ++ base⟩ .nothing)
    (ordinary : machine.ordinaryOn bus = true) :
    PublishesAt owner inner base bus event subscribers next
      (log ++ (machine.telling? owner base.length).toList) := by
  cases state with
  | @tells done rest all busy =>
      rw [move.of_busy busy]
      cases rest with
      | nil => exact absurd busy going
      | cons subscription rest =>
          obtain ⟨id, subscriber⟩ := subscription
          have called : PublishesAt owner inner base bus event subscribers
              (machine.advance ⟨owner, inner ++ base⟩
                (World.publishRest bus event ((id, subscriber) :: rest)))
              (Telling.publication bus event (done ++ [(id, subscriber)])) :=
            .serves [] (.call subscriber (.single event)) all rfl
          simpa [telling?, acts_of_busy busy silent, World.publishRest, Telling.publication,
            Telling.delivery] using called
  | @serves done rest subscription above focus all busy =>
      have unseen : machine.telling? owner base.length = none := by
        simp [telling?, acts_of_serving busy rfl rfl]
      rw [unseen, Option.toList_none, List.append_nil]
      rcases move.above sound busy with
        ⟨reply, rfl, rfl⟩ | ⟨above, focus, busy⟩ | ⟨above, parked⟩
      · rw [move.of_busy busy]
        apply PublishesAt.ended reply (by simpa using all)
        intro fault same
        subst same
        simpa [ordinaryOn, busy] using ordinary
      · exact .serves above focus all busy
      · exact .pauses above all parked
  | pauses above all parked =>
      have unseen : machine.telling? owner base.length = none := by
        simp [telling?, acts_of_parked parked sound rfl]
      rw [unseen, Option.toList_none, List.append_nil]
      rcases parked.move move sound with still | busy
      · exact .pauses above all still
      · exact .serves above .nothing all busy

theorem PublishesAt.live
    (state : PublishesAt owner inner base bus event subscribers machine log) :
    machine.live owner ≠ 0 := by
  cases state with
  | tells all busy | serves above focus all busy => simp [Machine.live, runs, busy]
  | pauses above all parked =>
      have alive := parked.live
      simp only at alive
      omega

theorem PublishesAt.complete
    (state : PublishesAt owner inner base bus event subscribers machine log)
    (sound : machine.Sound)
    (finished : machine.control = .busy ⟨owner, inner ++ base⟩ .nothing) :
    log = Telling.publication bus event subscribers := by
  cases state with
  | @tells done rest all busy =>
      rw [finished] at busy
      cases rest with
      | nil => rw [all, List.append_nil]
      | cons subscription rest => cases busy
  | serves above focus all busy =>
      exact (not_back above [] (busy.symm.trans finished)).elim
  | pauses above all parked =>
      have differs := parked.alone sound finished
      exact absurd rfl differs

theorem PublishesAt.returns {reply : Reply}
    (state : PublishesAt owner inner base bus event subscribers machine log)
    (sound : machine.Sound)
    (ends : machine.control = .busy ⟨owner, inner ++ base⟩ (.reply reply)) :
    machine.control = .busy ⟨owner, inner ++ base⟩ .nothing := by
  cases state with
  | @tells done rest all busy =>
      cases rest with
      | nil => exact busy
      | cons subscription rest => cases (Control.busy.inj (ends.symm.trans busy)).2
  | serves above focus all busy =>
      exact (not_back above [] (busy.symm.trans ends)).elim
  | pauses above all parked => exact (parked.alone sound ends rfl).elim

/-- A publication has begun and is going on. -/
def Publishing (owner : Option TaskId) (inner base : List Frame) (bus : Ref .bus) (event : Value)
    (machine : Machine) : Prop :=
  machine.control = .busy ⟨owner, inner ++ base⟩ (.publish bus event) ∨
    ∃ subscribers log, PublishesAt owner inner base bus event subscribers machine log

/-- Whatever happens in a publication happens above the frames of the publisher. -/
theorem Publishing.above (state : machine.Publishing owner inner base bus event) :
    (∃ upper focus, machine.control = .busy ⟨owner, upper ++ (inner ++ base)⟩ focus) ∨
      ∃ upper, machine.Parked ⟨owner, upper ++ (inner ++ base)⟩ .nothing := by
  rcases state with busy | ⟨subscribers, log, state⟩
  · exact .inl ⟨[], _, busy⟩
  · cases state with
    | tells all busy => exact .inl ⟨[], _, busy⟩
    | @serves done rest subscription above focus all busy =>
        refine .inl ⟨above ++ [.publishing bus event subscription.1 rest], focus, ?_⟩
        rw [busy, List.append_assoc, List.singleton_append]
    | @pauses done rest subscription above all parked =>
        refine .inr ⟨above ++ [.publishing bus event subscription.1 rest], ?_⟩
        rw [List.append_assoc, List.singleton_append]
        exact parked

theorem publishesAt_begun (machine : Machine) (inner : List Frame) (bus : Ref .bus)
    (event : Value) :
    PublishesAt owner inner base bus event (machine.world.buses.get bus).subscribers
      (machine.advance ⟨owner, inner ++ base⟩ (.publish bus event))
      (Telling.publication bus event []) :=
  .tells (List.nil_append _).symm rfl

/-- How far a publication has come in a run: it is still going on, or at some state it came
to its end, and all subscribers had been told by then. -/
inductive Published (owner : Option TaskId) (inner base : List Frame) (bus : Ref .bus)
    (event : Value) (subscribers : List (Nat × Value)) (past : List Machine)
    (machine : Machine) : Prop where
  | begun (none_before : past = [])
      (busy : machine.control = .busy ⟨owner, inner ++ base⟩ (.publish bus event))
      (all : (machine.world.buses.get bus).subscribers = subscribers)
  | goes (whole : ∀ state ∈ past, state.Publishing owner inner base bus event)
      (state : PublishesAt owner inner base bus event subscribers machine
        (past.filterMap (telling? owner base.length)))
  | ended (early : List Machine) (ended : Machine) (late : List Machine)
      (split : past = early ++ ended :: late)
      (whole : ∀ state ∈ early, state.Publishing owner inner base bus event)
      (finished : ended.control = .busy ⟨owner, inner ++ base⟩ .nothing)
      (told : early.filterMap (telling? owner base.length) =
        Telling.publication bus event subscribers)

theorem Published.move (silent : (inner.all fun frame => !frame.isPublishing) = true)
    (published : Published owner inner base bus event subscribers past machine)
    (move : Move machine next) (sound : machine.Sound) (ordinary : machine.ordinaryOn bus = true) :
    Published owner inner base bus event subscribers (past ++ [machine]) next := by
  cases published with
  | begun none_before busy all =>
      subst none_before
      have shown : machine.telling? owner base.length = some (.publishes bus event) := by
        simp [telling?, acts_of_busy busy silent]
      rw [move.of_busy busy]
      refine .goes (by simpa using .inl busy) ?_
      rw [List.nil_append, List.filterMap_cons_some shown, ← all]
      exact publishesAt_begun machine inner bus event
  | goes whole state =>
      by_cases finished : machine.control = .busy ⟨owner, inner ++ base⟩ .nothing
      · exact .ended past machine [] rfl whole finished (state.complete sound finished)
      · refine .goes (List.forall_mem_append.mpr ⟨whole, ?_⟩) ?_
        · exact List.forall_mem_singleton.mpr (.inr ⟨_, _, state⟩)
        · rw [filterMap_snoc]
          exact state.move silent move sound finished ordinary
  | ended early ended late split whole finished told =>
      refine .ended early ended (late ++ [machine]) ?_ whole finished told
      rw [split, List.append_assoc, List.cons_append]

theorem Run.publication (run : Run start past machine) (sound : start.Sound)
    (silent : (inner.all fun frame => !frame.isPublishing) = true)
    (begun : start.control = .busy ⟨owner, inner ++ base⟩ (.publish bus event))
    (ordinary : ∀ state ∈ past, state.ordinaryOn bus = true) :
    Published owner inner base bus event (start.world.buses.get bus).subscribers past machine := by
  induction run with
  | refl => exact .begun rfl begun rfl
  | move run move induction =>
      obtain ⟨earlier, last⟩ := forall_snoc ordinary
      exact (induction earlier).move silent move (run.sound sound) last

end Microboard.Machine
