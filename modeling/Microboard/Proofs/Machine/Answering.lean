import Microboard.Proofs.Machine.Announcing

/-!
# Answering

A call of a board returns if everybody who is served on its behalf does: all that the
call does itself comes to an end.
-/

namespace Microboard.Machine

variable {start machine next : Machine} {owner : Option TaskId}
variable {base inner : List Frame} {board : Board} {todo : List Event}
variable {dispatcher : Ref .dispatcher}

/-- A machine is reached while a call, made above `base`, has not returned. -/
def Reaches (owner : Option TaskId) (base : List Frame) (start machine : Machine) : Prop :=
  ∃ past, Run start past machine ∧ ∀ state ∈ past, ¬ state.Returns owner base

/-- Whoever is served on behalf of a call comes back before the call returns, with what is
dealt with there. -/
def Answered (owner : Option TaskId) (base : List Frame) (start : Machine) : Prop :=
  ∀ machine frame inner focus, Reaches owner base start machine →
    frame.isServing = true → (∀ other ∈ inner, other.isServing = false) →
    machine.control = .busy ⟨owner, frame :: (inner ++ base)⟩ focus →
    ∃ next reply, Reaches owner base machine next ∧
      next.control = .busy ⟨owner, frame :: (inner ++ base)⟩ (.reply reply) ∧
      next.endures frame reply = true

/-- A call returns, and it has not failed. -/
def Completes (owner : Option TaskId) (base : List Frame) (start : Machine) : Prop :=
  ∃ next value, Reaches owner base start next ∧
    next.control = .busy ⟨owner, base⟩ (.reply (.ok value))

theorem Reaches.refl (machine : Machine) : Reaches owner base machine machine :=
  ⟨[], .refl, fun _ member => absurd member List.not_mem_nil⟩

theorem Reaches.trans (first : Reaches owner base start machine)
    (second : Reaches owner base machine next) : Reaches owner base start next := by
  obtain ⟨past, run, going⟩ := first
  obtain ⟨later, further, still⟩ := second
  refine ⟨past ++ later, run.trans further, ?_⟩
  intro state member
  rcases List.mem_append.mp member with early | late
  · exact going state early
  · exact still state late

theorem Reaches.turn {thread : Thread} {focus : Focus}
    (reaches : Reaches owner base start machine) (busy : machine.control = .busy thread focus)
    (going : ¬ machine.Returns owner base) :
    Reaches owner base start (machine.advance thread focus) := by
  obtain ⟨past, run, before⟩ := reaches
  refine ⟨past ++ [machine], run.move (.turn busy), ?_⟩
  intro state member
  rcases List.mem_append.mp member with early | last
  · exact before state early
  · exact List.mem_singleton.mp last ▸ going

theorem going_of_deeper (inner : List Frame) {frame : Frame} {focus : Focus}
    (busy : machine.control = .busy ⟨owner, frame :: (inner ++ base)⟩ focus) :
    ¬ machine.Returns owner base := by
  rintro ⟨reply, ends⟩
  exact not_back [] inner (busy.symm.trans ends)

theorem going_of_other {thread : Thread} {focus : Focus}
    (busy : machine.control = .busy thread focus) (other : focus.isReply = false) :
    ¬ machine.Returns owner base := by
  rintro ⟨reply, ends⟩
  obtain ⟨-, rfl⟩ := Control.busy.inj (busy.symm.trans ends)
  cases other

theorem resume_publishing {bus : Ref .bus} {event : Value} {id : Nat}
    {rest : List (Nat × Value)} {reply : Reply} (world : World)
    (ordinary : ∀ fault, reply = .error fault → fault.isOrdinary = true) :
    (world.resume (.publishing bus event id rest) reply).2 =
      World.publishRest bus event rest := by
  cases reply with
  | ok value => rfl
  | error fault => simp only [World.resume, ordinary fault rfl, if_true]

/-- All subscribers are told, one after the other. -/
theorem Reaches.told (inner : List Frame) {bus : Ref .bus} {event : Value}
    {subscribers : List (Nat × Value)}
    (reaches : Reaches owner base start machine) (answered : Answered owner base start)
    (silent : ∀ frame ∈ inner, frame.isServing = false)
    (busy : machine.control =
      .busy ⟨owner, inner ++ base⟩ (World.publishRest bus event subscribers)) :
    ∃ next, Reaches owner base start next ∧
      next.control = .busy ⟨owner, inner ++ base⟩ .nothing := by
  induction subscribers generalizing machine with
  | nil => exact ⟨machine, reaches, busy⟩
  | cons subscription rest induction =>
      have called := reaches.turn busy (going_of_other busy rfl)
      obtain ⟨next, reply, served, ends, endured⟩ := answered _ _ inner _ called rfl silent rfl
      have ordinary (fault : Fault) (failed : reply = .error fault) : fault.isOrdinary = true := by
        subst failed
        exact endured
      have returned := (called.trans served).turn ends (going_of_deeper inner ends)
      exact induction returned
        (congrArg (Control.busy _) (resume_publishing next.world ordinary))

/-- When a handler has ended, or its work has been handed on, the others are served. -/
theorem Reaches.served {handle : Ref .handle} {rest : List (Ref .handle)} {reply : Reply}
    (reaches : Reaches owner base start machine)
    (busy : machine.control =
      .busy ⟨owner, .pressing dispatcher handle rest :: base⟩ (.reply reply))
    (endured : machine.endures (.pressing dispatcher handle rest) reply = true)
    (further : ∀ {next : Machine} {world : World}, Reaches owner base start next →
      next.control = .busy ⟨owner, base⟩ (world.serve dispatcher rest) →
      Completes owner base start) : Completes owner base start := by
  have returned := reaches.turn busy (going_of_deeper [] busy)
  cases reply with
  | error fault =>
      have kept : fault.escape? = none := Option.isNone_iff_eq_none.mp endured
      simp only [advance, World.resume, kept] at returned
      exact further returned rfl
  | ok value =>
      simp only [advance, World.resume] at returned
      cases awaits : value.work? with
      | none =>
          simp only [awaits] at returned
          exact further returned rfl
      | some work =>
          by_cases looping : machine.world.looping = true
          · simp only [awaits, looping, if_true] at returned
            cases work with
            | future task =>
                have listed : task.index < machine.tasks.length := by
                  simpa [endures, adoptable, awaits, looping] using endured
                have pushed := returned.turn rfl (going_of_other rfl rfl)
                have adopted := pushed.turn rfl (going_of_deeper [] rfl)
                exact further (adopted.turn (control_adopt listed)
                  (going_of_deeper [] (control_adopt listed))) rfl
            | _ =>
                have pushed := returned.turn rfl (going_of_other rfl rfl)
                have handed := pushed.turn rfl (going_of_deeper [] rfl)
                have nothing := handed.turn rfl (going_of_deeper [] rfl)
                exact further nothing rfl
          · simp only [awaits, looping] at returned
            exact further returned rfl

theorem Reaches.completes {value : Value} (reaches : Reaches owner base start machine)
    (busy : machine.control = .busy ⟨owner, base⟩ (.value value)) :
    Completes owner base start :=
  ⟨machine, value, reaches, busy⟩

theorem Reaches.handled {handle : Ref .handle} {rest : List (Ref .handle)}
    (reaches : Reaches owner base start machine) (answered : Answered owner base start)
    (busy : machine.control =
      .busy ⟨owner, base⟩ (.within (.pressing dispatcher handle rest) (.invoke handle)))
    (further : ∀ {next : Machine} {world : World}, Reaches owner base start next →
      next.control = .busy ⟨owner, base⟩ (world.serve dispatcher rest) →
      Completes owner base start) : Completes owner base start := by
  have called := reaches.turn busy (going_of_other busy rfl)
  obtain ⟨next, reply, served, ends, endured⟩ := answered _ _ [] _ called rfl (by simp) rfl
  exact (called.trans served).served ends endured further

theorem Reaches.serves {handles : List (Ref .handle)} {world : World}
    (reaches : Reaches owner base start machine) (answered : Answered owner base start)
    (busy : machine.control = .busy ⟨owner, base⟩ (world.serve dispatcher handles)) :
    Completes owner base start := by
  induction handles generalizing machine world with
  | nil => exact reaches.completes busy
  | cons handle rest induction =>
      unfold World.serve at busy
      split at busy
      next active => exact reaches.handled answered busy induction
      next => exact induction reaches busy

theorem Reaches.owes_nothing {focus : Focus} (reaches : Reaches owner base start machine)
    (answered : Answered owner base start)
    (busy : machine.control = .busy ⟨owner, base⟩ focus) (owes : focus.Owes board []) :
    Completes owner base start := by
  cases owes with
  | returns value => exact reaches.completes busy
  | serves handle rest =>
      exact reaches.handled answered busy fun later busy => later.serves answered busy
  | hands handle rest work notice =>
      have pushed := reaches.turn busy (going_of_other busy rfl)
      have handed := pushed.turn rfl (going_of_deeper [] rfl)
      exact handed.served rfl rfl fun later busy => later.serves answered busy
  | enlists value work notice =>
      have pushed := reaches.turn busy (going_of_other busy rfl)
      have started := pushed.turn rfl (going_of_deeper [] rfl)
      have resumed := started.turn rfl (going_of_deeper [] rfl)
      exact (resumed.turn rfl (going_of_other rfl rfl)).completes rfl
  | finishes value =>
      exact (reaches.turn busy (going_of_other busy rfl)).completes rfl

/-- Whatever a call owes, it comes to its end. -/
theorem Reaches.owes {focus : Focus} (reaches : Reaches owner base start machine)
    (sound : start.Sound) (wired : start.world.Wired board)
    (answered : Answered owner base start)
    (busy : machine.control = .busy ⟨owner, base⟩ focus) (owes : focus.Owes board todo) :
    Completes owner base start := by
  induction todo generalizing machine focus with
  | nil => exact reaches.owes_nothing answered busy owes
  | cons event rest induction =>
      cases owes with
      | publishes event identity =>
          have publishing := reaches.turn busy (going_of_other busy rfl)
          obtain ⟨next, told, ends⟩ :=
            publishing.told [] answered (by simp) rfl
          exact told.completes ends
      | opens event identity leads =>
          have pushed := reaches.turn busy (going_of_other busy rfl)
          have publishing := pushed.turn rfl (going_of_deeper [] rfl)
          obtain ⟨next, told, ends⟩ :=
            publishing.told [_] answered (silent_of_leads leads) rfl
          have resumed := told.turn ends (going_of_deeper [] ends)
          obtain ⟨past, run, -⟩ := told
          have owes := World.resume_owes (wired.grows (run.grows sound)) leads .none
          exact induction resumed rfl owes

end Microboard.Machine
