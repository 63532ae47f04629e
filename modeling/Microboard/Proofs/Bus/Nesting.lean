import Microboard.Proofs.Machine.Keeping
import Microboard.Proofs.Machine.Telling

/-!
# The nesting of publications

A thread that publishes an event calls one subscriber after the other, and each of them may
publish on its own.  What a publication is seen to do in its thread is properly nested: all
that is published between the call of a subscriber and its answer has been delivered by
then.

The log is read backwards.  For every frame that still waits for an answer, `Follows` says
what may be seen from there to the end; a move adds what it shows in front of that.
-/

namespace Microboard

/-- What is seen of publications in a thread: one begins, a subscriber is called, a
subscriber answers. -/
inductive Cue where
  | opens (bus : Ref .bus) (event : Value) (subscribers : List (Nat × Value))
  | calls (bus : Ref .bus) (event : Value) (id : Nat) (subscriber : Value)
      (arguments : Arguments)
  | returns (bus : Ref .bus) (event : Value) (id : Nat) (reply : Reply)

/-- The fault that ends a publication: one that is not ordinary. -/
def Reply.Aborts (reply : Reply) : Prop :=
  ∃ fault, reply = .error fault ∧ fault.isOrdinary = false

mutual

/-- Publications, one after the other, each with all its deliveries. -/
inductive Nested : List Cue → Prop where
  | none : Nested []
  | publication {bus : Ref .bus} {event : Value} {subscribers : List (Nat × Value)}
      {inside rest : List Cue} (deliveries : Delivered bus event subscribers inside)
      (others : Nested rest) : Nested (.opens bus event subscribers :: (inside ++ rest))

/-- The deliveries of an event to subscribers, one after the other, and what each of them
publishes itself. -/
inductive Delivered : Ref .bus → Value → List (Nat × Value) → List Cue → Prop where
  | none (bus : Ref .bus) (event : Value) : Delivered bus event [] []
  | answers {bus : Ref .bus} {event : Value} {id : Nat} {subscriber : Value}
      {rest : List (Nat × Value)} {inside later : List Cue} {reply : Reply}
      (own : Nested inside) (goesOn : ¬ reply.Aborts) (others : Delivered bus event rest later) :
      Delivered bus event ((id, subscriber) :: rest)
        (.calls bus event id subscriber (.single event) ::
          (inside ++ .returns bus event id reply :: later))
  | aborts {bus : Ref .bus} {event : Value} {id : Nat} {subscriber : Value}
      {rest : List (Nat × Value)} {inside : List Cue} {reply : Reply}
      (own : Nested inside) (aborted : reply.Aborts) :
      Delivered bus event ((id, subscriber) :: rest)
        (.calls bus event id subscriber (.single event) ::
          (inside ++ [.returns bus event id reply]))

end

theorem Nested.append {first second : List Cue} : Nested first → Nested second →
    Nested (first ++ second)
  | .none, later => later
  | .publication deliveries others, later => by
      rw [List.cons_append, List.append_assoc]
      exact .publication deliveries (others.append later)

theorem Delivered.nested {bus : Ref .bus} {event : Value} {subscribers : List (Nat × Value)}
    {inside : List Cue} (deliveries : Delivered bus event subscribers inside) :
    Nested (.opens bus event subscribers :: inside) := by
  simpa using Nested.publication deliveries .none

/-- What may be seen from the answer to the topmost frame on, until the last is answered. -/
inductive Follows : List Frame → List Cue → Prop where
  | done : Follows [] []
  | answers {bus : Ref .bus} {event : Value} {id : Nat} {rest : List (Nat × Value)}
      {below : List Frame} {later more : List Cue} {reply : Reply} (goesOn : ¬ reply.Aborts)
      (others : Delivered bus event rest later) (after : Follows below more) :
      Follows (.publishing bus event id rest :: below)
        (.returns bus event id reply :: (later ++ more))
  | aborts {bus : Ref .bus} {event : Value} {id : Nat} {rest : List (Nat × Value)}
      {below : List Frame} {more : List Cue} {reply : Reply} (aborted : reply.Aborts)
      (after : Follows below more) :
      Follows (.publishing bus event id rest :: below) (.returns bus event id reply :: more)
  | passes {frame : Frame} {below : List Frame} {inside more : List Cue}
      (quiet : frame.isPublishing = false) (own : Nested inside) (after : Follows below more) :
      Follows (frame :: below) (inside ++ more)

/-- What may be seen while something goes on above the frames. -/
def Inside (above : List Frame) (tail : List Cue) : Prop :=
  ∃ inside more, Nested inside ∧ Follows above more ∧ tail = inside ++ more

/-- What may be seen while subscribers are still to be called. -/
def Delivers (bus : Ref .bus) (event : Value) (rest : List (Nat × Value)) (above : List Frame)
    (tail : List Cue) : Prop :=
  ∃ inside more, Delivered bus event rest inside ∧ Follows above more ∧ tail = inside ++ more

variable {bus : Ref .bus} {event : Value} {rest : List (Nat × Value)}
variable {above : List Frame} {frame : Frame} {tail : List Cue}

theorem Follows.inside (follows : Follows above tail) : Inside above tail :=
  ⟨[], tail, .none, follows, rfl⟩

theorem Follows.delivers (follows : Follows above tail) : Delivers bus event [] above tail :=
  ⟨[], tail, .none bus event, follows, rfl⟩

theorem Inside.passes (quiet : frame.isPublishing = false) (goes : Inside above tail) :
    Follows (frame :: above) tail := by
  obtain ⟨inside, more, own, after, rfl⟩ := goes
  exact .passes quiet own after

/-- What happens above a frame that publishes nothing happens above those below it. -/
theorem Inside.below (quiet : frame.isPublishing = false) (goes : Inside (frame :: above) tail) :
    Inside above tail := by
  obtain ⟨first, later, own, follows, rfl⟩ := goes
  cases follows with
  | passes _ more after => exact ⟨_, _, own.append more, after, (List.append_assoc _ _ _).symm⟩
  | answers | aborts => cases quiet

theorem Delivers.answered {id : Nat} {reply : Reply} (goesOn : ¬ reply.Aborts)
    (delivers : Delivers bus event rest above tail) :
    Follows (.publishing bus event id rest :: above) (.returns bus event id reply :: tail) := by
  obtain ⟨inside, more, deliveries, after, rfl⟩ := delivers
  exact .answers goesOn deliveries after

theorem Delivers.opened (delivers : Delivers bus event rest above tail) :
    Inside above (.opens bus event rest :: tail) := by
  obtain ⟨inside, more, deliveries, after, rfl⟩ := delivers
  exact ⟨_, more, deliveries.nested, after, rfl⟩

/-- The call of a subscriber, what it does, its answer and the other deliveries are one
delivery after the other. -/
theorem Inside.called {id : Nat} (subscriber : Value)
    (goes : Inside (.publishing bus event id rest :: above) tail) :
    Delivers bus event ((id, subscriber) :: rest) above
      (.calls bus event id subscriber (.single event) :: tail) := by
  obtain ⟨inside, later, own, follows, rfl⟩ := goes
  cases follows with
  | answers goesOn others after =>
      exact ⟨_, _, .answers own goesOn others, after, by simp⟩
  | aborts aborted after => exact ⟨_, _, .aborts own aborted, after, by simp⟩
  | passes quiet => cases quiet

/-- What a turn of a thread shows of publications. -/
def Focus.cue? (world : World) (stack : List Frame) : Focus → Option Cue
  | .publish bus event => some (.opens bus event (world.buses.get bus).subscribers)
  | .within (.publishing bus event id _) (.call subscriber arguments) =>
    some (.calls bus event id subscriber arguments)
  | .reply answer =>
    match stack with
    | .publishing bus event id _ :: _ => some (.returns bus event id answer)
    | _ => none
  | _ => none

theorem Focus.cue?_of_quiet {focus : Focus} {stack : List Frame} (world : World)
    (quiet : focus.publishes stack = false) : focus.cue? world stack = none := by
  unfold cue?
  split
  · cases quiet
  · cases quiet
  · split
    · cases quiet
    · rfl
  · rfl

namespace Machine

variable {start machine next : Machine} {past : List Machine} {owner : Option TaskId}
variable {base : List Frame} {expects : List Cue → Prop}

/-- What a state shows of the publications of a thread. -/
def cue? (owner : Option TaskId) (machine : Machine) : Option Cue :=
  match machine.control with
  | .idle => none
  | .busy thread focus =>
    if thread.owner = owner then focus.cue? machine.world thread.stack else none

theorem cue?_of_busy {stack : List Frame} {focus : Focus}
    (busy : machine.control = .busy ⟨owner, stack⟩ focus) :
    machine.cue? owner = focus.cue? machine.world stack := by
  simp [cue?, busy]

theorem cue?_of_parked {thread : Thread} {focus : Focus} (parked : machine.Parked thread focus)
    (sound : machine.Sound) (own : thread.owner = owner) : machine.cue? owner = none := by
  unfold cue?
  cases control : machine.control with
  | idle => rfl
  | busy other running =>
      have differs := parked.alone sound control
      simp [own ▸ differs]

/-- The shapes of a machine with a thread above some frames, and what may still be seen of
the thread until they get their answer. -/
inductive NestsAt (owner : Option TaskId) (base : List Frame) (machine : Machine) :
    (List Cue → Prop) → Prop where
  | goes (above : List Frame) (focus : Focus) (silent : focus.delivers = false)
      (busy : machine.control = .busy ⟨owner, above ++ base⟩ focus) :
      NestsAt owner base machine (Inside above)
  | replies (above : List Frame) (reply : Reply)
      (busy : machine.control = .busy ⟨owner, above ++ base⟩ (.reply reply)) :
      NestsAt owner base machine (Follows above)
  | tells (above : List Frame) (bus : Ref .bus) (event : Value) (rest : List (Nat × Value))
      (busy : machine.control = .busy ⟨owner, above ++ base⟩ (World.publishRest bus event rest)) :
      NestsAt owner base machine (Delivers bus event rest above)
  | pauses (above : List Frame) (parked : machine.Parked ⟨owner, above ++ base⟩ .nothing) :
      NestsAt owner base machine (Inside above)

/-- A move leads to a shape again, and what it shows goes before all that is seen later. -/
def Nests (owner : Option TaskId) (base : List Frame) (machine next : Machine)
    (expects : List Cue → Prop) : Prop :=
  ∃ later, NestsAt owner base next later ∧
    ∀ tail, later tail → expects ((machine.cue? owner).toList ++ tail)

theorem Nests.weaken {wider : List Cue → Prop} (nests : Nests owner base machine next expects)
    (wide : ∀ tail, expects tail → wider tail) : Nests owner base machine next wider := by
  obtain ⟨later, state, shows⟩ := nests
  exact ⟨later, state, fun tail follows => wide _ (shows tail follows)⟩

/-- A subscriber has answered. -/
theorem nests_answer {above : List Frame} {bus : Ref .bus} {event : Value} {id : Nat}
    {rest : List (Nat × Value)} {reply : Reply}
    (busy : machine.control =
      .busy ⟨owner, .publishing bus event id rest :: (above ++ base)⟩ (.reply reply)) :
    Nests owner base machine
      (machine.go ⟨owner, above ++ base⟩
        (machine.world.resume (.publishing bus event id rest) reply))
      (Follows (.publishing bus event id rest :: above)) := by
  have shown : (machine.cue? owner).toList = [.returns bus event id reply] := by
    rw [cue?_of_busy busy]
    rfl
  rcases World.resume_publishing_cases machine.world bus event id rest reply with
    ⟨value, rfl, same⟩ | ⟨fault, rfl, ordinary, same⟩ | ⟨fault, rfl, unusual, same⟩
  · rw [same]
    refine ⟨_, .tells above bus event rest rfl, fun tail delivers => ?_⟩
    rw [shown]
    refine delivers.answered ?_
    rintro ⟨fault, failed, -⟩
    cases failed
  · rw [same]
    refine ⟨_, .tells above bus event rest rfl, fun tail delivers => ?_⟩
    rw [shown]
    refine delivers.answered ?_
    rintro ⟨other, failed, unusual⟩
    cases failed
    rw [ordinary] at unusual
    cases unusual
  · rw [same]
    refine ⟨_, .replies above (.error fault) rfl, fun tail follows => ?_⟩
    rw [shown]
    exact .aborts ⟨fault, rfl, unusual⟩ follows

/-- A frame gets its answer. -/
theorem nests_reply {above : List Frame} {frame : Frame} {reply : Reply}
    (busy : machine.control = .busy ⟨owner, frame :: (above ++ base)⟩ (.reply reply)) :
    Nests owner base machine
      (machine.go ⟨owner, above ++ base⟩ (machine.world.resume frame reply))
      (Follows (frame :: above)) := by
  cases quiet : frame.isPublishing with
  | false =>
      have lasts : World.Lasts (fun _ _ => True) machine.world (machine.world.resume frame reply) :=
        World.resume_lasts World.lasting_anything quiet reply
      have unseen : machine.cue? owner = none := by
        rw [cue?_of_busy busy]
        exact Focus.cue?_of_quiet _ quiet
      refine ⟨_, .goes above _ lasts.silent rfl, fun tail inside => ?_⟩
      rw [unseen]
      exact inside.passes quiet
  | true =>
      cases frame with
      | publishing bus event id rest => exact nests_answer busy
      | _ => cases quiet

/-- The answer to the topmost frame; the last of them has not been answered before. -/
theorem NestsAt.reply {above : List Frame} {reply : Reply}
    (busy : machine.control = .busy ⟨owner, above ++ base⟩ (.reply reply))
    (going : ¬ machine.Returns owner base) :
    Nests owner base machine (machine.advance ⟨owner, above ++ base⟩ (.reply reply))
      (Follows above) := by
  cases above with
  | nil => exact absurd ⟨reply, busy⟩ going
  | cons frame above => exact nests_reply busy

/-- An event is published. -/
theorem nests_publish {above : List Frame} {bus : Ref .bus} {event : Value}
    (busy : machine.control = .busy ⟨owner, above ++ base⟩ (.publish bus event)) :
    Nests owner base machine (machine.advance ⟨owner, above ++ base⟩ (.publish bus event))
      (Inside above) := by
  refine ⟨_, .tells above bus event (machine.world.buses.get bus).subscribers rfl, ?_⟩
  intro tail delivers
  rw [cue?_of_busy busy]
  exact delivers.opened

/-- A turn in which no subscriber has a part. -/
theorem nests_quiet {above : List Frame} {focus : Focus} (sound : machine.Sound)
    (busy : machine.control = .busy ⟨owner, above ++ base⟩ focus)
    (quiet : focus.publishes (above ++ base) = false) (reply : ∀ reply, focus ≠ .reply reply) :
    Nests owner base machine (machine.advance ⟨owner, above ++ base⟩ focus) (Inside above) := by
  have proceeds : Proceeds (fun _ _ => True) machine owner (focus.leaves (above ++ base))
      (machine.advance ⟨owner, above ++ base⟩ focus) :=
    advance_proceeds World.lasting_anything quiet (sound.focus _ _ busy)
      (fun _ _ _ _ => trivial) fun answer same => absurd same (reply answer)
  have unseen : machine.cue? owner = none := by
    rw [cue?_of_busy busy]
    exact Focus.cue?_of_quiet _ quiet
  obtain ⟨frames, leaves, below⟩ : ∃ frames, focus.leaves (above ++ base) = frames ++ base ∧
      ∀ tail, Inside frames tail → Inside above tail := by
    cases focus with
    | reply answer => exact absurd rfl (reply answer)
    | within frame focus =>
        exact ⟨frame :: above, rfl, fun tail inside =>
          inside.below (Bool.or_eq_false_iff.mp quiet).1⟩
    | _ => exact ⟨above, rfl, fun tail inside => inside⟩
  rw [leaves] at proceeds
  unfold Nests
  rw [unseen]
  cases proceeds with
  | goes after _ control silent => exact ⟨_, .goes frames after silent control, below⟩
  | parks _ control parked => exact ⟨_, .pauses frames parked, below⟩

theorem NestsAt.move (state : NestsAt owner base machine expects) (move : Move machine next)
    (sound : machine.Sound) (going : ¬ machine.Returns owner base) :
    Nests owner base machine next expects := by
  cases state with
  | goes above focus silent busy =>
      rw [move.of_busy busy]
      cases focus with
      | reply reply => exact (NestsAt.reply busy going).weaken fun tail => Follows.inside
      | publish bus event => exact nests_publish busy
      | _ => exact nests_quiet sound busy silent fun _ => Focus.noConfusion
  | replies above reply busy =>
      rw [move.of_busy busy]
      exact NestsAt.reply busy going
  | tells above bus event rest busy =>
      rw [move.of_busy busy]
      cases rest with
      | nil => exact (NestsAt.reply busy going).weaken fun tail => Follows.delivers
      | cons subscription rest =>
          obtain ⟨id, subscriber⟩ := subscription
          refine ⟨_, .goes (.publishing bus event id rest :: above)
            (.call subscriber (.single event)) rfl rfl, fun tail inside => ?_⟩
          rw [cue?_of_busy busy]
          exact inside.called subscriber
  | pauses above parked =>
      have unseen := cue?_of_parked parked sound rfl
      unfold Nests
      rw [unseen]
      rcases parked.move move sound with still | busy
      · exact ⟨_, .pauses above still, fun tail inside => inside⟩
      · exact ⟨_, .goes above .nothing rfl busy, fun tail inside => inside⟩

theorem Run.nests (run : Run start past machine) (sound : start.Sound)
    (begun : NestsAt owner base start expects)
    (going : ∀ state ∈ past, ¬ state.Returns owner base) :
    ∃ later, NestsAt owner base machine later ∧
      ∀ tail, later tail → expects (past.filterMap (cue? owner) ++ tail) := by
  induction run with
  | refl => exact ⟨expects, begun, fun tail follows => follows⟩
  | @move past machine next run move induction =>
      obtain ⟨earlier, last⟩ := forall_snoc going
      obtain ⟨middle, state, before⟩ := induction earlier
      obtain ⟨later, state, shows⟩ := state.move move (run.sound sound) last
      refine ⟨later, state, fun tail follows => ?_⟩
      rw [filterMap_snoc, List.append_assoc]
      exact before _ (shows tail follows)

theorem NestsAt.finished (state : NestsAt owner base machine expects) (sound : machine.Sound)
    (returns : machine.Returns owner base) : expects [] := by
  obtain ⟨reply, finished⟩ := returns
  have done {above : List Frame} {focus : Focus}
      (busy : machine.control = .busy ⟨owner, above ++ base⟩ focus) : Follows above [] := by
    have depths := depth_of_busy (busy.symm.trans finished)
    simp only [List.length_append] at depths
    rw [List.length_eq_zero_iff.mp (show above.length = 0 by omega)]
    exact .done
  cases state with
  | goes above focus silent busy => exact (done busy).inside
  | replies above reply busy => exact done busy
  | tells above bus event rest busy =>
      cases rest with
      | nil => exact (done busy).delivers
      | cons subscription rest =>
          cases (Control.busy.inj (finished.symm.trans busy)).2
  | pauses above parked => exact (parked.alone sound finished rfl).elim

/-- Once subscribers have been told, all that was seen of publications in the thread are
their deliveries, with all that is nested in them. -/
theorem Run.nested {bus : Ref .bus} {event : Value} {subscribers : List (Nat × Value)}
    (run : Run start past machine) (sound : start.Sound)
    (begun : start.control = .busy ⟨owner, base⟩ (World.publishRest bus event subscribers))
    (going : ∀ state ∈ past, ¬ state.Returns owner base)
    (returns : machine.Returns owner base) :
    Delivered bus event subscribers (past.filterMap (cue? owner)) := by
  obtain ⟨later, state, shows⟩ := run.nests sound (.tells [] bus event subscribers begun) going
  have all := shows [] (state.finished (run.sound sound) returns)
  rw [List.append_nil] at all
  obtain ⟨inside, more, deliveries, follows, same⟩ := all
  cases follows
  rw [same, List.append_nil]
  exact deliveries

end Machine

end Microboard
