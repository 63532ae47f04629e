import Microboard.Proofs.Machine.Announcing

/-!
# Serving handlers

A press calls handlers one after the other.  Whatever they do to the lists of the
dispatcher, to its handles or to other presses meanwhile, each of them has its turn once: it
is skipped if its handle is not active by then, and called if it is.  Work that it gives back
is handed to the loop as one task; a future is such a task already.

As with the nesting of publications, the log is read backwards: for every state there is
what may be seen from there to the end, and a move adds what it shows in front of that.
-/

namespace Microboard

/-- What a press is seen to do about handlers: it calls one in a world, is given work by it
while an event loop is running or not, and is about to start a task for that work or to take
on the task that it is. -/
inductive Beat where
  | calls (handle : Ref .handle) (world : World)
  | gives (handle : Ref .handle) (work : Work) (looping : Bool)
  | starts (handle : Ref .handle) (work : Work) (task : TaskId)
  | adopts (handle : Ref .handle) (task : TaskId)

/-- What becomes of the work that a handler gives back, if it gives any.  While a loop is
running, it is started once, or taken on once if it is a task; without a loop it is refused. -/
inductive Handed (handle : Ref .handle) : List Beat → Prop where
  | nothing : Handed handle []
  | started (work : Work) (task : TaskId) (fresh : ∀ other, work ≠ .future other) :
      Handed handle [.gives handle work true, .starts handle work task]
  | adopted (task : TaskId) : Handed handle [.gives handle (.future task) true, .adopts handle task]
  | refused (work : Work) : Handed handle [.gives handle work false]

/-- Handlers have their turns in order.  Those that are called are active then; those that
are skipped are not active when the next one is called, or in the end. -/
inductive Served (final : World) : List (Ref .handle) → List Beat → Prop where
  | done {handles : List (Ref .handle)}
      (skipped : ∀ handle ∈ handles, (final.handles.get handle).isActive = false) :
      Served final handles []
  | called {passed rest : List (Ref .handle)} {handle : Ref .handle} {world : World}
      {given later : List Beat}
      (skipped : ∀ other ∈ passed, (world.handles.get other).isActive = false)
      (active : (world.handles.get handle).isActive = true)
      (handed : Handed handle given) (others : Served final rest later) :
      Served final (passed ++ handle :: rest) (.calls handle world :: (given ++ later))

/-- What may be seen while a handler is at work. -/
def Works (handle : Ref .handle) (rest : List (Ref .handle)) (final : World)
    (tail : List Beat) : Prop :=
  ∃ given later, Handed handle given ∧ Served final rest later ∧
    tail = given ++ later

/-- What may be seen when a handler is about to be called. -/
def Calls (handle : Ref .handle) (rest : List (Ref .handle)) (world final : World)
    (tail : List Beat) : Prop :=
  ∃ later, Works handle rest final later ∧ tail = .calls handle world :: later

/-- What may be seen when work is about to be handed on. -/
def Starts (handle : Ref .handle) (work : Work) (rest : List (Ref .handle))
    (final : World) (tail : List Beat) : Prop :=
  ∃ task later, Served final rest later ∧ tail = .starts handle work task :: later

/-- What may be seen when a task is about to be taken on. -/
def Adopts (handle : Ref .handle) (task : TaskId) (rest : List (Ref .handle)) (final : World)
    (tail : List Beat) : Prop :=
  ∃ later, Served final rest later ∧ tail = .adopts handle task :: later

def Ends (world final : World) (tail : List Beat) : Prop :=
  final = world ∧ tail = []

namespace World

variable (world : World)

/-- Serving finds the first handler that is active, if there is one. -/
theorem serve_cases (target : Ref .dispatcher) (handles : List (Ref .handle)) :
    (∃ passed handle rest, handles = passed ++ handle :: rest ∧
      (∀ other ∈ passed, (world.handles.get other).isActive = false) ∧
      (world.handles.get handle).isActive = true ∧
      world.serve target handles = .within (.pressing target handle rest) (.invoke handle)) ∨
    (∀ handle ∈ handles, (world.handles.get handle).isActive = false) ∧
      world.serve target handles = .nothing := by
  induction handles with
  | nil => exact .inr ⟨fun _ member => absurd member List.not_mem_nil, rfl⟩
  | cons first rest induction =>
      by_cases active : (world.handles.get first).isActive = true
      · refine .inl ⟨[], first, rest, rfl, ?_, active, ?_⟩
        · exact fun _ member => absurd member List.not_mem_nil
        · rw [serve, if_pos active]
      · have inert := Bool.eq_false_iff.mpr active
        rw [serve, if_neg active]
        rcases induction with ⟨passed, handle, later, rfl, skipped, found, same⟩ | ⟨skipped, same⟩
        · exact .inl ⟨first :: passed, handle, later, rfl,
            List.forall_mem_cons.mpr ⟨inert, skipped⟩, found, same⟩
        · exact .inr ⟨List.forall_mem_cons.mpr ⟨inert, skipped⟩, same⟩

theorem handOn_of_fresh {target : Ref .dispatcher} {handle : Ref .handle}
    {rest : List (Ref .handle)} {work : Work} (fresh : ∀ task, work ≠ .future task) :
    handOn target handle rest work =
      .within (.pressing target handle rest) (.start work (.handlerEnded target handle)) := by
  cases work with
  | future task => exact absurd rfl (fresh task)
  | _ => rfl

/-- After a handler whose fault has been dealt with the others are served, or its work is
handed on. -/
theorem resume_pressing_cases (target : Ref .dispatcher) (handle : Ref .handle)
    (rest : List (Ref .handle)) {reply : Reply}
    (kept : ∀ fault, reply = .error fault → fault.escape? = none) :
    (∃ next : World, world.resume (.pressing target handle rest) reply =
        (next, next.serve target rest) ∧
      ∀ work, reply = .ok (.awaitable work) → world.looping = false) ∨
    ∃ work, reply = .ok (.awaitable work) ∧ world.looping = true ∧
      world.resume (.pressing target handle rest) reply =
        (world, handOn target handle rest work) := by
  cases reply with
  | error fault =>
      refine .inl ⟨world.noteFailure .buttons "Error in button handler: " handle fault, ?_, ?_⟩
      · simp only [resume, kept fault rfl]
      · rintro work ⟨⟩
  | ok value =>
      cases awaits : value.work? with
      | none =>
          refine .inl ⟨world, ?_, ?_⟩
          · simp only [resume, awaits]
          · rintro work ⟨⟩
            cases awaits
      | some work =>
          obtain rfl : value = .awaitable work := by
            unfold Value.work? at awaits
            split at awaits <;> cases awaits
            rfl
          cases looping : world.looping with
          | true =>
              refine .inr ⟨work, rfl, rfl, ?_⟩
              simp only [resume, Value.work?, looping, if_true]
          | false =>
              refine .inl ⟨world.noteFailure .buttons "Error in button handler: " handle
                (.complaint .noEventLoop), ?_, fun _ _ => rfl⟩
              simp only [resume, Value.work?, looping, Bool.false_eq_true, if_false]

end World

/-- What a press shows in its own thread, at the depth of its own stack. -/
def Focus.handing? (world : World) (tasks : Nat) : Focus → Option Beat
  | .within (.pressing ..) (.invoke handle) => some (.calls handle world)
  | .within (.pressing _ handle _) (.start work _) => some (.starts handle work ⟨tasks⟩)
  | .within (.serving ..) (.adopt task _ handle) => some (.adopts handle task)
  | _ => none

/-- What the answer of a handler shows. -/
def Focus.given? (looping : Bool) (frame : Frame) (focus : Focus) : Option Beat :=
  match frame, focus with
  | .pressing _ handle _, .reply (.ok (.awaitable work)) => some (.gives handle work looping)
  | _, _ => none

theorem Focus.given?_of_refused {target : Ref .dispatcher} {handle : Ref .handle}
    {rest : List (Ref .handle)} {focus : Focus} {looping : Bool}
    (refused : ∀ work, focus ≠ .reply (.ok (.awaitable work))) :
    focus.given? looping (.pressing target handle rest) = none := by
  unfold given?
  split
  · exact absurd rfl (refused _)
  · rfl

namespace Machine

variable {start machine next : Machine} {past : List Machine} {owner : Option TaskId}
variable {base : List Frame} {target : Ref .dispatcher}
variable {expects : World → List Beat → Prop}

/-- What a state shows of a press that an owner's thread has made at a depth of its stack. -/
def beat? (owner : Option TaskId) (depth : Nat) (machine : Machine) : Option Beat :=
  match machine.control with
  | .idle => none
  | .busy ⟨own, stack⟩ focus =>
    if own ≠ owner then none
    else if stack.length = depth then focus.handing? machine.world machine.tasks.length
    else if stack.length = depth + 1 then (stack.head?).bind (focus.given? machine.world.looping)
    else none

theorem beat?_of_busy {focus : Focus} (busy : machine.control = .busy ⟨owner, base⟩ focus) :
    machine.beat? owner base.length = focus.handing? machine.world machine.tasks.length := by
  simp [beat?, busy]

theorem beat?_of_above {upper : List Frame} {frame : Frame} {focus : Focus}
    (busy : machine.control = .busy ⟨owner, upper ++ frame :: base⟩ focus)
    (silent : upper = [] → focus.given? machine.world.looping frame = none) :
    machine.beat? owner base.length = none := by
  cases upper with
  | nil => simp [beat?, busy, silent rfl]
  | cons top upper =>
      have deep : upper.length + (base.length + 1) + 1 ≠ base.length := by omega
      have deeper : upper.length + (base.length + 1) ≠ base.length := by omega
      simp [beat?, busy, deep, deeper]

theorem beat?_of_answer {frame : Frame} {focus : Focus}
    (busy : machine.control = .busy ⟨owner, frame :: base⟩ focus) :
    machine.beat? owner base.length = focus.given? machine.world.looping frame := by
  simp [beat?, busy]

theorem beat?_of_parked {thread : Thread} {focus : Focus} {depth : Nat}
    (parked : machine.Parked thread focus) (sound : machine.Sound) (own : thread.owner = owner) :
    machine.beat? owner depth = none := by
  unfold beat?
  cases control : machine.control with
  | idle => rfl
  | busy other running =>
      have differs := parked.alone sound control
      exact if_pos fun same => differs (same.trans own.symm)

/-- The shapes that a machine has while a press, made above `base`, serves handlers, and what
may still be seen of it. -/
inductive ServesAt (owner : Option TaskId) (base : List Frame) (target : Ref .dispatcher)
    (machine : Machine) : (World → List Beat → Prop) → Prop where
  | calls {handle : Ref .handle} {rest : List (Ref .handle)}
      (active : (machine.world.handles.get handle).isActive = true)
      (busy : machine.control =
        .busy ⟨owner, base⟩ (.within (.pressing target handle rest) (.invoke handle))) :
      ServesAt owner base target machine (Calls handle rest machine.world)
  | works (upper : List Frame) {handle : Ref .handle} {rest : List (Ref .handle)} {focus : Focus}
      (busy : machine.control =
        .busy ⟨owner, upper ++ .pressing target handle rest :: base⟩ focus) :
      ServesAt owner base target machine (Works handle rest)
  | pauses (upper : List Frame) {handle : Ref .handle} {rest : List (Ref .handle)}
      (parked : machine.Parked ⟨owner, upper ++ .pressing target handle rest :: base⟩ .nothing) :
      ServesAt owner base target machine (Works handle rest)
  | hands {handle : Ref .handle} {rest : List (Ref .handle)} {work : Work}
      (fresh : ∀ task, work ≠ .future task)
      (busy : machine.control = .busy ⟨owner, base⟩
        (.within (.pressing target handle rest) (.start work (.handlerEnded target handle)))) :
      ServesAt owner base target machine (Starts handle work rest)
  | starts {handle : Ref .handle} {rest : List (Ref .handle)} {work : Work}
      (busy : machine.control = .busy ⟨owner, .pressing target handle rest :: base⟩
        (.start work (.handlerEnded target handle))) :
      ServesAt owner base target machine fun final => Served final rest
  | started {handle : Ref .handle} {rest : List (Ref .handle)}
      (busy : machine.control =
        .busy ⟨owner, .pressing target handle rest :: base⟩ .nothing) :
      ServesAt owner base target machine fun final => Served final rest
  | adopts {handle : Ref .handle} {rest : List (Ref .handle)} {task : TaskId}
      (listed : task.index < machine.tasks.length)
      (busy : machine.control = .busy ⟨owner, base⟩
        (.within (.serving target rest) (.adopt task target handle))) :
      ServesAt owner base target machine (Adopts handle task rest)
  | adopting {handle : Ref .handle} {rest : List (Ref .handle)} {task : TaskId}
      (listed : task.index < machine.tasks.length)
      (busy : machine.control = .busy ⟨owner, .serving target rest :: base⟩
        (.adopt task target handle)) :
      ServesAt owner base target machine fun final => Served final rest
  | adopted {rest : List (Ref .handle)}
      (busy : machine.control = .busy ⟨owner, .serving target rest :: base⟩ .nothing) :
      ServesAt owner base target machine fun final => Served final rest
  | ends (busy : machine.control = .busy ⟨owner, base⟩ .nothing) :
      ServesAt owner base target machine (Ends machine.world)

/-- A move leads to a shape again, and what it shows goes before all that is seen later. -/
def ServesNext (owner : Option TaskId) (base : List Frame) (target : Ref .dispatcher)
    (machine next : Machine) (expects : World → List Beat → Prop) : Prop :=
  ∃ later, ServesAt owner base target next later ∧
    ∀ final tail, later final tail →
      expects final ((machine.beat? owner base.length).toList ++ tail)

/-- The handlers that are left have their turns. -/
theorem servesAt_serve {rest : List (Ref .handle)}
    (busy : machine.control = .busy ⟨owner, base⟩ (machine.world.serve target rest)) :
    ∃ later, ServesAt owner base target machine later ∧
      ∀ final tail, later final tail → Served final rest tail := by
  rcases machine.world.serve_cases target rest with
    ⟨passed, handle, others, rfl, skipped, active, same⟩ | ⟨skipped, same⟩
  · refine ⟨_, .calls active (busy.trans (congrArg _ same)), ?_⟩
    rintro final _ ⟨_, ⟨given, later, handed, served, rfl⟩, rfl⟩
    exact .called skipped active handed served
  · refine ⟨_, .ends (busy.trans (congrArg _ same)), ?_⟩
    rintro final _ ⟨rfl, rfl⟩
    exact .done skipped

/-- What a handler has given back is handed on. -/
theorem servesAt_handOn {handle : Ref .handle} {rest : List (Ref .handle)} {work : Work}
    (listed : ∀ task, work = .future task → task.index < machine.tasks.length)
    (busy : machine.control = .busy ⟨owner, base⟩ (World.handOn target handle rest work)) :
    ∃ later, ServesAt owner base target machine later ∧
      ∀ final tail, later final tail →
        Works handle rest final (.gives handle work true :: tail) := by
  by_cases future : ∃ task, work = .future task
  · obtain ⟨task, rfl⟩ := future
    refine ⟨_, .adopts (listed task rfl) busy, ?_⟩
    rintro final _ ⟨later, served, rfl⟩
    exact ⟨_, later, .adopted task, served, rfl⟩
  · have fresh (task : TaskId) : work ≠ .future task := fun same => future ⟨task, same⟩
    rw [World.handOn_of_fresh fresh] at busy
    refine ⟨_, .hands fresh busy, ?_⟩
    rintro final _ ⟨task, later, served, rfl⟩
    exact ⟨_, later, .started work task fresh, served, rfl⟩

/-- A handler has ended. -/
theorem serves_answer {handle : Ref .handle} {rest : List (Ref .handle)} {reply : Reply}
    (busy : machine.control =
      .busy ⟨owner, .pressing target handle rest :: base⟩ (.reply reply))
    (endured : machine.endures (.pressing target handle rest) reply = true) :
    ServesNext owner base target machine
      (machine.go ⟨owner, base⟩ (machine.world.resume (.pressing target handle rest) reply))
      (Works handle rest) := by
  have shown := beat?_of_answer busy
  have kept (fault : Fault) (failed : reply = .error fault) : fault.escape? = none := by
    subst failed
    exact Option.isNone_iff_eq_none.mp endured
  unfold ServesNext
  rcases machine.world.resume_pressing_cases target handle rest kept with
    ⟨after, same, refused⟩ | ⟨work, rfl, looping, same⟩
  · obtain ⟨later, state, follows⟩ : ∃ later, ServesAt owner base target
        (machine.go ⟨owner, base⟩ (after, after.serve target rest)) later ∧
        ∀ final tail, later final tail → Served final rest tail := servesAt_serve rfl
    rw [same, shown]
    refine ⟨later, state, fun final tail seen => ⟨_, tail, ?_, follows final tail seen, rfl⟩⟩
    by_cases gives : ∃ work, reply = .ok (.awaitable work)
    · obtain ⟨work, rfl⟩ := gives
      rw [refused work rfl]
      exact .refused work
    · rw [Focus.given?_of_refused fun work same => gives ⟨work, Focus.reply.inj same⟩]
      exact .nothing
  · have listed (task : TaskId) (future : work = .future task) :
        task.index < machine.tasks.length := by
      subst future
      simpa [endures, adoptable, Value.work?, looping] using endured
    rw [same, shown, looping]
    exact servesAt_handOn listed rfl

/-- A handler is at work. -/
theorem serves_work (upper : List Frame) {handle : Ref .handle} {rest : List (Ref .handle)}
    {focus : Focus} (sound : machine.Sound) (move : Move machine next)
    (busy : machine.control =
      .busy ⟨owner, upper ++ .pressing target handle rest :: base⟩ focus)
    (endured : machine.enduredBy target = true) :
    ServesNext owner base target machine next (Works handle rest) := by
  by_cases returns : ∃ reply, focus = .reply reply ∧ upper = []
  · obtain ⟨reply, rfl, rfl⟩ := returns
    rw [move.of_busy busy]
    refine serves_answer busy ?_
    simpa [enduredBy, busy] using endured
  · have unseen : machine.beat? owner base.length = none := by
      refine beat?_of_above busy fun none_above => Focus.given?_of_refused fun work same => ?_
      exact returns ⟨_, same, none_above⟩
    unfold ServesNext
    rw [unseen]
    rcases move.above sound busy with
      ⟨reply, rfl, rfl⟩ | ⟨upper, focus, busy⟩ | ⟨upper, parked⟩
    · exact absurd ⟨reply, rfl, rfl⟩ returns
    · exact ⟨_, .works upper busy, fun final tail works => works⟩
    · exact ⟨_, .pauses upper parked, fun final tail works => works⟩

/-- The work of a handler has been handed on, and the handlers that are left have their
turns. -/
theorem serves_further {frame : Frame} {rest : List (Ref .handle)}
    (busy : machine.control = .busy ⟨owner, frame :: base⟩ .nothing)
    (resumes : machine.world.resume frame .nothing =
      (machine.world, machine.world.serve target rest)) :
    ServesNext owner base target machine (machine.advance ⟨owner, frame :: base⟩ .nothing)
      fun final => Served final rest := by
  obtain ⟨later, state, follows⟩ : ∃ later, ServesAt owner base target
      (machine.go ⟨owner, base⟩ (machine.world, machine.world.serve target rest)) later ∧
      ∀ final tail, later final tail → Served final rest tail := servesAt_serve rfl
  refine ⟨later, ?_, fun final tail seen => ?_⟩
  · show ServesAt owner base target (machine.go _ (machine.world.resume frame .nothing)) later
    exact resumes ▸ state
  · rw [beat?_of_answer busy]
    cases frame <;> exact follows final tail seen

theorem ServesAt.move (state : ServesAt owner base target machine expects)
    (move : Move machine next) (sound : machine.Sound)
    (endured : machine.enduredBy target = true) (going : ¬ machine.Returns owner base) :
    ServesNext owner base target machine next expects := by
  cases state with
  | @calls handle rest active busy =>
      rw [move.of_busy busy]
      refine ⟨_, .works [] rfl, fun final tail works => ?_⟩
      rw [beat?_of_busy busy]
      exact ⟨tail, works, rfl⟩
  | works upper busy => exact serves_work upper sound move busy endured
  | pauses upper parked =>
      unfold ServesNext
      rw [beat?_of_parked parked sound rfl]
      rcases parked.move move sound with still | busy
      · exact ⟨_, .pauses upper still, fun final tail works => works⟩
      · exact ⟨_, .works upper busy, fun final tail works => works⟩
  | hands fresh busy =>
      rw [move.of_busy busy]
      refine ⟨_, .starts rfl, fun final tail served => ?_⟩
      rw [beat?_of_busy busy]
      exact ⟨_, tail, served, rfl⟩
  | starts busy =>
      rw [move.of_busy busy]
      refine ⟨_, .started rfl, fun final tail served => ?_⟩
      rw [beat?_of_answer busy]
      exact served
  | started busy | adopted busy =>
      rw [move.of_busy busy]
      exact serves_further busy rfl
  | adopts listed busy =>
      rw [move.of_busy busy]
      refine ⟨_, .adopting listed rfl, fun final tail served => ?_⟩
      rw [beat?_of_busy busy]
      exact ⟨tail, served, rfl⟩
  | adopting listed busy =>
      rw [move.of_busy busy]
      refine ⟨_, .adopted (control_adopt listed), fun final tail served => ?_⟩
      rw [beat?_of_answer busy]
      exact served
  | ends busy => exact absurd ⟨_, busy⟩ going

/-- Who serves handlers publishes nothing itself. -/
theorem ServesAt.published? (state : ServesAt owner base target machine expects)
    (sound : machine.Sound) : machine.published? owner base.length = none := by
  cases state with
  | calls active busy | hands fresh busy | starts busy | started busy | adopts listed busy
  | adopting listed busy | adopted busy | ends busy => exact published?_of_other busy rfl
  | works upper busy => exact published?_of_serving [] busy rfl
  | pauses upper parked => exact published?_of_parked parked sound rfl

/-- What has been seen of a press goes before all that is seen later. -/
theorem Run.serves (run : Run start past machine) (sound : start.Sound)
    (begun : ServesAt owner base target start expects)
    (endured : ∀ state ∈ past, state.enduredBy target = true)
    (going : ∀ state ∈ past, ¬ state.Returns owner base) :
    past.filterMap (published? owner base.length) = [] ∧
      ∃ later, ServesAt owner base target machine later ∧
        ∀ final tail, later final tail →
          expects final (past.filterMap (beat? owner base.length) ++ tail) := by
  induction run with
  | refl => exact ⟨rfl, expects, begun, fun final tail follows => follows⟩
  | @move past machine next run move induction =>
      obtain ⟨civil, last⟩ := forall_snoc endured
      obtain ⟨still, goes⟩ := forall_snoc going
      obtain ⟨silent, middle, state, before⟩ := induction civil still
      have kept := run.sound sound
      obtain ⟨later, after, shows⟩ := state.move move kept last goes
      rw [filterMap_snoc, filterMap_snoc, silent, state.published? kept]
      refine ⟨rfl, later, after, fun final tail follows => ?_⟩
      rw [List.append_assoc]
      exact before final _ (shows final tail follows)

/-- While a handler is at work, nothing is seen of the press but the work that it gives. -/
theorem beat?_of_work {upper : List Frame} {handle : Ref .handle} {rest : List (Ref .handle)}
    {focus : Focus} {beat : Beat}
    (busy : machine.control =
      .busy ⟨owner, upper ++ .pressing target handle rest :: base⟩ focus)
    (shown : machine.beat? owner base.length = some beat) :
    ∃ work, beat = .gives handle work machine.world.looping := by
  by_cases gives : upper = [] ∧ ∃ work, focus = .reply (.ok (.awaitable work))
  · obtain ⟨rfl, work, rfl⟩ := gives
    rw [beat?_of_answer busy] at shown
    cases shown
    exact ⟨work, rfl⟩
  · have unseen : machine.beat? owner base.length = none :=
      beat?_of_above busy fun none_above => Focus.given?_of_refused fun work same =>
        gives ⟨none_above, work, same⟩
    rw [unseen] at shown
    cases shown

/-- A handler that is seen to be called is active. -/
theorem ServesAt.calling {handle : Ref .handle} {world : World}
    (state : ServesAt owner base target machine expects) (sound : machine.Sound)
    (shown : machine.beat? owner base.length = some (.calls handle world)) :
    (machine.world.handles.get handle).isActive = true ∧ ∃ rest,
      machine.control =
        .busy ⟨owner, base⟩ (.within (.pressing target handle rest) (.invoke handle)) := by
  cases state with
  | calls active busy =>
      rw [beat?_of_busy busy] at shown
      cases shown
      exact ⟨active, _, busy⟩
  | works upper busy =>
      obtain ⟨work, gives⟩ := beat?_of_work busy shown
      cases gives
  | pauses upper parked =>
      rw [beat?_of_parked parked sound rfl] at shown
      cases shown
  | hands fresh busy | adopts listed busy | ends busy =>
      rw [beat?_of_busy busy] at shown
      cases shown
  | starts busy | started busy | adopting listed busy | adopted busy =>
      rw [beat?_of_answer busy] at shown
      cases shown

/-- Work that is seen to be started is handed to the loop, to be told of at the dispatcher. -/
theorem ServesAt.starting {handle : Ref .handle} {work : Work} {task : TaskId}
    (state : ServesAt owner base target machine expects) (sound : machine.Sound)
    (shown : machine.beat? owner base.length = some (.starts handle work task)) :
    task = ⟨machine.tasks.length⟩ ∧ ∃ rest,
      machine.control = .busy ⟨owner, base⟩
        (.within (.pressing target handle rest) (.start work (.handlerEnded target handle))) := by
  cases state with
  | hands fresh busy =>
      rw [beat?_of_busy busy] at shown
      cases shown
      exact ⟨rfl, _, busy⟩
  | works upper busy =>
      obtain ⟨work, gives⟩ := beat?_of_work busy shown
      cases gives
  | pauses upper parked =>
      rw [beat?_of_parked parked sound rfl] at shown
      cases shown
  | calls active busy | adopts listed busy | ends busy =>
      rw [beat?_of_busy busy] at shown
      cases shown
  | starts busy | started busy | adopting listed busy | adopted busy =>
      rw [beat?_of_answer busy] at shown
      cases shown

/-- A task that is seen to be taken on is there, and its end will be told of at the
dispatcher. -/
theorem ServesAt.adopting_of_shown {handle : Ref .handle} {task : TaskId}
    (state : ServesAt owner base target machine expects) (sound : machine.Sound)
    (shown : machine.beat? owner base.length = some (.adopts handle task)) :
    task.index < machine.tasks.length ∧ ∃ rest,
      machine.control = .busy ⟨owner, base⟩
        (.within (.serving target rest) (.adopt task target handle)) := by
  cases state with
  | adopts listed busy =>
      rw [beat?_of_busy busy] at shown
      cases shown
      exact ⟨listed, _, busy⟩
  | works upper busy =>
      obtain ⟨work, gives⟩ := beat?_of_work busy shown
      cases gives
  | pauses upper parked =>
      rw [beat?_of_parked parked sound rfl] at shown
      cases shown
  | calls active busy | hands fresh busy | ends busy =>
      rw [beat?_of_busy busy] at shown
      cases shown
  | starts busy | started busy | adopting listed busy | adopted busy =>
      rw [beat?_of_answer busy] at shown
      cases shown

/-- A press that has returned has not failed, and nothing is seen of it any more. -/
theorem ServesAt.finished {reply : Reply}
    (state : ServesAt owner base target machine expects) (sound : machine.Sound)
    (finished : machine.control = .busy ⟨owner, base⟩ (.reply reply)) :
    reply = .nothing ∧ expects machine.world [] := by
  have deeper (upper : List Frame) {frame : Frame} {focus : Focus}
      (busy : machine.control = .busy ⟨owner, upper ++ frame :: base⟩ focus) : False :=
    not_back upper [] (busy.symm.trans finished)
  cases state with
  | calls active busy | hands fresh busy | adopts listed busy =>
      cases (Control.busy.inj (finished.symm.trans busy)).2
  | works upper busy => exact (deeper upper busy).elim
  | pauses upper parked => exact (parked.alone sound finished rfl).elim
  | starts busy | started busy | adopting listed busy | adopted busy =>
      exact (deeper [] busy).elim
  | ends busy =>
      obtain ⟨-, same⟩ := Control.busy.inj (finished.symm.trans busy)
      exact ⟨Focus.reply.inj same, rfl, rfl⟩

end Machine

end Microboard
