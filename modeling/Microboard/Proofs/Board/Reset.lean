import Microboard.Proofs.Board.Stop
import Microboard.Proofs.Machine.Issued
import Microboard.Proofs.Machine.Telling

/-!
# Resetting a board

A reset stops everything before it tells anybody, and tells each subscriber once.  It
may be called from anywhere: its own thread is followed until it returns, and what it
has destroyed stays destroyed in every run.
-/

namespace Microboard.Machine

variable {start machine next : Machine} {past : List Machine}
variable {owner : Option TaskId} {base : List Frame} {bus : Ref .bus} {event : Value}
variable {told : World} {log : List Telling}

/-- The shapes that a machine has while a call, made above `base`, tells the subscribers
of a bus of an event.  The log is what it has done so far; until the first subscriber
is called, the world is as it was told. -/
inductive TellsAt (owner : Option TaskId) (base : List Frame) (bus : Ref .bus)
    (event : Value) (told : World) (machine : Machine) : List Telling → Prop where
  | opens (same : machine.world = told)
      (busy : machine.control =
        .busy ⟨owner, base⟩ (.within .announced (.publish bus event))) :
      TellsAt owner base bus event told machine []
  | publishes (same : machine.world = told)
      (busy : machine.control = .busy ⟨owner, .announced :: base⟩ (.publish bus event)) :
      TellsAt owner base bus event told machine []
  | tells {done rest : List (Nat × Value)} (same : done = [] → machine.world = told)
      (all : (told.buses.get bus).subscribers = done ++ rest)
      (busy : machine.control =
        .busy ⟨owner, .announced :: base⟩ (World.publishRest bus event rest)) :
      TellsAt owner base bus event told machine (Telling.publication bus event done)
  | serves {done rest : List (Nat × Value)} {subscription : Nat × Value}
      (above : List Frame) (focus : Focus)
      (all : (told.buses.get bus).subscribers = done ++ subscription :: rest)
      (busy : machine.control =
        .busy ⟨owner, above ++ .publishing bus event subscription.1 rest ::
          .announced :: base⟩ focus) :
      TellsAt owner base bus event told machine
        (Telling.publication bus event (done ++ [subscription]))
  | pauses {done rest : List (Nat × Value)} {subscription : Nat × Value}
      (above : List Frame)
      (all : (told.buses.get bus).subscribers = done ++ subscription :: rest)
      (parked : machine.Parked ⟨owner, above ++ .publishing bus event subscription.1 rest ::
        .announced :: base⟩ .nothing) :
      TellsAt owner base bus event told machine
        (Telling.publication bus event (done ++ [subscription]))
  | returns (busy : machine.control = .busy ⟨owner, base⟩ .nothing) :
      TellsAt owner base bus event told machine
        (Telling.publication bus event (told.buses.get bus).subscribers)

theorem TellsAt.tells_next {done rest : List (Nat × Value)}
    (all : (told.buses.get bus).subscribers = done ++ rest)
    (busy : machine.control =
      .busy ⟨owner, .announced :: base⟩ (World.publishRest bus event rest)) :
    TellsAt owner base bus event told
      (machine.advance ⟨owner, .announced :: base⟩ (World.publishRest bus event rest))
      (Telling.publication bus event done ++
        (machine.telling? owner base.length).toList) := by
  cases rest with
  | nil =>
      have finished : TellsAt owner base bus event told
          (machine.advance ⟨owner, .announced :: base⟩ .nothing)
          (Telling.publication bus event (told.buses.get bus).subscribers) := .returns rfl
      rw [all, List.append_nil] at finished
      simpa [telling?, acts_cons busy rfl, World.publishRest, Focus.nothing] using finished
  | cons subscription rest =>
      obtain ⟨id, subscriber⟩ := subscription
      have called : TellsAt owner base bus event told
          (machine.advance ⟨owner, .announced :: base⟩
            (World.publishRest bus event ((id, subscriber) :: rest)))
          (Telling.publication bus event (done ++ [(id, subscriber)])) :=
        .serves [] (.call subscriber (.single event)) all rfl
      simpa [telling?, acts_cons busy rfl, World.publishRest, Telling.publication,
        Telling.delivery] using called

theorem TellsAt.ended {done rest : List (Nat × Value)} {id : Nat} (reply : Reply)
    (all : (told.buses.get bus).subscribers = done ++ rest) (begun : done ≠ [])
    (ordinary : ∀ fault, reply = .error fault → fault.isOrdinary = true) :
    TellsAt owner base bus event told
      (machine.go ⟨owner, .announced :: base⟩
        (machine.world.resume (.publishing bus event id rest) reply))
      (Telling.publication bus event done) := by
  apply TellsAt.tells (fun empty => absurd empty begun) all
  cases reply with
  | ok value => rfl
  | error fault => simp only [World.resume, ordinary fault rfl, if_true]; rfl

/-- Every move takes a call that tells subscribers on, and shows what it does, as long
as the subscribers raise ordinary faults only. -/
theorem TellsAt.move (state : TellsAt owner base bus event told machine log)
    (move : Move machine next) (sound : machine.Sound)
    (going : ¬ machine.Returns owner base)
    (ordinary : (∃ telling ∈ log, telling.isDelivery = true) → machine.ordinaryOn bus = true) :
    TellsAt owner base bus event told next
      (log ++ (machine.telling? owner base.length).toList) := by
  cases state with
  | opens same busy =>
      rw [move.of_busy busy]
      have opened : TellsAt owner base bus event told
          (machine.advance ⟨owner, base⟩ (.within .announced (.publish bus event))) [] :=
        .publishes same rfl
      simpa [telling?, acts_self busy] using opened
  | publishes same busy =>
      rw [move.of_busy busy]
      have published : TellsAt owner base bus event told
          (machine.advance ⟨owner, .announced :: base⟩ (.publish bus event))
          (Telling.publication bus event []) :=
        .tells (fun _ => same) (List.nil_append _).symm (same ▸ rfl)
      simpa [telling?, acts_cons busy rfl, Telling.publication] using published
  | tells same all busy =>
      rw [move.of_busy busy]
      exact .tells_next all busy
  | @serves done rest subscription above focus all busy =>
      have silent : machine.telling? owner base.length = none := by
        simp [telling?, acts_of_serving busy
          (show Frame.announced :: base = [.announced] ++ base from rfl) rfl]
      rw [silent, Option.toList_none, List.append_nil]
      rcases move.above sound busy with
        ⟨reply, rfl, rfl⟩ | ⟨above, focus, busy⟩ | ⟨above, parked⟩
      · rw [move.of_busy busy]
        apply TellsAt.ended reply (by simpa using all) (by simp)
        intro fault same
        have safe := ordinary
          ⟨.delivery event subscription, by simp [Telling.publication], rfl⟩
        subst same
        simpa [ordinaryOn, busy] using safe
      · exact .serves above focus all busy
      · exact .pauses above all parked
  | pauses above all parked =>
      have silent : machine.telling? owner base.length = none := by
        simp [telling?, acts_of_parked parked sound rfl]
      rw [silent, Option.toList_none, List.append_nil]
      rcases parked.move move sound with still | busy
      · exact .pauses above all still
      · exact .serves above .nothing all busy
  | returns busy => exact absurd ⟨_, busy⟩ going

/-- Until a call returns, it has done what it is to do in the order of the
subscriptions. -/
theorem Run.tells (run : Run start past machine) (sound : start.Sound)
    (opens : TellsAt owner base bus event told start [])
    (going : ∀ state ∈ past, ¬ state.Returns owner base)
    (ordinary : (∃ telling ∈ past.filterMap (telling? owner base.length),
      telling.isDelivery = true) → ∀ state ∈ past, state.ordinaryOn bus = true) :
    TellsAt owner base bus event told machine
      (past.filterMap (telling? owner base.length)) := by
  induction run with
  | refl => exact opens
  | @move past machine next run move induction =>
      rw [filterMap_snoc] at ordinary ⊢
      have seen : ∀ {telling}, telling ∈ past.filterMap (telling? owner base.length) →
          telling ∈ past.filterMap (telling? owner base.length) ++
            (machine.telling? owner base.length).toList :=
        fun member => List.mem_append_left _ member
      obtain ⟨goingBefore, goingLast⟩ := forall_snoc going
      have reached := induction goingBefore
        fun ⟨telling, member, delivers⟩ state earlier =>
          ordinary ⟨telling, seen member, delivers⟩ state (List.mem_append_left _ earlier)
      apply reached.move move (run.sound sound) goingLast
      rintro ⟨telling, member, delivers⟩
      exact ordinary ⟨telling, seen member, delivers⟩ machine (by simp)

theorem TellsAt.first (state : TellsAt owner base bus event told machine log)
    (sound : machine.Sound) {id : Nat} {subscriber : Value} {arguments : Arguments}
    (seen : machine.telling? owner base.length = some (.delivers id subscriber arguments))
    (none_before : ∀ telling ∈ log, telling.isDelivery = false) : machine.world = told := by
  cases state with
  | opens same busy | publishes same busy => exact same
  | @tells done rest same all busy =>
      apply same
      apply List.eq_nil_iff_forall_not_mem.mpr
      intro subscription member
      have delivered := none_before (.delivery event subscription)
        (List.mem_cons_of_mem _ (List.mem_map_of_mem member))
      cases delivered
  | serves above focus all busy =>
      simp [telling?, acts_of_serving busy
        (show Frame.announced :: base = [.announced] ++ base from rfl) rfl] at seen
  | pauses above all parked => simp [telling?, acts_of_parked parked sound rfl] at seen
  | returns busy => simp [telling?, acts_self busy, Focus.nothing] at seen

theorem TellsAt.begins (state : TellsAt owner base bus event told machine log) :
    log <+: Telling.publication bus event (told.buses.get bus).subscribers := by
  have until_done {done rest : List (Nat × Value)}
      (all : (told.buses.get bus).subscribers = done ++ rest) :
      Telling.publication bus event done <+:
        Telling.publication bus event (told.buses.get bus).subscribers := by
    refine ⟨rest.map (Telling.delivery event), ?_⟩
    simp [Telling.publication, all]
  cases state with
  | opens | publishes => exact List.nil_prefix
  | tells same all => exact until_done all
  | serves above focus all | pauses above all => exact until_done (by simpa using all)
  | returns => exact List.prefix_rfl

theorem TellsAt.finished (state : TellsAt owner base bus event told machine log)
    (sound : machine.Sound) {reply : Reply}
    (ends : machine.control = .busy ⟨owner, base⟩ (.reply reply)) :
    log = Telling.publication bus event (told.buses.get bus).subscribers ∧
      reply = .nothing := by
  cases state with
  | opens same busy =>
      rw [ends] at busy
      cases busy
  | publishes same busy | tells same all busy => exact (not_back [] [] (busy.symm.trans ends)).elim
  | serves above focus all busy =>
      exact (not_back above [.announced] (busy.symm.trans ends)).elim
  | pauses above all parked =>
      have differs := parked.alone sound ends
      exact absurd rfl differs
  | returns busy =>
      rw [ends] at busy
      cases busy
      exact ⟨rfl, rfl⟩

/-- A handle that has been destroyed is of no more use in any run: loops and presses pass
over it, and whoever invokes it is told so. -/
theorem inert_of_destroyed {handle : Ref .handle} (grows : World.Grows told machine.world)
    (sound : machine.Sound) (has : told.handles.Has handle) (destroyed : told.Destroyed handle) :
    (machine.world.handles.get handle).isActive = false ∧
      ∀ thread next, machine.control = .busy thread (.invoke handle) → Move machine next →
        next.control = .busy thread
          (.raise (.handleDestroyed (.int (machine.world.handles.get handle).id))) := by
  obtain ⟨still, succeeds⟩ := grows.handles handle has
  have gone := succeeds.destroyed destroyed
  constructor
  · simp only [Handle.isDestroyed, decide_eq_true_eq] at gone
    simp [Handle.isActive, gone]
  · intro thread next busy move
    rw [move.of_invoke_gone busy ((sound.world.handle handle still).mpr gone)]
    rfl

/-- A method resets a board, through the board itself or through its bridge. -/
def Resets (world : World) (target : Ref .board) (method : Method) : Prop :=
  method = .board target .reset ∨ method = .bridge (world.boards.get target).bridge .reset

def IssuedBy (board : Board) (past : List Machine) (machine : Machine)
    (handle : Ref .handle) : Prop :=
  Issued (machine.world.loopTable board) past machine handle ∨
    Issued (machine.world.handlerTable board) past machine handle

/-- What a reset of a board keeps to in a run.  When its first subscriber is called, all
callbacks are destroyed and the hardware is at power-on.  Until it returns, it publishes
one event and delivers it once to each subscriber.  Afterwards no callback is called
through a handle that had been issued. -/
structure ResetKept (board : Board) (issued : Ref .handle → Prop) (owner : Option TaskId)
    (base : List Frame) (event : Value) (subscribers : List (Nat × Value))
    (past : List Machine) (machine : Machine) : Prop where
  first : (∀ state ∈ past, ¬ state.Returns owner base) →
    (∀ telling ∈ past.filterMap (telling? owner base.length), telling.isDelivery = false) →
    ∀ id subscriber arguments,
      machine.telling? owner base.length = some (.delivers id subscriber arguments) →
      machine.world.Stopped board issued
  tells : (∀ state ∈ past, ¬ state.Returns owner base) →
    (∀ state ∈ past, state.ordinaryOn board.bus = true) →
    past.filterMap (telling? owner base.length) <+:
      Telling.publication board.bus event subscribers
  returns : (∀ state ∈ past, ¬ state.Returns owner base) →
    (∀ state ∈ past, state.ordinaryOn board.bus = true) →
    ∀ reply, machine.control = .busy ⟨owner, base⟩ (.reply reply) →
      past.filterMap (telling? owner base.length) =
        Telling.publication board.bus event subscribers ∧ reply = .nothing
  inert : ∀ handle, issued handle → (machine.world.handles.get handle).isActive = false ∧
    ∀ thread next, machine.control = .busy thread (.invoke handle) → Move machine next →
      next.control = .busy thread
        (.raise (.handleDestroyed (.int (machine.world.handles.get handle).id)))

variable {looping : Bool} {registry : Registry} {names : List (String × Value)}
variable {before : List Machine} {target : Ref .board} {method : Method} {arguments : Arguments}

theorem advance_reset {board : Board} (wired : start.world.Wired board)
    (resets : method = .board target .reset ∧ board = start.world.boards.get target ∨
      method = .bridge board.bridge .reset) :
    start.advance ⟨owner, base⟩ (.call (.method method) arguments) =
      start.go ⟨owner, base⟩
        ({ start.world.stopped board with
            identities := (start.world.stopped board).identities + 1 },
          .within .announced
            (.publish board.bus (.event .reset (start.world.stopped board).identities))) := by
  refine Eq.trans ?_ (congrArg (start.go ⟨owner, base⟩) (World.resetBoard_eq wired))
  rcases resets with ⟨rfl, rfl⟩ | rfl <;> rfl

theorem advance_resets {board : Board} {known other : Ref .handle → Prop}
    (wired : start.world.Wired board)
    (resets : method = .board target .reset ∧ board = start.world.boards.get target ∨
      method = .bridge board.bridge .reset)
    (loops : start.world.Ledger (start.world.loopTable board) known)
    (handlers : start.world.Ledger (start.world.handlerTable board) other) :
    ∃ identity told,
      start.advance ⟨owner, base⟩ (.call (.method method) arguments) =
        start.go ⟨owner, base⟩
          (told, .within .announced (.publish board.bus (.event .reset identity))) ∧
      told.buses = start.world.buses ∧
      told.Stopped board fun handle => known handle ∨ other handle := by
  have stopped := World.stopped_of_ledgers wired loops handlers
  exact ⟨_, _, advance_reset wired resets, start.world.stopped_buses board, stopped.counted⟩

/-- Whoever resets a board, and whatever is going on: the reset stops everything that
the board has issued, tells every subscriber once, and nothing of it is ever called
again. -/
theorem reset_stops_board
    (reached : Run (initial (.initial looping registry) names) before start)
    (has : start.world.boards.Has target) (resets : Resets start.world target method)
    (called : start.control = .busy ⟨owner, base⟩ (.call (.method method) arguments))
    (loops : Faithful (start.world.loopTable (start.world.boards.get target)) before)
    (handlers : Faithful (start.world.handlerTable (start.world.boards.get target)) before)
    (run : Run (start.advance ⟨owner, base⟩ (.call (.method method) arguments)) past machine) :
    ∃ identity,
      ResetKept (start.world.boards.get target)
        (IssuedBy (start.world.boards.get target) before start) owner base
        (.event .reset identity)
        (start.world.buses.get (start.world.boards.get target).bus).subscribers past machine := by
  have startSound := reached.sound (sound_initial looping registry names)
  have wired := startSound.world.board target has
  have sound := startSound.move (.turn called)
  have grown := (Move.turn called).grows startSound
  obtain ⟨knownLoops, issuedLoops, ledgerLoops⟩ := reached.ledger loops
  obtain ⟨knownHandlers, issuedHandlers, ledgerHandlers⟩ := reached.ledger handlers
  obtain ⟨identity, told, advanced, buses, stopped⟩ :=
    advance_resets wired (resets.imp_left fun same => ⟨same, rfl⟩) ledgerLoops ledgerHandlers
  rw [advanced] at run sound grown
  generalize start.world.boards.get target = board at *
  have opens : TellsAt owner base board.bus (.event .reset identity) told
      (start.go ⟨owner, base⟩
        (told, .within .announced (.publish board.bus (.event .reset identity)))) [] :=
    .opens rfl rfl
  have known {handle : Ref .handle} (issued : IssuedBy board before start handle) :
      knownLoops handle ∨ knownHandlers handle :=
    issued.imp (issuedLoops handle) (issuedHandlers handle)
  refine ⟨identity, ?_⟩
  rw [← buses]
  constructor
  case first =>
    intro going silent id subscriber arguments shown
    have state := run.tells sound opens going fun ⟨telling, member, delivers⟩ => by
      rw [silent telling member] at delivers
      cases delivers
    rw [state.first (run.sound sound) shown silent]
    exact ⟨fun handle issued => stopped.destroyed handle (known issued), stopped.loops,
      stopped.handlers, stopped.lists, stopped.snapshot⟩
  case tells =>
    intro going ordinary
    exact (run.tells sound opens going fun _ => ordinary).begins
  case returns =>
    intro going ordinary reply ends
    exact (run.tells sound opens going fun _ => ordinary).finished (run.sound sound) ends
  case inert =>
    intro handle issued
    have had : start.world.handles.Has handle :=
      (known issued).elim (ledgerLoops.has handle) (ledgerHandlers.has handle)
    exact inert_of_destroyed (run.grows sound) (run.sound sound)
      (grown.handles handle had).1 (stopped.destroyed handle (known issued))

def ring : Program :=
  building <| .call (.method (.board ⟨0⟩ .subscribe)) (.single (.recorder "events")) fun _ =>
    .define .plain (fun _ => .finish .nothing) fun callback =>
      .call (.method (.bridge ⟨0⟩ .forever)) (.single callback) fun _ =>
        .call (.method (.bridge ⟨0⟩ .onButtonPressed)) ⟨[.button .a, callback], []⟩ fun _ =>
          .call (.method (.board ⟨0⟩ .reset)) .empty .finish

def resetting : Machine := settle 23 (begun ring)

theorem reset_stops_board_ring :
    ∃ identity,
      ResetKept (resetting.world.boards.get ⟨0⟩)
        (IssuedBy (resetting.world.boards.get ⟨0⟩)
          ([initial (.initial true .empty) []] ++ visited 23 (begun ring)) resetting)
        none [.program .finish] (.event .reset identity)
        (resetting.world.buses.get (resetting.world.boards.get ⟨0⟩).bus).subscribers
        (visited 6 (settle 24 (begun ring))) (settle 30 (begun ring)) :=
  reset_stops_board
    (run_begun ring 23) (by decide) (.inl rfl) rfl (faithful_of_none rfl)
    (faithful_of_none rfl) (run_settle 6 (settle 24 (begun ring)))

end Microboard.Machine
