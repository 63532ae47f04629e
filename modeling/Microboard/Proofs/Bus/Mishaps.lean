import Microboard.Proofs.Machine.Keeping

/-!
# Mishaps

What the log tells of subscribers that have failed.  Whatever a thread does, one turn logs
at most one mishap: that of a subscriber which has just raised an ordinary fault.
-/

namespace Microboard

/-- An entry that tells of the failure of a subscriber. -/
def Entry.isMishap : Entry → Bool
  | .log .error .events _ => true
  | _ => false

theorem Entry.isMishap_of_not_error {entry : Entry} (harmless : entry.isError = false) :
    entry.isMishap = false := by
  unfold isMishap
  split
  · cases harmless
  · rfl

namespace World

/-- What the log tells of subscribers that have failed, the latest first. -/
def mishaps (world : World) : List Entry :=
  world.trace.filter Entry.isMishap

variable {world : World}

theorem mishaps_observe (world : World) (entry : Entry) :
    (world.observe entry).mishaps =
      (if entry.isMishap = true then [entry] else []) ++ world.mishaps := by
  cases mishap : entry.isMishap <;> simp [mishaps, World.observe, mishap]

theorem mishaps_quiet (world : World) {entry : Entry} (quiet : entry.isMishap = false) :
    (world.observe entry).mishaps = world.mishaps := by
  simp [mishaps_observe, quiet]

theorem lasting_mishaps : Lasting (Same mishaps) where
  refl _ := rfl
  trans first second := Eq.trans second first
  same _ _ _ trace := congrArg (List.filter Entry.isMishap) trace
  observe world _ harmless := mishaps_quiet world (Entry.isMishap_of_not_error harmless)
  activate _ _ := rfl
  destroy _ _ := rfl
  dropHandlers _ _ _ _ := rfl
  newScheduler _ _ _ := rfl
  newDispatcher _ _ _ := rfl
  create world table callback kind := by
    unfold createHandle
    split <;> rfl
  storeFailure _ _ _ := rfl
  blame world failure := by
    obtain ⟨caller, handle, fault⟩ := failure
    cases caller <;> rfl
  setTasks _ _ _ := rfl
  setBackground _ _ _ := rfl

theorem registerHandler_mishaps (target : Ref .dispatcher) (button handler : Value) :
    (world.registerHandler target button handler).1.mishaps = world.mishaps :=
  keeps_registerHandler lasting_mishaps (fun _ _ _ => rfl) target button handler

end World

namespace Machine

variable {start machine next : Machine} {past : List Machine}

/-- What is logged in the next turn of a thread, when a subscriber has raised an ordinary
fault. -/
def raised? (machine : Machine) : Option Entry :=
  match machine.control with
  | .busy ⟨_, .publishing _ event id _ :: _⟩ (.reply (.error fault)) =>
    if fault.isOrdinary then some (machine.world.mishap event id) else none
  | _ => none

/-- A turn that publishes logs the failure of the subscriber which has answered. -/
theorem advance_publishing_mishaps {owner : Option TaskId} {stack : List Frame} {focus : Focus}
    (busy : machine.control = .busy ⟨owner, stack⟩ focus)
    (publishes : focus.publishes stack = true) :
    (machine.advance ⟨owner, stack⟩ focus).world.mishaps =
      machine.raised?.toList ++ machine.world.mishaps := by
  cases focus with
  | publish bus event =>
      have unraised : machine.raised? = none := by simp [raised?, busy]
      rw [unraised]
      rfl
  | within frame focus =>
      have unraised : machine.raised? = none := by simp [raised?, busy]
      rw [unraised]
      rfl
  | reply reply =>
      cases stack with
      | nil => cases publishes
      | cons frame rest =>
          cases frame with
          | publishing bus event id others =>
              simp only [advance, go]
              rcases World.resume_publishing_cases machine.world bus event id others reply with
                ⟨value, rfl, same⟩ | ⟨fault, rfl, ordinary, same⟩ | ⟨fault, rfl, ordinary, same⟩
              · have unraised : machine.raised? = none := by simp [raised?, busy]
                rw [same, unraised]
                rfl
              · have raised : machine.raised? = some (machine.world.mishap event id) := by
                  simp [raised?, busy, ordinary]
                rw [same, raised, World.mishaps_observe]
                rfl
              · have unraised : machine.raised? = none := by simp [raised?, busy, ordinary]
                rw [same, unraised]
                rfl
          | _ => cases publishes
  | _ => cases publishes

theorem raised?_of_quiet {owner : Option TaskId} {stack : List Frame} {focus : Focus}
    (busy : machine.control = .busy ⟨owner, stack⟩ focus)
    (quiet : focus.publishes stack = false) : machine.raised? = none := by
  unfold raised?
  rw [busy]
  split
  next same =>
    cases same
    cases quiet
  next => rfl

theorem advance_mishaps {thread : Thread} {focus : Focus} (sound : machine.Sound)
    (busy : machine.control = .busy thread focus) :
    (machine.advance thread focus).world.mishaps =
      machine.raised?.toList ++ machine.world.mishaps := by
  obtain ⟨owner, stack⟩ := thread
  cases publishes : focus.publishes stack with
  | true => exact advance_publishing_mishaps busy publishes
  | false =>
      rw [raised?_of_quiet busy publishes]
      by_cases ends : ∃ reply, focus = .reply reply ∧ stack = []
      · obtain ⟨reply, rfl, rfl⟩ := ends
        cases owner <;> rfl
      · have proceeds : Proceeds (World.Same World.mishaps) machine owner (focus.leaves stack)
            (machine.advance ⟨owner, stack⟩ focus) := by
          refine advance_proceeds World.lasting_mishaps publishes (sound.focus _ _ busy) ?_ ?_
          · exact fun _ _ _ _ => World.registerHandler_mishaps _ _ _
          · exact fun reply same empty => ends ⟨reply, same, empty⟩
        exact proceeds.lasts

/-- While a thread runs, the log of mishaps grows by what is raised, and by nothing else. -/
theorem Move.mishaps (move : Move machine next) (sound : machine.Sound)
    (awake : machine.control ≠ .idle) :
    next.world.mishaps = machine.raised?.toList ++ machine.world.mishaps := by
  cases control : machine.control with
  | idle => exact absurd control awake
  | busy thread focus =>
      rw [move.of_busy control]
      exact advance_mishaps sound control

/-- As long as nobody suspends, everything that is raised is logged once, in its order. -/
theorem Run.mishaps (run : Run start past machine) (sound : start.Sound)
    (awake : ∀ state ∈ past, state.control ≠ .idle) :
    machine.world.mishaps = (past.filterMap raised?).reverse ++ start.world.mishaps := by
  induction run with
  | refl => rfl
  | @move past machine next run move induction =>
      obtain ⟨earlier, last⟩ := forall_snoc awake
      rw [move.mishaps (run.sound sound) last, induction earlier, filterMap_snoc,
        List.reverse_append, List.append_assoc]
      cases machine.raised? <;> rfl

end Machine

end Microboard
