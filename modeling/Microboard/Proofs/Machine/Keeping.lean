import Microboard.Proofs.Machine.Sound
import Microboard.Proofs.World.Lasting

/-!
# What a turn keeps

A turn that has nothing to do with subscribers keeps what lasts.  The thread goes on with
the frames that its focus leaves it, and no subscriber is about to be called; or it is
suspended with them.
-/

namespace Microboard

/-- The frames of a thread after a turn. -/
def Focus.leaves (stack : List Frame) : Focus → List Frame
  | .reply _ => stack.tail
  | .within frame _ => frame :: stack
  | _ => stack

/-- The next turn publishes an event, has a subscriber called, or takes its answer. -/
def Focus.publishes (stack : List Frame) : Focus → Bool
  | .publish .. => true
  | .reply _ => (stack.head?.map Frame.isPublishing).getD false
  | focus => focus.delivers

def Focus.registers? (world : World) : Focus → Option (Ref .dispatcher × Value × Value)
  | .call target arguments => target.registers? world arguments
  | _ => none

namespace Machine

variable {keeps : World → World → Prop} {machine next : Machine} {owner : Option TaskId}
variable {stack : List Frame} {focus : Focus}

inductive Proceeds (keeps : World → World → Prop) (machine : Machine) (owner : Option TaskId)
    (stack : List Frame) (next : Machine) : Prop where
  | goes (after : Focus) (lasts : keeps machine.world next.world)
      (control : next.control = .busy ⟨owner, stack⟩ after) (silent : after.delivers = false)
  | parks (lasts : keeps machine.world next.world) (control : next.control = .idle)
      (parked : next.Parked ⟨owner, stack⟩ .nothing)

theorem Proceeds.lasts (proceeds : Proceeds keeps machine owner stack next) :
    keeps machine.world next.world := by
  cases proceeds with
  | goes after lasts control silent => exact lasts
  | parks lasts control parked => exact lasts

theorem Proceeds.of_lasts {after : World × Focus}
    (lasts : World.Lasts keeps machine.world after) :
    Proceeds keeps machine owner stack (machine.go ⟨owner, stack⟩ after) :=
  .goes after.2 lasts.keeps rfl lasts.silent

variable (lasting : World.Lasting keeps)
include lasting

theorem Proceeds.same {after : Focus} (world : next.world = machine.world)
    (control : next.control = .busy ⟨owner, stack⟩ after) (silent : after.delivers = false) :
    Proceeds keeps machine owner stack next :=
  .goes after (world ▸ lasting.refl _) control silent

theorem keeps_registerTask (world : World) (task : TaskId) (notice : Notice) :
    keeps world (registerTask world task notice) := by
  cases notice with
  | loopEnded target id =>
      exact lasting.setTasks world target fun scheduler => scheduler.tasks ++ [(id, task)]
  | handlerEnded target handle =>
      exact lasting.setBackground world target fun dispatcher => enlist dispatcher.background task
  | release waiter => exact lasting.refl world

theorem run_proceeds (program : Program) :
    Proceeds keeps machine owner stack (machine.run ⟨owner, stack⟩ program) := by
  cases program with
  | report label reply next => exact .of_lasts ⟨lasting.observe _ rfl, rfl⟩
  | identify next => exact .of_lasts ⟨lasting.same rfl rfl rfl rfl, rfl⟩
  | launch work next =>
      simp only [run]
      split <;> exact .same lasting rfl rfl rfl
  | _ => exact .same lasting rfl rfl rfl

theorem call_proceeds {target : Value} {arguments : Arguments}
    (registered : ∀ dispatcher button handler,
      target.registers? machine.world arguments = some (dispatcher, button, handler) →
      keeps machine.world (machine.world.registerHandler dispatcher button handler).1) :
    Proceeds keeps machine owner stack (machine.call ⟨owner, stack⟩ target arguments) := by
  unfold call
  split
  · simp only
    split <;> exact .same lasting rfl rfl rfl
  · exact .same lasting rfl rfl rfl
  · exact .of_lasts (World.callValue_lasts lasting registered)

theorem await_proceeds (work : Work) :
    Proceeds keeps machine owner stack (machine.await ⟨owner, stack⟩ work) := by
  unfold await
  split
  next task =>
    rcases join_cases machine ⟨owner, stack⟩ task with ⟨reply, joins⟩ | joins <;> rw [joins] <;>
      exact .same lasting rfl rfl rfl
  · exact .same lasting rfl rfl rfl
  · exact .of_lasts (World.begin_lasts lasting _)

theorem sleep_proceeds (interval : Value) :
    Proceeds keeps machine owner stack (machine.sleep ⟨owner, stack⟩ interval) := by
  have observed := lasting.observe machine.world (show (Entry.slept interval).isError = false
    from rfl)
  unfold sleep
  simp only
  split
  · exact .of_lasts ⟨observed, rfl⟩
  · exact .parks observed rfl
      (.asleep (List.mem_append_right _ (List.mem_singleton_self _)) rfl)

/-- A turn of a thread that does not end, and in which no subscriber has a part, keeps
what lasts, if a handler that it registers does. -/
theorem advance_proceeds (quiet : focus.publishes stack = false) (inside : focus.Within .everything)
    (registered : ∀ dispatcher button handler,
      focus.registers? machine.world = some (dispatcher, button, handler) →
      keeps machine.world (machine.world.registerHandler dispatcher button handler).1)
    (going : ∀ reply, focus = .reply reply → stack ≠ []) :
    Proceeds keeps machine owner (focus.leaves stack) (machine.advance ⟨owner, stack⟩ focus) := by
  cases focus with
  | reply reply =>
      cases stack with
      | nil => exact absurd rfl (going reply rfl)
      | cons frame rest => exact .of_lasts (World.resume_lasts lasting quiet reply)
  | within frame focus =>
      have silent : focus.delivers = false := (Bool.or_eq_false_iff.mp quiet).2
      exact .same lasting rfl rfl silent
  | run program => exact run_proceeds lasting program
  | call target arguments => exact call_proceeds lasting registered
  | await work => exact await_proceeds lasting work
  | invoke handle =>
      simp only [advance]
      split <;> exact .same lasting rfl rfl rfl
  | publish bus event => cases quiet
  | sleep interval => exact sleep_proceeds lasting interval
  | start work notice => exact .goes .nothing (keeps_registerTask lasting _ _ _) rfl rfl
  | adopt task target handle =>
      rcases adopt_cases machine ⟨owner, stack⟩ task target handle with
        ⟨-, adopts⟩ | ⟨-, refuses⟩
      · rw [advance, adopts]
        have kept := keeps_registerTask lasting machine.world task (.handlerEnded target handle)
        exact .goes .nothing kept rfl rfl
      · rw [advance, refuses]
        exact .same lasting rfl rfl rfl
  | wait tasks =>
      obtain ⟨control, world, parked⟩ := wait_turn ⟨owner, stack⟩ inside
      exact .parks (world ▸ lasting.refl _) control parked

theorem tell_keeps (machine : Machine) (task : TaskId) (notice : Notice) (reply : Reply) :
    keeps machine.world (machine.tell task notice reply).world := by
  cases notice with
  | loopEnded target id => exact lasting.setTasks machine.world target _
  | handlerEnded target handle =>
      have struck : keeps machine.world _ := lasting.setBackground machine.world target
        fun dispatcher => dispatcher.background.erase task
      simp only [tell, World.noteOutcome_eq _ target handle reply]
      exact lasting.trans struck (lasting.blamed _ _)
  | release waiter =>
      unfold tell
      simp only
      split <;> exact lasting.refl _

section Timeless

variable (timeless : ∀ (world : World) looping now trace,
  keeps world { world with looping, now, trace })
include timeless

theorem advance_publishing_keeps (publishes : focus.publishes stack = true) :
    keeps machine.world (machine.advance ⟨owner, stack⟩ focus).world := by
  cases focus with
  | publish | within => exact lasting.refl _
  | reply reply =>
      cases stack with
      | nil => cases publishes
      | cons frame rest =>
          cases frame with
          | publishing bus event id others =>
              simp only [advance, go]
              rcases World.resume_publishing_cases machine.world bus event id others reply with
                ⟨value, -, same⟩ | ⟨fault, -, -, same⟩ | ⟨fault, -, -, same⟩
              · exact same ▸ lasting.refl _
              · exact same ▸ timeless machine.world _ machine.world.now _
              · exact same ▸ lasting.refl _
          | _ => cases publishes
  | _ => cases publishes

/-- What lasts, whatever the clock shows and the log tells, is kept by every move, if a
handler that the move registers keeps it. -/
theorem Move.lasts (move : Move machine next) (sound : machine.Sound)
    (registered : ∀ thread focus target button handler, machine.control = .busy thread focus →
      focus.registers? machine.world = some (target, button, handler) →
      keeps machine.world (machine.world.registerHandler target button handler).1) :
    keeps machine.world next.world := by
  cases move with
  | @turn thread focus busy =>
      obtain ⟨owner, stack⟩ := thread
      cases publishes : focus.publishes stack with
      | true => exact advance_publishing_keeps lasting timeless publishes
      | false =>
          by_cases ends : ∃ reply, focus = .reply reply ∧ stack = []
          · obtain ⟨reply, rfl, rfl⟩ := ends
            cases owner <;> exact lasting.refl _
          · refine (advance_proceeds lasting publishes (sound.focus _ _ busy) ?_ ?_).lasts
            · exact fun target button handler registers =>
                registered _ _ target button handler busy registers
            · exact fun reply same empty => ends ⟨reply, same, empty⟩
  | @take before after job idle queued =>
      cases job with
      | go thread focus => exact lasting.refl _
      | tell task notice reply =>
          exact tell_keeps lasting { machine with ready := before ++ after } task notice reply
  | wake => exact timeless machine.world _ _ machine.world.trace
  | enter | launch => exact lasting.refl _
  | clock looping now trace => exact timeless machine.world looping now trace

end Timeless

end Machine

end Microboard
