import Microboard.Proofs.Machine.Turn
import Microboard.Proofs.World.Errands

/-!
# What a move does to the world

A move carries out one operation: a value is called, awaited work begins, or a caller goes on
with a reply.  Apart from these, the machine only keeps the lists of tasks and the log.
-/

namespace Microboard

namespace World

/-- What is done to the world besides the operations. -/
inductive Minor (world : World) : World → Prop where
  | refl : Minor world world
  | history (identities : Nat) (looping : Bool) (now : Float) (trace : List Entry) :
      Minor world { world with identities, looping, now, trace }
  | setTasks (target : Ref .scheduler) (tasks : Scheduler → List (Nat × TaskId)) :
      Minor world
        (world.setScheduler target fun scheduler => { scheduler with tasks := tasks scheduler })
  | setBackground (target : Ref .dispatcher) (background : Dispatcher → List TaskId) :
      Minor world
        (world.setDispatcher target fun dispatcher =>
          { dispatcher with background := background dispatcher })
  | blame {middle : World} (first : Minor world middle) (logger : Logger) (heading : String)
      (handle : Ref .handle) (fault : Fault) :
      Minor world (middle.noteFailure logger heading handle fault)

variable {scope : Scope} {old new : World}

theorem Minor.steps (minor : old.Minor new) : Steps scope old new := by
  induction minor with
  | refl => exact steps_refl old
  | history identities looping now trace =>
      exact .one (.history old old.configs identities looping now trace)
  | setTasks target tasks => exact .one (.setTasks old target tasks)
  | setBackground target background => exact .one (.setBackground old target background)
  | blame _ logger heading handle fault induction =>
      exact induction.trans (steps_noteFailure _ logger heading handle fault)

theorem Minor.size (minor : old.Minor new) :
    new.handles.items.length = old.handles.items.length := by
  induction minor with
  | refl | history | setTasks | setBackground => rfl
  | blame _ logger heading handle fault induction =>
      exact (congrArg Prod.snd (affairs_noteFailure logger heading handle fault)).trans induction

end World

namespace Machine

/-- The next turn carries out an operation. -/
def operates (machine : Machine) : Bool :=
  match machine.control with
  | .busy _ (.call ..) | .busy _ (.await _) | .busy ⟨_, _ :: _⟩ (.reply _) => true
  | _ => false

/-- The world after a move. -/
inductive Effect (machine : Machine) : World → Prop where
  | calls {thread : Thread} {target : Value} {arguments : Arguments}
      (busy : machine.control = .busy thread (.call target arguments)) :
      Effect machine (machine.world.callValue target arguments).1
  | begins {thread : Thread} {work : Work}
      (busy : machine.control = .busy thread (.await work)) :
      Effect machine (machine.world.begin work).1
  | resumes {owner : Option TaskId} {frame : Frame} {rest : List Frame} {reply : Reply}
      (busy : machine.control = .busy ⟨owner, frame :: rest⟩ (.reply reply)) :
      Effect machine (machine.world.resume frame reply).1
  | minor {world : World} (quiet : machine.operates = false) (change : machine.world.Minor world) :
      Effect machine world

variable {machine next : Machine}

theorem world_call (thread : Thread) (target : Value) (arguments : Arguments) :
    (machine.call thread target arguments).world =
      (machine.world.callValue target arguments).1 := by
  unfold call
  split
  · simp only
    split <;> rfl
  · rfl
  · rfl

theorem world_await (thread : Thread) (work : Work) :
    (machine.await thread work).world = (machine.world.begin work).1 := by
  cases work with
  | future task =>
      rcases join_cases machine thread task with ⟨reply, joins⟩ | joins <;>
        rw [await, joins] <;> rfl
  | _ => rfl

theorem minor_registerTask (world : World) (task : TaskId) (notice : Notice) :
    world.Minor (registerTask world task notice) := by
  cases notice with
  | loopEnded target id => exact .setTasks target _
  | handlerEnded target handle => exact .setBackground target _
  | release waiter => exact .refl

theorem minor_tell (machine : Machine) (task : TaskId) (notice : Notice) (reply : Reply) :
    machine.world.Minor (machine.tell task notice reply).world := by
  cases notice with
  | loopEnded target id => exact .setTasks target _
  | handlerEnded target handle =>
      have struck : machine.world.Minor _ :=
        .setBackground target fun dispatcher => dispatcher.background.erase task
      simp only [tell, World.noteOutcome]
      split
      · split
        · exact .blame struck _ _ _ _
        · exact struck
      · exact struck
  | release waiter =>
      unfold tell
      simp only
      split <;> exact .refl

theorem Move.effect (move : Move machine next) : Effect machine next.world := by
  cases move with
  | @turn thread focus busy =>
      obtain ⟨owner, stack⟩ := thread
      cases focus with
      | call target arguments => exact (world_call _ target arguments).symm ▸ .calls busy
      | await work => exact (world_await _ work).symm ▸ .begins busy
      | reply reply =>
          cases stack with
          | cons frame rest => exact .resumes busy
          | nil =>
              refine .minor (by simp [operates, busy]) ?_
              cases owner <;> exact .refl
      | run program =>
          refine .minor (by simp [operates, busy]) ?_
          cases program with
          | report label reply next => exact .history _ _ _ _
          | identify next => exact .history _ _ _ _
          | launch work next =>
              simp only [advance, run]
              split <;> exact .refl
          | _ => exact .refl
      | invoke handle =>
          refine .minor (by simp [operates, busy]) ?_
          simp only [advance]
          split <;> exact .refl
      | sleep interval =>
          refine .minor (by simp [operates, busy]) ?_
          simp only [advance, sleep]
          split <;> exact .history _ _ _ _
      | start work notice =>
          exact .minor (by simp [operates, busy]) (minor_registerTask machine.world _ notice)
      | adopt task target handle =>
          refine .minor (by simp [operates, busy]) ?_
          rcases adopt_cases machine ⟨owner, stack⟩ task target handle with
            ⟨-, adopts⟩ | ⟨-, refuses⟩
          · rw [advance, adopts]
            exact minor_registerTask machine.world task (.handlerEnded target handle)
          · rw [advance, refuses]
            exact .refl
      | wait tasks =>
          obtain ⟨records, more, -, -, waits⟩ := wait_eq machine ⟨owner, stack⟩ tasks
          simp only [advance, waits]
          exact .minor (by simp [operates, busy]) .refl
      | within | publish => exact .minor (by simp [operates, busy]) .refl
  | @take before after job idle queued =>
      cases job with
      | go thread focus => exact .minor (by simp [operates, idle]) .refl
      | tell task notice reply =>
          exact .minor (by simp [operates, idle])
            (minor_tell { machine with ready := before ++ after } task notice reply)
  | wake idle => exact .minor (by simp [operates, idle]) (.history _ _ _ _)
  | enter program idle => exact .minor (by simp [operates, idle]) .refl
  | launch work idle => exact .minor (by simp [operates, idle]) .refl
  | clock looping now trace idle =>
      exact .minor (by simp [operates, idle]) (.history _ _ _ _)

/-- No handle is created but by a call that lists a callback. -/
theorem Move.size (move : Move machine next) :
    next.world.handles.items.length = machine.world.handles.items.length ∨
      ∃ thread method arguments table,
        machine.control = .busy thread (.call (.method method) arguments) ∧
          machine.world.lists? method = some table := by
  have steady {pair : World × Focus} (same : World.Steady machine.world pair) :
      pair.1.handles.items.length = machine.world.handles.items.length :=
    congrArg Prod.snd same.affairs
  have effect := move.effect
  generalize next.world = after at effect ⊢
  cases effect with
  | @calls thread target arguments busy =>
      by_cases lists : ∃ method table, target = .method method ∧
          machine.world.lists? method = some table
      · obtain ⟨method, table, rfl, lists⟩ := lists
        exact .inr ⟨thread, method, arguments, table, busy, lists⟩
      · refine .inl (steady (World.callValue_steady fun method same => ?_))
        rw [Option.eq_none_iff_forall_ne_some]
        exact fun table listed => lists ⟨method, table, same, listed⟩
  | begins busy => exact .inl (steady (World.begin_steady _))
  | resumes busy => exact .inl (steady (World.resume_steady _))
  | minor quiet change => exact .inl change.size

end Machine

end Microboard
