import Microboard.Proofs.Machine.Accounted
import Microboard.Proofs.Machine.Issued
import Microboard.Proofs.Pairing.Calls

/-!
# Machines that are alike

Two machines are alike when their worlds are and when they are about to do the same,
up to the numbers of handles and subscriptions.  Every turn keeps them alike.
-/

namespace Microboard

section Lists

variable {α β : Type} {relation : α → β → Prop} {left : List α} {right : List β}

theorem related_getElem? (related : List.Forall₂ relation left right) (place : Nat) :
    Option.Rel relation left[place]? right[place]? := by
  induction related generalizing place with
  | nil => exact .none
  | cons first _ induction =>
      cases place with
      | zero => exact .some first
      | succ place => simpa using induction place

theorem related_modify (related : List.Forall₂ relation left right) (place : Nat)
    {change : α → α} {other : β → β}
    (keeps : ∀ item another, relation item another → relation (change item) (other another)) :
    List.Forall₂ relation (left.modify place change) (right.modify place other) := by
  induction related generalizing place with
  | nil => simp
  | cons first rest induction =>
      cases place with
      | zero => exact .cons (keeps _ _ first) rest
      | succ place => exact .cons first (induction place)

theorem related_eraseIdx (related : List.Forall₂ relation left right) (place : Nat) :
    List.Forall₂ relation (left.eraseIdx place) (right.eraseIdx place) := by
  induction related generalizing place with
  | nil => exact .nil
  | cons first rest induction =>
      cases place with
      | zero => exact rest
      | succ place => exact .cons first (induction place)

theorem related_countP (related : List.Forall₂ relation left right) {counts : α → Bool}
    {other : β → Bool} (same : ∀ item another, relation item another →
      other another = counts item) : right.countP other = left.countP counts := by
  induction related with
  | nil => rfl
  | cons first _ induction => simp only [List.countP_cons, induction, same _ _ first]

theorem getD_modify [Inhabited α] (items : List α) (place other : Nat) (change : α → α) :
    (items.modify place change).getD other default =
      if place = other ∧ other < items.length then change (items.getD other default)
      else items.getD other default := by
  simp only [List.getD_eq_getElem?_getD, List.getElem?_modify]
  by_cases same : place = other
  · by_cases inside : other < items.length
    · simp [same, inside]
    · simp [same, inside]
  · simp [same]

theorem getD_snoc [Inhabited α] (items : List α) (item : α) (place : Nat) :
    (items ++ [item]).getD place default =
      if place = items.length then item else items.getD place default := by
  simp only [List.getD_eq_getElem?_getD, List.getElem?_append]
  by_cases inside : place < items.length
  · simp [inside, Nat.ne_of_lt inside]
  · by_cases last : place = items.length
    · simp [last]
    · have beyond : place - items.length ≠ 0 := by omega
      simp [inside, last, beyond]

theorem lookup_filter_ne {name other : String} (items : List (String × α))
    (differs : other ≠ name) :
    (items.filter fun item => item.1 ≠ name).lookup other = items.lookup other := by
  induction items with
  | nil => rfl
  | cons item rest induction =>
      obtain ⟨key, value⟩ := item
      by_cases own : key = name
      · have miss : (other == key) = false := by simpa [own] using differs
        simp only [own, List.lookup_cons] at induction ⊢
        rw [own] at miss
        simpa [miss] using induction
      · simp only [List.filter_cons, own, ne_eq, not_false_eq_true, decide_true, if_true,
          List.lookup_cons]
        split
        · rfl
        · exact induction

end Lists

variable {pairing : Pairing}

/-- Pending operations that go on alike: from replies of one grade to those of another. -/
inductive Stack.Alike (pairing : Pairing) : Grade → Grade → List Frame → List Frame → Prop where
  | nil {given asked : Grade} (fits : given.Fits asked) : Stack.Alike pairing given asked [] []
  | cons {given next asked : Grade} {frame other : Frame} {stack rest : List Frame}
      (frames : Frame.Alike pairing given next frame other)
      (below : Stack.Alike pairing next asked stack rest) :
      Stack.Alike pairing given asked (frame :: stack) (other :: rest)

/-- What is known of the end of a thread. -/
def Pairing.final (pairing : Pairing) : Option TaskId → Grade
  | none => .numbered
  | some _ => pairing.results

/-- Two threads that go on alike from replies of a grade. -/
structure Thread.Alike (pairing : Pairing) (given : Grade) (left right : Thread) : Prop where
  owner : left.owner = right.owner
  stack : Stack.Alike pairing given (pairing.final left.owner) left.stack right.stack

theorem Thread.Alike.fits {given asked : Grade} {left right : Thread}
    (alike : Thread.Alike pairing asked left right) (fits : given.Fits asked) :
    Thread.Alike pairing given left right := by
  obtain ⟨owner, stack⟩ := left
  obtain ⟨_, others⟩ := right
  obtain ⟨rfl, piles⟩ := alike
  refine ⟨rfl, ?_⟩
  cases piles with
  | nil enough => exact .nil (fits.trans enough)
  | cons frames below => exact .cons (frames.fits fits) below

/-- Two threads that go on alike when they are told nothing. -/
def Thread.Rests (pairing : Pairing) (left right : Thread) : Prop :=
  ∃ given, Thread.Alike pairing given left right

theorem Thread.Rests.owner {left right : Thread} (rests : left.Rests pairing right) :
    left.owner = right.owner := by
  obtain ⟨given, alike⟩ := rests
  exact alike.owner

inductive Job.Alike (pairing : Pairing) : Job → Job → Prop where
  | go {given : Grade} {thread other : Thread} {focus another : Focus}
      (threads : thread.Alike pairing given other)
      (foci : Focus.Alike pairing given focus another) :
      Job.Alike pairing (.go thread focus) (.go other another)
  | tell (task : TaskId) {notice other : Notice} {reply another : Reply}
      (notices : notice.Alike pairing other)
      (replies : Reply.Alike pairing pairing.results reply another) :
      Job.Alike pairing (.tell task notice reply) (.tell task other another)
  | release (task : TaskId) (waiter : Nat) (reply another : Reply) :
      Job.Alike pairing (.tell task (.release waiter) reply) (.tell task (.release waiter) another)

theorem Job.Alike.wakes {left right : Thread} (rests : left.Rests pairing right) :
    Job.Alike pairing (.go left .nothing) (.go right .nothing) := by
  obtain ⟨given, alike⟩ := rests
  exact .go alike .nothing

/-- Two results that are the same or alike. -/
def Reply.Agrees (pairing : Pairing) (left right : Reply) : Prop :=
  left = right ∨ Reply.Alike pairing .numbered left right

structure Task.Alike (pairing : Pairing) (left right : Task) : Prop where
  outcome : Option.Rel (Reply.Agrees pairing) left.outcome right.outcome
  notices : List.Forall₂ (Notice.Alike pairing) left.notices right.notices

structure Sleeper.Alike (pairing : Pairing) (left right : Sleeper) : Prop where
  due : left.due = right.due
  number : left.number = right.number
  thread : left.thread.Rests pairing right.thread

/-- Two waiters: the thread of a waiter that waits no more is of no account. -/
structure Waiter.Alike (pairing : Pairing) (left right : Waiter) : Prop where
  remaining : left.remaining = right.remaining
  thread : left.remaining ≠ 0 → left.thread.Rests pairing right.thread

inductive Control.Alike (pairing : Pairing) : Control → Control → Prop where
  | idle : Control.Alike pairing .idle .idle
  | busy {given : Grade} {thread other : Thread} {focus another : Focus}
      (threads : thread.Alike pairing given other)
      (foci : Focus.Alike pairing given focus another) :
      Control.Alike pairing (.busy thread focus) (.busy other another)

structure Callback.Alike (pairing : Pairing) (left right : Callback) : Prop where
  style : left.style = right.style
  body : ∀ invocation,
    Program.Alike pairing pairing.results (left.body invocation) (right.body invocation)
  invocations : left.invocations = right.invocations

namespace Machine

/-- Two machines that are about to do the same, whatever their worlds are. -/
structure Scene (pairing : Pairing) (left right : Machine) : Prop where
  names : ∀ name told, pairing.name name = some told →
    Option.Rel (Value.Seen pairing told) (left.names.lookup name) (right.names.lookup name)
  size : left.callbacks.length = right.callbacks.length
  fresh : ∀ index, left.callbacks.length ≤ index → pairing.callback index
  callbacks : ∀ index, pairing.callback index →
    (left.callbacks.getD index default).Alike pairing (right.callbacks.getD index default)
  control : left.control.Alike pairing right.control
  outcome : Option.Rel (Reply.Agrees pairing) left.outcome right.outcome
  ready : List.Forall₂ (Job.Alike pairing) left.ready right.ready
  sleepers : List.Forall₂ (Sleeper.Alike pairing) left.sleepers right.sleepers
  slept : left.slept = right.slept
  tasks : List.Forall₂ (Task.Alike pairing) left.tasks right.tasks
  later : ∀ task : TaskId, left.tasks.length ≤ task.index → pairing.task task
  results : ∀ task, pairing.task task →
    Option.Rel (Reply.Alike pairing pairing.results) (left.outcomeOf task) (right.outcomeOf task)
  waiters : List.Forall₂ (Waiter.Alike pairing) left.waiters right.waiters

theorem Scene.inWorlds {left right : Machine} (scene : left.Scene pairing right)
    (first second : World) :
    Scene pairing { left with world := first } { right with world := second } :=
  ⟨scene.names, scene.size, scene.fresh, scene.callbacks, scene.control, scene.outcome,
    scene.ready, scene.sleepers, scene.slept, scene.tasks, scene.later, scene.results,
    scene.waiters⟩

/-- Two machines that differ in the numbers of handles and subscriptions only. -/
structure Alike (pairing : Pairing) (left right : Machine) : Prop where
  world : left.world.Alike pairing right.world
  scene : left.Scene pairing right

namespace Alike

variable {left right : Machine} {given grade : Grade} {thread other : Thread}

theorem go (alike : left.Alike pairing right) (threads : thread.Alike pairing given other)
    {first second : World × Focus} (outcome : World.Outcome.Alike pairing given first second) :
    (left.go thread first).Alike pairing (right.go other second) :=
  ⟨outcome.world, { alike.scene with control := .busy threads outcome.focus }⟩

/-- A thread goes on in the same world. -/
theorem goOn (alike : left.Alike pairing right) (threads : thread.Alike pairing given other)
    {focus another : Focus} (foci : Focus.Alike pairing given focus another) :
    (left.go thread (left.world, focus)).Alike pairing
      (right.go other (right.world, another)) :=
  alike.go threads ⟨alike.world, foci⟩

theorem enqueue (alike : left.Alike pairing right) {jobs others : List Job}
    (queued : List.Forall₂ (Job.Alike pairing) jobs others) :
    (left.enqueue jobs).Alike pairing (right.enqueue others) :=
  ⟨alike.world, { alike.scene with ready := List.rel_append alike.scene.ready queued }⟩

theorem registerTask {left right : World} (alike : left.Alike pairing right) (task : TaskId)
    {notice other : Notice} (notices : notice.Alike pairing other) :
    (Machine.registerTask left task notice).Alike pairing
      (Machine.registerTask right task other) := by
  cases notices with
  | loopEnded since =>
      refine alike.setScheduler _ fun keeps => ?_
      exact ⟨keeps.table, keeps.other, keeps.interval, keeps.blind,
        List.rel_append keeps.tasks (.cons ⟨since, rfl⟩ .nil)⟩
  | handlerEnded => exact alike.setDispatcher _ _
  | release => exact alike

theorem registerTasks {left right : World} (alike : left.Alike pairing right) (task : TaskId)
    {notices others : List Notice} (related : List.Forall₂ (Notice.Alike pairing) notices others) :
    (notices.foldl (fun world notice => Machine.registerTask world task notice) left).Alike pairing
      (others.foldl (fun world notice => Machine.registerTask world task notice) right) := by
  induction related generalizing left right with
  | nil => exact alike
  | cons first _ induction => exact induction (registerTask alike task first)

theorem createTask (alike : left.Alike pairing right) {stack rest : List Frame}
    (piles : Stack.Alike pairing given pairing.results stack rest) {focus another : Focus}
    (foci : Focus.Alike pairing given focus another) {notices others : List Notice}
    (related : List.Forall₂ (Notice.Alike pairing) notices others) :
    (left.createTask stack focus notices).1.Alike pairing
      (right.createTask rest another others).1 := by
  have count := alike.scene.tasks.length_eq
  have results (task : TaskId) (mentioned : pairing.task task) :
      Option.Rel (Reply.Alike pairing pairing.results)
        ((left.createTask stack focus notices).1.outcomeOf task)
        ((right.createTask rest another others).1.outcomeOf task) := by
    rw [outcome_createTask, outcome_createTask]
    exact alike.scene.results task mentioned
  have threads (task : TaskId) :
      Thread.Alike pairing given ⟨some task, stack⟩ ⟨some task, rest⟩ := ⟨rfl, piles⟩
  simp only [Machine.createTask, ← count] at results ⊢
  refine ⟨registerTasks alike.world _ related, ?_⟩
  refine
    { alike.scene with
      tasks := List.rel_append alike.scene.tasks (.cons ⟨.none, related⟩ .nil)
      later := ?_
      results := results
      ready := List.rel_append alike.scene.ready (.cons (.go (threads _) foci) .nil) }
  intro task beyond
  rw [List.length_append] at beyond
  exact alike.scene.later task (Nat.le_of_add_right_le beyond)

theorem finish (alike : left.Alike pairing right) (owner : Option TaskId) {reply another : Reply}
    (replies : Reply.Alike pairing (pairing.final owner) reply another) :
    (left.finish owner reply).Alike pairing (right.finish owner another) := by
  cases owner with
  | none =>
      exact ⟨alike.world,
        { alike.scene with control := .idle, outcome := .some (.inr replies) }⟩
  | some task =>
      have notices : List.Forall₂ (Notice.Alike pairing)
          (((left.tasks[task.index]?).map (·.notices)).getD [])
          (((right.tasks[task.index]?).map (·.notices)).getD []) := by
        have tasks := related_getElem? alike.scene.tasks task.index
        generalize left.tasks[task.index]? = first, right.tasks[task.index]? = second at tasks
        cases tasks with
        | none => exact .nil
        | some related => exact related.notices
      have agree : Reply.Agrees pairing reply another :=
        .inr (replies.fits (Grade.fits_numbered _))
      refine ⟨alike.world, ?_⟩
      refine
        { alike.scene with
          control := .idle
          tasks := related_modify alike.scene.tasks _ fun _ _ _ => ⟨.some agree, .nil⟩
          later := ?_
          results := ?_
          ready := List.rel_append alike.scene.ready
            (List.rel_map (fun _ _ related => .tell task related replies) notices) }
      · intro other beyond
        simp only [Machine.finish, List.length_modify] at beyond
        exact alike.scene.later other beyond
      · intro other mentioned
        have results := alike.scene.results other mentioned
        have tasks := related_getElem? alike.scene.tasks other.index
        simp only [outcomeOf, Machine.finish, List.getElem?_modify] at results ⊢
        generalize left.tasks[other.index]? = first, right.tasks[other.index]? = second
          at results tasks
        cases tasks with
        | none => exact .none
        | some related =>
            by_cases same : task.index = other.index
            · simpa only [same, if_true] using .some replies
            · simpa only [same, if_false, Option.map_eq_map, Option.map_some] using results

theorem sleep (alike : left.Alike pairing right) (threads : thread.Alike pairing given other)
    (interval : Value) :
    (left.sleep thread interval).Alike pairing (right.sleep other interval) := by
  have observed := alike.world.observe (.slept interval)
  simp only [Machine.sleep, observed.now]
  split
  next fault failed =>
    refine alike.go threads ⟨observed, .raise (.same ?_)⟩
    unfold wakeTime at failed
    split at failed
    · cases failed
      trivial
    · cases failed
    · split at failed
      · cases failed
      · split at failed
        · cases failed
        · cases failed
          trivial
  · refine ⟨observed, ?_⟩
    exact
      { alike.scene with
        control := .idle
        sleepers := List.rel_append alike.scene.sleepers
          (.cons ⟨rfl, alike.scene.slept, ⟨_, threads⟩⟩ .nil)
        slept := congrArg (· + 1) alike.scene.slept }

theorem outcome (alike : left.Alike pairing right) (task : TaskId) :
    Option.Rel (Reply.Agrees pairing) (left.outcomeOf task) (right.outcomeOf task) := by
  have tasks := related_getElem? alike.scene.tasks task.index
  unfold outcomeOf
  generalize left.tasks[task.index]? = first, right.tasks[task.index]? = second at tasks
  cases tasks with
  | none => exact .none
  | some related => exact related.outcome

/-- Notice of the end of a task is asked for on both sides. -/
theorem watch (alike : left.Alike pairing right) (notice : Notice) (task : TaskId)
    (notices : notice.Alike pairing notice)
    (told : ∀ reply another, left.outcomeOf task = some reply →
      right.outcomeOf task = some another →
        Job.Alike pairing (.tell task notice reply) (.tell task notice another)) :
    (Machine.watch notice left task).Alike pairing (Machine.watch notice right task) := by
  have ended := alike.outcome task
  have results (other : TaskId) (mentioned : pairing.task other) :
      Option.Rel (Reply.Alike pairing pairing.results)
        ((Machine.watch notice left task).outcomeOf other)
        ((Machine.watch notice right task).outcomeOf other) := by
    rw [outcome_watch, outcome_watch]
    exact alike.scene.results other mentioned
  unfold Machine.watch at results ⊢
  unfold outcomeOf at ended told
  generalize first : (left.tasks[task.index]?).bind (·.outcome) = ending,
    second : (right.tasks[task.index]?).bind (·.outcome) = other at ended results
  cases ended with
  | some agrees => exact alike.enqueue (.cons (told _ _ first second) .nil)
  | none =>
      refine ⟨alike.world, { alike.scene with tasks := ?_, later := ?_, results := results }⟩
      · exact related_modify alike.scene.tasks _ fun _ _ related =>
          ⟨related.outcome, List.rel_append related.notices (.cons notices .nil)⟩
      · simpa using alike.scene.later

theorem watchAll (alike : left.Alike pairing right) (waiter : Nat) (tasks : List TaskId) :
    (tasks.foldl (Machine.watch (.release waiter)) left).Alike pairing
      (tasks.foldl (Machine.watch (.release waiter)) right) := by
  induction tasks generalizing left right with
  | nil => exact alike
  | cons task rest induction =>
      exact induction (alike.watch (.release waiter) task (.release waiter) fun _ _ _ _ =>
        .release task waiter _ _)

/-- A task that is there already is taken on alike. -/
theorem adopt (alike : left.Alike pairing right) (threads : thread.Alike pairing given other)
    {task : TaskId} (mentioned : pairing.task task) (target : Ref .dispatcher)
    (handle : Ref .handle) :
    (left.adopt thread task target handle).Alike pairing
      (right.adopt other task target handle) := by
  simp only [Machine.adopt, ← alike.scene.tasks.length_eq]
  split
  · have watched := alike.watch (.handlerEnded target handle) task
        (.handlerEnded target handle) <| by
      intro reply another first second
      have results := alike.scene.results task mentioned
      rw [first, second] at results
      exact .tell task (.handlerEnded target handle) (Option.rel_some_some.mp results)
    have listed := registerTask alike.world task (.handlerEnded target handle)
    exact watched.go threads ⟨listed, .nothing⟩
  · exact alike.goOn threads (.complaint _)

theorem wait (alike : left.Alike pairing right) (threads : thread.Alike pairing given other)
    (tasks : List TaskId) : (left.wait thread tasks).Alike pairing (right.wait other tasks) := by
  have count := alike.scene.waiters.length_eq
  simp only [Machine.wait, ← count]
  have entered : Alike pairing
      { left with control := .idle, waiters := left.waiters ++ [⟨tasks.length, thread⟩] }
      { right with control := .idle, waiters := right.waiters ++ [⟨tasks.length, other⟩] } := by
    refine ⟨alike.world, ?_⟩
    exact
      { alike.scene with
        control := .idle
        waiters := List.rel_append alike.scene.waiters
          (.cons ⟨rfl, fun _ => ⟨_, threads⟩⟩ .nil) }
  exact entered.watchAll _ tasks

theorem callback (alike : left.Alike pairing right)
    (threads : thread.Alike pairing pairing.results other)
    {index : Nat} (mentioned : pairing.callback index) (arguments others : Arguments) :
    (left.call thread (.callback index) arguments).Alike pairing
      (right.call other (.callback index) others) := by
  have callbacks := alike.scene.callbacks index mentioned
  have counted : Alike pairing
      { left with
        callbacks := left.callbacks.modify index fun callback =>
          { callback with
            invocations := (left.callbacks.getD index default).invocations + 1 } }
      { right with
        callbacks := right.callbacks.modify index fun callback =>
          { callback with
            invocations := (right.callbacks.getD index default).invocations + 1 } } := by
    refine ⟨alike.world, { alike.scene with size := ?_, fresh := ?_, callbacks := ?_ }⟩
    · simpa using alike.scene.size
    · simpa using alike.scene.fresh
    · intro place given
      have related := alike.scene.callbacks place given
      simp only [getD_modify, ← alike.scene.size]
      split
      · exact ⟨related.style, related.body, congrArg (· + 1) callbacks.invocations⟩
      · exact related
  simp only [Machine.call, ← callbacks.style, ← callbacks.invocations] at counted ⊢
  cases (left.callbacks.getD index default).style with
  | plain => exact counted.goOn threads (.run (callbacks.body _))
  | coroutine | awaitable => exact counted.goOn threads (.value mentioned)

/-- A call does the same on both sides. -/
theorem call (alike : left.Alike pairing right)
    {target another : Value} {arguments others : Arguments}
    (calls : Call.Alike pairing target arguments another others)
    (threads : thread.Alike pairing (target.callGrade pairing) other)
    (fair : ∀ method table handle, target = .method method →
      left.world.destroyed? method arguments = some (table, handle) →
        World.Alike.Matched pairing left.world right.world table handle) :
    (left.call thread target arguments).Alike pairing (right.call other another others) := by
  have called := alike.world.callValue calls fair
  cases calls with
  | same blind given shown =>
      cases target with
      | callback index => exact alike.callback threads blind arguments arguments
      | method method =>
          cases method with
          | function => exact blind.elim
          | _ => exact alike.go threads called
      | _ => exact alike.go threads called
  | _ => exact alike.go threads called

/-- The end of a task is awaited alike. -/
theorem join (alike : left.Alike pairing right)
    (threads : thread.Alike pairing pairing.results other) {task : TaskId}
    (mentioned : pairing.task task) :
    (left.join thread task).Alike pairing (right.join other task) := by
  have tasks := related_getElem? alike.scene.tasks task.index
  have results := alike.scene.results task mentioned
  simp only [Machine.join, outcomeOf] at results ⊢
  generalize left.tasks[task.index]? = first, right.tasks[task.index]? = second at tasks results
  cases tasks with
  | none => exact alike.goOn threads (.complaint _)
  | @some record another related =>
      obtain ⟨ending, notices⟩ := record
      obtain ⟨final, others⟩ := another
      cases results with
      | some replies => exact alike.goOn threads (.reply replies)
      | none =>
          simp only [← threads.owner]
          split
          · exact alike.goOn threads (.complaint _)
          · have again : Frame.Alike pairing .plain pairing.results
                (.program fun _ => .await (.future task) .finish)
                (.program fun _ => .await (.future task) .finish) :=
              .program fun _ _ _ => .await mentioned fun _ _ replies => .finish replies
            exact alike.goOn threads (.within again (.wait [task]))

theorem await (alike : left.Alike pairing right) {work : Work} (blind : work.Blind pairing)
    (threads : thread.Alike pairing (work.grade pairing) other) :
    (left.await thread work).Alike pairing (right.await other work) := by
  cases work with
  | future task => exact alike.join threads blind
  | body index invocation coroutine =>
      exact alike.goOn threads (.run ((alike.scene.callbacks index blind).body invocation))
  | _ => exact alike.go threads (alike.world.begin blind)

theorem bind (alike : left.Alike pairing right) (name : String) {value another : Value}
    (seen : ∀ told, pairing.name name = some told → Value.Seen pairing told value another) :
    (left.bind name value).Alike pairing (right.bind name another) := by
  refine ⟨alike.world, { alike.scene with names := ?_ }⟩
  intro asked told known
  by_cases same : asked = name
  · subst same
    simpa [Machine.bind] using Option.Rel.some (seen told known)
  · have miss : (asked == name) = false := by simpa using same
    simp only [Machine.bind, List.lookup_cons, miss, lookup_filter_ne _ same]
    exact alike.scene.names asked told known

theorem define (alike : left.Alike pairing right) (style : Style) {body another : Nat → Program}
    (bodies : ∀ invocation,
      Program.Alike pairing pairing.results (body invocation) (another invocation)) :
    Alike pairing { left with callbacks := left.callbacks ++ [⟨style, body, 0⟩] }
      { right with callbacks := right.callbacks ++ [⟨style, another, 0⟩] } := by
  refine ⟨alike.world, { alike.scene with size := ?_, fresh := ?_, callbacks := ?_ }⟩
  · simpa using alike.scene.size
  · intro index beyond
    rw [List.length_append] at beyond
    exact alike.scene.fresh index (Nat.le_of_add_right_le beyond)
  · intro index mentioned
    simp only [getD_snoc, ← alike.scene.size]
    split
    · exact ⟨rfl, bodies, rfl⟩
    · exact alike.scene.callbacks index mentioned

/-- A program goes on alike on both sides. -/
theorem run (alike : left.Alike pairing right) (threads : thread.Alike pairing given other)
    {program another : Program} (programs : Program.Alike pairing given program another) :
    (left.run thread program).Alike pairing (right.run other another) := by
  cases programs with
  | finish replies => exact alike.goOn threads (.reply replies)
  | read values shared follows =>
      exact alike.goOn threads (.run (follows _ _ (alike.world.property values shared)))
  | call calls follows =>
      exact alike.goOn threads (.within (.program follows) (.call calls))
  | await blind follows =>
      exact alike.goOn threads (.within (.program follows) (.await blind))
  | @lookup _ name told next after known follows =>
      refine alike.goOn threads (.run (follows _ _ ?_))
      have names := alike.scene.names name told known
      unfold Machine.resolve
      generalize left.names.lookup name = first, right.names.lookup name = second at names
      cases names with
      | none => exact .error (.same trivial)
      | some seen => exact .ok seen
  | bind seen follows => exact (alike.bind _ seen).goOn threads (.run follows)
  | report replies follows =>
      exact alike.go threads ⟨alike.world.observed (.reported _ _ _), .run follows⟩
  | define bodies follows =>
      refine (alike.define _ bodies).goOn threads (.run ?_)
      rw [← alike.scene.size]
      exact follows _ (alike.scene.fresh _ (Nat.le_refl _))
  | identify follows =>
      refine alike.go threads ⟨alike.world.counted, .run ?_⟩
      rw [alike.world.identities]
      exact follows _
  | @spawn _ callback _ _ blind follows =>
      have calls : Call.Alike pairing callback .empty callback .empty :=
        (Value.Alike.same blind).called Arguments.blind_empty fun _ _ => printable_none
      have ended : Stack.Alike pairing .plain pairing.results [] [] := .nil (.inr rfl)
      have spawned : Frame.Alike pairing (callback.callGrade pairing) .plain .spawned .spawned :=
        .same rfl
      have piles := Stack.Alike.cons spawned ended
      exact (alike.createTask piles (.call calls) .nil).goOn threads (.run follows)
  | @launch _ work _ _ blind follows =>
      simp only [Machine.run, alike.world.looping]
      split
      · have created := alike.createTask (.nil work.fits) (.await blind) .nil
        refine created.goOn threads (.run ?_)
        simp only [Machine.createTask, ← alike.scene.tasks.length_eq]
        exact follows _ _ (.value (alike.scene.later _ (Nat.le_refl _)))
      · exact alike.goOn threads (.run (follows _ _ (.error (.same trivial))))

/-- A turn of a thread keeps two machines alike, as long as a table that it asks to destroy
a handle does so by numbers that stand for each other. -/
theorem advance (alike : left.Alike pairing right) (threads : thread.Alike pairing given other)
    {focus another : Focus} (foci : Focus.Alike pairing given focus another)
    (fair : ∀ method arguments table handle, focus = .call (.method method) arguments →
      left.world.destroyed? method arguments = some (table, handle) →
        World.Alike.Matched pairing left.world right.world table handle) :
    (left.advance thread focus).Alike pairing (right.advance other another) := by
  cases foci with
  | reply replies =>
      obtain ⟨owner, stack⟩ := thread
      obtain ⟨_, others⟩ := other
      obtain ⟨rfl, piles⟩ := threads
      cases piles with
      | nil fits => exact alike.finish owner (replies.fits fits)
      | @cons _ next _ frame otherFrame stack others frames rest =>
          have below : Thread.Alike pairing next ⟨owner, stack⟩ ⟨owner, others⟩ := ⟨rfl, rest⟩
          exact alike.go below (alike.world.resume frames replies)
  | @within above _ frame otherFrame focus another frames foci =>
      have deeper : Thread.Alike pairing above ⟨thread.owner, frame :: thread.stack⟩
          ⟨other.owner, otherFrame :: other.stack⟩ := ⟨threads.owner, .cons frames threads.stack⟩
      exact alike.goOn deeper foci
  | run programs => exact alike.run threads programs
  | call calls =>
      exact alike.call calls threads fun method table handle same =>
        fair method _ table handle (by rw [same])
  | await blind => exact alike.await blind threads
  | invoke handle =>
      simp only [Machine.advance]
      rcases alike.world.callbackOf handle with
        ⟨callback, another, callbacks, -, found, same⟩ | ⟨fault, another, faults, lost, same⟩
      · rw [found, same]
        refine alike.goOn (threads.fits callback.fits)
          (.call (callbacks.called Arguments.blind_empty ?_))
        exact fun _ _ => printable_none
      · rw [lost, same]
        exact alike.goOn threads (.raise faults)
  | publish blind printable =>
      exact alike.goOn threads (alike.world.publishTo _ blind printable)
  | sleep interval => exact alike.sleep threads interval
  | @start _ work _ _ blind notices =>
      have created := alike.createTask (.nil work.fits) (.await blind) (.cons notices .nil)
      exact created.goOn threads .nothing
  | adopt dispatcher handle mentioned => exact alike.adopt threads mentioned dispatcher handle
  | wait tasks => exact alike.wait threads tasks

theorem released (alike : left.Alike pairing right) (task : TaskId) {waiter : Nat}
    (reply another : Reply) (waits : left.remaining waiter ≠ 0) :
    (left.tell task (.release waiter) reply).Alike pairing
      (right.tell task (.release waiter) another) := by
  have waiters := related_getElem? alike.scene.waiters waiter
  cases listed : left.waiters[waiter]? with
  | none => simp [remaining, listed] at waits
  | some record =>
      have pending : record.remaining ≠ 0 := by simpa [remaining, listed] using waits
      rw [listed] at waiters
      cases found : right.waiters[waiter]? with
      | none =>
          rw [found] at waiters
          cases waiters
      | some twin =>
          rw [found] at waiters
          obtain ⟨same, threads⟩ : record.Alike pairing twin := by
            cases waiters
            assumption
          rw [tell_release task reply listed, tell_release task another found, ← same]
          refine ⟨alike.world, { alike.scene with ready := ?_, waiters := ?_ }⟩
          · refine List.rel_append alike.scene.ready ?_
            split
            · exact .cons (.wakes (threads pending)) .nil
            · exact .nil
          · refine related_modify alike.scene.waiters waiter fun first second related => ?_
            refine ⟨congrArg (· - 1) related.remaining, fun left => related.thread fun spent => ?_⟩
            simp [spent] at left

theorem tell (alike : left.Alike pairing right) (task : TaskId) {notice other : Notice}
    (notices : notice.Alike pairing other) {reply another : Reply}
    (replies : Reply.Alike pairing pairing.results reply another)
    (waits : ∀ waiter, notice = .release waiter → left.remaining waiter ≠ 0) :
    (left.tell task notice reply).Alike pairing (right.tell task other another) := by
  cases notices with
  | release waiter => exact alike.released task reply another (waits waiter rfl)
  | loopEnded since =>
      refine ⟨alike.world.setScheduler _ fun keeps => ?_, alike.scene.inWorlds _ _⟩
      refine ⟨keeps.table, keeps.other, keeps.interval, keeps.blind, ?_⟩
      refine List.rel_filter (fun first second related => ?_) keeps.tasks
      simp [related.id.eq_iff since]
  | handlerEnded dispatcher handle =>
      have removed := alike.world.setDispatcher dispatcher fun dispatcher =>
        { dispatcher with background := dispatcher.background.erase task }
      exact ⟨removed.noteOutcome handle replies, alike.scene.inWorlds _ _⟩

/-- Serving a job of the queue keeps two machines alike. -/
theorem serve (alike : left.Alike pairing right) {job other : Job}
    (jobs : job.Alike pairing other)
    (waits : ∀ waiter, job.releases waiter = true → left.remaining waiter ≠ 0) :
    (left.serve job).Alike pairing (right.serve other) := by
  cases jobs with
  | go threads foci => exact ⟨alike.world, { alike.scene with control := .busy threads foci }⟩
  | tell task notices replies =>
      refine alike.tell task notices replies fun waiter same => waits waiter ?_
      simp [Job.releases, same]
  | release task waiter reply another =>
      exact alike.released task reply another (waits waiter (by simp [Job.releases]))

theorem dequeue (alike : left.Alike pairing right) (place : Nat) :
    Alike pairing { left with ready := left.ready.eraseIdx place }
      { right with ready := right.ready.eraseIdx place } :=
  ⟨alike.world, { alike.scene with ready := related_eraseIdx alike.scene.ready place }⟩

theorem wake (alike : left.Alike pairing right) {sleeper other : Sleeper}
    (sleepers : sleeper.Alike pairing other) :
    (left.wake sleeper).Alike pairing (right.wake other) := by
  have now := alike.world.now
  constructor
  case world =>
    simp only [Machine.wake, ← sleepers.due, now]
    exact alike.world.setNow _
  case scene =>
    refine { alike.scene with ready := ?_, sleepers := ?_ }
    · exact List.rel_append alike.scene.ready (.cons (.wakes sleepers.thread) .nil)
    · refine List.rel_filter (fun first second related => ?_) alike.scene.sleepers
      simp [related.number, sleepers.number]

end Alike

theorem Scene.live {left right : Machine} (scene : left.Scene pairing right)
    (owner : Option TaskId) : right.live owner = left.live owner := by
  have runs : right.runs owner = left.runs owner := by
    have control := scene.control
    unfold Machine.runs
    generalize left.control = first, right.control = second at control
    cases control with
    | idle => rfl
    | busy threads foci => simp only [threads.owner]
  have ready : right.ready.countP (jobOf owner) = left.ready.countP (jobOf owner) := by
    refine related_countP scene.ready fun job other jobs => ?_
    cases jobs with
    | go threads foci => simp only [jobOf, threads.owner]
    | tell | release => rfl
  have sleepers : right.sleepers.countP (fun sleeper => sleeper.thread.owner = owner) =
      left.sleepers.countP (fun sleeper => sleeper.thread.owner = owner) := by
    refine related_countP scene.sleepers fun sleeper other related => ?_
    simp only [related.thread.owner]
  have waiters : right.waiters.countP (waiterOf owner) =
      left.waiters.countP (waiterOf owner) := by
    refine related_countP scene.waiters fun waiter other related => ?_
    by_cases spent : waiter.remaining = 0
    · simp [waiterOf, ← related.remaining, spent]
    · simp [waiterOf, ← related.remaining, (related.thread spent).owner]
  simp only [Machine.live, runs, ready, sleepers, waiters]

end Machine

end Microboard
