import Microboard.Proofs.Pairing.Values
import Microboard.Proofs.Pairing.Worlds

/-!
# Operations of boards that are alike

What the parts of a board do in two worlds that are alike leaves them alike, and goes on
alike.
-/

namespace Microboard.World

variable {pairing : Pairing} {given grade : Grade} {left right : World}

namespace Outcome.Alike

theorem within {first second : World × Focus} (alike : Outcome.Alike pairing .plain first second)
    {frame : Frame} (plain : frame.isPlain = true) :
    Outcome.Alike pairing grade (first.1, .within frame first.2)
      (second.1, .within frame second.2) :=
  ⟨alike.world, .within (.same plain) alike.focus⟩

theorem nothing (alike : left.Alike pairing right) :
    Outcome.Alike pairing grade (left, .nothing) (right, .nothing) :=
  ⟨alike, .nothing⟩

theorem raise (alike : left.Alike pairing right) {fault : Fault} (blind : fault.Blind pairing) :
    Outcome.Alike pairing grade (left, .raise fault) (right, .raise fault) :=
  ⟨alike, .raise (.same blind)⟩

end Outcome.Alike

theorem activate_id (world : World) (target other : Ref .handle) :
    ((world.activate target).handles.get other).id = (world.handles.get other).id := by
  refine world.handles.get_modify_field Handle.id _ (fun handle => ?_) target other
  simp only [Handle.activate?]
  split <;> rfl

theorem sheltered_framesOf (world : World) (target : Ref .scroller) (text : String) :
    Sheltered pairing (world.framesOf target text) := by
  simp only [framesOf]
  split
  · exact .ok _
  · exact .error trivial

namespace Alike

theorem publishRest {bus : Ref .bus} {event : Value} (blind : event.Blind pairing)
    (printable : event.Printable) {rest others : List (Nat × Value)}
    (subscribers : List.Forall₂ (Subscription.Alike pairing bus) rest others) :
    Focus.Alike pairing grade (World.publishRest bus event rest)
      (World.publishRest bus event others) := by
  cases subscribers with
  | nil => exact .nothing
  | cons first rest =>
      refine .within (.publishing blind printable rest) (.call ?_)
      refine first.subscriber.called (Arguments.blind_single blind) fun place name => ?_
      rcases Arguments.get_single event place name with same | missing
      · rw [same]
        exact printable
      · rw [missing]
        exact printable_none

theorem publishTo (alike : left.Alike pairing right) (bus : Ref .bus) {event : Value}
    (blind : event.Blind pairing) (printable : event.Printable) :
    Focus.Alike pairing grade (left.publishTo bus event) (right.publishTo bus event) :=
  publishRest blind printable (alike.buses.each bus).subscribers

theorem announce (alike : left.Alike pairing right) (bus : Ref .bus) (event : Event) :
    Outcome.Alike pairing grade (left.announce bus event) (right.announce bus event) := by
  refine ⟨alike.counted, ?_⟩
  simp only [World.announce, World.withFresh, alike.identities]
  exact .publish trivial (printable_event event _)

theorem cancelAll (alike : left.Alike pairing right) (target : Ref .scheduler) :
    (left.cancelAll target).Alike pairing (right.cancelAll target) := by
  simp only [World.cancelAll, alike.table]
  exact alike.destroyAll _

theorem endingTasks (alike : left.Alike pairing right) (target : Ref .scheduler) :
    right.endingTasks target = left.endingTasks target := by
  have scheduler := alike.schedulers.each target
  have tables := alike.tables.each (left.schedulers.get target).table
  have tasks := scheduler.tasks
  rw [← scheduler.table] at tasks
  simp only [World.endingTasks, alike.table]
  generalize (left.schedulers.get target).tasks = lefts,
    (right.schedulers.get target).tasks = rights at tasks
  induction tasks with
  | nil => rfl
  | cons related _ induction =>
      simp only [List.filter_cons, tables.find? related.id]
      split
      · rw [List.map_cons, List.map_cons, induction, related.item]
      · exact induction

theorem startLoop (alike : left.Alike pairing right) (target : Ref .scheduler) {callback : Value}
    (blind : callback.Blind pairing) :
    Outcome.Alike pairing grade (left.startLoop target callback)
      (right.startLoop target callback) := by
  simp only [World.startLoop, alike.looping, alike.table]
  split
  · exact .raise alike trivial
  · rcases alike.createHandle (left.schedulers.get target).table blind "forever" with
      ⟨cause, failed, other⟩ | ⟨first, second, handle, created, other, enrolled, since⟩
    · simp only [failed, other]
      exact .raise alike trivial
    · simp only [created, other, activate_id]
      have given : Frame.Alike pairing .plain grade
          (.program fun _ => .finish (.ok (.handle handle)))
          (.program fun _ => .finish (.ok (.handle handle))) :=
        .program fun _ _ _ => .finish (.value trivial)
      refine ⟨enrolled.activate handle, .within given (.start trivial (.loopEnded ?_))⟩
      exact (alike.schedulers.each target).table ▸ since

theorem continueLoop (alike : left.Alike pairing right) (target : Ref .scheduler)
    (handle : Ref .handle) :
    Outcome.Alike pairing grade (left.continueLoop target handle)
      (right.continueLoop target handle) := by
  simp only [World.continueLoop, alike.isActive, alike.interval]
  split
  · exact ⟨alike, .pends rfl (.sleep _)⟩
  · exact .nothing (alike.log _ _ _ _)

theorem iterateLoop (alike : left.Alike pairing right) (target : Ref .scheduler)
    (handle : Ref .handle) :
    Outcome.Alike pairing grade (left.iterateLoop target handle)
      (right.iterateLoop target handle) := by
  simp only [World.iterateLoop, alike.isActive]
  split
  · exact ⟨alike, .within (.same rfl) (.invoke handle)⟩
  · exact .nothing (alike.log _ _ _ _)

theorem registerHandler (alike : left.Alike pairing right) (target : Ref .dispatcher)
    (button : Value) {handler : Value} (blind : handler.Blind pairing) :
    Outcome.Alike pairing grade (left.registerHandler target button handler)
      (right.registerHandler target button handler) := by
  simp only [World.registerHandler, alike.dispatchers]
  cases known : button.toButton with
  | error fault => exact .raise alike (sheltered_toButton button fault known)
  | ok button =>
      rcases alike.createHandle (left.dispatchers.get target).table blind
          ("button " ++ button.name) with
        ⟨cause, failed, other⟩ | ⟨first, second, handle, created, other, alike, since⟩
      · simp only [failed, other]
        exact .raise alike trivial
      · simp only [created, other]
        exact ⟨(alike.activate handle).setDispatcher target _, .value trivial⟩

theorem handlersOf (alike : left.Alike pairing right) (target : Ref .dispatcher)
    (button : Button) : right.handlersOf target button = left.handlersOf target button := by
  simp only [World.handlersOf, alike.dispatchers, alike.isActive]

theorem unregister (alike : left.Alike pairing right) (target : Ref .dispatcher)
    {handle : Ref .handle}
    (since : Since (pairing.number (left.dispatchers.get target).table)
      (left.handles.get handle).id (right.handles.get handle).id) :
    (left.unregister target handle).Alike pairing (right.unregister target handle) := by
  have table (change : PerButton (List (Ref .handle)) → PerButton (List (Ref .handle))) :
      ((left.dispatchers.modify target fun dispatcher =>
        { dispatcher with handlers := change dispatcher.handlers }).get target).table =
        (left.dispatchers.get target).table :=
    left.dispatchers.get_modify_field Dispatcher.table
      (fun dispatcher => { dispatcher with handlers := change dispatcher.handlers })
      (fun _ => rfl) target target
  have listed := alike.setDispatcher target fun dispatcher =>
    { dispatcher with handlers := dispatcher.handlers.map (·.erase handle) }
  simp only [World.unregister, World.setDispatcher, alike.dispatchers, table]
  simp only [World.setDispatcher, alike.dispatchers] at listed
  exact listed.destroyHandle since

theorem clearHandlers (alike : left.Alike pairing right) (target : Ref .dispatcher) :
    (left.clearHandlers target).Alike pairing (right.clearHandlers target) := by
  simp only [World.clearHandlers, alike.dispatchers]
  exact (alike.destroyAll _).setDispatcher target _

theorem resetDispatcher (alike : left.Alike pairing right) (target : Ref .dispatcher) :
    (left.resetDispatcher target).Alike pairing (right.resetDispatcher target) := by
  have cleared := alike.clearHandlers target
  simp only [World.resetDispatcher, cleared.dispatchers]
  exact cleared.setHardware _ _

theorem serve (alike : left.Alike pairing right) (target : Ref .dispatcher)
    (handles : List (Ref .handle)) :
    Focus.Alike pairing grade (left.serve target handles) (right.serve target handles) := by
  induction handles with
  | nil => exact .nothing
  | cons handle rest induction =>
      simp only [World.serve, alike.isActive]
      split
      · exact .within (.same rfl) (.invoke handle)
      · exact induction

theorem press (alike : left.Alike pairing right) (target : Ref .dispatcher) (button : Value) :
    Outcome.Alike pairing grade (left.press target button) (right.press target button) := by
  simp only [World.press, alike.dispatchers]
  cases known : button.toButton with
  | error fault => exact .raise alike (sheltered_toButton button fault known)
  | ok button => exact ((alike.setHardware _ _).announce _ _).within rfl

theorem sweep (alike : left.Alike pairing right) (target : Ref .bridge)
    (cells : List (Nat × Nat)) :
    Outcome.Alike pairing grade (left.sweep target cells) (right.sweep target cells) := by
  cases cells with
  | nil => exact .nothing alike
  | cons cell rest =>
      simp only [World.sweep, alike.bridges]
      exact ((alike.setHardware _ _).announce _ _).within rfl

theorem clearScreen (alike : left.Alike pairing right) (target : Ref .bridge) :
    Outcome.Alike pairing grade (left.clearScreen target) (right.clearScreen target) := by
  simp only [World.clearScreen, alike.bridges, alike.hardwares]
  exact alike.sweep target _

theorem drawCell (alike : left.Alike pairing right) (target : Ref .bridge) (x y : Value)
    (lit : Bool) :
    Outcome.Alike pairing grade (left.drawCell target x y lit) (right.drawCell target x y lit) := by
  simp only [World.drawCell, alike.bridges, alike.hardwares]
  split
  next fault failed => exact .raise alike (Hardware.sheltered_setLed _ x y _ fault failed)
  · exact (alike.setHardware _ _).announce _ _
  · exact .raise alike trivial
  · exact .raise alike trivial

theorem digitalWrite (alike : left.Alike pairing right) (target : Ref .bridge) {pin : Value}
    (blind : pin.Blind pairing) (level : Value) :
    Outcome.Alike pairing grade (left.digitalWrite target pin level)
      (right.digitalWrite target pin level) := by
  simp only [World.digitalWrite, alike.bridges, alike.hardwares]
  split
  next fault failed =>
    exact .raise alike (Hardware.sheltered_setLevel _ _ blind level fault failed)
  · exact (alike.setHardware _ _).announce _ _

theorem resetBoard (alike : left.Alike pairing right) (target : Ref .bridge) :
    Outcome.Alike pairing grade (left.resetBoard target) (right.resetBoard target) := by
  simp only [World.resetBoard, alike.bridges]
  exact ((((alike.cancelAll _).resetDispatcher _).setHardware _ _).announce _ _).within rfl

theorem draw (alike : left.Alike pairing right) (surface : Surface) (interval : Value)
    (strokes : List Scroll.Stroke) :
    Outcome.Alike pairing grade (left.draw surface interval strokes)
      (right.draw surface interval strokes) := by
  induction strokes generalizing left right with
  | nil => exact .nothing alike
  | cons stroke rest induction =>
      cases stroke with
      | pause => exact ⟨alike, .pends rfl (.sleep interval)⟩
      | clear =>
          cases surface with
          | matrix bridge => exact (alike.clearScreen bridge).within rfl
          | panel label => exact induction (alike.observe _)
      | plot x y =>
          cases surface with
          | matrix bridge => exact (alike.drawCell bridge _ _ _).within rfl
          | panel label => exact induction (alike.observe _)

theorem framesOf (alike : left.Alike pairing right) (target : Ref .scroller) (text : String) :
    right.framesOf target text = left.framesOf target text := by
  simp only [World.framesOf, alike.scrollers]

theorem scroll (alike : left.Alike pairing right) (target : Ref .scroller) (text : String)
    (interval : Value) :
    Outcome.Alike pairing grade (left.scroll target text interval)
      (right.scroll target text interval) := by
  simp only [World.scroll, alike.framesOf, alike.scrollers]
  split
  next fault failed => exact .raise alike (left.sheltered_framesOf target text fault failed)
  · exact alike.draw _ interval _

theorem showString (alike : left.Alike pairing right) (target : Ref .bridge) {text : Value}
    (printable : text.Printable) (interval : Value) :
    Outcome.Alike pairing grade (left.showString target text interval)
      (right.showString target text interval) := by
  simp only [World.showString, alike.bridges, printable right.describe left.describe]
  exact alike.scroll _ _ _

theorem closeBoard (alike : left.Alike pairing right) (target : Ref .board) :
    Outcome.Alike pairing grade (left.closeBoard target) (right.closeBoard target) := by
  simp only [World.closeBoard, alike.boards]
  exact ⟨(alike.cancelAll _).clearHandlers _, .within (.same rfl) (.await trivial)⟩

theorem waitFor (tasks : List TaskId) :
    Focus.Alike pairing grade (World.waitFor tasks) (World.waitFor tasks) := by
  unfold World.waitFor
  split
  · exact .nothing
  · exact .wait tasks

/-- Work begins alike on both sides. -/
theorem begin (alike : left.Alike pairing right) {work : Work} (blind : work.Blind pairing) :
    Outcome.Alike pairing grade (left.begin work) (right.begin work) := by
  cases work with
  | body callback invocation coroutine => exact .nothing alike
  | future task => exact .nothing alike
  | sleep interval => exact ⟨alike, .sleep interval⟩
  | showString target text interval => exact alike.showString target blind interval
  | scroll target text interval => exact alike.scroll target text interval
  | loop target handle =>
      simp only [World.begin, alike.interval]
      exact ⟨alike, .pends rfl (.sleep _)⟩
  | loopsIdle target =>
      simp only [World.begin, alike.endingTasks]
      exact ⟨alike, waitFor _⟩
  | handlersIdle target =>
      simp only [World.begin, alike.dispatchers]
      exact ⟨alike, waitFor _⟩
  | closeBoard target => exact alike.closeBoard target
  | closeKeeper target => exact blind.elim

theorem reported (alike : left.Alike pairing right) (label : String) (view other : View) :
    Outcome.Alike pairing grade (left.observe (.reported label view), .nothing)
      (right.observe (.reported label other), .nothing) :=
  .nothing (alike.observed (.reported label view other))

theorem noteOutcome (alike : left.Alike pairing right) (handle : Ref .handle)
    {reply another : Reply} (replies : Reply.Alike pairing grade reply another) :
    (left.noteOutcome handle reply).Alike pairing (right.noteOutcome handle another) := by
  cases replies with
  | ok seen => exact alike
  | error faults =>
      rcases faults.escapes with ⟨kept, held⟩ | ⟨first, second, escapes, escaped, -⟩
      · simp only [World.noteOutcome, kept, held]
        exact alike.noteFailure _ _ handle faults
      · simp only [World.noteOutcome, escapes, escaped]
        exact alike

/-- Work that a handler gives back is taken on alike. -/
theorem handOn (target : Ref .dispatcher) (handle : Ref .handle) (rest : List (Ref .handle))
    {work : Work} (blind : work.Blind pairing) :
    Focus.Alike pairing grade (World.handOn target handle rest work)
      (World.handOn target handle rest work) := by
  cases work with
  | future task => exact .pends rfl (.adopt target handle blind)
  | _ => exact .pends rfl (.start blind (.handlerEnded target handle))

theorem resumeError (alike : left.Alike pairing right) {frame other : Frame}
    (frames : Frame.Alike pairing given grade frame other) {fault another : Fault}
    (faults : fault.Alike pairing another) :
    Outcome.Alike pairing grade (left.resume frame (.error fault))
      (right.resume other (.error another)) := by
  have raised : Outcome.Alike pairing grade (left, .raise fault) (right, .raise another) :=
    ⟨alike, .raise faults⟩
  cases frames with
  | program follows => exact ⟨alike, .run (follows _ _ (.error faults))⟩
  | publishing blind printable rest =>
      simp only [World.resume, faults.isOrdinary]
      split
      · exact ⟨alike.log _ _ _ _, publishRest blind printable rest⟩
      · exact raised
  | same plain =>
      cases frame with
      | program | publishing => cases plain
      | pressing target handle rest =>
          rcases faults.escapes with ⟨kept, held⟩ | ⟨first, second, escapes, escaped, alikes⟩
          · simp only [World.resume, kept, held]
            have logged := alike.noteFailure .buttons "Error in button handler: " handle faults
            exact ⟨logged, logged.serve target rest⟩
          · simp only [World.resume, escapes, escaped]
            exact ⟨alike, .raise alikes⟩
      | iterating target handle | iterationAwaits target handle =>
          rcases faults.escapes with ⟨kept, held⟩ | ⟨first, second, escapes, escaped, alikes⟩
          · simp only [World.resume, kept, held]
            exact (alike.noteFailure _ _ handle faults).continueLoop target handle
          · simp only [World.resume, escapes, escaped]
            exact ⟨alike, .raise alikes⟩
      | spawned | spawnAwaits => exact alike.reported "spawn" _ _
      | _ => exact raised

theorem resumeOk (alike : left.Alike pairing right) {frame other : Frame}
    (frames : Frame.Alike pairing given grade frame other) {value another : Value}
    (seen : Value.Seen pairing given value another) :
    Outcome.Alike pairing grade (left.resume frame (.ok value))
      (right.resume other (.ok another)) := by
  obtain ⟨works, blind⟩ := seen.work?
  cases frames with
  | program follows => exact ⟨alike, .run (follows _ _ (.ok seen))⟩
  | publishing shown printable rest => exact ⟨alike, publishRest shown printable rest⟩
  | same plain =>
      cases frame with
      | program | publishing => cases plain
      | pressed target button =>
          simp only [World.resume, alike.dispatchers]
          exact ⟨alike, alike.serve target _⟩
      | pressing target handle rest =>
          simp only [World.resume, works, alike.looping]
          cases awaited : value.work? with
          | none => exact ⟨alike, alike.serve target rest⟩
          | some work =>
              simp only
              split
              · exact ⟨alike, handOn target handle rest (blind work awaited)⟩
              · have refused : Fault.Alike pairing (.complaint .noEventLoop)
                    (.complaint .noEventLoop) := .same trivial
                have logged := alike.noteFailure .buttons "Error in button handler: " handle refused
                exact ⟨logged, logged.serve target rest⟩
      | serving target rest => exact ⟨alike, alike.serve target rest⟩
      | clearing target rest => exact alike.sweep target rest
      | drawing surface interval rest => exact alike.draw surface interval rest
      | announced => exact .nothing (alike.log _ _ _ _)
      | loopSlept target handle => exact alike.iterateLoop target handle
      | iterating target handle =>
          simp only [World.resume, works]
          cases awaited : value.work? with
          | none => exact alike.continueLoop target handle
          | some work => exact ⟨alike, .within (.same rfl) (.await (blind work awaited))⟩
      | iterationAwaits target handle => exact alike.continueLoop target handle
      | closingLoops target =>
          simp only [World.resume, alike.boards]
          exact ⟨alike, .within (.same rfl) (.await trivial)⟩
      | closingHandlers target =>
          simp only [World.resume, alike.boards]
          exact .nothing (alike.setBus _ fun keeps => ⟨keeps.next, .nil⟩)
      | spawned =>
          simp only [World.resume, works]
          cases awaited : value.work? with
          | none => exact alike.reported "spawn" _ _
          | some work =>
              simp only
              split
              · exact ⟨alike, .within (.same rfl) (.await (blind work awaited))⟩
              · exact alike.reported "spawn" _ _
      | spawnAwaits => exact alike.reported "spawn" _ _

/-- Pending operations go on alike after replies that are alike. -/
theorem resume (alike : left.Alike pairing right) {frame other : Frame}
    (frames : Frame.Alike pairing given grade frame other) {reply another : Reply}
    (replies : Reply.Alike pairing given reply another) :
    Outcome.Alike pairing grade (left.resume frame reply) (right.resume other another) := by
  cases replies with
  | ok seen => exact alike.resumeOk frames seen
  | error faults => exact alike.resumeError frames faults

end Alike

end Microboard.World
