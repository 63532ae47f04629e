import Microboard.Proofs.Pairing.Alike
import Microboard.Proofs.World.Ledger

/-!
# Worlds that are alike

Two worlds are alike when they differ in nothing but the numbers of handles and
subscriptions, and in what is logged.  Whatever happens to both of them leaves them
alike.
-/

namespace Microboard

namespace Arena

variable {component : Component} {α : Type} [Inhabited α]
variable {relation : Ref component → α → α → Prop} {left right : Arena component α}

/-- Two arenas of one size whose objects correspond to each other place by place. -/
structure Alike (relation : Ref component → α → α → Prop) (left right : Arena component α) :
    Prop where
  size : left.items.length = right.items.length
  each : ∀ target, relation target (left.get target) (right.get target)

theorem Alike.has (alike : left.Alike relation right) (target : Ref component) :
    left.Has target ↔ right.Has target := by
  simp only [Has, alike.size]

theorem Alike.fresh (alike : left.Alike relation right) : right.fresh = left.fresh :=
  congrArg Ref.mk alike.size.symm

theorem Alike.modify (alike : left.Alike relation right) {target : Ref component}
    {change other : α → α}
    (keeps : relation target (left.get target) (right.get target) →
      relation target (change (left.get target)) (other (right.get target))) :
    (left.modify target change).Alike relation (right.modify target other) := by
  constructor
  case size => simpa [Arena.modify] using alike.size
  case each =>
    intro place
    by_cases same : place = target
    · subst same
      by_cases has : left.Has place
      · rw [get_modify_self _ has, get_modify_self _ ((alike.has place).mp has)]
        exact keeps (alike.each place)
      · have missing : ¬ right.Has place := fun found => has ((alike.has place).mpr found)
        have each := alike.each place
        rw [get_of_not_has has, get_of_not_has missing] at each
        rw [get_of_not_has fun found => has (has_modify.mp found),
          get_of_not_has fun found => missing (has_modify.mp found)]
        exact each
    · rw [get_modify_of_ne _ _ same, get_modify_of_ne _ _ same]
      exact alike.each place

theorem Alike.push (alike : left.Alike relation right) {item other : α}
    (related : relation left.fresh item other) :
    (left.push item).Alike relation (right.push other) := by
  constructor
  case size => simpa [Arena.push] using alike.size
  case each =>
    intro place
    by_cases has : left.Has place
    · rw [get_push_of_has has, get_push_of_has ((alike.has place).mp has)]
      exact alike.each place
    · by_cases last : place = left.fresh
      · subst last
        rw [get_push_fresh, ← alike.fresh, get_push_fresh]
        exact alike.fresh ▸ related
      · have missing : ¬ right.Has place := fun found => has ((alike.has place).mpr found)
        have each := alike.each place
        rw [get_of_not_has has, get_of_not_has missing] at each
        rw [get_of_not_has fun found => (has_or_fresh found).elim has last,
          get_of_not_has fun found => (has_or_fresh found).elim missing (alike.fresh ▸ last)]
        exact each

end Arena

variable {pairing : Pairing}

structure Handle.Alike (pairing : Pairing) (left right : Handle) : Prop where
  id : pairing.Named left.id right.id
  kind : left.kind = right.kind
  callback : Option.Rel (Value.Alike pairing) left.callback right.callback
  stage : left.stage = right.stage
  failures : left.failures = right.failures
  lastFailure : left.lastFailure.Alike pairing right.lastFailure

/-- Two entries under numbers that stand for each other. -/
structure Numbered.Alike {α : Type} (pairing : Pairing) (table : Ref .table)
    (left right : Nat × α) : Prop where
  id : Since (pairing.number table) left.1 right.1
  item : left.2 = right.2

structure HandleTable.Alike (pairing : Pairing) (table : Ref .table)
    (left right : HandleTable) : Prop where
  next : Since (pairing.number table) left.next right.next
  entries : List.Forall₂ (Numbered.Alike pairing table) left.entries right.entries

structure Bus.Alike (pairing : Pairing) (bus : Ref .bus) (left right : Bus) : Prop where
  next : Since (pairing.token bus) left.next right.next
  subscribers : List.Forall₂ (Subscription.Alike pairing bus) left.subscribers right.subscribers

structure Scheduler.Alike (pairing : Pairing) (target : Ref .scheduler)
    (left right : Scheduler) : Prop where
  table : left.table = pairing.table target
  other : right.table = pairing.table target
  interval : left.interval = right.interval
  blind : left.interval.Blind pairing
  tasks : List.Forall₂ (Numbered.Alike pairing (pairing.table target)) left.tasks right.tasks

/-- Two observations of the same: logged messages and the views of what scripts report may
tell of numbers. -/
inductive Entry.Alike : Entry → Entry → Prop where
  | same (entry : Entry) : Entry.Alike entry entry
  | log (level : Level) (logger : Logger) (message other : String) :
      Entry.Alike (.log level logger message) (.log level logger other)
  | reported (label : String) (view other : View) :
      Entry.Alike (.reported label view) (.reported label other)

namespace HandleTable.Alike

variable {table : Ref .table} {left right : HandleTable} {id other : Nat}

theorem handles (alike : left.Alike pairing table right) : right.handles = left.handles := by
  have entries := alike.entries
  simp only [HandleTable.handles]
  generalize left.entries = lefts, right.entries = rights at entries
  induction entries with
  | nil => rfl
  | cons related _ induction => simp [induction, related.item]

theorem insert (alike : left.Alike pairing table right) (target : Ref .handle) :
    (left.insert target).Alike pairing table (right.insert target) where
  next := alike.next.succ
  entries := List.rel_append alike.entries (.cons ⟨alike.next, rfl⟩ .nil)

theorem erase (alike : left.Alike pairing table right)
    (since : Since (pairing.number table) id other) :
    (left.erase id).Alike pairing table (right.erase other) where
  next := alike.next
  entries := by
    refine List.rel_filter (fun first second related => ?_) alike.entries
    simp [related.id.eq_iff since]

theorem find? (alike : left.Alike pairing table right)
    (since : Since (pairing.number table) id other) : right.find? other = left.find? id := by
  have entries := alike.entries
  simp only [HandleTable.find?]
  generalize left.entries = lefts, right.entries = rights at entries
  induction entries with
  | nil => rfl
  | @cons first second _ _ related _ induction =>
      obtain ⟨leftId, item⟩ := first
      obtain ⟨rightId, _⟩ := second
      obtain rfl := related.item
      have hit : (other == rightId) = (id == leftId) := since.beq related.id
      simp only [List.lookup_cons, hit, induction]

end HandleTable.Alike

namespace Bus.Alike

variable {bus : Ref .bus} {left right : Bus} {id other : Nat}

theorem subscribe (alike : left.Alike pairing bus right) {subscriber : Value}
    (blind : subscriber.Blind pairing) :
    (left.subscribe subscriber).Alike pairing bus (right.subscribe subscriber) where
  next := alike.next.succ
  subscribers := List.rel_append alike.subscribers (.cons ⟨.inr alike.next, .same blind⟩ .nil)

theorem unsubscribe (alike : left.Alike pairing bus right)
    (since : Since (pairing.token bus) id other) :
    (left.unsubscribe id).Alike pairing bus (right.unsubscribe other) where
  next := alike.next
  subscribers := by
    refine List.rel_filter (fun first second related => ?_) alike.subscribers
    simp [related.id.eq_iff since]

theorem isSubscribed (alike : left.Alike pairing bus right)
    (since : Since (pairing.token bus) id other) :
    right.isSubscribed other = left.isSubscribed id := by
  have subscribers := alike.subscribers
  simp only [Bus.isSubscribed]
  generalize left.subscribers = lefts, right.subscribers = rights at subscribers
  induction subscribers with
  | nil => rfl
  | cons related _ induction => simp only [List.any_cons, induction, related.id.beq since]

end Bus.Alike

namespace World

/-- Two worlds that differ in numbers and logs only.  The numbers of handles that a table
lists stand for each other in that table. -/
structure Alike (pairing : Pairing) (left right : World) : Prop where
  same : right =
    { left with
      buses := right.buses, tables := right.tables, handles := right.handles
      schedulers := right.schedulers, trace := right.trace }
  buses : left.buses.Alike (Bus.Alike pairing) right.buses
  tables : left.tables.Alike (HandleTable.Alike pairing) right.tables
  handles : left.handles.Alike (fun _ => Handle.Alike pairing) right.handles
  schedulers : left.schedulers.Alike (Scheduler.Alike pairing) right.schedulers
  listed : ∀ table handle, handle ∈ left.listed table → left.handles.Has handle ∧
    Since (pairing.number table) (left.handles.get handle).id (right.handles.get handle).id
  trace : List.Forall₂ Entry.Alike left.trace right.trace

/-- What comes of an operation in two worlds. -/
structure Outcome.Alike (pairing : Pairing) (grade : Grade) (left right : World × Focus) :
    Prop where
  world : left.1.Alike pairing right.1
  focus : left.2.Alike pairing grade right.2

namespace Alike

variable {left right : World}

theorem hardwares (alike : left.Alike pairing right) : right.hardwares = left.hardwares := by
  rw [alike.same]

theorem dispatchers (alike : left.Alike pairing right) : right.dispatchers = left.dispatchers := by
  rw [alike.same]

theorem bridges (alike : left.Alike pairing right) : right.bridges = left.bridges := by
  rw [alike.same]

theorem scrollers (alike : left.Alike pairing right) : right.scrollers = left.scrollers := by
  rw [alike.same]

theorem boards (alike : left.Alike pairing right) : right.boards = left.boards := by
  rw [alike.same]

theorem identities (alike : left.Alike pairing right) : right.identities = left.identities := by
  rw [alike.same]

theorem looping (alike : left.Alike pairing right) : right.looping = left.looping := by
  rw [alike.same]

theorem now (alike : left.Alike pairing right) : right.now = left.now := by
  rw [alike.same]

theorem table (alike : left.Alike pairing right) (target : Ref .scheduler) :
    (right.schedulers.get target).table = (left.schedulers.get target).table :=
  (alike.schedulers.each target).other.trans (alike.schedulers.each target).table.symm

theorem interval (alike : left.Alike pairing right) (target : Ref .scheduler) :
    (right.schedulers.get target).interval = (left.schedulers.get target).interval :=
  (alike.schedulers.each target).interval.symm

theorem isActive (alike : left.Alike pairing right) (target : Ref .handle) :
    (right.handles.get target).isActive = (left.handles.get target).isActive := by
  simp only [Handle.isActive, (alike.handles.each target).stage]

theorem isDestroyed (alike : left.Alike pairing right) (target : Ref .handle) :
    (right.handles.get target).isDestroyed = (left.handles.get target).isDestroyed := by
  simp only [Handle.isDestroyed, (alike.handles.each target).stage]

theorem observed (alike : left.Alike pairing right) {entry other : Entry}
    (entries : entry.Alike other) :
    (left.observe entry).Alike pairing (right.observe other) where
  same := congrArg (fun world => world.observe other) alike.same
  buses := alike.buses
  tables := alike.tables
  handles := alike.handles
  schedulers := alike.schedulers
  listed := alike.listed
  trace := .cons entries alike.trace

theorem observe (alike : left.Alike pairing right) (entry : Entry) :
    (left.observe entry).Alike pairing (right.observe entry) :=
  alike.observed (.same entry)

theorem log (alike : left.Alike pairing right) (level : Level) (logger : Logger)
    (message other : String) :
    (left.log level logger message).Alike pairing (right.log level logger other) :=
  alike.observed (.log level logger message other)

theorem counted (alike : left.Alike pairing right) :
    Alike pairing { left with identities := left.identities + 1 }
      { right with identities := right.identities + 1 } where
  same := congrArg (fun world : World => { world with identities := world.identities + 1 })
    alike.same
  buses := alike.buses
  tables := alike.tables
  handles := alike.handles
  schedulers := alike.schedulers
  listed := alike.listed
  trace := alike.trace

theorem setNow (alike : left.Alike pairing right) (now : Float) :
    Alike pairing { left with now } { right with now } where
  same := congrArg (fun world : World => { world with now }) alike.same
  buses := alike.buses
  tables := alike.tables
  handles := alike.handles
  schedulers := alike.schedulers
  listed := alike.listed
  trace := alike.trace

theorem setLooping (alike : left.Alike pairing right) (looping : Bool) :
    Alike pairing { left with looping } { right with looping } where
  same := congrArg (fun world : World => { world with looping }) alike.same
  buses := alike.buses
  tables := alike.tables
  handles := alike.handles
  schedulers := alike.schedulers
  listed := alike.listed
  trace := alike.trace

theorem setTrace (alike : left.Alike pairing right) {trace other : List Entry}
    (traces : List.Forall₂ Entry.Alike trace other) :
    Alike pairing { left with trace } { right with trace := other } where
  same := congrArg (fun world : World => { world with trace := other }) alike.same
  buses := alike.buses
  tables := alike.tables
  handles := alike.handles
  schedulers := alike.schedulers
  listed := alike.listed
  trace := traces

theorem setHardware (alike : left.Alike pairing right) (target : Ref .hardware)
    (change : Hardware → Hardware) :
    (left.setHardware target change).Alike pairing (right.setHardware target change) where
  same := congrArg (fun world => world.setHardware target change) alike.same
  buses := alike.buses
  tables := alike.tables
  handles := alike.handles
  schedulers := alike.schedulers
  listed := alike.listed
  trace := alike.trace

theorem setDispatcher (alike : left.Alike pairing right) (target : Ref .dispatcher)
    (change : Dispatcher → Dispatcher) :
    (left.setDispatcher target change).Alike pairing (right.setDispatcher target change) where
  same := congrArg (fun world => world.setDispatcher target change) alike.same
  buses := alike.buses
  tables := alike.tables
  handles := alike.handles
  schedulers := alike.schedulers
  listed := alike.listed
  trace := alike.trace

theorem setBus (alike : left.Alike pairing right) (target : Ref .bus) {change other : Bus → Bus}
    (keeps : (left.buses.get target).Alike pairing target (right.buses.get target) →
      (change (left.buses.get target)).Alike pairing target (other (right.buses.get target))) :
    (left.setBus target change).Alike pairing (right.setBus target other) where
  same := congrArg (fun world : World => { world with buses := right.buses.modify target other })
    alike.same
  buses := alike.buses.modify keeps
  tables := alike.tables
  handles := alike.handles
  schedulers := alike.schedulers
  listed := alike.listed
  trace := alike.trace

theorem setScheduler (alike : left.Alike pairing right) (target : Ref .scheduler)
    {change other : Scheduler → Scheduler}
    (keeps : (left.schedulers.get target).Alike pairing target (right.schedulers.get target) →
      (change (left.schedulers.get target)).Alike pairing target
        (other (right.schedulers.get target))) :
    (left.setScheduler target change).Alike pairing (right.setScheduler target other) where
  same := congrArg
    (fun world : World => { world with schedulers := right.schedulers.modify target other })
    alike.same
  buses := alike.buses
  tables := alike.tables
  handles := alike.handles
  schedulers := alike.schedulers.modify keeps
  listed := alike.listed
  trace := alike.trace

theorem setHandle (alike : left.Alike pairing right) (target : Ref .handle)
    {change other : Handle → Handle}
    (keeps : (left.handles.get target).Alike pairing (right.handles.get target) →
      (change (left.handles.get target)).Alike pairing (other (right.handles.get target)))
    (numbers : ∀ handle, (change handle).id = handle.id ∧ (other handle).id = handle.id) :
    (left.setHandle target change).Alike pairing (right.setHandle target other) where
  same := congrArg
    (fun world : World => { world with handles := right.handles.modify target other })
    alike.same
  buses := alike.buses
  tables := alike.tables
  handles := alike.handles.modify keeps
  schedulers := alike.schedulers
  listed table handle member := by
    obtain ⟨has, since⟩ := alike.listed table handle member
    refine ⟨Arena.has_modify.mpr has, ?_⟩
    have first := left.handles.get_modify_field Handle.id change
      (fun handle => (numbers handle).1) target handle
    have second := right.handles.get_modify_field Handle.id other
      (fun handle => (numbers handle).2) target handle
    simp only [World.setHandle, first, second]
    exact since
  trace := alike.trace

/-- A table may be changed on both sides as long as what it lists then is listed already, or
has numbers that stand for each other. -/
theorem setTable (alike : left.Alike pairing right) (target : Ref .table)
    {change other : HandleTable → HandleTable}
    (keeps : (left.tables.get target).Alike pairing target (right.tables.get target) →
      (change (left.tables.get target)).Alike pairing target (other (right.tables.get target)))
    (lists : ∀ handle ∈ (change (left.tables.get target)).handles,
      handle ∈ left.listed target ∨ left.handles.Has handle ∧
        Since (pairing.number target) (left.handles.get handle).id
          (right.handles.get handle).id) :
    (left.setTable target change).Alike pairing (right.setTable target other) where
  same := congrArg (fun world : World => { world with tables := right.tables.modify target other })
    alike.same
  buses := alike.buses
  tables := alike.tables.modify keeps
  handles := alike.handles
  schedulers := alike.schedulers
  listed table handle member := by
    by_cases own : table = target
    · subst own
      by_cases has : left.tables.Has table
      · simp only [World.listed, World.setTable, Arena.get_modify_self _ has] at member
        exact (lists handle member).elim (alike.listed table handle) id
      · have missing : ¬ (left.setTable table change).tables.Has table :=
          fun found => has (Arena.has_modify.mp found)
        rw [World.listed, Arena.get_of_not_has missing] at member
        exact absurd member List.not_mem_nil
    · simp only [World.listed, World.setTable, Arena.get_modify_of_ne _ _ own] at member
      exact alike.listed table handle member
  trace := alike.trace

/-- A new handle on both sides, not yet listed. -/
theorem pushHandle (alike : left.Alike pairing right) {handle other : Handle}
    (related : handle.Alike pairing other) :
    Alike pairing { left with handles := left.handles.push handle }
      { right with handles := right.handles.push other } where
  same := congrArg (fun world : World => { world with handles := right.handles.push other })
    alike.same
  buses := alike.buses
  tables := alike.tables
  handles := alike.handles.push related
  schedulers := alike.schedulers
  listed table target member := by
    obtain ⟨has, since⟩ := alike.listed table target member
    refine ⟨Arena.has_push has, ?_⟩
    rw [Arena.get_push_of_has has, Arena.get_push_of_has ((alike.handles.has target).mp has)]
    exact since
  trace := alike.trace

/-- Listing a callback fails on both sides, or it gives the same handle on both sides. -/
theorem createHandle (alike : left.Alike pairing right) (table : Ref .table) {callback : Value}
    (blind : callback.Blind pairing) (kind : String) :
    (∃ cause, left.createHandle table callback kind = (left, .error (.complaint cause)) ∧
      right.createHandle table callback kind = (right, .error (.complaint cause))) ∨
    ∃ first second handle, left.createHandle table callback kind = (first, .ok handle) ∧
      right.createHandle table callback kind = (second, .ok handle) ∧
      first.Alike pairing second ∧
      Since (pairing.number table) (first.handles.get handle).id
        (second.handles.get handle).id := by
  have next := (alike.tables.each table).next
  simp only [World.createHandle]
  split
  · refine .inr ⟨_, _, left.handles.fresh, rfl, by rw [alike.handles.fresh], ?_, ?_⟩
    · apply log
      have related : (Handle.registered (left.tables.get table).next kind callback).Alike pairing
          (Handle.registered (right.tables.get table).next kind callback) :=
        ⟨.inr ⟨table, next⟩, rfl, .some (.same blind), rfl, rfl, .same trivial⟩
      refine (alike.pushHandle related).setTable table (fun keeps => keeps.insert _) ?_
      intro handle member
      rw [HandleTable.handles_insert] at member
      refine (List.mem_append.mp member).imp_right fun last => ?_
      rw [List.mem_singleton.mp last]
      refine ⟨Arena.has_push_fresh _ _, ?_⟩
      rw [Arena.get_push_fresh, ← alike.handles.fresh, Arena.get_push_fresh]
      exact next
    · simp only [World.log, World.observe, World.setTable]
      rw [Arena.get_push_fresh, ← alike.handles.fresh, Arena.get_push_fresh]
      exact next
  · exact .inl ⟨_, rfl, rfl⟩

theorem activate (alike : left.Alike pairing right) (target : Ref .handle) :
    (left.activate target).Alike pairing (right.activate target) := by
  refine alike.setHandle target ?_ ?_
  · intro keeps
    by_cases destroyed : (right.handles.get target).stage = .destroyed
    · simp only [Handle.activate?, Handle.isDestroyed, keeps.stage, destroyed, decide_true,
        if_true]
      exact keeps
    · simp only [Handle.activate?, Handle.isDestroyed, keeps.stage, destroyed, decide_false,
        Bool.false_eq_true, if_false]
      exact ⟨keeps.id, keeps.kind, keeps.callback, rfl, keeps.failures, keeps.lastFailure⟩
  · intro handle
    simp only [Handle.activate?, and_self]
    split <;> rfl

/-- Destroying a handle by numbers that stand for each other drops the same entries on both
sides. -/
theorem destroyHandle (alike : left.Alike pairing right) {table : Ref .table}
    {target : Ref .handle}
    (since : Since (pairing.number table) (left.handles.get target).id
      (right.handles.get target).id) :
    (left.destroyHandle table target).Alike pairing (right.destroyHandle table target) := by
  have erased : (left.setTable table (·.erase (left.handles.get target).id)).Alike pairing
      (right.setTable table (·.erase (right.handles.get target).id)) := by
    refine alike.setTable table (fun keeps => keeps.erase since) fun handle member => .inl ?_
    obtain ⟨entry, found, rfl⟩ := List.mem_map.mp member
    exact List.mem_map_of_mem (List.mem_filter.mp found).1
  simp only [World.destroyHandle, (alike.tables.each table).find? since]
  refine setHandle ?_ target ?_ fun _ => ⟨rfl, rfl⟩
  · split
    · exact erased.log _ _ _ _
    · exact erased
  · intro keeps
    exact ⟨keeps.id, keeps.kind, .none, rfl, keeps.failures, keeps.lastFailure⟩

theorem destroyAll (alike : left.Alike pairing right) (table : Ref .table) :
    (left.destroyAll table).Alike pairing (right.destroyAll table) := by
  have numbers := alike.listed table
  simp only [World.destroyAll, (alike.tables.each table).handles, World.listed] at numbers ⊢
  generalize (left.tables.get table).handles = targets at numbers
  induction targets generalizing left right with
  | nil => exact alike
  | cons target rest induction =>
      rw [List.foldl_cons, List.foldl_cons]
      refine induction (alike.destroyHandle (numbers target List.mem_cons_self).2) ?_
      intro handle member
      obtain ⟨has, since⟩ := numbers handle (List.mem_cons_of_mem _ member)
      simp only [destroyHandle_handles, Arena.has_modify,
        Arena.get_modify_field _ Handle.id Handle.destroy fun _ => rfl]
      exact ⟨has, since⟩

theorem storeFailure (alike : left.Alike pairing right) (target : Ref .handle)
    {cause other : Value} (causes : cause.Alike pairing other) :
    (left.storeFailure target cause).1.Alike pairing (right.storeFailure target other).1 ∧
      (left.storeFailure target cause).2.Alike pairing (right.storeFailure target other).2 := by
  have handle := alike.handles.each target
  have failures : Fault.Alike pairing
      (.callbackFailure (.int (left.handles.get target).id)
        (.str (left.handles.get target).kind) cause)
      (.callbackFailure (.int (right.handles.get target).id)
        (.str (right.handles.get target).kind) other) := by
    rw [← handle.kind]
    exact .callbackFailure handle.id causes
  simp only [World.storeFailure, World.withFresh, alike.identities]
  refine ⟨?_, .fault failures⟩
  have counted := alike.counted
  rw [alike.identities] at counted
  refine counted.setHandle target (fun keeps => ?_) fun _ => ⟨rfl, rfl⟩
  exact ⟨keeps.id, keeps.kind, keeps.callback, keeps.stage, congrArg (· + 1) keeps.failures,
    .fault failures⟩

theorem noteFailure (alike : left.Alike pairing right) (logger : Logger) (heading : String)
    (target : Ref .handle) {fault other : Fault} (faults : fault.Alike pairing other) :
    (left.noteFailure logger heading target fault).Alike pairing
      (right.noteFailure logger heading target other) := by
  simp only [World.noteFailure, World.withFresh]
  apply log
  refine (alike.counted.storeFailure target ?_).1
  rw [alike.identities]
  exact .fault faults

/-- The callback of a handle is the same on both sides, or it is gone on both sides. -/
theorem callbackOf (alike : left.Alike pairing right) (target : Ref .handle) :
    (∃ callback other, callback.Alike pairing other ∧
      (left.handles.get target).callback = some callback ∧
      left.callbackOf target = .ok callback ∧ right.callbackOf target = .ok other) ∨
    ∃ fault other, fault.Alike pairing other ∧
      left.callbackOf target = .error fault ∧ right.callbackOf target = .error other := by
  have handle := alike.handles.each target
  have callbacks := handle.callback
  simp only [World.callbackOf]
  generalize (left.handles.get target).callback = first,
    (right.handles.get target).callback = second at callbacks
  cases callbacks with
  | some related => exact .inl ⟨_, _, related, rfl, rfl, rfl⟩
  | none => exact .inr ⟨_, _, .handleDestroyed handle.id, rfl, rfl⟩

end Alike

end World

end Microboard
