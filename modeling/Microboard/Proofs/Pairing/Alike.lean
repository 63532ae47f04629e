import Mathlib.Data.List.Forall2
import Microboard.World.Call

/-!
# Pairings of numbers

Two simulations that do the same may still number their handles and subscriptions
differently.  A pairing says which numbers of one stand for which numbers of the
other; values, programs and pending operations are alike when they differ in nothing
but such numbers.
-/

namespace Microboard

/-- What is known of a result.  A plain one is the same on both sides, but for tokens and
faults; a numbered one may also be the number of a handle or of a subscription. -/
inductive Grade where
  | plain
  | numbered
deriving DecidableEq

/-- A result of one grade can be given where one of another is asked for. -/
def Grade.Fits (given asked : Grade) : Prop :=
  given = asked ∨ given = .plain

/-- What programs speak of: callbacks, tasks and names that are not listed are mentioned by
nobody.  `results` is what is known of the results of callbacks, and a name comes with what
is known of its value. -/
structure Vocabulary where
  callback : Nat → Prop
  task : TaskId → Prop
  results : Grade
  name : String → Option Grade

/-- Where two simulations begin to count together: the next numbers of each table and of
each bus.  Every scheduler keeps to one table. -/
structure Pairing extends Vocabulary where
  number : Ref .table → Nat × Nat
  token : Ref .bus → Nat × Nat
  table : Ref .scheduler → Ref .table

/-- Two numbers that have been given out at the same turn since the counts began. -/
def Since (first : Nat × Nat) (left right : Nat) : Prop :=
  ∃ count, left = first.1 + count ∧ right = first.2 + count

/-- Two numbers that have been given out at the same turn, or both before. -/
def Kept (first : Nat × Nat) (left right : Nat) : Prop :=
  left < first.1 ∧ right < first.2 ∨ Since first left right

section Numbers

variable {first : Nat × Nat} {left right other another : Nat}

theorem since_first (first : Nat × Nat) : Since first first.1 first.2 :=
  ⟨0, rfl, rfl⟩

theorem since_zero (id : Nat) : Since (0, 0) id id :=
  ⟨id, (Nat.zero_add id).symm, (Nat.zero_add id).symm⟩

theorem Since.succ (since : Since first left right) : Since first (left + 1) (right + 1) := by
  obtain ⟨count, rfl, rfl⟩ := since
  exact ⟨count + 1, rfl, rfl⟩

theorem Kept.eq_iff (kept : Kept first left right) (since : Since first other another) :
    left = other ↔ right = another := by
  obtain ⟨count, rfl, rfl⟩ := since
  rcases kept with ⟨below, under⟩ | ⟨place, rfl, rfl⟩ <;> omega

theorem Since.eq_iff (since : Since first left right) (later : Since first other another) :
    left = other ↔ right = another :=
  Kept.eq_iff (.inr since) later

theorem Kept.beq (kept : Kept first left right) (since : Since first other another) :
    (right == another) = (left == other) := by
  rw [Bool.eq_iff_iff, beq_iff_eq, beq_iff_eq]
  exact (kept.eq_iff since).symm

theorem Since.beq (since : Since first left right) (later : Since first other another) :
    (right == another) = (left == other) :=
  Kept.beq (.inr since) later

end Numbers

variable {pairing : Pairing}

namespace Pairing

/-- Two numbers of one handle. -/
def Named (pairing : Pairing) (left right : Nat) : Prop :=
  left = right ∨ ∃ table, Since (pairing.number table) left right

end Pairing

/-- The text of the value does not tell of any object. -/
def Value.Printable (value : Value) : Prop :=
  ∀ describe other, value.text describe = value.text other

/-- Operations whose outcome depends on numbers in no way but through tokens. -/
def Method.Blind (pairing : Pairing) : Method → Prop
  | .token channel id => Since (pairing.token channel) id id
  | .table .. | .keeperClose _ | .registry .. | .function _ => False
  | _ => True

def Work.Blind (pairing : Pairing) : Work → Prop
  | .body callback _ _ => pairing.callback callback
  | .future task => pairing.task task
  | .showString _ text _ => text.Printable
  | .closeKeeper _ => False
  | _ => True

mutual

/-- A value means the same on both sides of a pairing. -/
def Value.Blind (pairing : Pairing) : Value → Prop
  | .list items => ItemsBlind pairing items
  | .tuple items => ItemsBlind pairing items
  | .dict entries => EntriesBlind pairing entries
  | .fault fault _ => fault.Blind pairing
  | .callback index => pairing.callback index
  | .type name => name = .button
  | .method method => method.Blind pairing
  | .token channel id => Since (pairing.token channel) id id
  | .awaitable work => work.Blind pairing
  | .unwritable fault => fault.Blind pairing
  | .table _ | .registry _ | .keeper _ => False
  | _ => True

def ItemsBlind (pairing : Pairing) : List Value → Prop
  | [] => True
  | item :: rest => item.Blind pairing ∧ ItemsBlind pairing rest

def EntriesBlind (pairing : Pairing) : Entries → Prop
  | [] => True
  | (key, value) :: rest =>
    key.Blind pairing ∧ value.Blind pairing ∧ EntriesBlind pairing rest

def Fault.Blind (pairing : Pairing) : Fault → Prop
  | .raised _ args => ItemsBlind pairing args
  | .complaint _ => True
  | .simulator message details => message.Blind pairing ∧ EntriesBlind pairing details
  | .configuration key message details =>
    key.Blind pairing ∧ message.Blind pairing ∧ EntriesBlind pairing details
  | .invalidPin pin details => pin.Blind pairing ∧ EntriesBlind pairing details
  | .outOfRange x y _ _ details =>
    x.Blind pairing ∧ y.Blind pairing ∧ EntriesBlind pairing details
  | .handleDestroyed id => id.Blind pairing
  | .callbackFailure id kind cause =>
    id.Blind pairing ∧ kind.Blind pairing ∧ cause.Blind pairing

end

structure Arguments.Blind (pairing : Pairing) (arguments : Arguments) : Prop where
  positional : ∀ value ∈ arguments.positional, value.Blind pairing
  named : ∀ entry ∈ arguments.named, entry.2.Blind pairing

mutual

/-- Two values that differ in the numbers of tokens and in those that faults tell of. -/
inductive Value.Alike (pairing : Pairing) : Value → Value → Prop where
  | same {value : Value} (blind : value.Blind pairing) : Value.Alike pairing value value
  | token {bus : Ref .bus} {left right : Nat}
      (since : Since (pairing.token bus) left right) :
      Value.Alike pairing (.token bus left) (.token bus right)
  | unsubscriber {bus : Ref .bus} {left right : Nat}
      (since : Since (pairing.token bus) left right) :
      Value.Alike pairing (.method (.token bus left)) (.method (.token bus right))
  | fault {left right : Fault} {identity : Nat} (alike : Fault.Alike pairing left right) :
      Value.Alike pairing (.fault left identity) (.fault right identity)

inductive Fault.Alike (pairing : Pairing) : Fault → Fault → Prop where
  | same {fault : Fault} (blind : fault.Blind pairing) : Fault.Alike pairing fault fault
  | handleDestroyed {left right : Nat} (named : pairing.Named left right) :
      Fault.Alike pairing (.handleDestroyed (.int left)) (.handleDestroyed (.int right))
  | callbackFailure {left right : Nat} {kind : String} {cause other : Value}
      (named : pairing.Named left right) (causes : Value.Alike pairing cause other) :
      Fault.Alike pairing (.callbackFailure (.int left) (.str kind) cause)
        (.callbackFailure (.int right) (.str kind) other)

end

/-- Two values that a program gets to see: they are alike or, where numbers are given, they
are numbers that stand for each other. -/
inductive Value.Seen (pairing : Pairing) : Grade → Value → Value → Prop where
  | alike {grade : Grade} {left right : Value} (alike : left.Alike pairing right) :
      Value.Seen pairing grade left right
  | number {left right : Nat} (named : pairing.Named left right) :
      Value.Seen pairing .numbered (.int left) (.int right)
  | token {bus : Ref .bus} {left right : Nat}
      (since : Since (pairing.token bus) left right) :
      Value.Seen pairing .numbered (.int left) (.int right)

inductive Reply.Alike (pairing : Pairing) : Grade → Reply → Reply → Prop where
  | ok {grade : Grade} {left right : Value} (seen : Value.Seen pairing grade left right) :
      Reply.Alike pairing grade (.ok left) (.ok right)
  | error {grade : Grade} {left right : Fault} (alike : left.Alike pairing right) :
      Reply.Alike pairing grade (.error left) (.error right)

/-- The identifiers of handles and tokens are the properties that are numbered. -/
def Value.propertyGrade (value : Value) (name : String) : Grade :=
  match value with
  | .handle _ | .token .. => if name = "id" then .numbered else .plain
  | .fault .. => if name = "handle_id" then .numbered else .plain
  | _ => .plain

/-- What is known of the result of a call: operations give no numbers away. -/
def Value.callGrade (pairing : Pairing) : Value → Grade
  | .callback _ | .method (.handle _ .invoke) => pairing.results
  | _ => .plain

def Work.grade (pairing : Pairing) : Work → Grade
  | .body .. | .future _ => pairing.results
  | _ => .plain

/-- The argument of a call whose text is shown tells of no object. -/
def Value.Shows (target : Value) (arguments : Arguments) : Prop :=
  match target with
  | .method (.bridge _ .showString) => (arguments.get 0 "text").Printable
  | .method (.bus _ .publish) => (arguments.get 0 "event").Printable
  | _ => True

/-- Two calls with the same arguments, but for tokens and for faults that are recorded. -/
inductive Call.Alike (pairing : Pairing) : Value → Arguments → Value → Arguments → Prop where
  | same {target : Value} {arguments : Arguments} (blind : target.Blind pairing)
      (given : arguments.Blind pairing) (shown : target.Shows arguments) :
      Call.Alike pairing target arguments target arguments
  | token {bus : Ref .bus} {left right : Nat} {arguments others : Arguments}
      (since : Since (pairing.token bus) left right) :
      Call.Alike pairing (.token bus left) arguments (.token bus right) others
  | unsubscriber {bus : Ref .bus} {left right : Nat} {arguments others : Arguments}
      (since : Since (pairing.token bus) left right) :
      Call.Alike pairing (.method (.token bus left)) arguments
        (.method (.token bus right)) others
  | fault {left right : Fault} {identity : Nat} {arguments others : Arguments}
      (alike : left.Alike pairing right) :
      Call.Alike pairing (.fault left identity) arguments (.fault right identity) others
  | unsubscribe {bus : Ref .bus} {arguments others : Arguments}
      (alike : (arguments.get 0 "token").Alike pairing (others.get 0 "token")) :
      Call.Alike pairing (.method (.bus bus .unsubscribe)) arguments
        (.method (.bus bus .unsubscribe)) others
  | isSubscribed {bus : Ref .bus} {arguments others : Arguments}
      (alike : (arguments.get 0 "token").Alike pairing (others.get 0 "token")) :
      Call.Alike pairing (.method (.bus bus .isSubscribed)) arguments
        (.method (.bus bus .isSubscribed)) others
  | recordFailure {handle : Ref .handle} {arguments others : Arguments}
      (alike : (arguments.get 0 "exc").Alike pairing (others.get 0 "exc")) :
      Call.Alike pairing (.method (.handle handle .recordFailure)) arguments
        (.method (.handle handle .recordFailure)) others

/-- A property that alike values show alike. The details of a fault may tell of numbers, so
they are read off a fault that is the same on both sides. -/
def Value.Shared (pairing : Pairing) (left right : Value) (name : String) : Prop :=
  name = "details" → left.Blind pairing ∧ right = left

theorem Value.shared_of_ne {left right : Value} {name : String} (other : name ≠ "details") :
    left.Shared pairing right name :=
  fun same => absurd same other

/-- Two programs that do the same, whatever the numbers are that they get to see, and that
end with results of a grade. -/
inductive Program.Alike (pairing : Pairing) : Grade → Program → Program → Prop where
  | finish {grade : Grade} {left right : Reply} (alike : Reply.Alike pairing grade left right) :
      Program.Alike pairing grade (.finish left) (.finish right)
  | read {grade : Grade} {left right : Value} {name : String} {next other : Reply → Program}
      (alike : left.Alike pairing right) (shared : left.Shared pairing right name)
      (follows : ∀ reply another, Reply.Alike pairing (left.propertyGrade name) reply another →
        Program.Alike pairing grade (next reply) (other another)) :
      Program.Alike pairing grade (.read left name next) (.read right name other)
  | call {grade : Grade} {left right : Value} {arguments others : Arguments}
      {next other : Reply → Program} (alike : Call.Alike pairing left arguments right others)
      (follows : ∀ reply another, Reply.Alike pairing (left.callGrade pairing) reply another →
        Program.Alike pairing grade (next reply) (other another)) :
      Program.Alike pairing grade (.call left arguments next) (.call right others other)
  | await {grade : Grade} {work : Work} {next other : Reply → Program}
      (blind : work.Blind pairing)
      (follows : ∀ reply another, Reply.Alike pairing (work.grade pairing) reply another →
        Program.Alike pairing grade (next reply) (other another)) :
      Program.Alike pairing grade (.await work next) (.await work other)
  | lookup {grade : Grade} {name : String} {told : Grade} {next other : Reply → Program}
      (known : pairing.name name = some told)
      (follows : ∀ reply another, Reply.Alike pairing told reply another →
        Program.Alike pairing grade (next reply) (other another)) :
      Program.Alike pairing grade (.lookup name next) (.lookup name other)
  | bind {grade : Grade} {name : String} {left right : Value} {next other : Program}
      (seen : ∀ told, pairing.name name = some told → Value.Seen pairing told left right)
      (follows : Program.Alike pairing grade next other) :
      Program.Alike pairing grade (.bind name left next) (.bind name right other)
  | report {grade : Grade} {label : String} {left right : Reply} {next other : Program}
      (alike : Reply.Alike pairing .numbered left right)
      (follows : Program.Alike pairing grade next other) :
      Program.Alike pairing grade (.report label left next) (.report label right other)
  | define {grade : Grade} {style : Style} {body another : Nat → Program}
      {next other : Value → Program}
      (bodies : ∀ invocation,
        Program.Alike pairing pairing.results (body invocation) (another invocation))
      (follows : ∀ index, pairing.callback index →
        Program.Alike pairing grade (next (.callback index)) (other (.callback index))) :
      Program.Alike pairing grade (.define style body next) (.define style another other)
  | identify {grade : Grade} {next other : Nat → Program}
      (follows : ∀ identity, Program.Alike pairing grade (next identity) (other identity)) :
      Program.Alike pairing grade (.identify next) (.identify other)
  | spawn {grade : Grade} {callback : Value} {next other : Program}
      (blind : callback.Blind pairing) (follows : Program.Alike pairing grade next other) :
      Program.Alike pairing grade (.spawn callback next) (.spawn callback other)
  | launch {grade : Grade} {work : Work} {next other : Reply → Program}
      (blind : work.Blind pairing)
      (follows : ∀ reply another, Reply.Alike pairing .plain reply another →
        Program.Alike pairing grade (next reply) (other another)) :
      Program.Alike pairing grade (.launch work next) (.launch work other)

/-- Two subscriptions of the same subscriber. -/
structure Subscription.Alike (pairing : Pairing) (bus : Ref .bus) (left right : Nat × Value) :
    Prop where
  id : Kept (pairing.token bus) left.1 right.1
  subscriber : left.2.Alike pairing right.2

inductive Notice.Alike (pairing : Pairing) : Notice → Notice → Prop where
  | loopEnded {scheduler : Ref .scheduler} {left right : Nat}
      (since : Since (pairing.number (pairing.table scheduler)) left right) :
      Notice.Alike pairing (.loopEnded scheduler left) (.loopEnded scheduler right)
  | handlerEnded (dispatcher : Ref .dispatcher) (handle : Ref .handle) :
      Notice.Alike pairing (.handlerEnded dispatcher handle) (.handlerEnded dispatcher handle)
  | release (waiter : Nat) : Notice.Alike pairing (.release waiter) (.release waiter)

/-- A pending operation that holds neither programs nor subscriptions. -/
def Frame.isPlain : Frame → Bool
  | .program _ | .publishing .. => false
  | _ => true

/-- Two operations that go on alike: from replies of one grade they come to results of
another.  The library's own do with any reply and give no numbers away. -/
inductive Frame.Alike (pairing : Pairing) : Grade → Grade → Frame → Frame → Prop where
  | same {given grade : Grade} {frame : Frame} (plain : frame.isPlain = true) :
      Frame.Alike pairing given grade frame frame
  | program {given grade : Grade} {next other : Reply → Program}
      (follows : ∀ reply another, Reply.Alike pairing given reply another →
        Program.Alike pairing grade (next reply) (other another)) :
      Frame.Alike pairing given grade (.program next) (.program other)
  | publishing {given grade : Grade} {bus : Ref .bus} {event : Value} {left right : Nat}
      {rest others : List (Nat × Value)} (blind : event.Blind pairing)
      (printable : event.Printable)
      (alike : List.Forall₂ (Subscription.Alike pairing bus) rest others) :
      Frame.Alike pairing given grade (.publishing bus event left rest)
        (.publishing bus event right others)

inductive Focus.Alike (pairing : Pairing) : Grade → Focus → Focus → Prop where
  | reply {grade : Grade} {left right : Reply} (alike : Reply.Alike pairing grade left right) :
      Focus.Alike pairing grade (.reply left) (.reply right)
  | within {given grade : Grade} {frame other : Frame} {left right : Focus}
      (frames : Frame.Alike pairing given grade frame other)
      (alike : Focus.Alike pairing given left right) :
      Focus.Alike pairing grade (.within frame left) (.within other right)
  | run {grade : Grade} {left right : Program} (alike : left.Alike pairing grade right) :
      Focus.Alike pairing grade (.run left) (.run right)
  | call {left right : Value} {arguments others : Arguments}
      (alike : Call.Alike pairing left arguments right others) :
      Focus.Alike pairing (left.callGrade pairing) (.call left arguments) (.call right others)
  | await {work : Work} (blind : work.Blind pairing) :
      Focus.Alike pairing (work.grade pairing) (.await work) (.await work)
  | invoke (handle : Ref .handle) :
      Focus.Alike pairing pairing.results (.invoke handle) (.invoke handle)
  | publish {grade : Grade} {bus : Ref .bus} {event : Value} (blind : event.Blind pairing)
      (printable : event.Printable) :
      Focus.Alike pairing grade (.publish bus event) (.publish bus event)
  | sleep {grade : Grade} (interval : Value) :
      Focus.Alike pairing grade (.sleep interval) (.sleep interval)
  | start {grade : Grade} {work : Work} {notice other : Notice} (blind : work.Blind pairing)
      (alike : notice.Alike pairing other) :
      Focus.Alike pairing grade (.start work notice) (.start work other)
  | adopt {grade : Grade} {task : TaskId} (dispatcher : Ref .dispatcher) (handle : Ref .handle)
      (mentioned : pairing.task task) :
      Focus.Alike pairing grade (.adopt task dispatcher handle) (.adopt task dispatcher handle)
  | wait {grade : Grade} (tasks : List TaskId) :
      Focus.Alike pairing grade (.wait tasks) (.wait tasks)

section Grades

variable {given asked grade : Grade}

theorem Grade.fits_numbered (given : Grade) : given.Fits .numbered := by
  cases given with
  | plain => exact .inr rfl
  | numbered => exact .inl rfl

theorem Work.fits (work : Work) : (work.grade pairing).Fits pairing.results := by
  cases work with
  | body | future => exact .inl rfl
  | _ => exact .inr rfl

theorem Value.fits (value : Value) : (value.callGrade pairing).Fits pairing.results := by
  unfold callGrade
  split
  · exact .inl rfl
  · exact .inl rfl
  · exact .inr rfl

theorem Grade.Fits.trans (first : given.Fits asked) (second : asked.Fits grade) :
    given.Fits grade := by
  rcases first with rfl | plain
  · exact second
  · exact .inr plain

theorem Value.Seen.fits {left right : Value} (seen : Value.Seen pairing given left right)
    (fits : given.Fits asked) : Value.Seen pairing asked left right := by
  rcases fits with rfl | rfl
  · exact seen
  · cases seen with
    | alike alike => exact .alike alike

/-- A plain number is the same on both sides. -/
theorem Reply.Alike.int_iff {left right : Reply} (alike : Reply.Alike pairing .plain left right)
    (number : Int) : left = .ok (.int number) ↔ right = .ok (.int number) := by
  cases alike with
  | error faults => simp
  | ok seen =>
      cases seen with
      | alike alike => cases alike <;> simp

theorem Reply.Alike.fits {left right : Reply} (alike : Reply.Alike pairing given left right)
    (fits : given.Fits asked) : Reply.Alike pairing asked left right := by
  cases alike with
  | ok seen => exact .ok (seen.fits fits)
  | error faults => exact .error faults

theorem Frame.Alike.fits {frame other : Frame}
    (alike : Frame.Alike pairing asked grade frame other) (fits : given.Fits asked) :
    Frame.Alike pairing given grade frame other := by
  cases alike with
  | same plain => exact .same plain
  | program follows =>
      exact .program fun reply another replies => follows reply another (replies.fits fits)
  | publishing blind printable rest => exact .publishing blind printable rest

theorem Reply.Alike.nothing : Reply.Alike pairing grade .nothing .nothing :=
  .ok (.alike (.same trivial))

theorem Reply.Alike.value {value : Value} (blind : value.Blind pairing) :
    Reply.Alike pairing grade (.ok value) (.ok value) :=
  .ok (.alike (.same blind))

theorem Focus.Alike.nothing : Focus.Alike pairing grade .nothing .nothing :=
  .reply .nothing

theorem Focus.Alike.value {value : Value} (blind : value.Blind pairing) :
    Focus.Alike pairing grade (.value value) (.value value) :=
  .reply (.value blind)

theorem Focus.Alike.raise {left right : Fault} (alike : left.Alike pairing right) :
    Focus.Alike pairing grade (.raise left) (.raise right) :=
  .reply (.error alike)

/-- An operation of the library waits for what gives no numbers away. -/
theorem Focus.Alike.pends {frame : Frame} {left right : Focus} (plain : frame.isPlain = true)
    (alike : Focus.Alike pairing .plain left right) :
    Focus.Alike pairing grade (.within frame left) (.within frame right) :=
  .within (.same plain) alike

theorem Focus.Alike.complaint (cause : Complaint) :
    Focus.Alike pairing grade (.raise (.complaint cause)) (.raise (.complaint cause)) :=
  .raise (.same trivial)

end Grades

theorem itemsBlind_iff {items : List Value} :
    ItemsBlind pairing items ↔ ∀ item ∈ items, item.Blind pairing := by
  induction items with
  | nil => simp [ItemsBlind]
  | cons item rest induction => simp [ItemsBlind, induction]

theorem entriesBlind_iff {entries : Entries} :
    EntriesBlind pairing entries ↔
      ∀ entry ∈ entries, entry.1.Blind pairing ∧ entry.2.Blind pairing := by
  induction entries with
  | nil => simp [EntriesBlind]
  | cons entry rest induction => simp [EntriesBlind, induction, and_assoc]

theorem printable_none : Value.none.Printable :=
  fun _ _ => rfl

theorem printable_event (event : Event) (identity : Nat) :
    (Value.event event identity).Printable :=
  fun _ _ => rfl

namespace Arguments

theorem blind_empty : Arguments.empty.Blind pairing :=
  ⟨fun _ member => absurd member List.not_mem_nil, fun _ member => absurd member List.not_mem_nil⟩

theorem blind_single {value : Value} (blind : value.Blind pairing) :
    (Arguments.single value).Blind pairing :=
  ⟨fun _ member => List.mem_singleton.mp member ▸ blind,
    fun _ member => absurd member List.not_mem_nil⟩

theorem get_single (value : Value) (place : Nat) (name : String) :
    (Arguments.single value).get place name = value ∨
      (Arguments.single value).get place name = .none := by
  cases place with
  | zero => exact .inl rfl
  | succ place => exact .inr rfl

theorem Blind.get {arguments : Arguments} (given : arguments.Blind pairing) (place : Nat)
    (name : String) : (arguments.get place name).Blind pairing := by
  have blind : ∀ value, arguments.find? place name = some value → value.Blind pairing := by
    intro value found
    unfold Arguments.find? at found
    cases placed : arguments.positional[place]? with
    | some first =>
        rw [placed] at found
        cases found
        exact given.positional value (List.mem_of_getElem? placed)
    | none =>
        rw [placed] at found
        obtain ⟨before, after, split, -⟩ := List.lookup_eq_some_iff.mp found
        exact given.named (name, value) (by simp [split])
  unfold Arguments.get
  cases found : arguments.find? place name with
  | none => trivial
  | some value => exact blind value found

end Arguments

/-- A value is called with the same arguments on both sides. -/
theorem Value.Alike.called {left right : Value} {arguments : Arguments}
    (alike : left.Alike pairing right) (given : arguments.Blind pairing)
    (printable : ∀ place name, (arguments.get place name).Printable) :
    Call.Alike pairing left arguments right arguments := by
  cases alike with
  | same blind =>
      refine .same blind given ?_
      unfold Value.Shows
      split
      · exact printable 0 "text"
      · exact printable 0 "event"
      · trivial
  | token since => exact .token since
  | unsubscriber since => exact .unsubscriber since
  | fault faults => exact .fault faults

end Microboard
