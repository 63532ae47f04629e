import Microboard.Proofs.Bus.Mishaps
import Microboard.Proofs.Bus.Nesting
import Microboard.Proofs.Machine.Answering

/-!
# Publishing an event

A publication reaches those who have subscribed when it begins, whatever they do to the bus
meanwhile and however deep they publish themselves.
-/

namespace Microboard.Machine

variable {start machine next : Machine} {past : List Machine} {owner : Option TaskId}
variable {base : List Frame} {bus : Ref .bus} {event : Value}

/-- What publishing an event keeps to.  The numbers of the subscribers ascend.  When the
publication returns, it has not failed: it has called each of them once, in this order, and
nobody else, if they raise ordinary faults only; and whatever they raise, all that has been
seen of publications in the thread is nested in their calls.  Every turn, of this thread or
of another, logs the failure of a subscriber that has just raised an ordinary fault, and no
other failure of a subscriber.  And the publication does return, if all who are served on
its behalf do. -/
structure Publishes (owner : Option TaskId) (base : List Frame) (bus : Ref .bus) (event : Value)
    (start : Machine) : Prop where
  ascending : (start.world.buses.get bus).ids.Pairwise (· < ·)
  returns : ∀ past machine reply, Run start past machine →
    (∀ state ∈ past, ¬ state.Returns owner base) → (∀ state ∈ past, state.ordinaryOn bus = true) →
    machine.control = .busy ⟨owner, base⟩ (.reply reply) →
    past.filterMap (telling? owner base.length) =
        Telling.publication bus event (start.world.buses.get bus).subscribers ∧
      reply = .nothing
  nested : ∀ past machine, Run start past machine →
    (∀ state ∈ past, ¬ state.Returns owner base) → machine.Returns owner base →
    ∃ inside, past.filterMap (cue? owner) =
        .opens bus event (start.world.buses.get bus).subscribers :: inside ∧
      Delivered bus event (start.world.buses.get bus).subscribers inside
  logs : ∀ past state next, Run start past state → Move state next → state.control ≠ .idle →
    next.world.mishaps = state.raised?.toList ++ state.world.mishaps
  logged : ∀ past machine, Run start past machine → (∀ state ∈ past, state.control ≠ .idle) →
    machine.world.mishaps = (past.filterMap raised?).reverse ++ start.world.mishaps
  ends : Answered owner base start → Completes owner base start

theorem Sound.ascending (sound : machine.Sound) (bus : Ref .bus) :
    (machine.world.buses.get bus).ids.Pairwise (· < ·) := by
  by_cases has : machine.world.buses.Has bus
  · exact (sound.world.bus bus has).ascending
  · rw [Arena.get_of_not_has has]
    exact List.Pairwise.nil

/-- A publication has told all subscribers when it returns, and it does not fail. -/
theorem Run.published {reply : Reply} (run : Run start past machine) (sound : start.Sound)
    (begun : start.control = .busy ⟨owner, base⟩ (.publish bus event))
    (going : ∀ state ∈ past, ¬ state.Returns owner base)
    (ordinary : ∀ state ∈ past, state.ordinaryOn bus = true)
    (ends : machine.control = .busy ⟨owner, base⟩ (.reply reply)) :
    past.filterMap (telling? owner base.length) =
        Telling.publication bus event (start.world.buses.get bus).subscribers ∧
      reply = .nothing := by
  have kept := run.sound sound
  cases run.publication sound (show ([].all _) = true from rfl) begun ordinary with
  | begun none_before busy =>
      rw [ends] at busy
      cases busy
  | goes whole state =>
      have finished := state.returns kept ends
      refine ⟨state.complete kept finished, ?_⟩
      rw [ends] at finished
      cases finished
      rfl
  | ended early ended late split whole finished told =>
      exact absurd ⟨_, finished⟩ (going ended (by simp [split]))

/-- All that is seen of publications in the thread is nested in the calls of the
subscribers. -/
theorem Run.publication_nested (run : Run start past machine) (sound : start.Sound)
    (begun : start.control = .busy ⟨owner, base⟩ (.publish bus event))
    (going : ∀ state ∈ past, ¬ state.Returns owner base) (returns : machine.Returns owner base) :
    ∃ inside, past.filterMap (cue? owner) =
        .opens bus event (start.world.buses.get bus).subscribers :: inside ∧
      Delivered bus event (start.world.buses.get bus).subscribers inside := by
  rcases run.turn begun with ⟨-, rfl⟩ | ⟨later, rfl, rest⟩
  · obtain ⟨reply, ends⟩ := returns
    rw [begun] at ends
    cases ends
  · have shown : start.cue? owner =
        some (.opens bus event (start.world.buses.get bus).subscribers) := cue?_of_busy begun
    refine ⟨_, List.filterMap_cons_some shown, ?_⟩
    exact rest.nested (sound.move (.turn begun)) rfl
      (fun state member => going state (List.mem_cons_of_mem _ member)) returns

theorem completes_publish (answered : Answered owner base start)
    (begun : start.control = .busy ⟨owner, base⟩ (.publish bus event)) :
    Completes owner base start := by
  have publishing : Reaches owner base start _ :=
    (Reaches.refl start).turn begun (going_of_other begun rfl)
  obtain ⟨next, told, ends⟩ := publishing.told [] answered (by simp) rfl
  exact told.completes ends

variable {looping : Bool} {registry : Registry} {names : List (String × Value)}
variable {before : List Machine}

/-- Whatever its subscribers do, publishing an event calls each of those it has found once,
in the order of their numbers, and returns; what they publish themselves lies inside. -/
theorem publish_reaches_subscribers
    (reached : Run (initial (.initial looping registry) names) before start)
    (begun : start.control = .busy ⟨owner, base⟩ (.publish bus event)) :
    Publishes owner base bus event start := by
  have sound := reached.sound (sound_initial looping registry names)
  constructor
  case ascending => exact sound.ascending bus
  case returns =>
    intro past machine reply run going ordinary ends
    exact run.published sound begun going ordinary ends
  case nested =>
    intro past machine run going returns
    exact run.publication_nested sound begun going returns
  case logs =>
    intro past state next run move awake
    exact move.mishaps (run.sound sound) awake
  case logged =>
    intro past machine run awake
    exact run.mishaps sound awake
  case ends =>
    intro answered
    exact completes_publish answered begun

/-- Two subscribers: the first publishes again and clears the bus when it is called for the
first time, and then fails. -/
def echo : Program :=
  building <| .define .plain
    (fun invocation =>
      if invocation = 1 then
        .call (.method (.bus ⟨0⟩ .publish)) (.single (.str "again")) fun _ =>
          .call (.method (.bus ⟨0⟩ .clear)) .empty fun _ => .finish (.complain .noEventLoop)
      else .finish .nothing) fun first =>
    .define .plain (fun _ => .finish .nothing) fun second =>
      .call (.method (.bus ⟨0⟩ .subscribe)) (.single first) fun _ =>
        .call (.method (.bus ⟨0⟩ .subscribe)) (.single second) fun _ =>
          .call (.method (.bus ⟨0⟩ .publish)) (.single (.str "hello")) .finish

def echoing : Machine := settle 17 (begun echo)

theorem publish_reaches_subscribers_echo :
    Publishes none [.program .finish] ⟨0⟩ (.str "hello") echoing ∧
      (visited 26 echoing).filterMap (telling? none 1) =
        Telling.publication ⟨0⟩ (.str "hello") [(1, .callback 0), (2, .callback 1)] := by
  have publishes : Publishes none [.program .finish] ⟨0⟩ (.str "hello") echoing :=
    publish_reaches_subscribers (run_begun echo 17) rfl
  refine ⟨publishes, ?_⟩
  obtain ⟨told, -⟩ := publishes.returns _ _ _ (run_settle 26 echoing) (going_of_evident rfl)
    (List.all_eq_true.mp rfl) rfl
  exact told

end Microboard.Machine
