import Mathlib.Data.List.Induction
import Microboard.Proofs.Bus.Changes
import Microboard.Proofs.Machine.Effect
import Microboard.Proofs.Machine.Sound

/-!
# Subscription tokens

Who is subscribed to a bus follows from what has been done to this bus alone: its numbers
count the tokens that it has issued, and a token stands until it is dropped or the bus is
cleared.  A token that no longer stands, or that another bus has issued, acts on nothing.
-/

namespace Microboard

namespace Bus

variable {log before after : List Change} {change : Change} {bus : Bus} {id : Nat}
variable {subscriber : Value}

def Change.isIssue : Change → Bool
  | issues _ => true
  | drops _ | clears => false

/-- How many tokens have been issued. -/
def issued (log : List Change) : Nat :=
  log.countP Change.isIssue

/-- A token has been issued to a subscriber, and since then the bus has neither dropped it
nor been cleared. -/
structure StandsAfter (log : List Change) (id : Nat) (subscriber : Value)
    (before after : List Change) : Prop where
  split : log = before ++ .issues subscriber :: after
  number : id = issued before + 1
  kept : .drops id ∉ after
  uncleared : .clears ∉ after

def Standing (log : List Change) (id : Nat) (subscriber : Value) : Prop :=
  ∃ before after, StandsAfter log id subscriber before after

/-- The bus to which all this has been done since it was made. -/
def replay (log : List Change) : Bus :=
  log.foldl (fun bus change => change.apply bus) .initial

theorem replay_append : replay (log ++ [change]) = change.apply (replay log) :=
  List.foldl_append ..

theorem succeeds_apply : Succeeds bus (change.apply bus) := by
  cases change with
  | issues subscriber => exact succeeds_subscribe bus subscriber
  | drops id => exact succeeds_unsubscribe bus id
  | clears => exact succeeds_clear bus

theorem numbered_replay (log : List Change) : (replay log).Numbered := by
  induction log using List.reverseRecOn with
  | nil => exact numbered_initial
  | append_singleton log change induction =>
      rw [replay_append]
      exact succeeds_apply.numbered induction

theorem next_replay (log : List Change) : (replay log).next = issued log + 1 := by
  induction log using List.reverseRecOn with
  | nil => rfl
  | append_singleton log change induction =>
      rw [replay_append, issued, List.countP_append, ← issued]
      cases change with
      | issues subscriber => exact congrArg (· + 1) induction
      | drops | clears => exact induction

theorem standing_append :
    Standing (log ++ [change]) id subscriber ↔
      Standing log id subscriber ∧ change ≠ .drops id ∧ change ≠ .clears ∨
        change = .issues subscriber ∧ id = issued log + 1 := by
  constructor
  · rintro ⟨before, after, split, number, kept, uncleared⟩
    rcases after.eq_nil_or_concat with rfl | ⟨rest, last, rfl⟩
    · obtain ⟨rfl, same⟩ := List.append_singleton_inj.mp split
      exact .inr ⟨same, number⟩
    · rw [List.concat_eq_append, ← List.cons_append, ← List.append_assoc] at split
      obtain ⟨rfl, rfl⟩ := List.append_singleton_inj.mp split
      simp only [List.concat_eq_append, List.mem_append, List.mem_singleton, not_or]
        at kept uncleared
      exact .inl ⟨⟨before, rest, rfl, number, kept.1, uncleared.1⟩, Ne.symm kept.2,
        Ne.symm uncleared.2⟩
  · rintro (⟨⟨before, after, rfl, number, kept, uncleared⟩, keeps, stays⟩ | ⟨rfl, rfl⟩)
    · refine ⟨before, after ++ [change], by simp, number, ?_, ?_⟩
      · simpa [kept] using keeps.symm
      · simpa [uncleared] using stays.symm
    · exact ⟨log, [], rfl, rfl, List.not_mem_nil, List.not_mem_nil⟩

/-- Those who are subscribed hold the tokens that stand. -/
theorem mem_replay : (id, subscriber) ∈ (replay log).subscribers ↔ Standing log id subscriber := by
  induction log using List.reverseRecOn with
  | nil =>
      refine ⟨fun member => absurd member List.not_mem_nil, ?_⟩
      rintro ⟨before, after, stands⟩
      simpa using stands.split
  | append_singleton log change induction =>
      rw [replay_append, standing_append, ← induction, ← next_replay]
      cases change with
      | issues other => simp [Change.apply, subscribe, and_comm, eq_comm (a := other)]
      | drops other => simp [Change.apply, unsubscribe, eq_comm (a := id)]
      | clears => simp [Change.apply, clear]

/-- A number that has been issued and is not subscribed stays without effect. -/
structure Spent (bus : Bus) (id : Nat) : Prop where
  used : id < bus.next
  gone : id ∉ bus.ids

theorem Spent.apply (spent : bus.Spent id) : (change.apply bus).Spent id where
  used := Nat.lt_of_lt_of_le spent.used succeeds_apply.next
  gone := by
    cases change with
    | issues subscriber =>
        have other : id ≠ bus.next := Nat.ne_of_lt spent.used
        simpa [Change.apply, ids_subscribe, other] using spent.gone
    | drops other =>
        rw [Change.apply, ids_unsubscribe]
        exact fun member => spent.gone ((List.mem_filter.mp member).1)
    | clears => exact List.not_mem_nil

theorem Spent.replay (spent : (replay before).Spent id) : (replay (before ++ after)).Spent id := by
  induction after using List.reverseRecOn with
  | nil => simpa using spent
  | append_singleton after change induction =>
      rw [← List.append_assoc, replay_append]
      exact induction.apply

theorem Spent.not_standing (spent : (Bus.replay log).Spent id) : ¬ Standing log id subscriber :=
  fun stands => spent.gone (List.mem_map_of_mem (mem_replay.mpr stands))

/-- A token that was issued before it is dropped, or before the bus is cleared, never stands
again. -/
theorem not_standing_of_ended (ends : change = .drops id ∨ change = .clears)
    (earlier : id ≤ issued before) : ¬ Standing (before ++ change :: after) id subscriber := by
  have spent : (Bus.replay (before ++ [change])).Spent id := by
    rw [replay_append]
    refine ⟨Nat.lt_of_lt_of_le ?_ succeeds_apply.next, ?_⟩
    · rw [next_replay]
      exact Nat.lt_succ_of_le earlier
    · rcases ends with rfl | rfl
      · simp [Change.apply, ids_unsubscribe]
      · exact List.not_mem_nil
  have later : (Bus.replay (before ++ [change] ++ after)).Spent id := spent.replay
  rw [List.append_assoc] at later
  exact later.not_standing

end Bus

/-- A change that leaves an object as it is changes nothing. -/
theorem Arena.modify_eq_self {component : Component} {α : Type} [Inhabited α]
    {arena : Arena component α} {target : Ref component} {change : α → α}
    (same : arena.Has target → change (arena.get target) = arena.get target) :
    arena.modify target change = arena := by
  obtain ⟨items⟩ := arena
  refine congrArg Arena.mk (List.ext_getElem (List.length_modify ..) ?_)
  intro index _ inside
  by_cases here : target.index = index
  · subst here
    simpa [get, inside, List.getD_eq_getElem?_getD] using same inside
  · exact List.getElem_modify_ne change items here _

namespace World

variable {old new : World} {bus : Ref .bus}

theorem buses_setBus_drops {id : Nat} (gone : id ∉ (old.buses.get bus).ids) :
    (old.setBus bus (Bus.Change.drops id).apply).buses = old.buses := by
  apply Arena.modify_eq_self
  intro _
  have kept : (old.buses.get bus).subscribers.filter (fun entry => entry.1 ≠ id) =
      (old.buses.get bus).subscribers := by
    rw [List.filter_eq_self]
    intro entry member
    have listed : entry.1 ∈ (old.buses.get bus).ids := List.mem_map_of_mem member
    exact decide_eq_true fun same : entry.1 = id => gone (same ▸ listed)
  simp only [Bus.Change.apply, Bus.unsubscribe, kept]

theorem Step.makes (step : Step deaf old new) (has : new.buses.Has bus)
    (missing : ¬ old.buses.Has bus) : new.buses.get bus = .initial := by
  cases step with
  | setBus inside => exact inside.elim
  | newBus =>
      rcases Arena.has_or_fresh has with earlier | rfl
      · exact absurd earlier missing
      · exact Arena.get_push_fresh old.buses .initial
  | handles step =>
      obtain ⟨_, _, _, _, rfl⟩ := step.eq
      exact absurd has missing
  | _ => exact absurd has missing

/-- A bus that was not there is new. -/
theorem Steps.makes (steps : Steps deaf old new) (has : new.buses.Has bus)
    (missing : ¬ old.buses.Has bus) : new.buses.get bus = .initial := by
  induction steps with
  | refl => exact absurd has missing
  | @tail middle new before step induction =>
      by_cases made : middle.buses.Has bus
      · exact (step.bus_outside made id).trans (induction made)
      · exact step.makes has made

end World

namespace Machine

/-- What the next turn does to a bus. -/
def busChange? (machine : Machine) : Option (Ref .bus × Bus.Change) :=
  match machine.control with
  | .busy _ (.call target arguments) => machine.world.change? arguments target
  | .busy ⟨_, frame :: _⟩ (.reply reply) => machine.world.ends? reply frame
  | _ => none

/-- What the next turn does to one bus, if there is this bus. -/
def changeOf? (bus : Ref .bus) (machine : Machine) : Option Bus.Change :=
  machine.busChange?.bind fun found =>
    if found.1 = bus ∧ machine.world.buses.Has bus then some found.2 else none

/-- All that has been done to a bus. -/
def changes (bus : Ref .bus) (past : List Machine) : List Bus.Change :=
  past.filterMap (changeOf? bus)

variable {machine next : Machine} {past : List Machine}

theorem busChange?_of_quiet (quiet : machine.operates = false) : machine.busChange? = none := by
  unfold operates at quiet
  unfold busChange?
  split at quiet
  · cases quiet
  · cases quiet
  · cases quiet
  next noCall _ noReply =>
    split
    next thread target arguments busy => exact absurd busy (noCall thread target arguments)
    next owner frame rest reply busy => exact absurd busy (noReply owner frame rest reply)
    next => rfl

/-- A move changes the bus that it says it changes, or it spares all buses. -/
theorem Move.changes (move : Move machine next) :
    machine.world.Changes next.world machine.busChange? := by
  have effect := move.effect
  generalize next.world = after at effect ⊢
  cases effect with
  | calls busy =>
      simp only [busChange?, busy]
      exact World.callValue_changes _ _
  | begins busy =>
      simp only [busChange?, busy]
      exact World.spares_begin _
  | resumes busy =>
      simp only [busChange?, busy]
      exact World.resume_changes _ _
  | minor quiet change =>
      rw [busChange?_of_quiet quiet]
      exact change.steps

theorem Move.changeOf (move : Move machine next) {bus : Ref .bus}
    (has : machine.world.buses.Has bus) :
    next.world.buses.get bus =
      ((changeOf? bus machine).map Bus.Change.apply).getD id (machine.world.buses.get bus) := by
  have changes := move.changes
  unfold changeOf?
  cases announced : machine.busChange? with
  | none =>
      rw [announced] at changes
      exact World.Steps.bus_outside changes has id
  | some found =>
      obtain ⟨target, change⟩ := found
      rw [announced] at changes
      rw [show next.world = _ from changes]
      by_cases same : target = bus
      · subst same
        simpa [has, World.setBus] using Arena.get_modify_self change.apply has
      · simpa [same, World.setBus] using
          Arena.get_modify_of_ne machine.world.buses change.apply (Ne.symm same)

theorem Move.makes (move : Move machine next) {bus : Ref .bus} (has : next.world.buses.Has bus)
    (missing : ¬ machine.world.buses.Has bus) : next.world.buses.get bus = .initial := by
  have changes := move.changes
  cases announced : machine.busChange? with
  | none =>
      rw [announced] at changes
      exact World.Steps.makes changes has missing
  | some found =>
      rw [announced] at changes
      rw [show next.world = _ from changes] at has
      exact absurd (Arena.has_modify.mp has) missing

/-- A bus is what has been done to it, and nothing has been done before it was made. -/
structure Replayed (bus : Ref .bus) (past : List Machine) (machine : Machine) : Prop where
  made : machine.world.buses.Has bus →
    machine.world.buses.get bus = Bus.replay (changes bus past)
  unmade : ¬ machine.world.buses.Has bus → changes bus past = []

variable {start : Machine}
variable {looping : Bool} {registry : Registry} {names : List (String × Value)}

theorem Run.replayed (run : Run (initial (.initial looping registry) names) past machine)
    (bus : Ref .bus) : Replayed bus past machine := by
  induction run with
  | refl => exact ⟨fun has => absurd has (Nat.not_lt_zero _), fun _ => rfl⟩
  | @move past machine next run move induction =>
      have sound := run.sound (sound_initial looping registry names)
      have snoc : changes bus (past ++ [machine]) =
          changes bus past ++ (changeOf? bus machine).toList :=
        filterMap_snoc (changeOf? bus) past machine
      by_cases has : machine.world.buses.Has bus
      · have later := ((move.grows sound).buses bus has).1
        refine ⟨fun _ => ?_, fun missing => absurd later missing⟩
        rw [move.changeOf has, induction.made has, snoc]
        cases changeOf? bus machine with
        | none => simp
        | some change => exact Bus.replay_append.symm
      · have none : changeOf? bus machine = none := by simp [changeOf?, has]
        rw [induction.unmade has, none] at snoc
        refine ⟨fun made => ?_, fun _ => snoc⟩
        rw [snoc]
        exact move.makes made has

theorem call_issues {thread : Thread} {target : Value} {arguments : Arguments} {bus : Ref .bus}
    {subscriber : Value}
    (issues : machine.world.change? arguments target = some (bus, .issues subscriber)) :
    (machine.call thread target arguments).control =
      .busy thread (.value (.token bus (machine.world.buses.get bus).next)) := by
  unfold call
  split
  · cases issues
  · cases issues
  · exact congrArg (Control.busy thread) (World.callValue_issues issues)

theorem Move.issues {bus : Ref .bus} {subscriber : Value} (move : Move machine next)
    (issues : machine.busChange? = some (bus, .issues subscriber)) :
    ∃ thread,
      next.control = .busy thread (.value (.token bus (machine.world.buses.get bus).next)) := by
  unfold busChange? at issues
  split at issues
  next thread target arguments busy => exact ⟨thread, move.of_busy busy ▸ call_issues issues⟩
  next frame rest reply busy =>
    unfold World.ends? at issues
    split at issues
    · split at issues <;> cases issues
    · cases issues
  next => cases issues

theorem changeOf?_eq_some {bus : Ref .bus} {change : Bus.Change}
    (changes : changeOf? bus machine = some change) :
    machine.busChange? = some (bus, change) ∧ machine.world.buses.Has bus := by
  obtain ⟨⟨target, other⟩, announced, kept⟩ := Option.bind_eq_some_iff.mp changes
  by_cases here : target = bus ∧ machine.world.buses.Has bus
  · rw [if_pos here] at kept
    cases kept
    exact ⟨here.1 ▸ announced, here.2⟩
  · rw [if_neg here] at kept
    cases kept

/-- A bus has issued a token and has not been asked to drop it since. -/
def Stands (past : List Machine) (bus : Ref .bus) (id : Nat) : Prop :=
  ∃ subscriber, Bus.Standing (changes bus past) id subscriber

/-- Calls that come to nothing: of a token that does not stand, with a token of another bus,
and for somebody who cannot be called. -/
inductive Futile (stands : Ref .bus → Nat → Prop) (arguments : Arguments) : Value → Prop where
  | called {bus : Ref .bus} {id : Nat} (gone : ¬ stands bus id) :
      Futile stands arguments (.token bus id)
  | bound {bus : Ref .bus} {id : Nat} (gone : ¬ stands bus id) :
      Futile stands arguments (.method (.token bus id))
  | returned {bus : Ref .bus} {id : Nat} (given : arguments.get 0 "token" = .token bus id)
      (gone : ¬ stands bus id) : Futile stands arguments (.method (.bus bus .unsubscribe))
  | foreign {bus issuer : Ref .bus} {id : Nat}
      (given : arguments.get 0 "token" = .token issuer id) (other : issuer ≠ bus) :
      Futile stands arguments (.method (.bus bus .unsubscribe))
  | rejected {bus : Ref .bus} (uncallable : (arguments.get 0 "callback").isCallable = false) :
      Futile stands arguments (.method (.bus bus .subscribe))
  | refused {board : Ref .board}
      (uncallable : (arguments.get 0 "callback").isCallable = false) :
      Futile stands arguments (.method (.board board .subscribe))

/-- What tokens keep to.  The subscribers of a bus are those whose tokens stand; the bus and
the tokens tell so.  Every token that a bus issues has the next number, from one on; a token
that has been dropped, or was issued before the bus was cleared, does not stand again; and
nothing comes of a call that has no token to act on. -/
structure KeepsTokens (past : List Machine) (machine : Machine) : Prop where
  subscribers : ∀ bus id subscriber,
    (id, subscriber) ∈ (machine.world.buses.get bus).subscribers ↔
      Bus.Standing (changes bus past) id subscriber
  active : ∀ bus id, ∃ active,
    machine.world.property (.token bus id) "active" = .ok (.bool active) ∧
      (active = true ↔ Stands past bus id)
  counted : ∀ bus, ∃ ids : List Nat, ids.Pairwise (· < ·) ∧ (∀ id, id ∈ ids ↔ Stands past bus id) ∧
    machine.world.property (.bus bus) "subscriber_count" = .ok (.int ids.length)
  issues : ∀ bus subscriber next, changeOf? bus machine = some (.issues subscriber) →
    Move machine next → ∃ thread,
      next.control = .busy thread (.value (.token bus (Bus.issued (changes bus past) + 1)))
  ends : ∀ bus id before change after, changes bus past = before ++ change :: after →
    change = .drops id ∨ change = .clears → id ≤ Bus.issued before → ¬ Stands past bus id
  futile : ∀ thread target arguments next,
    machine.control = .busy thread (.call target arguments) →
    Futile (Stands past) arguments target → Move machine next →
    next.world.buses = machine.world.buses

theorem Replayed.subscribers {bus : Ref .bus} (replayed : Replayed bus past machine) :
    (machine.world.buses.get bus).subscribers = (Bus.replay (changes bus past)).subscribers := by
  by_cases has : machine.world.buses.Has bus
  · rw [replayed.made has]
  · rw [replayed.unmade has, Arena.get_of_not_has has]
    rfl

theorem Replayed.mem_ids {bus : Ref .bus} (replayed : Replayed bus past machine) {id : Nat} :
    id ∈ (machine.world.buses.get bus).ids ↔ Stands past bus id := by
  simp only [Bus.ids, List.mem_map, Prod.exists, exists_and_right, exists_eq_right,
    replayed.subscribers, Bus.mem_replay, Stands]

theorem Replayed.ascending {bus : Ref .bus} (replayed : Replayed bus past machine) :
    (machine.world.buses.get bus).ids.Pairwise (· < ·) := by
  rw [Bus.ids, replayed.subscribers]
  exact (Bus.numbered_replay _).ascending

theorem Futile.keeps_buses {stands : Ref .bus → Nat → Prop} {target : Value}
    {arguments : Arguments} {world : World} (futile : Futile stands arguments target)
    (gone : ∀ bus id, ¬ stands bus id → id ∉ (world.buses.get bus).ids) :
    (world.callValue target arguments).1.buses = world.buses := by
  cases futile with
  | @called bus id fallen | @bound bus id fallen =>
      rw [World.callValue]
      exact (congrArg World.buses (World.token_changes bus id)).trans
        (World.buses_setBus_drops (gone bus id fallen))
  | @returned bus id given fallen =>
      simp only [World.callValue, World.callMethod, World.callBus, given]
      exact (congrArg World.buses (World.token_changes bus id)).trans
        (World.buses_setBus_drops (gone bus id fallen))
  | foreign given other =>
      simp only [World.callValue, World.callMethod, World.callBus, given, World.unsubscribe, other,
        if_false]
  | rejected uncallable =>
      simp [World.callValue, World.callMethod, World.callBus, World.subscribe, uncallable,
        World.answer]
  | refused uncallable =>
      simp [World.callValue, World.callMethod, World.callBoard, World.subscribe, uncallable,
        World.answer]

/-- Whoever is subscribed holds a token that stands, and a token acts on nothing else. -/
theorem tokens_act_on_own (run : Run (initial (.initial looping registry) names) past machine) :
    KeepsTokens past machine := by
  have sound := run.sound (sound_initial looping registry names)
  have replayed := run.replayed
  constructor
  case subscribers =>
    intro bus id subscriber
    rw [(replayed bus).subscribers, Bus.mem_replay]
  case active =>
    intro bus id
    exact ⟨_, rfl, Bus.isSubscribed_iff.trans (replayed bus).mem_ids⟩
  case counted =>
    intro bus
    refine ⟨(machine.world.buses.get bus).ids, ?_, fun id => (replayed bus).mem_ids, ?_⟩
    · exact (replayed bus).ascending
    · simp [Bus.ids]
      rfl
  case issues =>
    intro bus subscriber next issues move
    obtain ⟨announced, has⟩ := changeOf?_eq_some issues
    rw [← Bus.next_replay, ← (replayed bus).made has]
    exact move.issues announced
  case ends =>
    rintro bus id before change after split ends earlier ⟨subscriber, stands⟩
    rw [split] at stands
    exact Bus.not_standing_of_ended ends earlier stands
  case futile =>
    intro thread target arguments next busy futile move
    rw [move.of_busy busy, advance, world_call]
    apply futile.keeps_buses
    intro bus id fallen
    rwa [(replayed bus).mem_ids]

/-- Two buses, each with a subscriber that holds its first token: the first bus is given the
token of the second, then it is cleared, and somebody subscribes anew. -/
def exchange : Program :=
  .call (.type .bus) .empty fun _ => .call (.type .bus) .empty fun _ =>
    .call (.method (.bus ⟨0⟩ .subscribe)) (.single (.recorder "first")) fun _ =>
      .call (.method (.bus ⟨1⟩ .subscribe)) (.single (.recorder "second")) fun _ =>
        .call (.method (.bus ⟨0⟩ .unsubscribe)) (.single (.token ⟨1⟩ 1)) fun _ =>
          .call (.method (.bus ⟨0⟩ .clear)) .empty fun _ =>
            .call (.method (.bus ⟨0⟩ .subscribe)) (.single (.recorder "third")) .finish

theorem tokens_act_on_own_exchange :
    let past := [initial (.initial true .empty) []] ++ visited 40 (begun exchange)
    let machine := settle 40 (begun exchange)
    KeepsTokens past machine ∧ Stands past ⟨0⟩ 2 ∧ ¬ Stands past ⟨0⟩ 1 ∧ Stands past ⟨1⟩ 1 := by
  intro past machine
  have run : Run (initial (.initial true .empty) []) past machine := run_begun exchange 40
  have first : (machine.world.buses.get ⟨0⟩).ids = [2] := rfl
  have second : (machine.world.buses.get ⟨1⟩).ids = [1] := rfl
  refine ⟨tokens_act_on_own run, ?_, ?_, ?_⟩
  · simp [← (run.replayed ⟨0⟩).mem_ids, first]
  · simp [← (run.replayed ⟨0⟩).mem_ids, first]
  · simp [← (run.replayed ⟨1⟩).mem_ids, second]

end Machine

end Microboard
