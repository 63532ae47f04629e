import Microboard.Proofs.Machine.Choices
import Microboard.Proofs.Pairing.Machines

/-!
# Plays of machines that are alike

Two machines that are alike can follow the same choices and stay alike, as long as every
table is asked to destroy only handles that it has issued since.
-/

namespace Microboard

variable {pairing : Pairing}

inductive Choice.Alike (pairing : Pairing) : Choice → Choice → Prop where
  | turn : Choice.Alike pairing .turn .turn
  | take (place : Nat) : Choice.Alike pairing (.take place) (.take place)
  | wake (place : Nat) : Choice.Alike pairing (.wake place) (.wake place)
  | enter {program other : Program}
      (programs : Program.Alike pairing .numbered program other) :
      Choice.Alike pairing (.enter program) (.enter other)
  | launch {work : Work} (blind : work.Blind pairing) :
      Choice.Alike pairing (.launch work) (.launch work)
  | clock (looping : Bool) (now : Float) {trace other : List Entry}
      (traces : List.Forall₂ Entry.Alike trace other) :
      Choice.Alike pairing (.clock looping now trace) (.clock looping now other)

theorem related_snoc {α β : Type} {relation : α → β → Prop} {items : List α} {item : α}
    {others : List β} (related : List.Forall₂ relation (items ++ [item]) others) :
    ∃ rest other, others = rest ++ [other] ∧ List.Forall₂ relation items rest ∧
      relation item other := by
  induction items generalizing others with
  | nil =>
      cases related with
      | cons first nothing =>
          cases nothing
          exact ⟨[], _, rfl, .nil, first⟩
  | cons head tail induction =>
      cases related with
      | cons first later =>
          obtain ⟨rest, other, rfl, before, last⟩ := induction later
          exact ⟨_ :: rest, other, rfl, .cons first before, last⟩

theorem related_isSome {α β : Type} {relation : α → β → Prop} {item : Option α}
    {other : Option β} (related : Option.Rel relation item other) :
    other.isSome = item.isSome := by
  cases related <;> rfl

namespace Machine

variable {left right machine : Machine}

theorem Scene.control_cases (scene : left.Scene pairing right) :
    left.control = .idle ∧ right.control = .idle ∨
    ∃ given thread other focus another, Thread.Alike pairing given thread other ∧
      Focus.Alike pairing given focus another ∧ left.control = .busy thread focus ∧
      right.control = .busy other another := by
  have control := scene.control
  generalize left.control = first, right.control = second at control
  cases control with
  | idle => exact .inl ⟨rfl, rfl⟩
  | busy threads foci => exact .inr ⟨_, _, _, _, _, threads, foci, rfl, rfl⟩

/-- Machines that are alike can follow the same choices. -/
theorem Scene.follow?_isSome (scene : left.Scene pairing right) {choice other : Choice}
    (choices : choice.Alike pairing other) :
    (right.follow? other).isSome = (left.follow? choice).isSome := by
  rcases scene.control_cases with
    ⟨idle, still⟩ | ⟨given, thread, another, focus, last, threads, foci, busy, runs⟩
  · cases choices with
    | turn => simp only [follow?, idle, still]
    | take place =>
        rw [follow?_take idle, follow?_take still, Option.isSome_map, Option.isSome_map]
        exact related_isSome (related_getElem? scene.ready place)
    | wake place =>
        rw [follow?_wake idle, follow?_wake still, Option.isSome_map, Option.isSome_map]
        exact related_isSome (related_getElem? scene.sleepers place)
    | enter programs =>
        rw [follow?_enter idle, follow?_enter still, scene.live]
        split <;> rfl
    | launch => rw [follow?_launch idle, follow?_launch still]; rfl
    | clock => rw [follow?_clock idle, follow?_clock still]; rfl
  · cases choices with
    | turn => rw [follow?_turn busy, follow?_turn runs]; rfl
    | _ => simp only [follow?, busy, runs]

/-- A choice that one machine follows is followed by the other, and they stay alike. -/
theorem Alike.follow {next : Machine} (alike : left.Alike pairing right) (sound : left.Sound)
    {choice other : Choice} (choices : choice.Alike pairing other)
    (fair : ∀ table handle, left.destroyed? = some (table, handle) →
      World.Alike.Matched pairing left.world right.world table handle)
    (follows : left.follow? choice = some next) :
    ∃ after, right.follow? other = some after ∧ next.Alike pairing after := by
  obtain ⟨after, found⟩ := Option.isSome_iff_exists.mp
    ((alike.scene.follow?_isSome choices).trans (by rw [follows]; rfl))
  refine ⟨after, found, ?_⟩
  rcases alike.scene.control_cases with
    ⟨idle, still⟩ | ⟨given, thread, another, focus, last, threads, foci, busy, runs⟩
  · cases choices with
    | turn => simp [follow?, idle] at follows
    | take place =>
        rw [follow?_take idle] at follows
        rw [follow?_take still] at found
        obtain ⟨job, listed, rfl⟩ := Option.map_eq_some_iff.mp follows
        obtain ⟨twin, queued, rfl⟩ := Option.map_eq_some_iff.mp found
        have ready := related_getElem? alike.scene.ready place
        rw [listed, queued] at ready
        exact (alike.dequeue place).serve (Option.rel_some_some.mp ready)
          fun waiter releases => sound.remaining_ne (List.mem_of_getElem? listed) releases
    | wake place =>
        rw [follow?_wake idle] at follows
        rw [follow?_wake still] at found
        obtain ⟨sleeper, listed, rfl⟩ := Option.map_eq_some_iff.mp follows
        obtain ⟨twin, asleep, rfl⟩ := Option.map_eq_some_iff.mp found
        have sleepers := related_getElem? alike.scene.sleepers place
        rw [listed, asleep] at sleepers
        exact alike.wake (Option.rel_some_some.mp sleepers)
    | enter programs =>
        rw [follow?_enter idle] at follows
        rw [follow?_enter still] at found
        split at follows
        · split at found
          · cases follows
            cases found
            have begins : Thread.Alike pairing .numbered ⟨none, []⟩ ⟨none, []⟩ :=
              ⟨rfl, .nil (.inl rfl)⟩
            exact ⟨alike.world, { alike.scene with
              control := .busy begins (.run programs), outcome := .none }⟩
          · cases found
        · cases follows
    | @launch work blind =>
        rw [follow?_launch idle] at follows
        rw [follow?_launch still] at found
        cases follows
        cases found
        exact alike.createTask (.nil work.fits) (.await blind) .nil
    | clock looping now traces =>
        rw [follow?_clock idle] at follows
        rw [follow?_clock still] at found
        cases follows
        cases found
        have passed := ((alike.world.setTrace traces).setNow now).setLooping looping
        exact ⟨passed, alike.scene.inWorlds _ _⟩
  · cases choices with
    | turn =>
        rw [follow?_turn busy] at follows
        rw [follow?_turn runs] at found
        cases follows
        cases found
        refine alike.advance threads foci fun method arguments table handle same asked => ?_
        subst same
        refine fair table handle ?_
        simp only [destroyed?, busy]
        exact asked
    | _ => simp [follow?, busy] at follows

/-- Two machines that are alike follow the same choices alike, as long as every table is
asked to destroy only handles that it has issued meanwhile. -/
theorem Play.alike {choices others : List Choice} {past : List Machine}
    (play : Play left choices past machine) (matching : List.Forall₂ (Choice.Alike pairing)
      choices others) (initially : left.Alike pairing right) (leftSound : left.Sound)
    (rightSound : right.Sound) (faithful : ∀ table, Faithful table past) :
    ∃ later twin, Play right others later twin ∧
      List.Forall₂ (Alike pairing) past later ∧ machine.Alike pairing twin ∧
      ∀ table handle, Issued table past machine handle → machine.world.handles.Has handle ∧
        World.Alike.Matched pairing machine.world twin.world table handle := by
  induction play generalizing others with
  | refl =>
      cases matching
      refine ⟨[], right, .refl, .nil, initially, ?_⟩
      rintro table handle ⟨state, member, listed⟩
      cases List.mem_singleton.mp member
      exact initially.world.listed table handle listed
  | @move choices past machine next choice play follows induction =>
      obtain ⟨rest, other, rfl, before, last⟩ := related_snoc matching
      obtain ⟨later, twin, twinPlay, pasts, alike, issued⟩ :=
        induction before fun table => (faithful table).before
      have sound := play.run.sound leftSound
      have twinSound := twinPlay.run.sound rightSound
      obtain ⟨after, found, nextAlike⟩ := alike.follow sound last
        (fun table handle asked => (issued table handle ((faithful table).last handle asked)).2)
        follows
      refine ⟨later ++ [twin], after, twinPlay.move found,
        List.rel_append pasts (.cons alike .nil), nextAlike, ?_⟩
      rintro table handle ⟨state, member, listed⟩
      rcases List.mem_append.mp member with earlier | now
      · obtain ⟨has, matched⟩ := issued table handle ⟨state, earlier, listed⟩
        have twinHas := (alike.world.handles.has handle).mp has
        have grown := ((Move.of_follow? follows).grows sound).handles handle has
        have twinGrown := ((Move.of_follow? found).grows twinSound).handles handle twinHas
        refine ⟨grown.1, ?_⟩
        unfold World.Alike.Matched
        rw [grown.2.id, twinGrown.2.id]
        exact matched
      · cases List.mem_singleton.mp now
        exact nextAlike.world.listed table handle listed

end Machine

end Microboard
