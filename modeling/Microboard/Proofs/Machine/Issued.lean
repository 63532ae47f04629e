import Microboard.Proofs.Machine.Sound
import Microboard.Proofs.World.Filed

/-!
# Issued handles

A table has issued the handles that it has listed at some time.  In a run that asks it
to destroy none but these, each of them is destroyed or still listed.
-/

namespace Microboard.Machine

variable {looping : Bool} {registry : Registry} {names : List (String × Value)}
variable {machine next : Machine} {past : List Machine} {table : Ref .table}

def Issued (table : Ref .table) (past : List Machine) (machine : Machine)
    (handle : Ref .handle) : Prop :=
  ∃ state ∈ past ++ [machine], handle ∈ state.world.listed table

theorem Issued.later {handle : Ref .handle} (issued : Issued table past machine handle) :
    Issued table (past ++ [machine]) next handle := by
  obtain ⟨state, member, listed⟩ := issued
  exact ⟨state, List.mem_append_left _ member, listed⟩

/-- The single handle that the call at hand asks a table to destroy. -/
def destroyed? (machine : Machine) : Option (Ref .table × Ref .handle) :=
  match machine.control with
  | .busy _ (.call (.method method) arguments) => machine.world.destroyed? method arguments
  | _ => none

/-- A table has only been asked to destroy handles that it had issued. -/
def Faithful (table : Ref .table) (past : List Machine) : Prop :=
  ∀ earlier state later handle, past = earlier ++ state :: later →
    state.destroyed? = some (table, handle) → Issued table earlier state handle

theorem faithful_of_none (calm : past.all (fun state => state.destroyed?.isNone) = true) :
    Faithful table past := by
  intro earlier state later handle split asked
  have member : state ∈ past := by simp [split]
  have silent := List.all_eq_true.mp calm state member
  simp [asked] at silent

theorem Faithful.before {last : Machine} (faithful : Faithful table (past ++ [last])) :
    Faithful table past := by
  intro earlier state later handle split asked
  exact faithful earlier state (later ++ [last]) handle (by simp [split]) asked

theorem Faithful.last {last : Machine} (faithful : Faithful table (past ++ [last]))
    (handle : Ref .handle) (asked : last.destroyed? = some (table, handle)) :
    Issued table past last handle :=
  faithful past last [] handle rfl asked

theorem orderly_of_destroyed {destroys : Ref .table → Ref .handle → Prop}
    (allowed : ∀ table handle, machine.destroyed? = some (table, handle) →
      destroys table handle) : machine.Orderly destroys := by
  intro thread focus busy
  cases focus with
  | call target arguments =>
      cases target with
      | method method =>
          refine ⟨?_, fun table handle asked => allowed table handle ?_⟩
          · exact (method.permitted_everything machine.world arguments).inside
          · simpa [destroyed?, busy] using asked
      | _ => trivial
  | await work => exact work.within_destroying machine.world
  | _ => trivial

theorem Run.steps {start : Machine} (run : Run start past machine) (sound : start.Sound) :
    World.Steps .everything start.world machine.world := by
  induction run with
  | refl => exact World.steps_refl _
  | @move past machine next run move induction =>
      have middle := run.sound sound
      exact induction.trans (move.steps middle.focus (orderly_everything machine))

theorem Run.filed (run : Run (initial (.initial looping registry) names) past machine) :
    machine.world.Filed :=
  (World.filed_initial looping registry).steps
    (run.steps (sound_initial looping registry names))

/-- A run keeps the ledger of a table, with all that the table has issued on it. -/
theorem Run.ledger (run : Run (initial (.initial looping registry) names) past machine)
    (faithful : Faithful table past) :
    ∃ known, (∀ handle, Issued table past machine handle → known handle) ∧
      machine.world.Ledger table known := by
  induction run with
  | refl =>
      refine ⟨_, ?_, World.ledger_initial looping registry table⟩
      rintro handle ⟨state, member, listed⟩
      cases List.mem_singleton.mp member
      exact absurd listed List.not_mem_nil
  | @move past machine next run move induction =>
      obtain ⟨known, issued, ledger⟩ := induction faithful.before
      have sound := run.sound (sound_initial looping registry names)
      have orderly : machine.Orderly fun other handle => other = table → known handle := by
        apply orderly_of_destroyed
        intro other handle asked own
        exact issued handle (faithful.last handle (own ▸ asked))
      obtain ⟨more, grown, later⟩ :=
        ledger.steps (move.steps sound.focus orderly) fun _ inside => inside rfl
      refine ⟨more, ?_, later⟩
      rintro handle ⟨state, member, listed⟩
      rcases List.mem_append.mp member with before | last
      · exact grown handle (issued handle ⟨state, before, listed⟩)
      · cases List.mem_singleton.mp last
        exact later.listed handle listed

end Microboard.Machine
