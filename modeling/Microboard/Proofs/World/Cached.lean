import Microboard.Proofs.World.Building

/-!
# Worlds with another cache

Building an object has nothing to do with the cache of configurations: it neither looks at
what is cached nor changes it.  It may use up identities, but it never gives one out again.
-/

namespace Microboard.World

def withCache (world : World) (configs : List (String × BoardConfig × Nat)) : World :=
  { world with configs }

/-- An outcome with another cache in the place of the one there is. -/
def recached {α : Type} (configs : List (String × BoardConfig × Nat)) (outcome : World × α) :
    World × α :=
  (outcome.1.withCache configs, outcome.2)

section Construction

variable (world : World) (configs : List (String × BoardConfig × Nat))

theorem buildHardware_withCache (pins width height : Value) :
    (world.withCache configs).buildHardware pins width height =
      recached configs (world.buildHardware pins width height) := by
  unfold buildHardware
  split
  · rfl
  · rfl
  · rfl
  · split <;> rfl

theorem buildScheduler_withCache (clock : Clock) (interval : Value) :
    (world.withCache configs).buildScheduler clock interval =
      recached configs (world.buildScheduler clock interval) := by
  unfold buildScheduler
  split <;> rfl

theorem buildBoard_withCache (clock : Clock) (config : BoardConfig) (identity : Nat) :
    (world.withCache configs).buildBoard clock config identity =
      recached configs (world.buildBoard clock config identity) := by
  obtain ⟨members, given, -⟩ := plain_textTuple config.pins.pinIds
  simp only [buildBoard, buildHardware, given, Value.index]
  by_cases empty : members.isEmpty = true
  · simp only [empty, if_true]
    rfl
  · simp only [empty, Bool.false_eq_true, if_false, buildScheduler]
    cases checkInterval config.timing.forever.value <;> rfl

theorem built_recached {component : Component} (record : Ref component → Value)
    (outcome : World × Except Fault (Ref component)) :
    built record (recached configs outcome) = recached configs (built record outcome) := by
  obtain ⟨next, result⟩ := outcome
  cases result <;> rfl

theorem constructBoard_withCache (arguments : Arguments) :
    (world.withCache configs).constructBoard arguments =
      recached configs (world.constructBoard arguments) := by
  simp only [constructBoard]
  split
  · rw [buildBoard_withCache, built_recached]
  · split
    · rfl
    · rw [← built_recached, ← buildBoard_withCache]
      rfl
  · rfl

/-- No constructor looks at the cache. -/
theorem construct_withCache (className : ClassName) (arguments : Arguments) :
    (world.withCache configs).construct className arguments =
      recached configs (world.construct className arguments) := by
  cases className with
  | hardware =>
      exact (congrArg (built .hardware) (buildHardware_withCache world configs _ _ _)).trans
        (built_recached configs .hardware _)
  | scheduler =>
      exact (congrArg (built .scheduler) (buildScheduler_withCache world configs _ _)).trans
        (built_recached configs .scheduler _)
  | board => exact constructBoard_withCache world configs arguments
  | dispatcher | bridge | pinChange | ledChange | buttonPress | reset | boardConfig | button
  | fault =>
      simp only [construct]
      split <;> rfl
  | _ => rfl

theorem buildNamed_withCache (className : ClassName) (name : Value)
    (named : List (String × Value)) :
    (world.withCache configs).buildNamed className name named =
      recached configs (world.buildNamed className name named) :=
  construct_withCache (world.log .debug .board _) configs className _

end Construction

theorem built_identities {component : Component} (record : Ref component → Value)
    (outcome : World × Except Fault (Ref component)) :
    (built record outcome).1.identities = outcome.1.identities := by
  obtain ⟨next, result⟩ := outcome
  cases result <;> rfl

theorem buildHardware_identities (world : World) (pins width height : Value) :
    (world.buildHardware pins width height).1.identities = world.identities := by
  unfold buildHardware
  split
  · rfl
  · rfl
  · rfl
  · split <;> rfl

theorem buildScheduler_identities (world : World) (clock : Clock) (interval : Value) :
    (world.buildScheduler clock interval).1.identities = world.identities := by
  unfold buildScheduler
  split <;> rfl

theorem buildBoard_identities (world : World) (clock : Clock) (config : BoardConfig)
    (identity : Nat) :
    (world.buildBoard clock config identity).1.identities = world.identities := by
  obtain ⟨members, given, -⟩ := plain_textTuple config.pins.pinIds
  simp only [buildBoard, buildHardware, given, Value.index]
  by_cases empty : members.isEmpty = true
  · simp only [empty, if_true]
  · simp only [empty, Bool.false_eq_true, if_false, buildScheduler]
    cases checkInterval config.timing.forever.value <;> rfl

/-- In the new world these configurations are cached besides, and no identity is free that was
used up in the old one. -/
structure Caches (old : World) (loads : List (String × BoardConfig × Nat)) (new : World) :
    Prop where
  configs : new.configs = old.configs ++ loads
  identities : old.identities ≤ new.identities

theorem Caches.refl (world : World) : Caches world [] world :=
  ⟨(List.append_nil _).symm, Nat.le_refl _⟩

theorem Caches.trans_nil {old middle new : World} {loads : List (String × BoardConfig × Nat)}
    (first : Caches old loads middle) (second : Caches middle [] new) : Caches old loads new where
  configs := by rw [second.configs, List.append_nil, first.configs]
  identities := Nat.le_trans first.identities second.identities

theorem construct_caches (world : World) (className : ClassName) (arguments : Arguments) :
    Caches world [] (world.construct className arguments).1 := by
  constructor
  case configs =>
    rw [List.append_nil]
    exact congrArg (fun outcome => outcome.1.configs)
      (construct_withCache world world.configs className arguments)
  case identities =>
    cases className with
    | hardware => simp only [construct, built_identities, buildHardware_identities, Nat.le_refl]
    | scheduler => simp only [construct, built_identities, buildScheduler_identities, Nat.le_refl]
    | board =>
        simp only [construct, constructBoard]
        split
        · simp only [built_identities, buildBoard_identities, Nat.le_refl]
        · split
          · exact Nat.le_refl _
          · simp only [built_identities, buildBoard_identities, Nat.le_succ]
        · exact Nat.le_refl _
    | dispatcher | bridge | pinChange | ledChange | buttonPress | reset | boardConfig | button
    | fault =>
        simp only [construct]
        split <;> first | exact Nat.le_refl _ | exact Nat.le_succ _
    | _ => first | exact Nat.le_refl _ | exact Nat.le_succ _

theorem buildNamed_caches (world : World) (className : ClassName) (name : Value)
    (named : List (String × Value)) :
    Caches world [] (world.buildNamed className name named).1 :=
  let logged := construct_caches (world.log .debug .board _) className _
  ⟨logged.configs, logged.identities⟩

theorem buildWith_caches (className : ClassName) (name : Value) (named : List (String × Value))
    (found : World × Reply) : Caches found.1 [] (buildWith className name named found).1 := by
  obtain ⟨world, reply⟩ := found
  cases reply with
  | error fault => exact .refl world
  | ok config => exact buildNamed_caches world className name _

theorem lookup_replaced (named : List (String × Value)) (config : Value) (key : String) :
    (named.map fun entry => if entry.1 == "config" then (entry.1, config) else entry).lookup key =
      if key = "config" then (named.lookup key).map fun _ => config else named.lookup key := by
  induction named with
  | nil => simp
  | cons entry rest induction =>
      obtain ⟨label, value⟩ := entry
      rw [List.map_cons]
      by_cases replaced : label = "config"
      · by_cases asked : key = "config"
        · simp [replaced, asked]
        · have later : (key == "config") = false := beq_false_of_ne asked
          simpa [replaced, asked, List.lookup_cons, later] using induction
      · by_cases here : key = label
        · simp [here, replaced]
        · have later : (key == label) = false := beq_false_of_ne here
          simpa [replaced, List.lookup_cons, later] using induction

/-- The configuration that is put among the arguments is found there, and the other arguments
are found as before. -/
theorem lookup_withConfigArgument (named : List (String × Value)) (config : Value)
    (key : String) :
    (withConfigArgument named config).lookup key =
      if key = "config" then some config else named.lookup key := by
  have present : (named.any fun entry => entry.1 == "config") = (named.lookup "config").isSome := by
    rw [Bool.eq_iff_iff, List.any_eq_true, List.lookup_isSome_iff]
    simp only [beq_iff_eq, eq_comm (b := "config")]
  unfold withConfigArgument
  rw [present]
  cases found : named.lookup "config" with
  | some value =>
      simp only [Option.isSome_some, if_true, lookup_replaced]
      split
      next asked => rw [asked, found, Option.map_some]
      next => rfl
  | none =>
      simp only [Option.isSome_none, Bool.false_eq_true, if_false, List.lookup_append]
      by_cases asked : key = "config"
      · simp [asked, found]
      · have later : (key == "config") = false := beq_false_of_ne asked
        simp [asked, later, List.lookup_cons]

end Microboard.World
