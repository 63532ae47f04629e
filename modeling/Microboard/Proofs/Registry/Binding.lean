import Microboard.World.Call

/-!
# Bindings of a registry

A name is bound by the first registration under it that gives a class, and by no other one.
What a registry answers is said here in terms of the registrations that it has accepted.
-/

namespace Microboard

def Value.class? : Value → Option ClassName
  | .type className => some className
  | _ => Option.none

namespace Registry

variable {registry : Registry} {name : String} {value : Value}

/-- A registration is refused for a value that is no class, it is refused for a name that is
bound, or it binds the name. -/
theorem register_cases (registry : Registry) (name : String) (value : Value) :
    (value.class? = none ∧ ∃ cause, registry.register name value = .error cause) ∨
    (∃ owner cause, registry.find? name = some owner ∧
      registry.register name value = .error cause) ∨
    ∃ className, value.class? = some className ∧ registry.find? name = none ∧
      registry.register name value =
        .ok (⟨registry.entries ++ [(name, className)]⟩, className) := by
  unfold register
  split
  next className =>
    split
    next owner taken => exact .inr (.inl ⟨owner, _, taken, rfl⟩)
    next free => exact .inr (.inr ⟨className, rfl, free, rfl⟩)
  next unlike =>
    refine .inl ⟨?_, _, rfl⟩
    cases value with
    | type className => exact (unlike className rfl).elim
    | _ => rfl

theorem mem_names : name ∈ registry.names ↔ ∃ className, (name, className) ∈ registry.entries := by
  simp [names]

/-- The names ascend, when none of them is bound twice. -/
theorem names_ascend (distinct : (registry.entries.map (·.1)).Nodup) :
    registry.names.Pairwise (· < ·) := by
  have sorted : registry.names.Pairwise fun left right => decide (left ≤ right) = true := by
    refine List.pairwise_mergeSort ?_ ?_ _
    · intro first second third below above
      exact decide_eq_true (String.le_trans (of_decide_eq_true below) (of_decide_eq_true above))
    · intro left right
      simpa using String.le_total left right
  have differ : registry.names.Pairwise (· ≠ ·) :=
    (List.mergeSort_perm _ _).nodup_iff.mpr distinct
  refine sorted.imp₂ (fun left right ordered apart => ?_) differ
  apply String.not_le.mp
  intro reverse
  exact apart (String.le_antisymm (of_decide_eq_true ordered) reverse)

end Registry

/-- The text of a list of names is empty when there are none, and also when there is only the
empty one. -/
theorem intercalate_eq_empty_iff (names : List String) :
    ", ".intercalate names = "" ↔ names = [] ∨ names = [""] := by
  cases names with
  | nil => simp
  | cons first rest =>
      cases rest with
      | nil => simp
      | cons second rest => simp

theorem Complaint.listed_eq (names : List String) : listed names =
    if names = [] ∨ names = [""] then "none" else ", ".intercalate names := by
  unfold listed
  simp only [String.isEmpty_iff, intercalate_eq_empty_iff]

namespace Binding

/-- A call that is to bind a name. -/
structure Call where
  name : String
  value : Value

def Call.serve (call : Call) (target : Ref .registry) (world : World) : World × Focus :=
  world.callMethod (.registry target .register) ⟨[.str call.name, call.value], []⟩

/-- A run of such calls up to one moment: the world, and the names that have been bound with
their classes, the oldest first. -/
structure History where
  world : World
  bound : List (String × ClassName)

namespace History

def next (target : Ref .registry) (history : History) (call : Call) : History :=
  let (world, focus) := call.serve target history.world
  { world := world
    bound := match focus, call.value.class? with
      | .reply (.ok _), some className => history.bound ++ [(call.name, className)]
      | _, _ => history.bound }

def after (target : Ref .registry) (history : History) (calls : List Call) : History :=
  calls.foldl (next target) history

def taken (history : History) : List String :=
  history.bound.map (·.1)

/-- The class that a name has been bound to first. -/
def first? (history : History) (name : String) : Option ClassName :=
  history.bound.lookup name

theorem first?_isSome_iff {history : History} {name : String} :
    (history.first? name).isSome = true ↔ name ∈ history.taken := by
  rw [first?, List.lookup_isSome_iff, taken, List.mem_map]
  simp only [beq_iff_eq, eq_comm (a := name)]

theorem first?_eq_none_iff {history : History} {name : String} :
    history.first? name = none ↔ name ∉ history.taken := by
  rw [← first?_isSome_iff, Bool.not_eq_true, Option.isSome_eq_false_iff, Option.isNone_iff_eq_none]

end History

/-- The registry lists what has been bound, and no name twice. -/
structure Kept (target : Ref .registry) (history : History) : Prop where
  has : history.world.registries.Has target
  entries : (history.world.registries.get target).entries = history.bound
  distinct : history.taken.Nodup

/-- What one more call does after a run, and what the registry answers then. -/
structure Faithful (target : Ref .registry) (history : History) : Prop where
  fails : ∀ call : Call, (∃ fault, (call.serve target history.world).2 = .raise fault) ↔
    call.value.class? = none ∨ call.name ∈ history.taken
  unchanged : ∀ (call : Call) fault, (call.serve target history.world).2 = .raise fault →
    (call.serve target history.world).1 = history.world ∧ history.next target call = history
  binds : ∀ (call : Call) className, call.value.class? = some className →
    call.name ∉ history.taken →
    (call.serve target history.world).2 = .nothing ∧
      (history.next target call).bound = history.bound ++ [(call.name, className)]
  found : ∀ name className, history.first? name = some className →
    history.world.callMethod (.registry target .boardClass) (.single (.str name)) =
      (history.world, .value (.type className))
  contains : ∀ name, history.world.contains (.str name) (.registry target) =
    .ok (history.first? name).isSome
  listed : ∃ names : List String,
    history.world.callMethod (.registry target .names) .empty =
      (history.world, .value (.list (names.map .str))) ∧
    names.Pairwise (· < ·) ∧ (∀ name, name ∈ names ↔ name ∈ history.taken) ∧
    ∀ name, history.first? name = none → ∃ fault,
      history.world.callMethod (.registry target .boardClass) (.single (.str name)) =
        (history.world, .raise fault) ∧
      fault.kind = .error .value ∧
      fault.message = "No board named '" ++ name ++ "' (registered: " ++
        (if names = [] ∨ names = [""] then "none" else ", ".intercalate names) ++ ")"

variable {target : Ref .registry} {history : History}

theorem Kept.find? (kept : Kept target history) (name : String) :
    (history.world.registries.get target).find? name = history.first? name :=
  congrArg (List.lookup name) kept.entries

/-- A call fails and changes nothing, or it adds a name that has not been bound. -/
theorem Kept.serve_cases (kept : Kept target history) (call : Call) :
    ((call.value.class? = none ∨ call.name ∈ history.taken) ∧
      ∃ cause, call.serve target history.world = (history.world, .raise (.complaint cause))) ∨
    ∃ className world, call.value.class? = some className ∧ call.name ∉ history.taken ∧
      call.serve target history.world = (world, .nothing) ∧
      world.registries = history.world.registries.modify target fun _ =>
        ⟨history.bound ++ [(call.name, className)]⟩ := by
  have served : call.serve target history.world =
      (history.world.registerBoard target (.str call.name) call.value).1.answer
        (history.world.registerBoard target (.str call.name) call.value).2 := rfl
  rw [served]
  unfold World.registerBoard
  rw [Value.plain_str]
  rcases (history.world.registries.get target).register_cases call.name call.value with
    ⟨unlike, cause, refused⟩ | ⟨owner, cause, taken, refused⟩ | ⟨className, known, free, bound⟩
  · rw [refused]
    exact .inl ⟨.inl unlike, cause, rfl⟩
  · rw [refused]
    rw [kept.find?] at taken
    have held : call.name ∈ history.taken := History.first?_isSome_iff.mp (by rw [taken]; rfl)
    exact .inl ⟨.inr held, cause, rfl⟩
  · rw [bound, kept.entries]
    rw [kept.find?] at free
    exact .inr ⟨className, _, known, History.first?_eq_none_iff.mp free, rfl, rfl⟩

theorem Kept.next (kept : Kept target history) (call : Call) :
    Kept target (history.next target call) := by
  rcases kept.serve_cases call with
    ⟨-, cause, served⟩ | ⟨className, world, known, free, served, registries⟩
  · rw [History.next, served]
    exact ⟨kept.has, kept.entries, kept.distinct⟩
  · have more : history.next target call =
        ⟨world, history.bound ++ [(call.name, className)]⟩ := by
      rw [History.next, served, known]
      rfl
    rw [more]
    constructor
    case has =>
      rw [registries]
      exact Arena.has_modify.mpr kept.has
    case entries =>
      rw [registries, Arena.get_modify_self _ kept.has]
    case distinct =>
      have names : History.taken ⟨world, history.bound ++ [(call.name, className)]⟩ =
          history.taken ++ [call.name] := List.map_append
      rw [names]
      exact List.nodup_append.mpr
        ⟨kept.distinct, by simp, by simpa using fun _ held => ne_of_mem_of_not_mem held free⟩

theorem Kept.after (kept : Kept target history) (calls : List Call) :
    Kept target (history.after target calls) := by
  induction calls generalizing history with
  | nil => exact kept
  | cons call rest induction => exact induction (kept.next call)

theorem Kept.boardClass (kept : Kept target history) (name : String) :
    history.world.callMethod (.registry target .boardClass) (.single (.str name)) =
      (history.world, .reply (match history.first? name with
        | some className => .ok (.type className)
        | none => .complain
            (.unknownBoard name (history.world.registries.get target).names))) := by
  have called : history.world.callMethod (.registry target .boardClass) (.single (.str name)) =
      history.world.answer (replyWith .type
        ((history.world.registries.get target).boardClass name)) := rfl
  rw [called, Registry.boardClass, kept.find?]
  cases history.first? name <;> rfl

theorem Kept.faithful (kept : Kept target history) : Faithful target history := by
  constructor
  case fails =>
    intro call
    rcases kept.serve_cases call with
      ⟨unfit, cause, served⟩ | ⟨className, world, known, free, served, -⟩
    · exact ⟨fun _ => unfit, fun _ => ⟨_, congrArg Prod.snd served⟩⟩
    · rw [served]
      simp [known, free, Focus.nothing, Focus.raise, Reply.nothing]
  case unchanged =>
    intro call fault raised
    rcases kept.serve_cases call with
      ⟨-, cause, served⟩ | ⟨className, world, -, -, served, -⟩
    · rw [History.next, served]
      exact ⟨rfl, rfl⟩
    · rw [served] at raised
      cases raised
  case binds =>
    intro call className known free
    rcases kept.serve_cases call with
      ⟨unlike | taken, -⟩ | ⟨other, world, given, -, served, -⟩
    · simp [known] at unlike
    · exact absurd taken free
    · rw [History.next, served, known]
      exact ⟨rfl, rfl⟩
  case found =>
    intro name className first
    rw [kept.boardClass, first]
    rfl
  case contains =>
    intro name
    rw [← kept.find?]
    rfl
  case listed =>
    refine ⟨(history.world.registries.get target).names, rfl, ?_, fun name => ?_,
      fun name missing => ?_⟩
    · apply Registry.names_ascend
      rw [kept.entries]
      exact kept.distinct
    · rw [Registry.mem_names, kept.entries]
      simp [History.taken]
    · refine ⟨.complaint (.unknownBoard name (history.world.registries.get target).names),
        ?_, rfl, ?_⟩
      · rw [kept.boardClass, missing]
        rfl
      · rw [← Complaint.listed_eq]
        rfl

/-- Whatever has been called, a registry holds on to the first class that a name was bound to:
only a class binds a name, and only when it is free.  The names are listed in order, and whoever
asks for an unknown one is told all of them, unless the empty name is the only one. -/
theorem registry_never_rebinds (world : World) (target : Ref .registry)
    (has : world.registries.Has target) (unused : world.registries.get target = .empty)
    (calls : List Call) : Faithful target ((History.mk world []).after target calls) := by
  have kept : Kept target ⟨world, []⟩ := ⟨has, congrArg Registry.entries unused, List.nodup_nil⟩
  exact (kept.after calls).faithful

/-- The first class stays, whatever is registered under its name later. -/
theorem registry_never_rebinds_the_first :
    let history := (History.mk (.initial true .empty) []).after World.sharedRegistry
      [⟨"toy", .int 3⟩, ⟨"toy", .type (.keeper "Alpha")⟩, ⟨"toy", .type (.keeper "Beta")⟩]
    (World.initial true .empty).registries.Has World.sharedRegistry ∧
      (World.initial true .empty).registries.get World.sharedRegistry = .empty ∧
      history.world.callMethod (.registry World.sharedRegistry .boardClass) (.single (.str "toy")) =
        (history.world, .value (.type (.keeper "Alpha"))) :=
  ⟨by decide, rfl, (registry_never_rebinds _ World.sharedRegistry (by decide) rfl _).found
    "toy" (.keeper "Alpha") rfl⟩

/-- Whoever asks a registry with nothing but the empty name in it is told that there is none. -/
theorem empty_name_told_as_none :
    let history := (History.mk (.initial true .empty) []).after World.sharedRegistry
      [⟨"", .type (.keeper "Alpha")⟩]
    history.world.callMethod (.registry World.sharedRegistry .names) .empty =
      (history.world, .value (.list [.str ""])) ∧
    ∃ fault, history.world.callMethod (.registry World.sharedRegistry .boardClass)
        (.single (.str "x")) = (history.world, .raise fault) ∧
      fault.message = "No board named 'x' (registered: none)" ∧
      fault.message ≠ "No board named 'x' (registered: " ++ ", ".intercalate [""] ++ ")" := by
  intro history
  let registry := history.world.registries.get World.sharedRegistry
  have names : registry.names = [""] := List.mergeSort_singleton ""
  have listed : history.world.callMethod (.registry World.sharedRegistry .names) .empty =
      (history.world, .value (.list (registry.names.map .str))) := rfl
  have asked : history.world.callMethod (.registry World.sharedRegistry .boardClass)
      (.single (.str "x")) =
      (history.world, .raise (.complaint (.unknownBoard "x" registry.names))) := rfl
  rw [names] at listed asked
  exact ⟨listed, _, asked, by decide, by decide⟩

end Binding

end Microboard
