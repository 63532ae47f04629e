import Microboard.Ref

/-!
# Arenas

A growing store of objects of one kind. Nothing is ever removed, so a reference
stays good; reading what was written is stated by the lemmas at the end.
-/

namespace Microboard

/-- All objects of one kind, each at the place that its reference names. -/
structure Arena (component : Component) (α : Type) where
  items : List α
deriving DecidableEq, Repr

namespace Arena

variable {component : Component} {α : Type}

instance : Inhabited (Arena component α) := ⟨⟨[]⟩⟩

def empty : Arena component α := ⟨[]⟩

def fresh (arena : Arena component α) : Ref component := ⟨arena.items.length⟩

def push (arena : Arena component α) (item : α) : Arena component α :=
  ⟨arena.items ++ [item]⟩

def get [Inhabited α] (arena : Arena component α) (target : Ref component) : α :=
  arena.items.getD target.index default

def modify (arena : Arena component α) (target : Ref component) (change : α → α) :
    Arena component α :=
  ⟨arena.items.modify target.index change⟩

def Has (arena : Arena component α) (target : Ref component) : Prop :=
  target.index < arena.items.length

instance (arena : Arena component α) (target : Ref component) :
    Decidable (arena.Has target) :=
  inferInstanceAs (Decidable (_ < _))

theorem get_push_fresh [Inhabited α] (arena : Arena component α) (item : α) :
    (arena.push item).get arena.fresh = item := by
  simp [get, push, fresh]

theorem get_push_of_has [Inhabited α] {arena : Arena component α} {item : α}
    {target : Ref component} (has : arena.Has target) :
    (arena.push item).get target = arena.get target := by
  simp only [Has] at has
  simp [get, push, List.getD_eq_getElem?_getD, List.getElem?_append_left has]

theorem has_push {arena : Arena component α} {item : α} {target : Ref component}
    (has : arena.Has target) : (arena.push item).Has target := by
  simp only [Has, push, List.length_append, List.length_cons, List.length_nil] at *
  omega

theorem has_push_fresh (arena : Arena component α) (item : α) :
    (arena.push item).Has arena.fresh := by
  simp [Has, push, fresh]

@[simp] theorem has_modify {arena : Arena component α} {target other : Ref component}
    {change : α → α} : (arena.modify target change).Has other ↔ arena.Has other := by
  simp [Has, modify]

theorem get_modify_self [Inhabited α] {arena : Arena component α}
    {target : Ref component} (change : α → α) (has : arena.Has target) :
    (arena.modify target change).get target = change (arena.get target) := by
  simp only [Has] at has
  simp [get, modify, List.getD_eq_getElem?_getD, has]

theorem get_modify_of_ne [Inhabited α] (arena : Arena component α)
    {target other : Ref component} (change : α → α) (different : other ≠ target) :
    (arena.modify target change).get other = arena.get other := by
  have indices : target.index ≠ other.index := by
    intro same
    cases target
    cases other
    simp_all
  simp [get, modify, List.getD_eq_getElem?_getD, indices]

end Arena

end Microboard
