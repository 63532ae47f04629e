import Microboard.Program

/-!
# Scripts

The language in which sessions are written: literals for values, and actions. A
callback is a literal whose body is a list of actions.
-/

namespace Microboard

mutual

inductive Literal where
  | none
  | bool (value : Bool)
  | int (value : Int)
  | float (value : Float)
  | str (value : String)
  | list (items : List Literal)
  | tuple (items : List Literal)
  | dict (entries : List (String × Literal))
  | name (name : String)
  | button (button : Button)
  | pinKind (kind : PinKind)
  | recorder (label : String)
  | panel (label : String)
  | glyphs (glyphs : GlyphMap)
  | keeper (name : String)
  | fault (kind : FaultKind) (args : List Literal)
  | file (content : FileContent)
  | callback (style : Style) (body : List Action) (result : Literal)

/-- One action. `only` lists the invocations of a callback in which it is done, `bound`
is a name for its result, and with a `tag` its result is reported. -/
inductive Action where
  | mk (operation : Operation) (args : List Literal) (named : List (String × Literal))
      (only : Option (List Nat)) (bound tag : Option String)

inductive Operation where
  | note
  | raise (kind : FaultKind)
  | attempt (action : Action)
  | branch (condition : Action) (met unmet : List Action)
  | sequence (actions : List Action)
  | create (className : ClassName)
  | function (function : Function)
  | openBoard (actions : List Action)
  | spawn
  | path (name : String) (properties : List String)

end

instance : Inhabited Literal := ⟨.none⟩

instance : Inhabited Operation := ⟨.note⟩

instance : Inhabited Action := ⟨.mk default [] [] none none none⟩

end Microboard
