import Microboard.Proofs.Hardware.Shape
import Microboard.World.Property

/-!
# Mirrors

An observer keeps a picture of a board from nothing but the renderings of the events
that it hears.  Every change of the hardware changes the picture of its snapshot just as
hearing the event of the change does.
-/

namespace Microboard

/-- What an observer takes the hardware of a board to be. -/
@[ext] structure Mirror where
  digital : String → Int
  lit : Int → Int → Bool
  latched : Button → Bool

namespace Mirror

def zero : Mirror := ⟨fun _ => 0, fun _ _ => false, fun _ => false⟩

/-- The number under a key of a rendering; a truth value counts as zero or one. -/
def number? (record : Entries) (key : String) : Option Int :=
  (Value.lookup? record (.str key)).bind fun value => value.index.toOption

def word? (record : Entries) (key : String) : Option String :=
  (Value.lookup? record (.str key)).bind Value.word?

def setPin (mirror : Mirror) (pin : String) (level : Int) : Mirror :=
  { mirror with digital := fun other => if other = pin then level else mirror.digital other }

def setCell (mirror : Mirror) (x y : Int) (lit : Bool) : Mirror :=
  { mirror with
    lit := fun column row => if column = x ∧ row = y then lit else mirror.lit column row }

def latch (mirror : Mirror) (button : Button) : Mirror :=
  { mirror with
    latched := fun other => if other = button then true else mirror.latched other }

/-- Takes over what the rendering of an event says, if it says enough. -/
def hear (mirror : Mirror) (record : Entries) : Mirror :=
  match word? record "type" with
  | some "pin-change" =>
    match word? record "pin", number? record "value" with
    | some pin, some level => mirror.setPin pin level
    | _, _ => mirror
  | some "led-change" =>
    match number? record "x", number? record "y", number? record "value" with
    | some x, some y, some level => mirror.setCell x y (level ≠ 0)
    | _, _, _ => mirror
  | some "button-press" =>
    match (word? record "button").bind Button.ofName? with
    | some button => mirror.latch button
    | none => mirror
  | some "reset" => zero
  | _ => mirror

variable {mirror : Mirror}

theorem hear_pinChange (pin : String) (level : Int) (kind : PinKind) :
    mirror.hear (Event.pinChange pin level kind).record = mirror.setPin pin level := rfl

/-- Coordinates are read as the numbers that they mean, however they are spelled. -/
theorem hear_ledChange (x y : Whole) (level : Int) :
    mirror.hear (Event.ledChange x y level).record =
      mirror.setCell x.toInt y.toInt (level ≠ 0) := by
  cases x <;> cases y <;> rfl

theorem hear_buttonPress (button : Button) :
    mirror.hear (Event.buttonPress button).record = mirror.latch button := by
  cases button <;> rfl

theorem hear_reset : mirror.hear Event.reset.record = zero := rfl

end Mirror

/-- The mirror that agrees with a snapshot. -/
def Snapshot.mirror (snapshot : Snapshot) : Mirror where
  digital pin := ((snapshot.pins.lookup pin).map (·.digital)).getD 0
  lit x y :=
    0 ≤ x && 0 ≤ y && ((snapshot.leds[x.toNat]?).bind fun column => column[y.toNat]?).getD false
  latched := snapshot.buttons.get

namespace Hardware

variable {hardware : Hardware}

def mirror (hardware : Hardware) : Mirror := hardware.snapshot.mirror

theorem mirror_digital (hardware : Hardware) (pin : String) :
    hardware.mirror.digital pin = ((hardware.levels? pin).map (·.digital)).getD 0 := rfl

theorem mirror_lit (hardware : Hardware) (x y : Int) :
    hardware.mirror.lit x y =
      (0 ≤ x && 0 ≤ y && (hardware.led? x.toNat y.toNat).getD false) := rfl

theorem mirror_initial (pinIds : List String) (width height : Int) :
    (initial pinIds width height).mirror = .zero := by
  refine Mirror.ext ?_ ?_ ?_
  · funext pin
    rw [mirror_digital, levels?]
    change (((zeroPins pinIds).lookup pin).map _).getD 0 = 0
    unfold zeroPins
    induction distinct pinIds with
    | nil => rfl
    | cons name rest induction =>
        by_cases same : pin = name
        · simp [same, PinLevels.zero]
        · have differs : (pin == name) = false := by simpa using same
          simpa [List.lookup_cons, differs] using induction
  · funext x y
    rw [mirror_lit, led?_initial]
    split <;> simp [Mirror.zero]
  · funext button
    cases button <;> rfl

theorem mirror_reset (hardware : Hardware) : hardware.reset.mirror = .zero :=
  mirror_initial _ _ _

theorem mirror_writePin {pin : String} (known : (hardware.levels? pin).isSome)
    (level : Int) :
    (hardware.writePin pin .digital level).mirror = hardware.mirror.setPin pin level := by
  refine Mirror.ext ?_ rfl rfl
  funext other
  obtain ⟨levels, found⟩ := Option.isSome_iff_exists.mp known
  simp only [mirror_digital, Mirror.setPin, levels?_writePin]
  by_cases same : other = pin
  · simp [same, found, PinLevels.set]
  · simp [same]

theorem mirror_writeAnalog (hardware : Hardware) (pin : String) (level : Int) :
    (hardware.writePin pin .analog level).mirror = hardware.mirror := by
  refine Mirror.ext ?_ rfl rfl
  funext other
  simp only [mirror_digital, levels?_writePin]
  by_cases same : other = pin
  · cases found : hardware.levels? pin <;> simp [same, found, PinLevels.set]
  · simp [same]

theorem mirror_writeCell {x y : Nat} {lit : Bool}
    (shows : ((hardware.writeLed x y lit).led? x y).getD false = lit) :
    (hardware.writeLed x y lit).mirror = hardware.mirror.setCell x y lit := by
  refine Mirror.ext rfl ?_ rfl
  funext column row
  simp only [mirror_lit, Mirror.setCell]
  by_cases same : column = x ∧ row = y
  · obtain ⟨rfl, rfl⟩ := same
    simp [shows]
  · rw [if_neg same]
    by_cases there : 0 ≤ column ∧ 0 ≤ row
    · have elsewhere : ¬ (column.toNat = x ∧ row.toNat = y) := by omega
      rw [led?_writeLed, if_neg elsewhere]
    · have outside : (decide (0 ≤ column) && decide (0 ≤ row)) = false := by
        simpa using fun first => Int.not_le.mp fun second => there ⟨first, second⟩
      rw [outside]
      rfl

theorem mirror_writeLed (shaped : hardware.Shaped) {x y : Int}
    (inside : hardware.inMatrix x y = true) (lit : Bool) :
    (hardware.writeLed x.toNat y.toNat lit).mirror = hardware.mirror.setCell x y lit := by
  obtain ⟨left, column, low, row⟩ := inMatrix_iff.mp inside
  rw [mirror_writeCell, Int.toNat_of_nonneg left, Int.toNat_of_nonneg low]
  rw [shaped.led?_writeLed_self lit (by omega) (by omega), Option.getD_some]

/-- A cell that does not exist counts as dark. -/
theorem mirror_darken (hardware : Hardware) (x y : Nat) :
    (hardware.writeLed x y false).mirror = hardware.mirror.setCell x y false := by
  apply mirror_writeCell
  rw [led?_writeLed, if_pos ⟨rfl, rfl⟩]
  cases hardware.led? x y <;> rfl

theorem mirror_writeLatch (hardware : Hardware) (button : Button) :
    (hardware.writeLatch button true).mirror = hardware.mirror.latch button := by
  refine Mirror.ext rfl rfl ?_
  funext other
  by_cases same : other = button
  · simp [mirror, Snapshot.mirror, snapshot, writeLatch, Mirror.latch, same]
  · simp [mirror, Snapshot.mirror, snapshot, writeLatch, Mirror.latch, same,
      PerButton.get_set_of_ne _ _ same]

end Hardware

end Microboard
