import Microboard.Hardware.Access

/-!
# The shape of hardware

No operation changes which pins a board has or how large its matrix is.  The
matrix always has one cell for every pair of coordinates inside its size, and
the pins are listed once each, so that a checked access finds what it names.
-/

namespace Microboard.Hardware

/-- The stores have a place for every pin and every cell. -/
structure Shaped (hardware : Hardware) : Prop where
  columns : hardware.leds.length = hardware.width.toNat
  cells : ∀ column ∈ hardware.leds, column.length = hardware.height.toNat
  names : hardware.pins.map (·.1) = distinct hardware.pinIds

structure Succeeds (old new : Hardware) : Prop where
  pinIds : new.pinIds = old.pinIds
  width : new.width = old.width
  height : new.height = old.height
  shaped : old.Shaped → new.Shaped

theorem Succeeds.refl (hardware : Hardware) : Succeeds hardware hardware :=
  ⟨rfl, rfl, rfl, id⟩

theorem Succeeds.trans {first second third : Hardware}
    (left : Succeeds first second) (right : Succeeds second third) :
    Succeeds first third :=
  ⟨right.pinIds.trans left.pinIds, right.width.trans left.width,
    right.height.trans left.height, fun shaped => right.shaped (left.shaped shaped)⟩

theorem shaped_initial (pinIds : List String) (width height : Int) :
    (initial pinIds width height).Shaped := by
  refine ⟨by simp [initial, darkLeds], ?_, by simp [initial, zeroPins, Function.comp_def]⟩
  intro column member
  simp only [initial, darkLeds, List.mem_replicate] at member
  simp [initial, member.2]

theorem succeeds_reset (hardware : Hardware) : Succeeds hardware hardware.reset :=
  ⟨rfl, rfl, rfl, fun _ => shaped_initial _ _ _⟩

theorem succeeds_clearLeds (hardware : Hardware) : Succeeds hardware hardware.clearLeds := by
  refine ⟨rfl, rfl, rfl, ?_⟩
  intro shaped
  have dark := shaped_initial hardware.pinIds hardware.width hardware.height
  exact ⟨dark.columns, dark.cells, shaped.names⟩

theorem succeeds_writePin (hardware : Hardware) (pin : String) (kind : PinKind)
    (level : Int) : Succeeds hardware (hardware.writePin pin kind level) := by
  refine ⟨rfl, rfl, rfl, fun shaped => ⟨shaped.columns, shaped.cells, ?_⟩⟩
  have names : (hardware.writePin pin kind level).pins.map (·.1) = hardware.pins.map (·.1) := by
    simp only [writePin, List.map_map]
    apply List.map_congr_left
    intro entry _
    by_cases same : entry.1 = pin <;> simp [same]
  exact names.trans shaped.names

theorem succeeds_writeLed (hardware : Hardware) (x y : Nat) (lit : Bool) :
    Succeeds hardware (hardware.writeLed x y lit) := by
  refine ⟨rfl, rfl, rfl, fun shaped => ⟨?_, ?_, shaped.names⟩⟩
  · simpa [writeLed] using shaped.columns
  · intro column member
    simp only [writeLed] at member
    obtain ⟨index, found⟩ := List.mem_iff_getElem?.mp member
    rw [List.getElem?_modify] at found
    obtain ⟨before, read, rfl⟩ := Option.map_eq_some_iff.mp found
    have size := shaped.cells before (List.mem_of_getElem? read)
    by_cases same : x = index <;> simp [same, size, writeLed]

theorem succeeds_writeLatch (hardware : Hardware) (button : Button) (pressed : Bool) :
    Succeeds hardware (hardware.writeLatch button pressed) :=
  ⟨rfl, rfl, rfl, fun shaped => ⟨shaped.columns, shaped.cells, shaped.names⟩⟩

theorem succeeds_releaseLatches (hardware : Hardware) :
    Succeeds hardware { hardware with buttons := .const false } :=
  ⟨rfl, rfl, rfl, fun shaped => ⟨shaped.columns, shaped.cells, shaped.names⟩⟩

theorem setLevel_eq_ok {hardware changed : Hardware} {kind : PinKind} {pin level : Value}
    (success : hardware.setLevel kind pin level = .ok changed) :
    ∃ name stored, pin.word? = some name ∧ (hardware.levels? name).isSome ∧
      level.index = .ok stored ∧ changed = hardware.writePin name kind stored := by
  unfold setLevel checkPin at success
  cases word : pin.word? with
  | none => simp [word, bind, Except.bind] at success
  | some name =>
      by_cases known : (hardware.levels? name).isSome
      · cases number : level.index with
        | error cause => simp [word, known, number, orFault, bind, Except.bind] at success
        | ok stored =>
            simp only [word, known, number, orFault, bind, Except.bind, pure, Except.pure,
              if_true, Except.ok.injEq] at success
            exact ⟨name, stored, rfl, known, rfl, success.symm⟩
      · simp [word, known, bind, Except.bind] at success

theorem setLed_eq_ok {hardware changed : Hardware} {x y lit : Value}
    (success : hardware.setLed x y lit = .ok changed) :
    ∃ column row, x.index = .ok column ∧ y.index = .ok row ∧
      hardware.inMatrix column row = true ∧
      changed = hardware.writeLed column.toNat row.toNat lit.truthy := by
  unfold setLed checkLed at success
  cases first : x.index with
  | error cause => simp [first, orFault, bind, Except.bind] at success
  | ok column =>
      cases second : y.index with
      | error cause => simp [first, second, orFault, bind, Except.bind] at success
      | ok row =>
          by_cases inside : hardware.inMatrix column row = true
          · simp only [first, second, inside, orFault, bind, Except.bind, pure, Except.pure,
              if_true, Except.ok.injEq] at success
            exact ⟨column, row, rfl, rfl, inside, success.symm⟩
          · simp [first, second, inside, orFault, bind, Except.bind] at success

theorem succeeds_setLevel {hardware changed : Hardware} {kind : PinKind} {pin level : Value}
    (success : hardware.setLevel kind pin level = .ok changed) :
    Succeeds hardware changed := by
  obtain ⟨name, stored, _, _, _, rfl⟩ := setLevel_eq_ok success
  exact succeeds_writePin hardware name kind stored

theorem succeeds_setLed {hardware changed : Hardware} {x y lit : Value}
    (success : hardware.setLed x y lit = .ok changed) : Succeeds hardware changed := by
  obtain ⟨column, row, _, _, _, rfl⟩ := setLed_eq_ok success
  exact succeeds_writeLed hardware column.toNat row.toNat lit.truthy

theorem setButton_eq_ok {hardware changed : Hardware} {button pressed : Value}
    (success : hardware.setButton button pressed = .ok changed) :
    ∃ known, button.toButton = .ok known ∧
      changed = hardware.writeLatch known pressed.truthy := by
  unfold setButton at success
  cases known : button.toButton with
  | error fault => simp [known, bind, Except.bind] at success
  | ok button =>
      simp only [known, bind, Except.bind, pure, Except.pure, Except.ok.injEq] at success
      exact ⟨button, rfl, success.symm⟩

theorem succeeds_setButton {hardware changed : Hardware} {button pressed : Value}
    (success : hardware.setButton button pressed = .ok changed) :
    Succeeds hardware changed := by
  obtain ⟨known, _, rfl⟩ := setButton_eq_ok success
  exact succeeds_writeLatch hardware known pressed.truthy

theorem Shaped.led?_isSome {hardware : Hardware} (shaped : hardware.Shaped) {x y : Nat}
    (column : x < hardware.width.toNat) (row : y < hardware.height.toNat) :
    (hardware.led? x y).isSome := by
  have inside : x < hardware.leds.length := by rw [shaped.columns]; exact column
  have size := shaped.cells _ (List.getElem_mem inside)
  simp [led?, List.getElem?_eq_getElem inside, size, row]

theorem led?_writeLed (hardware : Hardware) (x y column row : Nat) (lit : Bool) :
    (hardware.writeLed x y lit).led? column row =
      if column = x ∧ row = y then (hardware.led? column row).map fun _ => lit
      else hardware.led? column row := by
  simp only [led?, writeLed, List.getElem?_modify]
  cases hardware.leds[column]? with
  | none => simp
  | some cells =>
      by_cases sameColumn : x = column
      · by_cases sameRow : y = row
        · subst sameColumn sameRow
          cases found : cells[y]? with
          | none => simp_all
          | some cell => simp [(List.getElem?_eq_some_iff.mp found).1]
        · simp [sameColumn, List.getElem?_set_ne sameRow, Ne.symm sameRow]
      · simp [sameColumn, Ne.symm sameColumn]

theorem Shaped.led?_writeLed_self {hardware : Hardware} (shaped : hardware.Shaped)
    {x y : Nat} (lit : Bool) (column : x < hardware.width.toNat)
    (row : y < hardware.height.toNat) :
    (hardware.writeLed x y lit).led? x y = some lit := by
  rw [led?_writeLed, if_pos ⟨rfl, rfl⟩]
  obtain ⟨cell, found⟩ := Option.isSome_iff_exists.mp (shaped.led?_isSome column row)
  rw [found, Option.map_some]

theorem led?_initial (pinIds : List String) (width height : Int) (x y : Nat) :
    (initial pinIds width height).led? x y =
      if x < width.toNat ∧ y < height.toNat then some false else none := by
  simp only [led?, initial, darkLeds, List.getElem?_replicate]
  by_cases column : x < width.toNat
  · by_cases row : y < height.toNat <;> simp [column, row]
  · simp [column]

theorem levels?_writePin (hardware : Hardware) (pin other : String) (kind : PinKind)
    (level : Int) :
    (hardware.writePin pin kind level).levels? other =
      if other = pin then (hardware.levels? other).map (·.set kind level)
      else hardware.levels? other := by
  simp only [levels?, writePin]
  induction hardware.pins with
  | nil => simp
  | cons entry rest induction =>
      obtain ⟨name, levels⟩ := entry
      by_cases same : other = name
      · subst same
        by_cases written : other = pin <;> simp [written]
      · have differs : (other == name) = false := by simpa using same
        by_cases written : name = pin
        · simpa [List.lookup_cons, written, written ▸ differs] using induction
        · simpa [List.lookup_cons, written, differs] using induction

theorem inMatrix_iff {hardware : Hardware} {x y : Int} :
    hardware.inMatrix x y = true ↔
      0 ≤ x ∧ x < hardware.width ∧ 0 ≤ y ∧ y < hardware.height := by
  simp [inMatrix, and_assoc]

end Microboard.Hardware
