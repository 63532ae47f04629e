import Microboard.Proofs.Glyph.Drawing
import Microboard.World.Function

/-!
# Parsing of drawings

Of all rows of text the parser accepts just the drawings.  It looks at the width of the first
row only, and compares all others with it; a drawing comes back as its picture, and anything
else is answered by a value error that says what is wrong with it.
-/

namespace Microboard.Glyph

variable {art other : Art} {char : String} {width : Nat}

/-- The sign by which a cell of a drawing goes on to the parser. -/
def inked (sign : Char) : Char :=
  if sign = '#' then '#' else '.'

theorem singleton_equals_hash (sign : Char) :
    (Value.str (String.singleton sign)).equals (.str "#") = (sign == '#') := by
  change (String.singleton sign == "#") = (sign == '#')
  apply Bool.eq_iff_iff.mpr
  rw [beq_iff_eq, beq_iff_eq, ← String.toList_inj, String.toList_singleton]
  exact ⟨fun same => (List.cons.inj same).1, fun same => congrArg (fun sign => [sign]) same⟩

theorem artRows_texts (art : Art) :
    artRows (art.map .str) = .ok (art.map fun row => row.toList.map inked) := by
  induction art with
  | nil => rfl
  | cons row rest induction =>
      have shown : (Value.characters row).map
          (fun cell => if cell.equals (.str "#") then '#' else '.') = row.toList.map inked := by
        rw [Value.characters, List.map_map]
        apply List.map_congr_left
        intro sign _
        simp only [Function.comp, singleton_equals_hash, inked, beq_iff_eq]
      simp only [List.map_cons, artRows, induction, Value.members, Value.word?]
      simp only [bind, Except.bind, pure, Except.pure, shown]

theorem parseRow_inked (row : List Char) : parseRow (row.map inked) = parseRow row := by
  rw [parseRow, parseRow, List.map_map]
  apply List.map_congr_left
  intro sign _
  by_cases hash : sign = '#'
  · simp [inked, hash]
  · simp [inked, hash]

theorem parse_inked (drawable : Drawable art) :
    parse (art.map fun row => row.toList.map inked) = .ok (ofRows art) := by
  have long : ∀ row : String, (row.toList.map inked).length = row.length := by
    intro row
    rw [List.length_map, String.length_toList]
  rw [parse_map drawable long, ofRows]
  simp only [parseRow_inked]

theorem checkWidths_cons (char : String) (width : Nat) (row : String) (rest : List Value) :
    checkWidths char width (.str row :: rest) =
      if row.length ≠ width then .error (.glyph char .unevenRows)
      else checkWidths char width rest :=
  rfl

theorem checkWidths_even (same : ∀ row ∈ art, row.length = width) :
    checkWidths char width (art.map .str) = .ok () := by
  induction art with
  | nil => rfl
  | cons row rest induction =>
      have others := induction fun other member => same other (List.mem_cons_of_mem _ member)
      rw [List.map_cons, checkWidths_cons, others,
        if_neg (not_not_intro (same row List.mem_cons_self))]

theorem checkWidths_uneven (differs : ∃ row ∈ art, row.length ≠ width) :
    checkWidths char width (art.map .str) = .error (.glyph char .unevenRows) := by
  induction art with
  | nil =>
      obtain ⟨row, member, -⟩ := differs
      cases member
  | cons row rest induction =>
      rw [List.map_cons, checkWidths_cons]
      by_cases same : row.length = width
      · rw [if_neg (not_not_intro same)]
        apply induction
        obtain ⟨other, member, different⟩ := differs
        rcases List.mem_cons.mp member with rfl | behind
        · exact absurd same different
        · exact ⟨other, behind, different⟩
      · exact if_pos same

/-- The width of the first row stands for all of them: a drawing of the right height is not
parsed only if its first row is empty or another row differs from it. -/
theorem uneven_cases {first : String} {rest : Art} (tall : (first :: rest).length = height)
    (flawed : ¬ Drawable (first :: rest)) :
    first.length = 0 ∨ ∃ row ∈ first :: rest, row.length ≠ first.length := by
  by_cases differs : ∃ row ∈ first :: rest, row.length ≠ first.length
  · exact .inr differs
  · left
    apply Decidable.byContradiction
    intro positive
    refine flawed ⟨tall, first.length, Nat.pos_of_ne_zero positive, fun row member => ?_⟩
    exact Decidable.byContradiction fun different => differs ⟨row, member, different⟩

/-- What the parser answers to a character and the rows of its drawing. -/
def parsed (char : String) (art : Art) : Except Complaint Glyph :=
  glyphOf (.str char) (.tuple (art.map .str))

/-- What is left to do for rows of the right number: the first of them gives the width. -/
theorem parsed_tall {first : String} {rest : Art} (tall : (first :: rest).length = height) :
    parsed char (first :: rest) =
      if first.length = 0 then .error (.glyph (Text.quoted char) .unevenRows)
      else (checkWidths (Text.quoted char) first.length ((first :: rest).map .str)).bind fun _ =>
        (parse ((first :: rest).map fun row => row.toList.map inked)).mapError
          (.glyph (Text.quoted char)) := by
  have counted : (Value.tuple ((first :: rest).map .str)).size = .ok height := by
    rw [Value.size, List.length_map, tall]
  have measured : (((first :: rest).map Value.str).headD .none).size = .ok first.length := rfl
  have named : (Value.str char).exact = Text.quoted char := rfl
  simp only [parsed, glyphOf, counted, named, Value.members, measured, artRows_texts, bind,
    Except.bind, ne_eq, not_true_eq_false, if_false]
  cases parse ((first :: rest).map fun row => row.toList.map inked) with
  | error problem => rfl
  | ok glyph => rfl

theorem parsed_drawable (drawable : Drawable art) : parsed char art = .ok (ofRows art) := by
  cases art with
  | nil => cases drawable.tall
  | cons first rest =>
      rw [parsed_tall drawable.tall, if_neg drawable.first_positive,
        checkWidths_even drawable.as_wide_as_first, parse_inked drawable]
      rfl

theorem parsed_flawed (flawed : ¬ Drawable art) :
    parsed char art = .error (.glyph (Text.quoted char) (flaw art)) := by
  by_cases tall : art.length = height
  · cases art with
    | nil => cases tall
    | cons first rest =>
        rw [parsed_tall tall, flaw, if_pos tall]
        by_cases empty : first.length = 0
        · exact if_pos empty
        · have differs := (uneven_cases tall flawed).resolve_left empty
          rw [if_neg empty, checkWidths_uneven differs]
          rfl
  · have counted : (Value.tuple (art.map .str)).size = .ok art.length := by
      rw [Value.size, List.length_map]
    simp only [parsed, glyphOf, counted, bind, Except.bind, if_pos tall, flaw, if_neg tall]
    rfl

theorem value_injective {glyph picture : Glyph} (same : value glyph = value picture) :
    glyph = picture := by
  refine (List.map_inj_right ?_).mp (Value.tuple.inj same)
  intro row cells alike
  exact (List.map_inj_right fun _ _ => Value.bool.inj).mp (Value.tuple.inj alike)

/-- What a call of the parser takes: a character and the rows of its drawing. -/
def handed (char : String) (art : Art) : Arguments :=
  ⟨[.str char, .tuple (art.map .str)], []⟩

/-- What the parser answers to a drawing: its picture, if the drawing has five rows of one
positive width, and else a value error. -/
structure Parses (world : World) (char : String) (art : Art) : Prop where
  accepts : (∃ reply, world.callFunction .parseGlyph (handed char art) = (world, .ok reply)) ↔
    Drawable art
  refuses : ¬ Drawable art → ∃ fault,
    world.callFunction .parseGlyph (handed char art) = (world, .error fault) ∧
      fault.kind = .error .value ∧
      fault.message = Complaint.glyphMessage (Text.quoted char) (flaw art)
  depicts : ∀ reply, world.callFunction .parseGlyph (handed char art) = (world, .ok reply) →
    ∃ glyph, reply = value glyph ∧ Depicts art glyph ∧ glyph.WellShaped
  tellsApart : ∀ (name : String) (other : Art) (reply : Value), Plain art → Plain other →
    world.callFunction .parseGlyph (handed char art) = (world, .ok reply) →
    world.callFunction .parseGlyph (handed name other) = (world, .ok reply) → other = art

theorem call_parseGlyph (world : World) (char : String) (art : Art) :
    world.callFunction .parseGlyph (handed char art) =
      (world, replyWith value (parsed char art)) :=
  rfl

theorem call_parseGlyph_ok_iff {world : World} {reply : Value} :
    world.callFunction .parseGlyph (handed char art) = (world, .ok reply) ↔
      Drawable art ∧ reply = value (ofRows art) := by
  rw [call_parseGlyph]
  constructor
  · intro answered
    by_cases drawable : Drawable art
    · rw [parsed_drawable drawable] at answered
      cases answered
      exact ⟨drawable, rfl⟩
    · rw [parsed_flawed drawable] at answered
      cases answered
  · rintro ⟨drawable, rfl⟩
    rw [parsed_drawable drawable]
    rfl

theorem parses_drawing (world : World) (char : String) (art : Art) : Parses world char art := by
  constructor
  case accepts =>
    constructor
    · rintro ⟨reply, answered⟩
      exact (call_parseGlyph_ok_iff.mp answered).1
    · intro drawable
      exact ⟨_, call_parseGlyph_ok_iff.mpr ⟨drawable, rfl⟩⟩
  case refuses =>
    intro flawed
    refine ⟨.complaint (.glyph (Text.quoted char) (flaw art)), ?_, rfl, rfl⟩
    rw [call_parseGlyph, parsed_flawed flawed]
    rfl
  case depicts =>
    intro reply answered
    obtain ⟨drawable, rfl⟩ := call_parseGlyph_ok_iff.mp answered
    exact ⟨ofRows art, rfl, depicts_ofRows art, drawable.wellShaped⟩
  case tellsApart =>
    intro name other reply plain others answered same
    obtain ⟨-, rfl⟩ := call_parseGlyph_ok_iff.mp answered
    obtain ⟨-, alike⟩ := call_parseGlyph_ok_iff.mp same
    exact ofRows_injective plain others (value_injective alike).symm

end Microboard.Glyph
