import Microboard.Proofs.Glyph.Parsing
import Microboard.Proofs.Scroll.Frames

/-!
# Alphabets

A table of drawings is parsed to a map of their pictures, if all of them are drawings.  On
such a map every text is laid out and scrolled, and no cell of a picture is ever missing.
-/

namespace Microboard

namespace Scroll

variable {pattern : Pattern} {map : GlyphMap}

theorem framesOf_ok_iff {world : World} {target : Ref .scroller}
    (shaped : ∀ char glyph, (world.scrollers.get target).glyphs.find? char = some glyph →
      glyph.WellShaped) (text : String) :
    (∃ frames, world.framesOf target text = .ok frames) ↔
      (world.scrollers.get target).height ≤ Glyph.height ∨
        (world.scrollers.get target).width ≤ 0 ∨
        pictures (world.scrollers.get target).glyphs text.toList = [] := by
  have framed := frames?_some_iff shaped (world.scrollers.get target).width.toNat
    (world.scrollers.get target).height.toNat text.toList
  rw [Int.toNat_le, Int.toNat_eq_zero] at framed
  rw [← framed, World.framesOf]
  cases frames? (world.scrollers.get target).glyphs (world.scrollers.get target).width.toNat
      (world.scrollers.get target).height.toNat text.toList with
  | none => simp
  | some frames => simp

theorem characters_plain (text : String) :
    (Value.characters text).flatMap (fun char => char.plain.toList) = text.toList := by
  rw [Value.characters, List.flatMap_map]
  simp only [Value.plain_str, String.toList_singleton]
  exact List.flatMap_singleton' text.toList

theorem patternOf_text {text : String} {glyphs : Value} (given : glyphs.glyphMap? = some map)
    (laid : pattern? map text.toList = some pattern) :
    patternOf (.str text) glyphs = .ok (.list (pattern.map fun row => .list (row.map .bool))) := by
  simp only [patternOf, given, Option.getD_some, Value.members, Value.word?, characters_plain, laid]

end Scroll

namespace Glyph

/-- The pictures of a table of drawings, in its order; the first drawing that is not parsed
ends it. -/
def parsedTable (table : List (String × Art)) : Except Complaint GlyphMap :=
  table.mapM fun entry => (parsed entry.1 entry.2).map (entry.1, ·)

theorem parsedTable_cons (char : String) (art : Art) (table : List (String × Art)) :
    parsedTable ((char, art) :: table) =
      (parsed char art).bind fun glyph =>
        (parsedTable table).map fun pictures => (char, glyph) :: pictures := by
  simp only [parsedTable, List.mapM_cons]
  cases parsed char art with
  | error cause => rfl
  | ok glyph => rfl

theorem parsedTable_drawable {table : List (String × Art)}
    (drawable : ∀ entry ∈ table, Drawable entry.2) :
    parsedTable table = .ok (table.map fun entry => (entry.1, ofRows entry.2)) := by
  induction table with
  | nil => rfl
  | cons entry rest induction =>
      have others := induction fun other member => drawable other (List.mem_cons_of_mem _ member)
      rw [parsedTable_cons, parsed_drawable (drawable entry List.mem_cons_self), others]
      rfl

/-- The first drawing of a table that is not parsed is the one that is complained of. -/
theorem parsedTable_flawed {table : List (String × Art)}
    (flawed : ∃ entry ∈ table, ¬ Drawable entry.2) :
    ∃ before char art after, table = before ++ (char, art) :: after ∧
      (∀ entry ∈ before, Drawable entry.2) ∧ ¬ Drawable art ∧
      parsedTable table = .error (.glyph (Text.quoted char) (flaw art)) := by
  induction table with
  | nil =>
      obtain ⟨entry, member, -⟩ := flawed
      cases member
  | cons entry rest induction =>
      obtain ⟨char, art⟩ := entry
      by_cases drawable : Drawable art
      · have later : ∃ entry ∈ rest, ¬ Drawable entry.2 := by
          obtain ⟨other, member, different⟩ := flawed
          rcases List.mem_cons.mp member with rfl | behind
          · exact absurd drawable different
          · exact ⟨other, behind, different⟩
        obtain ⟨before, name, drawing, after, split, sound, first, error⟩ := induction later
        refine ⟨(char, art) :: before, name, drawing, after, by rw [split]; rfl, ?_, first, ?_⟩
        · exact List.forall_mem_cons.mpr ⟨drawable, sound⟩
        · rw [parsedTable_cons, parsed_drawable drawable, error]
          rfl
      · refine ⟨[], char, art, rest, rfl, fun _ member => absurd member List.not_mem_nil,
          drawable, ?_⟩
        rw [parsedTable_cons, parsed_flawed drawable]
        rfl

theorem eq_ofTable {table : List (String × Art)} {map : GlyphMap}
    (found : parsedTable table = .ok map) :
    (∀ entry ∈ table, Drawable entry.2) ∧
      map = table.map fun entry => (entry.1, ofRows entry.2) := by
  by_cases drawable : ∀ entry ∈ table, Drawable entry.2
  · rw [parsedTable_drawable drawable] at found
    exact ⟨drawable, (Except.ok.inj found).symm⟩
  · have flawed : ∃ entry ∈ table, ¬ Drawable entry.2 := by simpa using drawable
    obtain ⟨before, char, art, after, -, -, -, error⟩ := parsedTable_flawed flawed
    rw [error] at found
    cases found

/-- The font is what the table of its drawings is parsed to. -/
theorem parsedTable_fontArt :
    parsedTable (fontArt.map fun entry => (String.singleton entry.1, entry.2)) = .ok font := by
  rw [parsedTable_drawable, List.map_map, font_eq]
  · rfl
  · intro entry member
    obtain ⟨letter, among, rfl⟩ := List.mem_map.mp member
    exact fontArt_drawable letter among

theorem mapM_decode {α β : Type} {encode : α → β} {decode : β → Option α}
    (back : ∀ item, decode (encode item) = some item) (items : List α) :
    (items.map encode).mapM decode = some items := by
  induction items with
  | nil => rfl
  | cons item rest induction => simp [List.mapM_cons, back item, induction]

theorem cells?_bool (row : List Bool) : cells? (row.map .bool) = some row := by
  induction row with
  | nil => rfl
  | cons lit rest induction => rw [List.map_cons, cells?, induction, Option.map_some]

theorem glyph?_value (glyph : Glyph) : (value glyph).glyph? = some glyph := by
  rw [value, Value.glyph?]
  apply mapM_decode
  exact cells?_bool

/-- A map as a dictionary of the parser's replies. -/
def dictionary (map : GlyphMap) : Value :=
  .dict (map.map fun entry => (.str entry.1, value entry.2))

theorem glyphMap?_dictionary (map : GlyphMap) : (dictionary map).glyphMap? = some map := by
  apply mapM_decode
  intro entry
  simp only [Value.word?, Option.bind_some, glyph?_value, Option.map_some]

/-- A map on which every text is laid out and scrolled.  Of a scroller with these pictures a
cell can only be missing where the window itself is too tall for any picture. -/
structure Playable (map : GlyphMap) : Prop where
  shaped : ∀ entry ∈ map, entry.2.WellShaped
  laidOut : ∀ (world : World) (text : String), ∃ pattern : Scroll.Pattern,
    Scroll.pattern? map text.toList = some pattern ∧
      world.callFunction .scrollPattern ⟨[.str text, dictionary map], []⟩ =
        (world, .ok (.list (pattern.map fun row => .list (row.map .bool))))
  held : ∀ (world : World) (surface clock : Value) (width height : Int),
    ∃ (next : World) (target : Ref .scroller),
      world.construct .scroller ⟨[surface, clock, .int width, .int height, dictionary map], []⟩ =
        (next, .ok (.scroller target)) ∧
      (next.scrollers.get target).glyphs = map ∧
      (next.scrollers.get target).width = width ∧ (next.scrollers.get target).height = height
  framed : ∀ (world : World) (target : Ref .scroller) (text : String),
    (world.scrollers.get target).glyphs = map →
      ((∃ frames, world.framesOf target text = .ok frames) ↔
        (world.scrollers.get target).height ≤ height ∨
          (world.scrollers.get target).width ≤ 0 ∨ Scroll.pictures map text.toList = [])

/-- What becomes of a table of drawings: if all of them are parsed, a map of their pictures
on which every text can be played, and else the complaint of the first that is not. -/
structure Builds (table : List (String × Art)) : Prop where
  accepts : (∃ map, parsedTable table = .ok map) ↔ ∀ entry ∈ table, Drawable entry.2
  refuses : (∃ entry ∈ table, ¬ Drawable entry.2) →
    ∃ before char art after, table = before ++ (char, art) :: after ∧
      (∀ entry ∈ before, Drawable entry.2) ∧ ¬ Drawable art ∧
      parsedTable table = .error (.glyph (Text.quoted char) (flaw art))
  pictures : ∀ map, parsedTable table = .ok map → map.length = table.length ∧
    ∀ (index : Nat) (char : String) (art : Art), table[index]? = some (char, art) →
      ∃ glyph, map[index]? = some (char, glyph) ∧ Depicts art glyph
  playable : ∀ map, parsedTable table = .ok map → Playable map

theorem playable_of_shaped {map : GlyphMap}
    (shaped : ∀ entry ∈ map, entry.2.WellShaped) : Playable map where
  shaped := shaped
  laidOut world text := by
    obtain ⟨pattern, laid, -⟩ := Scroll.pattern?_scrollable (find?_wellShaped shaped) text.toList
    exact ⟨pattern, laid,
      congrArg (Prod.mk world) (Scroll.patternOf_text (glyphMap?_dictionary map) laid)⟩
  held world surface clock width height := by
    refine ⟨_, _, rfl, ?_⟩
    simp only [Arena.get_push_fresh]
    exact ⟨congrArg (Option.getD · font) (glyphMap?_dictionary map), rfl, rfl⟩
  framed world target text same := by
    subst same
    exact Scroll.framesOf_ok_iff (find?_wellShaped shaped) text

theorem builds_table (table : List (String × Art)) : Builds table := by
  constructor
  case accepts =>
    constructor
    · rintro ⟨map, built⟩
      exact (eq_ofTable built).1
    · intro drawable
      exact ⟨_, parsedTable_drawable drawable⟩
  case refuses => exact parsedTable_flawed
  case pictures =>
    intro map built
    obtain ⟨-, rfl⟩ := eq_ofTable built
    refine ⟨List.length_map _, ?_⟩
    intro index char art found
    refine ⟨ofRows art, ?_, depicts_ofRows art⟩
    rw [List.getElem?_map, found, Option.map_some]
  case playable =>
    intro map built
    obtain ⟨drawable, rfl⟩ := eq_ofTable built
    apply playable_of_shaped
    intro entry member
    obtain ⟨drawing, among, rfl⟩ := List.mem_map.mp member
    exact (drawable drawing among).wellShaped

/-- Drawings are parsed exactly, and what a table of them gives can be played. -/
theorem drawings_parsed_exactly (world : World) (char : String) (art : Art)
    (table : List (String × Art)) : Parses world char art ∧ Builds table :=
  ⟨parses_drawing world char art, builds_table table⟩

theorem drawings_parsed_exactly_font :
    parsedTable (fontArt.map fun entry => (String.singleton entry.1, entry.2)) = .ok font ∧
      Playable font ∧
      ¬ Drawable ["#", "##", "#", "#", "#"] ∧
      ∃ fault, (World.initial false .empty).callFunction .parseGlyph
          (handed "?" ["#", "##", "#", "#", "#"]) = (World.initial false .empty, .error fault) ∧
        fault.kind = .error .value ∧
        fault.message = "Glyph '?' rows must share a non-zero width" := by
  have uneven : ¬ Drawable ["#", "##", "#", "#", "#"] := by
    intro drawable
    exact absurd (drawable.as_wide_as_first "##" (by decide)) (by decide)
  obtain ⟨parses, builds⟩ := drawings_parsed_exactly (World.initial false .empty) "?"
    ["#", "##", "#", "#", "#"] (fontArt.map fun entry => (String.singleton entry.1, entry.2))
  exact ⟨parsedTable_fontArt, builds.playable font parsedTable_fontArt, uneven,
    parses.refuses uneven⟩

end Glyph

end Microboard
