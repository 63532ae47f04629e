import Microboard.Proofs.Scroll.Score

/-!
# Showing a text

A call of `showString` is followed through everything that happens while it sleeps.
What it tells and for how long it sleeps is laid down by the frames of the text, and at
each sleep the matrix shows the frame that is due.
-/

namespace Microboard.Machine

open Scroll World

variable {start machine next : Machine} {past : List Machine}
variable {owner : Option TaskId} {base : List Frame} {bridge : Ref .bridge}
variable {hardware : Ref .hardware} {bus : Ref .bus} {channels : Ref .bus → Prop}
variable {interval : Value} {todo : List Mark} {frames : List Scroll.Frame}

/-- A move makes the first of the marks that are still to be made, or none. -/
inductive Advances (bus : Ref .bus) (interval : Value) :
    Option Drawn → List Mark → List Scroll.Frame → List Mark → List Scroll.Frame → Prop where
  | silent (todo : List Mark) (frames : List Scroll.Frame) :
      Advances bus interval none todo frames todo frames
  | paints (x y : Nat) (lit : Bool) (todo : List Mark) (frames : List Scroll.Frame) :
      Advances bus interval (some (.tells bus (some (cellEvent x y lit))))
        (.paint x y lit :: todo) frames todo frames
  | pauses (todo : List Mark) (frame : Scroll.Frame) (frames : List Scroll.Frame) :
      Advances bus interval (some (.sleeps interval)) (.pause :: todo) (frame :: frames)
        todo frames

/-- The shapes that a machine has while a call, made above `base`, draws on the matrix of
a board: the marks that it has not told of yet, and the frames that are still to be
shown at its sleeps. -/
inductive DrawsAt (owner : Option TaskId) (base : List Frame) (bridge : Ref .bridge)
    (hardware : Ref .hardware) (bus : Ref .bus) (channels : Ref .bus → Prop)
    (interval : Value) (machine : Machine) : List Mark → List Scroll.Frame → Prop where
  | begins {text given : Value} {strokes : List Stroke} {frames : List Scroll.Frame}
      (opens : machine.world.showString bridge text given =
        machine.world.draw (.matrix bridge) interval strokes)
      (busy : machine.control = .busy ⟨owner, base⟩ (.await (.showString bridge text given)))
      (aims : ∀ picture, Aims (marks strokes) picture frames) :
      DrawsAt owner base bridge hardware bus channels interval machine (marks strokes) frames
  | tells {low own : List Frame} {focus : Focus} {x y : Nat} {lit : Bool} {todo : List Mark}
      {frames : List Scroll.Frame} {identity : Nat}
      (busy : machine.control = .busy ⟨owner, low ++ base⟩ focus)
      (lays : Lays low focus own (.publish bus (.event (cellEvent x y lit) identity)))
      (drawing : Drawing bridge interval own todo)
      (aims : Aims todo (machine.world.shown hardware) frames) :
      DrawsAt owner base bridge hardware bus channels interval machine
        (.paint x y lit :: todo) frames
  | asks {low : List Frame} {focus : Focus} {rest : List Stroke} {frames : List Scroll.Frame}
      (busy : machine.control = .busy ⟨owner, low ++ base⟩ focus)
      (lays : Lays low focus [.drawing (.matrix bridge) interval rest] (.sleep interval))
      (aims : Aims (.pause :: marks rest) (machine.world.shown hardware) frames) :
      DrawsAt owner base bridge hardware bus channels interval machine
        (.pause :: marks rest) frames
  | hands {own : List Frame} {todo : List Mark} {frames : List Scroll.Frame} (event : Value)
      (others : List (Nat × Value))
      (busy : machine.control = .busy ⟨owner, own ++ base⟩ (publishRest bus event others))
      (drawing : Drawing bridge interval own todo)
      (aims : Aims todo (machine.world.shown hardware) frames) :
      DrawsAt owner base bridge hardware bus channels interval machine todo frames
  | serves {above own : List Frame} {focus : Focus} {event : Value} {id : Nat}
      {others : List (Nat × Value)} {todo : List Mark} {frames : List Scroll.Frame}
      (busy : machine.control =
        .busy ⟨owner, above ++ .publishing bus event id others :: (own ++ base)⟩ focus)
      (serving : Serving hardware channels machine.world above focus)
      (drawing : Drawing bridge interval own todo)
      (aims : Aims todo (machine.world.shown hardware) frames) :
      DrawsAt owner base bridge hardware bus channels interval machine todo frames
  | sleeps {rest : List Stroke} {frames : List Scroll.Frame}
      (parked : machine.Parked
        ⟨owner, .drawing (.matrix bridge) interval rest :: base⟩ .nothing)
      (aims : ∀ picture, Aims (marks rest) picture frames) :
      DrawsAt owner base bridge hardware bus channels interval machine (marks rest) frames
  | ends (busy : machine.control = .busy ⟨owner, base⟩ .nothing)
      (dark : (machine.world.shown hardware).Dark) :
      DrawsAt owner base bridge hardware bus channels interval machine [] []

theorem silent_of_drawing {own : List Frame} (drawing : Drawing bridge interval own todo) :
    (own.all fun frame => !frame.isPublishing) = true := by
  cases drawing <;> rfl

theorem DrawsAt.of_paints {low : List Frame} {result : World × Focus}
    (paints : Paints machine.world bridge hardware bus interval low todo result)
    (canvas : machine.world.Canvas bridge hardware bus) (bounded : Bounded todo)
    (aims : Aims todo (machine.world.shown hardware) frames) :
    DrawsAt owner base bridge hardware bus channels interval
      (machine.go ⟨owner, low ++ base⟩ result) todo frames := by
  cases paints with
  | ends =>
      obtain ⟨rfl, dark⟩ := aims
      exact .ends rfl dark
  | falls drawing => exact .hands .none [] rfl drawing aims
  | @paints low own x y lit rest focus identity lays drawing =>
      obtain ⟨column, row⟩ := bounded x y lit List.mem_cons_self
      apply DrawsAt.tells rfl lays drawing
      have painted : Aims rest ((machine.world.setHardware hardware (·.writeLed x y lit)).shown
          hardware) frames := by
        rw [shown_writeLed canvas lit column row]
        exact aims
      exact painted
  | pauses lays => exact .asks rfl lays aims

/-- What is relied on of the clock: the sleeps that a call asks for do not fail. -/
def SleepsWell (owner : Option TaskId) (depth : Nat) (machine : Machine) : Prop :=
  ∀ asked, machine.acts owner depth = some (.sleep asked) →
    ∃ due, wakeTime machine.world.now asked = .ok due

/-- Every move of a call that draws makes the mark that is due, or none. -/
theorem DrawsAt.move
    (state : DrawsAt owner base bridge hardware bus channels interval machine todo frames)
    (move : Move machine next) (sound : machine.Sound)
    (canvas : machine.world.Canvas bridge hardware bus) (bounded : Bounded todo)
    (civil : machine.Civil hardware bus channels)
    (well : machine.SleepsWell owner base.length) (going : ¬ machine.Returns owner base) :
    ∃ later rest, DrawsAt owner base bridge hardware bus channels interval next later rest ∧
      Advances bus interval (machine.drawn? owner base.length) todo frames later rest := by
  cases state with
  | begins opens busy aims =>
      rw [move.of_busy busy]
      have drawing : Paints machine.world bridge hardware bus interval [] (marks _)
          (machine.world.showString bridge _ _) :=
        opens ▸ draw_paints canvas bounded
      refine ⟨_, _, .of_paints drawing canvas bounded (aims _), ?_⟩
      simpa [drawn?, acts_self busy] using Advances.silent _ _
  | tells busy lays drawing aims =>
      rw [move.of_busy busy]
      cases lays with
      | here =>
          refine ⟨_, _, .hands _ (machine.world.buses.get bus).subscribers rfl drawing aims, ?_⟩
          simpa [drawn?, acts_of_busy busy (silent_of_drawing drawing)]
            using Advances.paints _ _ _ _ _
      | within lays =>
          refine ⟨_, _, .tells rfl lays drawing aims, ?_⟩
          rw [drawn?_of_within busy]
          exact .silent _ _
  | asks busy lays aims =>
      rw [move.of_busy busy]
      cases lays with
      | here =>
          have acting := acts_of_busy busy rfl
          obtain ⟨due, timed⟩ := well _ acting
          obtain ⟨frame, later, rfl, -, others⟩ := aims
          refine ⟨_, later, .sleeps ?_ others, ?_⟩
          · simp only [advance, sleep_eq _ timed]
            exact .asleep (List.mem_append_right _ (List.mem_singleton_self _)) rfl
          · simpa [drawn?, acting] using Advances.pauses _ _ _
      | within lays =>
          refine ⟨_, _, .asks rfl lays aims, ?_⟩
          rw [drawn?_of_within busy]
          exact .silent _ _
  | @hands own todo frames event others busy drawing aims =>
      rw [move.of_busy busy]
      have acting := acts_of_busy busy (silent_of_drawing drawing)
      cases others with
      | nil =>
          cases own with
          | nil => cases drawing
          | cons frame low =>
              have goes := resume_paints canvas drawing bounded .none
              refine ⟨_, _, .of_paints goes canvas bounded aims, ?_⟩
              simpa [drawn?, acting, publishRest, Focus.nothing] using Advances.silent _ _
      | cons subscription others =>
          obtain ⟨id, subscriber⟩ := subscription
          have served : Serving hardware channels machine.world []
              (.call subscriber (.single event)) :=
            ⟨fun _ member => absurd member List.not_mem_nil, trivial⟩
          refine ⟨_, _, .serves (show _ = Control.busy ⟨owner, [] ++ _⟩ _ from rfl) served
            drawing aims, ?_⟩
          simpa [drawn?, acting, publishRest] using Advances.silent _ _
  | @serves above own focus event id others todo frames busy serving drawing aims =>
      rw [move.of_busy busy]
      rw [drawn?_of_none (acts_of_serving busy rfl rfl)]
      obtain ⟨steps, handed | ⟨after, focus', control, served⟩⟩ := serving.advance sound civil busy
      all_goals rw [← shown_congr (steps.hardware_apart canvas.has)] at aims
      · exact ⟨_, _, .hands event others handed drawing aims, .silent _ _⟩
      · exact ⟨_, _, .serves control served drawing aims, .silent _ _⟩
  | sleeps parked aims =>
      rw [drawn?_of_none (acts_of_parked parked sound rfl)]
      rcases parked.move move sound with still | busy
      · exact ⟨_, _, .sleeps still aims, .silent _ _⟩
      · exact ⟨_, _, .hands .none [] busy (.strokes _) (aims _), .silent _ _⟩
  | ends busy dark => exact absurd ⟨_, busy⟩ going

theorem DrawsAt.still
    (state : DrawsAt owner base bridge hardware bus channels interval machine todo frames)
    (move : Move machine next) (sound : machine.Sound)
    (canvas : machine.world.Canvas bridge hardware bus) (bounded : Bounded todo)
    (going : ¬ machine.Returns owner base)
    (acting : machine.acts owner base.length ≠ none) : Still machine.world next.world := by
  cases state with
  | begins opens busy aims =>
      rw [move.of_busy busy]
      have drawing : Paints machine.world bridge hardware bus interval [] (marks _)
          (machine.world.showString bridge _ _) :=
        opens ▸ draw_paints canvas bounded
      exact drawing.still
  | tells busy lays drawing aims =>
      rw [move.of_busy busy]
      cases lays <;> exact .refl _
  | asks busy lays aims =>
      rw [move.of_busy busy]
      cases lays with
      | here =>
          simp only [advance, sleep]
          split <;> exact .of_eq rfl
      | within lays => exact .refl _
  | @hands own todo frames event others busy drawing aims =>
      rw [move.of_busy busy]
      cases others with
      | nil =>
          cases own with
          | nil => cases drawing
          | cons frame low => exact (resume_paints canvas drawing bounded .none).still
      | cons subscription others => exact .refl _
  | serves busy serving drawing aims => exact absurd (acts_of_serving busy rfl rfl) acting
  | sleeps parked aims => exact absurd (acts_of_parked parked sound rfl) acting
  | ends busy dark => exact absurd ⟨_, busy⟩ going

theorem Advances.split {event : Option Drawn} {later : List Mark} {rest : List Scroll.Frame}
    (advances : Advances bus interval event todo frames later rest) :
    event.toList ++ later.map (seen bus interval) = todo.map (seen bus interval) ∧
      rest = frames.drop (event.toList.countP Drawn.isSleep) ∧
      (Bounded todo → Bounded later) := by
  cases advances with
  | silent => exact ⟨rfl, rfl, id⟩
  | paints => exact ⟨rfl, rfl, fun bounded x y lit member => bounded x y lit (.tail _ member)⟩
  | pauses => exact ⟨rfl, rfl, fun bounded x y lit member => bounded x y lit (.tail _ member)⟩

/-- Where a call that draws stands, by what has been seen of it. -/
structure DrawsOn (owner : Option TaskId) (base : List Frame) (bridge : Ref .bridge)
    (hardware : Ref .hardware) (bus : Ref .bus) (channels : Ref .bus → Prop)
    (interval : Value) (todo : List Mark) (frames : List Scroll.Frame) (past : List Machine)
    (machine : Machine) (later : List Mark) : Prop where
  state : DrawsAt owner base bridge hardware bus channels interval machine later
    (frames.drop ((past.filterMap (drawn? owner base.length)).countP Drawn.isSleep))
  bounded : Bounded later
  done : past.filterMap (drawn? owner base.length) ++ later.map (seen bus interval) =
    todo.map (seen bus interval)

theorem Run.draws (run : Run start past machine) (sound : start.Sound)
    (canvas : start.world.Canvas bridge hardware bus) (bounded : Bounded todo)
    (begun : DrawsAt owner base bridge hardware bus channels interval start todo frames)
    (going : ∀ state ∈ past, ¬ state.Returns owner base)
    (civil : ∀ state ∈ past, state.Civil hardware bus channels)
    (well : ∀ state ∈ past, state.SleepsWell owner base.length) :
    ∃ later, DrawsOn owner base bridge hardware bus channels interval todo frames past machine
      later := by
  induction run with
  | refl => exact ⟨todo, begun, bounded, rfl⟩
  | @move past machine next run move induction =>
      obtain ⟨goingBefore, goingLast⟩ := forall_snoc going
      obtain ⟨civilBefore, civilLast⟩ := forall_snoc civil
      obtain ⟨wellBefore, wellLast⟩ := forall_snoc well
      obtain ⟨later, on⟩ := induction goingBefore civilBefore wellBefore
      obtain ⟨after, rest, state, advances⟩ := on.state.move move (run.sound sound)
        (canvas.grows (run.grows sound)) on.bounded civilLast wellLast
        goingLast
      obtain ⟨shown, drops, keeps⟩ := advances.split
      refine ⟨after, ?_, keeps on.bounded, ?_⟩
      · rw [filterMap_snoc, List.countP_append, ← List.drop_drop, ← drops]
        exact state
      · rw [filterMap_snoc, List.append_assoc, shown]
        exact on.done

/-- When a call asks for a sleep, it is the one of the text, and the matrix shows the
frame that is due. -/
theorem DrawsAt.asking {asked : Value}
    (state : DrawsAt owner base bridge hardware bus channels interval machine todo frames)
    (sound : machine.Sound)
    (shown : machine.drawn? owner base.length = some (.sleeps asked)) :
    asked = interval ∧
      ∃ frame later, frames = frame :: later ∧ (machine.world.shown hardware).Shows frame := by
  cases state with
  | begins opens busy aims => simp [drawn?, acts_self busy] at shown
  | tells busy lays drawing aims =>
      cases lays with
      | here => simp [drawn?, acts_of_busy busy (silent_of_drawing drawing)] at shown
      | within lays => simp [drawn?_of_within busy] at shown
  | asks busy lays aims =>
      cases lays with
      | here =>
          obtain ⟨frame, later, same, shows, -⟩ := aims
          refine ⟨?_, frame, later, same, shows⟩
          simpa [drawn?, acts_of_busy busy rfl, eq_comm] using shown
      | within lays => simp [drawn?_of_within busy] at shown
  | hands event others busy drawing aims =>
      cases others <;>
        simp [drawn?, acts_of_busy busy (silent_of_drawing drawing), publishRest,
          Focus.nothing] at shown
  | serves busy serving drawing aims =>
      simp [drawn?_of_none (acts_of_serving busy rfl rfl)] at shown
  | sleeps parked aims => simp [drawn?_of_none (acts_of_parked parked sound rfl)] at shown
  | ends busy dark => simp [drawn?, acts_self busy, Focus.nothing] at shown

theorem DrawsAt.finished {reply : Reply}
    (state : DrawsAt owner base bridge hardware bus channels interval machine todo frames)
    (sound : machine.Sound)
    (ends : machine.control = .busy ⟨owner, base⟩ (.reply reply)) :
    todo = [] ∧ reply = .nothing ∧ (machine.world.shown hardware).Dark := by
  cases state with
  | begins opens busy aims =>
      rw [ends] at busy
      cases busy
  | tells busy lays drawing aims | asks busy lays aims =>
      obtain ⟨-, same⟩ := Control.busy.inj (ends.symm.trans busy)
      subst same
      cases lays
  | hands event others busy drawing aims =>
      rw [ends] at busy
      have empty := depth_of_busy busy
      cases drawing <;>
        · simp only [List.length_append, List.length_cons, List.length_nil] at empty
          omega
  | @serves above own focus event id others todo frames busy serving drawing aims =>
      exact (not_back above own (busy.symm.trans ends)).elim
  | sleeps parked aims =>
      have differs := parked.alone sound ends
      exact absurd rfl differs
  | ends busy dark =>
      rw [ends] at busy
      cases busy
      exact ⟨rfl, rfl, dark⟩

/-- What a call of `showString` keeps to until it returns.  It tells and sleeps as the
score of the frames says.  When it asks for a sleep, the matrix shows the frame that is
due.  When it returns, all has been done and the matrix is dark.  What it does itself
changes no pin and no latch. -/
structure ShowKept (board : Board) (frames : List Scroll.Frame) (interval : Value)
    (owner : Option TaskId) (base : List Frame) (past : List Machine) (machine : Machine) :
    Prop where
  draws : past.filterMap (drawn? owner base.length) <+: score board.bus interval frames
  shows : ∀ asked, machine.drawn? owner base.length = some (.sleeps asked) →
    asked = interval ∧ ∃ frame,
      frames[(past.filterMap (drawn? owner base.length)).countP Drawn.isSleep]? = some frame ∧
      ∀ x y, x < Glyph.height → y < Glyph.height →
        ∃ lit, (frame[y]?).bind (·[x]?) = some lit ∧
          (machine.world.hardwares.get board.hardware).getLed (.int x) (.int y) = .ok lit
  returns : ∀ reply, machine.control = .busy ⟨owner, base⟩ (.reply reply) →
    reply = .nothing ∧
      past.filterMap (drawn? owner base.length) = score board.bus interval frames ∧
      (past.filterMap (drawn? owner base.length)).countP Drawn.isSleep = frames.length - 1 ∧
      ∀ x y, x < Glyph.height → y < Glyph.height →
        (machine.world.hardwares.get board.hardware).getLed (.int x) (.int y) = .ok false
  still : ¬ machine.Returns owner base → machine.acts owner base.length ≠ none →
    ∀ next, Move machine next → Still machine.world next.world

variable {looping : Bool} {registry : Registry} {names : List (String × Value)}
variable {before : List Machine} {target : Ref .board} {text given : Value}

/-- A text is shown frame by frame, whatever else happens while it sleeps: in every run,
from every state of the matrix, for every text and every delay. -/
theorem show_string_draws
    (reached : Run (initial (.initial looping registry) names) before start)
    (has : start.world.boards.Has target)
    (accepted : (start.world.boards.get target).config.badField? = none)
    (called : start.control = .busy ⟨owner, base⟩
      (.await (.showString (start.world.boards.get target).bridge text given)))
    (run : Run start past machine) (going : ∀ state ∈ past, ¬ state.Returns owner base)
    (civil : ∀ state ∈ past, state.Civil (start.world.boards.get target).hardware
      (start.world.boards.get target).bus fun _ => True)
    (well : ∀ state ∈ past, state.SleepsWell owner base.length) :
    ∃ frames,
      frames? Glyph.font Glyph.height Glyph.height
        (text.text start.world.describe).toList = some frames ∧
      ShowKept (start.world.boards.get target) frames
        (scrollDelay (start.world.boards.get target) given) owner base past machine := by
  have startSound := reached.sound (sound_initial looping registry names)
  have wired := startSound.world.board target has
  generalize start.world.boards.get target = board at *
  obtain ⟨frames, shown, fill⟩ := frames?_font (text.text start.world.describe).toList
  have canvas := canvas_of_wired startSound.world wired accepted
  have begun : DrawsAt owner base board.bridge board.hardware board.bus (fun _ => True)
      (scrollDelay board given) start (marks (strokes frames)) frames.dropLast :=
    .begins (showString_eq wired accepted given shown) called (aims_strokes fill)
  obtain ⟨later, on⟩ :=
    run.draws startSound canvas (bounded_strokes fill) begun going civil well
  have sound := run.sound startSound
  have kept := canvas.grows (run.grows startSound)
  have done := on.done
  rw [seen_strokes] at done
  refine ⟨frames, shown, ?_⟩
  constructor
  case draws => exact ⟨_, done⟩
  case shows =>
    intro asked sleeps
    obtain ⟨same, frame, rest, due, shows⟩ := on.state.asking sound sleeps
    refine ⟨same, frame, ?_, ?_⟩
    · have first := congrArg (·[0]?) due
      simp only [List.getElem?_drop, Nat.add_zero, List.getElem?_dropLast,
        List.getElem?_cons_zero] at first
      split at first
      · exact first
      · cases first
    · intro x y column row
      exact ⟨_, shows x y column row, getLed_eq kept column row⟩
  case returns =>
    intro reply ends
    obtain ⟨rfl, nothing, dark⟩ := on.state.finished sound ends
    rw [List.map_nil, List.append_nil] at done
    refine ⟨nothing, done, by rw [done, sleeps_score], ?_⟩
    intro x y column row
    rw [getLed_eq kept column row, dark x y column row]
  case still =>
    intro unfinished acting next move
    exact on.state.still move sound kept on.bounded unfinished acting

/-- An evident case of what a call that draws relies on: no subscriber is served, every
sleep is over at once, and the call has not returned yet. -/
def evidentlyAlone (depth : Nat) (machine : Machine) : Bool :=
  match machine.control with
  | .idle => true
  | .busy thread focus =>
    (thread.stack.all fun frame => !frame.isPublishing) &&
      match focus with
      | .sleep (.int value) => value ≤ 0
      | .sleep _ => false
      | .reply _ => thread.stack.length ≠ depth
      | _ => true

theorem civil_of_evident {depth : Nat} (evident : machine.evidentlyAlone depth = true) :
    machine.Civil hardware bus channels := by
  have unserved {thread : Thread} {focus : Focus}
      (busy : machine.control = .busy thread focus) : ¬ Serves bus thread := by
    intro serves
    simp [evidentlyAlone, busy, serves.shown] at evident
  constructor
  case ordinary =>
    unfold ordinaryOn
    split
    next owner channel event id others rest fault busy =>
      simp [evidentlyAlone, busy, Frame.isPublishing] at evident
    next => rfl
  case apart => exact fun thread focus busy serves => absurd serves (unserved busy)
  case awake => exact fun thread focus busy serves => absurd serves (unserved busy)

theorem sleepsWell_of_evident {depth : Nat} (evident : machine.evidentlyAlone depth = true) :
    machine.SleepsWell owner depth := by
  intro asked acting
  unfold acts at acting
  split at acting
  next => cases acting
  next thread focus busy =>
    split at acting
    next =>
      cases acting
      cases asked with
      | int value =>
          simp only [evidentlyAlone, busy, Bool.and_eq_true, decide_eq_true_eq] at evident
          have elapsed : value ≤ 0 := evident.2
          exact ⟨machine.world.now + 0.0, by simp [wakeTime, Value.number?, elapsed]⟩
      | _ => simp [evidentlyAlone, busy] at evident
    next => cases acting

theorem goes_on_of_evident (evident : machine.evidentlyAlone base.length = true) :
    ¬ machine.Returns owner base := by
  intro ⟨reply, ends⟩
  simp [evidentlyAlone, ends] at evident

def greet : Program :=
  building (.await (.showString ⟨0⟩ (.str "I") .none) .finish)

def showing : Machine := settle 6 (begun greet)

/-- The machine that sleeps between the first frame and the second. -/
def resting : Machine := settle 107 showing

def waking : Machine := (resting.sleepers.head?.map resting.wake).getD resting

theorem show_string_draws_letter :
    ∃ frames,
      frames? Glyph.font Glyph.height Glyph.height
        ((Value.str "I").text showing.world.describe).toList = some frames ∧
      ShowKept (showing.world.boards.get ⟨0⟩) frames
        (scrollDelay (showing.world.boards.get ⟨0⟩) .none) none [.program .finish]
        (visited 107 showing ++ ([resting] ++ visited 20 waking)) (settle 20 waking) := by
  have run : Run showing (visited 107 showing ++ ([resting] ++ visited 20 waking))
      (settle 20 waking) :=
    (run_settle 107 showing).trans
      (Run.trans (.move .refl (.wake rfl (.head _))) (run_settle 20 waking))
  have evident : (visited 107 showing ++ ([resting] ++ visited 20 waking)).all
      (evidentlyAlone 1) = true := rfl
  have alone := List.all_eq_true.mp evident
  exact show_string_draws
    (run_begun greet 6) (by decide) rfl rfl run
    (fun state member => goes_on_of_evident (alone state member))
    (fun state member => civil_of_evident (alone state member))
    fun state member => sleepsWell_of_evident (alone state member)

end Microboard.Machine
