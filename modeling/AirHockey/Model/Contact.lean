import AirHockey.Model.Bounds
import AirHockey.Model.Scoring

/-! # No piece in another

A move of a puck is tested against the ball, and a move of the ball against both pucks. Three
things are done without a test: a wall stops a puck, the middle line stops a puck, and after a
goal the ball is put on its spot. The main PC keeps the pieces apart exactly as long as these
places happen to be free.

The places are named first: `wallStop` and `middleStop`, where a puck is stopped, and the ball's
spot (`SpotFree`). `PuckMove.apart_iff` and `BallMove.apart_iff` say for one move when it keeps
the pieces apart; `TableStep.keepsApart_iff` says it for a step, with the guard `Clear` on the
state before; and `noOverlap_iff` for every run. The test looks the same from both sprites
(`detectCollision_comm`), so that it does not matter which of the two has been moved. -/

namespace AirHockey

/-! ## The test is symmetric -/

theorem pixelDetection_comm (a b : Sprite) (leftBorder rightBorder topBorder bottomBorder : Int)
    (bytesPerPixel : Nat) :
    pixelDetection a a.x a.y b leftBorder rightBorder topBorder bottomBorder bytesPerPixel =
      pixelDetection b b.x b.y a leftBorder rightBorder topBorder bottomBorder bytesPerPixel := by
  unfold pixelDetection
  simp only [Bool.and_comm]

/-- Two sprites that overlap overlap each other. -/
theorem detectCollision_comm (a b : Sprite) (bytesPerPixel : Nat) :
    detectCollision a a.x a.y b bytesPerPixel = detectCollision b b.x b.y a bytesPerPixel := by
  unfold detectCollision
  dsimp only
  -- the common rectangle is the same, whichever sprite comes first
  rw [max_comm a.x, max_comm a.y, min_comm (a.x + a.width), min_comm (a.y + a.height),
    pixelDetection_comm]

/-- Sprites one above the other do not overlap. -/
theorem detectCollision_of_above {a b : Sprite} {newX newY : Int} {bytesPerPixel : Nat}
    (h : b.y + b.height < newY ∨ newY + a.height < b.y) :
    detectCollision a newX newY b bytesPerPixel = false := by
  unfold detectCollision
  dsimp only
  rw [if_neg]
  rintro ⟨-, hle⟩
  rcases h with h | h <;> grind

namespace Table

/-- The puck `o` and the ball have no pixel in common. -/
def ApartFrom (t : Table) (o : Object) : Prop :=
  detectCollision t.ball t.ball.x t.ball.y (t.get o) t.bytesPerPixel = false

/-- Neither puck has a pixel in common with the ball. -/
def Apart (t : Table) : Prop := t.ApartFrom .redpuck ∧ t.ApartFrom .bluepuck

/-- The puck `o`, put at `place`, would pass the test for the ball. -/
def FreePlace (t : Table) (o : Object) (place : Int × Int) : Prop :=
  detectCollision (t.get o) place.1 place.2 t.ball t.bytesPerPixel = false

/-- Where the walls stop a sprite on its way to `(newX, newY)`: an axis on which it does not run
into a wall is left alone. -/
def wallStop (s : Sprite) (newX newY : Int) : Int × Int :=
  (if newX < horizontalStart then horizontalStart
    else if newX + s.width > horizontalEnd then horizontalEnd - s.width else s.x,
   if newY + s.height > verticalEnd then verticalEnd - s.height
    else if newY < verticalStart then verticalStart else s.y)

/-- Where the middle line stops a sprite. -/
def middleStop (s : Sprite) : Int × Int :=
  (s.x, if s.y < middleField then middleField - s.height else middleField)

/-- Where a puck is stopped, if it is, the ball is not. -/
def StopsFree (t : Table) (o : Object) (x y : Int) : Prop :=
  let newX := (t.get o).x + x
  let newY := (t.get o).y - y
  if detectWallCollision (t.get o) newX newY then t.FreePlace o (wallStop (t.get o) newX newY)
  else if detectMiddleFieldCollision (t.get o) newX newY then
    t.FreePlace o (middleStop (t.get o))
  else True

/-- The ball's spot is free of both pucks. -/
def SpotFree (t : Table) : Prop :=
  detectCollision t.ball 550 410 t.redpuck t.bytesPerPixel = false ∧
    detectCollision t.ball 550 410 t.bluepuck t.bytesPerPixel = false

/-! ## A puck is moved -/

theorem putAgainst_place (s : Sprite) (newX newY : Int) :
    ((putAgainst (wallInfo s newX newY) s).x, (putAgainst (wallInfo s newX newY) s).y) =
      wallStop s newX newY := by
  -- the rows are those of `putAgainst_y`; the columns are computed in the same way
  rw [putAgainst_y]
  refine Prod.ext ?_ rfl
  show (putAgainst (wallInfo s newX newY) s).x = _
  unfold putAgainst wallInfo wallStop
  by_cases htop : newY < verticalStart <;> by_cases hright : newX + s.width > horizontalEnd <;>
    by_cases hbottom : newY + s.height > verticalEnd <;> by_cases hleft : newX < horizontalStart <;>
    simp [htop, hright, hbottom, hleft]

variable {t t' : Table} {o : Object} {x y : Int}

/-- Only the moved puck can come into the ball. -/
theorem apartFrom_set {sprite : Sprite} (ho : o ≠ .ball) {place : Int × Int}
    (hplace : (sprite.x, sprite.y) = place) (hwidth : sprite.width = (t.get o).width)
    (hheight : sprite.height = (t.get o).height) (hmap : sprite.map = (t.get o).map) :
    (t.set o sprite).ApartFrom o ↔ t.FreePlace o place := by
  have hball : (t.set o sprite).ball = t.ball := get_set_of_ne (Ne.symm ho) t sprite
  have hpixel : (t.set o sprite).bytesPerPixel = t.bytesPerPixel := by cases o <;> rfl
  rw [ApartFrom, get_set_self, hball, hpixel, detectCollision_comm, FreePlace, ← hplace]
  unfold detectCollision pixelDetection
  rw [hwidth, hheight, hmap]

/-- The other puck stays where it is, and so does the ball. -/
theorem apart_set {sprite : Sprite} (ho : o = .redpuck ∨ o = .bluepuck) (h : t.Apart)
    {place : Int × Int} (hplace : (sprite.x, sprite.y) = place)
    (hwidth : sprite.width = (t.get o).width) (hheight : sprite.height = (t.get o).height)
    (hmap : sprite.map = (t.get o).map) : (t.set o sprite).Apart ↔ t.FreePlace o place := by
  rcases ho with rfl | rfl
  · rw [← apartFrom_set (by decide) hplace hwidth hheight hmap]
    exact and_iff_left h.2
  · rw [← apartFrom_set (by decide) hplace hwidth hheight hmap]
    exact and_iff_right h.1

theorem putAgainst_frame (info : Walls) (s : Sprite) :
    ∃ x y, putAgainst info s = { s with x := x, y := y } := by
  obtain ⟨top, right, bottom, left⟩ := info
  cases top <;> cases right <;> cases bottom <;> cases left <;> exact ⟨_, _, rfl⟩

/-- **One move of a puck** keeps the pieces apart exactly if it is not stopped in the ball. -/
theorem PuckMove.apart_iff (hmove : PuckMove o x y t t') (ho : o = .redpuck ∨ o = .bluepuck)
    (hmain : t.isMainPc = true) (h : t.Apart) : t'.Apart ↔ t.StopsFree o x y := by
  unfold StopsFree
  dsimp only
  cases hmove with
  | wall hwall =>
      -- the puck is put against the wall without a test
      rw [if_pos hwall]
      apply apart_set ho h (putAgainst_place _ _ _)
      all_goals
        obtain ⟨_, _, heq⟩ := putAgainst_frame
          (wallInfo (t.get o) ((t.get o).x + x) ((t.get o).y - y)) (t.get o)
        rw [heq]
  | middle hwall hmiddle =>
      rw [if_neg (by simp [hwall]), if_pos hmiddle]
      exact apart_set ho h rfl rfl rfl rfl
  | hit hwall hmiddle _ _ =>
      rw [if_neg (by simp [hwall]), if_neg (by simp [hmiddle])]
      exact iff_of_true h trivial
  | free hwall hmiddle hball =>
      rw [if_neg (by simp [hwall]), if_neg (by simp [hmiddle])]
      have hplace : ((moved (t.get o) x y).x, (moved (t.get o) x y).y) =
          ((t.get o).x + x, (t.get o).y - y) := rfl
      exact iff_of_true ((apart_set ho h hplace rfl rfl rfl).mpr (hball hmain)) trivial

/-! ## The ball moves -/

theorem reflect_frame (info : Walls) (s : Sprite) :
    ∃ xspeed yspeed, reflect info s = { s with xspeed := xspeed, yspeed := yspeed } := by
  obtain ⟨top, right, bottom, left⟩ := info
  cases top <;> cases right <;> cases bottom <;> cases left <;> exact ⟨_, _, rfl⟩

theorem bounced_velocity (ball other : Sprite) :
    ∃ xspeed yspeed, bounced ball other = { ball with xspeed := xspeed, yspeed := yspeed } := by
  unfold bounced
  split
  · exact ⟨_, _, rfl⟩
  · exact ⟨_, _, rfl⟩

theorem puckAt_eq_none {newX newY : Int} (h : t.puckAt newX newY = none) :
    detectCollision t.ball newX newY t.redpuck t.bytesPerPixel = false ∧
      detectCollision t.ball newX newY t.bluepuck t.bytesPerPixel = false := by
  unfold puckAt at h
  grind

/-- **One move of the ball** keeps the pieces apart exactly if it is not put on a puck. -/
theorem BallMove.apart_iff (hmove : BallMove x y t t') (hmain : t.isMainPc = true) (h : t.Apart) :
    t'.Apart ↔ (topGoal t.ball (t.ball.x + x) (t.ball.y - y) = true ∨
      bottomGoal t.ball (t.ball.x + x) (t.ball.y - y) = true → t.SpotFree) := by
  cases hmove with
  -- the only branch that puts the ball somewhere without a test
  | goal hgoal =>
      show t.SpotFree ↔ _
      exact ⟨fun hspot _ => hspot, fun himp => himp hgoal⟩
  | wall htop hbottom _ =>
      obtain ⟨_, _, heq⟩ := reflect_frame (wallInfo t.ball (t.ball.x + x) (t.ball.y - y)) t.ball
      rw [heq]
      exact iff_of_true h fun hgoal => by simp [htop, hbottom] at hgoal
  | bounce o htop hbottom _ _ _ =>
      obtain ⟨_, _, heq⟩ := bounced_velocity t.ball (t.get o)
      rw [bounceOff_ball, heq]
      exact iff_of_true h fun hgoal => by simp [htop, hbottom] at hgoal
  | free htop hbottom _ hpuck =>
      refine iff_of_true ?_ fun hgoal => by simp [htop, hbottom] at hgoal
      exact puckAt_eq_none (hpuck hmain)

theorem ballTick_apart_iff (hmain : t.isMainPc = true) (h : t.Apart) :
    t.ballTick.Apart ↔ (t.scoresTop = true ∨ t.scoresBottom = true → t.SpotFree) := by
  unfold ballTick scoresTop scoresBottom
  by_cases hmoving : t.ball.xspeed ≠ 0 ∨ t.ball.yspeed ≠ 0
  · rw [if_pos hmoving, (move_ball rfl).apart_iff hmain h]
    simp only [hmoving, decide_true, Bool.true_and]
  · rw [if_neg hmoving]
    simp [hmoving, h]

/-- At the start of a game the pieces stand one above the other. -/
theorem Confined.apart_reset (h : t.Confined) : t.reset.Apart := by
  have hball : t.ball.Inside 50 50 := h .ball
  have hred : t.redpuck.Inside 80 80 := h .redpuck
  have hblue : t.bluepuck.Inside 80 80 := h .bluepuck
  -- 55 and 80 rows for the red puck, 410 and 50 for the ball, 730 for the blue puck
  constructor
  · apply detectCollision_of_above
    left
    show (55 : Int) + t.redpuck.height < 410
    rw [hred.height_eq]
    decide
  · apply detectCollision_of_above
    right
    show (410 : Int) + t.ball.height < 730
    rw [hball.height_eq]
    decide

end Table

namespace Pc

/-- In a game of the main PC the pieces are apart. -/
def NoOverlap (s : Pc) : Prop := s.mainState = .game → s.table.isMainPc = true → s.table.Apart

/-- On the main PC: a goal of a game that goes on finds the spot free, and a puck that is stopped is
not stopped in the ball. -/
def Clear (s : Pc) (i : Input) : Prop :=
  s.mainState = .game → s.table.isMainPc = true →
    (s.motion i = some .tick → ¬s.EndsGame →
      -- the game must go on, since of a result nothing is asked
      s.table.scoresTop = true ∨ s.table.scoresBottom = true → s.table.SpotFree) ∧
    (∀ parsing, s.motion i = some (.packet parsing) → parsing.lb = true →
      s.table.StopsFree .bluepuck parsing.deltaX parsing.deltaY) ∧
    ∀ x y, s.motion i = some (.effect (.move x y)) → s.table.StopsFree .redpuck x y

theorem Clear.of_none {s : Pc} {i : Input} (h : s.motion i = none) : s.Clear i := by
  intro _ _
  simp [h]

theorem tick_noOverlap_iff {s : Pc} (hgame : s.mainState = .game) (hmain : s.table.isMainPc = true)
    (h : s.table.Apart) (htable : s.timerInt.table =
      Table.ballTick { s.table with tx := s.timerIntHandler.puckTick.table.tx }) :
    s.timerInt.NoOverlap ↔ s.Clear (.interrupt .timer) := by
  have hmotion : s.motion (.interrupt .timer) = some .tick := if_pos hgame
  have hrole : s.timerInt.table.isMainPc = true := by
    rw [htable, Table.role_ballTick, hmain]
  have hball := Table.ballTick_apart_iff
    (t := { s.table with tx := s.timerIntHandler.puckTick.table.tx }) hmain h
  rw [← htable] at hball
  unfold NoOverlap Clear
  rw [timerInt_goesOn hgame, hball, hmotion]
  constructor
  -- the role is the same after the tick, the mode only if the game goes on
  · intro hnext _ _
    exact ⟨fun _ hon => hnext hon hrole, nofun, nofun⟩
  · intro hclear hon _
    exact (hclear hgame hmain).1 rfl hon

theorem packet_noOverlap_iff {parsing : Packet} {s s' : Pc} {i : Input}
    (hmotion : s.motion i = some (.packet parsing))
    (htable : s'.table = actOnPacket parsing s.table) (hgame : s.mainState = .game)
    (hgame' : s'.mainState = .game) (hmain : s.table.isMainPc = true)
    (hmain' : s'.table.isMainPc = true) (h : s.table.Apart) : s'.NoOverlap ↔ s.Clear i := by
  obtain ⟨reads, -, hparsing⟩ := motion_packet hmotion
  obtain ⟨⟨hx, hx'⟩, hy, hy'⟩ := completes_range hparsing
  have hpacket := actOnPacket_move parsing s.table
  rw [← htable] at hpacket
  have hiff : s'.table.Apart ↔ (parsing.lb = true →
      s.table.StopsFree .bluepuck parsing.deltaX parsing.deltaY) := by
    generalize s'.table = t' at hpacket
    cases hpacket with
    | drag m hlb =>
        have hmove := Table.move_puck (by decide : Object.bluepuck ≠ .ball)
          (rfl : s.table.move .bluepuck parsing.deltaX parsing.deltaY 2 = _)
        rw [int16_of_range (by omega) (by omega), int16_of_range (by omega) (by omega)] at hmove
        rw [← hmove.apart_iff (.inr rfl) hmain h]
        exact ⟨fun hapart _ => hapart, fun hapart => hapart hlb⟩
    | release m hlb => exact iff_of_true h fun hlb' => by simp [hlb] at hlb'
  constructor
  · intro hnext _ _
    refine ⟨by simp [hmotion], fun parsing' hp hlb => ?_, by simp [hmotion]⟩
    cases hmotion.symm.trans hp
    exact hiff.mp (hnext hgame' hmain') hlb
  · intro hclear _ _
    exact hiff.mpr ((hclear hgame hmain).2.1 parsing hmotion)

theorem move_noOverlap_iff {x y : Int} {s s' : Pc} {i : Input}
    (hmotion : s.motion i = some (.effect (.move x y)))
    (htable : s'.table = (Effect.move x y).apply s.table) (hgame : s.mainState = .game)
    (hgame' : s'.mainState = .game) (hmain : s.table.isMainPc = true)
    (hmain' : s'.table.isMainPc = true) (h : s.table.Apart) : s'.NoOverlap ↔ s.Clear i := by
  obtain ⟨hx, hy⟩ := motion_range hmotion
  have hmove := Table.move_puck (by decide : Object.redpuck ≠ .ball) htable.symm
  rw [hx, hy] at hmove
  have hiff := hmove.apart_iff (.inl rfl) hmain h
  constructor
  · intro hnext _ _
    refine ⟨by simp [hmotion], by simp [hmotion], fun x' y' he => ?_⟩
    cases hmotion.symm.trans he
    exact hiff.mp (hnext hgame' hmain')
  · intro hclear _ _
    exact hiff.mpr ((hclear hgame hmain).2.2 x y hmotion)

/-- A step that sets no piece in motion: the pieces stay, or a game begins. -/
theorem TableStep.noOverlap_still {s s' : Pc} {i : Input} (hstep : TableStep s s' i)
    (ht : s.table.Confined) (h : s.NoOverlap) (hstill : s.motion i = none) : s'.NoOverlap := by
  intro hgame hmain
  cases hstep with
  | tick hmotion _ _ | packet _ hmotion _ _ | effect _ hmotion _ _ _ =>
      cases hmotion.symm.trans hstill
  | keep _ htable hmode =>
      rw [htable] at hmain ⊢
      exact h (hmode hgame) hmain
  | leave _ hmode _ =>
      rw [hmode] at hgame
      cases hgame
  | reset _ tx isMainPc _ htable =>
      rw [htable]
      exact Table.Confined.apart_reset (ht.congr rfl rfl rfl ⟨rfl, rfl, rfl, rfl⟩)

/-- **One step** of any PC. -/
theorem TableStep.keepsApart_iff {s s' : Pc} {i : Input} (hstep : TableStep s s' i)
    (hnext : s.step i = some s') (ht : s.table.Confined) (h : s.NoOverlap) :
    s'.NoOverlap ↔ s.Clear i := by
  cases hm : s.motion i with
  | none => exact iff_of_true (hstep.noOverlap_still ht h hm) (.of_none hm)
  | some m =>
      -- a motion leaves role and mode alone, so both sides speak of a game of the main PC
      obtain ⟨hrole, hmode⟩ := hstep.keeps hm
      by_cases hboth : s.mainState = .game ∧ s.table.isMainPc = true
      · obtain ⟨hgame, hmain⟩ := hboth
        have hmain' := hrole.trans hmain
        cases hstep with
        | keep hmotion _ _ | leave hmotion _ _ | reset hmotion _ _ _ _ =>
            cases hmotion.symm.trans hm
        | tick hmotion _ htable =>
            obtain rfl := motion_tick hmotion
            cases hnext
            exact tick_noOverlap_iff hgame hmain (h hgame hmain) htable
        | packet parsing hmotion htable hmode' =>
            exact packet_noOverlap_iff hmotion htable hgame (hmode'.trans hgame) hmain hmain'
              (h hgame hmain)
        | effect e hmotion _ htable hgame' =>
            cases e with
            | move x y =>
                exact move_noOverlap_iff hmotion htable hgame hgame' hmain hmain' (h hgame hmain)
            | ballSpeed xspeed yspeed =>
                refine iff_of_true (fun _ _ => ?_) fun _ _ => by simp [hmotion]
                rw [htable]
                exact h hgame hmain
      · -- nothing is asked of another mode, or of the other PC
        refine iff_of_true (fun hgame' hmain' => absurd ⟨?_, ?_⟩ hboth)
          fun hgame hmain => absurd ⟨hgame, hmain⟩ hboth
        · exact hmode hgame'
        · exact hrole.symm.trans hmain'

end Pc

/-- **When the pieces stay apart** on the main PC: as long as no goal is scored while a puck is on
the ball's spot, and no puck is stopped, by a wall or the middle line, where the ball is. -/
theorem noOverlap_iff (S : Setup) (es : List Input) :
    Transition.Always Pc.step Pc.NoOverlap (init S) es ↔
      Transition.Along Pc.step Pc.Clear (init S) es := by
  refine always_iff_guard S es (fun _ _ => Pc.Clear.of_none) ?_ nofun
  intro s i s' hregular hapart hstep
  exact (Pc.step_table hregular.sound hstep).keepsApart_iff hstep hregular.confined hapart

/-- The red puck is moved out of the way; the blue one shoots the ball into the upper goal and goes
up to the middle line. -/
def shotAndWait : List Input :=
  key spaceBreakCode ++ received [120, 0, 0, 0] ++ mousePacket 0x09 0 0xFF ++
    mousePacket 0x09 0 30 ++ ticks 8 ++
    mousePacket 0x09 0 43 ++ ticks 41

instance (t : Table) (o : Object) : Decidable (t.ApartFrom o) := inferInstanceAs (Decidable (_ = _))

instance (t : Table) : Decidable t.Apart := inferInstanceAs (Decidable (_ ∧ _))

/-- The ball is put on its spot, and into the puck that waits there. -/
theorem noOverlap_goal :
    ∃ s, Transition.run Pc.step (init Setup.standard) shotAndWait = some s ∧
      (s.mainState = .game ∧ s.table.isMainPc = true ∧ s.table.player2Score = 1) ∧
      ¬s.NoOverlap := by
  have hreach : ∃ s, Transition.run Pc.step (init Setup.standard) shotAndWait = some s ∧
      -- the puck overlaps the ball: an evaluation of the test on the state that is reached
      (s.mainState = .game ∧ s.table.isMainPc = true ∧ s.table.player2Score = 1) ∧
        ¬s.table.Apart :=
    Transition.reaches_of_any (by decide +kernel)
  obtain ⟨s, hrun, ⟨hgame, hmain, hgoal⟩, hoverlap⟩ := hreach
  exact ⟨s, hrun, ⟨hgame, hmain, hgoal⟩, fun h => hoverlap (h hgame hmain)⟩

end AirHockey
