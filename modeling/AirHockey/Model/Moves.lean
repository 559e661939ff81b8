import AirHockey.Model.Physics

/-! # What a move can do

`move` goes through `detect_collision_in_layer`, which decides and acts at once. Here the outcomes
of a move are listed, one constructor for each way through the two functions with the tests that
lead there; every later fact about moves is a case analysis on these lists.

There is a list for each layer, `MouseMove`, `PuckMove` and `BallMove`, and an inversion lemma for
each (`move_mouse`, `move_puck`, `move_ball`), found by going through the tests in the order of
the source. The tests exclude each other, so that the outcome is the only one with its tests
(`BallMove.unique`, `PuckMove.unique`). Frame lemmas say which sprites a move leaves alone. -/

namespace AirHockey

namespace Table

@[simp] theorem get_set_self (t : Table) (o : Object) (sprite : Sprite) :
    (t.set o sprite).get o = sprite := by
  cases o <;> rfl

@[simp] theorem get_set_of_ne {o o' : Object} (h : o' ≠ o) (t : Table) (sprite : Sprite) :
    (t.set o sprite).get o' = t.get o' := by
  cases o <;> cases o' <;> first | rfl | exact absurd rfl h

/-- A puck at the middle line is put against it, on its own side. -/
def snapToMiddle (sprite : Sprite) : Sprite :=
  { sprite with
    y := if sprite.y < middleField then middleField - sprite.height else middleField }

/-- A sprite after a move that nothing stops. -/
def moved (sprite : Sprite) (x y : Int) : Sprite :=
  { sprite with x := sprite.x + x, y := sprite.y - y, xspeed := x, yspeed := y }

/-! ## The cursor -/

/-- Layer 0. -/
inductive MouseMove (x y : Int) (t : Table) : Table → Prop where
  | wall (hwall : detectWallCollision t.mouse (t.mouse.x + x) (t.mouse.y - y) = true) :
      MouseMove x y t
        { t with mouse := putAgainst (wallInfo t.mouse (t.mouse.x + x) (t.mouse.y - y)) t.mouse }
  | free (hwall : detectWallCollision t.mouse (t.mouse.x + x) (t.mouse.y - y) = false) :
      MouseMove x y t { t with mouse := moved t.mouse x y }

theorem move_mouse {x y : Int} {t t' : Table} (h : t.move .mouse x y 0 = t') :
    MouseMove (int16 x) (int16 y) t t' := by
  subst h
  -- the wall is the only test of this layer
  cases hwall : detectWallCollision t.mouse (t.mouse.x + int16 x) (t.mouse.y - int16 y) with
  | true =>
      have heq : t.move .mouse x y 0 =
          { t with
            mouse :=
              putAgainst (wallInfo t.mouse (t.mouse.x + int16 x) (t.mouse.y - int16 y)) t.mouse } :=
          by
        simp only [move, detectCollisionInLayer, get, hwall, if_true]
        rfl
      exact heq ▸ .wall hwall
  | false =>
      have heq : t.move .mouse x y 0 = { t with mouse := moved t.mouse (int16 x) (int16 y) } := by
        simp only [move, detectCollisionInLayer, get, hwall]
        rfl
      exact heq ▸ .free hwall

/-! ## The pucks -/

/-- Layer 2, for a puck `o`. -/
inductive PuckMove (o : Object) (x y : Int) (t : Table) : Table → Prop where
  | wall (hwall : detectWallCollision (t.get o) ((t.get o).x + x) ((t.get o).y - y) = true) :
      PuckMove o x y t
        (t.set o (putAgainst (wallInfo (t.get o) ((t.get o).x + x) ((t.get o).y - y)) (t.get o)))
  | middle (hwall : detectWallCollision (t.get o) ((t.get o).x + x) ((t.get o).y - y) = false)
      (hmiddle : detectMiddleFieldCollision (t.get o) ((t.get o).x + x) ((t.get o).y - y) = true) :
      PuckMove o x y t (t.set o (snapToMiddle (t.get o)))
  | hit (hwall : detectWallCollision (t.get o) ((t.get o).x + x) ((t.get o).y - y) = false)
      (hmiddle : detectMiddleFieldCollision (t.get o) ((t.get o).x + x) ((t.get o).y - y) = false)
      (hmain : t.isMainPc = true)
      (hball : detectCollision (t.get o) ((t.get o).x + x) ((t.get o).y - y) t.ball
        t.bytesPerPixel = true) :
      PuckMove o x y t (t.ballCollision o)
  | free (hwall : detectWallCollision (t.get o) ((t.get o).x + x) ((t.get o).y - y) = false)
      (hmiddle : detectMiddleFieldCollision (t.get o) ((t.get o).x + x) ((t.get o).y - y) = false)
      (hball : t.isMainPc = true → detectCollision (t.get o) ((t.get o).x + x) ((t.get o).y - y)
        t.ball t.bytesPerPixel = false) :
      PuckMove o x y t (t.set o (moved (t.get o) x y))

theorem move_puck {o : Object} (ho : o ≠ .ball) {x y : Int} {t t' : Table}
    (h : t.move o x y 2 = t') : PuckMove o (int16 x) (int16 y) t t' := by
  subst h
  -- the wall is tested first, then the middle line, and the ball last
  cases hwall : detectWallCollision (t.get o) ((t.get o).x + int16 x)
      ((t.get o).y - int16 y) with
  | true =>
      have heq : t.move o x y 2 = t.set o (putAgainst
          (wallInfo (t.get o) ((t.get o).x + int16 x) ((t.get o).y - int16 y)) (t.get o)) := by
        simp only [move, detectCollisionInLayer, hwall, if_true, handlePlayAreaCollision, ho,
          if_false]
      exact heq ▸ .wall hwall
  | false =>
      cases hmiddle : detectMiddleFieldCollision (t.get o) ((t.get o).x + int16 x)
          ((t.get o).y - int16 y) with
      | true =>
          have heq : t.move o x y 2 = t.set o (snapToMiddle (t.get o)) := by
            simp only [move, detectCollisionInLayer, hwall, hmiddle, if_true, snapToMiddle]
            by_cases hside : (t.get o).y < middleField <;> simp [hside]
          exact heq ▸ .middle hwall hmiddle
      | false =>
          -- only the main PC looks at the ball
          by_cases hhit : t.isMainPc = true ∧ detectCollision (t.get o) ((t.get o).x + int16 x)
              ((t.get o).y - int16 y) t.ball t.bytesPerPixel = true
          · have heq : t.move o x y 2 = t.ballCollision o := by
              simp [move, detectCollisionInLayer, hwall, hmiddle, hhit, ho]
            exact heq ▸ .hit hwall hmiddle hhit.1 hhit.2
          · have hball : t.isMainPc = true → detectCollision (t.get o) ((t.get o).x + int16 x)
                ((t.get o).y - int16 y) t.ball t.bytesPerPixel = false := by
              intro hmain
              simpa [hmain] using hhit
            have heq : t.move o x y 2 = t.set o (moved (t.get o) (int16 x) (int16 y)) := by
              cases hmain : t.isMainPc with
              | false => simp [move, detectCollisionInLayer, hwall, hmiddle, hmain, moved]
              | true =>
                  simp [move, detectCollisionInLayer, hwall, hmiddle, hmain, hball hmain, moved]
            exact heq ▸ .free hwall hmiddle hball

/-! ## The ball -/

/-- The ball on its spot, at rest. -/
def centred (ball : Sprite) : Sprite := { ball with x := 550, y := 410, xspeed := 0, yspeed := 0 }

/-- The puck that a move of the ball to `(newX, newY)` runs into, the red one first. -/
def puckAt (t : Table) (newX newY : Int) : Option Object :=
  if detectCollision t.ball newX newY t.redpuck t.bytesPerPixel then some .redpuck
  else if detectCollision t.ball newX newY t.bluepuck t.bytesPerPixel then some .bluepuck
  else none

/-- The table with the goals counted that the ball scores at `(newX, newY)`. -/
def scored (t : Table) (newX newY : Int) : Table :=
  { t with
    player1Score := t.player1Score + if bottomGoal t.ball newX newY then 1 else 0
    player2Score := t.player2Score + if topGoal t.ball newX newY then 1 else 0 }

theorem detectGoalCollision_ball (t : Table) (newX newY : Int) :
    t.detectGoalCollision t.ball newX newY =
      (topGoal t.ball newX newY || bottomGoal t.ball newX newY, t.scored newX newY) := by
  unfold detectGoalCollision scored
  cases topGoal t.ball newX newY <;> cases bottomGoal t.ball newX newY <;> simp

/-- Layer 1. -/
inductive BallMove (x y : Int) (t : Table) : Table → Prop where
  | goal (hgoal : topGoal t.ball (t.ball.x + x) (t.ball.y - y) = true ∨
        bottomGoal t.ball (t.ball.x + x) (t.ball.y - y) = true) :
      BallMove x y t { t.scored (t.ball.x + x) (t.ball.y - y) with ball := centred t.ball }
  | wall (htop : topGoal t.ball (t.ball.x + x) (t.ball.y - y) = false)
      (hbottom : bottomGoal t.ball (t.ball.x + x) (t.ball.y - y) = false)
      (hwall : detectWallCollision t.ball (t.ball.x + x) (t.ball.y - y) = true) :
      BallMove x y t
        { t with ball := reflect (wallInfo t.ball (t.ball.x + x) (t.ball.y - y)) t.ball }
  | bounce (o : Object) (htop : topGoal t.ball (t.ball.x + x) (t.ball.y - y) = false)
      (hbottom : bottomGoal t.ball (t.ball.x + x) (t.ball.y - y) = false)
      (hwall : detectWallCollision t.ball (t.ball.x + x) (t.ball.y - y) = false)
      (hmain : t.isMainPc = true)
      (hpuck : t.puckAt (t.ball.x + x) (t.ball.y - y) = some o) :
      BallMove x y t (t.bounceOff .ball o)
  | free (htop : topGoal t.ball (t.ball.x + x) (t.ball.y - y) = false)
      (hbottom : bottomGoal t.ball (t.ball.x + x) (t.ball.y - y) = false)
      (hwall : detectWallCollision t.ball (t.ball.x + x) (t.ball.y - y) = false)
      (hpuck : t.isMainPc = true → t.puckAt (t.ball.x + x) (t.ball.y - y) = none) :
      BallMove x y t { t with ball := moved t.ball x y }

theorem move_ball {x y : Int} {t t' : Table} (h : t.move .ball x y 1 = t') :
    BallMove (int16 x) (int16 y) t t' := by
  subst h
  -- a goal counts before anything else, whichever of the two it is
  cases hgoal : topGoal t.ball (t.ball.x + int16 x) (t.ball.y - int16 y) ||
      bottomGoal t.ball (t.ball.x + int16 x) (t.ball.y - int16 y) with
  | true =>
      have heq : t.move .ball x y 1 = { t.scored (t.ball.x + int16 x) (t.ball.y - int16 y) with
          ball := centred t.ball } := by
        simp only [move, detectCollisionInLayer, get, detectGoalCollision_ball, hgoal, if_true]
        rfl
      exact heq ▸ .goal (by simpa using hgoal)
  | false =>
      obtain ⟨htop, hbottom⟩ := Bool.or_eq_false_iff.mp hgoal
      cases hwall : detectWallCollision t.ball (t.ball.x + int16 x) (t.ball.y - int16 y) with
      | true =>
          have heq : t.move .ball x y 1 =
              { t with
                ball :=
                  reflect (wallInfo t.ball (t.ball.x + int16 x) (t.ball.y - int16 y)) t.ball } :=
              by
            simp [move, detectCollisionInLayer, get, set, detectGoalCollision, htop, hbottom,
              hwall, handlePlayAreaCollision]
          exact heq ▸ .wall htop hbottom hwall
      | false =>
          -- past the walls, only the main PC looks at the pucks
          by_cases hmain : t.isMainPc = true
          -- the red puck is tested before the blue one
          · cases hpuck : t.puckAt (t.ball.x + int16 x) (t.ball.y - int16 y) with
            | some o =>
                have heq : t.move .ball x y 1 = t.bounceOff .ball o := by
                  unfold puckAt at hpuck
                  split at hpuck
                  · next hred =>
                      obtain rfl := Option.some.inj hpuck
                      simp [move, detectCollisionInLayer, get, detectGoalCollision, htop, hbottom,
                        hwall, hmain, hred]
                  · next hred =>
                      split at hpuck
                      · next hblue =>
                          obtain rfl := Option.some.inj hpuck
                          simp [move, detectCollisionInLayer, get, detectGoalCollision, htop,
                            hbottom, hwall, hmain, hred, hblue]
                      · cases hpuck
                exact heq ▸ .bounce o htop hbottom hwall hmain hpuck
            | none =>
                have heq : t.move .ball x y 1 =
                    { t with ball := moved t.ball (int16 x) (int16 y) } := by
                  unfold puckAt at hpuck
                  split at hpuck
                  · cases hpuck
                  · next hred =>
                      split at hpuck
                      · cases hpuck
                      · next hblue =>
                          simp [move, detectCollisionInLayer, get, set, detectGoalCollision, htop,
                            hbottom, hwall, hmain, hred, hblue, moved]
                exact heq ▸ .free htop hbottom hwall (fun _ => hpuck)
          · have heq : t.move .ball x y 1 =
                { t with ball := moved t.ball (int16 x) (int16 y) } := by
              simp [move, detectCollisionInLayer, get, set, detectGoalCollision, htop, hbottom,
                hwall, hmain, moved]
            exact heq ▸ .free htop hbottom hwall (fun h => absurd h hmain)

/-- The ball after bouncing off `other`: back from a puck at rest, and with the puck's velocity, cut
down to what a ball may have, from a moving one. -/
def bounced (ball other : Sprite) : Sprite :=
  if other.xspeed = 0 ∧ other.yspeed = 0 then
    { ball with xspeed := ball.xspeed * -1, yspeed := ball.yspeed * -1 }
  else normalizeSpeed { ball with xspeed := other.xspeed, yspeed := other.yspeed }

/-- Bouncing changes the velocity of the ball and announces it, no more. -/
theorem bounceOff_ball (t : Table) (o : Object) :
    t.bounceOff .ball o =
      { t with
        ball := bounced t.ball (t.get o)
        tx := t.tx.transmitBallSpeed (bounced t.ball (t.get o)).xspeed
          (bounced t.ball (t.get o)).yspeed } := by
  unfold bounceOff bounced
  dsimp only
  split <;> rfl

/-- Only the velocity changes. -/
theorem bounced_frame (ball other : Sprite) :
    (bounced ball other).width = ball.width ∧ (bounced ball other).height = ball.height ∧
      (bounced ball other).x = ball.x ∧ (bounced ball other).y = ball.y := by
  unfold bounced
  split <;> exact ⟨rfl, rfl, rfl, rfl⟩

/-- The ball bounces off a puck. -/
theorem puckAt_eq_some {t : Table} {newX newY : Int} {o : Object}
    (h : t.puckAt newX newY = some o) : o = .redpuck ∨ o = .bluepuck := by
  unfold puckAt at h
  split at h
  · exact .inl (Option.some.inj h).symm
  · split at h
    · exact .inr (Option.some.inj h).symm
    · cases h

/-! ## What a move leaves alone -/

/-- A move of a puck exchanges nothing but this puck and the ball. -/
theorem get_move_puck {o o' : Object} (ho : o ≠ .ball) (hne : o' ≠ o) (hball : o' ≠ .ball)
    (t : Table) (x y : Int) : (t.move o x y 2).get o' = t.get o' := by
  generalize ht' : t.move o x y 2 = t'
  cases move_puck ho ht' with
  | wall _ | middle _ _ | free _ _ _ => exact get_set_of_ne hne t _
  | hit _ _ _ _ =>
      cases o' with
      | ball => exact absurd rfl hball
      | mouse | redpuck | bluepuck => rfl

theorem get_move_ball {o : Object} (ho : o ≠ .ball) (t : Table) (x y : Int) :
    (t.move .ball x y 1).get o = t.get o := by
  generalize ht' : t.move .ball x y 1 = t'
  cases move_ball ht' with
  | goal _ | wall _ _ _ | free _ _ _ _ =>
      cases o with
      | ball => exact absurd rfl ho
      | mouse | redpuck | bluepuck => rfl
  | bounce _ _ _ _ _ _ =>
      rw [bounceOff_ball]
      cases o with
      | ball => exact absurd rfl ho
      | mouse | redpuck | bluepuck => rfl

/-- The role does not change. -/
theorem role_move_puck {o : Object} (ho : o ≠ .ball) (t : Table) (x y : Int) :
    (t.move o x y 2).isMainPc = t.isMainPc := by
  have hset : ∀ sprite, (t.set o sprite).isMainPc = t.isMainPc := by
    intro sprite
    cases o <;> rfl
  generalize ht' : t.move o x y 2 = t'
  cases move_puck ho ht' with
  | wall _ | middle _ _ | free _ _ _ => exact hset _
  | hit _ _ _ _ => rfl

theorem role_move_ball (t : Table) (x y : Int) :
    (t.move .ball x y 1).isMainPc = t.isMainPc := by
  generalize ht' : t.move .ball x y 1 = t'
  cases move_ball ht' with
  | goal _ | wall _ _ _ | free _ _ _ _ => rfl
  | bounce _ _ _ _ _ _ =>
      rw [bounceOff_ball]

/-! ## The tests decide the outcome -/

theorem BallMove.unique {x y : Int} {t u v : Table} (hu : BallMove x y t u)
    (hv : BallMove x y t v) :
    u = v := by
  cases hu with
  | goal hgoal =>
      -- the tests of one outcome refute those of the others
      cases hv with
      | goal _ => rfl
      | wall htop hbottom _ | bounce _ htop hbottom _ _ _ | free htop hbottom _ _ =>
          simp [htop, hbottom] at hgoal
  | wall htop hbottom hwall =>
      cases hv with
      | goal hgoal => simp [htop, hbottom] at hgoal
      | wall _ _ _ => rfl
      | bounce _ _ _ hwall' _ _ | free _ _ hwall' _ => simp [hwall] at hwall'
  | bounce o htop hbottom hwall hmain hpuck =>
      cases hv with
      | goal hgoal => simp [htop, hbottom] at hgoal
      | wall _ _ hwall' => simp [hwall] at hwall'
      | bounce o' _ _ _ _ hpuck' => rw [Option.some.inj (hpuck.symm.trans hpuck')]
      | free _ _ _ hpuck' => simp [hpuck, hmain] at hpuck'
  | free htop hbottom hwall hpuck =>
      cases hv with
      | goal hgoal => simp [htop, hbottom] at hgoal
      | wall _ _ hwall' => simp [hwall] at hwall'
      | bounce o _ _ _ hmain hpuck' => simp [hpuck hmain] at hpuck'
      | free _ _ _ _ => rfl

theorem PuckMove.unique {o : Object} {x y : Int} {t u v : Table} (hu : PuckMove o x y t u)
    (hv : PuckMove o x y t v) : u = v := by
  cases hu with
  | wall hwall =>
      cases hv with
      | wall _ => rfl
      | middle hwall' _ | hit hwall' _ _ _ | free hwall' _ _ => simp [hwall] at hwall'
  | middle hwall hmiddle =>
      cases hv with
      | wall hwall' => simp [hwall] at hwall'
      | middle _ _ => rfl
      | hit _ hmiddle' _ _ | free _ hmiddle' _ => simp [hmiddle] at hmiddle'
  | hit hwall hmiddle hmain hball =>
      cases hv with
      | wall hwall' => simp [hwall] at hwall'
      | middle _ hmiddle' => simp [hmiddle] at hmiddle'
      | hit _ _ _ _ => rfl
      | free _ _ hball' => simp [hball' hmain] at hball
  | free hwall hmiddle hball =>
      cases hv with
      | wall hwall' => simp [hwall] at hwall'
      | middle _ hmiddle' => simp [hmiddle] at hmiddle'
      | hit _ _ hmain hball' => simp [hball hmain] at hball'
      | free _ _ _ => rfl

/-- A puck moves as it would with another cursor. -/
theorem move_puck_mouse {o : Object} (ho : o = .redpuck ∨ o = .bluepuck) (t : Table) (m : Sprite)
    (x y : Int) :
    ({ t with mouse := m } : Table).move o x y 2 = { t.move o x y 2 with mouse := m } := by
  have hne : o ≠ .ball := by
    rcases ho with rfl | rfl <;> decide
  -- the tests look at the puck, the ball and the role, never at the cursor
  have hmove : PuckMove o (int16 x) (int16 y) { t with mouse := m }
      { t.move o x y 2 with mouse := m } := by
    generalize ht' : t.move o x y 2 = t'
    rcases ho with rfl | rfl
    all_goals
      cases move_puck hne ht' with
      | wall hwall => exact .wall hwall
      | middle hwall hmiddle => exact .middle hwall hmiddle
      | hit hwall hmiddle hmain hball => exact .hit hwall hmiddle hmain hball
      | free hwall hmiddle hball => exact .free hwall hmiddle hball
  exact (move_puck hne rfl).unique hmove

end Table

end AirHockey
