import AirHockey.Model.Mirror
import AirHockey.Model.Rebound

/-! # The ball and the walls

A move of the ball that would leave the play area is refused whole, and the components that lead
out are negated. What is left is that this always frees the ball: the place that the turned
velocity leads to is inside again, and no goal.

The definitions at the beginning speak of the tick's target in the words of the table; the
outcomes of the move are then read off the target (`move_of_goal`, `move_of_out`, `move_of_in`).
Two facts about a slow ball inside the play area carry the result: it hits a wall only with a
component that points into it (`pointsInto`), so that `reflect` never negates twice; and turned it
leads back inside (`turned_target`). `walls_turn_ball` puts the two ticks together. -/

namespace AirHockey

namespace Table

/-- The place that the tick's move of the ball is to lead to. -/
def target (t : Table) : Int × Int := (t.ball.x + t.ball.xspeed, t.ball.y - t.ball.yspeed)

/-- At its target the ball is wholly between the posts, and at or past an end line. -/
def TargetPastEnd (t : Table) : Prop :=
  (leftPost ≤ t.target.1 ∧ t.target.1 + t.ball.width ≤ rightPost) ∧
    (t.target.2 ≤ verticalStart ∨ verticalEnd ≤ t.target.2 + t.ball.height)

/-- The target is a goal. -/
def targetGoal (t : Table) : Bool :=
  topGoal t.ball t.target.1 t.target.2 || bottomGoal t.ball t.target.1 t.target.2

/-- The walls that the target is behind. -/
def targetWalls (t : Table) : Walls := wallInfo t.ball t.target.1 t.target.2

/-- The target is behind a wall. -/
def targetOut (t : Table) : Bool := detectWallCollision t.ball t.target.1 t.target.2

/-- The velocity of the ball with the components negated that lead out of the play area. -/
def turned (t : Table) : Int × Int :=
  (if t.targetWalls.left ∨ t.targetWalls.right then -t.ball.xspeed else t.ball.xspeed,
   if t.targetWalls.top ∨ t.targetWalls.bottom then -t.ball.yspeed else t.ball.yspeed)

/-- The components that lead to the walls that are hit point into them. -/
structure PointsInto (info : Walls) (v : Int × Int) : Prop where
  top : info.top = true → 0 < v.2
  bottom : info.bottom = true → v.2 < 0
  left : info.left = true → v.1 < 0
  right : info.right = true → 0 < v.1

variable {t : Table}

/-- Wholly between the posts and at or past an end line is what the code tests for, on any ball. -/
theorem targetGoal_iff : t.targetGoal = true ↔ t.TargetPastEnd := by
  unfold targetGoal TargetPastEnd topGoal bottomGoal inGoalMouth
  simp only [Bool.or_eq_true, Bool.and_eq_true, decide_eq_true_eq]
  omega

/-! ## One tick of a slow ball -/

section

variable (hslow : Slow t.ball.velocity)
include hslow

theorem int16_velocity :
    int16 t.ball.xspeed = t.ball.xspeed ∧ int16 t.ball.yspeed = t.ball.yspeed := by
  obtain ⟨hx, hx', hy, hy'⟩ := hslow
  dsimp only [Sprite.velocity] at hx hx' hy hy'
  exact ⟨int16_of_range (by omega) (by omega), int16_of_range (by omega) (by omega)⟩

/-- The outcomes of the move, by the target. -/
theorem move_target :
    BallMove t.ball.xspeed t.ball.yspeed t (t.move .ball t.ball.xspeed t.ball.yspeed 1) := by
  obtain ⟨hx, hy⟩ := int16_velocity hslow
  have hmove := move_ball (rfl : t.move .ball t.ball.xspeed t.ball.yspeed 1 = _)
  rwa [hx, hy] at hmove

theorem move_of_goal (hgoal : t.targetGoal = true) :
    t.move .ball t.ball.xspeed t.ball.yspeed 1 =
      { t.scored t.target.1 t.target.2 with ball := centred t.ball } :=
  -- the outcomes are unique, so the one that the tests select is the one
  (move_target hslow).unique (.goal (Bool.or_eq_true_iff.mp hgoal))

theorem move_of_out (hgoal : t.targetGoal = false) (hout : t.targetOut = true) :
    t.move .ball t.ball.xspeed t.ball.yspeed 1 = { t with ball := reflect t.targetWalls t.ball } :=
  have hno := Bool.or_eq_false_iff.mp hgoal
  (move_target hslow).unique (.wall hno.1 hno.2 hout)

theorem move_of_in (hgoal : t.targetGoal = false) (hout : t.targetOut = false)
    (hpuck : t.isMainPc = true → t.puckAt t.target.1 t.target.2 = none) :
    t.move .ball t.ball.xspeed t.ball.yspeed 1 =
      { t with ball := moved t.ball t.ball.xspeed t.ball.yspeed } :=
  have hno := Bool.or_eq_false_iff.mp hgoal
  (move_target hslow).unique (.free hno.1 hno.2 hout hpuck)

end

/-! ## Inside the play area -/

theorem targetWalls_eq (hball : t.ball.IsBall) : t.targetWalls =
    ⟨t.target.2 < 21, 829 < t.target.1, 793 < t.target.2, t.target.1 < 273⟩ :=
  wallInfo_eq hball _ _

theorem targetOut_iff (hball : t.ball.IsBall) : t.targetOut = true ↔
    t.target.2 < 21 ∨ 829 < t.target.1 ∨ 793 < t.target.2 ∨ t.target.1 < 273 := by
  unfold targetOut detectWallCollision
  rw [wallInfo_eq hball]
  -- the four walls in the order in which the code looks at them
  simp only [Bool.or_eq_true, decide_eq_true_eq, or_assoc]

theorem targetGoal_iff_of_isBall (hball : t.ball.IsBall) : t.targetGoal = true ↔
    476 ≤ t.target.1 ∧ t.target.1 ≤ 626 ∧ (t.target.2 ≤ 21 ∨ 793 ≤ t.target.2) := by
  rw [targetGoal, Bool.or_eq_true, topGoal_iff hball, bottomGoal_iff hball]
  omega

section

variable (hball : t.ball.Inside 50 50)
include hball

theorem isBall_of_inside : t.ball.IsBall := ⟨hball.width_eq, hball.height_eq⟩

theorem ball_place : (273 ≤ t.ball.x ∧ t.ball.x ≤ 829) ∧ 21 ≤ t.ball.y ∧ t.ball.y ≤ 793 := by
  have hbounds := hball.bounds
  rw [hball.width_eq, hball.height_eq] at hbounds
  omega

/-- From inside, only a component that points into a wall leads behind it. -/
theorem pointsInto : PointsInto t.targetWalls t.ball.velocity := by
  obtain ⟨⟨hleft, hright⟩, htop, hbottom⟩ := ball_place hball
  rw [targetWalls_eq (isBall_of_inside hball)]
  unfold target Sprite.velocity
  constructor
  all_goals
    simp only [decide_eq_true_eq]
    omega

/-- The code negates each component once for each of its walls, and never twice. -/
theorem reflect_turned_velocity : reflect t.targetWalls t.ball =
    { t.ball with xspeed := t.turned.1, yspeed := t.turned.2 } := by
  obtain ⟨htop, hbottom, hleft, hright⟩ := pointsInto hball
  rw [reflect_eq]
  unfold turned Sprite.velocity at *
  congr 1
  -- left and right cannot both be hit: the velocity would have to point both ways
  · cases h : t.targetWalls.left <;> cases h' : t.targetWalls.right <;> simp
    have := hleft h
    have := hright h'
    omega
  · cases h : t.targetWalls.top <;> cases h' : t.targetWalls.bottom <;> simp
    have := htop h
    have := hbottom h'
    omega

/-- **The turned velocity leads back inside**, and to no goal. -/
theorem turned_target (hslow : Slow t.ball.velocity) (hgoal : t.targetGoal = false) :
    let newX := t.ball.x + t.turned.1
    let newY := t.ball.y - t.turned.2
    (273 ≤ newX ∧ newX ≤ 829) ∧ (21 ≤ newY ∧ newY ≤ 793) ∧
      ¬(476 ≤ newX ∧ newX ≤ 626 ∧ (newY ≤ 21 ∨ 793 ≤ newY)) := by
  have hisBall := isBall_of_inside hball
  obtain ⟨⟨hleft, hright⟩, htop, hbottom⟩ := ball_place hball
  obtain ⟨hx, hx', hy, hy'⟩ := hslow
  have hnogoal : ¬(476 ≤ t.target.1 ∧ t.target.1 ≤ 626 ∧ (t.target.2 ≤ 21 ∨ 793 ≤ t.target.2)) := by
    rw [← targetGoal_iff_of_isBall hisBall, hgoal]
    exact Bool.false_ne_true
  unfold turned
  rw [targetWalls_eq hisBall]
  simp only [decide_eq_true_eq]
  unfold target at hnogoal ⊢
  dsimp only [Sprite.velocity] at hx hx' hy hy' hnogoal ⊢
  split <;> split <;> omega

/-- A ball that is at rest is behind no wall. -/
theorem moving_of_out (hout : t.targetOut = true) :
    t.ball.xspeed ≠ 0 ∨ t.ball.yspeed ≠ 0 := by
  have hplace := ball_place hball
  rw [targetOut_iff (isBall_of_inside hball)] at hout
  unfold target at hout
  -- a ball at rest has itself for a target, and that is inside
  omega

/-- The tick that hits a wall. -/
theorem ballTick_of_out (hslow : Slow t.ball.velocity) (hgoal : t.targetGoal = false)
    (hout : t.targetOut = true) :
    t.ballTick = { t with ball := { t.ball with xspeed := t.turned.1, yspeed := t.turned.2 } } := by
  rw [ballTick, if_pos (moving_of_out hball hout), move_of_out hslow hgoal hout,
    reflect_turned_velocity hball]

end

/-- A slow ball is slow when it has been turned … -/
theorem slow_turned (hslow : Slow t.ball.velocity) : Slow t.turned := by
  obtain ⟨hx, hx', hy, hy'⟩ := hslow
  dsimp only [Sprite.velocity] at hx hx' hy hy'
  unfold turned Slow
  dsimp only
  split <;> split <;> omega

/-- … and it still moves. -/
theorem turned_moving (hmoving : t.ball.xspeed ≠ 0 ∨ t.ball.yspeed ≠ 0) :
    t.turned.1 ≠ 0 ∨ t.turned.2 ≠ 0 := by
  unfold turned
  dsimp only
  split <;> split <;> omega

/-- The next tick of the turned ball, on any table. -/
theorem ballTick_turned {t₂ : Table} (hball : t.ball.Inside 50 50) (hslow : Slow t.ball.velocity)
    (hgoal : t.targetGoal = false) (hmoving : t.ball.xspeed ≠ 0 ∨ t.ball.yspeed ≠ 0)
    (hball₂ : t₂.ball = { t.ball with xspeed := t.turned.1, yspeed := t.turned.2 })
    (hpuck : t₂.isMainPc = true → t₂.puckAt t₂.target.1 t₂.target.2 = none) :
    (t₂.targetOut = false ∧ t₂.targetGoal = false) ∧
      t₂.ballTick = { t₂ with ball := { t₂.ball with
        x := t.ball.x + t.turned.1, y := t.ball.y - t.turned.2 } } := by
  obtain ⟨hinX, hinY, hnogoal⟩ := turned_target hball hslow hgoal
  have hisBall₂ : t₂.ball.IsBall := by
    rw [hball₂]
    exact isBall_of_inside hball
  have hslow₂ : Slow t₂.ball.velocity := by
    -- the ball of `t₂` is the turned one, whatever else is on that table
    rw [hball₂]
    exact slow_turned hslow
  have hmoving₂ : t₂.ball.xspeed ≠ 0 ∨ t₂.ball.yspeed ≠ 0 := by
    rw [hball₂]
    exact turned_moving hmoving
  have htarget₂ : t₂.target = (t.ball.x + t.turned.1, t.ball.y - t.turned.2) := by
    rw [target, hball₂]
  have hin₂ : t₂.targetOut = false := by
    rw [Bool.eq_false_iff, Ne, targetOut_iff hisBall₂, htarget₂]
    dsimp only
    omega
  have hnogoal₂ : t₂.targetGoal = false := by
    rw [Bool.eq_false_iff, Ne, targetGoal_iff_of_isBall hisBall₂, htarget₂]
    exact hnogoal
  refine ⟨⟨hin₂, hnogoal₂⟩, ?_⟩
  rw [ballTick, if_pos hmoving₂, move_of_in hslow₂ hnogoal₂ hin₂ hpuck]
  unfold moved
  rw [hball₂]

end Table

/-! ## Two ticks -/

/-- **A wall turns the ball, and never holds it.** After the tick that hits a wall the ball is where
it was, and the next tick, whatever has happened to the rest of the table in between, moves it by
the turned velocity. A target wholly between the posts and at or past an end line is a goal. -/
theorem walls_turn_ball {t : Table} (hball : t.ball.Inside 50 50) (hslow : Slow t.ball.velocity) :
    (t.targetOut = true → t.targetGoal = false →
      (t.ballTick = { t with ball := { t.ball with xspeed := t.turned.1, yspeed := t.turned.2 } } ∧
        Table.PointsInto t.targetWalls t.ball.velocity) ∧
      ∀ t₂ : Table, t₂.ball = t.ballTick.ball →
        (t₂.isMainPc = true → t₂.puckAt t₂.target.1 t₂.target.2 = none) →
        (t₂.targetOut = false ∧ t₂.targetGoal = false) ∧
          t₂.ballTick = { t₂ with ball := { t₂.ball with
            x := t.ball.x + t.turned.1, y := t.ball.y - t.turned.2 } }) ∧
    (t.TargetPastEnd → t.move .ball t.ball.xspeed t.ball.yspeed 1 =
      { t.scored t.target.1 t.target.2 with ball := Table.centred t.ball }) := by
  constructor
  · intro hout hgoal
    have htick := Table.ballTick_of_out hball hslow hgoal hout
    refine ⟨⟨htick, Table.pointsInto hball⟩, ?_⟩
    intro t₂ heq hpuck
    apply Table.ballTick_turned hball hslow hgoal (Table.moving_of_out hball hout) ?_ hpuck
    rw [heq, htick]
  · intro hpast
    exact Table.move_of_goal hslow (Table.targetGoal_iff.mpr hpast)

/-- The ball in the upper left, on its way to the left wall. -/
def nearLeftWall : Table :=
  let table := (init Setup.standard).table
  { table with ball := { table.ball with x := 275, y := 100, xspeed := -5, yspeed := 3 } }

theorem walls_turn_ball_left :
    nearLeftWall.ballTick.ball.velocity = (5, 3) ∧
      nearLeftWall.ballTick.ballTick.ball.place = (280, 97) := by
  have hball : nearLeftWall.ball.Inside 50 50 := by
    refine ⟨rfl, rfl, ?_, ?_, ?_, ?_⟩ <;> decide
  have hturned : nearLeftWall.turned = (5, 3) := by decide
  obtain ⟨⟨htick, -⟩, hnext⟩ :=
    (walls_turn_ball hball (by unfold Slow; decide)).1 (by decide) (by decide)
  -- no puck is in the way, on the table of the example
  obtain ⟨-, hnext⟩ := hnext _ rfl (by rw [htick]; decide +kernel)
  rw [hnext, htick, hturned]
  exact ⟨rfl, rfl⟩

end AirHockey
