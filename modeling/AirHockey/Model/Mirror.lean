import AirHockey.Model.Flight
import AirHockey.Model.Pucks
import AirHockey.Model.Standard

/-! # The ball on the other side of the table

The two players face each other: what one PC calls the place `(x, y)` of the ball the other one is
to call `(1100 - x, 820 - y)`, the image under the point reflection that leaves the ball's spot
alone. Only velocities are sent, and each PC moves the ball by itself.

`Flight.Mirrors` is the relation between the two balls, and `Flight.Mirrors.advance` the main
result: one move of each keeps it, where the table looks the same from both sides. `CourtAgrees`
says where that is, in numbers; the tests of the code are turned into these numbers first
(`topGoal_iff`, `bottomGoal_iff`, `wallInfo_eq`), so that the comparison is left to `omega`. -/

namespace AirHockey

/-! ## One move of the ball -/

/-- `g` is the image of `f`. -/
structure Flight.Mirrors (f g : Flight) : Prop where
  x : g.ball.x = 1100 - f.ball.x
  y : g.ball.y = 820 - f.ball.y
  xspeed : g.ball.xspeed = -f.ball.xspeed
  yspeed : g.ball.yspeed = -f.ball.yspeed
  player1 : g.player1Score = f.player2Score
  player2 : g.player2Score = f.player1Score

instance (f g : Flight) : Decidable (f.Mirrors g) :=
  decidable_of_iff (_ ∧ _ ∧ _ ∧ _ ∧ _ ∧ _)
    ⟨fun h => ⟨h.1, h.2.1, h.2.2.1, h.2.2.2.1, h.2.2.2.2.1, h.2.2.2.2.2⟩,
      fun h => ⟨h.x, h.y, h.xspeed, h.yspeed, h.player1, h.player2⟩⟩

/-- At `(newX, newY)` a goal or a wall is found from both sides, or from none. The spot is not the
middle of the table: the walls are at 273 and 829, and their images at 271 and 827; the upper wall
is at 21, and the image of the lower one at 27. -/
def CourtAgrees (newX newY : Int) : Prop :=
  ((476 ≤ newX ∧ newX ≤ 626 ∧ newY ≤ 21) ↔ (474 ≤ newX ∧ newX ≤ 624 ∧ newY ≤ 27)) ∧
  ((476 ≤ newX ∧ newX ≤ 626 ∧ 793 ≤ newY) ↔ (474 ≤ newX ∧ newX ≤ 624 ∧ 799 ≤ newY)) ∧
  (476 ≤ newX ∧ newX ≤ 626 ∧ (newY ≤ 21 ∨ 793 ≤ newY) ∨
    ((newX < 273 ↔ newX < 271) ∧ (829 < newX ↔ 827 < newX)) ∧
      (newY < 21 ↔ newY < 27) ∧ (793 < newY ↔ 799 < newY))

instance (newX newY : Int) : Decidable (CourtAgrees newX newY) :=
  inferInstanceAs (Decidable (_ ∧ _))

/-- A ball is 50 wide and 50 high. -/
def Sprite.IsBall (s : Sprite) : Prop := s.width = 50 ∧ s.height = 50

section

variable {s : Sprite} (hs : s.IsBall) (newX newY : Int)
include hs

theorem topGoal_iff : topGoal s newX newY = true ↔ 476 ≤ newX ∧ newX ≤ 626 ∧ newY ≤ 21 := by
  simp only [topGoal, inGoalMouth, Bool.and_eq_true, decide_eq_true_eq, hs.1]
  unfold leftPost rightPost verticalStart
  omega

theorem bottomGoal_iff : bottomGoal s newX newY = true ↔ 476 ≤ newX ∧ newX ≤ 626 ∧ 793 ≤ newY := by
  simp only [bottomGoal, inGoalMouth, Bool.and_eq_true, decide_eq_true_eq, hs.1, hs.2]
  unfold leftPost rightPost verticalEnd
  omega

theorem wallInfo_eq : wallInfo s newX newY =
    ⟨newY < 21, 829 < newX, 793 < newY, newX < 273⟩ := by
  unfold wallInfo
  rw [hs.1, hs.2]
  unfold horizontalStart horizontalEnd verticalStart verticalEnd
  congr 1 <;> simp only [decide_eq_decide] <;> omega

end

/-- A wall behind the ball in one axis turns it back in this axis. -/
theorem reflect_eq (info : Walls) (s : Sprite) : reflect info s =
    { s with
      xspeed := s.xspeed * (if info.right then -1 else 1) * (if info.left then -1 else 1)
      yspeed := s.yspeed * (if info.top then -1 else 1) * (if info.bottom then -1 else 1) } := by
  -- sixteen combinations; two opposite walls turn the ball twice
  obtain ⟨top, right, bottom, left⟩ := info
  unfold reflect
  cases top <;> cases right <;> cases bottom <;> cases left <;> simp

/-- The walls as the other player sees them. -/
def Walls.turned (info : Walls) : Walls := ⟨info.bottom, info.left, info.top, info.right⟩

/-- The tests for goals and walls, from the other side. -/
theorem CourtAgrees.tests {s s' : Sprite} (hs : s.IsBall) (hs' : s'.IsBall) {newX newY : Int}
    (h : CourtAgrees newX newY) :
    topGoal s' (1100 - newX) (820 - newY) = bottomGoal s newX newY ∧
    bottomGoal s' (1100 - newX) (820 - newY) = topGoal s newX newY ∧
    (topGoal s newX newY = false → bottomGoal s newX newY = false →
      wallInfo s' (1100 - newX) (820 - newY) = (wallInfo s newX newY).turned) := by
  obtain ⟨hupper, hlower, hwalls⟩ := h
  -- the upper goal of the one is the lower goal of the other
  refine ⟨?_, ?_, fun htop hbottom => ?_⟩
  · rw [Bool.eq_iff_iff, topGoal_iff hs', bottomGoal_iff hs]
    omega
  · rw [Bool.eq_iff_iff, bottomGoal_iff hs', topGoal_iff hs]
    omega
  -- where neither is a goal, the third part of `CourtAgrees` is about the walls
  · have hnotop : ¬(476 ≤ newX ∧ newX ≤ 626 ∧ newY ≤ 21) := by
      rw [← topGoal_iff hs, htop]
      exact Bool.false_ne_true
    have hnobottom : ¬(476 ≤ newX ∧ newX ≤ 626 ∧ 793 ≤ newY) := by
      rw [← bottomGoal_iff hs, hbottom]
      exact Bool.false_ne_true
    rw [wallInfo_eq hs, wallInfo_eq hs', Walls.turned]
    congr 1 <;> simp only [decide_eq_decide] <;> omega

theorem detectWallCollision_turned {s s' : Sprite} {newX newY newX' newY' : Int}
    (h : wallInfo s' newX' newY' = (wallInfo s newX newY).turned) :
    detectWallCollision s' newX' newY' = detectWallCollision s newX newY := by
  unfold detectWallCollision
  rw [h]
  unfold Walls.turned
  grind

/-- A ball and its image are turned back alike. -/
theorem reflect_turned {s s' : Sprite} (hx : s'.xspeed = -s.xspeed) (hy : s'.yspeed = -s.yspeed)
    (info : Walls) : (reflect info.turned s').xspeed = -(reflect info s).xspeed ∧
      (reflect info.turned s').yspeed = -(reflect info s).yspeed := by
  rw [reflect_eq, reflect_eq]
  unfold Walls.turned
  dsimp only
  rw [hx, hy]
  grind

/-- **A moving ball and its image move alike**, where the two sides of the table agree. -/
theorem Flight.Mirrors.advance_moving {f g : Flight} (h : f.Mirrors g) (hf : f.ball.IsBall)
    (hg : g.ball.IsBall) {x y : Int} (hx : int16 f.ball.xspeed = x) (hy : int16 f.ball.yspeed = y)
    (hx' : int16 g.ball.xspeed = -x) (hy' : int16 g.ball.yspeed = -y)
    (hcourt : CourtAgrees (f.ball.x + x) (f.ball.y - y))
    (hmoving : f.ball.xspeed ≠ 0 ∨ f.ball.yspeed ≠ 0)
    (hmoving' : g.ball.xspeed ≠ 0 ∨ g.ball.yspeed ≠ 0) : f.advance.Mirrors g.advance := by
  have hnewX : 1100 - f.ball.x + -x = 1100 - (f.ball.x + x) := by omega
  have hnewY : 820 - f.ball.y - -y = 820 - (f.ball.y - y) := by omega
  obtain ⟨htop, hbottom, hwalls⟩ := hcourt.tests hf hg
  unfold Flight.advance
  rw [if_pos hmoving, if_pos hmoving']
  dsimp only
  rw [hx, hy, hx', hy', h.x, h.y, hnewX, hnewY, htop, hbottom]
  generalize f.ball.x + x = newX at hwalls ⊢
  generalize f.ball.y - y = newY at hwalls ⊢
  -- a goal for both, for neither; each player's goal is the other's loss
  by_cases hgoal : topGoal f.ball newX newY = true ∨ bottomGoal f.ball newX newY = true
  · rw [if_pos hgoal, if_pos (Or.symm hgoal)]
    refine ⟨rfl, rfl, rfl, rfl, ?_, ?_⟩
    · show g.player1Score + _ = f.player2Score + _
      rw [h.player1]
    · show g.player2Score + _ = f.player1Score + _
      rw [h.player2]
  · rw [if_neg hgoal, if_neg (fun hgoal' => hgoal (Or.symm hgoal'))]
    rw [not_or, Bool.not_eq_true, Bool.not_eq_true] at hgoal
    have hinfo := hwalls hgoal.1 hgoal.2
    rw [detectWallCollision_turned hinfo, hinfo]
    by_cases hwall : detectWallCollision f.ball newX newY = true
    · rw [if_pos hwall, if_pos hwall]
      obtain ⟨hxspeed, hyspeed⟩ := reflect_turned h.xspeed h.yspeed (wallInfo f.ball newX newY)
      refine ⟨?_, ?_, hxspeed, hyspeed, h.player1, h.player2⟩
      · rw [reflect_eq, reflect_eq]
        exact h.x
      · rw [reflect_eq, reflect_eq]
        exact h.y
    · rw [if_neg hwall, if_neg hwall]
      refine ⟨?_, ?_, rfl, rfl, h.player1, h.player2⟩
      · show g.ball.x + -x = 1100 - (f.ball.x + x)
        rw [h.x, hnewX]
      · show g.ball.y - -y = 820 - (f.ball.y - y)
        rw [h.y, hnewY]

/-- **The move commutes with the reflection**, where the two sides of the table agree. -/
theorem Flight.Mirrors.advance {f g : Flight} (h : f.Mirrors g) (hf : f.ball.IsBall)
    (hg : g.ball.IsBall) (hslow : Slow f.ball.velocity)
    (hcourt : f.ball.xspeed ≠ 0 ∨ f.ball.yspeed ≠ 0 →
      CourtAgrees (f.ball.x + f.ball.xspeed) (f.ball.y - f.ball.yspeed)) :
    f.advance.Mirrors g.advance := by
  obtain ⟨hx, hx', hy, hy'⟩ := hslow
  dsimp only [Sprite.velocity] at hx hx' hy hy'
  by_cases hmoving : f.ball.xspeed ≠ 0 ∨ f.ball.yspeed ≠ 0
  · refine h.advance_moving hf hg (int16_of_range (by omega) (by omega))
      (int16_of_range (by omega) (by omega)) ?_ ?_ (hcourt hmoving) hmoving ?_
    -- slow velocities pass through `int16_t` unchanged, and so do their negations
    · rw [h.xspeed, int16_of_range (by omega) (by omega)]
    · rw [h.yspeed, int16_of_range (by omega) (by omega)]
    · rw [h.xspeed, h.yspeed]
      omega
  · have hmoving' : ¬(g.ball.xspeed ≠ 0 ∨ g.ball.yspeed ≠ 0) := by
      rw [h.xspeed, h.yspeed]
      omega
    unfold Flight.advance
    rw [if_neg hmoving, if_neg hmoving']
    exact h

end AirHockey
