import AirHockey.Model.Confinement

/-! # What goes over the line

What each handler tells the other PC, on a serial port that accepts every write. The physics
speaks about the ball only; a tick may also tell where the puck has gone, and two keys send the
start/leave word.

`Table.Struck` is what happens to ball and line between two ticks: a list of velocities, each
given to the ball and announced. It composes (`Struck.trans`), and every handler but the timer's
is shown to be one (`move_puck_struck`, `actOnPacket_struck`, `mouseInt_struck`). `timerInt_game`
does the same for a tick, which comes to the puck first and to the ball last. -/

namespace AirHockey

namespace Transmitter

/-- The transmitter after messages have been written whole. -/
def tell (t : Transmitter) (ms : List Message) : Transmitter :=
  { t with sent := t.sent ++ encode ms, history := t.history ++ ms }

@[simp] theorem tell_nil (t : Transmitter) : t.tell [] = t := by
  simp [tell]

@[simp] theorem tell_tell (t : Transmitter) (ms ns : List Message) :
    (t.tell ms).tell ns = t.tell (ms ++ ns) := by
  simp [tell, List.append_assoc]

theorem transmitBallSpeed_tell {t : Transmitter} (h : t.slots = []) (xSpeed ySpeed : Int) :
    t.transmitBallSpeed xSpeed ySpeed = t.tell [.ball xSpeed ySpeed] := by
  rw [transmitBallSpeed_idle h]
  simp [tell]

theorem sendSignal_tell {t : Transmitter} (h : t.slots = []) :
    (t.note .signal).sendSignal signal1 = t.tell [.signal] := by
  have hnote : (t.note .signal).slots = [] := h
  rw [sendSignal_idle hnote]
  rfl

theorem transmitPuckChange_tell {t : Transmitter} (h : t.slots = []) {bluepuck : Sprite}
    {previousX previousY : Int} (hmoved : ¬(bluepuck.x = previousX ∧ bluepuck.y = previousY)) :
    t.transmitPuckChange bluepuck previousX previousY =
      (t.tell [.puck (int16 (bluepuck.x - previousX)) (int16 (bluepuck.y - previousY))],
        bluepuck.x, bluepuck.y) := by
  rw [transmitPuckChange_idle h hmoved]
  simp [tell]

end Transmitter

/-! ## The ball's velocity -/

/-- No component exceeds `MAX_VELOCITY`. -/
def Slow (v : Int × Int) : Prop := -8 ≤ v.1 ∧ v.1 ≤ 8 ∧ -8 ≤ v.2 ∧ v.2 ≤ 8

namespace Sprite

def velocity (s : Sprite) : Int × Int := (s.xspeed, s.yspeed)

def place (s : Sprite) : Int × Int := (s.x, s.y)

/-- The sprite after it has been given one velocity after the other. -/
def struck (s : Sprite) (vs : List (Int × Int)) : Sprite :=
  vs.foldl (fun s v => { s with xspeed := v.1, yspeed := v.2 }) s

@[simp] theorem struck_nil (s : Sprite) : s.struck [] = s := rfl

theorem struck_append (s : Sprite) (vs ws : List (Int × Int)) :
    s.struck (vs ++ ws) = (s.struck vs).struck ws := List.foldl_append

theorem velocity_struck {s : Sprite} {vs : List (Int × Int)} (hs : Slow s.velocity)
    (hvs : ∀ v ∈ vs, Slow v) : Slow (s.struck vs).velocity := by
  induction vs generalizing s with
  | nil => exact hs
  | cons v vs ih =>
      exact ih (s := { s with xspeed := v.1, yspeed := v.2 }) (hvs v List.mem_cons_self)
        fun w hw => hvs w (List.mem_cons_of_mem _ hw)

end Sprite

theorem normalizeSpeed_slow (s : Sprite) : Slow (normalizeSpeed s).velocity := by
  have hclamp : ∀ v, -8 ≤ clampSpeed v ∧ clampSpeed v ≤ 8 := by
    intro v
    unfold clampSpeed maxVelocity
    dsimp only
    -- cut down from above and from below
    split <;> split <;> omega
  obtain ⟨hx, hx'⟩ := hclamp s.xspeed
  obtain ⟨hy, hy'⟩ := hclamp s.yspeed
  exact ⟨hx, hx', hy, hy'⟩

/-- What is announced of a new velocity. -/
def ballMessages (vs : List (Int × Int)) : List Message := vs.map fun v => .ball v.1 v.2

/-! ## Strokes -/

/-- Between two ticks the ball stays where it is. Its velocity may change, any number of times; the
main PC announces each of them, and the other one makes none. -/
structure Table.Struck (t t' : Table) (vs : List (Int × Int)) : Prop where
  tx : t'.tx = t.tx.tell (ballMessages vs)
  ball : t'.ball = t.ball.struck vs
  slow : ∀ v ∈ vs, Slow v
  main : t.isMainPc = false → vs = []
  role : t'.isMainPc = t.isMainPc
  scores : t'.player1Score = t.player1Score ∧ t'.player2Score = t.player2Score
  bytesPerPixel : t'.bytesPerPixel = t.bytesPerPixel

namespace Table.Struck

variable {t u v : Table} {vs ws : List (Int × Int)}

/-- What touches neither the ball nor the line. -/
theorem of_eq (htx : t'.tx = t.tx) (hball : t'.ball = t.ball) (hrole : t'.isMainPc = t.isMainPc)
    (h₁ : t'.player1Score = t.player1Score) (h₂ : t'.player2Score = t.player2Score)
    (hbpp : t'.bytesPerPixel = t.bytesPerPixel) : Struck t t' [] where
  tx := htx.trans (Transmitter.tell_nil _).symm
  ball := hball
  slow := by simp
  main _ := rfl
  role := hrole
  scores := ⟨h₁, h₂⟩
  bytesPerPixel := hbpp

theorem trans (h : Struck t u vs) (h' : Struck u v ws) : Struck t v (vs ++ ws) where
  tx := by rw [h'.tx, h.tx, Transmitter.tell_tell, ballMessages, ballMessages, ballMessages,
    List.map_append]
  ball := by rw [h'.ball, h.ball, Sprite.struck_append]
  slow w hw := (List.mem_append.mp hw).elim (h.slow w) (h'.slow w)
  main hm := by rw [h.main hm, h'.main (h.role.trans hm), List.append_nil]
  role := h'.role.trans h.role
  scores := ⟨h'.scores.1.trans h.scores.1, h'.scores.2.trans h.scores.2⟩
  bytesPerPixel := h'.bytesPerPixel.trans h.bytesPerPixel

end Table.Struck

namespace Table

theorem move_mouse_struck (t : Table) (x y : Int) : Struck t (t.move .mouse x y 0) [] := by
  generalize ht' : t.move .mouse x y 0 = t'
  cases move_mouse ht' with
  | wall _ => exact .of_eq rfl rfl rfl rfl rfl rfl
  | free _ => exact .of_eq rfl rfl rfl rfl rfl rfl

/-- A puck that runs into the ball gives it its own velocity, cut down. -/
theorem move_puck_struck {t : Table} (hidle : t.tx.slots = []) {o : Object}
    (ho : o = .redpuck ∨ o = .bluepuck) (x y : Int) : ∃ vs, Struck t (t.move o x y 2) vs := by
  have hne : o ≠ .ball := by
    rcases ho with rfl | rfl <;> decide
  have hset : ∀ sprite, Struck t (t.set o sprite) [] := by
    intro sprite
    rcases ho with rfl | rfl <;> exact .of_eq rfl rfl rfl rfl rfl rfl
  generalize ht' : t.move o x y 2 = t'
  cases move_puck hne ht' with
  | wall _ => exact ⟨[], hset _⟩
  | middle _ _ => exact ⟨[], hset _⟩
  | free _ _ _ => exact ⟨[], hset _⟩
  -- only the main PC comes here, and it announces what the ball has got
  | hit _ _ hmain _ =>
      let ball := normalizeSpeed
        { t.ball with xspeed := (t.get o).xspeed, yspeed := (t.get o).yspeed }
      refine ⟨[ball.velocity], ?_, rfl, ?_, ?_, rfl, ⟨rfl, rfl⟩, rfl⟩
      · exact Transmitter.transmitBallSpeed_tell hidle ball.xspeed ball.yspeed
      · intro v hv
        obtain rfl := List.mem_singleton.mp hv
        exact normalizeSpeed_slow _
      · intro hother
        rw [hmain] at hother
        cases hother

end Table

namespace Pc

/-- A packet of the mouse moves the cursor and perhaps the blue puck. -/
theorem actOnPacket_struck {t : Table} (hidle : t.tx.slots = []) (parsing : Packet) :
    ∃ vs, Table.Struck t (actOnPacket parsing t) vs := by
  have hupdate : Table.Struck t (mouseUpdate parsing t) [] := by
    unfold mouseUpdate
    split
    · exact .of_eq rfl rfl rfl rfl rfl rfl
    · exact Table.move_mouse_struck t _ _
  have hidle' : (mouseUpdate parsing t).tx.slots = [] := by
    rw [hupdate.tx]
    exact hidle
  -- the cursor first, and the puck only while the button is held
  unfold actOnPacket
  dsimp only
  split
  · obtain ⟨vs, hvs⟩ := Table.move_puck_struck hidle' (.inr rfl) parsing.deltaX parsing.deltaY
    exact ⟨_, (hupdate.trans hvs).trans (.of_eq rfl rfl rfl rfl rfl rfl)⟩
  · exact ⟨_, hupdate.trans (.of_eq rfl rfl rfl rfl rfl rfl)⟩

theorem mouseInt_struck {s : Pc} (hidle : s.table.tx.slots = []) (reads : List KbcRead) :
    ∃ vs, Table.Struck s.table (s.mouseInt reads).table vs := by
  rcases mouseInt_table reads s with heq | ⟨packet, heq⟩
  · rw [heq]
    exact ⟨[], .of_eq rfl rfl rfl rfl rfl rfl⟩
  · rw [heq]
    exact actOnPacket_struck hidle _

end Pc

/-! ## Ticks -/

namespace Table

/-- A ball within the speed limit comes off a puck within it. -/
theorem bounced_slow {ball : Sprite} (h : Slow ball.velocity) (other : Sprite) :
    Slow (bounced ball other).velocity := by
  unfold bounced
  split
  · unfold Slow Sprite.velocity at h
    show -8 ≤ ball.xspeed * -1 ∧ ball.xspeed * -1 ≤ 8 ∧ -8 ≤ ball.yspeed * -1 ∧
      ball.yspeed * -1 ≤ 8
    omega
  · exact normalizeSpeed_slow _

/-- A move of the ball with its own velocity keeps to the limit. -/
theorem move_ball_slow {t : Table} {x y : Int} (h : Slow t.ball.velocity) (hxy : Slow (x, y)) :
    Slow (t.move .ball x y 1).ball.velocity := by
  generalize ht' : t.move .ball x y 1 = t'
  -- at rest in the middle, turned back, off a puck, or with the velocity of the move itself
  cases move_ball ht' with
  | goal _ => simp [Slow, centred, Sprite.velocity]
  | wall _ _ _ =>
      obtain ⟨top, right, bottom, left⟩ := wallInfo t.ball (t.ball.x + int16 x) (t.ball.y - int16 y)
      unfold Slow Sprite.velocity at h ⊢
      cases top <;> cases right <;> cases bottom <;> cases left <;>
        simp only [reflect, if_true, if_false, Bool.false_eq_true] <;> omega
  | bounce o _ _ _ _ _ =>
      rw [bounceOff_ball]
      exact bounced_slow h (t.get o)
  | free _ _ _ _ =>
      unfold Slow at hxy
      rw [int16_of_range (by omega) (by omega), int16_of_range (by omega) (by omega)]
      exact hxy

/-- What a move of the ball tells: the velocity with which it comes off a puck. -/
theorem move_ball_line {t : Table} (hidle : t.tx.slots = []) (x y : Int) :
    ∃ vs, (t.move .ball x y 1).tx = t.tx.tell (ballMessages vs) ∧
      (Slow t.ball.velocity → ∀ v ∈ vs, Slow v) := by
  generalize ht' : t.move .ball x y 1 = t'
  cases move_ball ht' with
  | goal _ | wall _ _ _ | free _ _ _ _ =>
      exact ⟨[], (Transmitter.tell_nil _).symm, fun _ => by simp⟩
  | bounce o _ _ _ _ _ =>
      rw [bounceOff_ball]
      refine ⟨[(bounced t.ball (t.get o)).velocity],
        Transmitter.transmitBallSpeed_tell hidle _ _, fun hslow => ?_⟩
      simpa using bounced_slow hslow (t.get o)

end Table

namespace Pc

/-- What a tick tells of the puck, if anything: how far it has come since the last time. -/
inductive PuckTold (s s' : Pc) : List Message → Prop where
  | silent (hx : s'.previousX = s.previousX) (hy : s'.previousY = s.previousY) : PuckTold s s' []
  | told (hx : s'.previousX = s.table.bluepuck.x) (hy : s'.previousY = s.table.bluepuck.y)
      (hdue : (s.puckTransmit + 1) % 2 ^ 32 = 2) :
      PuckTold s s' [.puck (int16 (s.table.bluepuck.x - s.previousX))
        (int16 (s.table.bluepuck.y - s.previousY))]

theorem puckTick_line {s : Pc} (hidle : s.table.tx.slots = []) :
    ∃ ds, PuckTold s s.puckTick ds ∧
      s.puckTick.table = { s.table with tx := s.table.tx.tell ds } ∧
      s.puckTick.mainState = s.mainState ∧ s.puckTick.applied = s.applied := by
  unfold puckTick
  dsimp only
  split
  -- the puck is told where it has gone, if it has gone anywhere
  · next hdue =>
      by_cases hmoved : s.table.bluepuck.x = s.previousX ∧ s.table.bluepuck.y = s.previousY
      · refine ⟨[], ?_⟩
        simp only [transmitPuckChange, Transmitter.transmitPuckChange, if_pos hmoved,
          Transmitter.tell_nil, and_true]
        exact .silent rfl rfl
      · refine ⟨[.puck (int16 (s.table.bluepuck.x - s.previousX))
          (int16 (s.table.bluepuck.y - s.previousY))], ?_⟩
        simp only [transmitPuckChange, Transmitter.transmitPuckChange_tell hidle hmoved, and_true]
        exact .told rfl rfl hdue
  · exact ⟨[], .silent rfl rfl, by rw [Transmitter.tell_nil], rfl, rfl⟩

/-- **A tick during a game.** -/
structure Tick (s s' : Pc) (ds : List Message) (vs : List (Int × Int)) : Prop where
  told : PuckTold s s' ds
  tx : s'.table.tx = s.table.tx.tell (ds ++ ballMessages vs)
  slow : Slow s.table.ball.velocity → Slow s'.table.ball.velocity ∧ ∀ v ∈ vs, Slow v
  redpuck : s'.table.redpuck = s.table.redpuck
  bluepuck : s'.table.bluepuck = s.table.bluepuck
  role : s'.table.isMainPc = s.table.isMainPc
  mode : s'.mainState = .game ∨ s'.ShowsResult
  receiver : s'.receiver = s.receiver
  applied : s'.applied = s.applied

theorem timerInt_game {s : Pc} (hidle : s.table.tx.slots = []) (hgame : s.mainState = .game) :
    ∃ ds vs, s.Tick s.timerInt ds vs := by
  have hint := timerInt_of_game hgame
  obtain ⟨ds, htold, htable, hmode, happlied⟩ := puckTick_line (s := s.timerIntHandler) hidle
  obtain ⟨mode, remaining, hclock, hresult⟩ := clockTick_frame s.timerIntHandler.puckTick
  have hmode' : mode = .game ∨ mode = .win ∨ mode = .lost ∨ mode = .tie := by
    rwa [hmode, show s.timerIntHandler.mainState = .game from hgame] at hresult
  have hreceiver := (timerInt_frame s).1
  rw [hint, hclock] at hreceiver ⊢
  rw [show s.timerIntHandler.table = s.table from rfl] at htable
  -- the part of the tick before the ball moves
  generalize hu : ({ s.timerIntHandler.puckTick with
    mainState := mode, timeRemaining := remaining } : Pc) = u at hreceiver ⊢
  have hutable : u.table = { s.table with tx := s.table.tx.tell ds } := by
    rw [← hu]
    exact htable
  have hutold : PuckTold s u ds := by
    rw [← hu]
    cases htold with
    | silent hx hy => exact .silent hx hy
    | told hx hy hdue => exact .told hx hy hdue
  have humode : u.mainState = .game ∨ u.ShowsResult := by
    rw [← hu]
    exact hmode'
  have huapplied : u.applied = s.applied := by
    rw [← hu]
    exact happlied
  -- what the ball tells comes after what has been told of the puck
  unfold ballTick at hreceiver ⊢
  split at hreceiver
  · next hmoving =>
      rw [if_pos hmoving]
      have huidle : u.table.tx.slots = [] := by
        rw [hutable]
        exact hidle
      obtain ⟨vs, htx, hslow⟩ :=
        Table.move_ball_line huidle u.table.ball.xspeed u.table.ball.yspeed
      have hred : (u.table.move .ball u.table.ball.xspeed u.table.ball.yspeed 1).redpuck =
          u.table.redpuck := Table.get_move_ball (by decide : Object.redpuck ≠ .ball) _ _ _
      have hblue : (u.table.move .ball u.table.ball.xspeed u.table.ball.yspeed 1).bluepuck =
          u.table.bluepuck := Table.get_move_ball (by decide : Object.bluepuck ≠ .ball) _ _ _
      have hrole := Table.role_move_ball u.table u.table.ball.xspeed u.table.ball.yspeed
      refine ⟨ds, vs, ?_, ?_, fun hs => ?_, ?_, ?_, ?_, humode, hreceiver, huapplied⟩
      · cases hutold with
        | silent hx hy => exact .silent hx hy
        | told hx hy hdue => exact .told hx hy hdue
      · show (u.table.move .ball _ _ 1).tx = _
        rw [htx, hutable, Transmitter.tell_tell]
      · have hs' : Slow u.table.ball.velocity := by
          rw [hutable]
          exact hs
        exact ⟨Table.move_ball_slow hs' hs', hslow hs'⟩
      · exact hred.trans (by rw [hutable])
      · exact hblue.trans (by rw [hutable])
      · exact hrole.trans (by rw [hutable])
  -- a ball at rest tells nothing
  · next hrest =>
      rw [if_neg hrest]
      refine ⟨ds, [], hutold, ?_, fun hs => ?_, ?_, ?_, ?_, humode, hreceiver, huapplied⟩
      · rw [hutable, ballMessages, List.map_nil, List.append_nil]
      · rw [hutable]
        exact ⟨hs, by simp⟩
      all_goals rw [hutable]

end Pc

end AirHockey
