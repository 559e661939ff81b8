import AirHockey.Model.Moves
import AirHockey.Model.Standard
import AirHockey.Model.Steps

/-! # Scores and the end of a game

Goals are counted whenever the ball moves; the end of the game is tested once a second, before the
ball moves in the same tick. Two laws follow in their exact form: when a game is decided at three
goals, and when the verdict that is shown matches the score.

`timerInt_score` says what one tick of a game does to the mode and to the scores, and `step_score`
that no other step scores. From these, `decided_step` and `verdict_step` tell for one step exactly
when it keeps the property, and the library's rule for exact guards makes of each an equivalence
about whole runs: `decided_iff` and `verdict_iff`. `decided_fails` and `verdict_fails` are runs in
which they fail. -/

namespace AirHockey

namespace Table

/-- Both scores, player 1 first. -/
def scores (t : Table) : Int × Int := (t.player1Score, t.player2Score)

/-- Does the ball, with its present velocity, go into the upper goal with its next move? -/
def scoresTop (t : Table) : Bool :=
  (t.ball.xspeed ≠ 0 ∨ t.ball.yspeed ≠ 0) &&
    topGoal t.ball (t.ball.x + int16 t.ball.xspeed) (t.ball.y - int16 t.ball.yspeed)

/-- … into the lower goal? -/
def scoresBottom (t : Table) : Bool :=
  (t.ball.xspeed ≠ 0 ∨ t.ball.yspeed ≠ 0) &&
    bottomGoal t.ball (t.ball.x + int16 t.ball.xspeed) (t.ball.y - int16 t.ball.yspeed)

/-! ## What leaves the scores alone -/

theorem scores_move_mouse (t : Table) (x y : Int) : (t.move .mouse x y 0).scores = t.scores := by
  generalize ht' : t.move .mouse x y 0 = t'
  cases Table.move_mouse ht' with
  | wall _ => rfl
  | free _ => rfl

theorem scores_set (t : Table) (o : Object) (sprite : Sprite) :
    (t.set o sprite).scores = t.scores := by
  cases o <;> rfl

theorem scores_move_puck {o : Object} (ho : o ≠ .ball) (t : Table) (x y : Int) :
    (t.move o x y 2).scores = t.scores := by
  generalize ht' : t.move o x y 2 = t'
  cases Table.move_puck ho ht' with
  | wall _ => exact scores_set t o _
  | middle _ _ => exact scores_set t o _
  | hit _ _ _ _ => rfl
  | free _ _ _ => exact scores_set t o _

/-- A move of the ball counts the goal it runs into. -/
theorem scores_move_ball (t : Table) (x y : Int) :
    (t.move .ball x y 1).scores =
      (t.player1Score +
          if bottomGoal t.ball (t.ball.x + int16 x) (t.ball.y - int16 y) then 1 else 0,
        t.player2Score +
          if topGoal t.ball (t.ball.x + int16 x) (t.ball.y - int16 y) then 1 else 0) := by
  generalize ht' : t.move .ball x y 1 = t'
  cases Table.move_ball ht' with
  | goal _ => rfl
  | wall htop hbottom _ => simp [scores, htop, hbottom]
  | bounce o htop hbottom _ _ _ =>
      rw [bounceOff_ball]
      simp [scores, htop, hbottom]
  | free htop hbottom _ _ => simp [scores, htop, hbottom]

end Table

namespace Pc

theorem scores_actOnPacket (parsing : Packet) (t : Table) :
    (actOnPacket parsing t).scores = t.scores := by
  have hupdate : (mouseUpdate parsing t).scores = t.scores := by
    unfold mouseUpdate
    split
    · rfl
    · exact Table.scores_move_mouse t _ _
  unfold actOnPacket
  dsimp only
  -- a packet moves the cursor and perhaps a puck, never the ball
  split
  · exact (Table.scores_move_puck (by decide) _ _ _).trans hupdate
  · exact hupdate

theorem mainState_applyPayload (tempX : Nat) (s : Pc) :
    (s.applyPayload tempX).mainState = s.mainState := by
  unfold applyPayload
  split
  · rfl
  · split <;> rfl

/-! ## One step -/

/-- What a step does to the scores, unless it is a tick of a game. -/
inductive ScoreStep (s s' : Pc) : Prop where
  | same (hscores : s'.table.scores = s.table.scores) (hmode : s'.mainState = s.mainState)
  | left (hscores : s'.table.scores = s.table.scores) (hmode : s'.mainState ≠ .game)
      (hresult : ¬s'.ShowsResult)
  | fresh (hscores : s'.table.scores = (0, 0)) (hresult : ¬s'.ShowsResult)

theorem not_showsResult {s : Pc} {m : MainState} (h : s.mainState = m)
    (hm : m ≠ .win ∧ m ≠ .lost ∧ m ≠ .tie) : ¬s.ShowsResult := by
  subst h
  rintro (h | h | h)
  · exact hm.1 h
  · exact hm.2.1 h
  · exact hm.2.2 h

theorem spInt_score (iir : Option UInt8) (s : Pc) : s.ScoreStep (s.spInt iir) := by
  unfold spInt
  split
  -- a message that moves the red puck does not score, either
  · unfold spMenu
    split
    · exact .same rfl rfl
    · dsimp only
      split
      · exact .fresh rfl (not_showsResult (m := .game) rfl (by decide))
      · exact .same rfl rfl
  · unfold spGame
    split
    · exact .same rfl rfl
    · dsimp only
      split
      · exact .left rfl (by simp) (not_showsResult (m := .mainMenu) rfl (by decide))
      · next tempX r _ _ =>
          have hmode := mainState_applyPayload tempX { s with receiver := r }
          rcases applyPayload_table tempX { s with receiver := r } with
            heq | ⟨_, _, heq⟩ | ⟨_, _, heq⟩
          · exact .same ((congrArg Table.scores heq).trans rfl) hmode
          · exact .same ((congrArg Table.scores heq).trans rfl) hmode
          · refine .same ?_ hmode
            rw [heq]
            exact Table.scores_move_puck (by decide) _ _ _
  · exact .same rfl rfl

theorem keyboardInt_score {reads : List KbcRead} {s s' : Pc} (h : s.keyboardInt reads = some s') :
    s.ScoreStep s' := by
  cases keyboardInt_step h with
  | stay hq hmode => exact .same (congrArg Table.scores hq.table) hmode
  | select hq _ hmode =>
      rcases hmode with hmode | hmode
      all_goals
        exact .left (congrArg Table.scores hq.table) (by simp [hmode])
          (not_showsResult hmode (by decide))
  | back hq _ hmode =>
      exact .left (congrArg Table.scores hq.table) (by simp [hmode])
        (not_showsResult hmode (by decide))
  | play hq _ hmode _ =>
      rcases hmode with hmode | ⟨hmode, -⟩
      all_goals
        exact .fresh (congrArg Table.scores hq.table) (not_showsResult hmode (by decide))
  | leave hq _ hmode _ =>
      exact .left ((congrArg Table.scores hq.table).trans rfl) (by simp [hmode])
        (not_showsResult hmode (by decide))
  | again _ _ hq _ hmode _ =>
      exact .fresh (congrArg Table.scores hq.table) (not_showsResult hmode (by decide))
  | quit hq _ hmode _ =>
      exact .left (congrArg Table.scores hq.table) (by simp [hmode])
        (not_showsResult hmode (by decide))

/-- **Only a tick of a game scores.** -/
theorem step_score {s s' : Pc} {i : Input} (h : s.step i = some s')
    (hi : ¬(i = .interrupt .timer ∧ s.mainState = .game)) : s.ScoreStep s' := by
  cases i with
  | arrive slots =>
      cases h
      exact .same rfl rfl
  | interrupt i =>
      cases i with
      | timer =>
          cases h
          have hmode : s.mainState ≠ .game := fun hmode => hi ⟨rfl, hmode⟩
          rw [timerInt_of_not_game hmode]
          exact .same rfl rfl
      | keyboard reads => exact keyboardInt_score h
      | mouse reads =>
          cases h
          refine .same ?_ (mouseInt_frame reads s).2.2
          rcases mouseInt_table reads s with heq | ⟨packet, heq⟩
          · rw [heq]
          · rw [heq]
            exact scores_actOnPacket _ _
      | serial iir =>
          cases h
          exact spInt_score iir s

/-! ## One tick of a game -/

/-- The tick is one of those on which the clock and the scores are tested. -/
def WholeSecond (s : Pc) : Prop := (s.timeCount + 1) % 2 ^ 32 % s.sysHz = 0

instance (s : Pc) : Decidable s.WholeSecond := inferInstanceAs (Decidable (_ = _))

/-- The mode after the test of the clock and the scores. -/
def testedMode (s : Pc) : MainState :=
  if s.timeRemaining > 0 then
    if s.table.player1Score = 3 then .lost
    else if s.table.player2Score = 3 then .win
    else .game
  else if s.table.player1Score = s.table.player2Score then .tie
  else if s.table.player1Score > s.table.player2Score then .lost
  else .win

theorem puckTick_frame (s : Pc) : s.puckTick.mainState = s.mainState ∧
    s.puckTick.timeCount = s.timeCount ∧ s.puckTick.timeRemaining = s.timeRemaining ∧
    s.puckTick.sysHz = s.sysHz := by
  unfold puckTick
  dsimp only
  split <;> exact ⟨rfl, rfl, rfl, rfl⟩

theorem mainState_clockTick {s : Pc} (hgame : s.mainState = .game) :
    s.clockTick.mainState = if s.timeCount % s.sysHz = 0 then s.testedMode else .game := by
  unfold clockTick testedMode
  -- on a whole second the mode is the tested one, with time left and without
  by_cases hsecond : s.timeCount % s.sysHz = 0
  · simp only [if_pos hsecond]
    by_cases htime : s.timeRemaining > 0
    · simp only [if_pos htime]
      split
      · rfl
      · split
        · rfl
        · exact hgame
    · simp only [if_neg htime]
      split
      · rfl
      · split
        · rfl
        · next hne hgt => rw [if_pos (by omega)]
  · simp only [if_neg hsecond]
    exact hgame

theorem mainState_ballTick (s : Pc) : s.ballTick.mainState = s.mainState := by
  unfold ballTick
  split <;> rfl

/-- **One tick of a game**: the mode is decided by the scores before the ball moves. -/
theorem timerInt_score {s : Pc} (hgame : s.mainState = .game) :
    s.timerInt.mainState = (if s.WholeSecond then s.testedMode else .game) ∧
    s.timerInt.table.scores =
      (s.table.player1Score + (if s.table.scoresBottom then 1 else 0),
        s.table.player2Score + if s.table.scoresTop then 1 else 0) := by
  have hstep := timerInt_of_game hgame
  -- the tick comes to the ball after the test, with the scores as they were
  obtain ⟨tx, htx⟩ := puckTick_table s.timerIntHandler
  obtain ⟨hmode, hcount, hremaining, hhz⟩ := puckTick_frame s.timerIntHandler
  have htable : s.timerIntHandler.puckTick.clockTick.table = { s.table with tx := tx } := by
    rw [clockTick_table, htx]
    rfl
  constructor
  · have htested : s.timerIntHandler.puckTick.testedMode = s.testedMode := by
      unfold testedMode
      rw [hremaining, htx]
      rfl
    rw [hstep, mainState_ballTick, mainState_clockTick (hmode.trans hgame), htested, hcount, hhz]
    rfl
  · rw [hstep, ballTick_table, htable]
    -- a ball at rest scores in neither goal
    by_cases hmoving : s.table.ball.xspeed ≠ 0 ∨ s.table.ball.yspeed ≠ 0
    · rw [if_pos hmoving, Table.scores_move_ball]
      simp only [Table.scoresTop, Table.scoresBottom, hmoving, decide_true, Bool.true_and]
    · rw [if_neg hmoving]
      simp [Table.scores, Table.scoresTop, Table.scoresBottom, hmoving]

/-- The tick ends the game. -/
def EndsGame (s : Pc) : Prop := s.mainState = .game ∧ s.WholeSecond ∧ s.testedMode ≠ .game

instance (s : Pc) : Decidable s.EndsGame := inferInstanceAs (Decidable (_ ∧ _))

theorem EndsGame.timerInt {s : Pc} (h : s.EndsGame) : s.timerInt.ShowsResult := by
  obtain ⟨hgame, hsecond, htested⟩ := h
  have hmode := (timerInt_score hgame).1
  rw [if_pos hsecond] at hmode
  unfold ShowsResult
  rw [hmode]
  unfold testedMode at htested ⊢
  grind

theorem timerInt_goesOn {s : Pc} (hgame : s.mainState = .game) :
    s.timerInt.mainState = .game ↔ ¬s.EndsGame := by
  constructor
  · intro hon hends
    have hresult := hends.timerInt
    unfold ShowsResult at hresult
    simp [hon] at hresult
  · intro hends
    rw [(timerInt_score hgame).1]
    split
    · next hsecond => exact by_contra fun htested => hends ⟨hgame, hsecond, htested⟩
    · rfl

end Pc

/-- The result that a test of the clock and the scores gives. -/
def verdict (time : Nat) (scores : Int × Int) : MainState :=
  if time > 0 then
    if scores.1 = 3 then .lost
    else if scores.2 = 3 then .win
    else .game
  else if scores.1 = scores.2 then .tie
  else if scores.1 > scores.2 then .lost
  else .win

theorem Pc.testedMode_eq (s : Pc) : s.testedMode = verdict s.timeRemaining s.table.scores := rfl

/-! ## Decided at three goals -/

/-- Neither score exceeds 3 during a game, and both always have a digit to be drawn with. -/
def Pc.Decided (s : Pc) : Prop :=
  (s.mainState = .game → s.table.player1Score ≤ 3 ∧ s.table.player2Score ≤ 3) ∧
    (0 ≤ s.table.player1Score ∧ s.table.player1Score < 10) ∧
    0 ≤ s.table.player2Score ∧ s.table.player2Score < 10

/-- The first whole-second tick after a score has reached 3 leaves the game. -/
def LeavesInTime (s : Pc) (i : Input) : Prop :=
  i = .interrupt .timer → s.mainState = .game → s.WholeSecond →
    3 ≤ s.table.player1Score ∨ 3 ≤ s.table.player2Score →
    ∀ s', s.step i = some s' → s'.mainState ≠ .game

/-- No goal is scored for a player who has three already, on a tick that does not test the
scores. -/
def NoFourthGoal (s : Pc) (i : Input) : Prop :=
  i = .interrupt .timer → s.mainState = .game → ¬s.WholeSecond →
    (s.table.player1Score = 3 → s.table.scoresBottom = false) ∧
    (s.table.player2Score = 3 → s.table.scoresTop = false)

theorem Pc.Decided.leavesInTime {s : Pc} (h : s.Decided) (i : Input) : LeavesInTime s i := by
  rintro rfl hgame hsecond hthree s' hs'
  cases hs'
  have hle := h.1 hgame
  rw [(Pc.timerInt_score hgame).1, if_pos hsecond]
  unfold Pc.testedMode
  split
  -- with time left a score of three leaves the game; without time every branch does
  · split
    · decide
    · split
      · decide
      · omega
  · split
    · decide
    · split <;> decide

/-- One step keeps a game decided exactly when it scores no fourth goal between two tests. -/
theorem decided_step {s s' : Pc} {i : Input} (h : s.Decided) (hstep : s.step i = some s') :
    s'.Decided ↔ NoFourthGoal s i := by
  by_cases htick : i = .interrupt .timer ∧ s.mainState = .game
  · obtain ⟨rfl, hgame⟩ := htick
    cases hstep
    obtain ⟨hmode, hscores⟩ := Pc.timerInt_score hgame
    obtain ⟨h₁, h₂⟩ := Prod.mk.inj hscores
    obtain ⟨hle, hdigits⟩ := h
    have hle := hle hgame
    unfold Pc.Decided NoFourthGoal
    rw [hmode, h₁, h₂]
    by_cases hsecond : s.WholeSecond
    · -- the scores were tested, so that whoever had three goals is out of the game
      have hstays : s.testedMode = .game →
          s.table.player1Score ≠ 3 ∧ s.table.player2Score ≠ 3 := by
        unfold Pc.testedMode
        split
        · split
          · simp
          · split <;> simp_all
        · split
          · simp
          · split <;> simp
      simp only [hsecond, not_true_eq_false, false_imp_iff, implies_true, iff_true]
      refine ⟨fun hgame' => ?_, ?_⟩
      · have := hstays hgame'
        split <;> split <;> omega
      · split <;> split <;> omega
    · simp only [hgame, hsecond, not_false_eq_true, true_imp_iff]
      cases hb : s.table.scoresBottom <;> cases ht : s.table.scoresTop <;> simp <;> omega
  -- any other step leaves the scores, or begins with none
  · have hguard : NoFourthGoal s i := fun hi hgame => absurd ⟨hi, hgame⟩ htick
    refine iff_of_true ?_ hguard
    have hscore := Pc.step_score hstep htick
    unfold Pc.Decided at h ⊢
    cases hscore with
    | same hscores hmode =>
        obtain ⟨h₁, h₂⟩ := Prod.mk.inj hscores
        rw [h₁, h₂, hmode]
        exact h
    | left hscores hmode _ =>
        obtain ⟨h₁, h₂⟩ := Prod.mk.inj hscores
        rw [h₁, h₂]
        exact ⟨fun hgame => absurd hgame hmode, h.2⟩
    | fresh hscores _ =>
        obtain ⟨h₁, h₂⟩ := Prod.mk.inj hscores
        rw [h₁, h₂]
        simp

/-- **When a game is decided at three goals.** From the start of a game on, and whatever happens,
the scores stay within three during the game and the game is left in time exactly when no fourth
goal falls between two tests of the scores. -/
theorem decided_iff (s : Pc) (es : List Input) :
    (Transition.Always Pc.step Pc.Decided { s with mainState := .game }.resetGameState es ∧
      Transition.Along Pc.step LeavesInTime { s with mainState := .game }.resetGameState es) ↔
    Transition.Along Pc.step NoFourthGoal { s with mainState := .game }.resetGameState es := by
  have hstart : Pc.Decided { s with mainState := .game }.resetGameState := by
    simp [Pc.Decided, Pc.resetGameState, Table.reset]
  have hdef : ∀ s i, True → Pc.Decided s → NoFourthGoal s i ∨ ∃ s', Pc.step s i = some s' := by
    intro s i _ _
    by_cases hi : i = .interrupt .timer
    · subst hi
      exact .inr ⟨_, rfl⟩
    · exact .inl fun h => absurd h hi
  rw [← Transition.always_iff_along NoFourthGoal Pc.Decided (fun _ => True)
    (fun _ _ _ _ _ => trivial) hdef (fun _ _ _ _ => decided_step) trivial hstart]
  exact ⟨And.left, fun h => ⟨h, h.along fun s i hs => hs.leavesInTime i⟩⟩

/-- A PC is told to start, and then four times to send the ball upwards, with the velocities that
another PC sends. -/
def fourGoals : List Input :=
  received [0, 0x10] ++ received [0, 0x20, 0, 0xF8] ++ ticks 49 ++ received [0, 0x20, 0, 0xF8] ++
    ticks 83 ++ received [0, 0x20, 0, 0xF8] ++ ticks 49 ++ received [0, 0x20, 0, 0xF8] ++ ticks 59

/-- Two goals fall by the end of the third second and two more within the fourth: the test that
follows finds four and passes them over. -/
theorem decided_fails :
    ∃ s, Transition.run Pc.step (init Setup.standard) fourGoals = some s ∧
      (s.timeCount = 4 * s.sysHz ∧ s.mainState = .game ∧ s.table.player2Score = 4) ∧
      ¬s.Decided := by
  have hreach : ∃ s, Transition.run Pc.step (init Setup.standard) fourGoals = some s ∧
      s.timeCount = 4 * s.sysHz ∧ s.mainState = .game ∧ s.table.player2Score = 4 :=
    Transition.reaches_of_any (by decide +kernel)
  obtain ⟨s, hrun, hcount, hgame, hfour⟩ := hreach
  refine ⟨s, hrun, ⟨hcount, hgame, hfour⟩, fun h => ?_⟩
  have := (h.1 hgame).2
  omega

/-! ## The verdict -/

/-- The result that is shown is the order of the scores. -/
def Pc.VerdictMatches (s : Pc) : Prop :=
  s.ShowsResult →
    (s.mainState = .win ↔ s.table.player2Score > s.table.player1Score) ∧
    (s.mainState = .lost ↔ s.table.player1Score > s.table.player2Score) ∧
    (s.mainState = .tie ↔ s.table.player1Score = s.table.player2Score)

/-- On the tick that ends the game, the goal of that tick does not change the order of the scores;
and when the game ends because a player has three goals, that player has more than the other,
this goal included. -/
def VerdictStands (s : Pc) (i : Input) : Prop :=
  i = .interrupt .timer → s.mainState = .game → s.WholeSecond →
    let final₁ := s.table.player1Score + if s.table.scoresBottom then 1 else 0
    let final₂ := s.table.player2Score + if s.table.scoresTop then 1 else 0
    if s.timeRemaining > 0 then
      (s.table.player1Score = 3 → final₁ > final₂) ∧
      (s.table.player1Score ≠ 3 → s.table.player2Score = 3 → final₂ > final₁)
    else
      (s.table.player1Score = s.table.player2Score → final₁ = final₂) ∧
      (s.table.player1Score > s.table.player2Score → final₁ > final₂) ∧
      (s.table.player1Score < s.table.player2Score → final₁ < final₂)

/-- One step keeps the verdict right exactly when it stands. -/
theorem verdict_step {s s' : Pc} {i : Input} (h : s.VerdictMatches) (hstep : s.step i = some s') :
    s'.VerdictMatches ↔ VerdictStands s i := by
  by_cases htick : i = .interrupt .timer ∧ s.mainState = .game
  · obtain ⟨rfl, hgame⟩ := htick
    cases hstep
    obtain ⟨hmode, hscores⟩ := Pc.timerInt_score hgame
    obtain ⟨h₁, h₂⟩ := Prod.mk.inj hscores
    unfold Pc.VerdictMatches VerdictStands Pc.ShowsResult
    rw [hmode, h₁, h₂]
    by_cases hsecond : s.WholeSecond
    · simp only [hsecond, hgame, if_true, true_imp_iff, Pc.testedMode]
      -- the two sides agree for each way out of the game, whatever this tick's goals
      generalize s.table.player1Score + (if s.table.scoresBottom then 1 else 0) = final₁
      generalize s.table.player2Score + (if s.table.scoresTop then 1 else 0) = final₂
      by_cases htime : s.timeRemaining > 0
      · simp only [if_pos htime]
        by_cases hp₁ : s.table.player1Score = 3
        · simp [hp₁]
          omega
        · by_cases hp₂ : s.table.player2Score = 3
          · simp [hp₁, hp₂]
            omega
          · simp [hp₁, hp₂]
      · simp only [if_neg htime]
        rcases lt_trichotomy s.table.player1Score s.table.player2Score with hlt | heq | hgt
        · simp [hlt, hlt.ne, hlt.not_gt]
          omega
        · simp [heq]
          omega
        · simp [hgt, hgt.ne', hgt.not_gt]
          omega
    · simp [hsecond]
  -- a step that is not a tick of a game shows no new result
  · have hguard : VerdictStands s i := fun hi hgame => absurd ⟨hi, hgame⟩ htick
    refine iff_of_true ?_ hguard
    cases Pc.step_score hstep htick with
    | same hscores hmode =>
        obtain ⟨h₁, h₂⟩ := Prod.mk.inj hscores
        unfold Pc.VerdictMatches Pc.ShowsResult at h ⊢
        rw [h₁, h₂, hmode]
        exact h
    | left _ _ hresult => exact fun hshows => absurd hshows hresult
    | fresh _ hresult => exact fun hshows => absurd hshows hresult

/-- **When the verdict matches the final score.** In every run from the start of the program, the
results shown are right exactly when the verdict stands on every tick that ends a game. -/
theorem verdict_iff (S : Setup) (es : List Input) :
    Transition.Always Pc.step Pc.VerdictMatches (init S) es ↔
      Transition.Along Pc.step VerdictStands (init S) es := by
  have hstart : (init S).VerdictMatches :=
    fun hshows => absurd hshows (Pc.not_showsResult (m := .mainMenu) rfl (by decide))
  have hdef : ∀ s i, True → Pc.VerdictMatches s →
      VerdictStands s i ∨ ∃ s', Pc.step s i = some s' := by
    intro s i _ _
    by_cases hi : i = .interrupt .timer
    · subst hi
      exact .inr ⟨_, rfl⟩
    · exact .inl fun h => absurd h hi
  exact Transition.always_iff_along VerdictStands Pc.VerdictMatches (fun _ => True)
    (fun _ _ _ _ _ => trivial) hdef (fun _ _ _ _ => verdict_step) trivial hstart

/-- Two goals for each player, a third for player 2, and one for player 1 on tick 300. -/
def lateGoal : List Input :=
  received [0, 0x10] ++ received [0, 0x20, 0, 0xF8] ++ ticks 49 ++ received [0, 0x20, 0, 0xF8] ++
    ticks 49 ++ received [0, 0x20, 0, 8] ++ ticks 48 ++ received [0, 0x20, 0, 8] ++ ticks 48 ++
    received [0, 0x20, 0, 0xF8] ++ ticks 58 ++ received [0, 0x20, 0, 8] ++ ticks 48

/-- Player 1 scores the third goal on the very tick on which player 2 is found to have three: a
victory is shown at three all. -/
theorem verdict_fails :
    ∃ s, Transition.run Pc.step (init Setup.standard) lateGoal = some s ∧
      (s.mainState = .win ∧ s.table.player2Score = 3 ∧ s.table.player1Score = 3) ∧
      ¬s.VerdictMatches := by
  have hreach : ∃ s, Transition.run Pc.step (init Setup.standard) lateGoal = some s ∧
      s.mainState = .win ∧ s.table.player2Score = 3 ∧ s.table.player1Score = 3 :=
    Transition.reaches_of_any (by decide +kernel)
  obtain ⟨s, hrun, hwin, htwo, hone⟩ := hreach
  refine ⟨s, hrun, ⟨hwin, htwo, hone⟩, fun h => ?_⟩
  have := (h (.inl hwin)).1.mp hwin
  omega

end AirHockey
