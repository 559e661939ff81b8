import AirHockey.Model.Menus
import AirHockey.Model.Pictures

/-! # What the player sees

Along every run of the program the secondary buffer shows where the program is: the menu with the
entry that is selected, the rules, the score, the time that is left and the place of the ball, or
the result over the last picture of the game. A tick brings it to the screen.

`Shows` is that invariant. A step that draws a frame sets it up again (`Shows.of_drawn`); a step
that draws nothing must not have changed anything that is shown (`Core.step_still`,
`Shows.of_sameShow`). There is one exception, the start of a game by the other PC, after which the
old menu is still there (`JustStarted`). A result needs one fact more: it is drawn over the
picture of the state that was tested, so that its verdict belongs to what can be read there
(`Core.step_result`). `faithful_exec` is the induction. -/

namespace AirHockey

/-- The pop-out of a result. -/
def MainState.popOut : MainState → Option Backdrop
  | .win => some .youwon
  | .lost => some .youlost
  | .tie => some .tie
  | .mainMenu | .rules | .game | .stop => none

theorem MainState.size_popOut {m : MainState} {b : Backdrop} (h : m.popOut = some b) :
    b.size = (486, 299) := by
  cases m <;> cases h <;> rfl

/-- A sprite without its speed: what is drawn of it. -/
def Sprite.drawn (s : Sprite) : Sprite := { s with xspeed := 0, yspeed := 0 }

namespace Pc

/-- What the other PC has started has not begun to be shown. -/
structure JustStarted (s : Pc) : Prop where
  role : s.table.isMainPc = false
  time : s.timeRemaining = 200
  scores : s.table.scores = (0, 0)

/-- Nothing has changed of what the frames show, except the places of the cursor and the pucks. -/
structure SameShow (s s' : Pc) : Prop where
  panel : s.SamePanel s'
  time : s'.timeRemaining = s.timeRemaining
  role : s'.table.isMainPc = s.table.isMainPc
  scores : s'.table.scores = s.table.scores
  ball : s'.table.ball.drawn = s.table.ball.drawn

theorem drawn_ball_move_puck {o : Object} (ho : o ≠ .ball) (t : Table) (x y : Int) :
    (t.move o x y 2).ball.drawn = t.ball.drawn ∧ (t.move o x y 2).isMainPc = t.isMainPc := by
  have hset : ∀ sprite, (t.set o sprite).ball = t.ball ∧
      (t.set o sprite).isMainPc = t.isMainPc := by
    intro sprite
    cases o with
    | ball => exact absurd rfl ho
    | mouse | redpuck | bluepuck => exact ⟨rfl, rfl⟩
  generalize ht' : t.move o x y 2 = t'
  cases Table.move_puck ho ht' with
  -- a puck that is moved is not the ball, and neither is the ball in its way moved
  | wall _ | middle _ _ | free _ _ _ =>
      rw [(hset _).1, (hset _).2]
      exact ⟨rfl, rfl⟩
  | hit _ _ _ _ => exact ⟨rfl, rfl⟩

theorem mouseInt_sameShow (reads : List KbcRead) (s : Pc) : s.SameShow (s.mouseInt reads) := by
  have htable := mouseInt_table reads s
  obtain ⟨_, _, _, _, table, heq⟩ := mouseInt_eq reads s
  rw [heq] at htable ⊢
  have hshow : table.isMainPc = s.table.isMainPc ∧ table.scores = s.table.scores ∧
      table.ball.drawn = s.table.ball.drawn := by
    rcases htable with htable | ⟨packet, htable⟩
    · obtain rfl : table = s.table := htable
      exact ⟨rfl, rfl, rfl⟩
    · obtain rfl : table = actOnPacket (parseMouseData packet) s.table := htable
      have hscores := scores_actOnPacket (parseMouseData packet) s.table
      have hmove := actOnPacket_move (parseMouseData packet) s.table
      generalize actOnPacket (parseMouseData packet) s.table = t at hmove hscores ⊢
      cases hmove with
      | drag m _ =>
          obtain ⟨hball, hrole⟩ := drawn_ball_move_puck (o := .bluepuck) (by decide) s.table
            (parseMouseData packet).deltaX (parseMouseData packet).deltaY
          exact ⟨hrole, hscores, hball⟩
      | release m _ => exact ⟨rfl, hscores, rfl⟩
  exact ⟨⟨rfl, rfl, rfl, rfl⟩, rfl, hshow.1, hshow.2.1, hshow.2.2⟩

/-- A serial interrupt either changes nothing that is shown, or begins a game, or leaves one. -/
theorem spInt_show {s : Pc} (hsound : s.receiver.Sound) (iir : Option UInt8) :
    s.SameShow (s.spInt iir) ∨
      (s.mainState = .mainMenu ∧ (s.spInt iir).mainState = .game ∧ (s.spInt iir).JustStarted) ∨
      s.mainState = .game ∧ (s.spInt iir).mainState = .mainMenu := by
  have houtcome := spInt_outcome hsound iir
  generalize s.spInt iir = s' at houtcome ⊢
  cases houtcome with
  -- of the four outcomes two change the mode, and nothing else changes what is shown
  | idle r => exact .inl ⟨⟨rfl, rfl, rfl, rfl⟩, rfl, rfl, rfl, rfl⟩
  | start r hmode => exact .inr (.inl ⟨hmode, rfl, rfl, rfl, rfl⟩)
  | leave r hmode => exact .inr (.inr ⟨hmode, rfl⟩)
  | payload r e hmode _ =>
      left
      cases e with
      | move x y =>
          obtain ⟨hball, hrole⟩ := drawn_ball_move_puck (o := .redpuck) (by decide) s.table x y
          exact ⟨⟨rfl, rfl, rfl, rfl⟩, rfl, hrole,
            Table.scores_move_puck (by decide) s.table x y, hball⟩
      | ballSpeed vx vy => exact ⟨⟨rfl, rfl, rfl, rfl⟩, rfl, rfl, rfl, rfl⟩

theorem kbcIh_sameShow (reads : List KbcRead) (s : Pc) : s.SameShow (s.kbcIh reads) := by
  refine ⟨kbcIh_panel reads s, ?_, ?_, ?_, ?_⟩
  all_goals
    unfold kbcIh
    split
    · rfl
    · split <;> rfl

end Pc

/-- **A step that draws nothing** changes nothing that is shown, or it is the start of a game by the
other PC. -/
theorem Core.step_still {c c' : Core} {e : Happening} (hsound : c.Sound)
    (hstep : c.step e = some c') (hdraws : ¬c.Draws c' e) :
    c.pc.SameShow c'.pc ∨
      c.pc.mainState = .mainMenu ∧ c'.pc.mainState = .game ∧ c'.pc.JustStarted := by
  cases e with
  | rtc d =>
      cases hstep
      exact .inl ⟨⟨rfl, rfl, rfl, rfl⟩, rfl, rfl, rfl, rfl⟩
  | arrive slots =>
      cases hstep
      exact .inl ⟨⟨rfl, rfl, rfl, rfl⟩, rfl, rfl, rfl, rfl⟩
  | interrupt i =>
      obtain ⟨s, hs, heq⟩ := Option.map_eq_some_iff.mp hstep
      subst heq
      cases i with
      | timer =>
          cases hs
          left
          have hmode : c.pc.mainState ≠ .game := fun hgame => hdraws (.inr hgame)
          show c.pc.SameShow c.pc.timerInt
          rw [Pc.timerInt_of_not_game hmode]
          exact ⟨⟨rfl, rfl, rfl, rfl⟩, rfl, rfl, rfl, rfl⟩
      | keyboard reads =>
          left
          -- a key without a frame is one that could not be read
          have herror : (c.pc.kbcIh reads).keyboardError = true := by
            cases h : (c.pc.kbcIh reads).keyboardError with
            | true => rfl
            | false => exact absurd h hdraws
          have hkey : c.pc.keyboardInt reads = some (c.pc.kbcIh reads) := by
            unfold Pc.keyboardInt
            dsimp only
            rw [if_pos herror]
          cases hkey.symm.trans hs
          exact Pc.kbcIh_sameShow reads c.pc
      | mouse reads =>
          cases hs
          exact .inl (Pc.mouseInt_sameShow reads c.pc)
      | serial iir =>
          cases hs
          rcases Pc.spInt_show hsound.receiver iir with hsame | hstart | hleave
          · exact .inl hsame
          · exact .inr hstart
          · exact absurd hleave hdraws

/-- The handlers that can end up in a result: the tick that ends the game, and a key pressed there
already. -/
theorem Core.step_result {c c' : Core} {e : Happening} (hstep : c.step e = some c')
    (hdraws : c.Draws c' e) {b : Backdrop} (hresult : c'.pc.mainState.popOut = some b) :
    (c.pc.mainState = .game ∧ c'.pc.mainState = verdict c.pc.timeRemaining c.pc.table.scores) ∨
      c'.pc.mainState = c.pc.mainState := by
  have hnot : ∀ m, c'.pc.mainState = m → m.popOut = none → False := by
    rintro m rfl hnone
    rw [hnone] at hresult
    cases hresult
  cases e with
  | rtc d => cases hdraws
  | arrive slots => cases hdraws
  | interrupt i =>
      obtain ⟨s, hs, heq⟩ := Option.map_eq_some_iff.mp hstep
      subst heq
      cases i with
      | timer =>
          cases hs
          -- in the menu the mode stays; in a game the test decides
          rcases hdraws with hmenu | hgame
          · right
            show c.pc.timerInt.mainState = _
            rw [Pc.timerInt_of_not_game (by rw [hmenu]; decide)]
            rfl
          · left
            have hmode := (Pc.timerInt_score hgame).1
            by_cases hsecond : c.pc.WholeSecond
            · rw [if_pos hsecond] at hmode
              exact ⟨hgame, hmode⟩
            · rw [if_neg hsecond] at hmode
              exact (hnot _ hmode rfl).elim
      -- of the keys only those that do nothing leave a result where it is
      | keyboard reads =>
          right
          cases Pc.keyboardInt_step hs with
          | stay _ hmode => exact hmode
          | select _ _ hmode => rcases hmode with h | h <;> exact (hnot _ h rfl).elim
          | back _ _ hmode | leave _ _ hmode _ | again _ _ _ _ hmode _ | quit _ _ hmode _ =>
              exact (hnot _ hmode rfl).elim
          | play _ _ hmode _ => rcases hmode with h | ⟨h, -⟩ <;> exact (hnot _ h rfl).elim
      | mouse reads => cases hdraws
      | serial iir => exact (hnot _ hdraws.2 rfl).elim

/-! ## The secondary buffer -/

namespace Program

variable {S : Setup} {A : Artwork} {p p' : Program} {e : Happening} {es : List Happening}

/-- What has been drawn. -/
def drawing (S : Setup) (p : Program) : S.screen.Spot → UInt8 :=
  S.screen.canvas p.view.secondaryBuffer

/-- What is on the screen. -/
def screen (S : Setup) (p : Program) : S.screen.Spot → UInt8 := S.screen.canvas p.view.mainBuffer

/-- What has been drawn agrees with where the program is. -/
structure Shows (S : Setup) (A : Artwork) (p : Program) : Prop where
  menu : p.pc.mainState = .mainMenu → ∃ t, p.drawing S = menuPicture S A p.pc.menu t
  rules : p.pc.mainState = .rules → p.drawing S = rulesPicture S A
  game : p.pc.mainState = .game →
    (∃ t : Table, (t.Confined ∧ t.scores = p.pc.table.scores ∧
        t.ball.drawn = p.pc.table.ball.drawn) ∧
      p.drawing S = gamePicture S A t p.pc.timeRemaining) ∨
    p.pc.JustStarted ∧ ∃ menu t, p.drawing S = menuPicture S A menu t
  result : ∀ b, p.pc.mainState.popOut = some b → ∃ (t : Table) (time : Nat),
    (t.Confined ∧ time ≤ 200 ∧ p.pc.mainState = verdict time t.scores) ∧
      p.drawing S = popOutPicture S A b p.pc.winlose (gamePicture S A t time)

/-- Nothing that is shown has changed, and nothing has been drawn. -/
theorem Shows.of_sameShow (h : p.Shows S A) (hsame : p.pc.SameShow p'.pc)
    (hdrawing : p'.drawing S = p.drawing S) : p'.Shows S A := by
  have hmode := hsame.panel.mode
  constructor
  · intro hmenu
    rw [hdrawing, hsame.panel.menu]
    exact h.menu (hmode.symm.trans hmenu)
  · intro hrules
    rw [hdrawing]
    exact h.rules (hmode.symm.trans hrules)
  · intro hgame
    rw [hdrawing, hsame.time, hsame.scores, hsame.ball]
    rcases h.game (hmode.symm.trans hgame) with hshown | ⟨hstarted, hmenu⟩
    · exact .inl hshown
    · exact .inr ⟨⟨hsame.role.trans hstarted.role, hsame.time.trans hstarted.time,
        hsame.scores.trans hstarted.scores⟩, hmenu⟩
  · intro b hb
    rw [hmode] at hb ⊢
    rw [hdrawing, hsame.panel.winlose]
    exact h.result b hb

/-- **What a frame leaves.** -/
theorem Shows.of_drawn (h : p.Shows S A) (hcore : p.core.Sound)
    (hstep : p.core.step e = some p'.core) (hdraws : p.core.Draws p'.core e)
    (hdrawing : p'.drawing S =
      Layer.paint ((frame A p'.pc p'.dayTimeInfo).map (Draw.layer S.screen A)) (p.drawing S)) :
    p'.Shows S A := by
  have hconfined : p'.pc.table.Confined := (hcore.step hstep).confined
  constructor
  · intro hmenu
    refine ⟨p'.dayTimeInfo, ?_⟩
    rw [hdrawing, frame, hmenu]
    exact paint_menuFrame _ _ _
  · intro hrules
    rw [hdrawing, frame, hrules]
    exact paint_rulesFrame _
  · intro hgame
    refine .inl ⟨p'.pc.table, ⟨hconfined, rfl, rfl⟩, ?_⟩
    rw [hdrawing, frame, hgame]
    exact paint_gameFrame _ _ _
  · intro b hb
    have hframe : p'.drawing S = popOutPicture S A b p'.pc.winlose (p.drawing S) := by
      rw [hdrawing, frame]
      cases hmode : p'.pc.mainState <;> rw [hmode] at hb <;> cases hb <;> rfl
    -- either the game has just ended, and the picture below is the last one of the game …
    rcases Core.step_result hstep hdraws hb with ⟨hgame, hverdict⟩ | hsame
    · have hverdict : p'.pc.mainState = verdict p.pc.timeRemaining p.pc.table.scores := hverdict
      rcases h.game hgame with ⟨t, ⟨ht, hscores, -⟩, hpicture⟩ | ⟨hstarted, -⟩
      · refine ⟨t, p.pc.timeRemaining, ⟨ht, hcore.time, ?_⟩, ?_⟩
        · rw [hscores]
          exact hverdict
        · rw [hframe, hpicture]
      · -- a game that has just been started is not over
        rw [hstarted.time, hstarted.scores] at hverdict
        rw [hverdict] at hb
        cases hb
    -- … or the result was shown before, with the same pop-out and other buttons
    · have hsame : p'.pc.mainState = p.pc.mainState := hsame
      rw [hsame] at hb ⊢
      obtain ⟨t, time, hverdict, hpicture⟩ := h.result b hb
      refine ⟨t, time, hverdict, ?_⟩
      rw [hframe, hpicture]
      exact popOutPicture_popOutPicture (MainState.size_popOut hb) (MainState.size_popOut hb) _ _ _

/-- What every step keeps, as long as no picture is missing. -/
structure Faithful (S : Setup) (A : Artwork) (p : Program) : Prop where
  core : p.core.Sound
  view : p.view.Sound S.screen A
  loads : p.view.loads = []
  shows : p.Shows S A

theorem Faithful.step (h : p.Faithful S A) (hstep : p.step S A e = some p') :
    p'.Faithful S A := by
  have hwatched := step_watched h.view h.core hstep
  have hcore := step_core hstep
  refine ⟨h.core.step hcore, hwatched.sound, hwatched.loads h.loads, ?_⟩
  by_cases hdraws : p.core.Draws p'.core e
  · exact h.shows.of_drawn h.core hcore hdraws (hwatched.drawn hdraws h.loads)
  · have hstill : p'.drawing S = p.drawing S := hwatched.still hdraws
    rcases Core.step_still h.core hcore hdraws with hsame | ⟨hmenu, hgame, hstarted⟩
    · exact h.shows.of_sameShow hsame hstill
    -- the other PC has started a game: the menu is still there
    · obtain ⟨t, hpicture⟩ := h.shows.menu hmenu
      have hgame : p'.pc.mainState = .game := hgame
      constructor
      · intro hmenu'
        rw [hgame] at hmenu'
        cases hmenu'
      · intro hrules
        rw [hgame] at hrules
        cases hrules
      · intro _
        exact .inr ⟨hstarted, p.pc.menu, t, hstill.trans hpicture⟩
      · intro b hb
        rw [hgame] at hb
        cases hb

/-- **Along every run** in which no picture is missing the secondary buffer shows where the program
is. -/
theorem faithful_exec {main secondary : Nat → UInt8}
    (hexec : exec S A [] main secondary es = some p) : p.Faithful S A := by
  obtain ⟨p₀, hcore, hview, -, hruns, hloads⟩ := exec_begin S A [] main secondary
  obtain ⟨hloads, hcanvas⟩ := hloads rfl
  rw [hruns] at hexec
  have hpc : p₀.pc = init S := congrArg Core.pc hcore
  have hmode : p₀.pc.mainState = .mainMenu := by
    rw [hpc]
    rfl
  refine Transition.invariant (Faithful S A) (fun _ _ _ => Faithful.step)
    ⟨hcore ▸ Core.sound_begin S, hview, hloads, ?_⟩ hexec
  constructor
  · intro _
    refine ⟨⟨0, 0, 0, 0, 0, 0⟩, ?_⟩
    rw [hpc]
    exact hcanvas.trans (paint_menuFrame _ _ _)
  · intro hrules
    rw [hmode] at hrules
    cases hrules
  · intro hgame
    rw [hmode] at hgame
    cases hgame
  · intro b hb
    rw [hmode] at hb
    cases hb

end Program

end AirHockey
