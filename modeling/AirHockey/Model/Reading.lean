import AirHockey.Model.Display

/-! # What can be read

The picture that the program keeps can be read: nothing covers the digits, the ball and the
buttons. In a game they are those of the present state, and beside the pop-out of a result stand
the time and the score for which it is the verdict.

`Seen` says of one command that all it paints is there, and `Reads` of a picture that the time and
the score can be read off it. The three main results take the picture from `faithful_exec` and
read it:

* `game_legible`: in a game, the time, the score and the ball;
* `result_legible`: after it, what the result is the verdict on, the announcement and the buttons;
* `menu_legible`: on the screen itself, two ticks in the menu apart, the selected entry and the
  clock.

For the last one the frame of the first tick must survive until the second one brings it to the
screen: `aside_drawing` says what may happen in between (`Aside`). -/

namespace AirHockey

section

variable (S : Setup) (A : Artwork)

/-- Everything that the command paints is seen in the picture. -/
def Seen (f : S.screen.Spot → UInt8) (d : Draw) : Prop :=
  ∀ p v, d.layer S.screen A p = some v → f p = v

/-- The picture shows how much time is left, in minutes and seconds, and the score. -/
def Reads (f : S.screen.Spot → UInt8) (time : Nat) (scores : Int × Int) : Prop :=
  ∃ a b c d : Nat, (a < 10 ∧ b < 10 ∧ c < 6 ∧ d < 10) ∧
    time = 60 * (10 * a + b) + (10 * c + d) ∧
    (∀ draw ∈ [Draw.number .white a 35 420, .number .white b 75 420, .number .white c 140 420,
      .number .white d 180 420], Seen S A f draw) ∧
    ∀ draw ∈ [Draw.number .red scores.1 960 425, .number .blue scores.2 1065 425], Seen S A f draw

end

variable {S : Setup} {A : Artwork}

/-- A game picture can be read, and its ball is seen. -/
theorem reads_gamePicture {t : Table} (ht : t.Confined) {time : Nat} (htime : time ≤ 200) :
    Reads S A (gamePicture S A t time) time t.scores ∧
      Seen S A (gamePicture S A t time) (.sprite t.ball) := by
  have hseen : ∀ d ∈ Draw.sprite t.ball :: aside A t time, Seen S A (gamePicture S A t time) d := by
    intro d hd p v hp
    exact gamePicture_seen ht time hd hp
  refine ⟨⟨time / 60 / 10, time / 60 % 10, time % 60 / 10, time % 60 % 10, by omega, by omega, ?_,
    ?_⟩, hseen _ List.mem_cons_self⟩
  · intro d hd
    apply hseen
    apply List.mem_cons_of_mem
    apply List.mem_append_left
    exact List.mem_append_right _ hd
  · intro d hd
    apply hseen
    apply List.mem_cons_of_mem
    exact List.mem_append_right _ hd

theorem right_box_number (font : Font) (i y : Int) {x : Int} (hx : x ≤ 302) :
    ((Draw.number font i x y).box S.screen).right ≤ 333 := by
  show x.toNat + 31 ≤ 333
  omega

theorem left_box_number (font : Font) (i y : Int) {x : Int} (hx : 819 ≤ x) :
    819 ≤ ((Draw.number font i x y).box S.screen).left := by
  show 819 ≤ x.toNat
  omega

/-- A pop-out leaves it readable. -/
theorem Reads.popOut {f : S.screen.Spot → UInt8} {time : Nat} {scores : Int × Int}
    (h : Reads S A f time scores) {b : Backdrop} (hb : b.size = (486, 299)) (winlose : Buttons) :
    Reads S A (popOutPicture S A b winlose f) time scores := by
  have hkeep : ∀ d : Draw, (d.box S.screen).right ≤ 333 ∨ 819 ≤ (d.box S.screen).left →
      Seen S A f d → Seen S A (popOutPicture S A b winlose f) d := by
    intro d hside hseen p v hp
    -- a pixel that the command paints lies outside of the pop-out
    rw [popOutPicture_of_outside hb winlose f]
    · exact hseen p v hp
    · rintro ⟨⟨hleft, hright⟩, -⟩
      obtain ⟨⟨hleft', hright'⟩, -⟩ := mem_box hp
      simp only [popOutBox] at hleft hright
      omega
  obtain ⟨a, b, c, d, hdigits, htime, hclock, hscores⟩ := h
  refine ⟨a, b, c, d, hdigits, htime, fun draw hdraw => hkeep _ ?_ (hclock _ hdraw),
    fun draw hdraw => hkeep _ ?_ (hscores _ hdraw)⟩
  · simp only [List.mem_cons, List.not_mem_nil, or_false] at hdraw
    rcases hdraw with rfl | rfl | rfl | rfl
    all_goals exact .inl (right_box_number _ _ _ (by decide))
  · simp only [List.mem_cons, List.not_mem_nil, or_false] at hdraw
    rcases hdraw with rfl | rfl
    all_goals exact .inr (left_box_number _ _ _ (by decide))

/-- **The announcement of a result is seen**: all of its pop-out that no button is drawn over. -/
theorem popOut_seen {b : Backdrop} (winlose : Buttons)
    (f : S.screen.Spot → UInt8) {p : S.screen.Spot} {v : UInt8}
    (hp : (Draw.popOut b).layer S.screen A p = some v)
    (hbeside : ∀ d ∈ (popOutFrame A b winlose).tail, d.layer S.screen A p = none) :
    popOutPicture S A b winlose f p = v := by
  -- the buttons are drawn later, but not here
  have hlater : ∀ l ∈ ((popOutFrame A b winlose).tail.map (Draw.layer S.screen A)), l p = none := by
    intro l hl
    obtain ⟨d, hd, rfl⟩ := List.mem_map.mp hl
    exact hbeside d hd
  show Layer.paint ([] ++ (Draw.popOut b).layer S.screen A :: _) f p = v
  exact Layer.paint_of_last hp hlater

/-- The buttons of a result are seen. -/
theorem popOutFrame_seen {b : Backdrop} (hb : b.size = (486, 299)) (winlose : Buttons)
    (f : S.screen.Spot → UInt8) :
    ∀ d ∈ (popOutFrame A b winlose).tail, Seen S A (popOutPicture S A b winlose f) d := by
  intro d hd p v hp
  have hboxes : ((popOutFrame A b winlose).tail.map (Draw.box S.screen)).Pairwise Box.Beside := by
    rw [List.map_tail, boxes_popOutFrame hb]
    decide
  exact seen_of_pairwise [.popOut b] f hboxes hd hp

namespace Program

variable {p p' : Program} {main secondary : Nat → UInt8} {es : List Happening}

/-- **What a result shows.** The time and the score that can be read beside the pop-out are those
that it is the verdict on; the pop-out is the one of this result, and it is seen wherever its
buttons are not; and its buttons are seen. -/
theorem result_legible (hexec : exec S A [] main secondary es = some p) {b : Backdrop}
    (hresult : p.pc.mainState.popOut = some b) :
    (∃ time scores, p.pc.mainState = verdict time scores ∧ Reads S A (p.drawing S) time scores) ∧
      (∀ spot v, (Draw.popOut b).layer S.screen A spot = some v →
        (∀ d ∈ (popOutFrame A b p.pc.winlose).tail, d.layer S.screen A spot = none) →
          p.drawing S spot = v) ∧
      ∀ d ∈ (popOutFrame A b p.pc.winlose).tail, Seen S A (p.drawing S) d := by
  have hsize := MainState.size_popOut hresult
  obtain ⟨t, time, ⟨ht, htime, hverdict⟩, hpicture⟩ := (faithful_exec hexec).shows.result b hresult
  -- the picture of the game below is the one that was tested for the verdict
  rw [hpicture]
  refine ⟨⟨time, t.scores, hverdict, ?_⟩, fun spot v hv hbeside => popOut_seen _ _ hv hbeside,
    popOutFrame_seen hsize _ _⟩
  exact (reads_gamePicture ht htime).1.popOut hsize _

/-- The other PC sends three goals, and the next whole second ends the game. -/
def threeGoals : List Input :=
  received [0, 0x10] ++ (List.replicate 3 (received [0, 0x20, 0, 0x81] ++ ticks 4)).flatten ++
    ticks 48

/-- In a corner of the pop-out the picture of a victory is seen. -/
theorem result_legible_won : ∃ p, standardExec threeGoals = some p ∧
    (∃ time scores, verdict time scores = .win ∧
      Reads Setup.standard Artwork.plain (p.drawing Setup.standard) time scores) ∧
    p.drawing Setup.standard (pixel 340 290 (by decide) (by decide)) =
      Artwork.plain.backdrop .youwon 0 := by
  obtain ⟨p, hexec, hwin⟩ := standardExec_of_run (fun s => s.mainState = .win) threeGoals
    (by decide +kernel) (by decide +kernel)
  obtain ⟨⟨time, scores, hverdict, hreads⟩, hannounced, -⟩ :=
    result_legible hexec (b := .youwon) (by rw [hwin]; rfl)
  refine ⟨p, hexec, ⟨time, scores, hverdict.symm.trans hwin, hreads⟩, hannounced _ _ rfl ?_⟩
  intro d hd
  have hbox : d.box Setup.standard.screen ∈ _ := List.mem_map_of_mem hd
  rw [List.map_tail, boxes_popOutFrame rfl] at hbox
  simp only [List.tail_cons, List.mem_cons, List.not_mem_nil, or_false] at hbox
  apply layer_eq_none
  rintro ⟨⟨hleft, -⟩, -⟩
  rcases hbox with h | h
  all_goals
    rw [h] at hleft
    exact absurd hleft (by decide)

/-- A tick brings what has been drawn to the screen, and in the menu it draws the menu anew. -/
theorem tick_menu (h : p.Faithful S A) (hstep : p.step S A (.interrupt .timer) = some p')
    (hmenu : p.pc.mainState = .mainMenu) :
    p'.screen S = p.drawing S ∧ p'.pc = p.pc.timerIntHandler ∧
      p'.drawing S = menuPicture S A p.pc.menu p.dayTimeInfo := by
  have hwatched := step_watched h.view h.core hstep
  have hcore : (some p.pc.timerInt).map (fun pc => (⟨pc, p.dayTimeInfo⟩ : Core)) = some p'.core :=
    step_core hstep
  have heq := Option.some.inj hcore
  have hpc : p'.pc = p.pc.timerIntHandler := by
    rw [← Pc.timerInt_of_not_game (by rw [hmenu]; decide)]
    exact (congrArg Core.pc heq).symm
  have hday : p'.dayTimeInfo = p.dayTimeInfo := (congrArg Core.dayTimeInfo heq).symm
  have hmenu' : p'.pc.mainState = .mainMenu := by
    rw [hpc]
    exact hmenu
  have hdrawn := hwatched.drawn (.inl hmenu) h.loads
  rw [frame, hmenu'] at hdrawn
  have hpicture := hdrawn.trans (paint_menuFrame _ _ _)
  rw [hday, hpc] at hpicture
  exact ⟨hwatched.main, hpc, hpicture⟩

/-- What can happen in the menu without a frame being drawn: neither a tick nor a key, and no serial
interrupt that takes the word with which the other PC begins a game. -/
def Aside (p : Program) : Happening → Prop
  | .interrupt (.mouse _) | .rtc _ | .arrive _ => True
  | .interrupt (.serial iir) => ¬p.pc.TakesSignal iir
  | .interrupt .timer | .interrupt (.keyboard _) => False

theorem aside_step {e : Happening} (h : p.Faithful S A) (hmenu : p.pc.mainState = .mainMenu)
    (haside : Aside p e) (hstep : p.step S A e = some p') :
    p'.drawing S = p.drawing S ∧ p.pc.SamePanel p'.pc := by
  have hwatched := step_watched h.view h.core hstep
  cases e with
  | interrupt i =>
      cases i with
      | mouse reads =>
          refine ⟨hwatched.still id, ?_⟩
          cases hstep
          exact (Pc.mouseInt_sameShow reads p.pc).panel
      | serial iir =>
          -- a word that is no start word is dropped, and nothing is drawn in the menu
          have hgame : ¬p.pc.mainState = .game := by
            rw [hmenu]
            decide
          refine ⟨hwatched.still fun hdraws => hgame hdraws.1, ?_⟩
          obtain ⟨r, hr⟩ := Pc.spInt_of_not_takesSignal hmenu haside
          have hpc := congrArg Core.pc (Option.some.inj (step_core hstep))
          rw [show p'.pc = _ from hpc.symm.trans hr]
          exact ⟨rfl, rfl, rfl, rfl⟩
      | timer | keyboard _ => cases haside
  | rtc d =>
      refine ⟨hwatched.still id, ?_⟩
      cases hstep
      exact ⟨rfl, rfl, rfl, rfl⟩
  | arrive slots =>
      refine ⟨hwatched.still id, ?_⟩
      cases hstep
      exact ⟨rfl, rfl, rfl, rfl⟩

/-- Between the ticks nothing is drawn. -/
theorem aside_drawing (h : p.Faithful S A) (hmenu : p.pc.mainState = .mainMenu)
    (haside : Transition.Along (step S A) Aside p es)
    (hrun : Transition.run (step S A) p es = some p') :
    p'.Faithful S A ∧ p'.drawing S = p.drawing S ∧ p.pc.SamePanel p'.pc := by
  -- along what happens in between, nothing is drawn and the panel stays as it is
  refine Transition.invariant_along
    (fun q => q.Faithful S A ∧ q.drawing S = p.drawing S ∧ p.pc.SamePanel q.pc) ?_
    ⟨h, rfl, rfl, rfl, rfl, rfl⟩ haside hrun
  rintro q e q' ⟨hfaithful, hdrawing, hpanel⟩ hok hstep
  obtain ⟨hstill, hsame⟩ := aside_step hfaithful (hpanel.mode.trans hmenu) hok hstep
  exact ⟨hfaithful.step hstep, hstill.trans hdrawing, hsame.option.trans hpanel.option,
    hsame.menu.trans hpanel.menu, hsame.winlose.trans hpanel.winlose,
    hsame.mode.trans hpanel.mode⟩

/-- Between two ticks the menu that the first of them has drawn is kept for the second. -/
theorem menu_shown {p₁ p₂ : Program} (h : p.Faithful S A) (hmenu : p.pc.mainState = .mainMenu)
    (hfirst : p.step S A (.interrupt .timer) = some p₁)
    (haside : Transition.Along (step S A) Aside p₁ es)
    (hbetween : Transition.run (step S A) p₁ es = some p₂)
    (hlast : p₂.step S A (.interrupt .timer) = some p') :
    p'.Faithful S A ∧ p'.screen S = menuPicture S A p.pc.menu p.dayTimeInfo := by
  -- the first tick draws the menu, and the second one shows what has been drawn
  obtain ⟨-, hpc, hdrawing⟩ := tick_menu h hfirst hmenu
  have hmenu₁ : p₁.pc.mainState = .mainMenu := by
    rw [hpc]
    exact hmenu
  obtain ⟨hfaithful₂, hkept, hpanel⟩ := aside_drawing (h.step hfirst) hmenu₁ haside hbetween
  refine ⟨hfaithful₂.step hlast, ?_⟩
  rw [(tick_menu hfaithful₂ hlast (hpanel.mode.trans hmenu₁)).1, hkept, hdrawing]

/-- **What the menu shows.** Whatever has been drawn before: after a tick in the menu and another
one, between which there is no key and the other PC does not begin a game, there is nothing on the
screen but the menu, with the entry that is selected and the time of day as it was at the first of
the two, and all of it is seen. -/
theorem menu_legible {p₁ p₂ : Program} (hexec : exec S A [] main secondary es = some p)
    (hmenu : p.pc.mainState = .mainMenu) (hfirst : p.step S A (.interrupt .timer) = some p₁)
    {fs : List Happening} (haside : Transition.Along (step S A) Aside p₁ fs)
    (hbetween : Transition.run (step S A) p₁ fs = some p₂)
    (hlast : p₂.step S A (.interrupt .timer) = some p') :
    p'.screen S = menuPicture S A p.pc.menu p.dayTimeInfo ∧
      ∀ d ∈ (menuFrame A p.pc.menu p.dayTimeInfo).tail, Seen S A (p'.screen S) d := by
  obtain ⟨-, hscreen⟩ := menu_shown (faithful_exec hexec) hmenu hfirst haside hbetween hlast
  refine ⟨hscreen, fun d hd spot v hv => ?_⟩
  rw [hscreen]
  exact menuPicture_seen _ _ hd hv

/-- Two ticks at the beginning, with a serial interrupt in between for which nothing has come: Play
is highlighted. -/
theorem menu_legible_begin : ∃ p', standardExec (ticks 1 ++ received [] ++ ticks 1) = some p' ∧
    p'.screen Setup.standard = menuPicture Setup.standard Artwork.plain
      ⟨[true, false, false], [true, false, false]⟩ ⟨0, 0, 0, 0, 0, 0⟩ ∧
    p'.screen Setup.standard (pixel 430 360 (by decide) (by decide)) =
      Artwork.plain.icon .playSelected 0 := by
  obtain ⟨p₀, hcore, -, -, hruns, -⟩ :=
    exec_begin Setup.standard Artwork.plain [] (fun _ => 0) fun _ => 0
  obtain ⟨p', hexec, -⟩ := standardExec_of_run (fun _ => True) (ticks 1 ++ received [] ++ ticks 1)
    (by decide +kernel) (by decide +kernel)
  have hpc : p₀.pc = init Setup.standard := congrArg Core.pc hcore
  have hday : p₀.dayTimeInfo = ⟨0, 0, 0, 0, 0, 0⟩ := congrArg Core.dayTimeInfo hcore
  have hmenu : p₀.pc.mainState = .mainMenu := by
    rw [hpc]
    rfl
  obtain ⟨p₁, hfirst, hrest⟩ := (Transition.run_cons_eq_some _).mp ((hruns _).symm.trans hexec)
  have hrest : Transition.run (step Setup.standard Artwork.plain) p₁
      ([.arrive [], .interrupt (.serial (some iirIntId))] ++ [.interrupt .timer]) = some p' := hrest
  obtain ⟨p₂, hbetween, hlast⟩ := (Transition.run_snoc_eq_some _).mp hrest
  have haside : Transition.Along (step Setup.standard Artwork.plain) Aside p₁
      [.arrive [], .interrupt (.serial (some iirIntId))] := by
    -- two happenings: no byte arrives, and `sp_int` finds none
    refine ⟨trivial, fun q hq => ⟨?_, fun _ _ => trivial⟩⟩
    have hstep := step_core hfirst
    rw [hcore] at hstep
    have hpc₁ : p₁.pc = (init Setup.standard).timerInt :=
      (congrArg Core.pc (Option.some.inj hstep)).symm
    cases hq
    show ¬(p₁.pc.receive []).TakesSignal (some iirIntId)
    rw [hpc₁]
    decide +kernel
  obtain ⟨hscreen, hseen⟩ := menu_legible (hruns []) hmenu hfirst haside hbetween hlast
  rw [hpc, hday] at hscreen hseen
  refine ⟨p', hexec, hscreen, ?_⟩
  exact hseen (.sprite Artwork.plain.startButtonSelected) List.mem_cons_self _ _ (by decide +kernel)

end Program

end AirHockey
