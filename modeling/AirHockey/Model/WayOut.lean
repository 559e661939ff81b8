import AirHockey.Model.MainLoop
import AirHockey.Model.Panel

/-! # The way out

The program cannot be trapped: one sequence of keys ends it wherever it is, as long as nothing but
the keys changes the mode. Space and Escape lead to the menu. There two steps of the marker put
right whatever earlier results have left of the flags, and each entry is tried in turn.

This is proved of the panel first, stage by stage: `Sound.space_esc` reaches the menu,
`Browses.down_down` leaves the flags with one entry selected, `Heads.round` tries an entry and
goes on to the next, and `Heads.exit` is the last one; `Sound.run_wayOut` puts them together. In
the program `Ready.type_step` carries one interrupt to the panel and `Ready.type_run` a run of
them, so that the main result, `projMainLoop_wayOut`, is about any list of deliveries in which
these keys are typed. -/

namespace AirHockey

/-- Space and Escape, twice down, and then one entry after the other until it is Exit. -/
def wayOut : List UInt8 :=
  [spaceBreakCode, escBreakCode, sBreakCode, sBreakCode,
    spaceBreakCode, escBreakCode, sBreakCode, spaceBreakCode, escBreakCode, sBreakCode,
    spaceBreakCode]

/-! ## On the panel -/

namespace Panel

variable {P P' : Panel}

/-- The other codes may be left out. -/
theorem run_filter (codes : List UInt8) (P : Panel) :
    Transition.run press P (codes.filter
        (· ∈ [wBreakCode, sBreakCode, spaceBreakCode, escBreakCode])) =
      Transition.run press P codes := by
  induction codes generalizing P with
  | nil => rfl
  | cons code codes ih =>
      by_cases hcode : code ∈ [wBreakCode, sBreakCode, spaceBreakCode, escBreakCode]
      · rw [List.filter_cons_of_pos (by simpa using hcode), Transition.run, Transition.run]
        congr
        funext P
        exact ih P
      · rw [List.filter_cons_of_neg (by simpa using hcode), Transition.run, press_other hcode,
          Option.bind_some, ih]

/-- The program has ended, or it is in the menu and the flags in `V` are right. -/
def Browses (V : Nat → Prop) (P : Panel) : Prop :=
  P.mainState = .stop ∨ P.mainState = .mainMenu ∧
    oneHot.Settled V P.option.toNat P.menu.unselected ∧
    oneHot.Settled V P.option.toNat P.menu.selected

/-- The program has ended, or in the menu just one entry is selected, and it is not before `i`. -/
def Heads (i : Nat) (P : Panel) : Prop :=
  P.mainState = .stop ∨ P.mainState = .mainMenu ∧
    ∃ k, i ≤ k ∧ k < 3 ∧ P.option = k ∧ P.menu = ⟨oneHot 3 k, oneHot 3 k⟩

theorem press_stop (hstop : P.mainState = .stop) (code : UInt8) : P.press code = some P := by
  unfold press
  rw [hstop]

theorem run_stop (hstop : P.mainState = .stop) (codes : List UInt8) :
    Transition.run press P codes = some P := by
  induction codes with
  | nil => rfl
  | cons code codes ih => rw [Transition.run, press_stop hstop, Option.bind_some, ih]

theorem press_menu_space (hmenu : P.mainState = .mainMenu) :
    P.press spaceBreakCode = some { P with mainState := P.menuMode } := by
  unfold press
  rw [hmenu]
  rfl

theorem press_menu_down (hmenu : P.mainState = .mainMenu) :
    P.press sBreakCode = P.optionDown := by
  unfold press
  rw [hmenu]
  exact Option.bind_fun_some P.optionDown

/-- **Space** leaves every result, for one of its buttons is selected. -/
theorem Sound.leaves (h : P.Sound) : ∃ m, P.press spaceBreakCode =
    some { P with mainState := m } ∧ m.popOut = none := by
  have hresult : ∃ m, some { P with mainState := P.popOutMode } =
      some { P with mainState := m } ∧ m.popOut = none := by
    -- one button is selected, and Play again wins where both are
    refine ⟨P.popOutMode, rfl, ?_⟩
    unfold popOutMode
    rcases h.chosen with hagain | hleave
    · rw [if_pos hagain]
      rfl
    · rw [hleave]
      split <;> rfl
  cases hmode : P.mainState with
  | mainMenu =>
      refine ⟨P.menuMode, press_menu_space hmode, ?_⟩
      unfold menuMode
      rw [hmode]
      split_ifs <;> rfl
  | game | rules | stop =>
      refine ⟨P.mainState, ?_, by rw [hmode]; rfl⟩
      unfold Panel.press
      rw [hmode]
      simp [escBreakCode, spaceBreakCode, ← hmode]
  | win | lost | tie =>
      unfold Panel.press
      rw [hmode]
      exact hresult

/-- **Escape** leads to the menu from everywhere else. -/
theorem press_esc (hmode : P.mainState.popOut = none) : ∃ m, P.press escBreakCode =
    some { P with mainState := m } ∧ (m = .stop ∨ m = .mainMenu) := by
  cases hm : P.mainState with
  | stop => exact ⟨.stop, by rw [press_stop hm, ← hm], .inl rfl⟩
  | mainMenu =>
      refine ⟨P.mainState, ?_, .inr hm⟩
      unfold press
      rw [hm]
      -- in the menu Escape is no key at all
      simp [onKey, escBreakCode, spaceBreakCode, sBreakCode, wBreakCode, ← hm]
  | game | rules =>
      refine ⟨.mainMenu, ?_, .inr rfl⟩
      unfold press
      rw [hm]
      rfl
  | win | lost | tie =>
      rw [hm] at hmode
      cases hmode

/-- **To the menu.** -/
theorem Sound.space_esc (h : P.Sound) :
    ∃ P', Transition.run Panel.press P [spaceBreakCode, escBreakCode] = some P' ∧ P'.Sound ∧
      P'.Browses fun _ => False := by
  obtain ⟨m, hspace, hm⟩ := h.leaves
  obtain ⟨m', hesc, hm'⟩ := press_esc (P := { P with mainState := m }) hm
  refine ⟨{ P with mainState := m' }, ?_, h.mode m', ?_⟩
  · rw [Transition.run, hspace, Option.bind_some, Transition.run_singleton, hesc]
  · exact hm'.imp_right fun hmenu => ⟨hmenu, oneHot.settled_empty, oneHot.settled_empty⟩

/-- **One step of the marker.** -/
theorem Browses.down {V : Nat → Prop} (h : P.Browses V) (hsound : P.Sound) :
    ∃ P', P.press sBreakCode = some P' ∧ P'.Sound ∧
      (P'.mainState = .stop ∨ P'.option.toNat = (P.option.toNat + 1) % 3) ∧
      P'.Browses fun k => V k ∨ k = P.option.toNat ∨ k = P'.option.toNat := by
  rcases h with hstop | ⟨hmenu, hunselected, hselected⟩
  · exact ⟨P, press_stop hstop _, hsound, .inl hstop, .inl hstop⟩
  · have hoption : P.option = (P.option.toNat : Int) := by
      have := hsound.option
      omega
    have hdown := hsound.menu.optionDown_eq (i := P.option.toNat) (by
      have := hsound.option
      omega)
    rw [← hoption] at hdown
    have hpress : P.optionDown = some _ := Option.map_eq_some_iff.mpr ⟨_, hdown, rfl⟩
    exact ⟨_, (press_menu_down hmenu).trans hpress, hsound.optionDown hpress, .inr rfl,
      .inr ⟨hmenu, hunselected.move, hselected.move⟩⟩

/-- **Two steps put the flags right.** -/
theorem Browses.down_down (h : P.Browses fun _ => False) (hsound : P.Sound) :
    ∃ P', Transition.run Panel.press P [sBreakCode, sBreakCode] = some P' ∧ P'.Sound ∧
      P'.Heads 0 := by
  obtain ⟨Q, hQ, hsoundQ, hnextQ, hbrowsesQ⟩ := h.down hsound
  obtain ⟨R, hR, hsoundR, hnextR, hbrowsesR⟩ := hbrowsesQ.down hsoundQ
  refine ⟨R, ?_, hsoundR, ?_⟩
  · rw [Transition.run, hQ, Option.bind_some, Transition.run_singleton, hR]
  · rcases hbrowsesR with hstop | ⟨hmenu, hunselected, hselected⟩
    · exact .inl hstop
    -- a panel that has stopped stays so, but the last of the three is in the menu
    have hlive : ∀ {T : Panel}, T.mainState = .stop → T.press sBreakCode = some R → False := by
      intro T hstop hT
      cases (press_stop hstop _).symm.trans hT
      cases hstop.symm.trans hmenu
    have hQ' := hnextQ.resolve_left fun hstop => hlive hstop hR
    have hR' := hnextR.resolve_left fun hstop => hlive hstop (press_stop hstop _)
    have hP := hsound.option
    have hoption := hsoundR.option
    obtain ⟨hlengthU, hlengthS⟩ := hsoundR.menu
    -- the marker has been at all three entries
    have hall : ∀ k < 3, ((False ∨ k = P.option.toNat ∨ k = Q.option.toNat) ∨
        k = Q.option.toNat ∨ k = R.option.toNat) := by omega
    refine .inr ⟨hmenu, R.option.toNat, Nat.zero_le _, by omega, by omega, ?_⟩
    have hU := hunselected.eq (by rw [hlengthU]; exact hall)
    have hS := hselected.eq (by rw [hlengthS]; exact hall)
    rw [hlengthU] at hU
    rw [hlengthS] at hS
    exact congrArg₂ Buttons.mk hU hS

theorem menuMode_oneHot {k : Nat} (hk : k < 3) (h : P.menu = ⟨oneHot 3 k, oneHot 3 k⟩) :
    P.menuMode = if k = 1 then .rules else if k = 0 then .game else .stop := by
  -- with one flag set each test of the handler is an equality
  have hselected : ∀ i, P.menu.isSelected i = (i == k) := by
    intro i
    rw [Buttons.isSelected, h]
    exact oneHot.getD_eq hk i
  unfold menuMode
  rw [hselected, hselected, hselected]
  have hcases : k = 0 ∨ k = 1 ∨ k = 2 := by omega
  rcases hcases with rfl | rfl | rfl <;> rfl

/-- **An entry is tried**: it was Exit, or Escape comes back to it and the marker goes on. -/
theorem Heads.round {i : Nat} (h : P.Heads i) :
    ∃ P', Transition.run Panel.press P [spaceBreakCode, escBreakCode, sBreakCode] = some P' ∧
      P'.Heads (i + 1) := by
  rcases h with hstop | ⟨hmenu, k, hik, hk, hoption, hflags⟩
  · exact ⟨P, run_stop hstop _, .inl hstop⟩
  have hspace := press_menu_space hmenu
  rw [menuMode_oneHot hk hflags] at hspace
  rw [Transition.run, hspace, Option.bind_some]
  by_cases hexit : k = 2
  · rw [hexit]
    exact ⟨_, run_stop rfl _, .inl rfl⟩
  · have hcases : k = 0 ∨ k = 1 := by omega
    -- the rules and the game are left again by Escape
    obtain ⟨m, hesc, hm⟩ := press_esc (P := { P with
        mainState := if k = 1 then .rules else if k = 0 then .game else .stop }) (by
      rcases hcases with rfl | rfl <;> rfl)
    rw [Transition.run, hesc, Option.bind_some]
    rcases hm with rfl | rfl
    · exact ⟨_, run_stop rfl _, .inl rfl⟩
    · have hsized : P.menu.Sized 3 := by
        rw [hflags]
        exact ⟨oneHot.length_eq, oneHot.length_eq⟩
      have hdown := hsized.optionDown_eq hk
      rw [Nat.mod_eq_of_lt (by omega)] at hdown
      refine ⟨{ P with mainState := .mainMenu, menu := ⟨oneHot 3 (k + 1), oneHot 3 (k + 1)⟩,
                       option := (k + 1 : Nat) }, ?_,
        .inr ⟨rfl, k + 1, by omega, by omega, rfl, rfl⟩⟩
      rw [Transition.run_singleton, press_menu_down rfl]
      refine Option.map_eq_some_iff.mpr ⟨_, hoption ▸ hdown, ?_⟩
      -- the marker is taken from this entry and put at the next one
      rw [hflags, Buttons.moved, oneHot.set_set]

/-- The last entry is Exit. -/
theorem Heads.exit (h : P.Heads 2) :
    ∃ P', P.press spaceBreakCode = some P' ∧ P'.mainState = .stop := by
  rcases h with hstop | ⟨hmenu, k, hik, hk, hoption, hflags⟩
  · exact ⟨P, press_stop hstop _, hstop⟩
  · obtain rfl : k = 2 := by omega
    exact ⟨_, press_menu_space hmenu, menuMode_oneHot hk hflags⟩

/-- **The way out** of every panel. -/
theorem Sound.run_wayOut (h : P.Sound) :
    ∃ P', Transition.run Panel.press P wayOut = some P' ∧ P'.mainState = .stop := by
  obtain ⟨P₁, h₁, hsound₁, hbrowses⟩ := h.space_esc
  obtain ⟨P₂, h₂, -, hheads⟩ := hbrowses.down_down hsound₁
  obtain ⟨P₃, h₃, hheads⟩ := hheads.round
  obtain ⟨P₄, h₄, hheads⟩ := hheads.round
  obtain ⟨P₅, h₅, hstop⟩ := hheads.exit
  refine ⟨P₅, ?_, hstop⟩
  -- the eleven keys are these five stages
  have hparts : wayOut = [spaceBreakCode, escBreakCode] ++
      ([sBreakCode, sBreakCode] ++ ([spaceBreakCode, escBreakCode, sBreakCode] ++
        ([spaceBreakCode, escBreakCode, sBreakCode] ++ [spaceBreakCode]))) := rfl
  rw [hparts, Transition.run_append, h₁, Option.bind_some, Transition.run_append, h₂,
    Option.bind_some, Transition.run_append, h₃, Option.bind_some, Transition.run_append, h₄,
    Option.bind_some, Transition.run_singleton, h₅]

end Panel

/-! ## In the program -/

/-- The scancode that a keyboard interrupt reads, if it reads one without an error. -/
def Happening.typed : Happening → Option UInt8
  | .interrupt (.keyboard reads) =>
    (kbcPoll kbcRetryCnt reads).bind fun read =>
      if read.1 &&& (kbcParErr ||| kbcToErr) = 0 then some read.2 else none
  | .interrupt .timer | .interrupt (.mouse _) | .interrupt (.serial _) | .rtc _ | .arrive _ => none

/-- A keyboard interrupt that has something to read takes the scancode, or reports an error. -/
theorem Pc.kbcIh_typed {reads : List KbcRead} (h : (kbcPoll kbcRetryCnt reads).isSome = true)
    (s : Pc) :
    ((s.kbcIh reads).keyboardError = true ∧ (Happening.interrupt (.keyboard reads)).typed = none) ∨
      (s.kbcIh reads).keyboardError = false ∧
        (Happening.interrupt (.keyboard reads)).typed = some (s.kbcIh reads).scancode := by
  obtain ⟨⟨stat, code⟩, hread⟩ := Option.isSome_iff_exists.mp h
  unfold kbcIh Happening.typed
  rw [hread]
  by_cases hok : stat &&& (kbcParErr ||| kbcToErr) = 0
  · exact .inr ⟨by simp [hok], by simp [hread, hok]⟩
  · exact .inl ⟨by simp [hok], by simp [hread, hok]⟩

/-- Both scores have a picture. -/
def Table.OneDigit (t : Table) : Prop :=
  (0 ≤ t.player1Score ∧ t.player1Score < 10) ∧ 0 ≤ t.player2Score ∧ t.player2Score < 10

namespace Core

/-- An interrupt that leaves the mode, a readable time of day, and the digits for its frame. -/
def Idles (c : Core) (e : Happening) : Prop :=
  c.Allows e ∧ ∀ c', c.step e = some c' →
    c'.pc.mainState = c.pc.mainState ∧ ∀ f, (c'.dayTimeInfo.get f).toNat < 100

/-- Every keyboard interrupt has something to read, and every other one leaves the panel alone. -/
def Undisturbed (c : Core) : Happening → Prop
  | .interrupt (.keyboard reads) => (kbcPoll kbcRetryCnt reads).isSome = true
  | .interrupt .timer => c.Idles (.interrupt .timer)
  | .interrupt (.mouse reads) => c.Idles (.interrupt (.mouse reads))
  | .interrupt (.serial iir) => c.Idles (.interrupt (.serial iir))
  | .rtc d => c.Idles (.rtc d)
  | .arrive slots => c.Idles (.arrive slots)

instance (c : Core) (e : Happening) : Decidable (c.Idles e) :=
  match h : c.step e with
  | none => decidable_of_iff (c.Allows e)
      ⟨fun hok => ⟨hok, fun _ hc' => nomatch h.symm.trans hc'⟩, And.left⟩
  | some c₁ => decidable_of_iff (c.Allows e ∧ c₁.pc.mainState = c.pc.mainState ∧
      ∀ f, (c₁.dayTimeInfo.get f).toNat < 100)
      ⟨fun hok => ⟨hok.1, fun _ hc' => Option.some.inj (h.symm.trans hc') ▸ hok.2⟩,
        fun hok => ⟨hok.1, hok.2 c₁ h⟩⟩

instance (c : Core) : DecidablePred c.Undisturbed
  | .interrupt (.keyboard _) => inferInstanceAs (Decidable (_ = _))
  | .interrupt .timer => inferInstanceAs (Decidable (c.Idles _))
  | .interrupt (.mouse _) => inferInstanceAs (Decidable (c.Idles _))
  | .interrupt (.serial _) => inferInstanceAs (Decidable (c.Idles _))
  | .rtc _ => inferInstanceAs (Decidable (c.Idles _))
  | .arrive _ => inferInstanceAs (Decidable (c.Idles _))

/-- Where the keys can be used: the panel is sound, and the score of a game can be drawn. -/
structure Ready (c : Core) : Prop where
  sound : c.Sound
  panel : c.pc.panel.Sound
  digits : c.pc.mainState = .game → c.pc.table.OneDigit

variable {c c' : Core} {e : Happening} {es : List Happening} {P : Panel}

theorem ready_begin (S : Setup) : (begin S).Ready where
  sound := sound_begin S
  panel :=
    have hoption : (0 : Int) ≤ 0 ∧ (0 : Int) < 3 := by decide
    ⟨hoption, ⟨rfl, rfl⟩, ⟨rfl, rfl⟩, .inl rfl⟩
  digits hgame := by cases hgame

theorem panel_step (hsound : c.Sound) (hpanel : c.pc.panel.Sound) (hstep : c.step e = some c') :
    c'.pc.panel.Sound := by
  rcases step_pc hstep with ⟨-, hpc⟩ | ⟨i, -, hpc⟩
  · rw [hpc]
    exact hpanel
  · by_cases hkey : ∃ reads, i = .interrupt (.keyboard reads)
    · obtain ⟨reads, rfl⟩ := hkey
      have hpress := Pc.keyboardInt_panel reads c.pc
      rw [show c.pc.keyboardInt reads = some c'.pc from hpc, Option.map_some] at hpress
      split at hpress
      · rw [Option.some.inj hpress]
        exact hpanel
      · exact hpanel.press hpress.symm
    · rw [Pc.step_panel hsound.receiver (fun reads hi => hkey ⟨reads, hi⟩) hpc]
      exact hpanel.mode _

/-- The score changes only in ticks of a game, which draw it. -/
theorem Ready.step (h : c.Ready) (hallows : c.Allows e) (hstep : c.step e = some c') :
    c'.Ready := by
  refine ⟨h.sound.step hstep, panel_step h.sound h.panel hstep, fun hgame => ?_⟩
  by_cases hdraws : c.Draws c' e
  · exact (hallows c' hstep hdraws).1 hgame
  · rcases step_still h.sound hstep hdraws with hsame | ⟨-, -, hstarted⟩
    · obtain ⟨h₁, h₂⟩ := Prod.mk.inj hsame.scores
      rw [Table.OneDigit, h₁, h₂]
      exact h.digits (hsame.panel.mode.symm.trans hgame)
    · obtain ⟨h₁, h₂⟩ := Prod.mk.inj hstarted.scores
      rw [Table.OneDigit, h₁, h₂]
      decide

/-- A key scores no goal. -/
theorem digits_keyboardInt (h : c.Ready) {reads : List KbcRead} {s : Pc}
    (hkey : c.pc.keyboardInt reads = some s) (hgame : s.mainState = .game) :
    s.table.OneDigit := by
  have hzero : (0 : Int) ≤ 0 ∧ (0 : Int) < 10 := by decide
  cases Pc.keyboardInt_step hkey with
  | stay hq hmode =>
      rw [hq.table]
      exact h.digits (hmode.symm.trans hgame)
  | select _ _ hmode => rcases hmode with hm | hm <;> cases hm.symm.trans hgame
  | back _ _ hmode | leave _ _ hmode _ | quit _ _ hmode _ => cases hmode.symm.trans hgame
  | play hq _ _ _ | again _ _ hq _ _ _ =>
      rw [hq.table]
      exact ⟨hzero, hzero⟩

/-- **What is typed reaches the panel**, and nothing else does. -/
theorem Ready.type_step (h : c.Ready) (hclock : ∀ f, (c.dayTimeInfo.get f).toNat < 100)
    (hquiet : c.Undisturbed e)
    (hpress : Transition.run Panel.press c.pc.panel e.typed.toList = some P) :
    ∃ c', c.step e = some c' ∧ c.Allows e ∧ c'.pc.panel = P ∧
      ∀ f, (c'.dayTimeInfo.get f).toNat < 100 := by
  -- no key: the mode stays by assumption, and the rest of the panel in any case
  have hidle : c.Idles e → e.typed = none → (∀ reads, e ≠ .interrupt (.keyboard reads)) →
      (∃ c', c.step e = some c') → ∃ c', c.step e = some c' ∧ c.Allows e ∧ c'.pc.panel = P ∧
        ∀ f, (c'.dayTimeInfo.get f).toNat < 100 := by
    rintro ⟨hallows, hidle⟩ hnone hkey ⟨c', hstep⟩
    obtain ⟨hmode, hclock'⟩ := hidle c' hstep
    rw [hnone] at hpress
    refine ⟨c', hstep, hallows, ?_, hclock'⟩
    rw [← Option.some.inj hpress]
    rcases step_pc hstep with ⟨-, hpc⟩ | ⟨i, hi, hpc⟩
    · rw [hpc]
    · rw [Pc.step_panel h.sound.receiver (fun reads hi' => ?_) hpc, hmode]
      · rfl
      · subst hi'
        cases e with
        | interrupt j =>
            cases hi
            exact hkey reads rfl
        | rtc d => cases hi
        | arrive slots => cases hi
  cases e with
  | rtc d => exact hidle hquiet rfl (fun _ he => by cases he) ⟨_, rfl⟩
  | arrive slots => exact hidle hquiet rfl (fun _ he => by cases he) ⟨_, rfl⟩
  | interrupt i =>
      cases i with
      | timer => exact hidle hquiet rfl (fun _ he => by cases he) ⟨_, rfl⟩
      | mouse reads => exact hidle hquiet rfl (fun _ he => by cases he) ⟨_, rfl⟩
      | serial iir => exact hidle hquiet rfl (fun _ he => by cases he) ⟨_, rfl⟩
      | keyboard reads =>
          have hpanel := Pc.keyboardInt_panel reads c.pc
          have hkey : (c.pc.keyboardInt reads).map Pc.panel = some P := by
            rw [hpanel, ← hpress]
            rcases Pc.kbcIh_typed hquiet c.pc with ⟨herror, hnone⟩ | ⟨hok, hcode⟩
            · rw [if_pos herror, hnone]
              rfl
            · rw [if_neg (by rw [hok]; exact Bool.false_ne_true), hcode]
              exact (Transition.run_singleton Panel.press _ _).symm
          obtain ⟨s, hs, rfl⟩ := Option.map_eq_some_iff.mp hkey
          have hstep : c.step (.interrupt (.keyboard reads)) = some { c with pc := s } :=
            Option.map_eq_some_iff.mpr ⟨s, hs, rfl⟩
          refine ⟨_, hstep, fun c' hc' _ => ?_, rfl, hclock⟩
          cases hstep.symm.trans hc'
          exact ⟨digits_keyboardInt h hs, fun _ => hclock⟩

theorem Ready.type_run (h : c.Ready) (hclock : ∀ f, (c.dayTimeInfo.get f).toNat < 100)
    (hquiet : Transition.Along Core.step Undisturbed c es)
    (hpress : Transition.run Panel.press c.pc.panel (es.filterMap Happening.typed) = some P) :
    ∃ c', Transition.run Core.step c es = some c' ∧ Transition.Along Core.step Allows c es ∧
      c'.pc.panel = P := by
  induction es generalizing c with
  | nil => exact ⟨c, rfl, trivial, Option.some.inj hpress⟩
  | cons e es ih =>
      have hsplit : (e :: es).filterMap Happening.typed =
          e.typed.toList ++ es.filterMap Happening.typed := by
        cases ht : e.typed with
        | none => rw [List.filterMap_cons_none ht]; rfl
        | some code => rw [List.filterMap_cons_some ht]; rfl
      rw [hsplit] at hpress
      obtain ⟨Q, hQ, hrest⟩ := (Transition.run_append_eq_some Panel.press).mp hpress
      obtain ⟨c₁, hstep, hallows, rfl, hclock₁⟩ := h.type_step hclock hquiet.1 hQ
      obtain ⟨c', hrun, halong, hpanel⟩ :=
        ih (h.step hallows hstep) hclock₁ (hquiet.2 c₁ hstep) hrest
      refine ⟨c', (Transition.run_cons_eq_some Core.step).mpr ⟨c₁, hstep, hrun⟩,
        ⟨hallows, fun c₂ hc₂ => ?_⟩, hpanel⟩
      cases hstep.symm.trans hc₂
      exact halong

end Core

namespace Program

variable {S : Setup} {A : Artwork} {loads : List Bool} {main secondary : Nat → UInt8}
  {p : Program} {es : List Happening} {rs ks : List Receipt}

/-- **Every state** that the program reaches is one in which the keys can be used. -/
theorem ready_exec (h : exec S A loads main secondary es = some p) : p.core.Ready :=
  Transition.invariant_along Core.Ready (fun _ _ _ => Core.Ready.step) (Core.ready_begin S)
    ((exec_defined S A loads main secondary es).mp ⟨p, h⟩).2 (exec_core h)

/-- **The way out.** Wherever the program is, the same eleven keys end it, if the time of day can be
read and between the keys no other interrupt changes the mode. -/
theorem projMainLoop_wayOut (h : projMainLoop S A loads main secondary rs = some (p, []))
    (hclock : ∀ f, (p.dayTimeInfo.get f).toNat < 100)
    (hquiet : Transition.Along Core.step Core.Undisturbed p.core (ks.flatMap Receipt.happenings))
    (hkeys : ((ks.flatMap Receipt.happenings).filterMap Happening.typed).filter
      (· ∈ [wBreakCode, sBreakCode, spaceBreakCode, escBreakCode]) = wayOut) :
    ∃ p' rest, projMainLoop S A loads main secondary (rs ++ ks) = some (p', rest) ∧
      p'.pc.mainState = .stop := by
  have hexec := exec_of_projMainLoop h
  have hready := ready_exec hexec
  obtain ⟨P, hpress, hstop⟩ := hready.panel.run_wayOut
  rw [← hkeys, Panel.run_filter] at hpress
  obtain ⟨c, hrun, hallows, rfl⟩ := hready.type_run hclock hquiet hpress
  -- the whole run is defined, and at its end the program has stopped
  have hcore := exec_core hexec
  have hall : Transition.run Core.step (Core.begin S)
      (rs.flatMap Receipt.happenings ++ ks.flatMap Receipt.happenings) = some c :=
    (Transition.run_append_eq_some Core.step).mpr ⟨p.core, hcore, hrun⟩
  obtain ⟨q, hq⟩ := (exec_defined S A loads main secondary _).mpr
    ⟨⟨c.pc, Core.run_pc hall⟩,
      ((exec_defined S A loads main secondary _).mp ⟨p, hexec⟩).2.append fun t ht =>
        Option.some.inj (hcore.symm.trans ht) ▸ hallows⟩
  have hend : c = q.core := Option.some.inj (hall.symm.trans (exec_core hq))
  rw [hend] at hstop
  rw [← List.flatMap_append] at hq
  obtain ⟨⟨p', rest⟩, hloop⟩ := projMainLoop_of_exec hq
  refine ⟨p', rest, hloop, ?_⟩
  -- had the loop not ended, it would have been through all the deliveries
  by_contra hlive
  obtain rfl : rest = [] := rest_of_live hloop hlive
  cases hq.symm.trans (exec_of_projMainLoop hloop)
  exact hlive hstop

end Program

/-- A key that comes together with a tick. -/
def keyOnTick (code : UInt8) : Receipt :=
  .hardware ⟨timerMask ||| keyboardMask, [], [⟨some 0x01, some code⟩], [], ⟨0, fun _ => 0, []⟩, [],
    none⟩

/-- The other PC begins a game while Exit is highlighted. -/
def pulledIn : List Receipt :=
  [keyReceipt sBreakCode, keyReceipt sBreakCode,
    .hardware ⟨spMask, [.clean 0, .clean 0x10], [], [], ⟨0, fun _ => 0, []⟩, [], some iirIntId⟩]

/-- Out of this game, with a tick at each key. -/
theorem Program.projMainLoop_wayOut_pulledIn :
    ∃ p' rest, projMainLoop Setup.standard Artwork.plain [] (fun _ => 0) (fun _ => 0)
      (pulledIn ++ wayOut.map keyOnTick) = some (p', rest) ∧ p'.pc.mainState = .stop := by
  obtain ⟨p, hexec⟩ : ∃ p, exec Setup.standard Artwork.plain [] (fun _ => 0) (fun _ => 0)
      (pulledIn.flatMap Receipt.happenings) = some p := by
    rw [exec_defined]
    exact ⟨Option.isSome_iff_exists.mp (by decide +kernel), by decide +kernel⟩
  obtain ⟨c, hc, hclock, hquiet⟩ : ∃ c, Transition.run Core.step (Core.begin Setup.standard)
      (pulledIn.flatMap Receipt.happenings) = some c ∧
        (∀ f, (c.dayTimeInfo.get f).toNat < 100) ∧ Transition.Along Core.step Core.Undisturbed c
          ((wayOut.map keyOnTick).flatMap Receipt.happenings) :=
    Transition.reaches_of_any (by decide +kernel)
  obtain rfl : c = p.core := Option.some.inj (hc.symm.trans (exec_core hexec))
  exact projMainLoop_wayOut (projMainLoop_of_goesOn (by decide +kernel) hexec) hclock hquiet
    (by decide +kernel)

end AirHockey
