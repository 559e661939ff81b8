import AirHockey.Model.Handlers

/-! # What a key can do

`keyboard_int` changes menus in every mode and leaves or starts a game in some. `KeyStep` lists
the outcomes: one that touches nothing but the menus, and four that flush the receiver.

`keyboardInt_step` is the inversion lemma, with one lemma for each mode under it (`menuKey_step`,
`gameKey_step`, `popOutButtons_step`). The flags of a menu are arbitrary there, so two entries can
be selected at once; the outcomes say so. Moving through a menu comes last in every mode and
changes nothing else (`onKey_scrolls`), and the outcomes are stated up to what it changes
(`MenuOnly`). -/

namespace AirHockey

namespace Pc

/-- The state without the mode, the menus and what only the keyboard reads and writes. -/
def withoutMenus (s : Pc) : Pc :=
  { s with
    mainState := .mainMenu
    option := 0
    menu := ⟨[], []⟩
    winlose := ⟨[], []⟩
    scancode := 0
    keyboardError := false
    idleGame := 0 }

/-- `s'` differs from `s` at most in these. -/
def MenuOnly (s s' : Pc) : Prop := s'.withoutMenus = s.withoutMenus

namespace MenuOnly

variable {s t u : Pc}

theorem refl (s : Pc) : s.MenuOnly s := Eq.refl s.withoutMenus

theorem trans (h : s.MenuOnly t) (h' : t.MenuOnly u) : s.MenuOnly u := Eq.trans h' h

theorem table (h : s.MenuOnly t) : t.table = s.table := by
  have := congrArg Pc.table h
  exact this

theorem receiver (h : s.MenuOnly t) : t.receiver = s.receiver := by
  have := congrArg Pc.receiver h
  exact this

theorem previous (h : s.MenuOnly t) : t.previousX = s.previousX ∧ t.previousY = s.previousY := by
  have hx := congrArg Pc.previousX h
  have hy := congrArg Pc.previousY h
  exact ⟨hx, hy⟩

theorem clock (h : s.MenuOnly t) : t.timeCount = s.timeCount ∧
    t.timeRemaining = s.timeRemaining ∧ t.sysHz = s.sysHz := by
  have hcount := congrArg Pc.timeCount h
  have hremaining := congrArg Pc.timeRemaining h
  have hhz := congrArg Pc.sysHz h
  exact ⟨hcount, hremaining, hhz⟩

theorem applied (h : s.MenuOnly t) : t.applied = s.applied := by
  have := congrArg Pc.applied h
  exact this

end MenuOnly

/-- The mode is one in which a game has ended and its result is shown. -/
def ShowsResult (s : Pc) : Prop :=
  s.mainState = .win ∨ s.mainState = .lost ∨ s.mainState = .tie

instance (s : Pc) : Decidable s.ShowsResult := inferInstanceAs (Decidable (_ ∨ _))

/-- Space on the Play entry while another entry is selected, too. -/
def SelectsTwice (s : Pc) : Prop :=
  s.mainState = .mainMenu ∧ s.menu.isSelected 0 = true ∧ s.menu.isSelected 1 = true

instance (s : Pc) : Decidable s.SelectsTwice := inferInstanceAs (Decidable (_ ∧ _))

/-- The scancode is one for which the handler calls `serialPort_resetFIFO`. -/
def flushKey (s : Pc) : Bool :=
  match s.mainState with
  | .mainMenu => s.menu.isSelected 0 && s.scancode == spaceBreakCode
  | .game => s.scancode == escBreakCode
  | .win | .lost | .tie =>
    (s.winlose.isSelected 0 || s.winlose.isSelected 1) && s.scancode == spaceBreakCode
  | .rules | .stop => false

theorem flushKey_menu {s : Pc} (hmode : s.mainState = .mainMenu)
    (hplay : s.menu.isSelected 0 = true) (hspace : s.scancode = spaceBreakCode) :
    s.flushKey = true := by
  unfold flushKey
  rw [hmode]
  simp [hplay, hspace]

theorem flushKey_game {s : Pc} (hmode : s.mainState = .game) (hesc : s.scancode = escBreakCode) :
    s.flushKey = true := by
  unfold flushKey
  rw [hmode]
  simp [hesc]

theorem flushKey_result {s : Pc} (hmode : s.ShowsResult)
    (hselected : s.winlose.isSelected 0 = true ∨ s.winlose.isSelected 1 = true)
    (hspace : s.scancode = spaceBreakCode) : s.flushKey = true := by
  unfold flushKey
  rcases hmode with hm | hm | hm <;> rw [hm] <;> simpa [hspace] using hselected

/-- A keyboard interrupt on which the receiver is flushed. -/
def flushesOn (reads : List KbcRead) (s : Pc) : Bool :=
  !(s.kbcIh reads).keyboardError && (s.kbcIh reads).flushKey

/-! ## The outcomes -/

/-- The outcomes of `keyboard_int`, up to the menus; `F` is what is known of a key that flushes. -/
inductive KeyStep (F : Prop) (s s' : Pc) : Prop where
  | stay (h : s.MenuOnly s') (hmode : s'.mainState = s.mainState)
  | select (h : s.MenuOnly s') (hmode : s.mainState = .mainMenu)
      (hmode' : s'.mainState = .stop ∨ s'.mainState = .rules)
  | back (h : s.MenuOnly s') (hmode : s.mainState = .rules) (hmode' : s'.mainState = .mainMenu)
  | play (h : s.play.MenuOnly s') (hmode : s.mainState = .mainMenu)
      (hmode' : s'.mainState = .game ∨ s'.mainState = .rules ∧ s.SelectsTwice) (hflush : F)
  | leave (h : s.leaveGame.MenuOnly s') (hmode : s.mainState = .game)
      (hmode' : s'.mainState = .mainMenu) (hflush : F)
  | again (r : Receiver) (hr : r = s.receiver.serialPortResetFIFO ∨
        r = s.receiver.serialPortResetFIFO.serialPortResetFIFO)
      (h : MenuOnly { s with receiver := r }.resetGameState s') (hmode : s.ShowsResult)
      (hmode' : s'.mainState = .game) (hflush : F)
  | quit (h : s.serialPortResetFIFO.MenuOnly s') (hmode : s.ShowsResult)
      (hmode' : s'.mainState = .stop) (hflush : F)

/-- Moving through a menu is the last thing that a key does. -/
structure Scrolls (s s' : Pc) : Prop where
  menuOnly : s.MenuOnly s'
  mode : s'.mainState = s.mainState

theorem Scrolls.refl (s : Pc) : s.Scrolls s := ⟨.refl s, rfl⟩

theorem optionDown_scrolls {s s' : Pc} (h : s.optionDown = some s') : s.Scrolls s' := by
  obtain ⟨p, -, hp⟩ := Option.bind_eq_some_iff.mp h
  cases hp
  exact ⟨rfl, rfl⟩

theorem optionUp_scrolls {s s' : Pc} (h : s.optionUp = some s') : s.Scrolls s' := by
  obtain ⟨p, -, hp⟩ := Option.bind_eq_some_iff.mp h
  cases hp
  exact ⟨rfl, rfl⟩

theorem popOutDown_scrolls {s s' : Pc} (h : s.popOutDown = some s') : s.Scrolls s' := by
  obtain ⟨p, -, hp⟩ := Option.bind_eq_some_iff.mp h
  cases hp
  exact ⟨rfl, rfl⟩

theorem popOutUp_scrolls {s s' : Pc} (h : s.popOutUp = some s') : s.Scrolls s' := by
  obtain ⟨p, -, hp⟩ := Option.bind_eq_some_iff.mp h
  cases hp
  exact ⟨rfl, rfl⟩

theorem Scrolls.trans {s t u : Pc} (h : s.Scrolls t) (h' : t.Scrolls u) : s.Scrolls u :=
  ⟨h.menuOnly.trans h'.menuOnly, h'.mode.trans h.mode⟩

/-- The two keys at the end of a menu, in either order. -/
theorem onKey_scrolls {f g : Pc → Option Pc} (hf : ∀ s s', f s = some s' → s.Scrolls s')
    (hg : ∀ s s', g s = some s' → s.Scrolls s') {k l : UInt8} {s s' : Pc}
    (h : (s.onKey k f).bind (onKey l g) = some s') : s.Scrolls s' := by
  obtain ⟨t, ht, hu⟩ := Option.bind_eq_some_iff.mp h
  have hone : ∀ {f : Pc → Option Pc} {k : UInt8} {s s' : Pc},
      (∀ s s', f s = some s' → s.Scrolls s') → s.onKey k f = some s' → s.Scrolls s' := by
    intro f k s s' hf h
    unfold onKey at h
    split at h
    · exact hf s s' h
    · cases h
      exact .refl s
  exact (hone hf ht).trans (hone hg hu)

/-! ## Each mode -/

theorem menuKey_step {s s' : Pc} (hmode : s.mainState = .mainMenu) (h : s.menuKey = some s') :
    KeyStep (s.flushKey = true) s s' := by
  -- what the keys `S` and `W` do at the end changes the menus only
  have htail := onKey_scrolls (fun _ _ => optionDown_scrolls) (fun _ _ => optionUp_scrolls) h
  by_cases hspace : s.scancode = spaceBreakCode
  -- the three tests of the entries, for each of the eight settings of their flags
  · cases hplay : s.menu.isSelected 0 <;> cases hrules : s.menu.isSelected 1 <;>
      cases hexit : s.menu.isSelected 2
    all_goals
      simp only [play, resetGameState, sendStartLeave, serialPortResetFIFO, hspace, hplay, hrules,
        hexit, and_self, if_true, and_true, if_false, Bool.false_eq_true] at htail
    -- Play and Rules on one key: the game has begun, and the rules are shown
    case true.true.true | true.true.false =>
      exact .play (.trans rfl htail.menuOnly) hmode (.inr ⟨htail.mode, hmode, hplay, hrules⟩)
        (flushKey_menu hmode hplay hspace)
    case true.false.true | true.false.false =>
      exact .play (.trans rfl htail.menuOnly) hmode (.inl htail.mode)
        (flushKey_menu hmode hplay hspace)
    case false.true.true | false.true.false =>
      exact .select (.trans rfl htail.menuOnly) hmode (.inr htail.mode)
    case false.false.true => exact .select (.trans rfl htail.menuOnly) hmode (.inl htail.mode)
    case false.false.false => exact .stay htail.menuOnly htail.mode
  · simp only [hspace, and_false, if_false] at htail
    exact .stay htail.menuOnly htail.mode

theorem gameKey_step {s : Pc} (hmode : s.mainState = .game) :
    KeyStep (s.flushKey = true) s s.gameKey := by
  unfold gameKey
  by_cases hesc : s.scancode = escBreakCode
  · rw [if_pos hesc]
    exact .leave rfl hmode rfl (flushKey_game hmode hesc)
  · rw [if_neg hesc]
    exact .stay rfl rfl

theorem popOutButtons_step {s s' : Pc} (hmode : s.ShowsResult) (h : s.popOutButtons = some s') :
    KeyStep (s.flushKey = true) s s' := by
  have htail := onKey_scrolls (fun _ _ => popOutUp_scrolls) (fun _ _ => popOutDown_scrolls) h
  by_cases hspace : s.scancode = spaceBreakCode
  · cases hagain : s.winlose.isSelected 0 <;> cases hquit : s.winlose.isSelected 1
    all_goals
      simp only [serialPortResetFIFO, resetGameState, hspace, hagain, hquit, and_self, if_true,
        and_true, Bool.false_eq_true, if_false] at htail
    case true.true =>
      -- both entries: Leave flushes, and Play again flushes once more
      exact .again _ (.inr rfl) (.trans rfl htail.menuOnly) hmode htail.mode
        (flushKey_result hmode (.inl hagain) hspace)
    case true.false =>
      exact .again _ (.inl rfl) (.trans rfl htail.menuOnly) hmode htail.mode
        (flushKey_result hmode (.inl hagain) hspace)
    case false.true =>
      exact .quit (.trans rfl htail.menuOnly) hmode htail.mode
        (flushKey_result hmode (.inr hquit) hspace)
    case false.false => exact .stay htail.menuOnly htail.mode
  · simp only [hspace, and_false, if_false] at htail
    exact .stay htail.menuOnly htail.mode

/-! ## The whole handler -/

/-- Only the keyboard's own globals change while a scancode is read. -/
theorem kbcIh_menuOnly (reads : List KbcRead) (s : Pc) :
    s.MenuOnly (s.kbcIh reads) ∧ (s.kbcIh reads).mainState = s.mainState ∧
      (s.kbcIh reads).menu = s.menu := by
  unfold kbcIh
  split
  · exact ⟨rfl, rfl, rfl⟩
  · split <;> exact ⟨rfl, rfl, rfl⟩

/-- The outcomes depend on the scancode through the handler only. -/
theorem KeyStep.of_menuOnly {F G : Prop} (hF : F → G) {s t s' : Pc} (h : s.MenuOnly t)
    (hmode : t.mainState = s.mainState) (hmenu : t.menu = s.menu) (hstep : KeyStep F t s') :
    KeyStep G s s' := by
  have hresult : t.ShowsResult → s.ShowsResult := by
    unfold ShowsResult
    rw [hmode]
    exact id
  cases hstep with
  | stay h' hm => exact .stay (h.trans h') (hm.trans hmode)
  | select h' hm hm' => exact .select (h.trans h') (hmode ▸ hm) hm'
  | back h' hm hm' => exact .back (h.trans h') (hmode ▸ hm) hm'
  | play h' hm hm' hf =>
      -- `play` reads none of the menus' globals, so it may be taken on either state
      refine .play (.trans ?_ h') (hmode ▸ hm) (hm'.imp_right fun hr => ⟨hr.1, ?_⟩) (hF hf)
      · have := congrArg (fun u : Pc => u.play.withoutMenus) h
        exact this
      · rw [SelectsTwice, ← hmode, ← hmenu]
        exact hr.2
  | leave h' hm hm' hf =>
      refine .leave (.trans ?_ h') (hmode ▸ hm) hm' (hF hf)
      have := congrArg (fun u : Pc => u.leaveGame.withoutMenus) h
      exact this
  | again r hr h' hm hm' hf =>
      refine .again r ?_ (.trans ?_ h') (hresult hm) hm' (hF hf)
      · rwa [h.receiver] at hr
      · have := congrArg (fun u : Pc => { u with receiver := r }.resetGameState.withoutMenus) h
        exact this
  | quit h' hm hm' hf =>
      refine .quit (.trans ?_ h') (hresult hm) hm' (hF hf)
      have := congrArg (fun u : Pc => u.serialPortResetFIFO.withoutMenus) h
      exact this

/-- **What a key can do.** -/
theorem keyboardInt_step {reads : List KbcRead} {s s' : Pc} (h : s.keyboardInt reads = some s') :
    KeyStep (s.flushesOn reads = true) s s' := by
  obtain ⟨hkbc, hmode, hmenu⟩ := kbcIh_menuOnly reads s
  unfold keyboardInt at h
  simp only at h
  split at h
  -- the scancode could not be read
  · cases h
    exact .stay hkbc hmode
  · next herror =>
    have hflush : (s.kbcIh reads).flushKey = true → s.flushesOn reads = true := by
      intro hf
      rw [flushesOn, hf, Bool.eq_false_iff.mpr herror]
      rfl
    refine KeyStep.of_menuOnly hflush hkbc hmode hmenu ?_
    split at h
    case h_1 hm => exact menuKey_step hm h
    case h_2 hm =>
      cases h
      exact gameKey_step hm
    case h_3 hm =>
      cases h
      -- Escape leaves the rules, and any other key is ignored
      split
      · exact .back rfl hm rfl
      · exact .stay rfl rfl
    case h_4 hm => exact popOutButtons_step (.inl hm) h
    case h_5 hm => exact popOutButtons_step (.inr (.inl hm)) h
    case h_6 hm => exact popOutButtons_step (.inr (.inr hm)) h
    case h_7 =>
      cases h
      exact .stay rfl rfl

/-- A key during a game leaves the game, or leaves it alone. -/
theorem keyboardInt_game {reads : List KbcRead} {s s' : Pc} (hgame : s.mainState = .game)
    (h : s.keyboardInt reads = some s') :
    s.MenuOnly s' ∧ s'.mainState = .game ∨ s.leaveGame.MenuOnly s' ∧ s'.mainState = .mainMenu := by
  cases keyboardInt_step h with
  | stay hq hmode => exact .inl ⟨hq, hmode.trans hgame⟩
  | leave hq _ hmode' _ => exact .inr ⟨hq, hmode'⟩
  | select _ hmode _ | back _ hmode _ | play _ hmode _ _ => simp [hgame] at hmode
  | again _ _ _ hmode _ _ | quit _ hmode _ _ => simp [hgame, ShowsResult] at hmode

end Pc

end AirHockey
