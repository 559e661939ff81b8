import AirHockey.Model.Display

/-! # The panel

The keys see the mode, the highlighted entry and the flags of the two menus, and what they do with
these depends on nothing else: the panel is a machine of its own, which reads scancodes.

* `Panel.press` is this machine, `Pc.panel` what a PC shows of it, and `Pc.keyboardInt_panel` says
  that the keyboard handler is one `press` of the scancode. The keys that move through a menu come
  in pairs, as a function of the PC and one of its panel (`Scrolling`).
* `Pc.step_panel`: the other interrupts change the mode at most.
* `Panel.Sound` is the invariant of the panels of a run, which `Sound.press` keeps: after every
  result one of its two buttons is selected. -/

namespace AirHockey

/-- What the keys see and change. -/
structure Panel where
  mainState : MainState
  option : Int
  menu : Buttons
  winlose : Buttons

namespace Panel

def onKey (code key : UInt8) (f : Panel → Option Panel) (P : Panel) : Option Panel :=
  if code = key then f P else some P

def optionUp (P : Panel) : Option Panel :=
  (P.menu.optionUp P.option 3).map fun m => { P with menu := m.1, option := m.2 }

def optionDown (P : Panel) : Option Panel :=
  (P.menu.optionDown P.option 3).map fun m => { P with menu := m.1, option := m.2 }

def popOutUp (P : Panel) : Option Panel :=
  (P.winlose.optionUp P.option 2).map fun m => { P with winlose := m.1, option := m.2 }

def popOutDown (P : Panel) : Option Panel :=
  (P.winlose.optionDown P.option 2).map fun m => { P with winlose := m.1, option := m.2 }

/-- The last of the entries that Space finds selected. -/
def menuMode (P : Panel) : MainState :=
  if P.menu.isSelected 1 then .rules
  else if P.menu.isSelected 0 then .game
  else if P.menu.isSelected 2 then .stop
  else P.mainState

def popOutMode (P : Panel) : MainState :=
  if P.winlose.isSelected 0 then .game
  else if P.winlose.isSelected 1 then .stop
  else P.mainState

/-- What a scancode does: Space chooses an entry, two keys move through the entries, and Escape
leaves. -/
def press (P : Panel) (code : UInt8) : Option Panel :=
  match P.mainState with
  | .mainMenu =>
    if code = spaceBreakCode then some { P with mainState := P.menuMode }
    else (P.onKey code sBreakCode optionDown).bind (onKey code wBreakCode optionUp)
  | .game | .rules => some (if code = escBreakCode then { P with mainState := .mainMenu } else P)
  | .win | .lost | .tie =>
    if code = spaceBreakCode then some { P with mainState := P.popOutMode }
    else (P.onKey code wBreakCode popOutUp).bind (onKey code sBreakCode popOutDown)
  | .stop => some P

end Panel

namespace Pc

def panel (s : Pc) : Panel := ⟨s.mainState, s.option, s.menu, s.winlose⟩

theorem SamePanel.panel_eq {s s' : Pc} (h : s.SamePanel s') : s'.panel = s.panel := by
  rw [panel, panel, h.mode, h.option, h.menu, h.winlose]

/-! ## The handler of the keyboard works the panel -/

/-- A key that moves through a menu. -/
structure Scrolling (f : Pc → Option Pc) (g : Panel → Option Panel) : Prop where
  panel : ∀ s, (f s).map Pc.panel = g s.panel
  scancode : ∀ s s', f s = some s' → s'.scancode = s.scancode

theorem scrolling_menu (move : Buttons → Int → Option (Buttons × Int)) :
    Scrolling
      (fun s => (move s.menu s.option).bind fun m => some { s with menu := m.1, option := m.2 })
      (fun P => (move P.menu P.option).map fun m => { P with menu := m.1, option := m.2 }) where
  panel s := by
    rw [Option.map_bind, Option.map_eq_bind]
    rfl
  scancode s s' h := by
    obtain ⟨m, -, hm⟩ := Option.bind_eq_some_iff.mp h
    cases hm
    rfl

theorem scrolling_winlose (move : Buttons → Int → Option (Buttons × Int)) :
    Scrolling
      (fun s => (move s.winlose s.option).bind fun m =>
        some { s with winlose := m.1, option := m.2 })
      (fun P => (move P.winlose P.option).map fun m =>
        { P with winlose := m.1, option := m.2 }) where
  panel s := by
    rw [Option.map_bind, Option.map_eq_bind]
    rfl
  scancode s s' h := by
    -- nothing but the flags and the marker has changed
    obtain ⟨m, -, hm⟩ := Option.bind_eq_some_iff.mp h
    cases hm
    rfl

theorem scrolling_optionDown : Scrolling optionDown Panel.optionDown :=
  scrolling_menu fun b option => b.optionDown option 3

theorem scrolling_optionUp : Scrolling optionUp Panel.optionUp :=
  scrolling_menu fun b option => b.optionUp option 3

theorem scrolling_popOutDown : Scrolling popOutDown Panel.popOutDown :=
  scrolling_winlose fun b option => b.optionDown option 2

theorem scrolling_popOutUp : Scrolling popOutUp Panel.popOutUp :=
  scrolling_winlose fun b option => b.optionUp option 2

theorem Scrolling.onKey {f : Pc → Option Pc} {g : Panel → Option Panel} (h : Scrolling f g)
    (key : UInt8) (s : Pc) : (s.onKey key f).map Pc.panel = s.panel.onKey s.scancode key g := by
  unfold Pc.onKey Panel.onKey
  split
  · exact h.panel s
  · rfl

/-- The two keys at the end of a menu. -/
theorem Scrolling.onKey_bind {f f' : Pc → Option Pc} {g g' : Panel → Option Panel}
    (h : Scrolling f g) (h' : Scrolling f' g') (k l : UInt8) (s : Pc) :
    ((s.onKey k f).bind (Pc.onKey l f')).map Pc.panel =
      (s.panel.onKey s.scancode k g).bind (Panel.onKey s.scancode l g') := by
  -- the second key looks at the scancode after the first has acted, and it is the same
  rw [← h.onKey, Option.bind_map, Option.map_bind]
  cases hf : s.onKey k f with
  | none => rfl
  | some t =>
      have hcode : t.scancode = s.scancode := by
        unfold Pc.onKey at hf
        split at hf
        · exact h.scancode s t hf
        · cases hf
          rfl
      rw [Option.bind_some, Option.bind_some, Function.comp_apply, Function.comp_apply,
        h'.onKey, hcode]

/-- Space moves through no menu. -/
theorem onKey_space {f f' : Pc → Option Pc} {k l : UInt8} (hk : k ≠ spaceBreakCode)
    (hl : l ≠ spaceBreakCode) {s : Pc} (hspace : s.scancode = spaceBreakCode) :
    (s.onKey k f).bind (onKey l f') = some s := by
  rw [onKey, if_neg (by rw [hspace]; exact hk.symm), Option.bind_some, onKey,
    if_neg (by rw [hspace]; exact hl.symm)]

theorem menuKey_panel {s : Pc} (hmode : s.mainState = .mainMenu) :
    s.menuKey.map Pc.panel = s.panel.press s.scancode := by
  unfold Panel.press
  rw [show s.panel.mainState = .mainMenu from hmode]
  dsimp only
  by_cases hspace : s.scancode = spaceBreakCode
  · rw [if_pos hspace]
    unfold menuKey
    -- more than one entry may be selected, and then a later test of the handler wins
    cases hplay : s.menu.isSelected 0 <;> cases hrules : s.menu.isSelected 1 <;>
      cases hexit : s.menu.isSelected 2
    all_goals
      simp only [hspace, hplay, hrules, play, resetGameState, sendStartLeave,
        serialPortResetFIFO, and_self, and_true, if_true, if_false, Bool.false_eq_true]
      rw [onKey_space (by decide) (by decide) (by first | rfl | exact hspace)]
      simp [Pc.panel, Panel.menuMode, hplay, hrules, hexit, hmode]
  · rw [if_neg hspace]
    unfold menuKey
    simp only [hspace, and_false, if_false]
    exact scrolling_optionDown.onKey_bind scrolling_optionUp _ _ s

theorem popOutButtons_panel {s : Pc} (hmode : s.ShowsResult) :
    s.popOutButtons.map Pc.panel = s.panel.press s.scancode := by
  have hpress : s.panel.press s.scancode =
      if s.scancode = spaceBreakCode then
        some { s.panel with mainState := s.panel.popOutMode }
      else (s.panel.onKey s.scancode wBreakCode Panel.popOutUp).bind
        (Panel.onKey s.scancode sBreakCode Panel.popOutDown) := by
    unfold Panel.press
    rcases hmode with hm | hm | hm <;> rw [show s.panel.mainState = _ from hm]
  rw [hpress]
  by_cases hspace : s.scancode = spaceBreakCode
  · rw [if_pos hspace]
    unfold popOutButtons
    cases hagain : s.winlose.isSelected 0 <;> cases hleave : s.winlose.isSelected 1
    all_goals
      simp only [hspace, hagain, resetGameState, serialPortResetFIFO, and_self, and_true,
        if_true, if_false, Bool.false_eq_true]
      rw [onKey_space (by decide) (by decide) (by first | rfl | exact hspace)]
      simp [Pc.panel, Panel.popOutMode, hagain, hleave]
  · rw [if_neg hspace]
    unfold popOutButtons
    simp only [hspace, and_false, if_false]
    exact scrolling_popOutUp.onKey_bind scrolling_popOutDown _ _ s

/-- **The keyboard works the panel**, with the scancode that it has read or, when it has read none,
with the last one. -/
theorem keyboardInt_panel (reads : List KbcRead) (s : Pc) :
    (s.keyboardInt reads).map Pc.panel =
      if (s.kbcIh reads).keyboardError then some s.panel
      else s.panel.press (s.kbcIh reads).scancode := by
  have hpanel := (kbcIh_panel reads s).panel_eq
  unfold keyboardInt
  dsimp only
  rw [← hpanel]
  -- from here on the handler looks only at the state that the scancode has been read into
  generalize s.kbcIh reads = t
  split
  · rfl
  · split
    case h_1 hm => exact menuKey_panel hm
    case h_2 hm =>
      unfold Panel.press
      rw [show t.panel.mainState = .game from hm]
      unfold gameKey
      dsimp only
      split <;> rfl
    case h_3 hm =>
      unfold Panel.press
      rw [show t.panel.mainState = .rules from hm]
      dsimp only
      split <;> rfl
    case h_4 hm => exact popOutButtons_panel (.inl hm)
    case h_5 hm => exact popOutButtons_panel (.inr (.inl hm))
    case h_6 hm => exact popOutButtons_panel (.inr (.inr hm))
    case h_7 hm =>
      unfold Panel.press
      rw [show t.panel.mainState = .stop from hm]
      rfl

end Pc

/-! ## The panels of a run -/

namespace Buttons

/-- Both arrays have `size` flags. -/
def Sized (buttons : Buttons) (size : Nat) : Prop :=
  buttons.unselected.length = size ∧ buttons.selected.length = size

/-- The flags after the marker has gone from `i` to `j`. -/
def moved (buttons : Buttons) (i j : Nat) : Buttons :=
  ⟨(buttons.unselected.set i false).set j true, (buttons.selected.set i false).set j true⟩

variable {buttons : Buttons} {size : Nat} {option : Int} {m : Buttons × Int}

/-- The marker goes from one entry to another. -/
def Moves (buttons : Buttons) (size : Nat) (option : Int) (m : Buttons × Int) : Prop :=
  ∃ i j : Nat, i < size ∧ j < size ∧ option = i ∧ m = (buttons.moved i j, (j : Int))

theorem Sized.mark (h : buttons.Sized size) (i : Int) (v : Bool) :
    buttons.mark i v = if 0 ≤ i ∧ i < size then
      some ⟨buttons.unselected.set i.toNat v, buttons.selected.set i.toNat v⟩ else none := by
  unfold Buttons.mark
  congr 1
  rw [h.1, h.2, and_self]

theorem Sized.set (h : buttons.Sized size) (i : Nat) (v : Bool) :
    Sized ⟨buttons.unselected.set i v, buttons.selected.set i v⟩ size :=
  ⟨List.length_set.trans h.1, List.length_set.trans h.2⟩

theorem Sized.moved (h : buttons.Sized size) (i j : Nat) : (buttons.moved i j).Sized size :=
  (h.set i false).set j true

theorem Sized.moves (h : buttons.Sized size) {i j : Int}
    (hm : ((buttons.mark i false).bind fun b => (b.mark j true).bind fun b => some (b, j)) =
      some m) : buttons.Moves size i m := by
  obtain ⟨b, hb, hm⟩ := Option.bind_eq_some_iff.mp hm
  rw [h.mark] at hb
  split at hb
  · next hi =>
    cases hb
    obtain ⟨b, hb, hm⟩ := Option.bind_eq_some_iff.mp hm
    rw [(h.set i.toNat false).mark] at hb
    -- the second entry is marked in the arrays that the first step has left
    split at hb
    · next hj =>
      cases hb
      cases hm
      exact ⟨i.toNat, j.toNat, by omega, by omega, by omega, by rw [Int.toNat_of_nonneg hj.1]; rfl⟩
    · cases hb
  · cases hb

theorem Sized.optionUp (h : buttons.Sized size) (hm : buttons.optionUp option size = some m) :
    buttons.Moves size option m := h.moves hm

theorem Sized.optionDown (h : buttons.Sized size) (hm : buttons.optionDown option size = some m) :
    buttons.Moves size option m := h.moves hm

/-- Downwards, and from the last entry to the first. -/
theorem Sized.optionDown_eq (h : buttons.Sized size) {i : Nat} (hi : i < size) :
    buttons.optionDown i size =
      some (buttons.moved i ((i + 1) % size), (((i + 1) % size : Nat) : Int)) := by
  -- `option++` and the test for the end are a remainder
  have hdown : (if (i : Int) + 1 = (size : Int) then 0 else (i : Int) + 1) =
      (((i + 1) % size : Nat) : Int) := by
    by_cases hlast : i + 1 = size
    · rw [if_pos (by omega), hlast, Nat.mod_self]
      rfl
    · rw [if_neg (by omega), Nat.mod_eq_of_lt (by omega)]
      rfl
  have hj : (i + 1) % size < size := Nat.mod_lt _ (by omega)
  show ((buttons.mark i false).bind fun b => (b.mark _ true).bind fun b => some (b, _)) = _
  rw [hdown, h.mark, if_pos (by omega), Option.bind_some,
    (h.set _ false).mark, if_pos (by omega)]
  rfl

end Buttons

namespace Panel

/-- Moving through the menus stays within the arrays, except below a result that came while the
third entry of the menu was highlighted, and one button of a result is selected. -/
structure Sound (P : Panel) : Prop where
  option : 0 ≤ P.option ∧ P.option < 3
  menu : P.menu.Sized 3
  winlose : P.winlose.Sized 2
  chosen : P.winlose.isSelected 0 = true ∨ P.winlose.isSelected 1 = true

variable {P P' : Panel}

theorem Sound.mode (h : P.Sound) (mode : MainState) : Sound { P with mainState := mode } :=
  ⟨h.option, h.menu, h.winlose, h.chosen⟩

theorem Sound.scroll_menu (h : P.Sound) {m : Buttons × Int} (hm : P.menu.Moves 3 P.option m) :
    Sound { P with menu := m.1, option := m.2 } := by
  obtain ⟨i, j, hi, hj, -, rfl⟩ := hm
  exact ⟨⟨by simp, by simpa using hj⟩, h.menu.moved i j, h.winlose, h.chosen⟩

theorem Sound.scroll_winlose (h : P.Sound) {m : Buttons × Int}
    (hm : P.winlose.Moves 2 P.option m) : Sound { P with winlose := m.1, option := m.2 } := by
  obtain ⟨i, j, hi, hj, -, rfl⟩ := hm
  have hsized := h.winlose.moved i j
  refine ⟨⟨by simp, ?_⟩, h.menu, hsized, ?_⟩
  · show (j : Int) < 3
    omega
  · -- the entry to which the marker has come
    have hchosen : (P.winlose.moved i j).isSelected j = true := by
      have hlength : j < (P.winlose.moved i j).selected.length := by rw [hsized.2]; exact hj
      rw [Buttons.isSelected, List.getD_eq_getElem?_getD, List.getElem?_eq_getElem hlength]
      exact List.getElem_set_self _
    have hcases : j = 0 ∨ j = 1 := by omega
    rcases hcases with rfl | rfl
    · exact .inl hchosen
    · exact .inr hchosen

theorem Sound.onKey (h : P.Sound) {f : Panel → Option Panel}
    (hf : ∀ P P', Sound P → f P = some P' → Sound P') {code key : UInt8}
    (hpress : P.onKey code key f = some P') : P'.Sound := by
  unfold Panel.onKey at hpress
  split at hpress
  · exact hf P P' h hpress
  · cases hpress
    exact h

theorem Sound.optionUp (h : P.Sound) (hmove : P.optionUp = some P') : P'.Sound := by
  obtain ⟨m, hm, rfl⟩ := Option.map_eq_some_iff.mp hmove
  exact h.scroll_menu (h.menu.optionUp hm)

theorem Sound.optionDown (h : P.Sound) (hmove : P.optionDown = some P') : P'.Sound := by
  obtain ⟨m, hm, rfl⟩ := Option.map_eq_some_iff.mp hmove
  exact h.scroll_menu (h.menu.optionDown hm)

theorem Sound.popOutUp (h : P.Sound) (hmove : P.popOutUp = some P') : P'.Sound := by
  obtain ⟨m, hm, rfl⟩ := Option.map_eq_some_iff.mp hmove
  exact h.scroll_winlose (h.winlose.optionUp hm)

theorem Sound.popOutDown (h : P.Sound) (hmove : P.popOutDown = some P') : P'.Sound := by
  obtain ⟨m, hm, rfl⟩ := Option.map_eq_some_iff.mp hmove
  exact h.scroll_winlose (h.winlose.optionDown hm)

/-- **Every key** leaves the panel sound. -/
theorem Sound.press (h : P.Sound) {code : UInt8} (hpress : P.press code = some P') : P'.Sound := by
  -- the three results share one handler
  have hpopOut : ∀ {P'},
      (if code = spaceBreakCode then some { P with mainState := P.popOutMode }
        else (P.onKey code wBreakCode Panel.popOutUp).bind
          (Panel.onKey code sBreakCode Panel.popOutDown)) = some P' → P'.Sound := by
    intro P' hpress
    split at hpress
    · cases hpress
      exact h.mode _
    · obtain ⟨Q, hQ, hpress⟩ := Option.bind_eq_some_iff.mp hpress
      exact (h.onKey (fun _ _ => popOutUp) hQ).onKey (fun _ _ => popOutDown) hpress
  unfold Panel.press at hpress
  -- mode by mode, as the handler does
  split at hpress
  case h_1 =>
    split at hpress
    · cases hpress
      exact h.mode _
    · obtain ⟨Q, hQ, hpress⟩ := Option.bind_eq_some_iff.mp hpress
      exact (h.onKey (fun _ _ => optionDown) hQ).onKey (fun _ _ => optionUp) hpress
  case h_2 | h_3 =>
    cases hpress
    split
    · exact h.mode _
    · exact h
  case h_4 | h_5 | h_6 => exact hpopOut hpress
  case h_7 =>
    cases hpress
    exact h

/-- The other codes do nothing. -/
theorem press_other {code : UInt8}
    (h : code ∉ [wBreakCode, sBreakCode, spaceBreakCode, escBreakCode]) (P : Panel) :
    P.press code = some P := by
  simp only [List.mem_cons, List.not_mem_nil, or_false, not_or] at h
  obtain ⟨hw, hs, hspace, hesc⟩ := h
  unfold press
  split <;> simp [onKey, hw, hs, hspace, hesc]

end Panel

/-- **The other interrupts** change the mode at most. -/
theorem Pc.step_panel {s s' : Pc} {i : Input} (hsound : s.receiver.Sound)
    (hkey : ∀ reads, i ≠ .interrupt (.keyboard reads)) (h : s.step i = some s') :
    s'.panel = { s.panel with mainState := s'.mainState } := by
  cases i with
  | arrive slots =>
      cases h
      rfl
  | interrupt i =>
      cases i with
      | timer =>
          cases h
          obtain ⟨hoption, hmenu, hwinlose⟩ := timerInt_panel s
          rw [panel, hoption, hmenu, hwinlose]
          rfl
      | keyboard reads => exact absurd rfl (hkey reads)
      | mouse reads =>
          cases h
          have hpanel := (mouseInt_sameShow reads s).panel
          rw [hpanel.panel_eq, hpanel.mode]
          rfl
      -- of the messages only start and leave change the mode
      | serial iir =>
          cases h
          have houtcome := spInt_outcome hsound iir
          generalize s.spInt iir = s' at houtcome ⊢
          cases houtcome with
          | idle r => rfl
          | start r _ => rfl
          | leave r _ => rfl
          | payload r e _ _ => cases e <;> rfl

end AirHockey
