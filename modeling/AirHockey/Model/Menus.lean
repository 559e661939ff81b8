import AirHockey.Lib.OneHot
import AirHockey.Model.Scoring
import AirHockey.Model.Serial
import AirHockey.Model.Standard

/-! # The highlighted entry

One number, `option`, is the highlighted entry of two menus: of the main menu, and of the two
buttons below the result of a game. It changes hands when a game begins and when it ends. The Play
key hands over the first entry, but the other PC may begin a game while any entry is highlighted.

`Buttons.Shows` is the relation between `option` and the arrays of flags: exactly one flag is set
(`oneHot`), and it is that of the entry. The invariant `Paired` says to which of the two menus
`option` belongs, with the other one as at the start; `Paired.keyboardInt` shows that under it no
key leads out of the arrays. The main result, `menus_iff`, is that the menus agree with what is
shown along a run exactly if every game on it ends with Play highlighted (`EndsOnPlay`); on the
run of `menus_apart` the other PC has begun the game while Exit is. -/

namespace AirHockey

/-- Exactly the entry `option` of `size` is selected, among the sprites drawn when they are selected
and among those drawn when they are not. -/
def Buttons.Shows (buttons : Buttons) (size : Nat) (option : Int) : Prop :=
  ∃ k < size, option = k ∧ buttons = ⟨oneHot size k, oneHot size k⟩

namespace Buttons

variable {buttons : Buttons} {size : Nat} {option : Int}

theorem Shows.isSelected (h : buttons.Shows size option) (i : Nat) :
    buttons.isSelected i = true ↔ option = i := by
  obtain ⟨k, hk, rfl, rfl⟩ := h
  rw [Buttons.isSelected, oneHot.getD_eq hk]
  grind

/-- The flag is moved within the arrays. -/
theorem Shows.mark_mark (h : buttons.Shows size option) {j : Nat} (hj : j < size) :
    ∃ b : Buttons, b.Shows size j ∧ ((buttons.mark option false).bind fun b =>
      (b.mark j true).bind fun b => some (b, (j : Int))) = some (b, (j : Int)) := by
  obtain ⟨k, hk, rfl, rfl⟩ := h
  -- `option` is clear before `j` is set, both within the arrays
  refine ⟨⟨oneHot size j, oneHot size j⟩, ⟨j, hj, rfl, rfl⟩, ?_⟩
  have hclear : mark ⟨oneHot size k, oneHot size k⟩ (k : Int) false =
      some ⟨(oneHot size k).set k false, (oneHot size k).set k false⟩ := by
    rw [mark, if_pos (by simp [hk]), Int.toNat_natCast]
  have hset : mark ⟨(oneHot size k).set k false, (oneHot size k).set k false⟩ (j : Int) true =
      some ⟨oneHot size j, oneHot size j⟩ := by
    rw [mark, if_pos (by simp [hj]), Int.toNat_natCast, oneHot.set_set]
  rw [hclear, Option.bind_some, hset, Option.bind_some]

theorem Shows.optionUp (h : buttons.Shows size option) :
    ∃ b o, buttons.optionUp option size = some (b, o) ∧ b.Shows size o := by
  obtain ⟨k, hk, hoption, -⟩ := id h
  -- the new entry, as the program computes it and as a number below `size`
  have hup : (if option - 1 = -1 then (size : Int) - 1 else option - 1) =
      ((if k = 0 then size - 1 else k - 1 : Nat) : Int) := by
    split <;> split <;> omega
  obtain ⟨b, hb, heq⟩ := h.mark_mark (j := if k = 0 then size - 1 else k - 1) (by split <;> omega)
  rw [← hup] at hb heq
  exact ⟨b, _, heq, hb⟩

theorem Shows.optionDown (h : buttons.Shows size option) :
    ∃ b o, buttons.optionDown option size = some (b, o) ∧ b.Shows size o := by
  obtain ⟨k, hk, hoption, -⟩ := id h
  have hdown : (if option + 1 = (size : Int) then 0 else option + 1) =
      ((if k + 1 = size then 0 else k + 1 : Nat) : Int) := by
    split <;> split <;> omega
  obtain ⟨b, hb, heq⟩ := h.mark_mark (j := if k + 1 = size then 0 else k + 1) (by split <;> omega)
  rw [← hdown] at hb heq
  exact ⟨b, _, heq, hb⟩

/-- The flags tell which entry it is. -/
theorem Shows.unique {i j : Int} (hi : buttons.Shows size i) (hj : buttons.Shows size j) :
    i = j := by
  obtain ⟨k, hk, rfl, rfl⟩ := hi
  obtain ⟨l, hl, rfl, heq⟩ := hj
  exact congrArg _ (oneHot.inj hk (congrArg Buttons.selected heq))

theorem Shows.agree (h : buttons.Shows size option) : buttons.selected = buttons.unselected := by
  obtain ⟨k, -, -, rfl⟩ := h
  rfl

end Buttons

namespace Pc

/-- What the menus are to show, and that moving through them stays within the arrays. -/
structure MenusAgree (s : Pc) : Prop where
  menu : s.mainState = .mainMenu → s.menu.Shows 3 s.option
  winlose : s.ShowsResult → s.winlose.Shows 2 s.option
  menuFlags : s.menu.selected = s.menu.unselected
  winloseFlags : s.winlose.selected = s.winlose.unselected
  defined : ∀ reads, ∃ s', s.keyboardInt reads = some s'

/-- Until a game ends `option` belongs to the main menu, and the two buttons wait as at the
start. -/
structure AtMenu (s : Pc) : Prop where
  menu : s.menu.Shows 3 s.option
  winlose : s.winlose.Shows 2 0
  mode : ¬s.ShowsResult

/-- Below a result `option` belongs to the two buttons, and the main menu waits. -/
structure AtResult (s : Pc) : Prop where
  menu : s.menu.Shows 3 0
  winlose : s.winlose.Shows 2 s.option
  mode : s.ShowsResult ∨ s.mainState = .stop

def Paired (s : Pc) : Prop := s.AtMenu ∨ s.AtResult

theorem AtResult.not_game {s : Pc} (h : s.AtResult) : s.mainState ≠ .mainMenu ∧
    s.mainState ≠ .game ∧ s.mainState ≠ .rules := by
  have hmode := h.mode
  unfold ShowsResult at hmode
  grind

/-- No result is shown, and none has been left. -/
theorem Paired.atMenu {s : Pc} (h : s.Paired)
    (hmode : s.mainState = .mainMenu ∨ s.mainState = .game ∨ s.mainState = .rules) :
    s.AtMenu := by
  refine h.resolve_right fun hresult => ?_
  obtain ⟨hmenu, hgame, hrules⟩ := hresult.not_game
  rcases hmode with hm | hm | hm
  · exact hmenu hm
  · exact hgame hm
  · exact hrules hm

/-! ## Keys -/

/-- The flags, the entry and the mode are the same. -/
structure SamePanel (s s' : Pc) : Prop where
  option : s'.option = s.option
  menu : s'.menu = s.menu
  winlose : s'.winlose = s.winlose
  mode : s'.mainState = s.mainState

theorem SamePanel.shows {s s' : Pc} (h : s.SamePanel s') : s'.ShowsResult ↔ s.ShowsResult := by
  rw [ShowsResult, h.mode]
  rfl

theorem SamePanel.atMenu {s s' : Pc} (h : s.SamePanel s') (hs : s.AtMenu) : s'.AtMenu := by
  refine ⟨?_, ?_, mt h.shows.mp hs.mode⟩
  · rw [h.menu, h.option]
    exact hs.menu
  · rw [h.winlose]
    exact hs.winlose

theorem SamePanel.atResult {s s' : Pc} (h : s.SamePanel s') (hs : s.AtResult) : s'.AtResult := by
  refine ⟨?_, ?_, ?_⟩
  · rw [h.menu]
    exact hs.menu
  · rw [h.winlose, h.option]
    exact hs.winlose
  · rw [h.shows, h.mode]
    exact hs.mode

theorem Paired.congr {s s' : Pc} (hs : s.Paired) (h : s.SamePanel s') : s'.Paired :=
  hs.imp h.atMenu h.atResult

theorem kbcIh_panel (reads : List KbcRead) (s : Pc) : s.SamePanel (s.kbcIh reads) := by
  unfold kbcIh
  split
  · exact ⟨rfl, rfl, rfl, rfl⟩
  · split <;> exact ⟨rfl, rfl, rfl, rfl⟩

theorem onKey_keeps {inv : Pc → Prop} {f : Pc → Option Pc}
    (hf : ∀ s, inv s → ∃ s', f s = some s' ∧ inv s') (key : UInt8) {s : Pc} (h : inv s) :
    ∃ s', s.onKey key f = some s' ∧ inv s' := by
  unfold onKey
  split
  · exact hf s h
  · exact ⟨s, rfl, h⟩

/-- Two keys in a row. -/
theorem onKey_bind_keeps {inv : Pc → Prop} {f g : Pc → Option Pc}
    (hf : ∀ s, inv s → ∃ s', f s = some s' ∧ inv s')
    (hg : ∀ s, inv s → ∃ s', g s = some s' ∧ inv s') (k l : UInt8) {s : Pc} (h : inv s) :
    ∃ s', (s.onKey k f).bind (onKey l g) = some s' ∧ inv s' := by
  obtain ⟨t, ht, hinv⟩ := onKey_keeps hf k h
  obtain ⟨u, hu, hinv'⟩ := onKey_keeps hg l hinv
  exact ⟨u, by rw [ht]; exact hu, hinv'⟩

theorem AtMenu.optionUp {s : Pc} (h : s.AtMenu) : ∃ s', s.optionUp = some s' ∧ s'.AtMenu := by
  obtain ⟨b, o, heq, hb⟩ := h.menu.optionUp
  refine ⟨{ s with menu := b, option := o }, ?_, hb, h.winlose, h.mode⟩
  show (s.menu.optionUp s.option 3).bind _ = _
  rw [show (3 : Int) = (3 : Nat) from rfl, heq]
  rfl

theorem AtMenu.optionDown {s : Pc} (h : s.AtMenu) : ∃ s', s.optionDown = some s' ∧ s'.AtMenu := by
  obtain ⟨b, o, heq, hb⟩ := h.menu.optionDown
  refine ⟨{ s with menu := b, option := o }, ?_, hb, h.winlose, h.mode⟩
  show (s.menu.optionDown s.option 3).bind _ = _
  rw [show (3 : Int) = (3 : Nat) from rfl, heq]
  rfl

theorem AtResult.popOutUp {s : Pc} (h : s.AtResult) : ∃ s', s.popOutUp = some s' ∧ s'.AtResult := by
  obtain ⟨b, o, heq, hb⟩ := h.winlose.optionUp
  refine ⟨{ s with winlose := b, option := o }, ?_, h.menu, hb, h.mode⟩
  show (s.winlose.optionUp s.option 2).bind _ = _
  rw [show (2 : Int) = (2 : Nat) from rfl, heq]
  rfl

theorem AtResult.popOutDown {s : Pc} (h : s.AtResult) :
    ∃ s', s.popOutDown = some s' ∧ s'.AtResult := by
  obtain ⟨b, o, heq, hb⟩ := h.winlose.optionDown
  refine ⟨{ s with winlose := b, option := o }, ?_, h.menu, hb, h.mode⟩
  show (s.winlose.optionDown s.option 2).bind _ = _
  rw [show (2 : Int) = (2 : Nat) from rfl, heq]
  rfl

theorem AtMenu.menuKey {s : Pc} (h : s.AtMenu) : ∃ s', s.menuKey = some s' ∧ s'.AtMenu := by
  -- the three tests of the main menu come one after the other, each on what the last has left
  have hexit : ∀ {p : Prop} [Decidable p],
      AtMenu (if p then { s with mainState := .stop } else s) := by
    intro p _
    split
    · exact ⟨h.menu, h.winlose, by simp [ShowsResult]⟩
    · exact h
  have hplay : ∀ {u : Pc} {p : Prop} [Decidable p], u.AtMenu →
      AtMenu (if p then u.play else u) := by
    intro u p _ hu
    split
    · exact ⟨hu.menu, hu.winlose, by simp [ShowsResult, play, resetGameState]⟩
    · exact hu
  have hrules : ∀ {u : Pc} {p : Prop} [Decidable p], u.AtMenu →
      AtMenu (if p then { u with mainState := .rules } else u) := by
    intro u p _ hu
    split
    · exact ⟨hu.menu, hu.winlose, by simp [ShowsResult]⟩
    · exact hu
  apply onKey_bind_keeps (fun _ => AtMenu.optionDown) (fun _ => AtMenu.optionUp)
  exact hrules (hplay hexit)

theorem AtMenu.gameKey {s : Pc} (h : s.AtMenu) : s.gameKey.AtMenu := by
  unfold Pc.gameKey
  split
  · exact ⟨h.menu, h.winlose, by simp [ShowsResult, leaveGame]⟩
  · exact ⟨h.menu, h.winlose, h.mode⟩

/-- Space acts on the selected button; the other two keys move through the buttons. -/
theorem AtResult.popOutButtons {s : Pc} (h : s.AtResult) :
    ∃ s', s.popOutButtons = some s' ∧ s'.Paired := by
  by_cases hspace : s.scancode = spaceBreakCode
  -- the scancode is Space, so neither of the two moving keys
  · have hnokey : ∀ u : Pc, u.scancode = spaceBreakCode →
        (u.onKey wBreakCode Pc.popOutUp).bind (onKey sBreakCode Pc.popOutDown) = some u := by
      intro u hu
      have hw : u.scancode ≠ wBreakCode := by rw [hu]; decide
      have hs : u.scancode ≠ sBreakCode := by rw [hu]; decide
      rw [onKey, if_neg hw, Option.bind_some, onKey, if_neg hs]
    unfold Pc.popOutButtons
    dsimp only
    by_cases hagain : s.option = 0
    -- Play again: `option` is 0, which the main menu takes over
    · have hplay : s.winlose.isSelected 0 = true ∧ s.scancode = spaceBreakCode :=
        ⟨(h.winlose.isSelected 0).mpr hagain, hspace⟩
      have hleave : ¬(s.winlose.isSelected 1 = true ∧ s.scancode = spaceBreakCode) := by
        rintro ⟨h₁, -⟩
        have := (h.winlose.isSelected 1).mp h₁
        omega
      rw [if_neg hleave, if_pos hplay, hnokey]
      · refine ⟨_, rfl, .inl ⟨?_, ?_, by simp [ShowsResult, resetGameState]⟩⟩
        · show s.menu.Shows 3 s.option
          rw [hagain]
          exact h.menu
        · show s.winlose.Shows 2 0
          rw [← hagain]
          exact h.winlose
      · exact hspace
    · have hplay : ∀ u : Pc, u.winlose = s.winlose →
          ¬(u.winlose.isSelected 0 = true ∧ u.scancode = spaceBreakCode) := by
        rintro u hu ⟨h₀, -⟩
        rw [hu] at h₀
        exact hagain ((h.winlose.isSelected 0).mp h₀)
      by_cases hleave : s.winlose.isSelected 1 = true ∧ s.scancode = spaceBreakCode
      · rw [if_pos hleave, if_neg (hplay { s.serialPortResetFIFO with mainState := .stop } rfl),
          hnokey]
        · exact ⟨_, rfl, .inr ⟨h.menu, h.winlose, .inr rfl⟩⟩
        · exact hspace
      · rw [if_neg hleave, if_neg (hplay s rfl), hnokey s hspace]
        exact ⟨_, rfl, .inr h⟩
  · unfold Pc.popOutButtons
    dsimp only
    have hno : ∀ b : Bool, ¬(b = true ∧ s.scancode = spaceBreakCode) := fun _ hp => hspace hp.2
    rw [if_neg (hno (s.winlose.isSelected 1)), if_neg (hno (s.winlose.isSelected 0))]
    obtain ⟨s', hs', hinv⟩ := onKey_bind_keeps (fun _ => AtResult.popOutUp)
      (fun _ => AtResult.popOutDown) wBreakCode sBreakCode h
    exact ⟨s', hs', .inr hinv⟩

/-- **No key leads out of the arrays, or out of step.** -/
theorem Paired.keyboardInt {s : Pc} (h : s.Paired) (reads : List KbcRead) :
    ∃ s', s.keyboardInt reads = some s' ∧ s'.Paired := by
  have hpanel := kbcIh_panel reads s
  have ht := h.congr hpanel
  unfold Pc.keyboardInt
  dsimp only
  generalize s.kbcIh reads = t at ht
  split
  · exact ⟨t, rfl, ht⟩
  · have hresult : t.ShowsResult → t.AtResult := fun hshows =>
      ht.resolve_left fun hmenu => hmenu.mode hshows
    split
    case h_1 hm =>
      obtain ⟨s', hs', hinv⟩ := (ht.atMenu (.inl hm)).menuKey
      exact ⟨s', hs', .inl hinv⟩
    case h_2 hm => exact ⟨_, rfl, .inl (ht.atMenu (.inr (.inl hm))).gameKey⟩
    case h_3 hm =>
      have hrules := ht.atMenu (.inr (.inr hm))
      refine ⟨_, rfl, .inl ?_⟩
      split
      · exact ⟨hrules.menu, hrules.winlose, by simp [ShowsResult]⟩
      · exact hrules
    case h_4 hm => exact (hresult (.inl hm)).popOutButtons
    case h_5 hm => exact (hresult (.inr (.inl hm))).popOutButtons
    case h_6 hm => exact (hresult (.inr (.inr hm))).popOutButtons
    case h_7 => exact ⟨t, rfl, ht⟩

/-! ## Every input -/

/-- A game that ends does so while the entry Play is highlighted. -/
def EndsOnPlay (s : Pc) (i : Input) : Prop := i = .interrupt .timer → s.EndsGame → s.option = 0

/-- A tick moves nothing in the menus. -/
theorem timerInt_panel (s : Pc) : s.timerInt.option = s.option ∧ s.timerInt.menu = s.menu ∧
    s.timerInt.winlose = s.winlose := by
  obtain ⟨_, _, _, _, _, _, heq⟩ := timerInt_eq s
  rw [heq]
  exact ⟨rfl, rfl, rfl⟩

/-- On the tick that ends a game `option` changes hands as it is. -/
theorem AtMenu.timerInt {s : Pc} (h : s.AtMenu) :
    s.timerInt.menu.Shows 3 s.option ∧ s.timerInt.winlose.Shows 2 0 ∧
      s.timerInt.option = s.option ∧ (s.timerInt.ShowsResult ↔ s.EndsGame) := by
  obtain ⟨hoption, hmenu, hwinlose⟩ := timerInt_panel s
  refine ⟨hmenu ▸ h.menu, hwinlose ▸ h.winlose, hoption, ?_⟩
  by_cases hgame : s.mainState = .game
  · by_cases hends : s.EndsGame
    · exact iff_of_true (EndsGame.timerInt hends) hends
    · exact iff_of_false (not_showsResult ((timerInt_goesOn hgame).mpr hends) (by decide)) hends
  · refine iff_of_false ?_ fun he => hgame he.1
    rw [timerInt_of_not_game hgame]
    exact h.mode

theorem Paired.spInt {s : Pc} (h : s.Paired) (hsound : s.receiver.Sound) (iir : Option UInt8) :
    (s.spInt iir).Paired := by
  have houtcome := spInt_outcome hsound iir
  generalize s.spInt iir = s' at houtcome ⊢
  cases houtcome with
  | idle r => exact h.congr ⟨rfl, rfl, rfl, rfl⟩
  -- the other PC begins a game: `option` stays with the main menu, wherever it stands
  | start r hmode =>
      have hs := h.atMenu (.inl hmode)
      exact .inl ⟨hs.menu, hs.winlose, by simp [ShowsResult, startedBy, resetGameState]⟩
  | leave r hmode =>
      have hs := h.atMenu (.inr (.inl hmode))
      exact .inl ⟨hs.menu, hs.winlose, by simp [ShowsResult]⟩
  | payload r e _ _ => exact h.congr ⟨rfl, rfl, rfl, rfl⟩

/-- **One step**, with the exception that the guard makes. -/
theorem Paired.step {s s' : Pc} {i : Input} (h : s.Paired) (hsound : s.receiver.Sound)
    (hok : s.EndsOnPlay i) (hstep : s.step i = some s') : s'.Paired := by
  cases i with
  | arrive slots =>
      cases hstep
      exact h.congr ⟨rfl, rfl, rfl, rfl⟩
  | interrupt i =>
      cases i with
      | timer =>
          cases hstep
          rcases h with h | h
          -- only here may the owner of `option` change without a key
          · obtain ⟨hmenu, hwinlose, hoption, hresult⟩ := h.timerInt
            by_cases hends : s.EndsGame
            · have hzero : s.option = 0 := hok rfl hends
              rw [hzero] at hmenu hoption
              exact .inr ⟨hmenu, hoption.symm ▸ hwinlose, .inl (hresult.mpr hends)⟩
            · exact .inl ⟨hoption.symm ▸ hmenu, hwinlose, mt hresult.mp hends⟩
          · -- below a result a tick only counts
            rw [timerInt_of_not_game h.not_game.2.1]
            exact .inr ⟨h.menu, h.winlose, h.mode⟩
      | keyboard reads =>
          obtain ⟨t, ht, hpaired⟩ := h.keyboardInt reads
          cases hstep.symm.trans ht
          exact hpaired
      | mouse reads =>
          cases hstep
          obtain ⟨_, _, _, _, table, heq⟩ := mouseInt_eq reads s
          rw [heq]
          exact h.congr ⟨rfl, rfl, rfl, rfl⟩
      | serial iir =>
          cases hstep
          exact h.spInt hsound iir

/-- What the flags and `option` have to do with each other makes the menus agree. -/
theorem Paired.agree {s : Pc} (h : s.Paired) : s.MenusAgree where
  menu hmode := (h.atMenu (.inl hmode)).menu
  winlose hresult := (h.resolve_left fun hmenu => hmenu.mode hresult).winlose
  menuFlags := h.elim (fun h => h.menu.agree) fun h => h.menu.agree
  winloseFlags := h.elim (fun h => h.winlose.agree) fun h => h.winlose.agree
  defined reads := by
    obtain ⟨s', hs', -⟩ := h.keyboardInt reads
    exact ⟨s', hs'⟩

end Pc

theorem paired_init (S : Setup) : (init S).Paired :=
  .inl ⟨⟨0, by decide, rfl, rfl⟩, ⟨0, by decide, rfl, rfl⟩,
    Pc.not_showsResult (m := .mainMenu) rfl (by decide)⟩

/-- **When the menus agree**: as long as every game ends while Play is the highlighted entry. -/
theorem menus_iff (S : Setup) (es : List Input) :
    Transition.Always Pc.step Pc.MenusAgree (init S) es ↔
      Transition.Along Pc.step Pc.EndsOnPlay (init S) es := by
  have hbreak : ∀ (s : Pc) (i : Input), s.receiver.Sound ∧ s.Paired → ¬s.EndsOnPlay i →
      ∃ s', s.step i = some s' ∧ ¬s'.MenusAgree := by
    rintro s i ⟨-, hpaired⟩ hno
    -- a step that breaks the guard is the tick that ends a game, with another entry highlighted
    obtain ⟨rfl, hends⟩ := Classical.not_imp.mp hno
    obtain ⟨hends, hoption⟩ := Classical.not_imp.mp hends
    refine ⟨s.timerInt, rfl, fun hagree => hoption ?_⟩
    have hmenu := hpaired.atMenu (.inr (.inl hends.1))
    obtain ⟨-, hwinlose, hsame, hresult⟩ := hmenu.timerInt
    exact hsame.symm.trans ((hagree.winlose (hresult.mpr hends)).unique hwinlose)
  refine Transition.always_iff_guarded Pc.EndsOnPlay Pc.MenusAgree
    (fun s : Pc => s.receiver.Sound ∧ s.Paired) (fun _ h => h.2.agree) ?_ hbreak
    ⟨sound_init S, paired_init S⟩
  rintro s i s' ⟨hsound, hpaired⟩ hok hstep
  exact ⟨(Pc.step_sound hsound hstep).1, hpaired.step hsound hok hstep⟩

/-- The other PC begins a game while Exit is highlighted, and scores three goals. -/
-- `S` twice leads to Exit; then a start word, and three balls into the upper goal
def startedOnExit : List Input :=
  key sBreakCode ++ key sBreakCode ++ received [0, 0x10] ++
    received [0, 0x20, 0, 0xF8] ++ ticks 49 ++ received [0, 0x20, 0, 0xF8] ++ ticks 49 ++
    received [0, 0x20, 0, 0xF8] ++ ticks 82

/-- The victory is shown with the first button selected, `option` is 2, and the key `W` writes
outside the array. -/
theorem menus_apart :
    ∃ s, Transition.run Pc.step (init Setup.standard) startedOnExit = some s ∧
      (s.mainState = .win ∧ s.option = 2 ∧ s.winlose.selected = [true, false]) ∧
      s.keyboardInt [⟨some kbcObf, some wBreakCode⟩] = none ∧ ¬s.MenusAgree := by
  have hreach : ∃ s, Transition.run Pc.step (init Setup.standard) startedOnExit = some s ∧
      (s.mainState = .win ∧ s.option = 2 ∧ s.winlose.selected = [true, false]) ∧
        (s.keyboardInt [⟨some kbcObf, some wBreakCode⟩]).isNone = true :=
    Transition.reaches_of_any (by decide +kernel)
  obtain ⟨s, hrun, hwin, hnone⟩ := hreach
  have hundefined := Option.isNone_iff_eq_none.mp hnone
  refine ⟨s, hrun, hwin, hundefined, fun hagree => ?_⟩
  -- the invariant promises that every key is defined, and this one is not
  obtain ⟨s', hs'⟩ := hagree.defined [⟨some kbcObf, some wBreakCode⟩]
  rw [hundefined] at hs'
  cases hs'

end AirHockey
