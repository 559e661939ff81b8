import AirHockey.Model.Keys
import AirHockey.Model.Line
import AirHockey.Model.Standard

/-! # Bytes that are not there

`kbc_ih` and `mouse_ih` leave the last byte in a global, and the handlers look at it whenever no
error has been reported. None is reported when no byte could be read, and `kbc_ih` does not ask
which device a byte comes from.

`FreshOnly` is what one expects of a handler: it takes the byte that this call has read from its
own device, and does nothing visible without one. `NotFooled` says when that is so: the byte that
is looked at instead is one to which there is no reaction. `freshOnly_iff` is the equivalence, for
every state. It rests on `react_iff`, which knows of each screen exactly the keys that change
something, and on one lemma for each thing that a call can find: nothing, an undamaged byte, a
damaged one. `acts_on_old_key` shows both failures, one after the other. -/

namespace AirHockey

/-- What the player sees of the state, and the packet that is being assembled. -/
structure Visible where
  mainState : MainState
  option : Int
  menu : Buttons
  winlose : Buttons
  player1Score : Int
  player2Score : Int
  place : Object → Int × Int
  packet : List UInt8
  count : Nat

/-- The status says that the byte has been transmitted without error. -/
def Intact (stat : UInt8) : Prop := stat &&& (kbcParErr ||| kbcToErr) = 0

instance (stat : UInt8) : Decidable (Intact stat) := inferInstanceAs (Decidable (_ = _))

/-- The call reads `key` from the output buffer, without error and as a byte of the keyboard. -/
def FromKeyboard (reads : List KbcRead) (key : UInt8) : Prop :=
  ∃ stat, kbcPoll kbcRetryCnt reads = some (stat, key) ∧ stat &&& kbcObf ≠ 0 ∧ Intact stat ∧
    stat &&& kbcAux = 0

/-- The call reads `b` from the output buffer, without error and as a byte of the mouse. -/
def FromMouse (reads : List KbcRead) (b : UInt8) : Prop :=
  ∃ stat, kbcPoll kbcRetryCnt reads = some (stat, b) ∧ stat &&& kbcObf ≠ 0 ∧ Intact stat ∧
    stat &&& kbcAux ≠ 0

/-- A byte that is read has been in the output buffer. -/
theorem obf_of_kbcPoll {n : Nat} {reads : List KbcRead} {stat data : UInt8}
    (h : kbcPoll n reads = some (stat, data)) : stat &&& kbcObf ≠ 0 := by
  induction n generalizing reads with
  | zero => cases h
  | succ n ih =>
      cases reads with
      | nil => cases h
      | cons read reads =>
          unfold kbcPoll at h
          split at h
          · exact ih h
          · split at h
            · next hobf =>
                split at h
                · exact ih h
                · cases h
                  exact hobf
            · exact ih h

/-- Moving through a menu of two or more entries selects another one. -/
theorem Buttons.optionDown_ne {b b' : Buttons} {i j size : Int} (hsize : 2 ≤ size)
    (h : b.optionDown i size = some (b', j)) : j ≠ i := by
  unfold optionDown at h
  simp only [Option.bind_eq_bind, Option.bind_eq_some_iff, Option.pure_def, Option.some.injEq,
    Prod.mk.injEq] at h
  obtain ⟨_, -, _, -, -, rfl⟩ := h
  split <;> omega

theorem Buttons.optionUp_ne {b b' : Buttons} {i j size : Int} (hsize : 2 ≤ size)
    (h : b.optionUp i size = some (b', j)) : j ≠ i := by
  unfold optionUp at h
  simp only [Option.bind_eq_bind, Option.bind_eq_some_iff, Option.pure_def, Option.some.injEq,
    Prod.mk.injEq] at h
  obtain ⟨_, -, _, -, -, rfl⟩ := h
  split <;> omega

namespace Pc

def visible (s : Pc) : Visible where
  mainState := s.mainState
  option := s.option
  menu := s.menu
  winlose := s.winlose
  player1Score := s.table.player1Score
  player2Score := s.table.player2Score
  place o := (s.table.get o).place
  packet := s.packet
  count := s.count

variable {s s' : Pc}

theorem ne_visible_of_mode (h : s'.mainState ≠ s.mainState) : s'.visible ≠ s.visible :=
  fun heq => h (congrArg Visible.mainState heq)

theorem ne_visible_of_option (h : s'.option ≠ s.option) : s'.visible ≠ s.visible :=
  fun heq => h (congrArg Visible.option heq)

/-! ## Reacting to the scancode -/

/-- What `keyboard_int` does after `kbc_ih`. -/
def react (s : Pc) : Option Pc :=
  match s.mainState with
  | .mainMenu => s.menuKey
  | .game => some s.gameKey
  | .rules => some (if s.scancode = escBreakCode then { s with mainState := .mainMenu } else s)
  | .win | .lost | .tie => s.popOutButtons
  | .stop => some s

theorem keyboardInt_eq (reads : List KbcRead) (s : Pc) :
    s.keyboardInt reads =
      if (s.kbcIh reads).keyboardError then some (s.kbcIh reads) else (s.kbcIh reads).react := rfl

/-- The present screen does not react to the key. -/
def IdleKey (s : Pc) (key : UInt8) : Prop :=
  match s.mainState with
  | .mainMenu => key ≠ sBreakCode ∧ key ≠ wBreakCode ∧ (key = spaceBreakCode →
      s.menu.isSelected 0 = false ∧ s.menu.isSelected 1 = false ∧ s.menu.isSelected 2 = false)
  | .game | .rules => key ≠ escBreakCode
  | .win | .lost | .tie => key ≠ sBreakCode ∧ key ≠ wBreakCode ∧ (key = spaceBreakCode →
      s.winlose.isSelected 0 = false ∧ s.winlose.isSelected 1 = false)
  | .stop => True

/-- The two keys at the end of a menu, when neither is pressed. -/
theorem onKey_idle {f g : Pc → Option Pc} {k l : UInt8} (hk : s.scancode ≠ k)
    (hl : s.scancode ≠ l) : (s.onKey k f).bind (onKey l g) = some s := by
  unfold onKey
  rw [if_neg hk]
  exact if_neg hl

/-- One of the two keys, each of which selects another entry. -/
theorem onKey_busy {f g : Pc → Option Pc} {k l : UInt8} (hkl : k ≠ l)
    (hf : ∀ t t', f t = some t' → t'.option ≠ t.option ∧ t'.scancode = t.scancode)
    (hg : ∀ t t', g t = some t' → t'.option ≠ t.option)
    (hkey : s.scancode = k ∨ s.scancode = l)
    (h : (s.onKey k f).bind (onKey l g) = some s') : s'.option ≠ s.option := by
  obtain ⟨t, ht, ht'⟩ := Option.bind_eq_some_iff.mp h
  unfold onKey at ht ht'
  by_cases hk : s.scancode = k
  · rw [if_pos hk] at ht
    obtain ⟨hoption, hscancode⟩ := hf s t ht
    rw [if_neg (by rw [hscancode, hk]; exact hkl)] at ht'
    cases ht'
    exact hoption
  · rw [if_neg hk] at ht
    cases ht
    rw [if_pos (hkey.resolve_left hk)] at ht'
    exact hg s s' ht'

theorem optionDown_busy (h : s.optionDown = some s') :
    s'.option ≠ s.option ∧ s'.scancode = s.scancode := by
  -- the new entry comes from `optionDown` of the buttons, whatever the flags are
  obtain ⟨⟨menu, i⟩, hp, heq⟩ := Option.bind_eq_some_iff.mp h
  cases heq
  exact ⟨Buttons.optionDown_ne (by decide) hp, rfl⟩

theorem optionUp_busy (h : s.optionUp = some s') :
    s'.option ≠ s.option ∧ s'.scancode = s.scancode := by
  obtain ⟨⟨menu, i⟩, hp, heq⟩ := Option.bind_eq_some_iff.mp h
  cases heq
  exact ⟨Buttons.optionUp_ne (by decide) hp, rfl⟩

theorem popOutDown_busy (h : s.popOutDown = some s') :
    s'.option ≠ s.option ∧ s'.scancode = s.scancode := by
  obtain ⟨⟨menu, i⟩, hp, heq⟩ := Option.bind_eq_some_iff.mp h
  cases heq
  exact ⟨Buttons.optionDown_ne (by decide) hp, rfl⟩

theorem popOutUp_busy (h : s.popOutUp = some s') :
    s'.option ≠ s.option ∧ s'.scancode = s.scancode := by
  obtain ⟨⟨menu, i⟩, hp, heq⟩ := Option.bind_eq_some_iff.mp h
  cases heq
  exact ⟨Buttons.optionUp_ne (by decide) hp, rfl⟩

/-- A screen with entries: two keys move through them, and Space leaves the screen unless it finds
none selected. -/
theorem entries_iff {handler : Option Pc} {f g : Pc → Option Pc} {k l : UInt8} {unselected : Prop}
    (hkl : k ≠ l) (hk : spaceBreakCode ≠ k) (hl : spaceBreakCode ≠ l)
    (hf : ∀ t t', f t = some t' → t'.option ≠ t.option ∧ t'.scancode = t.scancode)
    (hg : ∀ t t', g t = some t' → t'.option ≠ t.option ∧ t'.scancode = t.scancode)
    (hscroll : s.scancode ≠ spaceBreakCode ∨ unselected →
      handler = (s.onKey k f).bind (onKey l g))
    (hspace : s.scancode = spaceBreakCode → ¬unselected →
      ∀ s', handler = some s' → s'.mainState ≠ s.mainState) :
    (∃ s', handler = some s' ∧ s'.visible = s.visible) ↔
      s.scancode ≠ k ∧ s.scancode ≠ l ∧ (s.scancode = spaceBreakCode → unselected) := by
  by_cases hkey : s.scancode = spaceBreakCode
  · have hnoK : s.scancode ≠ k := fun h => hk (hkey.symm.trans h)
    have hnoL : s.scancode ≠ l := fun h => hl (hkey.symm.trans h)
    by_cases hnone : unselected
    · rw [hscroll (.inr hnone)]
      exact iff_of_true ⟨s, onKey_idle hnoK hnoL, rfl⟩ ⟨hnoK, hnoL, fun _ => hnone⟩
    · refine iff_of_false ?_ fun h => hnone (h.2.2 hkey)
      rintro ⟨s', hs', hsame⟩
      exact ne_visible_of_mode (hspace hkey hnone s' hs') hsame
  · rw [hscroll (.inl hkey)]
    by_cases hmoves : s.scancode = k ∨ s.scancode = l
    · refine iff_of_false ?_ fun h => hmoves.elim h.1 h.2.1
      rintro ⟨s', hs', hsame⟩
      exact ne_visible_of_option
        (onKey_busy hkl hf (fun t t' h => (hg t t' h).1) hmoves hs') hsame
    · rw [not_or] at hmoves
      exact iff_of_true ⟨s, onKey_idle hmoves.1 hmoves.2, rfl⟩
        ⟨hmoves.1, hmoves.2, fun h => absurd h hkey⟩

/-! ### The main menu -/

/-- No entry of the main menu is selected. -/
def NoEntry (s : Pc) : Prop :=
  s.menu.isSelected 0 = false ∧ s.menu.isSelected 1 = false ∧ s.menu.isSelected 2 = false

theorem menuKey_scrolls (h : s.scancode ≠ spaceBreakCode ∨ s.NoEntry) :
    s.menuKey = (s.onKey sBreakCode optionDown).bind (onKey wBreakCode optionUp) := by
  unfold menuKey
  -- neither test for Space succeeds, for one reason or the other
  rcases h with hkey | ⟨hplay, hrules, hexit⟩
  · simp only [hkey, and_false, if_false]
  · simp only [hplay, hrules, hexit, Bool.false_eq_true, false_and, if_false]

/-- Space on a selected entry leaves the menu. -/
theorem menuKey_space (hmode : s.mainState = .mainMenu) (hkey : s.scancode = spaceBreakCode)
    (hentry : ¬s.NoEntry) (h : s.menuKey = some s') : s'.mainState ≠ s.mainState := by
  have htail := onKey_scrolls (fun _ _ => optionDown_scrolls) (fun _ _ => optionUp_scrolls) h
  rw [htail.mode, hmode]
  unfold NoEntry at hentry
  -- the entries are tested from the last to the first, so the combinations are gone through
  cases hplay : s.menu.isSelected 0 <;> cases hrules : s.menu.isSelected 1 <;>
    cases hexit : s.menu.isSelected 2
  all_goals
    simp only [play, resetGameState, sendStartLeave, serialPortResetFIFO, hkey, hplay, hrules,
      and_self, if_true, and_true, if_false, Bool.false_eq_true]
  case false.false.false => exact absurd ⟨hplay, hrules, hexit⟩ hentry
  all_goals decide

theorem menuKey_iff (hmode : s.mainState = .mainMenu) :
    (∃ s', s.menuKey = some s' ∧ s'.visible = s.visible) ↔ s.IdleKey s.scancode := by
  rw [show s.IdleKey s.scancode ↔ _ from by unfold IdleKey; rw [hmode]]
  exact entries_iff (by decide) (by decide) (by decide)
    (fun _ _ => optionDown_busy) (fun _ _ => optionUp_busy) menuKey_scrolls
    fun hkey hentry _ => menuKey_space hmode hkey hentry

/-! ### The result of a game -/

/-- No button below the result is selected. -/
def NoButton (s : Pc) : Prop :=
  s.winlose.isSelected 0 = false ∧ s.winlose.isSelected 1 = false

theorem popOutButtons_scrolls (h : s.scancode ≠ spaceBreakCode ∨ s.NoButton) :
    s.popOutButtons = (s.onKey wBreakCode popOutUp).bind (onKey sBreakCode popOutDown) := by
  unfold popOutButtons
  rcases h with hkey | ⟨hagain, hquit⟩
  · simp only [hkey, and_false, if_false]
  · simp only [hagain, hquit, Bool.false_eq_true, false_and, if_false]

/-- Space on a selected entry leaves the result. -/
theorem popOutButtons_space (hmode : s.ShowsResult) (hkey : s.scancode = spaceBreakCode)
    (hentry : ¬s.NoButton) (h : s.popOutButtons = some s') : s'.mainState ≠ s.mainState := by
  have htail := onKey_scrolls (fun _ _ => popOutUp_scrolls) (fun _ _ => popOutDown_scrolls) h
  rw [htail.mode]
  unfold NoButton at hentry
  cases hagain : s.winlose.isSelected 0 <;> cases hquit : s.winlose.isSelected 1
  all_goals
    simp only [serialPortResetFIFO, resetGameState, hkey, hagain, and_self, if_true, and_true,
      Bool.false_eq_true, if_false]
  case false.false => exact absurd ⟨hagain, hquit⟩ hentry
  all_goals rcases hmode with hm | hm | hm <;> rw [hm] <;> decide

theorem popOutButtons_iff (hmode : s.ShowsResult) :
    (∃ s', s.popOutButtons = some s' ∧ s'.visible = s.visible) ↔ s.IdleKey s.scancode := by
  have hidle : s.IdleKey s.scancode ↔ s.scancode ≠ sBreakCode ∧ s.scancode ≠ wBreakCode ∧
      (s.scancode = spaceBreakCode → s.NoButton) := by
    unfold IdleKey
    rcases hmode with hm | hm | hm <;> rw [hm] <;> rfl
  -- here the two moving keys are tested in the other order
  rw [hidle, and_left_comm]
  exact entries_iff (by decide) (by decide) (by decide)
    (fun _ _ => popOutUp_busy) (fun _ _ => popOutDown_busy) popOutButtons_scrolls
    fun hkey hentry _ => popOutButtons_space hmode hkey hentry

/-! ### Leaving a screen -/

/-- A screen that has no entries, and that the Escape key leaves. -/
theorem escape_iff {handler : Option Pc}
    (hleave : s.scancode = escBreakCode → ∀ s', handler = some s' → s'.mainState ≠ s.mainState)
    (hstay : s.scancode ≠ escBreakCode → ∃ s', handler = some s' ∧ s'.visible = s.visible) :
    (∃ s', handler = some s' ∧ s'.visible = s.visible) ↔ s.scancode ≠ escBreakCode := by
  by_cases hesc : s.scancode = escBreakCode
  · refine iff_of_false ?_ fun h => h hesc
    rintro ⟨s', hs', hsame⟩
    exact ne_visible_of_mode (hleave hesc s' hs') hsame
  · exact iff_of_true (hstay hesc) hesc

/-- **What a key changes**: nothing exactly if the present screen does not react to it. -/
theorem react_iff (s : Pc) :
    (∃ s', s.react = some s' ∧ s'.visible = s.visible) ↔ s.IdleKey s.scancode := by
  -- the screens with entries, then the two that Escape leaves, and the one that ignores all keys
  cases hmode : s.mainState with
  | mainMenu =>
      unfold react
      rw [hmode]
      exact menuKey_iff hmode
  | win | lost | tie =>
      unfold react
      rw [hmode]
      exact popOutButtons_iff (by simp [ShowsResult, hmode])
  | game =>
      unfold react IdleKey
      rw [hmode]
      apply escape_iff
      · intro hesc s' hs'
        cases hs'
        unfold gameKey
        rw [if_pos hesc, hmode]
        show MainState.mainMenu ≠ .game
        decide
      · intro hesc
        refine ⟨s.gameKey, rfl, ?_⟩
        unfold gameKey
        rw [if_neg hesc]
        rfl
  | rules =>
      unfold react IdleKey
      rw [hmode]
      apply escape_iff
      · intro hesc s' hs'
        cases hs'
        rw [if_pos hesc, hmode]
        show MainState.mainMenu ≠ .rules
        decide
      · intro hesc
        exact ⟨s, by rw [if_neg hesc], rfl⟩
  | stop =>
      unfold react IdleKey
      rw [hmode]
      exact iff_of_true ⟨s, rfl, rfl⟩ trivial

/-! ## The two handlers -/

theorem visible_kbcIh (reads : List KbcRead) (s : Pc) : (s.kbcIh reads).visible = s.visible := by
  unfold kbcIh
  split
  · rfl
  · split <;> rfl

/-- Without an error, `keyboard_int` changes what the screen makes of the scancode, be it new. -/
theorem keyboardInt_iff (s : Pc) (reads : List KbcRead) (key : UInt8)
    (herror : (s.kbcIh reads).keyboardError = false) (hkey : (s.kbcIh reads).scancode = key) :
    (∃ s', s.keyboardInt reads = some s' ∧ s'.visible = s.visible) ↔ s.IdleKey key := by
  have hsame := visible_kbcIh reads s
  -- a call of `kbc_ih` leaves the screen as it is, and with it what the screen reacts to
  have hidle : (s.kbcIh reads).IdleKey key ↔ s.IdleKey key := by
    have hmode : (s.kbcIh reads).mainState = s.mainState := congrArg Visible.mainState hsame
    have hmenu : (s.kbcIh reads).menu = s.menu := congrArg Visible.menu hsame
    have hwinlose : (s.kbcIh reads).winlose = s.winlose := congrArg Visible.winlose hsame
    unfold IdleKey
    rw [hmode, hmenu, hwinlose]
  have hreact := react_iff (s.kbcIh reads)
  rw [hkey, hidle, hsame] at hreact
  rw [keyboardInt_eq, if_neg (by simp [herror])]
  exact hreact

/-- Without an error, `mouse_int` drops nothing but a byte that cannot be the first. -/
theorem mouseInt_iff {reads : List KbcRead}
    (hih : s.mouseIh reads = { s with mouseError := false }) :
    (s.mouseInt reads).visible = s.visible ↔ s.count = 0 ∧ s.byte &&& syncBit = 0 := by
  unfold mouseInt
  rw [hih]
  by_cases hdrop : s.count = 0 ∧ s.byte &&& syncBit = 0
  · refine iff_of_true ?_ hdrop
    dsimp only
    rw [if_neg Bool.false_ne_true, if_pos hdrop]
    rfl
  · refine iff_of_false (fun hsame => ?_) hdrop
    have hcount := congrArg Visible.count hsame
    dsimp only at hcount
    rw [if_neg Bool.false_ne_true, if_neg hdrop] at hcount
    split at hcount
    · next hthird =>
        change 0 = s.count at hcount
        omega
    · change s.count + 1 = s.count at hcount
      omega

/-- The handlers react to nothing but what the same call has read from their own device. -/
def FreshOnly (s : Pc) : Interrupt → Prop
  | .keyboard reads =>
    (∀ key, FromKeyboard reads key → (s.kbcIh reads).scancode = key) ∧
      ((¬∃ key, FromKeyboard reads key) →
        ∃ s', s.keyboardInt reads = some s' ∧ s'.visible = s.visible)
  | .mouse reads =>
    (∀ b, FromMouse reads b → (s.mouseIh reads).byte = b) ∧
      ((¬∃ b, FromMouse reads b) → (s.mouseInt reads).visible = s.visible)
  | .timer | .serial _ => True

/-- A byte that is old, or of the other device, is one to which there is no reaction. -/
def NotFooled (s : Pc) : Interrupt → Prop
  | .keyboard reads =>
    (kbcPoll kbcRetryCnt reads = none → s.IdleKey s.scancode) ∧
      ∀ stat key, kbcPoll kbcRetryCnt reads = some (stat, key) → Intact stat →
        stat &&& kbcAux ≠ 0 → s.IdleKey key
  | .mouse reads =>
    kbcPoll kbcRetryCnt reads = none → s.count = 0 ∧ s.byte &&& syncBit = 0
  | .timer | .serial _ => True

/-! ### The keyboard -/

section

variable {reads : List KbcRead} {stat data : UInt8}

/-- No byte: the scancode is that of an earlier call. -/
theorem freshOnly_of_none (hpoll : kbcPoll kbcRetryCnt reads = none) :
    s.FreshOnly (.keyboard reads) ↔ s.IdleKey s.scancode := by
  have hno : ∀ key, ¬FromKeyboard reads key := by
    rintro key ⟨stat, hread, -⟩
    cases hpoll.symm.trans hread
  have hih : s.kbcIh reads = { s with keyboardError := false } := by rw [kbcIh, hpoll]
  have hiff := keyboardInt_iff s reads s.scancode (by rw [hih]) (by rw [hih])
  constructor
  · rintro ⟨-, hsame⟩
    exact hiff.mp (hsame (not_exists.mpr hno))
  · intro hidle
    exact ⟨fun key hkey => absurd hkey (hno key), fun _ => hiff.mpr hidle⟩

/-- An undamaged byte: nobody asks whose it is. -/
theorem freshOnly_of_intact (hpoll : kbcPoll kbcRetryCnt reads = some (stat, data))
    (hintact : Intact stat) :
    s.FreshOnly (.keyboard reads) ↔ (stat &&& kbcAux ≠ 0 → s.IdleKey data) := by
  have hih : s.kbcIh reads = { s with keyboardError := false, scancode := data } := by
    unfold kbcIh
    rw [hpoll]
    exact if_pos hintact
  have hiff := keyboardInt_iff s reads data (by rw [hih]) (by rw [hih])
  have hfirst : ∀ key, FromKeyboard reads key → (s.kbcIh reads).scancode = key := by
    rintro key ⟨_, hread, -⟩
    cases hpoll.symm.trans hread
    rw [hih]
  -- the byte may be one of the keyboard or, with the flag `AUX`, one of the mouse
  by_cases haux : stat &&& kbcAux = 0
  · have hfresh : FromKeyboard reads data := ⟨stat, hpoll, obf_of_kbcPoll hpoll, hintact, haux⟩
    exact iff_of_true ⟨hfirst, fun hno => absurd ⟨data, hfresh⟩ hno⟩ fun hforeign =>
      absurd haux hforeign
  · have hno : ∀ key, ¬FromKeyboard reads key := by
      rintro key ⟨_, hread, -, -, hclear⟩
      cases hpoll.symm.trans hread
      exact haux hclear
    constructor
    · rintro ⟨-, hsame⟩ -
      exact hiff.mp (hsame (not_exists.mpr hno))
    · intro hidle
      exact ⟨hfirst, fun _ => hiff.mpr (hidle haux)⟩

/-- A damaged byte is reported, and nothing happens. -/
theorem freshOnly_of_damaged (hpoll : kbcPoll kbcRetryCnt reads = some (stat, data))
    (hdamaged : ¬Intact stat) : s.FreshOnly (.keyboard reads) := by
  have hih : s.kbcIh reads = { s with keyboardError := true } := by
    unfold kbcIh
    rw [hpoll]
    exact if_neg hdamaged
  constructor
  · rintro key ⟨_, hread, -, hok, -⟩
    cases hpoll.symm.trans hread
    exact absurd hok hdamaged
  · intro _
    refine ⟨{ s with keyboardError := true }, ?_, rfl⟩
    rw [keyboardInt_eq, hih]
    rfl

end

theorem keyboard_freshOnly_iff (s : Pc) (reads : List KbcRead) :
    s.FreshOnly (.keyboard reads) ↔ s.NotFooled (.keyboard reads) := by
  unfold NotFooled
  dsimp only
  -- nothing, an undamaged byte, or a damaged one
  cases hpoll : kbcPoll kbcRetryCnt reads with
  | none =>
      rw [freshOnly_of_none hpoll]
      constructor
      · intro hidle
        exact ⟨fun _ => hidle, nofun⟩
      · rintro ⟨hidle, -⟩
        exact hidle rfl
  | some read =>
      obtain ⟨stat, data⟩ := read
      by_cases hintact : Intact stat
      · rw [freshOnly_of_intact hpoll hintact]
        constructor
        · intro hidle
          refine ⟨nofun, ?_⟩
          rintro _ _ ⟨rfl, rfl⟩ -
          exact hidle
        · rintro ⟨-, hidle⟩
          exact hidle stat data rfl hintact
      · refine iff_of_true (freshOnly_of_damaged hpoll hintact) ⟨nofun, ?_⟩
        rintro _ _ ⟨rfl, rfl⟩ hok
        exact absurd hok hintact

/-! ### The mouse -/

theorem mouse_freshOnly_iff (s : Pc) (reads : List KbcRead) :
    s.FreshOnly (.mouse reads) ↔ s.NotFooled (.mouse reads) := by
  unfold FreshOnly NotFooled
  dsimp only
  -- `mouse_ih` does ask whose byte it is, so only the first case is left
  cases hpoll : kbcPoll kbcRetryCnt reads with
  | none =>
      have hno : ∀ b, ¬FromMouse reads b := by
        rintro b ⟨stat, hread, -⟩
        cases hpoll.symm.trans hread
      have hih : s.mouseIh reads = { s with mouseError := false } := by rw [mouseIh, hpoll]
      rw [mouseInt_iff hih]
      constructor
      · rintro ⟨-, hsame⟩ -
        exact hsame (not_exists.mpr hno)
      · exact fun hdrop => ⟨fun b hb => absurd hb (hno b), fun _ => hdrop rfl⟩
  | some read =>
      obtain ⟨stat, data⟩ := read
      have hobf := obf_of_kbcPoll hpoll
      refine iff_of_true ⟨?_, fun hno => ?_⟩ nofun
      · rintro b ⟨_, hread, -, hok, haux⟩
        cases hpoll.symm.trans hread
        unfold mouseIh
        rw [hpoll]
        show (if _ then _ else _ : Pc).byte = _
        rw [if_pos ⟨hok, haux⟩]
      · -- read, but not as a byte of the mouse: an error is reported
        have hih : s.mouseIh reads = { s with mouseError := true } := by
          unfold mouseIh
          rw [hpoll]
          exact if_neg fun hok => hno ⟨data, stat, hpoll, hobf, hok.1, hok.2⟩
        unfold mouseInt
        rw [hih]
        rfl

end Pc

/-- **When the handlers act only on fresh bytes of their own device**: where the byte that they look
at is old, or the keyboard's is one of the mouse, it has to be one that they ignore. -/
theorem freshOnly_iff (s : Pc) (i : Interrupt) : s.FreshOnly i ↔ s.NotFooled i := by
  cases i with
  | timer | serial iir => exact Iff.rfl
  | keyboard reads => exact Pc.keyboard_freshOnly_iff s reads
  | mouse reads => exact Pc.mouse_freshOnly_iff s reads

/-- The ESC key, as it looks when it is a byte of the mouse. -/
def foreignEsc : List KbcRead := [⟨some (kbcObf ||| kbcAux), some escBreakCode⟩]

/-- The other player has left the game that the Play key began. A keyboard interrupt without a byte
begins another one; one with a byte of the mouse leaves it. -/
theorem acts_on_old_key :
    ∃ s s' s'', Transition.run Pc.step (init Setup.standard)
        (key spaceBreakCode ++ received [0, 0x10]) = some s ∧ s.mainState = .mainMenu ∧
      s.keyboardInt [] = some s' ∧ s'.mainState = .game ∧
      s'.keyboardInt foreignEsc = some s'' ∧ s''.mainState = .mainMenu ∧
      ¬s.FreshOnly (.keyboard []) ∧ ¬s'.FreshOnly (.keyboard foreignEsc) := by
  have hreach : ∃ s, Transition.run Pc.step (init Setup.standard)
      (key spaceBreakCode ++ received [0, 0x10]) = some s ∧
        (s.mainState = .mainMenu ∧ s.scancode = spaceBreakCode ∧ s.menu.isSelected 0 = true) ∧
        (Transition.run Pc.step s [.interrupt (.keyboard [])]).any (fun s' =>
          s'.mainState = .game ∧ (Transition.run Pc.step s' [.interrupt (.keyboard foreignEsc)]).any
            (fun s'' => s''.mainState = .mainMenu) = true) = true :=
    Transition.reaches_of_any (by decide +kernel)
  obtain ⟨s, hrun, ⟨hmenu, hold, hplay⟩, hnext⟩ := hreach
  obtain ⟨s', hs', hgame, hnext⟩ := Transition.reaches_of_any hnext
  obtain ⟨s'', hs'', hmenu'⟩ := Transition.reaches_of_any hnext
  rw [Transition.run_singleton] at hs' hs''
  refine ⟨s, s', s'', hrun, hmenu, hs', hgame, hs'', hmenu', ?_, ?_⟩
  -- the old scancode is Space, and Play is selected
  · rw [Pc.keyboard_freshOnly_iff]
    rintro ⟨hidle, -⟩
    have hidle := hidle rfl
    unfold Pc.IdleKey at hidle
    rw [hmenu, hold] at hidle
    simp [hplay] at hidle
  -- the byte of the mouse is the scancode of Escape
  · rw [Pc.keyboard_freshOnly_iff]
    rintro ⟨-, hidle⟩
    have hidle := hidle _ escBreakCode rfl (by decide) (by decide)
    unfold Pc.IdleKey at hidle
    rw [hgame] at hidle
    exact hidle rfl

end AirHockey
