import AirHockey.Model.Handshake
import AirHockey.Model.Panel

/-! # Start/leave words that are thrown away

A flush throws away whatever has arrived, start/leave words among it. Two PCs never find out that
this has happened: whether they are in the same mode is a matter of how many start/leave words
have been thrown away since they were started, and of nothing else.

`Pc.FlushAct` lists what a flush can be, and `Pc.handle_flush` proves the list complete: keys that
start, leave or close a game, and the word that starts one. `Coherent.flush` is the step of the
two PCs with a flush: as in `Toggle.lose`, the words vanish and then the PC takes its turn.
Together with the orderly steps this is `parity_step`, and `Transition.invariant_total` adds up
the words of a run for the main result, `modes_parity`. -/

namespace AirHockey

theorem Panel.menuMode_play {P : Panel} (hplay : P.menu.isSelected 0 = true)
    (hrules : ¬P.menu.isSelected 1 = true) : P.menuMode = .game := by
  unfold menuMode
  rw [if_neg hrules, if_pos hplay]

theorem Panel.popOutMode_selected {P : Panel}
    (h : P.winlose.isSelected 0 = true ∨ P.winlose.isSelected 1 = true) :
    P.popOutMode = .game ∨ P.popOutMode = .stop := by
  unfold popOutMode
  by_cases hagain : P.winlose.isSelected 0 = true
  · exact .inl (if_pos hagain)
  · right
    rw [if_neg hagain, if_pos (h.resolve_left hagain)]

namespace Pc

/-! ## What a flush means to the other PC -/

/-- The modes before and after a key that flushes. -/
def FlushedTo (mode mode' : MainState) : Prop :=
  mode = .mainMenu ∧ mode' = .game ∨ mode = .game ∧ mode' = .mainMenu ∨
    (mode = .win ∨ mode = .lost ∨ mode = .tie) ∧ (mode' = .game ∨ mode' = .stop)

/-- A flush, with the number of start/leave words taken before it. -/
inductive FlushAct (s s' : Pc) : Nat → List Message → Prop where
  | play (hmode : s.mainState = .mainMenu) (hmode' : s'.mainState = .game)
      (hrole : s'.table.isMainPc = true) : FlushAct s s' 0 [.signal]
  | leave (hmode : s.mainState = .game) (hmode' : s'.mainState = .mainMenu)
      (hrole : s'.table.isMainPc = s.table.isMainPc) : FlushAct s s' 0 [.signal]
  | close (hmode : s.ShowsResult) (hmode' : s'.mainState = .game ∨ s'.mainState = .stop)
      (hrole : s'.table.isMainPc = s.table.isMainPc) : FlushAct s s' 0 []
  | start (bytes : List UInt8) (hmode : s.mainState = .mainMenu) (hmode' : s'.mainState = .game)
      (hrole : s'.table.isMainPc = false)
      (hwaiting : s.receiver.waiting = wordBytes signal1 ++ bytes) : FlushAct s s' 1 []

section

variable {s s' : Pc}

/-- A key that flushes changes the mode. -/
theorem press_flushKey {P : Panel} (hkey : s.flushKey = true) (honce : ¬s.SelectsTwice)
    (h : s.panel.press s.scancode = some P) : FlushedTo s.mainState P.mainState := by
  have hresult : s.ShowsResult →
      ((s.winlose.isSelected 0 || s.winlose.isSelected 1) && s.scancode == spaceBreakCode) = true →
      FlushedTo s.mainState P.mainState := by
    intro hmode hkey
    rw [Bool.and_eq_true, Bool.or_eq_true, beq_iff_eq] at hkey
    obtain ⟨hselected, hspace⟩ := hkey
    have hpress : s.panel.press s.scancode =
        some { s.panel with mainState := s.panel.popOutMode } := by
      unfold Panel.press
      rcases hmode with hm | hm | hm <;> rw [show s.panel.mainState = _ from hm] <;>
        exact if_pos hspace
    rw [hpress] at h
    cases h
    exact .inr (.inr ⟨hmode, Panel.popOutMode_selected hselected⟩)
  unfold flushKey at hkey
  split at hkey
  case h_1 hm =>
    rw [Bool.and_eq_true, beq_iff_eq] at hkey
    obtain ⟨hplay, hspace⟩ := hkey
    unfold Panel.press at h
    rw [show s.panel.mainState = .mainMenu from hm] at h
    dsimp only at h
    rw [if_pos hspace] at h
    cases h
    -- Play alone is selected, so none of the later tests of the menu finds anything
    exact .inl ⟨hm, Panel.menuMode_play hplay fun hrules => honce ⟨hm, hplay, hrules⟩⟩
  case h_2 hm =>
    rw [beq_iff_eq] at hkey
    unfold Panel.press at h
    rw [show s.panel.mainState = .game from hm] at h
    dsimp only at h
    rw [if_pos hkey] at h
    cases h
    exact .inr (.inl ⟨hm, rfl⟩)
  case h_3 hm => exact hresult (.inl hm) hkey
  case h_4 hm => exact hresult (.inr (.inl hm)) hkey
  case h_5 hm => exact hresult (.inr (.inr hm)) hkey
  all_goals cases hkey

theorem flushesOn_mode {reads : List KbcRead} (hflush : s.flushesOn reads = true)
    (honce : ¬s.SelectsTwice) (h : s.keyboardInt reads = some s') :
    FlushedTo s.mainState s'.mainState := by
  obtain ⟨-, hmode, hmenu⟩ := kbcIh_menuOnly reads s
  rw [flushesOn, Bool.and_eq_true, Bool.not_eq_true'] at hflush
  obtain ⟨herror, hkey⟩ := hflush
  have hpanel := keyboardInt_panel reads s
  rw [h, herror, if_neg Bool.false_ne_true, ← (kbcIh_panel reads s).panel_eq] at hpanel
  rw [← hmode]
  refine press_flushKey hkey ?_ hpanel.symm
  rw [SelectsTwice, hmode, hmenu]
  exact honce

theorem FlushedTo.not_drifts {mode mode' : MainState} (h : FlushedTo mode mode')
    (hgame : mode ≠ .game) : ¬Drifts mode mode' := by
  rcases h with ⟨rfl, rfl⟩ | ⟨rfl, -⟩ | ⟨rfl | rfl | rfl, rfl | rfl⟩
  case inr.inl => exact absurd rfl hgame
  all_goals simp [Drifts]

theorem FlushedTo.of_menu {mode' : MainState} (h : FlushedTo .mainMenu mode') : mode' = .game := by
  rcases h with ⟨-, h⟩ | ⟨h, -⟩ | ⟨h | h | h, -⟩
  · exact h
  all_goals cases h

/-- Outside a game, a key that changes the mode by a flush starts one or closes a result. -/
theorem Act.flush {reads : List KbcRead} {ms : List Message}
    (hact : Act (.keyboard reads) s s' ms) (hto : FlushedTo s.mainState s'.mainState)
    (hgame : s.mainState ≠ .game) :
    FlushAct s s' 0 ms ∧ (s'.receiver = s.receiver.serialPortResetFIFO ∨
      s'.receiver = s.receiver.serialPortResetFIFO.serialPortResetFIFO) := by
  cases hact with
  | quiet ms _ _ hdrifts _ => exact absurd hdrifts (hto.not_drifts hgame)
  | play hr hmode _ hrole _ _ => exact ⟨.play hmode (hmode ▸ hto).of_menu hrole, .inl hr⟩
  | leave _ hmode _ _ _ _ => exact absurd hmode hgame
  | close hr hmode hmode' hrole _ _ => exact ⟨.close hmode hmode' hrole, hr⟩
  | serial ms r _ hstep =>
      exfalso
      generalize hpc : s' = t at hstep
      cases hstep with
      | idle _ _ => exact hto.not_drifts hgame (.inl (by rw [hpc]))
      | drop _ _ _ _ _ _ => exact hto.not_drifts hgame (.inl (by rw [hpc]))
      | start _ hmode _ _ _ hkey =>
          have htaken := (hkey hmode).2
          cases htaken
      | leave hmode _ _ => exact hgame hmode
      | payload _ _ hmode _ _ _ _ _ => exact hgame hmode

/-- **Every key that flushes.** -/
theorem keyboardInt_flush {reads : List KbcRead} (hidle : s.table.tx.slots = [])
    (hreceiver : s.receiver.Healthy) (hstored : s.receiver.isStoredX = false)
    (hflush : s.flushesOn reads = true) (honce : ¬s.SelectsTwice)
    (h : s.keyboardInt reads = some s') :
    ∃ ms, FlushAct s s' 0 ms ∧ s.Told s' ms ∧ s'.receiver.waiting = [] := by
  obtain ⟨hhealthy, hkept, hempty⟩ := hreceiver.serialPortResetFIFO
  have hto := flushesOn_mode hflush honce h
  -- in a game Escape is the only key that flushes; elsewhere the acts say what it was
  by_cases hgame : s.mainState = .game
  · have hmode' : s'.mainState = .mainMenu := by
      rw [hgame] at hto
      simpa [FlushedTo] using hto
    obtain ⟨-, hstay⟩ | ⟨hq, -⟩ := keyboardInt_game hgame h
    · rw [hstay] at hmode'
      cases hmode'
    · refine ⟨[.signal], .leave hgame hmode' (by rw [hq.table]; rfl), .of_tell ?_, ?_⟩
      · rw [hq.table, ← Transmitter.sendSignal_tell hidle]
        rfl
      · rw [hq.receiver]
        exact hempty hstored
  · obtain ⟨ms, hact, htold, -⟩ := keyboardInt_act hidle h
    obtain ⟨hflushed, hr⟩ := hact.flush hto hgame
    refine ⟨ms, hflushed, htold, ?_⟩
    rcases hr with hr | hr
    · rw [hr]
      exact hempty hstored
    -- both buttons were selected, so the queue was emptied twice
    · rw [hr]
      exact hhealthy.serialPortResetFIFO.2.2 (hkept.trans hstored)

/-- A start/leave word that is taken in the menu starts a game. -/
theorem spInt_menu {iir : Option UInt8} (hmode : s.mainState = .mainMenu)
    (htakes : s.TakesSignal iir) : (s.spInt iir).mainState = .game := by
  unfold TakesSignal tempX at htakes
  rw [hmode] at htakes
  obtain ⟨⟨w, r⟩, hread, hw⟩ := Option.map_eq_some_iff.mp htakes
  obtain rfl : w = signal1 := hw
  unfold spInt
  rw [hmode]
  dsimp only
  unfold spMenu
  rw [show ({ s with receiver := s.receiver.spIh iir } : Pc).receiver.readNextSignal = _ from hread]
  dsimp only
  rw [if_pos rfl]
  rfl

/-- The word that starts a game is followed by a flush. -/
theorem spInt_flush {iir : Option UInt8} (hreceiver : s.receiver.Healthy)
    (hstored : s.receiver.isStoredX = false) (hmode : s.mainState = .mainMenu)
    (htakes : s.TakesSignal iir) (hroom : s.SerialFits iir) :
    FlushAct s (s.spInt iir) 1 [] ∧ s.Told (s.spInt iir) [] ∧
      (s.spInt iir).receiver.waiting = [] := by
  have hmode' := spInt_menu hmode htakes
  obtain ⟨r, -, hstep⟩ := spInt_step hreceiver (fun _ => hstored) hroom
  generalize s.spInt iir = s' at hmode' hstep ⊢
  cases hstep with
  | idle _ _ => simp [hmode] at hmode'
  | drop _ _ _ _ _ _ => simp [hmode] at hmode'
  | start bytes _ hwaiting hempty _ _ =>
      refine ⟨.start bytes hmode rfl rfl hwaiting, ⟨?_, ?_, rfl⟩, hempty⟩
      · exact (List.append_nil _).symm
      · exact (List.append_nil _).symm
  | leave hm _ _ => simp [hmode] at hm
  | payload _ _ hm _ _ _ _ _ => simp [hmode] at hm

/-- **What a flush can be.** -/
theorem handle_flush {i : Interrupt} (hidle : s.table.tx.slots = [])
    (hreceiver : s.receiver.Healthy) (hstored : s.receiver.isStoredX = false)
    (hflush : s.Flushes i) (honce : taken i = 0 → ¬s.SelectsTwice) (hfits : s.Fits i)
    (h : s.handle i = some s') :
    ∃ ms, FlushAct s s' (taken i) ms ∧ s.Told s' ms ∧ s'.receiver.waiting = [] := by
  cases i with
  | timer => cases hflush
  | mouse reads => cases hflush
  | keyboard reads => exact keyboardInt_flush hidle hreceiver hstored hflush (honce rfl) h
  | serial iir =>
      cases h
      exact ⟨[], spInt_flush hreceiver hstored hflush.1 hflush.2 hfits⟩

end

end Pc

namespace Session

/-! ## A link with losses -/

/-- A flush that does not cut a message; start/leave words may be lost. -/
structure WholeFlush (σ : Session) (p : Side) (i : Interrupt) : Prop where
  unstored : (σ.pc p).receiver.isStoredX = false
  wholeWords : 2 ∣ σ.arrived p
  wholeMessages : (σ.pc p).mainState ≠ .game → σ.BetweenMessages p
  once : Pc.taken i = 0 → ¬(σ.pc p).SelectsTwice

/-- No flush cuts a message, and the queue never overflows. -/
def Uncut (σ : Session) : Event → Prop
  | .interrupt p i => ((σ.pc p).Flushes i → σ.WholeFlush p i) ∧ (σ.pc p).Fits i
  | .deliver _ => True

/-- The start/leave words that a flush throws away besides the one that has just been taken. -/
def thrownAway (σ : Session) : Event → Nat
  | .interrupt p i =>
    if (σ.pc p).Flushes i then signals (σ.pc p).receiver.waiting - Pc.taken i else 0
  | .deliver _ => 0

/-! ## One step -/

section

variable {σ σ' : Session} {p : Side}

/-- What the PC that flushes is to the other one afterwards. -/
theorem turn_flush {i : Interrupt} {ms : List Message}
    (hact : Pc.FlushAct (σ.pc p) (σ'.pc p) (Pc.taken i) ms)
    (hlive : (σ'.pc p).mainState ≠ .stop)
    (hbefore : signals (σ.unread p) =
      signals (σ.pc p).receiver.waiting + signals (σ.inFlight p))
    (hafter : signals (σ'.unread p) = signals (σ.inFlight p)) :
    Toggle.Turn
      (Toggle.lose p (signals (σ.pc p).receiver.waiting - Pc.taken i) σ.toggle p) (σ'.toggle p)
      (ms.count .signal) := by
  have hlost : Toggle.lose p (signals (σ.pc p).receiver.waiting - Pc.taken i) σ.toggle p =
      ⟨decide (Playing (σ.pc p).mainState), (σ.pc p).table.isMainPc,
        signals (σ.unread p) - (signals (σ.pc p).receiver.waiting - Pc.taken i)⟩ := if_pos rfl
  rw [hlost]
  generalize Pc.taken i = n at hact
  cases hact with
  | play hmode hmode' hrole =>
      refine .announce (toggle_eq ?_ ?_ ?_)
      · rw [hmode, hmode']
        rfl
      · rw [hrole, hmode]
        exact (Bool.or_true _).symm
      · rw [hafter, hbefore]
        exact (Nat.add_sub_cancel_left ..).symm
  | leave hmode hmode' hrole =>
      refine .announce (toggle_eq ?_ ?_ ?_)
      · rw [hmode, hmode']
        rfl
      · rw [hrole, hmode]
        exact (Bool.or_false _).symm
      · rw [hafter, hbefore]
        exact (Nat.add_sub_cancel_left ..).symm
  | close hmode hmode' hrole =>
      refine .rest (toggle_eq ?_ hrole ?_)
      · rw [hmode'.resolve_right hlive]
        exact (decide_eq_true (playing_result hmode)).symm
      · rw [hafter, hbefore]
        exact (Nat.add_sub_cancel_left ..).symm
  | start bytes hmode hmode' hrole hwaiting =>
      -- the word that starts the game has been counted among those that had arrived
      have hone : signals (σ.pc p).receiver.waiting = 1 + signals bytes := by
        rw [hwaiting, signals_wordBytes (by decide), if_pos rfl]
      refine .hear ?_ (toggle_eq ?_ ?_ ?_)
      · dsimp only
        omega
      · rw [hmode, hmode']
        rfl
      · rw [hrole, hmode]
        exact (Bool.and_false _).symm
      · dsimp only
        omega

/-- A PC that flushes has not quit, and leaves the game that it is in. -/
theorem flushAct_mode {s s' : Pc} {n : Nat} {ms : List Message} (h : Pc.FlushAct s s' n ms) :
    s.mainState ≠ .stop ∧ (s.mainState = .game → s'.mainState = .mainMenu) := by
  cases h with
  | play hmode _ _ => simp [hmode]
  | leave hmode hmode' _ => simp [hmode, hmode']
  | close hmode _ _ => rcases hmode with hm | hm | hm <;> simp [hm]
  | start _ hmode _ _ _ => simp [hmode]

/-- **One step with a flush.** -/
theorem Coherent.flush {i : Interrupt} (h : σ.Coherent) (hflush : (σ.pc p).Flushes i)
    (hok : σ.Uncut (.interrupt p i)) (hs : σ.step (.interrupt p i) = some σ') {k : Nat}
    (hparity : σ.Quit ∨ Toggle.Tilted k σ.toggle) :
    σ'.Coherent ∧
      (σ'.Quit ∨ Toggle.Tilted (k + σ.thrownAway (.interrupt p i)) σ'.toggle) := by
  have hwhole := hok.1 hflush
  have hwords : σ.WholeWords (.interrupt p i) :=
    ⟨fun _ => ⟨hwhole.unstored, hwhole.wholeWords⟩, hok.2⟩
  have hinOrder := h.inOrder.step hwords hs
  have htame := h.inOrder.tame p
  have haligned := h.inOrder.aligned p
  have hfaithful := (h.inOrder.tame p.other).faithful
  cases stepOf hs with
  | interrupt _ _ hpc hother harrived =>
      obtain ⟨ms, hact, htold, hempty⟩ := Pc.handle_flush htame.idle htame.receiver
        hwhole.unstored hflush hwhole.once hok.2 hpc
      obtain ⟨hrunning, hleaves⟩ := flushAct_mode hact
      obtain ⟨hunreadOther, hframed⟩ := (h.framed p.other).hear
        (h.inOrder.aligned p.other).arrived_le ms hother (harrived p.other)
        (by rw [sentTo, sentTo, Side.other_other, htold.sent])
        (by rw [historyTo, historyTo, Side.other_other, htold.history])
      -- what has arrived is gone, what is in flight is still to come
      have hunread : σ'.unread p = σ.inFlight p := by
        rw [unread, hempty, List.nil_append, inFlight, sentTo, hother, harrived]
        rfl
      have hhistory : σ'.historyTo p = σ.historyTo p := by
        rw [historyTo, hother]
        rfl
      refine ⟨⟨hinOrder, fun q => ?_⟩, ?_⟩
      · rcases p.eq_or_other q with rfl | rfl
        · intro hplaying
          rw [hunread, hhistory]
          refine (hwhole.wholeMessages fun hgame => ?_).framed hfaithful
          rw [hleaves hgame] at hplaying
          exact absurd hplaying (by decide)
        · exact hframed
      · rcases hparity with ⟨q, hstop⟩ | htilted
        · -- the one that has quit is the other one
          rcases p.eq_or_other q with rfl | rfl
          · exact absurd hstop hrunning
          · exact .inl ⟨p.other, by rw [hother]; exact hstop⟩
        · by_cases hlive : (σ'.pc p).mainState = .stop
          · exact .inl ⟨p, hlive⟩
          · right
            -- before the flush, the words that count are those that have arrived and those in
            -- flight
            have hbefore := signals_flush haligned hfaithful hwhole.wholeWords
            have hturn := turn_flush hact hlive hbefore (by rw [hunread])
            have hbounded : ∀ m ∈ ms, m.Bounded := fun m hm =>
              (hinOrder.tame p).bounded m (by rw [htold.history]; exact List.mem_append_right _ hm)
            have htold' := toggle_told (h.inOrder.aligned p.other) hother hunreadOther hbounded
            rw [thrownAway, if_pos hflush]
            refine htilted.turn ?_ hturn htold'
            show _ ≤ signals (σ.unread p)
            omega

/-- **One step.** The parity counts what is thrown away. -/
theorem parity_step {e : Event} {k : Nat} (h : σ.Coherent)
    (hparity : σ.Quit ∨ Toggle.Tilted k σ.toggle) (hok : σ.Uncut e)
    (hs : σ.step e = some σ') :
    σ'.Coherent ∧ (σ'.Quit ∨ Toggle.Tilted (k + σ.thrownAway e) σ'.toggle) := by
  -- what does not flush is an orderly step
  have horderly : σ.Orderly e → σ.thrownAway e = 0 →
      σ'.Coherent ∧ (σ'.Quit ∨ Toggle.Tilted (k + σ.thrownAway e) σ'.toggle) := by
    intro horderly hnone
    obtain ⟨hcoherent, hstep⟩ := h.step horderly hs
    refine ⟨hcoherent, ?_⟩
    rw [hnone, Nat.add_zero]
    rcases hparity with hquit | htilted
    · exact .inl (hquit.step h horderly hs)
    · refine hstep.imp_right fun hstep => ?_
      cases hstep with
      | rest _ heq => exact heq ▸ htilted
      | announce q _ _ _ _ heq => exact heq ▸ htilted.announce q
      | hear _ q hpos heq => exact heq ▸ htilted.hear hpos
  cases e with
  | interrupt p i =>
      by_cases hflush : (σ.pc p).Flushes i
      · exact h.flush hflush hok hs hparity
      · exact horderly ⟨fun hf => absurd hf hflush, hok.2⟩ (if_neg hflush)
  | deliver p => exact horderly trivial rfl

end

/-! ## Every run -/

/-- **The modes of two PCs with nothing left to read** are the same exactly when an even number of
start/leave words has been thrown away since they were started. -/
theorem modes_parity {S : Side → Setup} (hS : ∀ p, (S p).Healthy) {es : List Event} {σ : Session}
    (hok : Transition.Along step Uncut (init S) es)
    (hrun : Transition.run step (init S) es = some σ) (hquiet : ∀ p, σ.Quiet p)
    (hmode : ∀ p, (σ.pc p).mainState = .mainMenu ∨ (σ.pc p).mainState = .game) :
    (σ.pc .one).mainState = (σ.pc .two).mainState ↔
      Transition.total step thrownAway (init S) es % 2 = 0 := by
  -- no word lost is the balance of two PCs that have just been started
  have hinv : σ.Coherent ∧
      (σ.Quit ∨ Toggle.Tilted (0 + Transition.total step thrownAway (init S) es) σ.toggle) :=
    Transition.invariant_total thrownAway
      (fun k σ => σ.Coherent ∧ (σ.Quit ∨ Toggle.Tilted k σ.toggle))
      (fun _ _ _ _ hinv hok hs => parity_step hinv.1 hinv.2 hok hs)
      ⟨coherent_init hS, .inr (balanced_init S).tilted⟩ hok hrun
  rw [Nat.zero_add] at hinv
  rcases hinv.2 with ⟨p, hstop⟩ | htilted
  -- nobody has quit, as both are in the menu or in a game
  · rcases hmode p with hm | hm <;> simp [hstop] at hm
  · rw [← htilted.agree_iff fun p => (hquiet p).toggle]
    show _ ↔ decide (Playing (σ.pc .one).mainState) = decide (Playing (σ.pc .two).mainState)
    rcases hmode .one with h₁ | h₁ <;> rcases hmode .two with h₂ | h₂ <;> rw [h₁, h₂] <;> decide

/-! ## Runs of the two programs -/

instance (σ : Session) (p : Side) (i : Interrupt) : Decidable (σ.WholeFlush p i) :=
  decidable_of_iff ((σ.pc p).receiver.isStoredX = false ∧ 2 ∣ σ.arrived p ∧
      ((σ.pc p).mainState ≠ .game → σ.BetweenMessages p) ∧
      (Pc.taken i = 0 → ¬(σ.pc p).SelectsTwice))
    ⟨fun ⟨h₁, h₂, h₃, h₄⟩ => ⟨h₁, h₂, h₃, h₄⟩, fun ⟨h₁, h₂, h₃, h₄⟩ => ⟨h₁, h₂, h₃, h₄⟩⟩

instance (σ : Session) (e : Event) : Decidable (σ.Uncut e) :=
  match e with
  | .interrupt _ _ => inferInstanceAs (Decidable ((_ → _) ∧ _))
  | .deliver _ => isTrue trivial

/-- After `playTwice`, the first PC starts once more, and the second one leaves when the word has
arrived: a second word is thrown away. -/
def playAgain : List Event :=
  playTwice ++ happens .one (key spaceBreakCode) ++ deliver .two 2 ++
    happens .two (key escBreakCode) ++ deliver .one 2 ++ serve .one

/-- One word that is lost sets the PCs apart, and a second one brings them together again. -/
theorem modes_parity_playAgain :
    (∃ σ, Transition.run step standard playTwice = some σ ∧
      (σ.pc .one).mainState ≠ (σ.pc .two).mainState) ∧
    ∃ σ, Transition.run step standard playAgain = some σ ∧
      (σ.pc .one).mainState = (σ.pc .two).mainState := by
  have hhealthy : ∀ p : Side, ((fun _ => Setup.standard) p).Healthy :=
    fun _ => Setup.standard_healthy
  have hreach : ∀ es, (Transition.run step standard es).any (fun σ => decide
        ((σ.Quiet .one ∧ σ.Quiet .two) ∧
        ((σ.pc .one).mainState = .mainMenu ∨ (σ.pc .one).mainState = .game) ∧
        ((σ.pc .two).mainState = .mainMenu ∨ (σ.pc .two).mainState = .game))) = true →
      ∃ σ, Transition.run step standard es = some σ ∧ (∀ p, σ.Quiet p) ∧
        ∀ p, (σ.pc p).mainState = .mainMenu ∨ (σ.pc p).mainState = .game := by
    intro es hes
    obtain ⟨σ, hrun, hquiet, hone, htwo⟩ := Transition.reaches_of_any hes
    refine ⟨σ, hrun, fun p => ?_, fun p => ?_⟩
    · cases p
      · exact hquiet.1
      · exact hquiet.2
    · cases p
      · exact hone
      · exact htwo
  constructor
  · obtain ⟨σ, hrun, hquiet, hmode⟩ := hreach playTwice (by decide +kernel)
    refine ⟨σ, hrun, fun hsame => ?_⟩
    have heven := (modes_parity hhealthy (by decide +kernel) hrun hquiet hmode).mp hsame
    exact absurd heven (by decide +kernel)
  · obtain ⟨σ, hrun, hquiet, hmode⟩ := hreach playAgain (by decide +kernel)
    refine ⟨σ, hrun, ?_⟩
    exact (modes_parity hhealthy (by decide +kernel) hrun hquiet hmode).mpr (by decide +kernel)

end Session

end AirHockey
