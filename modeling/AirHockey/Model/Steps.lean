import AirHockey.Model.Keys

/-! # What a step does to the table

The handlers change the table in a few ways only: a move in one of the three layers, a new
velocity of the ball, a new game, and bookkeeping. A property of tables that survives each of them
survives every step.

`TableInvariant P` lists these ways, and `TableInvariant.step` and `run` are the two rules that
the invariants of the table are proved with. What holds of the rest of the state is
`Receiver.Sound`, kept by `step_sound`. `justReset_of_enters` says in what state a game begins,
whichever way that is. All three are case analyses over the interrupts, with a lemma for each
handler. -/

namespace AirHockey

/-- `P` survives everything that a handler does to the table. -/
structure TableInvariant (P : Table → Prop) : Prop where
  send : ∀ t tx, P t → P { t with tx := tx }
  role : ∀ t isMainPc, P t → P { t with isMainPc := isMainPc }
  reset : ∀ t, P t → P t.reset
  cursor : ∀ t x y, P t → P (t.move .mouse x y 0)
  ball : ∀ t x y, P t → P (t.move .ball x y 1)
  redpuck : ∀ t x y, P t → P (t.move .redpuck x y 2)
  bluepuck : ∀ t x y, P t → P (t.move .bluepuck x y 2)
  visibility : ∀ t visibility, P t → P { t with mouse := { t.mouse with visibility := visibility } }
  release : ∀ t, P t → P { t with bluepuck := { t.bluepuck with xspeed := 0, yspeed := 0 } }
  speed : ∀ t xspeed yspeed, P t →
    P { t with ball := { t.ball with xspeed := xspeed, yspeed := yspeed } }

namespace Pc

/-! ## The handlers, one by one -/

theorem mouseIh_table (reads : List KbcRead) (s : Pc) : (s.mouseIh reads).table = s.table := by
  unfold mouseIh
  split
  · rfl
  · split <;> rfl

/-- A byte of the mouse changes the table only when it completes a packet. -/
theorem mouseInt_table (reads : List KbcRead) (s : Pc) :
    (s.mouseInt reads).table = s.table ∨
      ∃ packet, (s.mouseInt reads).table = actOnPacket (parseMouseData packet) s.table := by
  have htable := mouseIh_table reads s
  unfold mouseInt
  dsimp only
  split
  · exact .inl htable
  · split
    · exact .inl htable
    · split
      · right
        exact ⟨(s.mouseIh reads).packet.set (s.mouseIh reads).count (s.mouseIh reads).byte,
          by rw [htable]⟩
      · exact .inl htable

theorem puckTick_table (s : Pc) : ∃ tx, s.puckTick.table = { s.table with tx := tx } := by
  unfold puckTick
  dsimp only
  split
  · exact ⟨_, rfl⟩
  · exact ⟨s.table.tx, rfl⟩

/-- The test of the clock and the scores changes the mode and the remaining time: the mode stays, or
a result is shown. -/
theorem clockTick_frame (s : Pc) : ∃ mode remaining,
    s.clockTick = { s with mainState := mode, timeRemaining := remaining } ∧
      (mode = s.mainState ∨ mode = .win ∨ mode = .lost ∨ mode = .tie) := by
  unfold clockTick
  split
  -- with time left a score of three ends the game, without it the scores decide
  · split
    · dsimp only
      split
      · exact ⟨.lost, _, rfl, .inr (.inr (.inl rfl))⟩
      · split
        · exact ⟨.win, _, rfl, .inr (.inl rfl)⟩
        · exact ⟨s.mainState, _, rfl, .inl rfl⟩
    · split
      · exact ⟨.tie, s.timeRemaining, rfl, .inr (.inr (.inr rfl))⟩
      · split
        · exact ⟨.lost, s.timeRemaining, rfl, .inr (.inr (.inl rfl))⟩
        · split
          · exact ⟨.win, s.timeRemaining, rfl, .inr (.inl rfl)⟩
          · exact ⟨s.mainState, s.timeRemaining, rfl, .inl rfl⟩
  · exact ⟨s.mainState, s.timeRemaining, rfl, .inl rfl⟩

theorem clockTick_table (s : Pc) : s.clockTick.table = s.table := by
  obtain ⟨mode, remaining, heq, -⟩ := clockTick_frame s
  rw [heq]

/-- The last thing a tick does: the ball moves, unless it is at rest. -/
theorem ballTick_table (s : Pc) :
    s.ballTick.table =
      if s.table.ball.xspeed ≠ 0 ∨ s.table.ball.yspeed ≠ 0 then
        s.table.move .ball s.table.ball.xspeed s.table.ball.yspeed 1
      else s.table := by
  unfold ballTick
  split <;> rfl

theorem spInt_of_game {s : Pc} (h : s.mainState = .game) (iir : Option UInt8) :
    s.spInt iir = { s with receiver := s.receiver.spIh iir }.spGame := by
  rw [spInt, h]

/-- A message does one thing to the table. -/
theorem applyPayload_table (tempX : Nat) (s : Pc) :
    (s.applyPayload tempX).table = s.table ∨
      (∃ xspeed yspeed, (s.applyPayload tempX).table =
        { s.table with ball := { s.table.ball with xspeed := xspeed, yspeed := yspeed } }) ∨
      ∃ x y, (s.applyPayload tempX).table = s.table.move .redpuck x y 2 := by
  unfold applyPayload
  split
  · exact .inl rfl
  · split
    · exact .inr (.inl ⟨_, _, rfl⟩)
    · exact .inr (.inr ⟨_, _, rfl⟩)

end Pc

/-! ## What never changes

The queue keeps its capacity and the clock its rate; a stored word fits its variable; and a UART
that accepts every write to its control register goes on doing so. -/

/-- The receiver as the program sets it up. -/
structure Receiver.Sound (r : Receiver) : Prop where
  capacity : r.inQueue.capacity = 100
  storedX_lt : r.storedX < 65536

namespace Receiver.Sound

variable {r : Receiver}

theorem readChar (h : r.Sound) : r.readChar.2.Sound := by
  refine ⟨?_, (readChar_frame r).2.1 ▸ h.storedX_lt⟩
  unfold Receiver.readChar
  split
  · exact h.capacity
  · dsimp only
    -- only a byte without error reaches the queue, and the queue keeps its capacity
    split
    · exact h.capacity
    · split
      · split
        · exact h.capacity
        · split
          · exact h.capacity
          · exact (Queue.capacity_enqueue _ _).trans h.capacity
      · exact h.capacity

theorem spIh (h : r.Sound) (iir : Option UInt8) : (r.spIh iir).Sound := by
  have hloop : ∀ n r, Sound r → Sound (readLoop n r) := by
    intro n
    induction n with
    | zero => exact fun r h => h
    | succ n ih =>
        intro r h
        rw [readLoop]
        split
        · exact ih _ h.readChar
        · exact h.readChar
  unfold Receiver.spIh
  split
  · exact hloop _ r h
  · exact h

theorem serialPortResetFIFO (h : r.Sound) : r.serialPortResetFIFO.Sound := by
  unfold Receiver.serialPortResetFIFO
  split
  · exact ⟨h.capacity, h.storedX_lt⟩
  · exact ⟨(Queue.capacity_drain _ _).trans h.capacity, h.storedX_lt⟩

/-- A word that is read fits its variable, too. -/
theorem readNextSignal (h : r.Sound) {w : Nat} {u : Receiver}
    (hread : r.readNextSignal = some (w, u)) : u.Sound ∧ w < 65536 := by
  obtain ⟨b₀, b₁, bs, hlist⟩ := toList_cons_of_readNextSignal hread
  obtain ⟨q, hq, -, hcap⟩ := readNextSignal_cons hlist
  rw [hq] at hread
  obtain ⟨rfl, rfl⟩ := Prod.mk.inj (Option.some.inj hread)
  refine ⟨⟨hcap.trans h.capacity, h.storedX_lt⟩, ?_⟩
  have h₀ := b₀.toNat_lt
  have h₁ := b₁.toNat_lt
  unfold word
  omega

end Receiver.Sound

namespace Pc

theorem applyPayload_sound {tempX : Nat} (hx : tempX < 65536) {s : Pc} (h : s.receiver.Sound) :
    (s.applyPayload tempX).receiver.Sound ∧ (s.applyPayload tempX).sysHz = s.sysHz := by
  unfold applyPayload
  split
  · exact ⟨⟨h.capacity, hx⟩, rfl⟩
  · next hread =>
      have hsound := (h.readNextSignal hread).1
      split <;> exact ⟨hsound, rfl⟩

theorem spInt_sound {s : Pc} (h : s.receiver.Sound) (iir : Option UInt8) :
    (s.spInt iir).receiver.Sound ∧ (s.spInt iir).sysHz = s.sysHz := by
  have hread := h.spIh iir
  unfold spInt
  -- in the menu a word is read and, if it is the right one, everything is flushed
  split
  · unfold spMenu
    split
    · exact ⟨hread, rfl⟩
    · next hnext =>
        have hsound := (hread.readNextSignal hnext).1
        dsimp only
        split
        · exact ⟨hsound.serialPortResetFIFO, rfl⟩
        · exact ⟨hsound, rfl⟩
  -- the first word comes from the queue or has been stored
  · have hnext : ∀ w u, nextTempX (s.receiver.spIh iir) = some (w, u) → u.Sound ∧ w < 65536 := by
      intro w u hu
      unfold nextTempX at hu
      split at hu
      · obtain ⟨rfl, rfl⟩ := Prod.mk.inj (Option.some.inj hu)
        exact ⟨⟨hread.capacity, hread.storedX_lt⟩, hread.storedX_lt⟩
      · exact hread.readNextSignal hu
    unfold spGame
    split
    · exact ⟨hread, rfl⟩
    · next tempX u hu =>
        obtain ⟨hsound, hlt⟩ := hnext tempX u hu
        dsimp only
        split
        · exact ⟨hsound, rfl⟩
        · exact applyPayload_sound hlt hsound
  · exact ⟨h, rfl⟩

/-- A tick during a game … -/
theorem timerInt_of_game {s : Pc} (h : s.mainState = .game) :
    s.timerInt = s.timerIntHandler.puckTick.clockTick.ballTick := by
  unfold timerInt
  dsimp only
  rw [show s.timerIntHandler.mainState = .game from h]

/-- … and at any other time. -/
theorem timerInt_of_not_game {s : Pc} (h : s.mainState ≠ .game) :
    s.timerInt = s.timerIntHandler := by
  unfold timerInt
  dsimp only
  split
  · next hm => exact absurd hm h
  · rfl

/-- A tick changes the clock, the mode, the table and what is remembered of the puck. -/
theorem timerInt_eq (s : Pc) : ∃ mode remaining table x y n, s.timerInt = { s with
    mainState := mode, timeCount := (s.timeCount + 1) % 2 ^ 32, timeRemaining := remaining,
    table := table, previousX := x, previousY := y, puckTransmit := n } := by
  by_cases hgame : s.mainState = .game
  -- only the parts of the case `GAME` touch the table and what is remembered of the puck
  · have hpuck : ∃ table x y n, s.timerIntHandler.puckTick = { s.timerIntHandler with
        table := table, previousX := x, previousY := y, puckTransmit := n } := by
      unfold puckTick
      dsimp only
      split <;> exact ⟨_, _, _, _, rfl⟩
    obtain ⟨table, x, y, n, hpuck⟩ := hpuck
    obtain ⟨mode, remaining, hclock, -⟩ := clockTick_frame s.timerIntHandler.puckTick
    rw [timerInt_of_game hgame, hclock, hpuck]
    unfold ballTick
    split <;> exact ⟨_, _, _, _, _, _, rfl⟩
  · rw [timerInt_of_not_game hgame]
    exact ⟨s.mainState, s.timeRemaining, s.table, s.previousX, s.previousY, s.puckTransmit, rfl⟩

theorem timerInt_frame (s : Pc) :
    s.timerInt.receiver = s.receiver ∧ s.timerInt.sysHz = s.sysHz := by
  obtain ⟨_, _, _, _, _, _, heq⟩ := timerInt_eq s
  rw [heq]
  exact ⟨rfl, rfl⟩

/-- The mouse changes its own globals and the table. -/
theorem mouseInt_eq (reads : List KbcRead) (s : Pc) : ∃ byte error packet count table,
    s.mouseInt reads = { s with
      byte := byte, mouseError := error, packet := packet, count := count, table := table } := by
  have hih : ∃ byte error, s.mouseIh reads = { s with byte := byte, mouseError := error } := by
    unfold mouseIh
    split
    · exact ⟨s.byte, false, rfl⟩
    · split
      · exact ⟨_, false, rfl⟩
      · exact ⟨s.byte, true, rfl⟩
  obtain ⟨byte, error, hih⟩ := hih
  unfold mouseInt
  rw [hih]
  dsimp only
  split
  · exact ⟨byte, error, s.packet, s.count, s.table, rfl⟩
  · split
    · exact ⟨byte, error, s.packet, s.count, s.table, rfl⟩
    · split
      · exact ⟨byte, error, _, 0, _, rfl⟩
      · exact ⟨byte, error, _, _, s.table, rfl⟩

theorem mouseInt_frame (reads : List KbcRead) (s : Pc) :
    (s.mouseInt reads).receiver = s.receiver ∧ (s.mouseInt reads).sysHz = s.sysHz ∧
      (s.mouseInt reads).mainState = s.mainState := by
  obtain ⟨_, _, _, _, _, heq⟩ := mouseInt_eq reads s
  rw [heq]
  exact ⟨rfl, rfl, rfl⟩

/-- **What every step keeps.** -/
theorem step_sound {s s' : Pc} {i : Input} (h : s.receiver.Sound) (hstep : s.step i = some s') :
    s'.receiver.Sound ∧ s'.sysHz = s.sysHz := by
  cases i with
  | arrive slots =>
      cases hstep
      exact ⟨⟨h.capacity, h.storedX_lt⟩, rfl⟩
  | interrupt i =>
      cases i with
      | timer =>
          cases hstep
          obtain ⟨hr, hhz⟩ := timerInt_frame s
          exact ⟨hr ▸ h, hhz⟩
      | keyboard reads =>
          have hflush := h.serialPortResetFIFO
          cases keyboardInt_step hstep with
          | stay hq _ | select hq _ _ | back hq _ _ => exact ⟨hq.receiver ▸ h, hq.clock.2.2⟩
          | play hq _ _ _ | leave hq _ _ _ | quit hq _ _ _ =>
              exact ⟨hq.receiver ▸ hflush, hq.clock.2.2⟩
          | again r hr hq _ _ _ =>
              rcases hr with rfl | rfl
              · exact ⟨hq.receiver ▸ hflush, hq.clock.2.2⟩
              · exact ⟨hq.receiver ▸ hflush.serialPortResetFIFO, hq.clock.2.2⟩
      | mouse reads =>
          cases hstep
          obtain ⟨hr, hhz, -⟩ := mouseInt_frame reads s
          exact ⟨hr ▸ h, hhz⟩
      | serial iir =>
          cases hstep
          exact spInt_sound h iir

/-- … and what every run keeps. -/
theorem run_sound {s s' : Pc} {es : List Input} (h : s.receiver.Sound)
    (hrun : Transition.run step s es = some s') : s'.receiver.Sound ∧ s'.sysHz = s.sysHz := by
  apply Transition.invariant (fun t : Pc => t.receiver.Sound ∧ t.sysHz = s.sysHz) ?_ ⟨h, rfl⟩ hrun
  rintro t i t' ⟨hsound, hhz⟩ hstep
  obtain ⟨hsound', hhz'⟩ := step_sound hsound hstep
  exact ⟨hsound', hhz'.trans hhz⟩

/-- A game has begun with `reset_game_state`, on the main PC or on the other one. -/
def JustReset (main : Bool) (s : Pc) : Prop :=
  s.mainState = .game ∧ ∃ t : Pc, t.table.isMainPc = main ∧ t.resetGameState.MenuOnly s

/-- **However a game begins, it begins so.** -/
theorem justReset_of_enters {s s' : Pc} {i : Input} (hstep : s.step i = some s')
    (hgame : s.mainState ≠ .game) (hgame' : s'.mainState = .game) :
    s'.JustReset s'.table.isMainPc := by
  refine ⟨hgame', ?_⟩
  cases i with
  | arrive slots =>
      cases hstep
      exact absurd hgame' hgame
  | interrupt i =>
      cases i with
      | timer =>
          cases hstep
          rw [timerInt_of_not_game hgame] at hgame'
          exact absurd hgame' hgame
      | keyboard reads =>
          cases keyboardInt_step hstep with
          | stay _ hmode => exact absurd (hmode.symm.trans hgame') hgame
          -- Play and the key that plays again are the only two keys that enter one
          | select _ _ hmode' => rcases hmode' with hm | hm <;> simp [hm] at hgame'
          | back _ _ hmode' | leave _ _ hmode' _ | quit _ _ hmode' _ => simp [hmode'] at hgame'
          | play hq _ _ _ | again _ _ hq _ _ _ => exact ⟨_, by rw [hq.table]; rfl, hq⟩
      | mouse reads =>
          cases hstep
          exact absurd ((mouseInt_frame reads s).2.2.symm.trans hgame') hgame
      | serial iir =>
          cases hstep
          -- a game begins with the word of the other PC, and only from the menu
          unfold spInt spMenu at hgame' ⊢
          split at hgame'
          · dsimp only at hgame' ⊢
            split at hgame'
            · exact absurd hgame' hgame
            · next r hr =>
                split at hgame'
                · next hsignal =>
                    rw [if_pos hsignal]
                    exact ⟨{ s with
                      receiver := r.serialPortResetFIFO
                      table := { s.table with isMainPc := false } }, rfl, rfl⟩
                · exact absurd hgame' hgame
          · next hm => exact absurd hm hgame
          · exact absurd hgame' hgame

end Pc

theorem sound_init (S : Setup) : (init S).receiver.Sound := ⟨rfl, by simp [init]⟩

/-! ## Every step -/

namespace TableInvariant

variable {P : Table → Prop}

theorem actOnPacket (h : TableInvariant P) (parsing : Packet) {t : Table} (ht : P t) :
    P (Pc.actOnPacket parsing t) := by
  -- the cursor moves first, then the puck if the button is held
  have hupdate : P (Pc.mouseUpdate parsing t) := by
    unfold Pc.mouseUpdate
    split
    · exact ht
    · exact h.cursor t _ _ ht
  unfold Pc.actOnPacket
  dsimp only
  split
  · exact h.visibility _ false (h.bluepuck _ _ _ hupdate)
  · exact h.release _ (h.visibility _ true hupdate)

theorem play (h : TableInvariant P) {s : Pc} (hs : P s.table) : P s.play.table :=
  h.reset _ (h.role _ true (h.send _ _ hs))

theorem timerInt (h : TableInvariant P) {s : Pc} (hs : P s.table) : P s.timerInt.table := by
  unfold Pc.timerInt
  dsimp only
  split
  -- the messages leave the rest of the table alone, and the ball comes last
  · obtain ⟨tx, htx⟩ := Pc.puckTick_table s.timerIntHandler
    have hclock : P s.timerIntHandler.puckTick.clockTick.table := by
      rw [Pc.clockTick_table, htx]
      exact h.send _ tx hs
    rw [Pc.ballTick_table]
    split
    · exact h.ball _ _ _ hclock
    · exact hclock
  · exact hs

theorem keyboardInt (h : TableInvariant P) {reads : List KbcRead} {s s' : Pc} (hs : P s.table)
    (hstep : s.keyboardInt reads = some s') : P s'.table := by
  cases Pc.keyboardInt_step hstep with
  | stay hq _ => rw [hq.table]; exact hs
  | select hq _ _ => rw [hq.table]; exact hs
  | back hq _ _ => rw [hq.table]; exact hs
  | play hq _ _ _ => rw [hq.table]; exact h.play hs
  | leave hq _ _ _ => rw [hq.table]; exact h.send _ _ hs
  | again r _ hq _ _ _ => rw [hq.table]; exact h.reset _ hs
  | quit hq _ _ _ => rw [hq.table]; exact hs

theorem spInt (h : TableInvariant P) {s : Pc} (iir : Option UInt8) (hs : P s.table) :
    P (s.spInt iir).table := by
  unfold Pc.spInt
  split
  · unfold Pc.spMenu
    split
    · exact hs
    · dsimp only
      split
      · exact h.role _ false (h.reset _ hs)
      · exact hs
  · unfold Pc.spGame
    split
    · exact hs
    · dsimp only
      split
      · exact hs
      · next tempX r _ _ =>
          rcases Pc.applyPayload_table tempX
            { s with receiver := r } with heq | ⟨xspeed, yspeed, heq⟩ | ⟨x, y, heq⟩
          · rw [heq]
            exact hs
          · rw [heq]
            exact h.speed _ _ _ hs
          · rw [heq]
            exact h.redpuck _ _ _ hs
  · exact hs

/-- **Every step preserves what the table operations preserve.** -/
theorem step (h : TableInvariant P) {s s' : Pc} {i : Input} (hs : P s.table)
    (hstep : s.step i = some s') : P s'.table := by
  cases i with
  | arrive slots =>
      cases hstep
      exact hs
  | interrupt i =>
      cases i with
      | timer =>
          cases hstep
          exact h.timerInt hs
      | keyboard reads => exact h.keyboardInt hs hstep
      | mouse reads =>
          cases hstep
          rcases Pc.mouseInt_table reads s with heq | ⟨packet, heq⟩
          · exact (congrArg P heq).mpr hs
          · exact (congrArg P heq).mpr (h.actOnPacket _ hs)
      | serial iir =>
          cases hstep
          exact h.spInt iir hs

/-- … and so does every run. -/
theorem run (h : TableInvariant P) {s s' : Pc} {es : List Input} (hs : P s.table)
    (hrun : Transition.run Pc.step s es = some s') : P s'.table :=
  Transition.invariant (fun s : Pc => P s.table) (fun _ _ _ => h.step) hs hrun

end TableInvariant

end AirHockey
