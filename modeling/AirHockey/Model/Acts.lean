import AirHockey.Model.Words

/-! # What one PC means to the other

On a healthy machine everything that an interrupt does to the other PC, or to the reading of what
comes from it, is one of a few acts: telling something, flushing, or taking words.

`handle_act` is the classification, handler by handler: every interrupt is one of the cases of
`Act`, and the messages that it has told are on the line (`Told`). Later proofs about two PCs are
case analyses over it. `Tame` is the invariant of a PC that speaks the protocol, kept by every
interrupt as long as what is heard is in keeping with the bounds (`Tame.handle`); `of_told` says
what is left to show once it is known what has been told. -/

namespace AirHockey

namespace Pc

/-- `s'` has told the messages `ms` since `s`. -/
structure Told (s s' : Pc) (ms : List Message) : Prop where
  sent : s'.table.tx.sent = s.table.tx.sent ++ encode ms
  history : s'.table.tx.history = s.table.tx.history ++ ms
  slots : s'.table.tx.slots = s.table.tx.slots

theorem Told.of_tell {s s' : Pc} {ms : List Message} (h : s'.table.tx = s.table.tx.tell ms) :
    s.Told s' ms := by
  refine ⟨?_, ?_, ?_⟩ <;> rw [h] <;> rfl

theorem Told.of_table {s s' : Pc} (h : s'.table = s.table) : s.Told s' [] :=
  .of_tell (by rw [h, Transmitter.tell_nil])

/-- `serialPort_resetFIFO` is called. -/
def Flushes (i : Interrupt) (s : Pc) : Prop :=
  match i with
  | .keyboard reads => s.flushesOn reads = true
  | .serial iir => s.mainState = .mainMenu ∧ s.TakesSignal iir
  | .timer | .mouse _ => False

instance (i : Interrupt) (s : Pc) : Decidable (s.Flushes i) :=
  match i with
  | .keyboard reads => inferInstanceAs (Decidable (s.flushesOn reads = true))
  | .serial iir => inferInstanceAs (Decidable (s.mainState = .mainMenu ∧ s.TakesSignal iir))
  | .timer | .mouse _ => isFalse id

/-- The word that `sp_int` has taken when it flushes. -/
def taken : Interrupt → Nat
  | .serial _ => 1
  | .timer | .keyboard _ | .mouse _ => 0

/-- A mode that changes without a word to the other PC and without a flush. -/
def Drifts (mode mode' : MainState) : Prop :=
  mode' = mode ∨ (mode = .game ∧ (mode' = .win ∨ mode' = .lost ∨ mode' = .tie)) ∨
    (mode = .mainMenu ∧ (mode' = .stop ∨ mode' = .rules)) ∨ (mode = .rules ∧ mode' = .mainMenu)

/-- What an interrupt means to the other PC. -/
inductive Act (i : Interrupt) (s s' : Pc) : List Message → Prop where
  | quiet (ms : List Message) (hms : .signal ∉ ms) (hreceiver : s'.receiver = s.receiver)
      (hmode : Drifts s.mainState s'.mainState)
      (hrole : s'.table.isMainPc = s.table.isMainPc) : Act i s s' ms
  | play (hreceiver : s'.receiver = s.receiver.serialPortResetFIFO)
      (hmode : s.mainState = .mainMenu)
      (hmode' : s'.mainState = .game ∨ s'.mainState = .rules ∧ s.SelectsTwice)
      (hrole : s'.table.isMainPc = true) (hflush : s.Flushes i) (hkey : taken i = 0) :
      Act i s s' [.signal]
  | leave (hreceiver : s'.receiver = s.receiver.serialPortResetFIFO) (hmode : s.mainState = .game)
      (hmode' : s'.mainState = .mainMenu) (hrole : s'.table.isMainPc = s.table.isMainPc)
      (hflush : s.Flushes i) (hkey : taken i = 0) : Act i s s' [.signal]
  | close (hreceiver : s'.receiver = s.receiver.serialPortResetFIFO ∨
        s'.receiver = s.receiver.serialPortResetFIFO.serialPortResetFIFO)
      (hmode : s.ShowsResult) (hmode' : s'.mainState = .game ∨ s'.mainState = .stop)
      (hrole : s'.table.isMainPc = s.table.isMainPc) (hflush : s.Flushes i) (hkey : taken i = 0) :
      Act i s s' []
  | serial (ms : List Message) (r : Receiver) (hms : .signal ∉ ms)
      (h : SerialStep (s.mainState = .mainMenu → s.Flushes i ∧ taken i = 1) s r s') :
      Act i s s' ms

/-- What is under way is a velocity of the size that a ball may have, wherever a ball word stands
first. -/
def FairBall (s : Pc) : Prop :=
  ∀ w bytes, w < 65536 → s.receiver.waiting = wordBytes ballSignal ++ wordBytes w ++ bytes →
    ∃ vx vy, w = word (uint8 vx) (uint8 vy) ∧ Slow (vx, vy)

/-- A PC that speaks the protocol. -/
structure Tame (s : Pc) : Prop where
  idle : s.table.tx.slots = []
  faithful : s.table.tx.sent = encode s.table.tx.history
  bounded : ∀ m ∈ s.table.tx.history, m.Bounded
  confined : s.table.Confined
  slow : Slow s.table.ball.velocity
  previous : s.mainState = .game → 273 ≤ s.previousX ∧ s.previousX ≤ 799 ∧
    21 ≤ s.previousY ∧ s.previousY ≤ 763
  receiver : s.receiver.Healthy

/-- The interrupt finds room in the queue for what it reads. -/
def Fits (i : Interrupt) (s : Pc) : Prop :=
  match i with
  | .serial iir => s.SerialFits iir
  | .timer | .keyboard _ | .mouse _ => True

instance (i : Interrupt) (s : Pc) : Decidable (s.Fits i) :=
  match i with
  | .serial iir => inferInstanceAs (Decidable (s.SerialFits iir))
  | .timer | .keyboard _ | .mouse _ => isTrue trivial

theorem signal_not_mem_ball (vs : List (Int × Int)) : .signal ∉ ballMessages vs := by
  unfold ballMessages
  simp

theorem bounded_ball {vs : List (Int × Int)} (h : ∀ v ∈ vs, Slow v) :
    ∀ m ∈ ballMessages vs, m.Bounded := by
  intro m hm
  obtain ⟨v, hv, rfl⟩ := List.mem_map.mp hm
  exact h v hv

theorem PuckTold.signal_not_mem {s s' : Pc} {ds : List Message} (h : s.PuckTold s' ds) :
    .signal ∉ ds := by
  cases h <;> simp

/-- From one place on the table to another. -/
theorem PuckTold.bounded {s s' : Pc} {ds : List Message} (h : s.PuckTold s' ds)
    (hprevious : 273 ≤ s.previousX ∧ s.previousX ≤ 799 ∧ 21 ≤ s.previousY ∧ s.previousY ≤ 763)
    (hpuck : s.table.bluepuck.Inside 80 80) : ∀ m ∈ ds, m.Bounded := by
  -- nothing was told, or the displacement from the place told last, which is on the table
  cases h with
  | silent _ _ => simp
  | told _ _ _ =>
      have hplace := hpuck.place
      intro m hm
      obtain rfl := List.mem_singleton.mp hm
      show -526 ≤ int16 _ ∧ int16 _ ≤ 526 ∧ -742 ≤ int16 _ ∧ int16 _ ≤ 742
      rw [int16_of_range (by omega) (by omega), int16_of_range (by omega) (by omega)]
      omega

/-! ## The acts -/

theorem timerInt_act {s : Pc} (hidle : s.table.tx.slots = []) :
    ∃ ms, Act .timer s s.timerInt ms ∧ s.Told s.timerInt ms := by
  have hreceiver := (timerInt_frame s).1
  -- in a game the puck is told first and then a hit of the ball; otherwise only the clock moves
  by_cases hgame : s.mainState = .game
  · obtain ⟨ds, vs, htick⟩ := timerInt_game hidle hgame
    refine ⟨ds ++ ballMessages vs, .quiet _ ?_ hreceiver ?_ htick.role, .of_tell htick.tx⟩
    · intro hmem
      rcases List.mem_append.mp hmem with h | h
      · exact htick.told.signal_not_mem h
      · exact signal_not_mem_ball vs h
    · rcases htick.mode with hm | hm
      · exact .inl (hm.trans hgame.symm)
      · exact .inr (.inl ⟨hgame, hm⟩)
  · rw [timerInt_of_not_game hgame]
    exact ⟨[], .quiet [] (by simp) rfl (.inl rfl) rfl, .of_table rfl⟩

theorem mouseInt_act {s : Pc} (hidle : s.table.tx.slots = []) (reads : List KbcRead) :
    ∃ ms, Act (.mouse reads) s (s.mouseInt reads) ms ∧ s.Told (s.mouseInt reads) ms := by
  obtain ⟨hreceiver, -, hmode⟩ := mouseInt_frame reads s
  obtain ⟨vs, hvs⟩ := mouseInt_struck hidle reads
  exact ⟨ballMessages vs, .quiet _ (signal_not_mem_ball vs) hreceiver (.inl hmode) hvs.role,
    .of_tell hvs.tx⟩

theorem keyboardInt_act {s s' : Pc} (hidle : s.table.tx.slots = []) {reads : List KbcRead}
    (h : s.keyboardInt reads = some s') :
    ∃ ms, Act (.keyboard reads) s s' ms ∧ s.Told s' ms ∧ ∀ m ∈ ms, m = .signal := by
  have hsend := Transmitter.sendSignal_tell hidle
  -- only Play and leaving a game send a word; playing again starts a game without one
  cases keyboardInt_step h with
  | stay hq hmode =>
      exact ⟨[], .quiet [] (by simp) hq.receiver (.inl hmode) (by rw [hq.table]),
        .of_table hq.table, by simp⟩
  | select hq hmode hmode' =>
      exact ⟨[], .quiet [] (by simp) hq.receiver (.inr (.inr (.inl ⟨hmode, hmode'⟩)))
        (by rw [hq.table]), .of_table hq.table, by simp⟩
  | back hq hmode hmode' =>
      exact ⟨[], .quiet [] (by simp) hq.receiver (.inr (.inr (.inr ⟨hmode, hmode'⟩)))
        (by rw [hq.table]), .of_table hq.table, by simp⟩
  | play hq hmode hmode' hflush =>
      refine ⟨[.signal], .play hq.receiver hmode hmode' (by rw [hq.table]; rfl) hflush rfl, ?_,
        by simp⟩
      have htx : s'.table.tx = { s.table.tx.tell [.signal] with
          gameMark := (s.table.tx.tell [.signal]).history.length } := by
        rw [hq.table, ← hsend]
        rfl
      refine ⟨?_, ?_, ?_⟩ <;> rw [htx] <;> rfl
  | leave hq hmode hmode' hflush =>
      refine ⟨[.signal], .leave hq.receiver hmode hmode' (by rw [hq.table]; rfl) hflush rfl,
        .of_tell ?_, by simp⟩
      rw [hq.table, ← hsend]
      rfl
  | again r hr hq hmode hmode' hflush =>
      refine ⟨[], .close ?_ hmode (.inl hmode') (by rw [hq.table]; rfl) hflush rfl, ?_, by simp⟩
      · rw [hq.receiver]
        exact hr
      · have htx : s'.table.tx = { s.table.tx with gameMark := s.table.tx.history.length } := by
          rw [hq.table]
          rfl
        refine ⟨?_, ?_, ?_⟩ <;> rw [htx] <;> simp
  | quit hq hmode hmode' hflush =>
      exact ⟨[], .close (.inl hq.receiver) hmode (.inr hmode') (by rw [hq.table]; rfl) hflush rfl,
        .of_table hq.table, by simp⟩

/-- What a message does to the table. -/
theorem apply_struck {t : Table} (hidle : t.tx.slots = []) (e : Effect) :
    ∃ vs, (e.apply t).tx = t.tx.tell (ballMessages vs) ∧ (e.apply t).isMainPc = t.isMainPc ∧
      (∀ v ∈ vs, Slow v) := by
  cases e with
  | move x y =>
      obtain ⟨vs, hvs⟩ := Table.move_puck_struck hidle (.inl rfl) x y
      exact ⟨vs, hvs.tx, hvs.role, hvs.slow⟩
  | ballSpeed xspeed yspeed => exact ⟨[], (Transmitter.tell_nil _).symm, rfl, by simp⟩

theorem SerialStep.told {F : Prop} {s s' : Pc} {r : Receiver} (hidle : s.table.tx.slots = [])
    (h : SerialStep F s r s') : ∃ vs, s.Told s' (ballMessages vs) ∧ ∀ v ∈ vs, Slow v := by
  -- only a displacement that moves the red puck can make it hit the ball
  cases h with
  | idle _ _ => exact ⟨[], .of_table rfl, by simp⟩
  | drop _ _ _ _ _ _ => exact ⟨[], .of_table rfl, by simp⟩
  | start _ _ _ _ _ _ =>
      refine ⟨[], ⟨?_, ?_, rfl⟩, by simp⟩
      · exact (List.append_nil _).symm
      · exact (List.append_nil _).symm
  | leave _ _ _ => exact ⟨[], .of_table rfl, by simp⟩
  | payload x y _ _ _ _ _ _ =>
      obtain ⟨vs, htx, -, hslow⟩ := apply_struck hidle (payloadEffect x y)
      exact ⟨vs, .of_tell htx, hslow⟩

theorem spInt_act {s : Pc} (hidle : s.table.tx.slots = []) (h : s.receiver.Healthy)
    (hstored : s.mainState = .mainMenu → s.receiver.isStoredX = false) {iir : Option UInt8}
    (hroom : s.SerialFits iir) :
    ∃ ms, Act (.serial iir) s (s.spInt iir) ms ∧ s.Told (s.spInt iir) ms := by
  -- which word was taken is settled by the queue, the rest by the mode
  obtain ⟨r, -, hstep⟩ := spInt_step h hstored hroom
  obtain ⟨vs, htold, -⟩ := hstep.told hidle
  refine ⟨ballMessages vs, .serial _ r (signal_not_mem_ball vs) ?_, htold⟩
  exact SerialStep.of_waiting (fun htakes hmode => ⟨⟨hmode, htakes⟩, rfl⟩) rfl rfl hstep

/-- **Every interrupt is one of the acts.** -/
theorem handle_act {s s' : Pc} {i : Interrupt} (hidle : s.table.tx.slots = [])
    (h : s.receiver.Healthy) (hstored : s.mainState = .mainMenu → s.receiver.isStoredX = false)
    (hfits : s.Fits i) (hstep : s.handle i = some s') :
    ∃ ms, Act i s s' ms ∧ s.Told s' ms := by
  cases i with
  | timer =>
      cases hstep
      exact timerInt_act hidle
  | keyboard reads =>
      obtain ⟨ms, hact, htold, -⟩ := keyboardInt_act hidle hstep
      exact ⟨ms, hact, htold⟩
  | mouse reads =>
      cases hstep
      exact mouseInt_act hidle reads
  | serial iir =>
      cases hstep
      exact spInt_act hidle h hstored hfits

/-! ## Tameness -/

namespace Tame

variable {s s' : Pc}

/-- What is left to show of a step once it is known what it has told. -/
theorem of_told (h : s.Tame) {ms : List Message} (htold : s.Told s' ms) (hms : ∀ m ∈ ms, m.Bounded)
    (hconfined : s'.table.Confined) (hslow : Slow s'.table.ball.velocity)
    (hprevious : s'.mainState = .game → 273 ≤ s'.previousX ∧ s'.previousX ≤ 799 ∧
      21 ≤ s'.previousY ∧ s'.previousY ≤ 763)
    (hreceiver : s'.receiver.Healthy) : s'.Tame where
  idle := htold.slots.trans h.idle
  faithful := by rw [htold.sent, htold.history, h.faithful, encode_append]
  bounded m hm := by
    rw [htold.history] at hm
    exact (List.mem_append.mp hm).elim (h.bounded m) (hms m)
  confined := hconfined
  slow := hslow
  previous := hprevious
  receiver := hreceiver

theorem timerInt (h : s.Tame) : s.timerInt.Tame := by
  have hconfined := tableInvariant_confined.timerInt h.confined
  have hreceiver := (timerInt_frame s).1
  by_cases hgame : s.mainState = .game
  · obtain ⟨ds, vs, htick⟩ := timerInt_game h.idle hgame
    obtain ⟨hslow, hvs⟩ := htick.slow h.slow
    have hpuck : s.table.bluepuck.Inside 80 80 := h.confined .bluepuck
    refine h.of_told (.of_tell htick.tx) (fun m hm => ?_) hconfined hslow (fun _ => ?_)
      (hreceiver ▸ h.receiver)
    · rcases List.mem_append.mp hm with hm | hm
      · exact htick.told.bounded (h.previous hgame) hpuck m hm
      · exact bounded_ball hvs m hm
    -- the place told last is where it was, or where the puck is now
    · have hprevious := h.previous hgame
      have htold := htick.told
      generalize s.timerInt = s' at htold ⊢
      cases htold with
      | silent hx hy =>
          rw [hx, hy]
          exact hprevious
      | told hx hy _ =>
          have hplace := hpuck.place
          omega
  · rw [Pc.timerInt_of_not_game hgame] at hconfined ⊢
    exact h.of_told (.of_table rfl) (by simp) hconfined h.slow (fun hm => absurd hm hgame)
      h.receiver

theorem mouseInt (h : s.Tame) (reads : List KbcRead) : (s.mouseInt reads).Tame := by
  have hconfined : (s.mouseInt reads).table.Confined := by
    rcases mouseInt_table reads s with heq | ⟨packet, heq⟩
    · exact (congrArg Table.Confined heq).mpr h.confined
    · exact (congrArg Table.Confined heq).mpr
        (tableInvariant_confined.actOnPacket _ h.confined)
  obtain ⟨vs, hvs⟩ := mouseInt_struck h.idle reads
  have hslow : Slow (s.mouseInt reads).table.ball.velocity := by
    rw [hvs.ball]
    exact Sprite.velocity_struck h.slow hvs.slow
  refine h.of_told (.of_tell hvs.tx) (bounded_ball hvs.slow) hconfined hslow ?_ ?_
  all_goals
    obtain ⟨_, _, _, _, _, heq⟩ := mouseInt_eq reads s
    rw [heq]
  · exact h.previous
  · exact h.receiver

theorem keyboardInt (h : s.Tame) {reads : List KbcRead} (hstep : s.keyboardInt reads = some s') :
    s'.Tame := by
  have hconfined := tableInvariant_confined.keyboardInt h.confined hstep
  obtain ⟨ms, -, htold, hms⟩ := keyboardInt_act h.idle hstep
  have hbounded : ∀ m ∈ ms, m.Bounded := by
    intro m hm
    rw [hms m hm]
    trivial
  have hflush := h.receiver.serialPortResetFIFO.1
  -- a key leaves the ball alone, or begins a game
  have hball : Slow s'.table.ball.velocity := by
    cases keyboardInt_step hstep with
    | stay hq _ | select hq _ _ | back hq _ _ | leave hq _ _ _ | quit hq _ _ _ =>
        rw [hq.table]
        exact h.slow
    | play hq _ _ _ | again _ _ hq _ _ _ =>
        rw [hq.table]
        show Slow (0, 0)
        simp [Slow]
  refine h.of_told htold hbounded hconfined hball ?_ ?_
  -- entering a game sets the place told last, and staying in one keeps it
  · intro hgame
    cases keyboardInt_step hstep with
    | stay hq hmode =>
        rw [hq.previous.1, hq.previous.2]
        exact h.previous (hmode.symm.trans hgame)
    | select _ _ hmode' => rcases hmode' with hm | hm <;> simp [hm] at hgame
    | back _ _ hmode' | leave _ _ hmode' _ | quit _ _ hmode' _ => simp [hmode'] at hgame
    | play hq _ _ _ | again _ _ hq _ _ _ =>
        rw [hq.previous.1, hq.previous.2]
        show (273 : Int) ≤ 535 ∧ (535 : Int) ≤ 799 ∧ (21 : Int) ≤ 730 ∧ (730 : Int) ≤ 763
        decide
  · cases keyboardInt_step hstep with
    | stay hq _ | select hq _ _ | back hq _ _ => exact hq.receiver ▸ h.receiver
    | play hq _ _ _ | leave hq _ _ _ | quit hq _ _ _ => exact hq.receiver ▸ hflush
    | again r hr hq _ _ _ =>
        rw [hq.receiver]
        rcases hr with rfl | rfl
        · exact hflush
        · exact hflush.serialPortResetFIFO.1

/-- A message in keeping with the bounds keeps to them. -/
theorem perform (h : s.Tame) {r : Receiver} (hr : r.Healthy) (hgame : s.mainState = .game)
    (e : Effect) (he : ∀ vx vy, e = .ballSpeed vx vy → Slow (vx, vy)) :
    ({ s with receiver := r }.perform e).Tame := by
  obtain ⟨vs, htx, -, hvs⟩ := apply_struck h.idle e
  have hconfined : (e.apply s.table).Confined := by
    -- either message leaves the sprites inside the table
    cases e with
    | move x y => exact tableInvariant_confined.redpuck _ _ _ h.confined
    | ballSpeed vx vy => exact tableInvariant_confined.speed _ _ _ h.confined
  have hslow : Slow (e.apply s.table).ball.velocity := by
    cases e with
    | move x y =>
        obtain ⟨ws, hws⟩ := Table.move_puck_struck h.idle (.inl rfl) x y
        show Slow (s.table.move .redpuck x y 2).ball.velocity
        rw [hws.ball]
        exact Sprite.velocity_struck h.slow hws.slow
    | ballSpeed vx vy => exact he vx vy rfl
  exact h.of_told (.of_tell htx) (bounded_ball hvs) hconfined hslow (fun _ => h.previous hgame) hr

theorem spInt (h : s.Tame) (hstored : s.mainState = .mainMenu → s.receiver.isStoredX = false)
    {iir : Option UInt8} (hroom : s.SerialFits iir) (hfair : s.mainState = .game → s.FairBall) :
    (s.spInt iir).Tame := by
  obtain ⟨r, hr, hstep⟩ := spInt_step h.receiver hstored hroom
  -- no word, a word that is dropped, leaving, starting, or a message
  generalize s.spInt iir = s' at hstep
  cases hstep with
  | idle _ _ => exact { h with receiver := hr }
  | drop _ _ _ _ _ _ => exact { h with receiver := hr }
  | leave _ _ _ => exact { h with receiver := hr, previous := nofun }
  | start _ _ _ _ _ _ =>
      refine h.of_told ⟨(List.append_nil _).symm, (List.append_nil _).symm, rfl⟩ (by simp)
        (tableInvariant_confined.role _ false (tableInvariant_confined.reset _ h.confined)) ?_
        (fun _ => ?_) hr
      · show Slow (0, 0)
        simp [Slow]
      · show (273 : Int) ≤ 535 ∧ (535 : Int) ≤ 799 ∧ (21 : Int) ≤ 730 ∧ (730 : Int) ≤ 763
        decide
  | payload x y hmode _ hy _ hwaiting _ =>
      refine h.perform hr hmode _ fun vx vy he => ?_
      -- a velocity comes with the size that the other PC gives it, a displacement sets none
      by_cases hx : x = ballSignal
      · subst hx
        obtain ⟨wx, wy, rfl, hslow⟩ := hfair hmode y _ hy hwaiting
        rw [payloadEffect_ball hslow] at he
        obtain ⟨rfl, rfl⟩ := Effect.ballSpeed.inj he
        unfold Slow at hslow ⊢
        dsimp only at hslow ⊢
        omega
      · rw [payloadEffect, if_neg hx] at he
        cases he

/-- **Every interrupt keeps a PC tame**, as long as what it hears is in keeping with the bounds. -/
theorem handle (h : s.Tame) (hstored : s.mainState = .mainMenu → s.receiver.isStoredX = false)
    {i : Interrupt} (hfits : s.Fits i) (hfair : s.mainState = .game → s.FairBall)
    (hstep : s.handle i = some s') : s'.Tame := by
  cases i with
  | timer =>
      cases hstep
      exact h.timerInt
  | keyboard reads => exact h.keyboardInt hstep
  | mouse reads =>
      cases hstep
      exact h.mouseInt reads
  | serial iir =>
      cases hstep
      exact h.spInt hstored hfits hfair

end Tame

end Pc

theorem tame_init {S : Setup} (h : S.Healthy) : (init S).Tame where
  idle := h.slots
  faithful := rfl
  bounded := by simp [init, loaderSprite]
  confined := confined_loaderSprite S
  slow := by simp [Slow, Sprite.velocity, init, loaderSprite, createSprite]
  previous := nofun
  receiver := .of_fifo (sound_init S) [] rfl h.fcr

end AirHockey
