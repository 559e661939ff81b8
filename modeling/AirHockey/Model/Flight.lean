import AirHockey.Lib.Trace
import AirHockey.Model.Hits
import AirHockey.Model.Pucks
import AirHockey.Model.Scoring

/-! # The ball without the pucks

On the PC that is not the main one no puck ever touches the ball. There the ball, the scores and
the clock are a small machine of their own, `Match`, which hears three things only: that time
passes, that the ball has been given a velocity, and that the game is over.

The machine is an abstraction of the program: `Pc.shown` is the view of a state, `Pc.beat` what an
input means to the machine, and `Pc.report` what it has the PC tell. `Pc.step_follows` shows, one
lemma for each interrupt, that a step of the program is the machine's reaction to the beat and
puts the report on the line; `Pc.match_run` carries this over runs, as a fold over the beats.

The main result is `ball_noninterference`: two games with the same beats have the same ball,
scores, clock and mode, whatever the pucks do in them, and neither of them tells the other PC of
the ball (`QuietOnBall`, which speaks of the bytes that were written). -/

namespace AirHockey

/-- The ball and the goals. -/
structure Flight where
  ball : Sprite
  player1Score : Int
  player2Score : Int

namespace Flight

/-- The ball moves, unless it is at rest, between goals and walls. -/
def advance (f : Flight) : Flight :=
  -- the order of the tests is that of `move`: goals, walls, and otherwise the ball moves on
  if f.ball.xspeed ≠ 0 ∨ f.ball.yspeed ≠ 0 then
    let newX := f.ball.x + int16 f.ball.xspeed
    let newY := f.ball.y - int16 f.ball.yspeed
    if topGoal f.ball newX newY ∨ bottomGoal f.ball newX newY then
      { ball := Table.centred f.ball
        player1Score := f.player1Score + if bottomGoal f.ball newX newY then 1 else 0
        player2Score := f.player2Score + if topGoal f.ball newX newY then 1 else 0 }
    else if detectWallCollision f.ball newX newY then
      { f with ball := reflect (wallInfo f.ball newX newY) f.ball }
    else { f with ball := Table.moved f.ball (int16 f.ball.xspeed) (int16 f.ball.yspeed) }
  else f

end Flight

/-- A game as it goes on without the pucks. -/
structure Match where
  flight : Flight
  mainState : MainState
  timeCount : Nat
  timeRemaining : Nat
  sysHz : Nat

/-- What is heard of the world outside. -/
inductive Beat where
  | tick
  | speed (xspeed yspeed : Int)
  | leave
  deriving DecidableEq, Repr

namespace Match

/-- The mode once the clock and the scores have been tested. -/
def verdict (m : Match) : MainState :=
  if m.timeRemaining > 0 then
    if m.flight.player1Score = 3 then .lost
    else if m.flight.player2Score = 3 then .win
    else .game
  else if m.flight.player1Score = m.flight.player2Score then .tie
  else if m.flight.player1Score > m.flight.player2Score then .lost
  else .win

def tick (m : Match) : Match :=
  -- the counter has wrapped around before it is compared with the rate
  let count := (m.timeCount + 1) % 2 ^ 32
  { flight := m.flight.advance
    mainState := if count % m.sysHz = 0 then m.verdict else .game
    timeCount := count
    timeRemaining := if count % m.sysHz = 0 then m.timeRemaining - 1 else m.timeRemaining
    sysHz := m.sysHz }

def react (m : Match) : Beat → Match
  | .tick => m.tick
  | .speed xspeed yspeed =>
    { m with flight.ball := { m.flight.ball with xspeed := xspeed, yspeed := yspeed } }
  | .leave => { m with mainState := .mainMenu }

end Match

namespace Table

def flight (t : Table) : Flight := ⟨t.ball, t.player1Score, t.player2Score⟩

/-- A ball that runs into no puck flies on, and nothing is told. -/
theorem ballTick_free {t : Table} (h : t.ballHits = false) :
    t.ballTick.flight = t.flight.advance ∧ t.ballTick.tx = t.tx := by
  unfold ballTick
  split
  · next hmoving =>
      have hfly : t.flight.advance = _ := if_pos hmoving
      rw [hfly]
      generalize ht' : t.move .ball t.ball.xspeed t.ball.yspeed 1 = t'
      cases move_ball ht' with
      | goal hgoal => exact ⟨(if_pos hgoal).symm, rfl⟩
      | wall htop hbottom hwall =>
          refine ⟨?_, rfl⟩
          apply Eq.symm
          apply (if_neg (by simp [flight, htop, hbottom])).trans
          exact if_pos hwall
      | bounce o htop hbottom hwall hmain hpuck =>
          simp [ballHits, hmoving, htop, hbottom, hwall, hmain, hpuck] at h
      | free htop hbottom hwall _ =>
          refine ⟨?_, rfl⟩
          apply Eq.symm
          apply (if_neg (by simp [flight, htop, hbottom])).trans
          exact if_neg (by simp [flight, hwall])
  · next hrest => exact ⟨(if_neg hrest).symm, rfl⟩

/-- Away from the main PC the ball runs into nothing … -/
theorem ballHits_apart {t : Table} (h : t.isMainPc = false) : t.ballHits = false := by
  simp [ballHits, h]

/-- … and a puck moves without it. -/
theorem move_puck_apart {t : Table} (h : t.isMainPc = false) {o : Object} (ho : o ≠ .ball)
    (x y : Int) : (t.move o x y 2).flight = t.flight ∧ (t.move o x y 2).tx = t.tx := by
  have hset : ∀ sprite, (t.set o sprite).flight = t.flight ∧ (t.set o sprite).tx = t.tx := by
    intro sprite
    cases o with
    | ball => exact absurd rfl ho
    | mouse | redpuck | bluepuck => exact ⟨rfl, rfl⟩
  generalize ht' : t.move o x y 2 = t'
  cases move_puck ho ht' with
  | wall _ | middle _ _ | free _ _ _ => exact hset _
  | hit _ _ hmain _ =>
      rw [h] at hmain
      cases hmain

end Table

namespace Pc

/-! ## The machine in the program -/

def shown (s : Pc) : Match :=
  ⟨s.table.flight, s.mainState, s.timeCount, s.timeRemaining, s.sysHz⟩

/-- The keyboard interrupt is one on which the Escape key leaves the game. -/
def escapes (reads : List KbcRead) (s : Pc) : Bool :=
  !(s.kbcIh reads).keyboardError && (s.kbcIh reads).scancode == escBreakCode

/-- What an input during a game tells the ball and the clock. -/
def beat (s : Pc) : Input → Option Beat
  | .interrupt .timer => some .tick
  | .interrupt (.keyboard reads) => if s.escapes reads then some .leave else none
  | .interrupt (.mouse _) => none
  | .interrupt (.serial iir) =>
    -- what the bytes that are waiting will be decoded as
    match s.nextItem iir with
    | some .leave => some .leave
    | some (.payload (.ballSpeed xspeed yspeed)) => some (.speed xspeed yspeed)
    | some (.payload (.move _ _)) | none => none
  | .arrive _ => none

/-- What an input during a game has a PC tell that its ball runs into nothing: on every second tick
how far its puck has come, and on the Escape key that the game is over. -/
def report (s : Pc) : Input → Option Message
  | .interrupt .timer =>
    if (s.puckTransmit + 1) % 2 ^ 32 = 2 ∧
        ¬(s.table.bluepuck.x = s.previousX ∧ s.table.bluepuck.y = s.previousY) then
      some (.puck (int16 (s.table.bluepuck.x - s.previousX))
        (int16 (s.table.bluepuck.y - s.previousY)))
    else none
  | .interrupt (.keyboard reads) => if s.escapes reads then some .signal else none
  | .interrupt (.mouse _) => none
  | .interrupt (.serial _) => none
  | .arrive _ => none

/-- Nothing is said of the ball. -/
theorem strike_of_report {s : Pc} {i : Input} {m : Message} (h : s.report i = some m) :
    m.strike = none := by
  cases i with
  | arrive slots => cases h
  | interrupt i =>
      cases i with
      | timer =>
          rw [report] at h
          split at h
          · cases h
            rfl
          · cases h
      | keyboard reads =>
          rw [report] at h
          split at h
          · cases h
            rfl
          · cases h
      | mouse reads => cases h
      | serial iir => cases h

/-- The machine hears `beat`, and the line gets what is `said`. -/
structure Follows (beat : Option Beat) (said : Option Message) (s s' : Pc) : Prop where
  shown : s'.shown = beat.toList.foldl Match.react s.shown
  role : s'.table.isMainPc = s.table.isMainPc
  line : s.table.tx.Carries said.toList s'.table.tx

theorem Follows.silent {beat : Option Beat} {s s' : Pc} {i : Input}
    (h : Follows beat (s.report i) s s') :
    strikes s'.table.tx.history = strikes s.table.tx.history := by
  rw [h.line.history, strikes_append]
  cases hsaid : s.report i with
  | none => exact List.append_nil _
  | some m => simp [strikes, strike_of_report hsaid]

theorem puckTick_carries (s : Pc) :
    s.table.tx.Carries (s.report (.interrupt .timer)).toList s.puckTick.table.tx := by
  unfold puckTick report
  dsimp only
  -- both sides test whether a displacement is due
  by_cases hdue : (s.puckTransmit + 1) % 2 ^ 32 = 2
  · rw [if_pos hdue]
    have htold := Transmitter.transmitPuckChange_carries s.table.bluepuck s.previousX s.previousY
      s.table.tx
    by_cases hsame : s.table.bluepuck.x = s.previousX ∧ s.table.bluepuck.y = s.previousY
    · rw [if_pos hsame] at htold
      rw [if_neg fun h => h.2 hsame]
      exact htold
    · rw [if_neg hsame] at htold
      rw [if_pos ⟨hdue, hsame⟩]
      exact htold
  · rw [if_neg hdue, if_neg fun h => hdue h.1]
    exact .refl _

theorem timeRemaining_clockTick (s : Pc) : s.clockTick.timeRemaining =
    if s.timeCount % s.sysHz = 0 then s.timeRemaining - 1 else s.timeRemaining := by
  unfold clockTick
  -- in every branch the count goes down by one, and `0 - 1` is `0`
  split
  · split
    · dsimp only
      split
      · rfl
      · split <;> rfl
    · split
      · dsimp only
        omega
      · split
        · dsimp only
          omega
        · split
          · dsimp only
            omega
          · omega
  · rfl

/-- The clock, on a tick of a game. -/
theorem timerInt_clock {s : Pc} (hgame : s.mainState = .game) :
    s.timerInt.timeCount = (s.timeCount + 1) % 2 ^ 32 ∧
      s.timerInt.timeRemaining = (if (s.timeCount + 1) % 2 ^ 32 % s.sysHz = 0 then
        s.timeRemaining - 1 else s.timeRemaining) ∧ s.timerInt.sysHz = s.sysHz := by
  obtain ⟨-, hcount, hremaining, hhz⟩ := puckTick_frame s.timerIntHandler
  refine ⟨?_, ?_, (timerInt_frame s).2⟩
  · obtain ⟨_, _, _, _, _, _, heq⟩ := timerInt_eq s
    rw [heq]
  · have hball : ∀ u : Pc, u.ballTick.timeRemaining = u.timeRemaining := by
      intro u
      unfold ballTick
      split <;> rfl
    rw [timerInt_of_game hgame, hball, timeRemaining_clockTick, hcount, hremaining, hhz]
    rfl

theorem timerInt_follows {s : Pc} (hgame : s.mainState = .game) (hmiss : s.table.ballHits = false) :
    Follows (some .tick) (s.report (.interrupt .timer)) s s.timerInt := by
  -- the mode comes from the scores and the clock, as they were before the ball has moved
  have hmode := (timerInt_score hgame).1
  obtain ⟨tx, htx⟩ := puckTick_table s.timerIntHandler
  -- the line first: the ball adds nothing to it
  have hline : s.table.tx.Carries (s.report (.interrupt .timer)).toList
      s.timerIntHandler.puckTick.table.tx := puckTick_carries s.timerIntHandler
  rw [htx] at hline
  obtain ⟨hflight, htx'⟩ := Table.ballTick_free (t := { s.table with tx := tx }) hmiss
  have htable : s.timerInt.table = Table.ballTick { s.table with tx := tx } := by
    rw [timerInt_of_game hgame, ballTick_table, clockTick_table, htx]
    rfl
  have hclock := timerInt_clock hgame
  refine ⟨?_, ?_, ?_⟩
  · show (⟨_, _, _, _, _⟩ : Match) = s.shown.tick
    rw [hmode, hclock.1, hclock.2.1, hclock.2.2, htable, hflight]
    rfl
  · rw [htable, Table.role_ballTick]
  · rw [htable, htx']
    exact hline

/-- The state after a scancode has been read. -/
theorem kbcIh_shown (reads : List KbcRead) (s : Pc) : (s.kbcIh reads).shown = s.shown ∧
    (s.kbcIh reads).table = s.table := by
  unfold kbcIh
  split
  · exact ⟨rfl, rfl⟩
  · split <;> exact ⟨rfl, rfl⟩

theorem keyboardInt_follows {s s' : Pc} {reads : List KbcRead} (hgame : s.mainState = .game)
    (hstep : s.keyboardInt reads = some s') :
    Follows (if s.escapes reads then some .leave else none)
      (s.report (.interrupt (.keyboard reads))) s s' := by
  obtain ⟨hshown, htable⟩ := kbcIh_shown reads s
  have hmode : (s.kbcIh reads).mainState = .game := (kbcIh_menuOnly reads s).2.1.trans hgame
  unfold keyboardInt at hstep
  unfold report escapes
  dsimp only at hstep ⊢
  -- from here on only what is known of the state after `kbc_ih` matters
  generalize s.kbcIh reads = t at hshown htable hmode hstep ⊢
  split at hstep
  · next herror =>
      cases hstep
      rw [herror]
      exact ⟨hshown, by rw [htable], by rw [htable]; exact .refl _⟩
  · next herror =>
      rw [hmode] at hstep
      cases hstep
      unfold gameKey
      by_cases hesc : t.scancode = escBreakCode
      · have hleave : (!t.keyboardError && t.scancode == escBreakCode) = true := by
          simp [herror, hesc]
        rw [if_pos hesc, if_pos hleave, if_pos hleave]
        refine ⟨?_, ?_, ?_⟩
        · show _ = Match.react s.shown .leave
          rw [← hshown]
          rfl
        · rw [← htable]
          rfl
        · rw [← htable]
          exact Transmitter.sendSignal_carries _
      · have hstay : ¬(!t.keyboardError && t.scancode == escBreakCode) = true := by
          simp [hesc]
        rw [if_neg hesc, if_neg hstay, if_neg hstay]
        exact ⟨hshown, by rw [← htable], by rw [← htable]; exact .refl _⟩

theorem actOnPacket_apart {t : Table} (h : t.isMainPc = false) (parsing : Packet) :
    (actOnPacket parsing t).flight = t.flight ∧ (actOnPacket parsing t).tx = t.tx ∧
      (actOnPacket parsing t).isMainPc = t.isMainPc := by
  have hpacket := actOnPacket_move parsing t
  generalize actOnPacket parsing t = t' at hpacket ⊢
  cases hpacket with
  | drag m _ =>
      obtain ⟨hflight, htx⟩ := Table.move_puck_apart h (by decide : Object.bluepuck ≠ .ball)
        parsing.deltaX parsing.deltaY
      exact ⟨hflight, htx, Table.role_move_puck (by decide) _ _ _⟩
  | release m _ => exact ⟨rfl, rfl, rfl⟩

theorem mouseInt_follows {s : Pc} (hrole : s.table.isMainPc = false) (reads : List KbcRead) :
    Follows none none s (s.mouseInt reads) := by
  have htable : (s.mouseInt reads).table.flight = s.table.flight ∧
      (s.mouseInt reads).table.tx = s.table.tx ∧
      (s.mouseInt reads).table.isMainPc = s.table.isMainPc := by
    rcases mouseInt_table reads s with h | ⟨packet, h⟩
    · rw [h]
      exact ⟨rfl, rfl, rfl⟩
    · rw [h]
      exact actOnPacket_apart hrole _
  obtain ⟨hflight, htx, hrole'⟩ := htable
  refine ⟨?_, hrole', by rw [htx]; exact .refl _⟩
  obtain ⟨_, _, _, _, table, heq⟩ := mouseInt_eq reads s
  rw [heq] at hflight ⊢
  show (⟨_, _, _, _, _⟩ : Match) = s.shown
  rw [hflight]
  rfl

theorem spInt_follows {s : Pc} (hsound : s.receiver.Sound) (hgame : s.mainState = .game)
    (hrole : s.table.isMainPc = false) (iir : Option UInt8) :
    Follows (s.beat (.interrupt (.serial iir))) none s (s.spInt iir) := by
  obtain ⟨r, -, hcall⟩ := spGame_eq (s := { s with receiver := s.receiver.spIh iir })
    (hsound.spIh iir).storedX_lt
  rw [spInt_of_game hgame, beat, nextItem]
  -- the item that is decoded decides on both sides
  cases hsplit : splitGame (s.receiver.spIh iir).pending with
  | none =>
      rw [hsplit] at hcall
      rw [hcall.1]
      exact ⟨rfl, rfl, .refl _⟩
  | some taken =>
      obtain ⟨item, rest⟩ := taken
      rw [hsplit] at hcall
      cases item with
      | leave =>
          rw [hcall.1]
          exact ⟨rfl, rfl, .refl _⟩
      | payload e =>
          rw [hcall.1]
          cases e with
          | ballSpeed xspeed yspeed => exact ⟨rfl, rfl, .refl _⟩
          | move x y =>
              have hne : Object.redpuck ≠ .ball := by decide
              obtain ⟨hflight, htx⟩ := Table.move_puck_apart hrole hne x y
              refine ⟨?_, Table.role_move_puck hne _ _ _, ?_⟩
              · show (⟨(s.table.move .redpuck x y 2).flight, _, _, _, _⟩ : Match) = s.shown
                rw [hflight]
                rfl
              · show s.table.tx.Carries [] (s.table.move .redpuck x y 2).tx
                rw [htx]
                exact .refl _

/-- **Every input of a game** on the PC that is not the main one. -/
theorem step_follows {s s' : Pc} {i : Input} (hsound : s.receiver.Sound)
    (hgame : s.mainState = .game) (hrole : s.table.isMainPc = false) (hstep : s.step i = some s') :
    Follows (s.beat i) (s.report i) s s' := by
  cases i with
  | arrive slots =>
      cases hstep
      exact ⟨rfl, rfl, .refl _⟩
  | interrupt i =>
      cases i with
      | timer =>
          cases hstep
          exact timerInt_follows hgame (Table.ballHits_apart hrole)
      | keyboard reads => exact keyboardInt_follows hgame hstep
      | mouse reads =>
          cases hstep
          exact mouseInt_follows hrole reads
      | serial iir =>
          cases hstep
          exact spInt_follows hsound hgame hrole iir

/-- In a game, the column of the puck that is told next is measured from the one told last. -/
theorem previousX_step {s s' : Pc} {i : Input} (hsound : s.receiver.Sound)
    (hgame : s.mainState = .game) (hstep : s.step i = some s') :
    s'.previousX = s.previousX ∨ s'.previousX = s.table.bluepuck.x := by
  cases i with
  | arrive slots =>
      cases hstep
      exact .inl rfl
  | interrupt i =>
      cases i with
      | timer =>
          cases hstep
          have hpuck : ∀ u : Pc, u.puckTick.previousX = u.previousX ∨
              u.puckTick.previousX = u.table.bluepuck.x := by
            intro u
            unfold puckTick transmitPuckChange Transmitter.transmitPuckChange
            dsimp only
            split
            · split
              · exact .inl rfl
              · exact .inr rfl
            · exact .inl rfl
          obtain ⟨_, _, hclock, -⟩ := clockTick_frame s.timerIntHandler.puckTick
          have htick : s.timerInt.previousX = s.timerIntHandler.puckTick.previousX := by
            rw [timerInt_of_game hgame, hclock]
            unfold ballTick
            split <;> rfl
          rw [show (s.timerInt).previousX = _ from htick]
          exact hpuck s.timerIntHandler
      | keyboard reads =>
          left
          have hkbc : (s.kbcIh reads).previousX = s.previousX ∧
              (s.kbcIh reads).mainState = .game := by
            refine ⟨?_, (kbcIh_menuOnly reads s).2.1.trans hgame⟩
            unfold kbcIh
            split
            · rfl
            · split <;> rfl
          change s.keyboardInt reads = some s' at hstep
          unfold keyboardInt at hstep
          dsimp only at hstep
          rw [hkbc.2] at hstep
          split at hstep
          · cases hstep
            exact hkbc.1
          · cases hstep
            rw [← hkbc.1]
            unfold gameKey
            dsimp only
            split <;> rfl
      | mouse reads =>
          cases hstep
          obtain ⟨_, _, _, _, _, heq⟩ := mouseInt_eq reads s
          left
          show (s.mouseInt reads).previousX = s.previousX
          rw [heq]
      | serial iir =>
          cases hstep
          have houtcome := spInt_outcome hsound iir
          left
          show (s.spInt iir).previousX = s.previousX
          generalize s.spInt iir = s' at houtcome
          cases houtcome with
          | idle r => rfl
          | start r hmenu => simp [hgame] at hmenu
          | leave r _ => rfl
          | payload r e _ _ => rfl

/-- A column that is told on the table is no ball signal. -/
theorem head_of_report {s : Pc} {i : Input} {m : Message} (h : s.report i = some m)
    (hblue : 273 ≤ s.table.bluepuck.x ∧ s.table.bluepuck.x ≤ 799)
    (hprevious : 273 ≤ s.previousX ∧ s.previousX ≤ 799) (vx vy : Int) :
    m.head ≠ (Message.ball vx vy).head := by
  have hsignal : Message.signal.head ≠ (Message.ball vx vy).head := by
    show [uint8 signal1, uint8 (signal1 / 256)] ≠ [uint8 ballSignal, uint8 (ballSignal / 256)]
    decide
  cases i with
  | arrive slots => cases h
  | interrupt i =>
      cases i with
      | timer =>
          rw [report] at h
          split at h
          · cases h
            -- both columns are between 273 and 799, so their difference fits into 16 bits
            rw [int16_of_range (by omega) (by omega)]
            intro heq
            -- the high byte of such a displacement is 0, 1, 2, 253, 254 or 255
            have hhigh := congrArg UInt8.toNat (List.cons.inj (List.cons.inj heq).2).1
            rw [toNat_uint8, toNat_uint8] at hhigh
            unfold ballSignal at hhigh
            omega
          · cases h
      | keyboard reads =>
          rw [report] at h
          split at h
          · cases h
            exact hsignal
          · cases h
      | mouse reads => cases h
      | serial iir => cases h

/-! ## Runs -/

/-- The input comes during a game. -/
def InGame (s : Pc) (_ : Input) : Prop := s.mainState = .game

instance (s : Pc) (i : Input) : Decidable (s.InGame i) := inferInstanceAs (Decidable (_ = _))

/-- What the ball and the clock are told in the course of a run. -/
def beats (s : Pc) (es : List Input) : List Beat :=
  Transition.trace step (fun s i _ => s.beat i) s es

/-- What a PC whose ball runs into nothing tells in the course of a run. -/
def reports (s : Pc) (es : List Input) : List Message :=
  Transition.trace step (fun s i _ => s.report i) s es

/-- **A game on the PC that is not the main one is the machine without pucks.** -/
theorem match_run {s s' : Pc} {es : List Input} (hsound : s.receiver.Sound)
    (hrole : s.table.isMainPc = false) (hgame : Transition.Along step InGame s es)
    (hrun : Transition.run step s es = some s') :
    s'.shown = (s.beats es).foldl Match.react s.shown ∧
      s.table.tx.Carries (s.reports es) s'.table.tx := by
  -- one step keeps what the next one needs, and follows the machine
  have hinv : ∀ (t : Pc) (i : Input) (t' : Pc), t.receiver.Sound ∧ t.table.isMainPc = false →
      t.InGame i → t.step i = some t' →
        (t'.receiver.Sound ∧ t'.table.isMainPc = false) ∧ Follows (t.beat i) (t.report i) t t' := by
    rintro t i t' ⟨hsound, hrole⟩ hgame hstep
    have hfollows := step_follows hsound hgame hrole hstep
    exact ⟨⟨(step_sound hsound hstep).1, hfollows.role.trans hrole⟩, hfollows⟩
  constructor
  · refine Transition.view_trace shown Match.react
      (fun t => t.receiver.Sound ∧ t.table.isMainPc = false) ?_ ⟨hsound, hrole⟩ hgame hrun
    intro t i t' h hgame hstep
    obtain ⟨h', hfollows⟩ := hinv t i t' h hgame hstep
    exact ⟨h', hfollows.shown⟩
  -- what is on the line is the sum of what each step has put there
  · refine Transition.related_trace (fun ms s s' => s.table.tx.Carries ms s'.table.tx)
      (fun t => t.receiver.Sound ∧ t.table.isMainPc = false) (fun s => .refl s.table.tx)
      (fun _ _ _ _ _ h h' => h.append h') ?_ ⟨hsound, hrole⟩ hgame hrun
    intro t i t' h hgame hstep
    obtain ⟨h', hfollows⟩ := hinv t i t' h hgame hstep
    exact ⟨h', hfollows.line⟩

/-- What a run has put on the line are bytes of the messages that the PC has to report, in their
order, and all of them if the port is idle. None of these messages is one about the ball; and from a
state in which the puck and the place of it that was told last are on the table, none begins with
the bytes with which a message about the ball begins. -/
structure QuietOnBall (s t : Pc) (es : List Input) : Prop where
  sent : ∃ bs, t.table.tx.sent = s.table.tx.sent ++ bs ∧ bs.Sublist (encode (s.reports es)) ∧
    (s.table.tx.slots = [] → bs = encode (s.reports es))
  history : t.table.tx.history = s.table.tx.history ++ s.reports es
  strike : ∀ m ∈ s.reports es, m.strike = none
  head : s.table.Confined → 273 ≤ s.previousX ∧ s.previousX ≤ 799 →
    ∀ m ∈ s.reports es, ∀ vx vy, m.head ≠ (Message.ball vx vy).head

theorem quietOnBall_run {s t : Pc} {es : List Input} (hsound : s.receiver.Sound)
    (hrole : s.table.isMainPc = false) (hgame : Transition.Along step InGame s es)
    (hrun : Transition.run step s es = some t) : s.QuietOnBall t es := by
  obtain ⟨-, hhistory, hwrites⟩ := match_run hsound hrole hgame hrun
  refine ⟨hwrites.sent, hhistory, ?_, fun hconfined hprevious => ?_⟩
  · refine Transition.forall_mem_trace (fun _ => True) ?_ trivial hgame hrun
    exact fun _ _ _ _ _ _ => ⟨trivial, fun _ hm => strike_of_report hm⟩
  · -- the puck stays on the table, and so does the place of it that is told
    refine Transition.forall_mem_trace (fun s => s.receiver.Sound ∧ s.table.Confined ∧
      273 ≤ s.previousX ∧ s.previousX ≤ 799) ?_ ⟨hsound, hconfined, hprevious⟩ hgame hrun
    rintro s i s' ⟨hsound, hconfined, hprevious⟩ hgame hstep
    have hblue : s.table.bluepuck.Inside 80 80 := hconfined .bluepuck
    obtain ⟨hleft, hright, -, -⟩ := hblue.place
    refine ⟨⟨(step_sound hsound hstep).1, tableInvariant_confined.step hconfined hstep, ?_⟩,
      fun m hm => head_of_report hm ⟨hleft, hright⟩ hprevious⟩
    rcases previousX_step hsound hgame hstep with hsame | htold
    · rwa [hsame]
    · rw [htold]
      exact ⟨hleft, hright⟩

end Pc

/-- **Nothing that the pucks do reaches the ball**, and no run tells the other PC of the ball. -/
theorem ball_noninterference {s₁ s₂ t₁ t₂ : Pc} {es₁ es₂ : List Input}
    (hsound₁ : s₁.receiver.Sound) (hsound₂ : s₂.receiver.Sound)
    (hrole₁ : s₁.table.isMainPc = false) (hrole₂ : s₂.table.isMainPc = false)
    (hagree : s₁.shown = s₂.shown) (hgame₁ : Transition.Along Pc.step Pc.InGame s₁ es₁)
    (hgame₂ : Transition.Along Pc.step Pc.InGame s₂ es₂) (hbeats : s₁.beats es₁ = s₂.beats es₂)
    (hrun₁ : Transition.run Pc.step s₁ es₁ = some t₁)
    (hrun₂ : Transition.run Pc.step s₂ es₂ = some t₂) :
    (t₁.table.ball = t₂.table.ball ∧ t₁.table.scores = t₂.table.scores ∧
      t₁.timeRemaining = t₂.timeRemaining ∧ t₁.mainState = t₂.mainState) ∧
    s₁.QuietOnBall t₁ es₁ ∧ s₂.QuietOnBall t₂ es₂ := by
  obtain ⟨hshown₁, -⟩ := Pc.match_run hsound₁ hrole₁ hgame₁ hrun₁
  obtain ⟨hshown₂, -⟩ := Pc.match_run hsound₂ hrole₂ hgame₂ hrun₂
  -- both runs show the same machine the same beats
  have heq : t₁.shown = t₂.shown := by rw [hshown₁, hshown₂, hbeats, hagree]
  refine ⟨⟨?_, ?_, ?_, ?_⟩, Pc.quietOnBall_run hsound₁ hrole₁ hgame₁ hrun₁,
    Pc.quietOnBall_run hsound₂ hrole₂ hgame₂ hrun₂⟩
  · exact congrArg (fun m : Match => m.flight.ball) heq
  · exact congrArg (fun m : Match => (m.flight.player1Score, m.flight.player2Score)) heq
  · exact congrArg Match.timeRemaining heq
  · exact congrArg Match.mainState heq

/-- The first game on a standard machine, begun by the other PC. -/
def guestGame : Pc := (init Setup.standard).startedBy (init Setup.standard).receiver

/-- The blue puck is moved while the ball flies … -/
def blueMoves : List Input :=
  received [0, 0x20, 3, 0xFC] ++ mousePacket 0x09 7 40 ++ ticks 3

/-- … or the red one, before it does. -/
def redMoves : List Input :=
  received [16, 0, 32, 0] ++ received [0, 0x20, 3, 0xFC] ++ ticks 3

theorem ball_noninterference_pucks :
    ∃ t₁ t₂, Transition.run Pc.step guestGame blueMoves = some t₁ ∧
      Transition.run Pc.step guestGame redMoves = some t₂ ∧
      (t₁.blue = (542, 690) ∧ t₂.red = (519, 23)) ∧ t₁.table.ball = t₂.table.ball ∧
      t₁.table.tx.sent = encode [.puck 7 (-40)] := by
  have hreach₁ : ∃ s, Transition.run Pc.step guestGame blueMoves = some s ∧ s.blue = (542, 690) :=
    Transition.reaches_of_any (by decide +kernel)
  have hreach₂ : ∃ s, Transition.run Pc.step guestGame redMoves = some s ∧ s.red = (519, 23) :=
    Transition.reaches_of_any (by decide +kernel)
  obtain ⟨t₁, hrun₁, hblue⟩ := hreach₁
  obtain ⟨t₂, hrun₂, hred⟩ := hreach₂
  have hsound : guestGame.receiver.Sound := sound_init Setup.standard
  have hrole : guestGame.table.isMainPc = false := rfl
  have hgame₁ : Transition.Along Pc.step Pc.InGame guestGame blueMoves := by decide +kernel
  have hgame₂ : Transition.Along Pc.step Pc.InGame guestGame redMoves := by decide +kernel
  -- the beats are the same, though the pucks move at different times
  have hbeats : guestGame.beats blueMoves = guestGame.beats redMoves := by decide +kernel
  have hreports : guestGame.reports blueMoves = [.puck 7 (-40)] := by decide +kernel
  obtain ⟨hagree, hquiet, -⟩ :=
    ball_noninterference hsound hsound hrole hrole rfl hgame₁ hgame₂ hbeats hrun₁ hrun₂
  obtain ⟨bs, hsent, -, hidle⟩ := hquiet.sent
  refine ⟨t₁, t₂, hrun₁, hrun₂, ⟨hblue, hred⟩, hagree.1, ?_⟩
  rw [hsent, hidle rfl, hreports]
  rfl

end AirHockey
