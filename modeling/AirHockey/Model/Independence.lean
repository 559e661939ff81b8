import AirHockey.Model.Moves
import AirHockey.Model.Standard
import AirHockey.Model.Steps

/-! # What an earlier game leaves behind

Two states in which a game has just begun, in the same role, and the same inputs from then on. The
games are the same as long as nothing is left over: `SameGame` relates the two runs, and the only
things in it that the start of a game does not put right are named in `SameLeftovers`.

The proof is a simulation. `SameGame.step` shows, one case per interrupt, that equal inputs keep
two related states related; `JustEntered.fresh` says what every new game has in common, whichever
way it was entered; `games_independent` puts the two together by `Transition.simulation`. The
relation compares tables through `Table.bare`, since nothing in a game looks at the cursor or at
what has been sent. `games_depend` is the run that makes the condition necessary: half a message,
left in `stored_x`, shifts every word of the next game. -/

namespace AirHockey

/-! ## The part of the table that a game depends on -/

namespace Table

/-- The table without the cursor and the sending side, which no rule of the game looks at. -/
def bare (t : Table) : Table :=
  { t with
    mouse := createSprite ⟨0, 0, fun _ => 0⟩ 0 0
    tx := { slots := [], sent := [], history := [], gameMark := 0 } }

theorem eq_of_bare {t t' : Table} (h : t'.bare = t.bare) :
    t'.ball = t.ball ∧ t'.bluepuck = t.bluepuck ∧ t'.redpuck = t.redpuck ∧
      t'.player1Score = t.player1Score ∧ t'.player2Score = t.player2Score := by
  have hball := congrArg ball h
  have hblue := congrArg bluepuck h
  have hred := congrArg redpuck h
  have h₁ := congrArg player1Score h
  have h₂ := congrArg player2Score h
  exact ⟨hball, hblue, hred, h₁, h₂⟩

theorem bare_move_mouse (t : Table) (x y : Int) : (t.move .mouse x y 0).bare = t.bare := by
  generalize ht' : t.move .mouse x y 0 = t'
  cases Table.move_mouse ht' with
  | wall _ => rfl
  | free _ => rfl

/-- The ball moves as it would without them … -/
theorem bare_move_ball (t : Table) (x y : Int) :
    (t.move .ball x y 1).bare = (t.bare.move .ball x y 1).bare := by
  generalize ht' : t.move .ball x y 1 = t'
  generalize hu' : t.bare.move .ball x y 1 = u'
  -- each outcome on `t` is an outcome on `t.bare`, under the same tests; outcomes are unique
  have hsame : ∃ v, BallMove (int16 x) (int16 y) t.bare v ∧ v.bare = t'.bare := by
    cases Table.move_ball ht' with
    | goal hgoal => exact ⟨_, .goal hgoal, rfl⟩
    | wall htop hbottom hwall => exact ⟨_, .wall htop hbottom hwall, rfl⟩
    | bounce o htop hbottom hwall hmain hpuck =>
        refine ⟨_, .bounce o htop hbottom hwall hmain hpuck, ?_⟩
        rw [bounceOff_ball, bounceOff_ball]
        rcases puckAt_eq_some hpuck with rfl | rfl <;> rfl
    | free htop hbottom hwall hpuck => exact ⟨_, .free htop hbottom hwall hpuck, rfl⟩
  obtain ⟨v, hv, hbare⟩ := hsame
  rw [← hbare, hv.unique (Table.move_ball hu')]

/-- … and so do the pucks. -/
theorem bare_move_puck {o : Object} (ho : o = .redpuck ∨ o = .bluepuck) (t : Table) (x y : Int) :
    (t.move o x y 2).bare = (t.bare.move o x y 2).bare := by
  have hne : o ≠ .ball := by
    rcases ho with rfl | rfl <;> decide
  generalize ht' : t.move o x y 2 = t'
  generalize hu' : t.bare.move o x y 2 = u'
  have hsame : ∃ v, PuckMove o (int16 x) (int16 y) t.bare v ∧ v.bare = t'.bare := by
    cases Table.move_puck hne ht' with
    | wall hwall =>
        rcases ho with rfl | rfl
        all_goals exact ⟨_, .wall hwall, rfl⟩
    | middle hwall hmiddle =>
        rcases ho with rfl | rfl
        all_goals exact ⟨_, .middle hwall hmiddle, rfl⟩
    | hit hwall hmiddle hmain hball =>
        rcases ho with rfl | rfl
        all_goals exact ⟨_, .hit hwall hmiddle hmain hball, rfl⟩
    | free hwall hmiddle hball =>
        rcases ho with rfl | rfl
        all_goals exact ⟨_, .free hwall hmiddle hball, rfl⟩
  obtain ⟨v, hv, hbare⟩ := hsame
  rw [← hbare, hv.unique (Table.move_puck hne hu')]

end Table

/-! ## Two receivers with the same bytes -/

namespace Receiver

/-- The two receivers hold the same bytes, wherever their rings keep them. -/
structure Same (r r' : Receiver) : Prop where
  fifo : r'.fifo = r.fifo
  toList : r'.inQueue.toList = r.inQueue.toList
  capacity : r'.inQueue.capacity = r.inQueue.capacity
  isStoredX : r'.isStoredX = r.isStoredX
  storedX : r.isStoredX = true → r'.storedX = r.storedX

theorem enqueue_congr {q q' : Queue} (hlist : q'.toList = q.toList)
    (hcap : q'.capacity = q.capacity) (b : UInt8) :
    (q'.enqueue b).toList = (q.enqueue b).toList := by
  have hsize : q'.size = q.size := by
    rw [← Queue.length_toList, hlist, Queue.length_toList]
  by_cases hfull : q.size = q.capacity
  · rw [Queue.enqueue_of_full hfull, Queue.enqueue_of_full (by rw [hsize, hcap, hfull]), hlist]
  · have := q.size_le
    rw [Queue.toList_enqueue (by omega), Queue.toList_enqueue (by omega), hlist]

theorem Same.readChar {r r' : Receiver} (h : r.Same r') :
    r'.readChar.1 = r.readChar.1 ∧ r.readChar.2.Same r'.readChar.2 := by
  unfold Receiver.readChar
  rw [h.fifo]
  split
  · exact ⟨rfl, h⟩
  -- a byte is taken from both FIFOs; the same tests then decide whether it is queued
  · next slot fifo _ =>
      have hrest : Same { r with fifo := fifo } { r' with fifo := fifo } :=
        ⟨rfl, h.toList, h.capacity, h.isStoredX, h.storedX⟩
      dsimp only
      split
      · exact ⟨rfl, hrest⟩
      · split
        · split
          · exact ⟨rfl, hrest⟩
          · split
            · exact ⟨rfl, hrest⟩
            · refine ⟨rfl, rfl, enqueue_congr h.toList h.capacity _, ?_, h.isStoredX, h.storedX⟩
              simp only [Queue.capacity_enqueue]
              exact h.capacity
        · exact ⟨rfl, hrest⟩

theorem Same.readLoop (n : Nat) {r r' : Receiver} (h : r.Same r') :
    (readLoop n r).Same (readLoop n r') := by
  induction n generalizing r r' with
  | zero => exact h
  | succ n ih =>
      obtain ⟨hcode, hrest⟩ := h.readChar
      rw [Receiver.readLoop, Receiver.readLoop, hcode]
      split
      · exact ih hrest
      · exact hrest

theorem Same.spIh {r r' : Receiver} (h : r.Same r') (iir : Option UInt8) :
    (r.spIh iir).Same (r'.spIh iir) := by
  unfold Receiver.spIh
  rw [h.fifo]
  split
  · exact h.readLoop _
  · exact h

/-- The next word is the same, and so is what is left. -/
theorem Same.readNextSignal {r r' : Receiver} (h : r.Same r') :
    (r.readNextSignal = none ∧ r'.readNextSignal = none) ∨
      ∃ w u u', r.readNextSignal = some (w, u) ∧ r'.readNextSignal = some (w, u') ∧ u.Same u' := by
  rcases readNextSignal_congr h.toList.symm with hnone | ⟨w, p, q, hr, hr', hlist, hcap, hcap'⟩
  · exact .inl hnone
  · refine .inr ⟨w, _, _, hr, hr', h.fifo, hlist.symm, ?_, h.isStoredX, h.storedX⟩
    rw [hcap, hcap']
    exact h.capacity

end Receiver

theorem Pc.nextTempX_congr {r r' : Receiver} (h : r.Same r') :
    (nextTempX r = none ∧ nextTempX r' = none) ∨
      ∃ w u u', nextTempX r = some (w, u) ∧ nextTempX r' = some (w, u') ∧ u.Same u' := by
  unfold nextTempX
  rw [h.isStoredX]
  split
  -- the word in `stored_x` is used up in both
  · next hs =>
      rw [h.storedX hs]
      exact .inr ⟨_, _, _, rfl, rfl, h.fifo, h.toList, h.capacity, rfl, fun h' => by cases h'⟩
  · exact h.readNextSignal

/-! ## Two games -/

/-- Two states of the same game. `Receiver.Same` is needed as long as the game lasts; the last
scancode and the last byte of the mouse are the same only if `stale` asks for it. -/
structure SameGame (stale : Prop) (s t : Pc) : Prop where
  mode : t.mainState = s.mainState
  table : t.table.bare = s.table.bare
  timeCount : t.timeCount = s.timeCount
  timeRemaining : t.timeRemaining = s.timeRemaining
  sysHz : t.sysHz = s.sysHz
  count : t.count = s.count
  packet : t.packet = s.packet
  registers : stale → t.scancode = s.scancode ∧ t.byte = s.byte
  receiver : s.mainState = .game → s.receiver.Same t.receiver

/-- A keyboard or mouse interrupt finds something in the output buffer; without, the handlers work
on what they read last. -/
def Input.Reads : Input → Prop
  | .interrupt (.keyboard reads) | .interrupt (.mouse reads) => kbcPoll kbcRetryCnt reads ≠ none
  | _ => True

namespace SameGame

variable {stale : Prop} {s t : Pc}

theorem receive (h : SameGame stale s t) (slots : List RxSlot) :
    SameGame stale (s.receive slots) (t.receive slots) where
  mode := h.mode
  table := h.table
  timeCount := h.timeCount
  timeRemaining := h.timeRemaining
  sysHz := h.sysHz
  count := h.count
  packet := h.packet
  registers := h.registers
  receiver hgame := by
    -- what arrives arrives in both
    obtain ⟨hfifo, hlist, hcap, hflag, hword⟩ := h.receiver hgame
    refine ⟨?_, hlist, hcap, hflag, hword⟩
    show t.receiver.fifo ++ slots = s.receiver.fifo ++ slots
    rw [hfifo]

/-! ### The keyboard -/

theorem kbcIh (h : SameGame stale s t) {reads : List KbcRead}
    (hreads : stale ∨ kbcPoll kbcRetryCnt reads ≠ none) :
    SameGame stale (s.kbcIh reads) (t.kbcIh reads) ∧
      (t.kbcIh reads).keyboardError = (s.kbcIh reads).keyboardError ∧
      ((s.kbcIh reads).keyboardError = false →
        (t.kbcIh reads).scancode = (s.kbcIh reads).scancode) := by
  unfold Pc.kbcIh
  split
  · next hnone =>
      -- nothing is read, and `scancode` is that of an earlier interrupt
      have hstale : stale := hreads.resolve_right fun h => h hnone
      exact ⟨{ h with }, rfl, fun _ => (h.registers hstale).1⟩
  · split
    · exact ⟨{ h with registers := fun hs => ⟨rfl, (h.registers hs).2⟩ }, rfl, fun _ => rfl⟩
    · exact ⟨{ h with }, rfl, fun hfalse => by cases hfalse⟩

theorem gameKey (h : SameGame stale s t)
    (hscan : t.scancode = s.scancode) : SameGame stale s.gameKey t.gameKey := by
  unfold Pc.gameKey
  rw [hscan]
  split
  · -- the receivers no longer matter: the game is over
    exact
      { mode := rfl
        table := h.table
        timeCount := h.timeCount
        timeRemaining := h.timeRemaining
        sysHz := h.sysHz
        count := h.count
        packet := h.packet
        registers := h.registers
        receiver := by simp [Pc.leaveGame] }
  · exact { h with }

/-! ### The mouse -/

theorem mouseIh (h : SameGame stale s t) {reads : List KbcRead}
    (hreads : stale ∨ kbcPoll kbcRetryCnt reads ≠ none) :
    SameGame stale (s.mouseIh reads) (t.mouseIh reads) ∧
      (t.mouseIh reads).mouseError = (s.mouseIh reads).mouseError ∧
      ((s.mouseIh reads).mouseError = false → (t.mouseIh reads).byte = (s.mouseIh reads).byte) := by
  unfold Pc.mouseIh
  split
  · next hnone =>
      have hstale : stale := hreads.resolve_right fun h => h hnone
      exact ⟨{ h with }, rfl, fun _ => (h.registers hstale).2⟩
  · split
    · exact ⟨{ h with registers := fun hs => ⟨(h.registers hs).1, rfl⟩ }, rfl, fun _ => rfl⟩
    · exact ⟨{ h with }, rfl, fun hfalse => by cases hfalse⟩

end SameGame

/-- A packet does the same to two tables that differ in cursor and sending side. -/
theorem Pc.bare_actOnPacket (parsing : Packet) {t t' : Table} (h : t'.bare = t.bare) :
    (actOnPacket parsing t').bare = (actOnPacket parsing t).bare := by
  have hupdate : ∀ u : Table, (mouseUpdate parsing u).bare = u.bare := by
    intro u
    unfold mouseUpdate
    split
    · rfl
    · exact Table.bare_move_mouse u _ _
  have hsame : (mouseUpdate parsing t').bare = (mouseUpdate parsing t).bare := by
    rw [hupdate, hupdate, h]
  unfold actOnPacket
  dsimp only
  split
  · show ((mouseUpdate parsing t').move .bluepuck _ _ 2).bare =
      ((mouseUpdate parsing t).move .bluepuck _ _ 2).bare
    rw [Table.bare_move_puck (.inr rfl), hsame, ← Table.bare_move_puck (.inr rfl)]
  · exact congrArg (fun u : Table =>
      { u with bluepuck := { u.bluepuck with xspeed := 0, yspeed := 0 } }) hsame

namespace SameGame

variable {stale : Prop} {s t : Pc}

theorem mouseInt (h : SameGame stale s t) {reads : List KbcRead}
    (hreads : stale ∨ kbcPoll kbcRetryCnt reads ≠ none) :
    SameGame stale (s.mouseInt reads) (t.mouseInt reads) := by
  obtain ⟨hih, herror, hbyte⟩ := h.mouseIh hreads
  unfold Pc.mouseInt
  dsimp only
  rw [herror]
  split
  · exact hih
  · next hok =>
      have hbyte := hbyte (by simpa using hok)
      have hregisters : stale → (t.mouseIh reads).scancode = (s.mouseIh reads).scancode ∧
          (s.mouseIh reads).byte = (s.mouseIh reads).byte := fun hs => ⟨(hih.registers hs).1, rfl⟩
      rw [hih.count, hih.packet, hbyte]
      split
      · exact hih
      · split
        · exact
            { hih with
              count := rfl
              packet := rfl
              registers := hregisters
              table := Pc.bare_actOnPacket _ hih.table }
        · exact { hih with count := rfl, packet := rfl, registers := hregisters }

/-! ### The timer -/

theorem puckTick (h : SameGame stale s t) : SameGame stale s.puckTick t.puckTick := by
  -- whether a puck message is due differs between the two, but it only concerns the sending side
  have hframe : ∀ u : Pc, ∃ tx n x y, u.puckTick =
      { u with
        table := { u.table with tx := tx }
        puckTransmit := n
        previousX := x
        previousY := y } := by
    intro u
    unfold Pc.puckTick
    dsimp only
    split
    · exact ⟨_, _, _, _, rfl⟩
    · exact ⟨u.table.tx, _, u.previousX, u.previousY, rfl⟩
  obtain ⟨_, _, _, _, hs⟩ := hframe s
  obtain ⟨_, _, _, _, ht⟩ := hframe t
  rw [hs, ht]
  exact { h with table := h.table }

/-- The test of the clock looks at the clock and the scores only. -/
theorem clockTick (h : SameGame stale s t) : SameGame stale s.clockTick t.clockTick := by
  obtain ⟨-, -, -, hscores⟩ := Table.eq_of_bare h.table
  have hclock : t.clockTick.mainState = s.clockTick.mainState ∧
      t.clockTick.timeRemaining = s.clockTick.timeRemaining := by
    unfold Pc.clockTick
    rw [h.timeCount, h.sysHz, h.timeRemaining]
    dsimp only
    rw [hscores.1, hscores.2]
    have hmode := h.mode
    have hremaining := h.timeRemaining
    by_cases hsecond : s.timeCount % s.sysHz = 0
    · by_cases htime : s.timeRemaining > 0
      · by_cases h₁ : s.table.player1Score = 3
        · simp [hsecond, htime, h₁]
        · by_cases h₂ : s.table.player2Score = 3 <;> simp [hsecond, htime, h₁, h₂, hmode]
      · rcases lt_trichotomy s.table.player1Score s.table.player2Score with hlt | heq | hgt
        · simp [hsecond, htime, hlt, hlt.ne, hlt.not_gt]
        · simp [hsecond, htime, heq]
        · simp [hsecond, htime, hgt, hgt.ne']
    · simp [hsecond, hmode, hremaining]
  obtain ⟨mode, remaining, hs, hmode⟩ := Pc.clockTick_frame s
  obtain ⟨mode', remaining', ht, -⟩ := Pc.clockTick_frame t
  -- a tick begins no game
  have hgame : mode = .game → s.mainState = .game := by
    rcases hmode with rfl | rfl | rfl | rfl
    · exact id
    all_goals exact nofun
  rw [hs, ht] at hclock ⊢
  exact
    { h with
      mode := hclock.1
      timeRemaining := hclock.2
      receiver := fun hm => h.receiver (hgame hm) }

theorem ballTick (h : SameGame stale s t) : SameGame stale s.ballTick t.ballTick := by
  unfold Pc.ballTick
  rw [(Table.eq_of_bare h.table).1]
  split
  · refine { h with table := ?_ }
    show (t.table.move .ball _ _ 1).bare = (s.table.move .ball _ _ 1).bare
    rw [Table.bare_move_ball, h.table, ← Table.bare_move_ball]
  · exact h

theorem timerInt (h : SameGame stale s t) (hgame : s.mainState = .game) :
    SameGame stale s.timerInt t.timerInt := by
  -- the mode is compared first, since the receivers must agree in `.game` only
  have htick : SameGame stale s.timerIntHandler t.timerIntHandler := by
    refine { h with timeCount := ?_ }
    show (t.timeCount + 1) % 2 ^ 32 = (s.timeCount + 1) % 2 ^ 32
    rw [h.timeCount]
  unfold Pc.timerInt
  dsimp only
  rw [show t.timerIntHandler.mainState = .game from h.mode.trans hgame,
    show s.timerIntHandler.mainState = .game from hgame]
  exact htick.puckTick.clockTick.ballTick

/-! ### The serial port -/

theorem withReceiver (h : SameGame stale s t) {r r' : Receiver} (hr : r.Same r') :
    SameGame stale { s with receiver := r } { t with receiver := r' } :=
  { h with receiver := fun _ => hr }

theorem applyPayload (h : SameGame stale s t) (hr : s.receiver.Same t.receiver) (tempX : Nat) :
    SameGame stale (s.applyPayload tempX) (t.applyPayload tempX) := by
  unfold Pc.applyPayload
  -- the second word is missing: the first is stored in both
  rcases hr.readNextSignal with ⟨hs, ht⟩ | ⟨tempY, u, u', hs, ht, hsame⟩
  · rw [hs, ht]
    exact h.withReceiver ⟨hr.fifo, hr.toList, hr.capacity, rfl, fun _ => rfl⟩
  · rw [hs, ht]
    have hrest := h.withReceiver hsame
    dsimp only
    split
    · refine { hrest with table := ?_ }
      exact congrArg (fun u : Table => { u with ball := { u.ball with
        xspeed := -int8 (tempY % 256 : Nat), yspeed := -int8 (tempY / 256 : Nat) } })
        (h.table : t.table.bare = _)
    · refine { hrest with table := ?_ }
      show (t.table.move .redpuck _ _ 2).bare = (s.table.move .redpuck _ _ 2).bare
      rw [Table.bare_move_puck (.inl rfl), h.table, ← Table.bare_move_puck (.inl rfl)]

theorem spGame (h : SameGame stale s t) (hr : s.receiver.Same t.receiver) :
    SameGame stale s.spGame t.spGame := by
  unfold Pc.spGame
  rcases Pc.nextTempX_congr hr with ⟨hs, ht⟩ | ⟨tempX, u, u', hs, ht, hsame⟩
  · rw [hs, ht]
    exact h
  · rw [hs, ht]
    dsimp only
    split
    · exact { h with mode := rfl, receiver := fun hmenu => by cases hmenu }
    · exact (h.withReceiver hsame).applyPayload hsame tempX

theorem spInt (h : SameGame stale s t) (hgame : s.mainState = .game) (iir : Option UInt8) :
    SameGame stale (s.spInt iir) (t.spInt iir) := by
  have hread := (h.receiver hgame).spIh iir
  rw [Pc.spInt_of_game hgame, Pc.spInt_of_game (h.mode.trans hgame)]
  exact (h.withReceiver hread).spGame hread

/-! ### Every step -/

/-- **One step of two games.** -/
theorem step (h : SameGame stale s t) {i : Input} (hgame : s.mainState = .game)
    (hreads : stale ∨ i.Reads) {s' t' : Pc} (hs : s.step i = some s') (ht : t.step i = some t') :
    SameGame stale s' t' := by
  cases i with
  | arrive slots =>
      cases hs
      cases ht
      exact h.receive slots
  | interrupt i =>
      cases i with
      | timer =>
          cases hs
          cases ht
          exact h.timerInt hgame
      | keyboard reads =>
          obtain ⟨hih, herror, hscan⟩ := h.kbcIh hreads
          obtain ⟨-, hmode, -⟩ := Pc.kbcIh_menuOnly reads s
          have hgame' : (s.kbcIh reads).mainState = .game := hmode.trans hgame
          have hs : s.keyboardInt reads = some s' := hs
          have ht : t.keyboardInt reads = some t' := ht
          unfold Pc.keyboardInt at hs ht
          dsimp only at hs ht
          rw [herror, hih.mode, hgame'] at ht
          -- a scancode is read in both or in neither
          rw [hgame'] at hs
          split at hs
          · next herr =>
              rw [if_pos herr] at ht
              cases hs
              cases ht
              exact hih
          · next herr =>
              rw [if_neg herr] at ht
              cases hs
              cases ht
              exact hih.gameKey (hscan (by simpa using herr))
      | mouse reads =>
          cases hs
          cases ht
          exact h.mouseInt hreads
      | serial iir =>
          cases hs
          cases ht
          exact h.spInt hgame iir

end SameGame

/-! ## The start of a game -/

/-- What a sprite keeps from `loader_sprite` on. -/
def Sprite.shape (s : Sprite) : Sprite := { s with x := 0, y := 0, xspeed := 0, yspeed := 0 }

/-- What the table keeps of its three pieces. -/
def Table.shapes (t : Table) : Sprite × Sprite × Sprite × Nat :=
  (t.redpuck.shape, t.bluepuck.shape, t.ball.shape, t.bytesPerPixel)

namespace Table

theorem shape_putAgainst (info : Walls) (s : Sprite) : (putAgainst info s).shape = s.shape := by
  obtain ⟨top, right, bottom, left⟩ := info
  cases top <;> cases right <;> cases bottom <;> cases left <;> rfl

theorem shape_reflect (info : Walls) (s : Sprite) : (reflect info s).shape = s.shape := by
  obtain ⟨top, right, bottom, left⟩ := info
  cases top <;> cases right <;> cases bottom <;> cases left <;> rfl

theorem shape_bounced (ball other : Sprite) : (bounced ball other).shape = ball.shape := by
  unfold bounced
  split <;> rfl

/-- A piece is exchanged for one of the same shape. -/
theorem shapes_set {t : Table} {o : Object} {sprite : Sprite}
    (h : sprite.shape = (t.get o).shape) : (t.set o sprite).shapes = t.shapes := by
  cases o with
  | mouse => rfl
  | redpuck | bluepuck | ball =>
      unfold shapes
      simp only [set, get] at h ⊢
      rw [h]

theorem shapes_move_puck {o : Object} (ho : o ≠ .ball) (t : Table) (x y : Int) :
    (t.move o x y 2).shapes = t.shapes := by
  generalize ht' : t.move o x y 2 = t'
  cases Table.move_puck ho ht' with
  | wall _ => exact shapes_set (shape_putAgainst _ _)
  | middle _ _ => exact shapes_set rfl
  | hit _ _ _ _ => rfl
  | free _ _ _ => exact shapes_set rfl

theorem shapes_move_ball (t : Table) (x y : Int) : (t.move .ball x y 1).shapes = t.shapes := by
  generalize ht' : t.move .ball x y 1 = t'
  have hball : ∀ sprite : Sprite, sprite.shape = t.ball.shape →
      shapes { t with ball := sprite } = t.shapes := by
    intro sprite hs
    simp only [shapes, hs]
  cases Table.move_ball ht' with
  | goal _ => rfl
  | wall _ _ _ => exact hball _ (shape_reflect _ _)
  | bounce o _ _ _ _ _ =>
      rw [bounceOff_ball]
      exact hball _ (shape_bounced _ _)
  | free _ _ _ _ => rfl

theorem shapes_move_mouse (t : Table) (x y : Int) : (t.move .mouse x y 0).shapes = t.shapes := by
  generalize ht' : t.move .mouse x y 0 = t'
  cases Table.move_mouse ht' with
  | wall _ => rfl
  | free _ => rfl

end Table

/-- Nothing ever changes a piece's size, pixels or visibility. -/
theorem tableInvariant_shapes (u : Table) : TableInvariant fun t => t.shapes = u.shapes where
  send _ _ h := h
  role _ _ h := h
  reset _ h := h
  cursor t x y h := (t.shapes_move_mouse x y).trans h
  ball t x y h := (t.shapes_move_ball x y).trans h
  redpuck t x y h := (Table.shapes_move_puck (by decide) t x y).trans h
  bluepuck t x y h := (Table.shapes_move_puck (by decide) t x y).trans h
  visibility _ _ h := h
  release _ h := h
  speed _ _ _ h := h

/-- A new game is set up from the shapes and the role alone. -/
theorem Table.bare_reset {t u : Table} (h : t.shapes = u.shapes)
    (hrole : t.isMainPc = u.isMainPc) : t.reset.bare = u.reset.bare := by
  obtain ⟨hred, hblue, hball, hbpp⟩ := Prod.mk.inj h |>.imp_right fun h =>
    (Prod.mk.inj h).imp_right Prod.mk.inj
  have hplace : ∀ {a b : Sprite} (x y : Int), a.shape = b.shape →
      ({ a with x := x, y := y, xspeed := 0, yspeed := 0 } : Sprite) =
        { b with x := x, y := y, xspeed := 0, yspeed := 0 } := by
    intro a b x y hab
    exact congrArg (fun s : Sprite => { s with x := x, y := y }) hab
  unfold reset bare
  simp only [Table.mk.injEq, hrole, hbpp, and_true, true_and]
  exact ⟨hplace 535 55 hred, hplace 535 730 hblue, hplace 550 410 hball⟩

/-- A game has begun with the last step: by the Play key, a received start word, or Play again. -/
def JustEntered (S : Setup) (s : Pc) : Prop :=
  ∃ es i before, Transition.run Pc.step (init S) es = some before ∧ before.mainState ≠ .game ∧
    before.step i = some s ∧ s.mainState = .game

/-- What every new game has in common. -/
theorem JustEntered.fresh {S : Setup} {s : Pc} (h : JustEntered S s) :
    s.mainState = .game ∧ s.timeCount = 0 ∧ s.timeRemaining = 200 ∧ s.sysHz = S.sysHz ∧
      s.receiver.Sound ∧
      s.table.bare = Table.bare { (loaderSprite S).reset with isMainPc := s.table.isMainPc } := by
  obtain ⟨es, i, before, hrun, hbefore, hstep, hgame⟩ := h
  have hreach : Transition.run Pc.step (init S) (es ++ [i]) = some s :=
    (Transition.run_snoc_eq_some Pc.step).mpr ⟨before, hrun, hstep⟩
  -- the hardware and the shapes have not changed since `loader_sprite`
  obtain ⟨hsound, hhz⟩ : s.receiver.Sound ∧ s.sysHz = S.sysHz :=
    Pc.run_sound (sound_init S) hreach
  have hshapes : s.table.shapes = (loaderSprite S).shapes :=
    (tableInvariant_shapes (loaderSprite S)).run rfl hreach
  -- every way into a game goes through `reset_game_state`
  obtain ⟨-, t, hrole, ht⟩ := Pc.justReset_of_enters hstep hbefore hgame
  refine ⟨hgame, ht.clock.1, ht.clock.2.1, hhz, hsound, ?_⟩
  rw [ht.table] at hshapes
  rw [← hrole, ht.table]
  exact Table.bare_reset (t := t.table)
    (u := { loaderSprite S with isMainPc := t.table.isMainPc }) hshapes rfl

/-! ## Games on the standard machine -/

/-- A game that a computation finds to begin with the input `i`, in a state with property `P`. -/
theorem justEntered_of_any (es : List Input) (i : Input) {P : Pc → Prop} [DecidablePred P]
    (h : (Transition.run Pc.step (init Setup.standard) es).any (fun before =>
      decide (before.mainState ≠ .game ∧ (Transition.run Pc.step before [i]).any
        (fun s => decide (s.mainState = .game ∧ P s)) = true)) = true) :
    ∃ s, JustEntered Setup.standard s ∧ P s := by
  obtain ⟨before, hrun, hbefore, hstep⟩ := Transition.reaches_of_any h
  obtain ⟨s, hs, hgame, hP⟩ := Transition.reaches_of_any hstep
  rw [Transition.run_singleton] at hs
  exact ⟨s, ⟨es, i, before, hrun, hbefore, hs, hgame⟩, hP⟩

def playKey : Input := .interrupt (.keyboard [⟨some kbcObf, some spaceBreakCode⟩])

/-- A game has begun with the Play key, and no mouse packet is half read. -/
def Pc.Played (s : Pc) : Prop :=
  s.table.isMainPc = true ∧ s.count = 0 ∧ s.packet = [0, 0, 0] ∧
    s.scancode = spaceBreakCode ∧ s.byte = 0

instance (s : Pc) : Decidable s.Played := inferInstanceAs (Decidable (_ ∧ _))

/-! ## Independence -/

/-- The two states agree on what the start of a game leaves as it is: the word in `stored_x`, and
the bytes that a failed `serialPort_resetFIFO` did not throw away. -/
structure SameLeftovers (s t : Pc) : Prop where
  isStoredX : t.receiver.isStoredX = s.receiver.isStoredX
  storedX : s.receiver.isStoredX = true → t.receiver.storedX = s.receiver.storedX
  fifo : t.receiver.fifo = s.receiver.fifo
  inQueue : t.receiver.inQueue.toList = s.receiver.inQueue.toList

/-- **Games that begin without leftovers are the same.** Two games begin in the same role and with
the same mouse packet half read; from then on both PCs see the same inputs. As long as the game
lasts, and in the state that ends it, nothing tells them apart: provided that no word and no bytes
are left over in one of them only, and that no interrupt of the keyboard or the mouse makes a
handler work on the register it read in an earlier interrupt, unless these are the same, too. -/
theorem games_independent {S : Setup} {s t : Pc} (hs : JustEntered S s) (ht : JustEntered S t)
    (hrole : t.table.isMainPc = s.table.isMainPc)
    (hassembler : t.count = s.count ∧ t.packet = s.packet) (hleft : SameLeftovers s t)
    {es : List Input}
    (hstale : (t.scancode = s.scancode ∧ t.byte = s.byte) ∨ ∀ i ∈ es, i.Reads)
    (hgame : Transition.Along Pc.step (fun u _ => u.mainState = .game) s es) {s' t' : Pc}
    (hs' : Transition.run Pc.step s es = some s') (ht' : Transition.run Pc.step t es = some t') :
    t'.mainState = s'.mainState ∧ t'.timeRemaining = s'.timeRemaining ∧
      t'.table.ball = s'.table.ball ∧ t'.table.bluepuck = s'.table.bluepuck ∧
      t'.table.redpuck = s'.table.redpuck ∧ t'.table.player1Score = s'.table.player1Score ∧
      t'.table.player2Score = s'.table.player2Score := by
  obtain ⟨hsgame, hscount, hsremaining, hshz, hssound, hstable⟩ := hs.fresh
  obtain ⟨htgame, htcount, htremaining, hthz, htsound, httable⟩ := ht.fresh
  -- everything that the start of a game sets, and the leftovers for the rest
  have hstart : SameGame (t.scancode = s.scancode ∧ t.byte = s.byte) s t :=
    { mode := htgame.trans hsgame.symm
      table := by rw [httable, hstable, hrole]
      timeCount := htcount.trans hscount.symm
      timeRemaining := htremaining.trans hsremaining.symm
      sysHz := hthz.trans hshz.symm
      count := hassembler.1
      packet := hassembler.2
      registers := id
      receiver := fun _ => ⟨hleft.fifo, hleft.inQueue, htsound.capacity.trans hssound.capacity.symm,
        hleft.isStoredX, hleft.storedX⟩ }
  have hreads : ∀ i ∈ es, (t.scancode = s.scancode ∧ t.byte = s.byte) ∨ i.Reads :=
    fun i hi => hstale.imp_right fun h => h i hi
  have hguard := hgame.and_mem hreads
  have hend := Transition.simulation (fun u v i u' v' huv hok hu hv => huv.step hok.1 hok.2 hu hv)
    hstart hguard hs' ht'
  exact ⟨hend.mode, hend.timeRemaining, Table.eq_of_bare hend.table⟩

/-- A game at the start of the program, and one after a game that was left: a puck message and a
second of play. -/
theorem games_independent_standard :
    ∃ s t s' t', JustEntered Setup.standard s ∧ JustEntered Setup.standard t ∧
      Transition.run Pc.step s (received [10, 0, 20, 0] ++ ticks 60) = some s' ∧
      Transition.run Pc.step t (received [10, 0, 20, 0] ++ ticks 60) = some t' ∧
      t'.table.redpuck = s'.table.redpuck := by
  let es := received [10, 0, 20, 0] ++ ticks 60
  -- both games begin with the Play key, the second after a game that was left with Escape
  have hentered : ∀ es₀ : List Input, es₀ = [] ∨ es₀ = key spaceBreakCode ++ key escBreakCode →
      ∃ s, JustEntered Setup.standard s ∧ s.Played ∧ s.receiver.isStoredX = false ∧
        s.receiver.fifo.length = 0 ∧ s.receiver.inQueue.toList = [] ∧
        Transition.Along Pc.step (fun u _ => u.mainState = .game) s es ∧
        (Transition.run Pc.step s es).any (fun _ => decide True) = true := by
    rintro es₀ (rfl | rfl)
    · exact justEntered_of_any [] playKey (by decide +kernel)
    · exact justEntered_of_any (key spaceBreakCode ++ key escBreakCode) playKey (by decide +kernel)
  obtain ⟨s, hs, hsplayed, hsstored, hsfifo, hsqueue, hsgame, hsrun⟩ := hentered _ (.inl rfl)
  obtain ⟨t, ht, htplayed, htstored, htfifo, htqueue, -, htrun⟩ := hentered _ (.inr rfl)
  obtain ⟨s', hs', -⟩ := Transition.reaches_of_any hsrun
  obtain ⟨t', ht', -⟩ := Transition.reaches_of_any htrun
  obtain ⟨hsrole, hscount, hspacket, hsscan, hsbyte⟩ := hsplayed
  obtain ⟨htrole, htcount, htpacket, htscan, htbyte⟩ := htplayed
  have hleft : SameLeftovers s t :=
    { isStoredX := htstored.trans hsstored.symm
      storedX := fun h => by simp [hsstored] at h
      fifo := by
        rw [List.length_eq_zero_iff.mp htfifo, List.length_eq_zero_iff.mp hsfifo]
      inQueue := htqueue.trans hsqueue.symm }
  have hend := games_independent hs ht (htrole.trans hsrole.symm)
    ⟨htcount.trans hscount.symm, htpacket.trans hspacket.symm⟩ hleft
    (.inl ⟨htscan.trans hsscan.symm, htbyte.trans hsbyte.symm⟩) hsgame hs' ht'
  exact ⟨s, t, s', t', hs, ht, hs', ht', hend.2.2.2.2.1⟩

/-- In the first of two games, one right at the start of the program, the puck message `(10, 20)`
moves the puck to `(525, 35)`. Before the other a game was left with half of a message read: there
the same bytes move the puck to `(530, 45)`. -/
theorem games_depend :
    ∃ s t s' t', JustEntered Setup.standard s ∧ JustEntered Setup.standard t ∧
      s.Played ∧ t.Played ∧
      Transition.run Pc.step s (received [10, 0, 20, 0]) = some s' ∧
      Transition.run Pc.step t (received [10, 0, 20, 0]) = some t' ∧
      (s'.table.redpuck.x = 525 ∧ s'.table.redpuck.y = 35) ∧
      t'.table.redpuck.x = 530 ∧ t'.table.redpuck.y = 45 := by
  have hfirst : ∃ s, JustEntered Setup.standard s ∧ s.Played ∧
      (Transition.run Pc.step s (received [10, 0, 20, 0])).any (fun s' =>
        decide (s'.table.redpuck.x = 525 ∧ s'.table.redpuck.y = 35)) = true :=
    justEntered_of_any [] playKey (by decide +kernel)
  have hsecond : ∃ t, JustEntered Setup.standard t ∧ t.Played ∧
      (Transition.run Pc.step t (received [10, 0, 20, 0])).any (fun t' =>
        decide (t'.table.redpuck.x = 530 ∧ t'.table.redpuck.y = 45)) = true :=
    -- `5, 0` is one word: it goes to `stored_x`, which the start of the next game does not clear
    justEntered_of_any (key spaceBreakCode ++ received [5, 0] ++ key escBreakCode) playKey
      (by decide +kernel)
  obtain ⟨s, hs, hsplayed, hsrun⟩ := hfirst
  obtain ⟨t, ht, htplayed, htrun⟩ := hsecond
  obtain ⟨s', hs', hsred⟩ := Transition.reaches_of_any hsrun
  obtain ⟨t', ht', htred⟩ := Transition.reaches_of_any htrun
  exact ⟨s, t, s', t', hs, ht, hsplayed, htplayed, hs', ht', hsred, htred⟩

end AirHockey
