import AirHockey.Lib.Trace
import AirHockey.Model.Acts
import AirHockey.Model.Bounds

/-! # Hits

A puck and the ball hit each other in three ways: the ball runs into a puck on a tick, the mouse
pushes the blue puck into the ball, and a message does so with the red one. Each hit is announced,
with the velocity that it has given the ball, and nothing else is.

`hits` says of a table and a motion whether there is a hit, by the program's own tests in their
order. `TableStep.tells` is the step lemma: what an input has the PC tell of the ball (`strikes`)
is the velocity after its hit, or nothing. The main result, `hits_announced`, is about whole
games: the ball messages that a run puts on the line are the trace of its hits, in order, and the
other PC decodes each of them as the opposite velocity. -/

namespace AirHockey

/-- What a message tells of the ball. -/
def Message.strike : Message → Option (Int × Int)
  | .ball vx vy => some (vx, vy)
  | .signal | .puck _ _ => none

/-- The velocities told by a sequence of messages. -/
def strikes (ms : List Message) : List (Int × Int) := ms.filterMap Message.strike

theorem strikes_append (ms ns : List Message) : strikes (ms ++ ns) = strikes ms ++ strikes ns :=
  List.filterMap_append

@[simp] theorem strikes_ball (vs : List (Int × Int)) : strikes (ballMessages vs) = vs := by
  simp only [strikes, ballMessages, List.filterMap_map]
  exact List.filterMap_some

theorem strikes_of_puckTold {s s' : Pc} {ds : List Message} (h : s.PuckTold s' ds) :
    strikes ds = [] := by
  cases h <;> rfl

namespace Table

/-- A puck that is about to be moved, past walls and middle line, runs into the ball. -/
def puckHits (t : Table) (o : Object) (x y : Int) : Bool :=
  let newX := (t.get o).x + x
  let newY := (t.get o).y - y
  !detectWallCollision (t.get o) newX newY && !detectMiddleFieldCollision (t.get o) newX newY &&
    t.isMainPc && detectCollision (t.get o) newX newY t.ball t.bytesPerPixel

/-- The ball that is about to move, past goals and walls, runs into a puck. -/
-- and those for the ball, which looks at the goals first
def ballHits (t : Table) : Bool :=
  let newX := t.ball.x + int16 t.ball.xspeed
  let newY := t.ball.y - int16 t.ball.yspeed
  (t.ball.xspeed ≠ 0 ∨ t.ball.yspeed ≠ 0) && !topGoal t.ball newX newY &&
    !bottomGoal t.ball newX newY && !detectWallCollision t.ball newX newY && t.isMainPc &&
    (t.puckAt newX newY).isSome

/-- A motion that brings a puck and the ball together. -/
def hits (t : Table) : Motion → Bool
  | .tick => t.ballHits
  | .packet parsing =>
    parsing.lb && t.puckHits .bluepuck (int16 parsing.deltaX) (int16 parsing.deltaY)
  | .effect (.move x y) => t.puckHits .redpuck (int16 x) (int16 y)
  | .effect (.ballSpeed _ _) => false

/-! ## One motion -/

/-- The velocities that a motion tells: that of the ball after a hit, if there has been one. -/
structure Tells (t t' : Table) (hit : Bool) : Prop where
  tx : t'.tx = t.tx.tell (ballMessages (if hit then [t'.ball.velocity] else []))

theorem Tells.silent {t t' : Table} {hit : Bool} (hhit : hit = false) (htx : t'.tx = t.tx) :
    Tells t t' hit := by
  subst hhit
  exact ⟨htx.trans (Transmitter.tell_nil _).symm⟩

theorem move_puck_tells {t : Table} (hidle : t.tx.slots = []) {o : Object}
    (ho : o = .redpuck ∨ o = .bluepuck) (x y : Int) :
    Tells t (t.move o x y 2) (t.puckHits o (int16 x) (int16 y)) := by
  have hne : o ≠ .ball := by
    rcases ho with rfl | rfl <;> decide
  have hset : ∀ sprite, (t.set o sprite).tx = t.tx := by
    intro sprite
    cases o <;> rfl
  generalize ht' : t.move o x y 2 = t'
  cases move_puck hne ht' with
  -- before the test for the ball is reached nothing is told
  | wall hwall => exact .silent (by simp [puckHits, hwall]) (hset _)
  | middle _ hmiddle => exact .silent (by simp [puckHits, hmiddle]) (hset _)
  -- a hit: the velocity that is told is the one after the stroke
  | hit hwall hmiddle hmain hball =>
      have hhit : t.puckHits o (int16 x) (int16 y) = true := by
        simp [puckHits, hwall, hmiddle, hmain, hball]
      rw [hhit]
      exact ⟨Transmitter.transmitBallSpeed_tell hidle _ _⟩
  | free _ _ hball =>
      refine .silent ?_ (hset _)
      cases hmain : t.isMainPc with
      | false => simp [puckHits, hmain]
      | true => simp [puckHits, hball hmain]

theorem ballTick_tells {t : Table} (hidle : t.tx.slots = []) : Tells t t.ballTick t.ballHits := by
  unfold ballTick
  split
  · next hmoving =>
      generalize ht' : t.move .ball t.ball.xspeed t.ball.yspeed 1 = t'
      cases move_ball ht' with
      | goal hgoal =>
          refine .silent ?_ rfl
          rcases hgoal with htop | hbottom
          · simp [ballHits, htop]
          · simp [ballHits, hbottom]
      | wall _ _ hwall => exact .silent (by simp [ballHits, hwall]) rfl
      | bounce o htop hbottom hwall hmain hpuck =>
          have hhit : t.ballHits = true := by
            simp [ballHits, hmoving, htop, hbottom, hwall, hmain, hpuck]
          rw [hhit, bounceOff_ball]
          exact ⟨Transmitter.transmitBallSpeed_tell hidle _ _⟩
      | free _ _ _ hpuck =>
          refine .silent ?_ rfl
          cases hmain : t.isMainPc with
          | false => simp [ballHits, hmain]
          | true => simp [ballHits, hpuck hmain]
  · next hrest => exact .silent (by simp [ballHits, hrest]) rfl

theorem actOnPacket_tells {t : Table} (hidle : t.tx.slots = []) (parsing : Packet) :
    Tells t (Pc.actOnPacket parsing t) (t.hits (.packet parsing)) := by
  have hpacket := Pc.actOnPacket_move parsing t
  generalize Pc.actOnPacket parsing t = t' at hpacket ⊢
  cases hpacket with
  | drag m hlb =>
      have htells := move_puck_tells hidle (.inr rfl) parsing.deltaX parsing.deltaY
      rw [hits, hlb, Bool.true_and]
      exact ⟨htells.tx⟩
  | release m hlb => exact .silent (by rw [hits, hlb, Bool.false_and]) rfl

theorem apply_tells {t : Table} (hidle : t.tx.slots = []) (e : Effect) :
    Tells t (e.apply t) (t.hits (.effect e)) := by
  cases e with
  | move x y => exact move_puck_tells hidle (.inl rfl) x y
  | ballSpeed _ _ => exact .silent rfl rfl

end Table

namespace Pc

/-- The input brings a puck and the ball together. -/
def contact (s : Pc) (i : Input) : Bool := (s.motion i).any s.table.hits

/-- The velocity that the ball has got from a hit. -/
def hit (s : Pc) (i : Input) (s' : Pc) : Option (Int × Int) :=
  if s.contact i then some s'.table.ball.velocity else none

/-- No velocity of the ball is heard from the other PC. -/
def NoBallMessage (s : Pc) (i : Input) : Prop :=
  ∀ vx vy, s.motion i ≠ some (.effect (.ballSpeed vx vy))

theorem NoBallMessage.slow {s : Pc} {i : Input} (h : s.NoBallMessage i) : s.SlowMessage i :=
  fun vx vy hspeed => absurd hspeed (h vx vy)

/-- **Every input tells the hit that it brings about**, with the velocity that it leaves the ball
with. -/
theorem TableStep.tells {s s' : Pc} {i : Input} (hstep : TableStep s s' i)
    (hidle : s.table.tx.slots = []) :
    ∃ ms, s.Told s' ms ∧ strikes ms = (s.hit i s').toList := by
  have hquiet : s.motion i = none → s.hit i s' = none := by
    intro hmotion
    rw [hit, contact, hmotion]
    rfl
  have hsome : ∀ {m}, s.motion i = some m → (s.hit i s').toList =
      if s.table.hits m then [s'.table.ball.velocity] else [] := by
    intro m hmotion
    rw [hit, contact, hmotion, Option.any_some]
    split <;> rfl
  have htelling : ∀ {m}, s.motion i = some m → Table.Tells s.table s'.table (s.table.hits m) →
      ∃ ms, s.Told s' ms ∧ strikes ms = (s.hit i s').toList :=
    fun hmotion h => ⟨_, .of_tell h.tx, by rw [strikes_ball, hsome hmotion]⟩
  have hsignal := Transmitter.sendSignal_tell hidle
  cases hstep with
  | keep hmotion htable _ =>
      exact ⟨[], .of_table htable, by rw [hquiet hmotion]; rfl⟩
  | tick hmotion hgame htable =>
      -- the displacement of the puck goes out first, then the ball moves
      obtain ⟨ds, htold, htable', -, -⟩ := puckTick_line (s := s.timerIntHandler) hidle
      have htx : s.timerIntHandler.puckTick.table.tx = s.table.tx.tell ds := by
        rw [htable']
        rfl
      rw [htx] at htable
      have htells := Table.ballTick_tells (t := { s.table with tx := s.table.tx.tell ds }) hidle
      rw [← htable] at htells
      refine ⟨_, .of_tell (htells.tx.trans (Transmitter.tell_tell _ ds _)), ?_⟩
      rw [strikes_append, strikes_of_puckTold htold, strikes_ball, List.nil_append, hsome hmotion]
      rfl
  | packet parsing hmotion htable _ =>
      exact htelling hmotion (htable ▸ Table.actOnPacket_tells hidle parsing)
  | effect e hmotion _ htable _ => exact htelling hmotion (htable ▸ Table.apply_tells hidle e)
  | leave hmotion _ htable =>
      refine ⟨[.signal], .of_tell ?_, by rw [hquiet hmotion]; rfl⟩
      rw [htable, ← hsignal]
  | reset hmotion tx isMainPc htx htable =>
      -- the Play key announces the game first; Play again and a start word do not
      rw [hquiet hmotion]
      rcases htx with rfl | rfl
      · refine ⟨[], ⟨?_, ?_, ?_⟩, rfl⟩ <;> rw [htable] <;> simp [Table.reset]
      · rw [hsignal] at htable
        refine ⟨[.signal], ⟨?_, ?_, ?_⟩, rfl⟩ <;> rw [htable] <;> rfl

end Pc

/-! ## Every run -/

/-- What sending needs of the state, since the messages `sent` and `history` were told. -/
structure Pc.Telling (sent : List UInt8) (history : List Message) (s : Pc) : Prop where
  sound : s.receiver.Sound
  idle : s.table.tx.slots = []
  slow : Slow s.table.ball.velocity
  told : ∃ ms, s.table.tx.sent = sent ++ encode ms ∧ s.table.tx.history = history ++ ms

theorem Pc.Telling.step {sent : List UInt8} {history : List Message} {s s' : Pc} {i : Input}
    (h : s.Telling sent history) (hok : s.NoBallMessage i) (hstep : s.step i = some s') :
    s'.Telling sent history ∧
      strikes s'.table.tx.history = strikes s.table.tx.history ++ (s.hit i s').toList := by
  have htable := Pc.step_table h.sound hstep
  obtain ⟨ms, htold, hstrikes⟩ := htable.tells h.idle
  obtain ⟨earlier, hsent, hhistory⟩ := h.told
  -- the ball stays slow, since every velocity comes from a stroke or from no message at all
  refine ⟨⟨(Pc.step_sound h.sound hstep).1, htold.slots.trans h.idle, ?_, earlier ++ ms, ?_, ?_⟩,
    ?_⟩
  · exact (htable.slow h.slow).mpr hok.slow
  · rw [htold.sent, hsent, encode_append, List.append_assoc]
  · rw [htold.history, hhistory, List.append_assoc]
  · rw [htold.history, strikes_append, hstrikes]

/-- A slow velocity is read as its negation. -/
theorem splitGame_ball {v : Int × Int} (h : Slow v) :
    splitGame (Message.ball v.1 v.2).encode = some (.payload (.ballSpeed (-v.1) (-v.2)), []) := by
  have hsignal : word (uint8 ballSignal) (uint8 ((ballSignal : Nat) / 256)) ≠ signal1 := by decide
  have hball : word (uint8 ballSignal) (uint8 ((ballSignal : Nat) / 256)) = ballSignal := by decide
  have hsplit : splitGame (Message.ball v.1 v.2).encode = _ := splitGame_payload hsignal
  rw [hball, payloadEffect_ball h] at hsplit
  exact hsplit

/-- **Every hit is announced, and nothing else.** -/
theorem hits_announced {s s' : Pc} {es : List Input} (hsound : s.receiver.Sound)
    (hidle : s.table.tx.slots = [])
    (hok : Transition.Along Pc.step Pc.NoBallMessage
      { s with mainState := .game }.resetGameState es)
    (hrun : Transition.run Pc.step { s with mainState := .game }.resetGameState es = some s') :
    (∃ ms, s'.table.tx.sent = s.table.tx.sent ++ encode ms ∧
      s'.table.tx.history = s.table.tx.history ++ ms ∧
      strikes ms =
        Transition.trace Pc.step Pc.hit { s with mainState := .game }.resetGameState es) ∧
    ∀ v ∈ Transition.trace Pc.step Pc.hit { s with mainState := .game }.resetGameState es,
      (-8 ≤ v.1 ∧ v.1 ≤ 8 ∧ -8 ≤ v.2 ∧ v.2 ≤ 8) ∧
        splitGame (Message.ball v.1 v.2).encode =
          some (.payload (.ballSpeed (-v.1) (-v.2)), []) := by
  let s₀ := { s with mainState := .game }.resetGameState
  have hstart : s₀.Telling s.table.tx.sent s.table.tx.history :=
    ⟨hsound, hidle, show Slow (0, 0) by simp [Slow], [], (List.append_nil _).symm,
      (List.append_nil _).symm⟩
  have hend := Transition.invariant_along (Pc.Telling s.table.tx.sent s.table.tx.history)
    (fun _ _ _ h hok hstep => (h.step hok hstep).1) hstart hok hrun
  -- the velocities on the line grow by the hit of each step, so that the log is the trace
  have hlog : strikes s'.table.tx.history =
      strikes s₀.table.tx.history ++ Transition.trace Pc.step Pc.hit s₀ es := by
    refine Transition.log_trace (fun s : Pc => strikes s.table.tx.history)
      (Pc.Telling s.table.tx.sent s.table.tx.history) ?_ hstart hok hrun
    exact fun _ _ _ h hok hstep => h.step hok hstep
  refine ⟨?_, ?_⟩
  · obtain ⟨ms, hsent, hhistory⟩ := hend.told
    rw [hhistory, strikes_append] at hlog
    exact ⟨ms, hsent, hhistory, List.append_cancel_left hlog⟩
  -- each velocity in the trace is that of the ball after some step
  · have hslow : ∀ v ∈ Transition.trace Pc.step Pc.hit s₀ es, Slow v := by
      refine Transition.forall_mem_trace (Pc.Telling s.table.tx.sent s.table.tx.history) ?_ hstart
        hok hrun
      intro t i t' h hok hstep
      have hnext := (h.step hok hstep).1
      refine ⟨hnext, fun v hv => ?_⟩
      unfold Pc.hit at hv
      split at hv
      · cases hv
        exact hnext.slow
      · cases hv
    exact fun v hv => ⟨hslow v hv, splitGame_ball (hslow v hv)⟩

instance (s : Pc) (i : Input) : Decidable (s.NoBallMessage i) :=
  match h : s.motion i with
  | some (.effect (.ballSpeed vx vy)) => isFalse fun hno => hno vx vy h
  | some (.effect (.move _ _)) | some (.packet _) | some .tick | none =>
    isTrue (by simp [Pc.NoBallMessage, h])

/-- The first game on a standard machine, with the Play key. -/
def firstGame : Pc := { init Setup.standard with mainState := .game }.resetGameState

/-- The puck is pushed up against the ball, the ball moves off, and the puck follows. -/
def push : List Input :=
  mousePacket 0x09 0 0xFF ++ mousePacket 0x09 0 30 ++ ticks 3 ++ mousePacket 0x09 0 20 ++
    mousePacket 0x19 0xFD 10 ++ ticks 1

theorem hits_announced_push : ∃ s, Transition.run Pc.step firstGame push = some s ∧
    Transition.trace Pc.step Pc.hit firstGame push = [(0, 8)] ∧
    ∃ ms, s.table.tx.sent = encode ms ∧ strikes ms = [(0, 8)] := by
  -- the trace is computed; that the line carries it is the theorem
  have htrace : Transition.trace Pc.step Pc.hit firstGame push = [(0, 8)] := by decide +kernel
  have hreach : ∃ s, Transition.run Pc.step firstGame push = some s ∧ s.mainState = .game :=
    Transition.reaches_of_any (by decide +kernel)
  obtain ⟨s, hrun, -⟩ := hreach
  obtain ⟨⟨ms, hsent, -, hstrikes⟩, -⟩ :=
    hits_announced (sound_init Setup.standard) rfl (by decide +kernel) hrun
  exact ⟨s, hrun, htrace, ms, hsent, hstrikes.trans htrace⟩

end AirHockey
