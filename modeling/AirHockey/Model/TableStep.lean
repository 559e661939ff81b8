import AirHockey.Model.Confinement
import AirHockey.Model.Serial

/-! # What an input does to the table

One constructor for each of the things that an input can do to the table, with what is known of
the state before: the packet that the mouse has completed, the effect of the message that has been
decoded. The laws of the pucks and of the ball are case analyses on this list.

`motion` names what an input sets in motion, as a function of the state before; `step_table` shows
that every step is one of the cases of `TableStep`, from one lemma for each interrupt
(`keyboardInt_table`, `timerInt_table`, `mouseInt_completes`, `spInt_table`). What makes a
condition on a step exact later on is that `motion` and the cases agree: a step with the motion
`m` is the case of `m`, and of no other. -/

namespace AirHockey

/-- The ball moves, unless it is at rest. -/
def Table.ballTick (t : Table) : Table :=
  if t.ball.xspeed ≠ 0 ∨ t.ball.yspeed ≠ 0 then t.move .ball t.ball.xspeed t.ball.yspeed 1 else t

/-- The pucks and the cursor stay where they are. -/
theorem Table.get_ballTick {o : Object} (ho : o ≠ .ball) (t : Table) :
    t.ballTick.get o = t.get o := by
  unfold ballTick
  split
  · exact get_move_ball ho _ _ _
  · rfl

theorem Table.role_ballTick (t : Table) : t.ballTick.isMainPc = t.isMainPc := by
  unfold ballTick
  split
  · exact role_move_ball _ _ _
  · rfl

namespace Pc

/-- The packet that an interrupt of the mouse completes. -/
def completes (reads : List KbcRead) (s : Pc) : Option Packet :=
  let s := s.mouseIh reads
  if s.mouseError then none
  else if s.count = 0 ∧ s.byte &&& syncBit = 0 then none
  else if s.count + 1 = 3 then some (parseMouseData (s.packet.set s.count s.byte))
  else none

theorem completes_range {reads : List KbcRead} {s : Pc} {parsing : Packet}
    (h : s.completes reads = some parsing) :
    (-256 ≤ parsing.deltaX ∧ parsing.deltaX ≤ 255) ∧
      -256 ≤ parsing.deltaY ∧ parsing.deltaY ≤ 255 := by
  have hparse : ∀ packet : List UInt8, (-256 ≤ (parseMouseData packet).deltaX ∧
      (parseMouseData packet).deltaX ≤ 255) ∧ -256 ≤ (parseMouseData packet).deltaY ∧
      (parseMouseData packet).deltaY ≤ 255 :=
    fun packet => ⟨parseDelta_range _ _ _, parseDelta_range _ _ _⟩
  -- the tests of `mouse_int`: nothing read, out of step, complete, or still incomplete
  unfold completes at h
  dsimp only at h
  split at h
  · cases h
  · split at h
    · cases h
    · split at h
      · cases h
        exact hparse _
      · cases h

theorem mouseInt_completes (reads : List KbcRead) (s : Pc) :
    (s.mouseInt reads).table =
      ((s.completes reads).map fun parsing => actOnPacket parsing s.table).getD s.table := by
  have htable := mouseIh_table reads s
  -- the two sides make the same tests on the state after `mouse_ih`
  unfold mouseInt completes
  dsimp only
  split
  · exact htable
  · split
    · exact htable
    · split
      · rw [htable]
        rfl
      · exact htable

/-- What a packet does: with the left button held the puck moves, else it comes to rest. -/
inductive PacketMove (parsing : Packet) (t : Table) : Table → Prop where
  | drag (m : Sprite) (hlb : parsing.lb = true) :
      PacketMove parsing t
        { t.move .bluepuck parsing.deltaX parsing.deltaY 2 with mouse := m }
  | release (m : Sprite) (hlb : parsing.lb = false) :
      PacketMove parsing t
        { t with mouse := m, bluepuck := { t.bluepuck with xspeed := 0, yspeed := 0 } }

theorem actOnPacket_move (parsing : Packet) (t : Table) :
    PacketMove parsing t (actOnPacket parsing t) := by
  have hupdate : ∃ m, mouseUpdate parsing t = { t with mouse := m } := by
    unfold mouseUpdate
    split
    · exact ⟨t.mouse, rfl⟩
    · generalize ht' : t.move .mouse parsing.deltaX parsing.deltaY 0 = t'
      cases Table.move_mouse ht' with
      | wall _ => exact ⟨_, rfl⟩
      | free _ => exact ⟨_, rfl⟩
  obtain ⟨m, hm⟩ := hupdate
  unfold actOnPacket
  dsimp only
  rw [hm]
  cases hlb : parsing.lb with
  | true =>
      -- the puck's move does not depend on where the cursor is
      rw [if_pos rfl, Table.move_puck_mouse (.inr rfl)]
      exact .drag _ hlb
  | false =>
      rw [if_neg Bool.false_ne_true]
      exact .release _ hlb

/-- The mouse does not move the red puck. -/
theorem PacketMove.redpuck {parsing : Packet} {t t' : Table} (h : PacketMove parsing t t') :
    t'.redpuck = t.redpuck := by
  cases h with
  | drag m _ =>
      exact Table.get_move_puck (by decide : Object.bluepuck ≠ .ball)
        (by decide : Object.redpuck ≠ .bluepuck) (by decide) t _ _
  | release m _ => rfl

/-! ## Inputs -/

end Pc

/-- What sets the pieces in motion: a tick during a game, a packet of the mouse, and a message of
the other PC. -/
inductive Motion where
  | tick
  | packet (parsing : Packet)
  | effect (e : Effect)
  deriving DecidableEq, Repr

namespace Pc

def motion (s : Pc) : Input → Option Motion
  | .interrupt .timer => if s.mainState = .game then some .tick else none
  | .interrupt (.mouse reads) => (s.completes reads).map .packet
  | .interrupt (.serial iir) =>
    if s.mainState = .game then
      match s.nextItem iir with
      | some (.payload e) => some (.effect e)
      | some .leave | none => none
    else none
  | .interrupt (.keyboard _) | .arrive _ => none

/-- Where a motion comes from. -/
theorem motion_cases {s : Pc} {i : Input} {m : Motion} (h : s.motion i = some m) :
    (i = .interrupt .timer ∧ s.mainState = .game ∧ m = .tick) ∨
    (∃ reads parsing, i = .interrupt (.mouse reads) ∧ s.completes reads = some parsing ∧
      m = .packet parsing) ∨
    ∃ iir e, i = .interrupt (.serial iir) ∧ s.mainState = .game ∧
      s.nextItem iir = some (.payload e) ∧ m = .effect e := by
  cases i with
  | arrive slots => cases h
  | interrupt i =>
      -- of the four interrupts the timer and the serial port ask for the mode
      cases i with
      | timer =>
          rw [motion] at h
          split at h
          · next hgame =>
              cases h
              exact .inl ⟨rfl, hgame, rfl⟩
          · cases h
      | keyboard reads => cases h
      | mouse reads =>
          obtain ⟨parsing, hparsing, heq⟩ := Option.map_eq_some_iff.mp h
          exact .inr (.inl ⟨reads, parsing, rfl, hparsing, heq.symm⟩)
      | serial iir =>
          rw [motion] at h
          split at h
          · next hgame =>
              split at h
              · next e hitem =>
                  cases h
                  exact .inr (.inr ⟨iir, e, rfl, hgame, hitem, rfl⟩)
              · cases h
              · cases h
          · cases h

theorem motion_tick {s : Pc} {i : Input} (h : s.motion i = some .tick) :
    i = .interrupt .timer := by
  rcases motion_cases h with ⟨rfl, -, -⟩ | ⟨_, _, -, -, hm⟩ | ⟨_, _, -, -, -, hm⟩
  · rfl
  · cases hm
  · cases hm

/-- A packet of the mouse has been completed. -/
theorem motion_packet {s : Pc} {i : Input} {parsing : Packet}
    (h : s.motion i = some (.packet parsing)) :
    ∃ reads, i = .interrupt (.mouse reads) ∧ s.completes reads = some parsing := by
  rcases motion_cases h with ⟨-, -, hm⟩ | ⟨reads, _, hi, hparsing, hm⟩ | ⟨_, _, -, -, -, hm⟩
  · cases hm
  · cases hm
    exact ⟨reads, hi, hparsing⟩
  · cases hm

/-- A message has been decoded. -/
theorem motion_effect {s : Pc} {i : Input} {e : Effect} (h : s.motion i = some (.effect e)) :
    ∃ iir, i = .interrupt (.serial iir) ∧ s.mainState = .game ∧
      s.nextItem iir = some (.payload e) := by
  rcases motion_cases h with ⟨-, -, hm⟩ | ⟨_, _, -, -, hm⟩ | ⟨iir, _, hi, hgame, hitem, hm⟩
  · cases hm
  · cases hm
  · cases hm
    exact ⟨iir, hi, hgame, hitem⟩

/-- The components of a displacement fit into 16 bits. -/
theorem motion_range {s : Pc} {i : Input} {x y : Int}
    (h : s.motion i = some (.effect (.move x y))) : int16 x = x ∧ int16 y = y := by
  obtain ⟨iir, -, -, hitem⟩ := motion_effect h
  obtain ⟨⟨item, rest⟩, hsplit, hitem⟩ := Option.map_eq_some_iff.mp hitem
  obtain rfl : item = .payload (.move x y) := hitem
  exact splitGame_range hsplit

/-- Only a key can fail to have an outcome. -/
theorem step_of_motion {s : Pc} {i : Input} {m : Motion} (h : s.motion i = some m) :
    ∃ s', s.step i = some s' := by
  cases i with
  | arrive slots => exact ⟨_, rfl⟩
  | interrupt i =>
      cases i with
      | timer | mouse reads | serial iir => exact ⟨_, rfl⟩
      | keyboard reads => cases h

/-- What an input does to the table. -/
inductive TableStep (s s' : Pc) (i : Input) : Prop where
  | keep (hmotion : s.motion i = none) (htable : s'.table = s.table)
      (hmode : s'.mainState = .game → s.mainState = .game)
  | tick (hmotion : s.motion i = some .tick) (hgame : s.mainState = .game)
      (htable : s'.table =
        Table.ballTick { s.table with tx := s.timerIntHandler.puckTick.table.tx })
  | packet (parsing : Packet) (hmotion : s.motion i = some (.packet parsing))
      (htable : s'.table = actOnPacket parsing s.table) (hmode : s'.mainState = s.mainState)
  | effect (e : Effect) (hmotion : s.motion i = some (.effect e)) (hgame : s.mainState = .game)
      (htable : s'.table = e.apply s.table) (hmode : s'.mainState = .game)
  | leave (hmotion : s.motion i = none) (hmode : s'.mainState = .mainMenu)
      (htable : s'.table = { s.table with tx := (s.table.tx.note .signal).sendSignal signal1 })
  | reset (hmotion : s.motion i = none) (tx : Transmitter) (isMainPc : Bool)
      (htx : tx = s.table.tx ∨ tx = (s.table.tx.note .signal).sendSignal signal1)
      (htable : s'.table = Table.reset { s.table with tx := tx, isMainPc := isMainPc })

theorem keyboardInt_table {s s' : Pc} {reads : List KbcRead} (h : s.keyboardInt reads = some s') :
    TableStep s s' (.interrupt (.keyboard reads)) := by
  -- keys: only Play and Play again set up a table
  cases keyboardInt_step h with
  | stay hq hmode => exact .keep rfl hq.table fun hm => hmode ▸ hm
  | select hq _ hmode' =>
      refine .keep rfl hq.table fun hm => ?_
      rcases hmode' with h | h <;> simp [h] at hm
  | back hq _ hmode' => exact .keep rfl hq.table fun hm => by simp [hmode'] at hm
  | play hq _ _ _ => exact .reset rfl _ true (.inr rfl) hq.table
  | leave hq _ hmode' _ => exact .leave rfl hmode' hq.table
  | again r _ hq _ _ _ => exact .reset rfl s.table.tx s.table.isMainPc (.inl rfl) hq.table
  | quit hq _ hmode' _ => exact .keep rfl hq.table fun hm => by simp [hmode'] at hm

theorem timerInt_table (s : Pc) : TableStep s s.timerInt (.interrupt .timer) := by
  by_cases hgame : s.mainState = .game
  -- of the three parts of a tick one tells, one decides, and one moves the ball
  · obtain ⟨tx, htx⟩ := puckTick_table s.timerIntHandler
    refine .tick (if_pos hgame) hgame ?_
    rw [timerInt_of_game hgame, ballTick_table, clockTick_table, htx]
    rfl
  · rw [timerInt_of_not_game hgame]
    exact .keep (if_neg hgame) rfl id

/-- A message that is decoded is carried out. -/
theorem spInt_payload {s : Pc} (h : s.receiver.Sound) (hgame : s.mainState = .game)
    {iir : Option UInt8} {e : Effect} (hitem : s.nextItem iir = some (.payload e)) :
    ∃ r, s.spInt iir = { s with receiver := r }.perform e := by
  -- the bytes are split before anything is carried out
  obtain ⟨⟨item, rest⟩, hsplit, rfl⟩ := Option.map_eq_some_iff.mp hitem
  obtain ⟨r, -, hcall⟩ := spGame_eq (s := { s with receiver := s.receiver.spIh iir })
    (h.spIh iir).storedX_lt
  rw [hsplit] at hcall
  exact ⟨r, (spInt_of_game hgame iir).trans hcall.1⟩

theorem spInt_table {s : Pc} (h : s.receiver.Sound) (iir : Option UInt8) :
    TableStep s (s.spInt iir) (.interrupt (.serial iir)) := by
  cases hmotion : s.motion (.interrupt (.serial iir)) with
  | some m =>
      rcases motion_cases hmotion with ⟨hi, -, -⟩ | ⟨_, _, hi, -, -⟩ | ⟨_, e, hi, hgame, hitem, rfl⟩
      · cases hi
      · cases hi
      cases hi
      obtain ⟨r, hr⟩ := spInt_payload h hgame hitem
      refine .effect e hmotion hgame ?_ ?_ <;> rw [hr]
      · rfl
      · exact hgame
  | none =>
      have houtcome := spInt_outcome h iir
      generalize s.spInt iir = s' at houtcome ⊢
      cases houtcome with
      | idle r => exact .keep hmotion rfl id
      | start r _ => exact .reset hmotion s.table.tx false (.inl rfl) rfl
      | leave r _ => exact .keep hmotion rfl nofun
      | payload r e hgame hitem =>
          rw [motion, if_pos hgame, hitem] at hmotion
          cases hmotion

/-- What sets the pieces in motion starts no game and gives no PC another role. -/
theorem TableStep.keeps {s s' : Pc} {i : Input} {m : Motion} (hstep : TableStep s s' i)
    (hm : s.motion i = some m) :
    s'.table.isMainPc = s.table.isMainPc ∧ (s'.mainState = .game → s.mainState = .game) := by
  cases hstep with
  | keep hmotion _ _ | leave hmotion _ _ | reset hmotion _ _ _ _ => cases hmotion.symm.trans hm
  | tick hmotion hgame htable => exact ⟨by rw [htable, Table.role_ballTick], fun _ => hgame⟩
  | packet parsing hmotion htable hmode =>
      have hpacket := actOnPacket_move parsing s.table
      rw [← htable] at hpacket
      refine ⟨?_, fun hgame => hmode.symm.trans hgame⟩
      generalize s'.table = t' at hpacket ⊢
      cases hpacket with
      | drag _ _ => exact Table.role_move_puck (by decide) _ _ _
      | release _ _ => rfl
  | effect e hmotion hgame htable hmode =>
      refine ⟨?_, fun _ => hgame⟩
      rw [htable]
      cases e with
      | move x y => exact Table.role_move_puck (by decide) _ _ _
      | ballSpeed xspeed yspeed => rfl

/-- **Every input.** -/
theorem step_table {s s' : Pc} {i : Input} (hsound : s.receiver.Sound) (h : s.step i = some s') :
    TableStep s s' i := by
  cases i with
  | arrive slots =>
      cases h
      exact .keep rfl rfl id
  | interrupt i =>
      cases i with
      | timer =>
          cases h
          exact timerInt_table s
      | keyboard reads => exact keyboardInt_table h
      | mouse reads =>
          cases h
          have htable := mouseInt_completes reads s
          have hmode := (mouseInt_frame reads s).2.2
          cases hparsing : s.completes reads with
          | none =>
              rw [hparsing] at htable
              exact .keep (by rw [motion, hparsing]; rfl) htable fun hm => hmode ▸ hm
          | some parsing =>
              rw [hparsing] at htable
              exact .packet parsing (by rw [motion, hparsing]; rfl) htable hmode
      | serial iir =>
          cases h
          exact spInt_table hsound iir

end Pc

end AirHockey
