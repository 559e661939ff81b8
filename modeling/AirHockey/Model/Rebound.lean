import AirHockey.Model.Contact
import AirHockey.Model.Strokes

/-! # What the ball finds in a puck

The ball turns back from a puck whose recorded velocity is zero, and takes the velocity of any
other over. `Pc.records` lists what is ever recorded in a puck during a game: the displacement of
a move that nothing stops and, for the blue puck alone, zero when the button is released. That a
puck comes to rest is not recorded.

`velocity_step` says so for one step, from what a stroke does to the puck that it moves and to the
other one (`stroke_get`) and from what else may happen to a puck (`velocity_of_noStroke`).
`velocity_at_rest` follows a puck that keeps its place over any number of steps; since it can
record nothing but zero there, all depends on what was recorded before. `rebounds_iff` is the main
result, `rebounds_unmoved` a ball that rebounds, and `carriedAlong` one that does not. -/

namespace AirHockey

namespace Table

/-- Neither a wall nor the middle line nor the ball stops the puck `o`. -/
def puckFree (t : Table) (o : Object) (x y : Int) : Bool :=
  let newX := (t.get o).x + x
  let newY := (t.get o).y - y
  !detectWallCollision (t.get o) newX newY && !detectMiddleFieldCollision (t.get o) newX newY &&
    !(t.isMainPc && detectCollision (t.get o) newX newY t.ball t.bytesPerPixel)

variable {t t' : Table} {o : Object} {x y : Int}

/-- A move that is stopped records nothing. -/
theorem PuckMove.velocity (hmove : PuckMove o x y t t') (ho : o ≠ .ball) :
    (t'.get o).velocity = if t.puckFree o x y then (x, y) else (t.get o).velocity := by
  cases hmove with
  | wall hwall =>
      have hfree : t.puckFree o x y = false := by simp [puckFree, hwall]
      obtain ⟨_, _, heq⟩ := putAgainst_frame
        (wallInfo (t.get o) ((t.get o).x + x) ((t.get o).y - y)) (t.get o)
      rw [hfree, get_set_self, heq]
      rfl
  | middle hwall hmiddle =>
      have hfree : t.puckFree o x y = false := by simp [puckFree, hmiddle]
      rw [hfree, get_set_self]
      rfl
  | hit hwall hmiddle hmain hball =>
      have hfree : t.puckFree o x y = false := by simp [puckFree, hmain, hball]
      -- the collision changes the ball and the line
      have hget : (t.ballCollision o).get o = t.get o := by
        cases o with
        | ball => exact absurd rfl ho
        | mouse | redpuck | bluepuck => rfl
      rw [hfree, hget]
      rfl
  | free hwall hmiddle hball =>
      have hfree : t.puckFree o x y = true := by
        cases hmain : t.isMainPc with
        | false => simp [puckFree, hwall, hmiddle, hmain]
        | true => simp [puckFree, hwall, hmiddle, hball hmain]
      rw [hfree, get_set_self]
      rfl

/-- A move that nothing stops goes all the way. -/
theorem PuckMove.place (hmove : PuckMove o x y t t') (hfree : t.puckFree o x y = true) :
    (t'.get o).place = ((t.get o).x + x, (t.get o).y - y) := by
  cases hmove with
  | wall hwall => simp [puckFree, hwall] at hfree
  | middle _ hmiddle => simp [puckFree, hmiddle] at hfree
  | hit _ _ hmain hball => simp [puckFree, hmain, hball] at hfree
  | free _ _ _ =>
      rw [get_set_self]
      rfl

/-- The ball, on its own move, runs into the puck `o`. -/
def RunsInto (t : Table) (o : Object) : Prop :=
  t.ballHits = true ∧
    t.puckAt (t.ball.x + int16 t.ball.xspeed) (t.ball.y - int16 t.ball.yspeed) = some o

/-- What the ball finds recorded in the puck decides. -/
theorem velocity_bounced (ball other : Sprite) :
    (bounced ball other).velocity =
      if other.velocity = (0, 0) then -ball.velocity else clampVelocity other.velocity := by
  unfold bounced Sprite.velocity
  by_cases hrest : other.xspeed = 0 ∧ other.yspeed = 0
  -- the code compares the components with zero one by one
  · rw [if_pos hrest, if_pos (Prod.ext hrest.1 hrest.2)]
    simp
  · rw [if_neg hrest, if_neg fun h => hrest (Prod.mk.inj h)]
    rfl

theorem RunsInto.velocity (h : t.RunsInto o) :
    t.ballTick.ball.velocity = (bounced t.ball (t.get o)).velocity := by
  obtain ⟨hhits, hpuck⟩ := h
  unfold ballHits at hhits
  simp only [Bool.and_eq_true, Bool.not_eq_true', decide_eq_true_eq] at hhits
  obtain ⟨⟨⟨⟨⟨hmoving, htop⟩, hbottom⟩, hwall⟩, hmain⟩, -⟩ := hhits
  have hmove : t.move .ball t.ball.xspeed t.ball.yspeed 1 = t.bounceOff .ball o :=
    (move_ball rfl).unique (.bounce o htop hbottom hwall hmain hpuck)
  rw [ballTick, if_pos hmoving, hmove, bounceOff_ball]

end Table

/-- A timer interrupt. -/
def Input.isTick : Input → Bool
  | .interrupt .timer => true
  | .interrupt (.keyboard _) | .interrupt (.mouse _) | .interrupt (.serial _) | .arrive _ => false

namespace Pc

variable {s s' : Pc} {i : Input} {o : Object}

/-- A packet without the left button has been completed. -/
def releases (s : Pc) (i : Input) : Bool :=
  match s.motion i with
  | some (.packet parsing) => !parsing.lb
  | some (.effect _) | some .tick | none => false

/-- What an input records in the puck `o`. -/
def records (o : Object) (s : Pc) (i : Input) (_ : Pc) : Option (Int × Int) :=
  match s.stroke i with
  | some (o', x, y) => if o' = o ∧ s.table.puckFree o x y then some (x, y) else none
  | none => if o = .bluepuck ∧ s.releases i then some (0, 0) else none

/-! ## One step -/

/-- Within a game, the table changes only with a motion. -/
theorem table_of_still (hsound : s.receiver.Sound) (hgame : s.mainState = .game)
    (hgame' : s'.mainState = .game) (hnone : s.motion i = none) (hstep : s.step i = some s') :
    s'.table = s.table := by
  cases i with
  | arrive slots =>
      cases hstep
      rfl
  | interrupt i =>
      cases i with
      | timer => simp [motion, hgame] at hnone
      | keyboard reads =>
          rcases keyboardInt_game hgame hstep with ⟨hmenu, -⟩ | ⟨-, hmenu⟩
          · exact hmenu.table
          · simp [hmenu] at hgame'
      | mouse reads =>
          cases hstep
          have hnot : s.completes reads = none := Option.map_eq_none_iff.mp hnone
          rw [mouseInt_completes, hnot]
          rfl
      | serial iir =>
          cases hstep
          have houtcome := spInt_outcome hsound iir
          rw [motion, if_pos hgame] at hnone
          change (s.spInt iir).mainState = .game at hgame'
          show (s.spInt iir).table = s.table
          generalize s.spInt iir = s' at houtcome hgame' ⊢
          cases houtcome with
          | idle r => rfl
          | start r hmenu => simp [hgame] at hmenu
          | leave r _ => cases hgame'
          | payload r e _ hitem => simp [hitem] at hnone

/-- A puck without a stroke keeps its velocity, unless it is the blue one and is released. -/
theorem velocity_of_noStroke (hsound : s.receiver.Sound) (ho : o = .redpuck ∨ o = .bluepuck)
    (hgame : s.mainState = .game) (hgame' : s'.mainState = .game) (hnone : s.stroke i = none)
    (hstep : s.step i = some s') :
    (s'.table.get o).velocity =
      if o = .bluepuck ∧ s.releases i then (0, 0) else (s.table.get o).velocity := by
  have hne : o ≠ .ball := by
    rcases ho with rfl | rfl <;> decide
  -- the case in which the puck is left alone
  have hkeep : s.releases i = false → s'.table.get o = s.table.get o →
      (s'.table.get o).velocity =
        if o = .bluepuck ∧ s.releases i then (0, 0) else (s.table.get o).velocity := by
    intro hrel hget
    rw [hrel, hget]
    simp
  cases hm : s.motion i with
  | none =>
      refine hkeep (by rw [releases, hm]) ?_
      rw [table_of_still hsound hgame hgame' hm hstep]
  | some m =>
      cases step_table hsound hstep with
      | keep hmotion _ _ | leave hmotion _ _ | reset hmotion _ _ _ _ => cases hmotion.symm.trans hm
      | tick hmotion _ htable =>
          refine hkeep (by rw [releases, hmotion]) ?_
          rw [htable, Table.get_ballTick hne]
          rcases ho with rfl | rfl <;> rfl
      | packet parsing hmotion htable _ =>
          have hlb : parsing.lb = false := by
            rw [stroke, hmotion] at hnone
            simpa using hnone
          have hrel : s.releases i = true := by
            simp [releases, hmotion, hlb]
          have hpacket := actOnPacket_move parsing s.table
          rw [← htable] at hpacket
          generalize s'.table = t' at hpacket ⊢
          cases hpacket with
          | drag m hlb' => simp [hlb] at hlb'
          | release m _ =>
              rw [hrel]
              rcases ho with rfl | rfl <;> rfl
      | effect e hmotion _ htable _ =>
          refine hkeep (by rw [releases, hmotion]) ?_
          rw [htable]
          cases e with
          | move x y =>
              rw [stroke, hmotion] at hnone
              cases hnone
          | ballSpeed _ _ => rcases ho with rfl | rfl <;> rfl

/-- A stroke, on the puck that it moves and on the other one. -/
theorem stroke_get (hsound : s.receiver.Sound) (ho : o = .redpuck ∨ o = .bluepuck)
    {o' : Object} {x y : Int} (hstroke : s.stroke i = some (o', x, y))
    (hstep : s.step i = some s') :
    (o' = o → ∃ t', Table.PuckMove o x y s.table t' ∧ s'.table.get o = t'.get o) ∧
      (o' ≠ o → s'.table.get o = s.table.get o) := by
  obtain ⟨ho', hx, hy⟩ := stroke_range hstroke
  have hne : o ≠ .ball := by
    rcases ho with rfl | rfl <;> decide
  have hne' : o' ≠ .ball := by
    rcases ho' with rfl | rfl <;> decide
  obtain ⟨m, htable⟩ := (step_table hsound hstep).stroke hstroke
  have hget : s'.table.get o = (s.table.move o' x y 2).get o := by
    rw [htable]
    rcases ho with rfl | rfl <;> rfl
  constructor
  · rintro rfl
    have hmove := Table.move_puck hne (rfl : s.table.move o' x y 2 = _)
    rw [hx, hy] at hmove
    exact ⟨_, hmove, hget⟩
  · intro hother
    rw [hget, Table.get_move_puck hne' (Ne.symm hother) hne]

/-- **What is recorded**, and nothing else, is the velocity of a puck during a game. -/
theorem velocity_step (hsound : s.receiver.Sound) (ho : o = .redpuck ∨ o = .bluepuck)
    (hgame : s.mainState = .game) (hgame' : s'.mainState = .game) (hstep : s.step i = some s') :
    (s'.table.get o).velocity = (s.records o i s').getD (s.table.get o).velocity := by
  have hne : o ≠ .ball := by
    rcases ho with rfl | rfl <;> decide
  unfold records
  cases hstroke : s.stroke i with
  | none =>
      rw [velocity_of_noStroke hsound ho hgame hgame' hstroke hstep]
      dsimp only
      split <;> rfl
  | some stroke =>
      obtain ⟨o', x, y⟩ := stroke
      obtain ⟨hsame, hother⟩ := stroke_get hsound ho hstroke hstep
      dsimp only
      by_cases heq : o' = o
      · obtain ⟨t', hmove, hget⟩ := hsame heq
        rw [hget, hmove.velocity hne]
        cases s.table.puckFree o x y <;> simp [heq]
      · rw [hother heq, if_neg fun h => heq h.1]
        rfl

/-- A puck that stays where it is records nothing but zero. -/
theorem records_of_place (hsound : s.receiver.Sound) (ho : o = .redpuck ∨ o = .bluepuck)
    (hstep : s.step i = some s') (hplace : (s'.table.get o).place = (s.table.get o).place)
    {v : Int × Int} (hv : s.records o i s' = some v) : v = (0, 0) := by
  unfold records at hv
  cases hstroke : s.stroke i with
  | none =>
      rw [hstroke] at hv
      dsimp only at hv
      split at hv
      · exact (Option.some.inj hv).symm
      · cases hv
  | some stroke =>
      obtain ⟨o', x, y⟩ := stroke
      rw [hstroke] at hv
      dsimp only at hv
      split at hv
      -- a free move with the same place before and after has the displacement zero
      · next hfree =>
          obtain ⟨t', hmove, hget⟩ := (stroke_get hsound ho hstroke hstep).1 hfree.1
          rw [hget, hmove.place hfree.2] at hplace
          obtain ⟨hx, hy⟩ := Prod.mk.inj hplace
          cases hv
          exact Prod.ext (by show x = 0; omega) (by show y = 0; omega)
      · cases hv

/-! ## A puck at rest -/

/-- From `s` on, during a game of the main PC, the puck `o` stays where it is for at least two
ticks. -/
structure RestsFor (o : Object) (s : Pc) (window : List Input) : Prop where
  game : Transition.Always Pc.step
    (fun t => t.mainState = .game ∧ t.table.isMainPc = true) s window
  ticks : 2 ≤ window.countP Input.isTick
  place : Transition.Always Pc.step
    (fun t => (t.table.get o).place = (s.table.get o).place) s window

/-- **The velocity of a puck at rest** is the one recorded before, or zero once anything has been
recorded since. -/
theorem velocity_at_rest {s₀ : Pc} {window : List Input} {place : Int × Int}
    (ho : o = .redpuck ∨ o = .bluepuck) (hregular : s₀.Regular)
    (hgame : Transition.Always Pc.step
      (fun t => t.mainState = .game ∧ t.table.isMainPc = true) s₀ window)
    (hplace : Transition.Always Pc.step (fun t => (t.table.get o).place = place) s₀ window)
    (hrun : Transition.run Pc.step s₀ window = some s) :
    (s.table.get o).velocity =
      if Transition.trace Pc.step (records o) s₀ window = [] then (s₀.table.get o).velocity
      else (0, 0) := by
  induction window generalizing s₀ with
  | nil =>
      cases hrun
      rw [Transition.trace_nil, if_pos rfl]
  | cons i window ih =>
      obtain ⟨s₁, hstep, hrest⟩ := (Transition.run_cons_eq_some Pc.step).mp hrun
      have hgame₁ := hgame.2 s₁ hstep
      have hplace₁ := hplace.2 s₁ hstep
      have hstays : (s₁.table.get o).place = (s₀.table.get o).place := by
        rw [hplace.1, hplace₁.head]
      have hvelocity := velocity_step hregular.sound ho hgame.1.1 hgame₁.head.1 hstep
      rw [ih (hregular.step hstep) hgame₁ hplace₁ hrest, hvelocity, Transition.trace_cons hstep]
      -- nothing is recorded in this step, so the velocity is the old one
      cases hrec : s₀.records o i s₁ with
      | none =>
          rw [Option.toList_none, List.nil_append]
          rfl
      -- something is recorded, and as the puck stays, it is zero; the rest of the trace adds zeros
      -- only
      | some v =>
          rw [records_of_place hregular.sound ho hstep hstays hrec]
          simp

end Pc

/-- **When the ball rebounds from a puck at rest**: if the velocity recorded in it two ticks ago, or
at any time since, is zero — or happens to be the one that the ball is to leave with. -/
theorem rebounds_iff {S : Setup} {es window : List Input} {s₀ s s' : Pc} {o : Object}
    (hreach : Transition.run Pc.step (init S) es = some s₀)
    (hrest : s₀.RestsFor o window) (hrun : Transition.run Pc.step s₀ window = some s)
    (hmeet : s.table.RunsInto o) (hstep : s.step (.interrupt .timer) = some s') :
    s'.table.ball.velocity = -s.table.ball.velocity ↔
      Transition.trace Pc.step (Pc.records o) s₀ window ≠ [] ∨
        (s₀.table.get o).velocity = (0, 0) ∨
        clampVelocity (s₀.table.get o).velocity = -s.table.ball.velocity := by
  have ho : o = .redpuck ∨ o = .bluepuck := Table.puckAt_eq_some hmeet.2
  have hregular : s₀.Regular :=
    Transition.invariant Pc.Regular (fun _ _ _ => Pc.Regular.step) (regular_init S) hreach
  have hgame : s.mainState = .game := (hrest.game.last hrun).1
  have hvelocity := Pc.velocity_at_rest ho hregular hrest.game hrest.place hrun
  -- sending the displacement of the blue puck changes nothing that the ball meets
  obtain ⟨tx, htx⟩ := Pc.puckTick_table s.timerIntHandler
  have hball : s'.table.ball.velocity =
      (Table.bounced s.table.ball (s.table.get o)).velocity := by
    -- the tick: report, clock, and then the ball, which meets the puck as it is
    cases hstep
    have hmeet' : Table.RunsInto { s.table with tx := tx } o := hmeet
    have hget : Table.get { s.table with tx := tx } o = s.table.get o := by
      rcases ho with rfl | rfl <;> rfl
    show s.timerInt.table.ball.velocity = _
    rw [Pc.timerInt_of_game hgame, Pc.ballTick_table, Pc.clockTick_table, htx]
    show (Table.ballTick { s.table with tx := tx }).ball.velocity = _
    rw [hmeet'.velocity, hget]
  rw [hball, Table.velocity_bounced, hvelocity]
  -- recorded since; recorded as zero before; or the velocity that is passed on is the opposite one
  by_cases hrecorded : Transition.trace Pc.step (Pc.records o) s₀ window = []
  · by_cases hzero : (s₀.table.get o).velocity = (0, 0)
    · simp [hrecorded, hzero]
    · simp [hrecorded, hzero]
  · simp [hrecorded]

/-! ## Shots at the red puck -/

instance (t : Table) (o : Object) : Decidable (t.RunsInto o) := inferInstanceAs (Decidable (_ ∧ _))

instance (s : Pc) (o : Object) (window : List Input) : Decidable (s.RestsFor o window) :=
  decidable_of_iff (_ ∧ _ ∧ _)
    ⟨fun ⟨hgame, hticks, hplace⟩ => ⟨hgame, hticks, hplace⟩,
      fun h => ⟨h.game, h.ticks, h.place⟩⟩

/-- The blue puck shoots the ball straight up, and `n` ticks pass. -/
def shotUp (n : Nat) : List Input :=
  mousePacket 0x09 0 0xFF ++ mousePacket 0x09 0 30 ++ ticks n

/-- The red puck has not moved since the start of the game. -/
theorem rebounds_unmoved :
    ∃ s s', Transition.run Pc.step (init Setup.standard) (key spaceBreakCode ++ shotUp 34) =
        some s ∧ s.table.RunsInto .redpuck ∧ s.step (.interrupt .timer) = some s' ∧
      s'.table.ball.velocity = -s.table.ball.velocity := by
  have hreach : ∃ s₀, Transition.run Pc.step (init Setup.standard)
      (key spaceBreakCode ++ shotUp 32) = some s₀ ∧
        (s₀.RestsFor .redpuck (ticks 2) ∧ (s₀.table.get .redpuck).velocity = (0, 0)) ∧
        (Transition.run Pc.step s₀ (ticks 2)).any (fun s => s.table.RunsInto .redpuck) = true :=
    Transition.reaches_of_any (by decide +kernel)
  obtain ⟨s₀, hreach, ⟨hrest, hzero⟩, hmeet⟩ := hreach
  obtain ⟨s, hrun, hmeet⟩ := Transition.reaches_of_any hmeet
  refine ⟨s, s.timerInt, ?_, hmeet, rfl, ?_⟩
  · have hsplit : key spaceBreakCode ++ shotUp 34 = (key spaceBreakCode ++ shotUp 32) ++ ticks 2 :=
      rfl
    rw [hsplit]
    exact (Transition.run_append_eq_some Pc.step).mpr ⟨s₀, hreach, hrun⟩
  · exact (rebounds_iff hreach hrest hrun hmeet rfl).mpr (.inr (.inl hzero))

/-- The red puck moved three pixels at the start of the game and has been at rest ever since. The
ball does not rebound from it. -/
theorem carriedAlong :
    ∃ s₀ s s', Transition.run Pc.step (init Setup.standard)
        (key spaceBreakCode ++ received [3, 0, 0, 0] ++ shotUp 32) = some s₀ ∧
      s₀.RestsFor .redpuck (ticks 2) ∧
      Transition.Along Pc.step (fun t i => t.stroke i = none) s₀ (ticks 2) ∧
      Transition.run Pc.step s₀ (ticks 2) = some s ∧ s.table.RunsInto .redpuck ∧
      s.step (.interrupt .timer) = some s' ∧ s.table.ball.velocity = (0, 8) ∧
      s'.table.ball.velocity = (-3, 0) ∧ s'.table.ball.velocity ≠ -s.table.ball.velocity := by
  have hreach : ∃ s₀, Transition.run Pc.step (init Setup.standard)
      (key spaceBreakCode ++ received [3, 0, 0, 0] ++ shotUp 32) = some s₀ ∧
        (s₀.RestsFor .redpuck (ticks 2) ∧
          Transition.Along Pc.step (fun t i => t.stroke i = none) s₀ (ticks 2)) ∧
        (Transition.run Pc.step s₀ (ticks 2)).any (fun s => s.table.RunsInto .redpuck ∧
          s.table.ball.velocity = (0, 8) ∧ s.timerInt.table.ball.velocity = (-3, 0)) = true :=
    Transition.reaches_of_any (by decide +kernel)
  obtain ⟨s₀, hreach, ⟨hrest, hsilent⟩, hmeet⟩ := hreach
  obtain ⟨s, hrun, hmeet, hball, hball'⟩ := Transition.reaches_of_any hmeet
  refine ⟨s₀, s, s.timerInt, hreach, hrest, hsilent, hrun, hmeet, rfl, hball, hball', ?_⟩
  rw [hball, hball']
  decide

end AirHockey
