import AirHockey.Lib.Travel
import AirHockey.Model.Acts
import AirHockey.Model.TableStep
import Mathlib.Algebra.Group.Int.Defs
import Mathlib.Algebra.Group.Prod

/-! # What is told of the pucks

A PC tells, every second tick, how far its puck has come since it told so last. `Course` lists
what an interrupt means to this bookkeeping, and to what has been heard from the other PC.

`Steady` is the invariant behind it: everything that is sent gets through, and the place that was
told last is on the table, so that the next displacement fits into 16 bits. `handle_course` shows
that every interrupt takes one of the courses, from one lemma for each (`timerInt_course` and so
on); `Steady.step` and `Recorded.step` are read off the courses. `Recorded` is the result: what
has been told adds up to the place that was told last. -/

namespace AirHockey

/-- What a message tells of the puck. -/
def Message.displacement : Message → Option (Int × Int)
  | .puck dx dy => some (dx, dy)
  | .signal | .ball _ _ => none

def displacements (ms : List Message) : List (Int × Int) := ms.filterMap Message.displacement

/-- How far an effect is to move the red puck; `move` counts upwards. -/
def Effect.shift : Effect → Option (Int × Int)
  | .move x y => some (x, -y)
  | .ballSpeed _ _ => none

def shifts (es : List Effect) : List (Int × Int) := es.filterMap Effect.shift

theorem displacements_append (ms ns : List Message) :
    displacements (ms ++ ns) = displacements ms ++ displacements ns := List.filterMap_append

@[simp] theorem displacements_ball (vs : List (Int × Int)) :
    displacements (ballMessages vs) = [] := by
  simp [displacements, ballMessages, Message.displacement]

namespace Pc

/-- The displacements told since the game began. -/
def told (s : Pc) : List (Int × Int) := displacements s.table.tx.thisGame

/-- The displacements heard since the game began. -/
def heard (s : Pc) : List (Int × Int) := shifts s.applied

/-- Where the red puck is. -/
def red (s : Pc) : Int × Int := (s.table.redpuck.x, s.table.redpuck.y)

/-- Where the blue puck is. -/
def blue (s : Pc) : Int × Int := (s.table.bluepuck.x, s.table.bluepuck.y)

/-- The place of the blue puck that was told last. -/
def previous (s : Pc) : Int × Int := (s.previousX, s.previousY)

/-- What makes the numbers of the protocol exact. -/
structure Steady (s : Pc) : Prop where
  idle : s.table.tx.slots = []
  mark_le : s.table.tx.gameMark ≤ s.table.tx.history.length
  confined : s.table.Confined
  sound : s.receiver.Sound
  previous : s.mainState = .game → 273 ≤ s.previousX ∧ s.previousX ≤ 799 ∧
    21 ≤ s.previousY ∧ s.previousY ≤ 763

/-- What an interrupt means to the pucks of a game. -/
inductive Course (i : Interrupt) (s s' : Pc) : Prop where
  | away (hmode : s'.mainState ≠ .game)
  | fresh (hprevious : s'.previous = (535, 730)) (htold : s'.told = []) (hheard : s'.heard = [])
      (hred : s'.red = (535, 55))
  | stay (hmode : s.mainState = .game) (hprevious : s'.previous = s.previous)
      (htold : s'.told = s.told) (hheard : s'.heard = s.heard) (hred : s'.red = s.red)
  | tell (htimer : i = .timer) (hdue : (s.puckTransmit + 1) % 2 ^ 32 = 2)
      (hmode : s.mainState = .game) (hprevious : s'.previous = s.blue)
      (htold : s'.told = s.told ++ [s.blue - s.previous]) (hheard : s'.heard = s.heard)
      (hred : s'.red = s.red)
  | hear (iir : Option UInt8) (hserial : i = .serial iir) (x y : Int)
      (hitem : s.nextItem iir = some (.payload (.move x y))) (hmode : s.mainState = .game)
      (hprevious : s'.previous = s.previous) (htold : s'.told = s.told)
      (hheard : s'.heard = s.heard ++ [(x, -y)])
      (hred : s'.red = ((s.table.move .redpuck x y 2).redpuck.x,
        (s.table.move .redpuck x y 2).redpuck.y))

/-- More is told. -/
theorem thisGame_tell {s s' : Pc} (h : s.Steady) {ms : List Message}
    (htx : s'.table.tx = s.table.tx.tell ms) :
    s'.table.tx.thisGame = s.table.tx.thisGame ++ ms := by
  rw [Transmitter.thisGame, htx]
  show (s.table.tx.history ++ ms).drop s.table.tx.gameMark = _
  -- this game's messages begin at the mark, and new ones come after it
  rw [List.drop_append_of_le_length h.mark_le]
  rfl

theorem told_tell {s s' : Pc} (h : s.Steady) {ms : List Message}
    (htx : s'.table.tx = s.table.tx.tell ms) : s'.told = s.told ++ displacements ms := by
  rw [told, thisGame_tell h htx, displacements_append]
  rfl

theorem mark_le_tell {s s' : Pc} (h : s.Steady) {ms : List Message}
    (htx : s'.table.tx = s.table.tx.tell ms) :
    s'.table.tx.slots = [] ∧ s'.table.tx.gameMark ≤ s'.table.tx.history.length := by
  rw [htx]
  refine ⟨h.idle, ?_⟩
  show s.table.tx.gameMark ≤ (s.table.tx.history ++ ms).length
  rw [List.length_append]
  exact Nat.le_add_right_of_le h.mark_le

/-- At the start of a game. -/
theorem Course.of_reset {i : Interrupt} {s s' : Pc} {t : Table} (htable : s'.table = t.reset)
    (hprevious : s'.previousX = 535 ∧ s'.previousY = 730) (happlied : s'.applied = []) :
    Course i s s' := by
  -- the counters are those of `reset_game_state`, and the mark is at the end of what has been told
  refine .fresh ?_ ?_ ?_ ?_
  · rw [previous, hprevious.1, hprevious.2]
  · rw [told, htable, Table.thisGame_reset]
    rfl
  · rw [heard, happlied]
    rfl
  · rw [red, htable]
    rfl

theorem timerInt_course {s : Pc} (h : s.Steady) : Course .timer s s.timerInt ∧
    s.timerInt.table.tx.slots = [] ∧
    s.timerInt.table.tx.gameMark ≤ s.timerInt.table.tx.history.length := by
  by_cases hgame : s.mainState = .game
  · obtain ⟨ds, vs, htick⟩ := timerInt_game h.idle hgame
    refine ⟨?_, mark_le_tell h htick.tx⟩
    have htold := told_tell h htick.tx
    rw [displacements_append, displacements_ball, List.append_nil] at htold
    have hred : s.timerInt.red = s.red := by
      rw [red, htick.redpuck]
      rfl
    have hheard : s.timerInt.heard = s.heard := by
      rw [heard, htick.applied]
      rfl
    have hpuck : s.table.bluepuck.Inside 80 80 := h.confined .bluepuck
    have hprevious := h.previous hgame
    have hsaid := htick.told
    generalize s.timerInt = s' at hsaid htold hred hheard ⊢
    cases hsaid with
    | silent hx hy =>
        -- this tick is not the second one, or the puck has not moved
        rw [show displacements [] = [] from rfl, List.append_nil] at htold
        exact .stay hgame (by rw [previous, hx, hy]; rfl) htold hheard hred
    | told hx hy hdue =>
        -- both places are on the table, so that the difference fits into 16 bits
        have hplace := hpuck.place
        refine .tell rfl hdue hgame (by rw [previous, hx, hy]; rfl) ?_ hheard hred
        rw [htold]
        show s.told ++ [(int16 _, int16 _)] = _
        rw [int16_of_range (by omega) (by omega), int16_of_range (by omega) (by omega)]
        rfl
  · rw [timerInt_of_not_game hgame]
    exact ⟨.away hgame, h.idle, h.mark_le⟩

theorem mouseInt_course {s : Pc} (h : s.Steady) (reads : List KbcRead) :
    Course (.mouse reads) s (s.mouseInt reads) ∧ (s.mouseInt reads).table.tx.slots = [] ∧
    (s.mouseInt reads).table.tx.gameMark ≤ (s.mouseInt reads).table.tx.history.length := by
  obtain ⟨vs, hvs⟩ := mouseInt_struck h.idle reads
  refine ⟨?_, mark_le_tell h hvs.tx⟩
  have htold := told_tell h hvs.tx
  rw [displacements_ball, List.append_nil] at htold
  have hred : (s.mouseInt reads).red = s.red := by
    have hpuck : (s.mouseInt reads).table.redpuck = s.table.redpuck := by
      rcases mouseInt_table reads s with htable | ⟨packet, htable⟩
      · rw [htable]
      · rw [htable, (actOnPacket_move _ _).redpuck]
    rw [red, hpuck]
    rfl
  obtain ⟨_, _, _, _, table, heq⟩ := mouseInt_eq reads s
  by_cases hgame : s.mainState = .game
  · refine .stay hgame ?_ htold ?_ hred
    · rw [heq]
      rfl
    · rw [heq]
      rfl
  -- outside a game there is nothing to keep to
  · refine .away ?_
    rw [heq]
    exact hgame

theorem keyboardInt_course {s s' : Pc} (h : s.Steady) {reads : List KbcRead}
    (hstep : s.keyboardInt reads = some s') :
    Course (.keyboard reads) s s' ∧ s'.table.tx.slots = [] ∧
      s'.table.tx.gameMark ≤ s'.table.tx.history.length := by
  have hsend := Transmitter.sendSignal_tell h.idle
  cases keyboardInt_step hstep with
  | stay hq hmode =>
      rw [hq.table]
      refine ⟨?_, h.idle, h.mark_le⟩
      by_cases hgame : s.mainState = .game
      · refine .stay hgame ?_ ?_ ?_ ?_
        · rw [previous, hq.previous.1, hq.previous.2]
          rfl
        · rw [told, hq.table]
          rfl
        · rw [heard, hq.applied]
          rfl
        · rw [red, hq.table]
          rfl
      · exact .away (hmode ▸ hgame)
  | select hq _ hmode' =>
      rw [hq.table]
      refine ⟨.away ?_, h.idle, h.mark_le⟩
      rcases hmode' with hm | hm <;> simp [hm]
  | back hq _ hmode' =>
      rw [hq.table]
      exact ⟨.away (by simp [hmode']), h.idle, h.mark_le⟩
  -- the word that announces the game comes before the mark
  | play hq _ _ _ =>
      refine ⟨.of_reset hq.table hq.previous hq.applied, ?_, ?_⟩
      · rw [hq.table]
        show ((s.table.tx.note .signal).sendSignal signal1).slots = []
        rw [hsend]
        exact h.idle
      · rw [hq.table]
        exact Nat.le_refl _
  | leave hq _ hmode' _ =>
      have htx : s'.table.tx = s.table.tx.tell [.signal] := by
        rw [hq.table, ← hsend]
        rfl
      -- leaving tells something, but the mode is no longer a game
      exact ⟨.away (by simp [hmode']), mark_le_tell h htx⟩
  | again _ _ hq _ _ _ =>
      refine ⟨.of_reset hq.table hq.previous hq.applied, ?_, ?_⟩
      · rw [hq.table]
        exact h.idle
      · rw [hq.table]
        exact Nat.le_refl _
  | quit hq _ hmode' _ =>
      rw [hq.table]
      exact ⟨.away (by simp [hmode']), h.idle, h.mark_le⟩

theorem spInt_course {s : Pc} (h : s.Steady) (iir : Option UInt8) :
    Course (.serial iir) s (s.spInt iir) ∧ (s.spInt iir).table.tx.slots = [] ∧
      (s.spInt iir).table.tx.gameMark ≤ (s.spInt iir).table.tx.history.length := by
  have houtcome := spInt_outcome h.sound iir
  generalize s.spInt iir = s' at houtcome ⊢
  cases houtcome with
  | idle r =>
      refine ⟨?_, h.idle, h.mark_le⟩
      by_cases hgame : s.mainState = .game
      · exact .stay hgame rfl rfl rfl rfl
      · exact .away hgame
  | start r _ =>
      refine ⟨.of_reset (t := { s.table with isMainPc := false }) rfl ⟨rfl, rfl⟩ rfl, h.idle, ?_⟩
      exact Nat.le_refl _
  | leave r _ => exact ⟨.away (by simp), h.idle, h.mark_le⟩
  | payload r e hmode hitem =>
      -- a message may be a hit of the red puck, which tells of the ball
      obtain ⟨vs, htx, -, -⟩ := apply_struck h.idle e
      refine ⟨?_, mark_le_tell h htx⟩
      have htold : ({ s with receiver := r }.perform e).told = _ := told_tell h htx
      rw [displacements_ball, List.append_nil] at htold
      cases e with
      | move x y =>
          refine .hear iir rfl x y hitem hmode rfl htold ?_ rfl
          show shifts (s.applied ++ [.move x y]) = _
          rw [shifts, List.filterMap_append]
          rfl
      | ballSpeed vx vy =>
          refine .stay hmode rfl htold ?_ rfl
          show shifts (s.applied ++ [.ballSpeed vx vy]) = _
          rw [shifts, List.filterMap_append]
          exact List.append_nil _

/-- **Every interrupt.** -/
theorem handle_course {s s' : Pc} (h : s.Steady) {i : Interrupt} (hstep : s.handle i = some s') :
    Course i s s' ∧ s'.table.tx.slots = [] ∧
      s'.table.tx.gameMark ≤ s'.table.tx.history.length := by
  cases i with
  | timer =>
      cases hstep
      exact timerInt_course h
  | keyboard reads => exact keyboardInt_course h hstep
  | mouse reads =>
      cases hstep
      exact mouseInt_course h reads
  | serial iir =>
      cases hstep
      exact spInt_course h iir

theorem Steady.step {s s' : Pc} (h : s.Steady) {i : Input} (hstep : s.step i = some s') :
    s'.Steady := by
  have hconfined := tableInvariant_confined.step h.confined hstep
  have hsound := (step_sound h.sound hstep).1
  cases i with
  | arrive slots =>
      cases hstep
      exact ⟨h.idle, h.mark_le, h.confined, hsound, h.previous⟩
  | interrupt i =>
      obtain ⟨hcourse, hidle, hmark⟩ := handle_course h hstep
      refine ⟨hidle, hmark, hconfined, hsound, fun hgame => ?_⟩
      have hplace : ∀ {x y : Int}, s'.previous = (x, y) → s'.previousX = x ∧ s'.previousY = y :=
        fun hp => Prod.mk.inj hp
      cases hcourse with
      | away hmode => exact absurd hgame hmode
      | fresh hprevious _ _ _ =>
          obtain ⟨hx, hy⟩ := hplace hprevious
          omega
      | stay hmode hprevious _ _ _ | hear _ _ _ _ _ hmode hprevious _ _ _ =>
          obtain ⟨hx, hy⟩ := hplace hprevious
          rw [hx, hy]
          exact h.previous hmode
      | tell _ _ _ hprevious _ _ _ =>
          obtain ⟨hx, hy⟩ := hplace hprevious
          have hpuck : s.table.bluepuck.Inside 80 80 := h.confined .bluepuck
          have hplace := hpuck.place
          omega

end Pc

theorem steady_init {S : Setup} (h : S.slots = []) : (init S).Steady where
  idle := h
  mark_le := Nat.le_refl _
  confined := confined_loaderSprite S
  sound := sound_init S
  previous := nofun

/-! ## The place that was told last -/

namespace Pc

open Travel

/-- What has been told adds up to the place that was told last. -/
def Recorded (s : Pc) : Prop := s.mainState = .game → s.previous = travel (535, 730) s.told

theorem Recorded.handle {s s' : Pc} (h : s.Recorded) (hs : s.Steady) {i : Interrupt}
    (hstep : s.handle i = some s') : s'.Recorded := by
  cases (handle_course hs hstep).1 with
  | away hmode => exact fun hgame => absurd hgame hmode
  | fresh hprevious htold _ _ =>
      intro _
      rw [htold, travel_nil, hprevious]
  | stay hmode hprevious htold _ _ =>
      intro _
      rw [hprevious, htold]
      exact h hmode
  | tell _ _ hmode hprevious htold _ _ =>
      intro _
      -- the new displacement leads from the last place to this one
      rw [hprevious, htold, travel_concat, ← h hmode, add_sub_cancel]
  | hear _ _ _ _ _ hmode hprevious htold _ _ =>
      intro _
      rw [hprevious, htold]
      exact h hmode

theorem Recorded.step {s s' : Pc} (h : s.Recorded) (hs : s.Steady) {i : Input}
    (hstep : s.step i = some s') : s'.Recorded := by
  cases i with
  | interrupt i => exact h.handle hs hstep
  | arrive slots =>
      cases hstep
      exact h

end Pc

end AirHockey
