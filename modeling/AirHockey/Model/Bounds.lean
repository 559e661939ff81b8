import AirHockey.Model.Line
import AirHockey.Model.Standard
import AirHockey.Model.TableStep

/-! # Halves and the speed limit

A packet of the mouse moves the blue puck by less than the distance from the middle line to the
far wall, and every stroke of the program cuts the ball's velocity down: locally the rules of the
table hold of themselves. What arrives from the other PC is carried out unseen. There the rules
hold exactly as long as the messages keep to them.

* `bluepuck_lower`: in every state that is reached the blue puck is in the lower half;
* `redpuck_upper_iff`: the red one stays in the upper half along a run exactly if no displacement
  that is decoded leads it through the lower wall (`ShortOfWall`);
* `ball_slow_iff`: the ball keeps to eight pixels a tick exactly if every ball message does
  (`SlowMessage`).

Each is proved for one move first (`PuckMove.lower`, `PuckMove.upper`, `move_puck_slow`), then for
one step, by cases on `TableStep`, and then for every run; `always_iff_guard` is what the two
exact conditions have in common. `redpuck_lower` and `ball_fast` are runs on which the conditions
fail. -/

namespace AirHockey

/-! ## One move of a puck -/

/-- A wall puts a puck against it, or leaves the row alone. -/
theorem putAgainst_y (s : Sprite) (newX newY : Int) :
    (putAgainst (wallInfo s newX newY) s).y =
      if newY + s.height > verticalEnd then verticalEnd - s.height
      else if newY < verticalStart then verticalStart else s.y := by
  unfold putAgainst wallInfo
  -- sixteen combinations of walls, of which the upper and the lower one set the row
  by_cases htop : newY < verticalStart <;> by_cases hright : newX + s.width > horizontalEnd <;>
    by_cases hbottom : newY + s.height > verticalEnd <;> by_cases hleft : newX < horizontalStart <;>
    simp [htop, hright, hbottom, hleft]

/-- Past the test for the middle line, a puck is on the side that it comes from. -/
theorem detectMiddleFieldCollision_lower {s : Sprite} (h : 432 ≤ s.y) {newX newY : Int}
    (hmiddle : detectMiddleFieldCollision s newX newY = false) : 432 ≤ newY := by
  -- the puck comes from below the line, so the test asks whether it goes above
  rw [detectMiddleFieldCollision, if_neg (by unfold middleField; omega)] at hmiddle
  split at hmiddle
  · omega
  · have := of_decide_eq_false hmiddle
    unfold middleField at this
    omega

theorem detectMiddleFieldCollision_upper {s : Sprite} (hheight : s.height = 80) (h : s.y ≤ 352)
    {newX newY : Int} (hmiddle : detectMiddleFieldCollision s newX newY = false) : newY ≤ 352 := by
  rw [detectMiddleFieldCollision, if_pos (by unfold middleField; omega)] at hmiddle
  split at hmiddle
  · omega
  · have := of_decide_eq_false hmiddle
    unfold middleField at this
    omega

namespace Table

variable {t t' : Table} {x y : Int}

/-- The lower half keeps a puck that does not come near the upper wall. -/
theorem PuckMove.lower (hmove : PuckMove .bluepuck x y t t') (ht : t.Confined)
    (h : 432 ≤ t.bluepuck.y) (hy : y ≤ 255) : 432 ≤ t'.bluepuck.y := by
  have hpuck : t.bluepuck.Inside 80 80 := ht .bluepuck
  have hh := hpuck.height_eq
  cases hmove with
  -- against the lower wall the puck is at 763, against the upper one it would be at 21
  | wall _ =>
      show 432 ≤ (putAgainst (wallInfo t.bluepuck (t.bluepuck.x + x) (t.bluepuck.y - y))
        t.bluepuck).y
      rw [putAgainst_y]
      unfold verticalEnd verticalStart
      split
      · omega
      · split <;> omega
  | middle _ _ =>
      show 432 ≤ if t.bluepuck.y < middleField then middleField - t.bluepuck.height else middleField
      rw [if_neg (by unfold middleField; omega)]
      exact Int.le_refl _
  | hit _ _ _ _ => exact h
  | free _ hmiddle _ => exact detectMiddleFieldCollision_lower h hmiddle

/-- The upper half keeps a puck exactly if it does not run into the lower wall. -/
theorem PuckMove.upper (hmove : PuckMove .redpuck x y t t') (ht : t.Confined)
    (h : t.redpuck.y ≤ 352) : t'.redpuck.y ≤ 352 ↔ t.redpuck.y - y ≤ 763 := by
  have hpuck : t.redpuck.Inside 80 80 := ht .redpuck
  have hh := hpuck.height_eq
  -- whenever the move passes the test for the walls, the condition holds
  have hnowall : detectWallCollision (t.get .redpuck) ((t.get .redpuck).x + x)
      ((t.get .redpuck).y - y) = false → t.redpuck.y - y ≤ 763 := by
    intro hwall
    simp only [detectWallCollision, wallInfo, Bool.or_eq_false_iff, decide_eq_false_iff_not]
      at hwall
    have hbottom : ¬t.redpuck.y - y + t.redpuck.height > verticalEnd := hwall.1.2
    unfold verticalEnd at hbottom
    omega
  cases hmove with
  | wall _ =>
      show (putAgainst (wallInfo t.redpuck (t.redpuck.x + x) (t.redpuck.y - y))
        t.redpuck).y ≤ 352 ↔ _
      rw [putAgainst_y]
      unfold verticalEnd verticalStart
      split
      · omega
      · split <;> omega
  | middle hwall _ =>
      refine iff_of_true ?_ (hnowall hwall)
      show (if t.redpuck.y < middleField then middleField - t.redpuck.height else middleField) ≤ 352
      rw [if_pos (by unfold middleField; omega), hh]
      decide
  | hit hwall _ _ _ => exact iff_of_true h (hnowall hwall)
  | free hwall hmiddle _ =>
      exact iff_of_true (detectMiddleFieldCollision_upper hh h hmiddle) (hnowall hwall)

/-- A stroke with a puck keeps to the speed limit. -/
theorem move_puck_slow {o : Object} (ho : o ≠ .ball) (h : Slow t.ball.velocity) (x y : Int) :
    Slow (t.move o x y 2).ball.velocity := by
  have hset : ∀ sprite, (t.set o sprite).ball = t.ball := fun sprite =>
    get_set_of_ne (Ne.symm ho) t sprite
  generalize ht' : t.move o x y 2 = t'
  cases move_puck ho ht' with
  | wall _ | middle _ _ | free _ _ _ =>
      rw [hset]
      exact h
  -- the only case in which a puck gives the ball a velocity, and that is normalized
  | hit _ _ _ _ => exact normalizeSpeed_slow _

end Table

/-! ## One step -/

namespace Pc

variable {s s' : Pc} {i : Input}

theorem TableStep.lower (hstep : TableStep s s' i) (ht : s.table.Confined)
    (h : 432 ≤ s.table.bluepuck.y) : 432 ≤ s'.table.bluepuck.y := by
  cases hstep with
  | keep _ htable _ => rwa [htable]
  | tick _ _ htable =>
      have hblue : s'.table.bluepuck = s.table.bluepuck := by
        rw [htable]
        exact Table.get_ballTick (by decide : Object.bluepuck ≠ .ball) _
      rwa [hblue]
  | packet parsing hmotion htable _ =>
      obtain ⟨reads, -, hparsing⟩ := motion_packet hmotion
      obtain ⟨-, hlow, hhigh⟩ := completes_range hparsing
      rw [htable]
      have hpacket := actOnPacket_move parsing s.table
      generalize actOnPacket parsing s.table = t at hpacket ⊢
      cases hpacket with
      | drag m _ =>
          have hmove := Table.move_puck (by decide : Object.bluepuck ≠ .ball)
            (rfl : s.table.move .bluepuck parsing.deltaX parsing.deltaY 2 = _)
          rw [int16_of_range (n := parsing.deltaY) (by omega) (by omega)] at hmove
          exact hmove.lower ht h hhigh
      | release m _ => exact h
  | effect e _ _ htable _ =>
      rw [htable]
      cases e with
      | move x y =>
          have hblue : (s.table.move .redpuck x y 2).bluepuck = s.table.bluepuck :=
            Table.get_move_puck (by decide : Object.redpuck ≠ .ball)
              (by decide : Object.bluepuck ≠ .redpuck) (by decide) s.table x y
          show 432 ≤ (s.table.move .redpuck x y 2).bluepuck.y
          rwa [hblue]
      | ballSpeed _ _ => exact h
  | leave _ _ htable =>
      rw [htable]
      exact h
  | reset _ tx isMainPc _ htable =>
      rw [htable]
      show (432 : Int) ≤ 730
      decide

/-- No displacement that is decoded leads the red puck through the lower wall. -/
def ShortOfWall (s : Pc) (i : Input) : Prop :=
  ∀ x y, s.motion i = some (.effect (.move x y)) → s.table.redpuck.y - y ≤ 763

theorem TableStep.upper (hstep : TableStep s s' i) (ht : s.table.Confined)
    (h : s.table.redpuck.y ≤ 352) : s'.table.redpuck.y ≤ 352 ↔ s.ShortOfWall i := by
  have hother : (∀ x y, s.motion i ≠ some (.effect (.move x y))) → s.ShortOfWall i :=
    fun hne x y hmove => absurd hmove (hne x y)
  cases hstep with
  | keep hmotion htable _ =>
      rw [htable]
      exact iff_of_true h (hother (by simp [hmotion]))
  | tick hmotion _ htable =>
      refine iff_of_true ?_ (hother (by simp [hmotion]))
      have hred : s'.table.redpuck = s.table.redpuck := by
        rw [htable]
        exact Table.get_ballTick (by decide : Object.redpuck ≠ .ball) _
      rwa [hred]
  | packet parsing hmotion htable _ =>
      refine iff_of_true ?_ (hother (by simp [hmotion]))
      rw [htable, (actOnPacket_move parsing s.table).redpuck]
      exact h
  -- the one kind of motion that can break it
  | effect e hmotion _ htable _ =>
      rw [htable]
      cases e with
      | move x y =>
          obtain ⟨hx, hy⟩ := motion_range hmotion
          have hmove := Table.move_puck (by decide : Object.redpuck ≠ .ball)
            (rfl : s.table.move .redpuck x y 2 = _)
          rw [hx, hy] at hmove
          -- the guard speaks of the decoded displacement, which is `x`, `y` itself
          refine (hmove.upper ht h).trans ⟨fun hle x' y' hx' => ?_, fun hok => hok x y hmotion⟩
          cases hmotion.symm.trans hx'
          exact hle
      | ballSpeed _ _ =>
          exact iff_of_true h (hother (by simp [hmotion]))
  | leave hmotion _ htable =>
      rw [htable]
      exact iff_of_true h (hother (by simp [hmotion]))
  | reset hmotion tx isMainPc _ htable =>
      rw [htable]
      refine iff_of_true ?_ (hother (by simp [hmotion]))
      show (55 : Int) ≤ 352
      decide

/-- A ball message that is decoded keeps to the speed limit. -/
def SlowMessage (s : Pc) (i : Input) : Prop :=
  ∀ vx vy, s.motion i = some (.effect (.ballSpeed vx vy)) → Slow (vx, vy)

theorem TableStep.slow (hstep : TableStep s s' i) (h : Slow s.table.ball.velocity) :
    Slow s'.table.ball.velocity ↔ s.SlowMessage i := by
  have hother : (∀ vx vy, s.motion i ≠ some (.effect (.ballSpeed vx vy))) → s.SlowMessage i :=
    fun hne vx vy hspeed => absurd hspeed (hne vx vy)
  cases hstep with
  | keep hmotion htable _ =>
      rw [htable]
      exact iff_of_true h (hother (by simp [hmotion]))
  | tick hmotion _ htable =>
      refine iff_of_true ?_ (hother (by simp [hmotion]))
      rw [htable]
      unfold Table.ballTick
      split
      · exact Table.move_ball_slow h h
      · exact h
  | packet parsing hmotion htable _ =>
      refine iff_of_true ?_ (hother (by simp [hmotion]))
      rw [htable]
      have hpacket := actOnPacket_move parsing s.table
      generalize actOnPacket parsing s.table = t at hpacket ⊢
      cases hpacket with
      | drag m _ => exact Table.move_puck_slow (by decide) h _ _
      | release m _ => exact h
  | effect e hmotion _ htable _ =>
      rw [htable]
      cases e with
      | move x y =>
          exact iff_of_true (Table.move_puck_slow (by decide) h _ _) (hother (by simp [hmotion]))
      | ballSpeed vx vy =>
          refine ⟨fun hslow vx' vy' hv => ?_, fun hok => hok vx vy hmotion⟩
          cases hmotion.symm.trans hv
          exact hslow
  | leave hmotion _ htable =>
      rw [htable]
      exact iff_of_true h (hother (by simp [hmotion]))
  | reset hmotion tx isMainPc _ htable =>
      rw [htable]
      exact iff_of_true (by simp [Slow, Table.reset, Sprite.velocity]) (hother (by simp [hmotion]))

end Pc

/-! ## Every run -/

/-- What the pucks need of the state, and every step keeps. -/
structure Pc.Regular (s : Pc) : Prop where
  sound : s.receiver.Sound
  confined : s.table.Confined

theorem Pc.Regular.step {s s' : Pc} {i : Input} (h : s.Regular) (hstep : s.step i = some s') :
    s'.Regular :=
  ⟨(Pc.step_sound h.sound hstep).1, tableInvariant_confined.step h.confined hstep⟩

theorem regular_init (S : Setup) : (init S).Regular := ⟨sound_init S, confined_loaderSprite S⟩

/-- A property that one step keeps exactly as a guard on motions says, over every run. -/
theorem always_iff_guard {ok : Pc → Input → Prop} {P : Pc → Prop} (S : Setup) (es : List Input)
    (hnone : ∀ s i, s.motion i = none → ok s i)
    (hstep : ∀ s i s', s.Regular → P s → s.step i = some s' → (P s' ↔ ok s i))
    (hinit : P (init S)) :
    Transition.Always Pc.step P (init S) es ↔ Transition.Along Pc.step ok (init S) es := by
  -- a step that is not defined sets nothing in motion, so that the guard holds of it
  have hdef : ∀ (s : Pc) (i : Input), s.Regular → P s → ok s i ∨ ∃ s', s.step i = some s' := by
    intro s i _ _
    cases hmotion : s.motion i with
    | none => exact .inl (hnone s i hmotion)
    | some m => exact .inr (Pc.step_of_motion hmotion)
  exact Transition.always_iff_along ok P Pc.Regular (fun _ _ _ => Pc.Regular.step) hdef
    hstep (regular_init S) hinit

/-- **The blue puck stays in the lower half**, whatever happens. -/
theorem bluepuck_lower {S : Setup} {es : List Input} {s : Pc}
    (hrun : Transition.run Pc.step (init S) es = some s) :
    (273 ≤ s.table.bluepuck.x ∧ s.table.bluepuck.x ≤ 799) ∧
      432 ≤ s.table.bluepuck.y ∧ s.table.bluepuck.y ≤ 763 := by
  have hinv : s.Regular ∧ 432 ≤ s.table.bluepuck.y := by
    refine Transition.invariant (fun s : Pc => s.Regular ∧ 432 ≤ s.table.bluepuck.y) ?_
      ⟨regular_init S, show (432 : Int) ≤ 730 by decide⟩ hrun
    -- `Regular` is carried along, since the step lemma needs it
    rintro s i s' ⟨hregular, hlower⟩ hstep
    exact ⟨hregular.step hstep,
      (Pc.step_table hregular.sound hstep).lower hregular.confined hlower⟩
  obtain ⟨hregular, hlower⟩ := hinv
  have hpuck : s.table.bluepuck.Inside 80 80 := hregular.confined .bluepuck
  obtain ⟨hleft, hright, -, hbottom⟩ := hpuck.place
  exact ⟨⟨hleft, hright⟩, hlower, hbottom⟩

/-- The mouse pulls as far up as it can, three times, with the button held. -/
theorem bluepuck_lower_pulled :
    ∃ s, Transition.run Pc.step (init Setup.standard)
        (mousePacket 0x09 0 0xFF ++ mousePacket 0x09 0 0xFF ++ mousePacket 0x49 0 0xFF) = some s ∧
      s.table.bluepuck.y = 432 ∧ 273 ≤ s.table.bluepuck.x := by
  have hreach : ∃ s, Transition.run Pc.step (init Setup.standard)
      (mousePacket 0x09 0 0xFF ++ mousePacket 0x09 0 0xFF ++ mousePacket 0x49 0 0xFF) = some s ∧
        s.table.bluepuck.y = 432 :=
    Transition.reaches_of_any (by decide +kernel)
  obtain ⟨s, hrun, hy⟩ := hreach
  exact ⟨s, hrun, hy, (bluepuck_lower hrun).1.1⟩

/-- The red puck is in the upper half. -/
def Table.RedUpper (t : Table) : Prop :=
  (273 ≤ t.redpuck.x ∧ t.redpuck.x ≤ 799) ∧ 21 ≤ t.redpuck.y ∧ t.redpuck.y ≤ 352

theorem Table.Confined.redUpper_iff {t : Table} (h : t.Confined) :
    t.RedUpper ↔ t.redpuck.y ≤ 352 := by
  have hpuck : t.redpuck.Inside 80 80 := h .redpuck
  obtain ⟨hleft, hright, htop, -⟩ := hpuck.place
  exact ⟨fun hupper => hupper.2.2, fun hle => ⟨⟨hleft, hright⟩, htop, hle⟩⟩

/-- **When the red puck stays in the upper half**: as long as no displacement from the other PC
leads it through the lower wall, behind which it would be put against that wall. -/
theorem redpuck_upper_iff (S : Setup) (es : List Input) :
    Transition.Always Pc.step (fun s => s.table.RedUpper) (init S) es ↔
      Transition.Along Pc.step Pc.ShortOfWall (init S) es := by
  refine always_iff_guard S es ?_ ?_ ?_
  · intro s i hmotion x y hmove
    cases hmotion.symm.trans hmove
  · intro s i s' hregular hupper hstep
    have hconfined := (hregular.step hstep).confined
    -- the columns and the upper bound come from confinement; the lower bound is the point
    rw [hconfined.redUpper_iff]
    exact (Pc.step_table hregular.sound hstep).upper hregular.confined hupper.2.2
  · exact (regular_init S).confined.redUpper_iff.mpr (show (55 : Int) ≤ 352 by decide)

/-- A displacement of 745 rows takes the red puck to the lower wall, and it stays in the lower
half. -/
theorem redpuck_lower :
    ∃ s, Transition.run Pc.step (init Setup.standard)
        (received [0, 0x10] ++ received [0, 0, 0x17, 0xFD]) = some s ∧
      (s.mainState = .game ∧ s.table.redpuck.y = 763) ∧ ¬s.table.RedUpper := by
  have hreach : ∃ s, Transition.run Pc.step (init Setup.standard)
      (received [0, 0x10] ++ received [0, 0, 0x17, 0xFD]) = some s ∧
        s.mainState = .game ∧ s.table.redpuck.y = 763 :=
    Transition.reaches_of_any (by decide +kernel)
  obtain ⟨s, hrun, hgame, hy⟩ := hreach
  refine ⟨s, hrun, ⟨hgame, hy⟩, fun h => ?_⟩
  have := h.2.2
  omega

/-- **When the ball keeps to the speed limit**: as long as the ball messages from the other PC
do. -/
theorem ball_slow_iff (S : Setup) (es : List Input) :
    Transition.Always Pc.step (fun s => Slow s.table.ball.velocity) (init S) es ↔
      Transition.Along Pc.step Pc.SlowMessage (init S) es := by
  refine always_iff_guard S es ?_ ?_ ?_
  · intro s i hmotion vx vy hspeed
    cases hmotion.symm.trans hspeed
  · intro s i s' hregular hslow hstep
    exact (Pc.step_table hregular.sound hstep).slow hslow
  · exact show Slow (0, 0) by simp [Slow]

/-- A ball message with the components -128 and 127. -/
theorem ball_fast :
    ∃ s, Transition.run Pc.step (init Setup.standard)
        -- the two components as bytes, which the receiver negates
        (received [0, 0x10] ++ received [0, 0x20, 0x80, 0x7F]) = some s ∧
      s.mainState = .game ∧ s.table.ball.velocity = (128, -127) ∧ ¬Slow s.table.ball.velocity := by
  have hreach : ∃ s, Transition.run Pc.step (init Setup.standard)
      (received [0, 0x10] ++ received [0, 0x20, 0x80, 0x7F]) = some s ∧
        s.mainState = .game ∧ s.table.ball.velocity = (128, -127) :=
    Transition.reaches_of_any (by decide +kernel)
  obtain ⟨s, hrun, hgame, hv⟩ := hreach
  refine ⟨s, hrun, hgame, hv, ?_⟩
  rw [hv]
  rintro ⟨-, hle, -⟩
  exact absurd hle (by decide)

end AirHockey
