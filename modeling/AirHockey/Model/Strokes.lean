import AirHockey.Model.Hits

/-! # What a stroke passes on

A puck that is moved into the ball passes a velocity on. `move` records a velocity in the puck
only after the tests, when nothing has stopped it, and `ball_collision` runs inside the tests:
what it passes on is what an earlier move has recorded.

`Strikes.velocity` says that of every stroke of a run. The main result, `strokes_passOn_iff`,
draws the consequence: the ball gets the velocity of the stroke exactly as long as that is already
the one recorded in the puck (`InPace`). `push_stops_ball` is a push after the button has been
released, when nothing is recorded. -/

namespace AirHockey

/-- Both components of a velocity, cut down to what the ball may have. -/
def clampVelocity (v : Int × Int) : Int × Int := (clampSpeed v.1, clampSpeed v.2)

namespace Table

/-- The ball gets the velocity that is recorded in the puck. -/
theorem velocity_ballCollision (t : Table) (o : Object) :
    (t.ballCollision o).ball.velocity = clampVelocity (t.get o).velocity := rfl

/-- A move that runs into the ball is a collision and nothing else. -/
theorem move_of_puckHits {t : Table} {o : Object} (ho : o ≠ .ball) {x y : Int}
    (h : t.puckHits o (int16 x) (int16 y) = true) : t.move o x y 2 = t.ballCollision o := by
  unfold puckHits at h
  simp only [Bool.and_eq_true, Bool.not_eq_true'] at h
  obtain ⟨⟨⟨hwall, hmiddle⟩, hmain⟩, hball⟩ := h
  -- the outcomes of a move exclude each other, and this is the collision
  exact (move_puck ho rfl).unique (.hit hwall hmiddle hmain hball)

end Table

namespace Pc

/-- The move of a puck that an input makes: a mouse packet with the left button, or a
displacement that has been decoded. -/
def stroke (s : Pc) (i : Input) : Option (Object × Int × Int) :=
  match s.motion i with
  | some (.packet parsing) =>
    if parsing.lb then some (.bluepuck, parsing.deltaX, parsing.deltaY) else none
  | some (.effect (.move x y)) => some (.redpuck, x, y)
  | some (.effect (.ballSpeed _ _)) | some .tick | none => none

theorem stroke_cases {s : Pc} {i : Input} {o : Object} {x y : Int}
    (h : s.stroke i = some (o, x, y)) :
    (∃ parsing, s.motion i = some (.packet parsing) ∧ parsing.lb = true ∧ o = .bluepuck ∧
      x = parsing.deltaX ∧ y = parsing.deltaY) ∨
    (s.motion i = some (.effect (.move x y)) ∧ o = .redpuck) := by
  unfold stroke at h
  split at h
  -- a packet is a stroke only with the button held
  · next parsing hmotion =>
      split at h
      · next hlb =>
          cases h
          exact .inl ⟨parsing, hmotion, hlb, rfl, rfl, rfl⟩
      · cases h
  · next hmotion =>
      cases h
      exact .inr ⟨hmotion, rfl⟩
  · cases h
  · cases h
  · cases h

/-- A stroke is one of a puck, and fits into the two `int16_t`. -/
theorem stroke_range {s : Pc} {i : Input} {o : Object} {x y : Int}
    (h : s.stroke i = some (o, x, y)) :
    (o = .redpuck ∨ o = .bluepuck) ∧ int16 x = x ∧ int16 y = y := by
  rcases stroke_cases h with ⟨parsing, hmotion, -, rfl, rfl, rfl⟩ | ⟨hmotion, rfl⟩
  · obtain ⟨reads, -, hparsing⟩ := motion_packet hmotion
    obtain ⟨⟨hx, hx'⟩, hy, hy'⟩ := completes_range hparsing
    exact ⟨.inr rfl, int16_of_range (by omega) (by omega), int16_of_range (by omega) (by omega)⟩
  · exact ⟨.inl rfl, motion_range hmotion⟩

/-- A stroke moves the puck and, at most, the cursor. -/
theorem TableStep.stroke {s s' : Pc} {i : Input} (hstep : TableStep s s' i) {o : Object}
    {x y : Int} (h : s.stroke i = some (o, x, y)) :
    ∃ m, s'.table = { s.table.move o x y 2 with mouse := m } := by
  rcases stroke_cases h with ⟨parsing, hmotion, hlb, rfl, rfl, rfl⟩ | ⟨hmotion, rfl⟩
  · cases hstep with
    | keep hm _ _ | tick hm _ _ | effect _ hm _ _ _ | leave hm _ _ | reset hm _ _ _ _ =>
        cases hm.symm.trans hmotion
    | packet parsing' hm htable _ =>
        cases hm.symm.trans hmotion
        have hpacket := actOnPacket_move parsing s.table
        rw [← htable] at hpacket
        generalize s'.table = t' at hpacket ⊢
        cases hpacket with
        | drag m _ => exact ⟨m, rfl⟩
        | release m hlb' => simp [hlb] at hlb'
  · cases hstep with
    | keep hm _ _ | tick hm _ _ | packet _ hm _ _ | leave hm _ _ | reset hm _ _ _ _ =>
        cases hm.symm.trans hmotion
    | effect e hm _ htable _ =>
        cases hm.symm.trans hmotion
        exact ⟨(s.table.move .redpuck x y 2).mouse, htable⟩

/-- During a game of the main PC, the input moves the puck `o` into the ball. -/
def Strikes (s : Pc) (i : Input) (o : Object) (x y : Int) : Prop :=
  s.mainState = .game ∧ s.table.isMainPc = true ∧ s.stroke i = some (o, x, y) ∧
    s.table.puckHits o x y = true

/-- The stroke gives the ball its own velocity. -/
def PassesOn (s : Pc) (i : Input) : Prop :=
  ∀ o x y, s.Strikes i o x y → ∀ s', s.step i = some s' →
    s'.table.ball.velocity = clampVelocity (x, y)

/-- What is recorded in the puck is, for the ball, the velocity of the stroke. -/
def InPace (s : Pc) (i : Input) : Prop :=
  ∀ o x y, s.Strikes i o x y → clampVelocity (s.table.get o).velocity = clampVelocity (x, y)

/-- **What a stroke passes on**: the velocity recorded in the puck before. -/
theorem Strikes.velocity {s s' : Pc} {i : Input} {o : Object} {x y : Int}
    (h : s.Strikes i o x y) (hsound : s.receiver.Sound) (hstep : s.step i = some s') :
    s'.table.ball.velocity = clampVelocity (s.table.get o).velocity := by
  obtain ⟨-, -, hstroke, hhits⟩ := h
  obtain ⟨ho, hx, hy⟩ := stroke_range hstroke
  have hne : o ≠ .ball := by
    rcases ho with rfl | rfl <;> decide
  obtain ⟨m, htable⟩ := (step_table hsound hstep).stroke hstroke
  -- the test was made with the displacement as an `int16_t`, which it fits into
  rw [← hx, ← hy] at hhits
  rw [htable, Table.move_of_puckHits hne hhits]
  exact Table.velocity_ballCollision s.table o

theorem passesOn_iff {s : Pc} (hsound : s.receiver.Sound) (i : Input) :
    s.PassesOn i ↔ s.InPace i := by
  refine forall_congr' fun o => forall_congr' fun x => forall_congr' fun y => ?_
  apply imp_congr_right
  intro hstrikes
  constructor
  · intro hpass
    -- the step is defined, so what `PassesOn` says of it is not empty
    have hmotion : ∃ m, s.motion i = some m := by
      rcases stroke_cases hstrikes.2.2.1 with ⟨parsing, hm, -⟩ | ⟨hm, -⟩
      · exact ⟨_, hm⟩
      · exact ⟨_, hm⟩
    obtain ⟨m, hm⟩ := hmotion
    obtain ⟨s', hstep⟩ := step_of_motion hm
    rw [← hstrikes.velocity hsound hstep, hpass s' hstep]
  · intro hpace s' hstep
    rw [hstrikes.velocity hsound hstep, hpace]

end Pc

/-- **When every stroke gives the ball its own velocity**: as long as each finds its velocity, up
to the speed limit, already recorded in the puck. -/
theorem strokes_passOn_iff (S : Setup) (es : List Input) :
    Transition.Along Pc.step Pc.PassesOn (init S) es ↔
      Transition.Along Pc.step Pc.InPace (init S) es :=
  -- the equivalence at each state, carried along the run
  Transition.along_congr Pc.Regular (fun _ _ _ => Pc.Regular.step)
    (fun _ i h => Pc.passesOn_iff h.sound i) (regular_init S)

/-- The puck is pushed up, the button is released, and then the puck is pushed against the ball. -/
def pushAfterRelease : List Input :=
  key spaceBreakCode ++ mousePacket 0x09 0 0xFF ++ mousePacket 0x08 0 0 ++
    (mousePacket 0x09 0 30).take 2

/-- The last byte of that push. -/
def lastByte : Input := .interrupt (.mouse [⟨some (kbcObf ||| kbcAux), some 30⟩])

/-- The push stops the ball instead of driving it. -/
theorem push_stops_ball :
    ∃ s s', Transition.run Pc.step (init Setup.standard) pushAfterRelease = some s ∧
      s.Strikes lastByte .bluepuck 0 30 ∧ s.step lastByte = some s' ∧
      s'.table.ball.velocity = (0, 0) ∧ clampVelocity (0, 30) = (0, 8) ∧ ¬s.PassesOn lastByte := by
  have hreach : ∃ s, Transition.run Pc.step (init Setup.standard) pushAfterRelease = some s ∧
      -- the stroke and the velocity after it, both computed on the state that is reached
      (s.mainState = .game ∧ s.table.isMainPc = true ∧
        s.stroke lastByte = some (.bluepuck, 0, 30) ∧ s.table.puckHits .bluepuck 0 30 = true) ∧
      ((s.step lastByte).map fun s' => s'.table.ball.velocity) = some (0, 0) :=
    Transition.reaches_of_any (by decide +kernel)
  obtain ⟨s, hrun, hstrikes, hnext⟩ := hreach
  obtain ⟨s', hstep, hvelocity⟩ := Option.map_eq_some_iff.mp hnext
  have hclamp : clampVelocity (0, 30) = (0, 8) := by decide
  refine ⟨s, s', hrun, hstrikes, hstep, hvelocity, hclamp, fun hpass => ?_⟩
  have hfalse := hpass _ _ _ hstrikes s' hstep
  rw [hvelocity, hclamp] at hfalse
  exact absurd hfalse (by decide)

end AirHockey
