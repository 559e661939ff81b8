import AirHockey.Model.Hits
import AirHockey.Model.Pucks

/-! # The puck on the line

The messages have no frames: a displacement is told apart from the words that start a game, and
from those that announce a ball message, by its value. It is the half of the table that keeps the
values apart — the puck is never further from the place that was told last than its half is wide
and high.

`Pc.Sampled` is the invariant: the puck and the place that was told last are in the lower half,
and every displacement told is `Short`. `Sampled.step` keeps it, by what a step can do to the
places (`handle_course`), and `displacements_exact` reads off what it says of a whole run. -/

namespace AirHockey

open Travel

/-- A place of a puck in the lower half. -/
def LowerPlace (place : Int × Int) : Prop :=
  (273 ≤ place.1 ∧ place.1 ≤ 799) ∧ 432 ≤ place.2 ∧ place.2 ≤ 763

/-- As far as two places of the lower half are apart. -/
def Short (d : Int × Int) : Prop := (-526 ≤ d.1 ∧ d.1 ≤ 526) ∧ -331 ≤ d.2 ∧ d.2 ≤ 331

theorem LowerPlace.short {p q : Int × Int} (hp : LowerPlace p) (hq : LowerPlace q) :
    Short (p - q) := by
  obtain ⟨⟨hpx, hpx'⟩, hpy, hpy'⟩ := hp
  obtain ⟨⟨hqx, hqx'⟩, hqy, hqy'⟩ := hq
  show (-526 ≤ p.1 - q.1 ∧ p.1 - q.1 ≤ 526) ∧ -331 ≤ p.2 - q.2 ∧ p.2 - q.2 ≤ 331
  omega

/-- A short displacement survives the narrowing to 16 bits, and its words mean nothing else. -/
theorem Short.exact {d : Int × Int} (h : Short d) :
    (int16 d.1 = d.1 ∧ int16 d.2 = d.2) ∧ uint16 d.1 ≠ signal1 ∧ uint16 d.1 ≠ ballSignal := by
  obtain ⟨⟨hx, hx'⟩, hy, hy'⟩ := h
  -- 526 and 331 are within `int16_t`, and both words are outside of their range
  refine ⟨⟨?_, ?_⟩, uint16_ne (by omega) (by omega)⟩
  · exact int16_of_range (by omega) (by omega)
  · exact int16_of_range (by omega) (by omega)

namespace Pc

/-- The bookkeeping of the displacements. -/
structure Sampled (s : Pc) : Prop where
  steady : s.Steady
  recorded : s.Recorded
  lower : LowerPlace s.blue
  previous : s.mainState = .game → LowerPlace s.previous
  short : s.mainState = .game → ∀ d ∈ s.told, Short d
  line : s.table.tx.sent = encode s.table.tx.history

/-- What a tick tells is short, and nothing else is told of the puck. -/
theorem Sampled.told_step {s s' : Pc} {i : Interrupt} (h : s.Sampled) (hcourse : Course i s s')
    (hgame : s'.mainState = .game) : LowerPlace s'.previous ∧ ∀ d ∈ s'.told, Short d := by
  cases hcourse with
  -- the game has been left, a new one has begun, it goes on, or the tick has told a displacement
  | away hmode => exact absurd hgame hmode
  | fresh hprevious htold _ _ =>
      rw [hprevious, htold]
      exact ⟨by unfold LowerPlace; decide, nofun⟩
  | stay hmode hprevious htold _ _ | hear _ _ _ _ _ hmode hprevious htold _ _ =>
      rw [hprevious, htold]
      exact ⟨h.previous hmode, h.short hmode⟩
  | tell _ _ hmode hprevious htold _ _ =>
      rw [hprevious, htold]
      refine ⟨h.lower, fun d hd => ?_⟩
      rcases List.mem_append.mp hd with hd | hd
      · exact h.short hmode d hd
      · obtain rfl := List.mem_singleton.mp hd
        exact h.lower.short (h.previous hmode)

theorem Sampled.step {s s' : Pc} {i : Input} (h : s.Sampled) (hstep : s.step i = some s') :
    s'.Sampled := by
  have hsteady := h.steady.step hstep
  have htable := step_table h.steady.sound hstep
  have hlower := htable.lower h.steady.confined h.lower.2.1
  have hpuck : s'.table.bluepuck.Inside 80 80 := hsteady.confined .bluepuck
  have hplace := hpuck.place
  have htold : s'.mainState = .game → LowerPlace s'.previous ∧ ∀ d ∈ s'.told, Short d := by
    intro hgame
    cases i with
    | interrupt i => exact h.told_step (handle_course h.steady hstep).1 hgame
    | arrive slots =>
        cases hstep
        exact ⟨h.previous hgame, h.short hgame⟩
  refine ⟨hsteady, h.recorded.step h.steady hstep, ?_, fun hgame => (htold hgame).1,
    fun hgame => (htold hgame).2, ?_⟩
  · exact ⟨⟨hplace.1, hplace.2.1⟩, hlower, hplace.2.2.2⟩
  · obtain ⟨ms, hms, -⟩ := htable.tells h.steady.idle
    rw [hms.sent, hms.history, h.line, encode_append]

end Pc

theorem sampled_init {S : Setup} (h : S.slots = []) : (init S).Sampled where
  steady := steady_init h
  recorded := nofun
  lower := show LowerPlace (535, 730) by unfold LowerPlace; decide
  previous := nofun
  short := nofun
  line := rfl

/-- **The displacements told add up, and cannot be taken for anything else.** -/
theorem displacements_exact {S : Setup} {es : List Input} {s : Pc} (hsends : S.slots = [])
    (hrun : Transition.run Pc.step (init S) es = some s) (hgame : s.mainState = .game) :
    s.told.sum + (s.blue - s.previous) = s.blue - (535, 730) ∧
      (∃ before, s.table.tx.sent = before ++ encode s.table.tx.thisGame) ∧
      Short (s.blue - s.previous) ∧
      ∀ d ∈ s.told, Short d ∧ (int16 d.1 = d.1 ∧ int16 d.2 = d.2) ∧
        uint16 d.1 ≠ signal1 ∧ uint16 d.1 ≠ ballSignal := by
  have hinv := Transition.invariant Pc.Sampled (fun _ _ _ => Pc.Sampled.step)
    (sampled_init hsends) hrun
  refine ⟨?_, ?_, hinv.lower.short (hinv.previous hgame), fun d hd => ?_⟩
  · have hsum : s.previous = (535, 730) + s.told.sum := hinv.recorded hgame
    rw [hsum, sub_add_eq_sub_sub, add_sub_cancel]
  -- the messages of this game are the end of what is on the line
  · refine ⟨encode (s.table.tx.history.take s.table.tx.gameMark), ?_⟩
    rw [hinv.line, ← encode_append]
    exact congrArg encode (List.take_append_drop _ _).symm
  · have hshort := hinv.short hgame d hd
    exact ⟨hshort, hshort.exact⟩

/-- The puck is pushed to the right, and a little further between two samples. -/
theorem displacements_exact_push :
    ∃ s, Transition.run Pc.step (init Setup.standard)
        (key spaceBreakCode ++ mousePacket 0x09 200 0 ++ ticks 2 ++ mousePacket 0x09 5 9) = some s ∧
      (s.mainState = .game ∧ s.told = [(200, 0)]) ∧
      s.told.sum + (s.blue - s.previous) = s.blue - (535, 730) := by
  have hreach : ∃ s, Transition.run Pc.step (init Setup.standard)
      (key spaceBreakCode ++ mousePacket 0x09 200 0 ++ ticks 2 ++ mousePacket 0x09 5 9) = some s ∧
        s.mainState = .game ∧ s.told = [(200, 0)] :=
    Transition.reaches_of_any (by decide +kernel)
  obtain ⟨s, hrun, hgame, htold⟩ := hreach
  exact ⟨s, hrun, ⟨hgame, htold⟩, (displacements_exact rfl hrun hgame).1⟩

end AirHockey
