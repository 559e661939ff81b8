import AirHockey.Model.Flight
import AirHockey.Model.Independence
import AirHockey.Model.Rebound

/-! # The clock of a game

`reset_game_state` sets the clock to 200 seconds and `time_count` to zero. From then on a whole
second of ticks takes one second off, and the first whole second without time ends the game.

`Clocked h n` is the invariant: the state is `n` ticks into its game. A tick makes it `n + 1`
(`Clocked.tick`), anything else leaves it (`sameClock_step`), so that the run lemma `Clocked.run`
counts the ticks among any other inputs. `game_clock` reads the remaining time off it. -/

namespace AirHockey

theorem Input.eq_timer_of_isTick {i : Input} (h : i.isTick = true) : i = .interrupt .timer := by
  cases i with
  | arrive slots => cases h
  | interrupt i =>
      cases i with
      | timer => rfl
      | keyboard reads | mouse reads | serial iir => cases h

namespace Pc

variable {s s' : Pc} {i : Input}

/-- The state is `n` ticks into a game, or has just left it, on a clock of `h` ticks a second. -/
structure Clocked (h n : Nat) (s : Pc) : Prop where
  sysHz : s.sysHz = h
  timeCount : s.timeCount = n
  timeRemaining : s.timeRemaining = 200 - n / h
  le : n ≤ 201 * h
  lt : s.mainState = .game → n < 201 * h

/-- The clock has not moved. -/
def SameClock (s s' : Pc) : Prop :=
  s'.timeCount = s.timeCount ∧ s'.timeRemaining = s.timeRemaining ∧ s'.sysHz = s.sysHz

/-- **Only ticks** change the clock in a game: no key, no mouse packet and no message does. -/
theorem sameClock_step (hsound : s.receiver.Sound) (hgame : s.mainState = .game)
    (hi : i.isTick = false) (hstep : s.step i = some s') : s.SameClock s' := by
  cases i with
  | arrive slots =>
      cases hstep
      exact ⟨rfl, rfl, rfl⟩
  | interrupt i =>
      cases i with
      | timer => simp [Input.isTick] at hi
      | keyboard reads =>
          rcases keyboardInt_game hgame hstep with ⟨hmenu, -⟩ | ⟨hmenu, -⟩
          · exact hmenu.clock
          · exact hmenu.clock
      | mouse reads =>
          cases hstep
          obtain ⟨_, _, _, _, _, heq⟩ := mouseInt_eq reads s
          rw [heq]
          exact ⟨rfl, rfl, rfl⟩
      | serial iir =>
          cases hstep
          have houtcome := spInt_outcome hsound iir
          generalize s.spInt iir = s' at houtcome
          cases houtcome with
          | idle r => exact ⟨rfl, rfl, rfl⟩
          | start r hmode => simp [hgame] at hmode
          | leave r _ => exact ⟨rfl, rfl, rfl⟩
          | payload r e _ _ => cases e <;> exact ⟨rfl, rfl, rfl⟩

namespace Clocked

variable {h n : Nat}

theorem of_sameClock (hs : s.Clocked h n) (hgame : s.mainState = .game) (hsame : s.SameClock s') :
    s'.Clocked h n := by
  obtain ⟨hcount, hremaining, hhz⟩ := hsame
  exact ⟨hhz.trans hs.sysHz, hcount.trans hs.timeCount, hremaining.trans hs.timeRemaining,
    hs.le, fun _ => hs.lt hgame⟩

/-- A whole second without time left ends the game, whatever the scores. -/
theorem endsGame (hs : s.Clocked h n) (hgame : s.mainState = .game) (hrate : 201 * h < 2 ^ 32)
    (hlast : n + 1 = 201 * h) : s.EndsGame := by
  have hpos : 0 < h := by omega
  refine ⟨hgame, ?_, ?_⟩
  · unfold WholeSecond
    rw [hs.timeCount, hs.sysHz, hlast, Nat.mod_eq_of_lt hrate]
    exact Nat.mul_mod_left 201 h
  -- the quotient of the last tick is 200, so nothing is left
  · have hdiv : n / h = 200 := by
      apply Nat.div_eq_of_lt_le
      · omega
      · omega
    have hzero : s.timeRemaining = 0 := by
      rw [hs.timeRemaining, hdiv]
    unfold testedMode
    rw [if_neg (by omega)]
    split
    · decide
    · split <;> decide

/-- **One tick of a game.** -/
theorem tick (hs : s.Clocked h n) (hgame : s.mainState = .game) (hrate : 201 * h < 2 ^ 32) :
    s.timerInt.Clocked h (n + 1) := by
  have hlt := hs.lt hgame
  obtain ⟨hcount, hremaining, hhz⟩ := timerInt_clock hgame
  have hmod : (s.timeCount + 1) % 2 ^ 32 = n + 1 := by
    rw [hs.timeCount]
    exact Nat.mod_eq_of_lt (by omega)
  rw [hmod, hs.sysHz, hs.timeRemaining] at hremaining
  refine ⟨hhz.trans hs.sysHz, hcount.trans hmod, ?_, by omega, ?_⟩
  · rw [hremaining, Nat.succ_div]
    -- the seconds go down exactly on a multiple of the rate
    by_cases hsecond : h ∣ n + 1
    · rw [if_pos (Nat.mod_eq_zero_of_dvd hsecond), if_pos hsecond]
      omega
    · rw [if_neg (fun h0 => hsecond (Nat.dvd_of_mod_eq_zero h0)), if_neg hsecond]
      rfl
  -- the game goes on, so this was not the last tick
  · intro hgame'
    have hends := (timerInt_goesOn hgame).mp hgame'
    have hne : n + 1 ≠ 201 * h := fun hlast => hends (hs.endsGame hgame hrate hlast)
    omega

theorem step (hs : s.Clocked h n) (hsound : s.receiver.Sound) (hgame : s.mainState = .game)
    (hrate : 201 * h < 2 ^ 32) (hstep : s.step i = some s') :
    s'.Clocked h (n + if i.isTick then 1 else 0) := by
  cases hi : i.isTick with
  | true =>
      rw [Input.eq_timer_of_isTick hi] at hstep
      cases hstep
      exact hs.tick hgame hrate
  | false => exact hs.of_sameClock hgame (sameClock_step hsound hgame hi hstep)

/-- **Any interleaving** of ticks with the other interrupts. -/
theorem run {es : List Input} (hs : s.Clocked h n) (hsound : s.receiver.Sound)
    (hrate : 201 * h < 2 ^ 32) (hgame : Transition.Along Pc.step InGame s es)
    (hrun : Transition.run Pc.step s es = some s') : s'.Clocked h (n + es.countP Input.isTick) := by
  -- induction on the inputs; the game has begun before them and goes on during all of them
  induction es generalizing s n with
  | nil =>
      cases hrun
      exact hs
  | cons i es ih =>
      obtain ⟨t, ht, hrest⟩ := (Transition.run_cons_eq_some Pc.step).mp hrun
      have hnext := ih (hs.step hsound hgame.1 hrate ht) (step_sound hsound ht).1 (hgame.2 t ht)
        hrest
      rw [List.countP_cons, Nat.add_comm (es.countP _), ← Nat.add_assoc]
      exact hnext

end Clocked

end Pc

/-- A new game has 200 seconds, whichever way it begins. -/
theorem JustEntered.clocked {S : Setup} {s : Pc} (h : JustEntered S s) :
    s.Clocked S.sysHz 0 := by
  obtain ⟨-, hcount, hremaining, hhz, -, -⟩ := h.fresh
  have hpos := S.sysHz_pos
  refine ⟨hhz, hcount, ?_, Nat.zero_le _, fun _ => by omega⟩
  rw [hremaining, Nat.zero_div]

/-- **The clock of a game.** The game has begun with `s₀`, on the first PC or on the other one, and
lasts up to the last of the inputs `es`, of which `n` are ticks. Then `200 - n / h` seconds remain,
none after `200 * h` ticks; the tick `201 * h` is the last one at the latest; and no other interrupt
changes the time that remains. The rate `h` is the kernel's: it is 60 by default, and the timer
counts at 1193182 Hz, so that 201 seconds do not overflow `time_count`. -/
theorem game_clock {S : Setup} {s₀ s : Pc} {es : List Input} (hstart : JustEntered S s₀)
    (hrate : 201 * S.sysHz < 2 ^ 32) (hgame : Transition.Along Pc.step Pc.InGame s₀ es)
    (hrun : Transition.run Pc.step s₀ es = some s) :
    (es.countP Input.isTick ≤ 200 * S.sysHz →
      s.timeRemaining + es.countP Input.isTick / S.sysHz = 200) ∧
    (200 * S.sysHz ≤ es.countP Input.isTick → s.timeRemaining = 0) ∧
    es.countP Input.isTick ≤ 201 * S.sysHz ∧
    (es.countP Input.isTick = 201 * S.sysHz → s.mainState ≠ .game) ∧
    (s.mainState = .game → ∀ i s', i.isTick = false → s.step i = some s' →
      s'.timeRemaining = s.timeRemaining) := by
  have hsound₀ : s₀.receiver.Sound := hstart.fresh.2.2.2.2.1
  have hclock := hstart.clocked.run hsound₀ hrate hgame hrun
  rw [Nat.zero_add] at hclock
  generalize es.countP Input.isTick = n at hclock
  have hpos := S.sysHz_pos
  -- the three bounds are the invariant with `n / h` worked out
  refine ⟨fun hn => ?_, fun hn => ?_, hclock.le, fun hn hmode => ?_, fun hmode i s' hi hstep => ?_⟩
  · have hdiv : n / S.sysHz ≤ 200 := Nat.div_le_of_le_mul (by omega)
    rw [hclock.timeRemaining]
    omega
  · have hdiv : 200 ≤ n / S.sysHz := (Nat.le_div_iff_mul_le hpos).mpr hn
    rw [hclock.timeRemaining]
    omega
  · have hlt := hclock.lt hmode
    omega
  · have hsound : s.receiver.Sound := (Pc.run_sound hsound₀ hrun).1
    exact (Pc.sameClock_step hsound hmode hi hstep).2.1

/-- The first second on the standard machine, with a key and a received puck message in it. -/
theorem game_clock_standard :
    ∃ s₀ s, JustEntered Setup.standard s₀ ∧
      Transition.run Pc.step s₀ (ticks 30 ++ key wBreakCode ++ received [10, 0, 20, 0] ++ ticks 30)
        = some s ∧ s.timeRemaining + 60 / 60 = 200 := by
  let es := ticks 30 ++ key wBreakCode ++ received [10, 0, 20, 0] ++ ticks 30
  have hentered : ∃ s₀, JustEntered Setup.standard s₀ ∧
      Transition.Along Pc.step Pc.InGame s₀ es ∧
      (Transition.run Pc.step s₀ es).any (fun _ => decide True) = true :=
    justEntered_of_any [] playKey (by decide +kernel)
  obtain ⟨s₀, hstart, hgame, hrun⟩ := hentered
  obtain ⟨s, hs, -⟩ := Transition.reaches_of_any hrun
  have hticks : es.countP Input.isTick = 60 := by decide
  have hclock := game_clock hstart (by decide) hgame hs
  rw [hticks] at hclock
  exact ⟨s₀, s, hstart, hs, hclock.1 (by decide)⟩

end AirHockey
