import AirHockey.Model.Clock
import AirHockey.Model.Lockstep

/-! # What the two players are told

Each PC counts its own ticks and judges by its own scores. `verdict_swap` says what two players are
told who judge the same score from both sides: opposite results, except that three goals on both
sides make two losers, as each PC looks at the other player's first.

The main result is `results_opposite`: on the same tick of a game that neither of them has left, two
PCs whose scores are each other's decide the same. Nothing is assumed of the line between them or of
the order in which their ticks come, for a clock depends on nothing but the ticks that it has
counted: `ticked` is this dependence, and `timed_run` carries it through a run. -/

namespace AirHockey

/-- The result as the other player is to see it. -/
def MainState.opposite : MainState → MainState
  | .win => .lost
  | .lost => .win
  | .tie => .tie
  | .mainMenu => .mainMenu
  | .rules => .rules
  | .game => .game
  | .stop => .stop

/-- **One rule for both players**, except that three goals each while there is time left are a
defeat for both. -/
theorem verdict_swap (time : Nat) (a b : Int) :
    verdict time (b, a) = (verdict time (a, b)).opposite ∨
      (0 < time ∧ a = 3 ∧ b = 3) ∧ verdict time (a, b) = .lost ∧ verdict time (b, a) = .lost := by
  unfold verdict
  -- there is time left: only a score of three decides
  by_cases htime : time > 0
  · simp only [htime, if_true]
    by_cases ha : a = 3 <;> by_cases hb : b = 3 <;> simp [ha, hb, MainState.opposite]
  -- time is up: the higher score wins, and the two scores are compared the other way round
  · simp only [htime, if_false]
    rcases Int.lt_trichotomy a b with hlt | heq | hlt
    · have hne : b ≠ a := by omega
      have hnot : ¬a > b := by omega
      simp [hlt, hne, hne.symm, hnot, MainState.opposite]
    · simp [heq, MainState.opposite]
    · have hne : b ≠ a := by omega
      have hnot : ¬b > a := by omega
      simp [hlt, hne, hne.symm, hnot, MainState.opposite]

/-- The counter of ticks and the seconds that remain, `n` ticks into a game on a clock of `h` ticks
a second. -/
def ticked (h : Nat) : Nat → Nat × Nat
  | 0 => (0, 200)
  | n + 1 =>
    let count := ((ticked h n).1 + 1) % 2 ^ 32
    (count, if count % h = 0 then (ticked h n).2 - 1 else (ticked h n).2)

namespace Pc

variable {s s' : Pc} {h n : Nat}

/-- The state is `n` ticks into a game on a clock of `h` ticks a second. -/
structure Timed (h n : Nat) (s : Pc) : Prop where
  sysHz : s.sysHz = h
  clock : (s.timeCount, s.timeRemaining) = ticked h n

/-- However a game begins. -/
theorem JustReset.timed {main : Bool} (hreset : s.JustReset main) (hhz : s.sysHz = h) :
    s.Timed h 0 := by
  obtain ⟨-, t, -, ht⟩ := hreset
  exact ⟨hhz, Prod.ext ht.clock.1 ht.clock.2.1⟩

namespace Timed

theorem of_sameClock (hs : s.Timed h n) (hsame : s.SameClock s') : s'.Timed h n := by
  obtain ⟨hcount, hremaining, hhz⟩ := hsame
  refine ⟨hhz.trans hs.sysHz, ?_⟩
  rw [hcount, hremaining]
  exact hs.clock

theorem tick (hs : s.Timed h n) (hgame : s.mainState = .game) : s.timerInt.Timed h (n + 1) := by
  obtain ⟨hcount, hremaining, hhz⟩ := timerInt_clock hgame
  obtain ⟨hcount', hremaining'⟩ := Prod.mk.inj hs.clock
  refine ⟨hhz.trans hs.sysHz, ?_⟩
  rw [hcount, hremaining, hcount', hremaining', hs.sysHz]
  rfl

/-- **The tick that decides**, for two PCs that have counted as many ticks. -/
theorem decide (hs : s.Timed h n) (hs' : s'.Timed h n) (hgame : s.mainState = .game)
    (hgame' : s'.mainState = .game) (hscores : s'.table.scores = s.table.scores.swap) :
    s'.timerInt.mainState = s.timerInt.mainState.opposite ∨
      (0 < s.timeRemaining ∧ s.table.scores = (3, 3)) ∧
        s.timerInt.mainState = .lost ∧ s'.timerInt.mainState = .lost := by
  -- both have counted the same ticks, so both are at a whole second or neither is
  obtain ⟨hcount, hremaining⟩ := Prod.mk.inj (hs'.clock.trans hs.clock.symm)
  have hsecond : s'.WholeSecond ↔ s.WholeSecond := by
    unfold WholeSecond
    rw [hcount, hs.sysHz, hs'.sysHz]
  have hmode := (timerInt_score hgame).1
  have hmode' := (timerInt_score hgame').1
  rw [testedMode_eq] at hmode hmode'
  rw [hremaining, hscores] at hmode'
  by_cases hwhole : s.WholeSecond
  · rw [if_pos hwhole] at hmode
    rw [if_pos (hsecond.mpr hwhole)] at hmode'
    rw [hmode, hmode']
    rcases verdict_swap s.timeRemaining s.table.scores.1 s.table.scores.2 with
      hopposite | ⟨⟨htime, h₁, h₂⟩, hlost, hlost'⟩
    · exact .inl hopposite
    · exact .inr ⟨⟨htime, Prod.ext h₁ h₂⟩, hlost, hlost'⟩
  · -- between the seconds neither of them looks at the scores
    left
    rw [hmode, hmode', if_neg hwhole, if_neg fun hw => hwhole (hsecond.mp hw)]
    rfl

end Timed

end Pc

/-- A tick of the PC on this side. -/
def Event.isTickOf (q : Side) : Event → Bool
  | .interrupt r .timer => r = q
  | .interrupt _ (.keyboard _) | .interrupt _ (.mouse _) | .interrupt _ (.serial _) => false
  | .deliver _ => false

namespace Session

variable {S : Side → Setup} {σ σ' τ : Session} {e : Event} {es : List Event} {q : Side} {h n : Nat}

/-- The run has brought `q` into a game, in which it still is, and in which it has ticked `n`
times. -/
def Lasts (S : Side → Setup) (es : List Event) (q : Side) (n : Nat) : Prop :=
  ∃ before since σ₀, es = before ++ since ∧ Transition.run step (init S) before = some σ₀ ∧
    (∃ main, (σ₀.pc q).JustReset main) ∧
    Transition.Along step (fun σ _ => (σ.pc q).mainState = .game) σ₀ since ∧
    since.countP (Event.isTickOf q) = n

/-- A sound receiver, and a clock of `h` ticks a second. -/
def Rated (h : Nat) (s : Pc) : Prop := s.receiver.Sound ∧ s.sysHz = h

/-- The clock rate stays what it is. -/
theorem rated_reach (hrate : ∀ q, (S q).sysHz = h)
    (hreach : Transition.run step (init S) es = some σ) (q : Side) : Rated h (σ.pc q) := by
  apply run_forall _ _ hreach
  · intro s i s' hs hstep
    obtain ⟨hsound, hhz⟩ := Pc.step_sound hs.1 hstep
    exact ⟨hsound, hhz.trans hs.2⟩
  · intro p
    rw [pc_init]
    exact ⟨(regular_init (S p)).sound, hrate p⟩

/-- What happens at one PC moves no clock of the other, and at the same one only a tick does. -/
theorem timed_step (hs : (σ.pc q).Timed h n) (hsound : (σ.pc q).receiver.Sound)
    (hgame : (σ.pc q).mainState = .game) (hstep : σ.step e = some σ') :
    (σ'.pc q).Timed h (n + if e.isTickOf q then 1 else 0) := by
  cases stepOf hstep with
  | interrupt r i hpc hother _ =>
      rcases r.eq_or_other q with rfl | rfl
      · cases i with
        | timer =>
            -- a tick of this side is the only thing that moves its clock
            have htick : (σ.pc q).timerInt = σ'.pc q := Option.some.inj hpc
            have hcounts : (Event.interrupt q .timer).isTickOf q = true := decide_eq_true rfl
            rw [hcounts, ← htick]
            exact hs.tick hgame
        | keyboard reads =>
            exact hs.of_sameClock
              (Pc.sameClock_step (i := .interrupt (.keyboard reads)) hsound hgame rfl hpc)
        | mouse reads =>
            exact hs.of_sameClock
              (Pc.sameClock_step (i := .interrupt (.mouse reads)) hsound hgame rfl hpc)
        | serial iir =>
            exact hs.of_sameClock
              (Pc.sameClock_step (i := .interrupt (.serial iir)) hsound hgame rfl hpc)
      · have hnot : (Event.interrupt r i).isTickOf r.other = false := by
          cases i with
          | timer => cases r <;> rfl
          | keyboard _ | mouse _ | serial _ => rfl
        rw [hnot, hother]
        exact hs
  | deliver r b _ hpc hother _ _ =>
      rcases r.eq_or_other q with rfl | rfl
      · rw [hpc]
        exact ⟨hs.sysHz, hs.clock⟩
      · rw [hother]
        exact hs

theorem timed_run (hs : (σ.pc q).Timed h n) (hrated : ∀ q, Rated h (σ.pc q))
    (hgame : Transition.Along step (fun σ _ => (σ.pc q).mainState = .game) σ es)
    (hrun : Transition.run step σ es = some τ) :
    (τ.pc q).Timed h (n + es.countP (Event.isTickOf q)) := by
  induction es generalizing σ n with
  | nil =>
      cases hrun
      exact hs
  | cons e es ih =>
      obtain ⟨σ', hstep, hrest⟩ := (Transition.run_cons_eq_some step).mp hrun
      have hrated' : ∀ q, Rated h (σ'.pc q) := by
        refine step_forall (fun s i s' hs hstep => ?_) hrated hstep
        obtain ⟨hsound, hhz⟩ := Pc.step_sound hs.1 hstep
        exact ⟨hsound, hhz.trans hs.2⟩
      have hnext := ih (timed_step hs (hrated q).1 hgame.1 hstep) hrated' (hgame.2 σ' hstep) hrest
      rw [List.countP_cons, Nat.add_comm (es.countP _), ← Nat.add_assoc]
      exact hnext

/-- A game that lasts is on a clock of its own ticks. -/
theorem Lasts.timed (hlasts : Lasts S es q n) (hrate : ∀ q, (S q).sysHz = h)
    (hrun : Transition.run step (init S) es = some τ) : (τ.pc q).Timed h n := by
  obtain ⟨before, since, σ₀, rfl, hbefore, ⟨main, hreset⟩, hgame, rfl⟩ := hlasts
  -- the run is cut where the game began
  obtain ⟨σ, hσ, hsince⟩ := (Transition.run_append_eq_some step).mp hrun
  cases hbefore.symm.trans hσ
  have hrated := rated_reach hrate hbefore
  have htimed := timed_run (hreset.timed (hrated q).2) hrated hgame hsince
  rwa [Nat.zero_add] at htimed

/-- **The two results.** Two connected PCs with the same clock rate have each been in a game for `n`
of their own ticks, in runs that may be of any kind and of different lengths, and their scores are
each other's. Then on their next tick both go on or both end the game, and one result is the
opposite of the other, or there is time left and both players have three goals, and each is told
that they have lost. -/
theorem results_opposite (hrate : (S .one).sysHz = (S .two).sysHz) {es : Side → List Event}
    {τ σ : Side → Session} (hrun : ∀ q, Transition.run step (init S) (es q) = some (τ q))
    (hlasts : ∀ q, Lasts S (es q) q n) (hgame : ∀ q, ((τ q).pc q).mainState = .game)
    (hscores : ((τ .two).pc .two).table.scores = ((τ .one).pc .one).table.scores.swap)
    (htick : ∀ q, (τ q).step (.interrupt q .timer) = some (σ q)) :
    ((σ .two).pc .two).mainState = ((σ .one).pc .one).mainState.opposite ∨
      (0 < ((τ .one).pc .one).timeRemaining ∧ ((τ .one).pc .one).table.scores = (3, 3)) ∧
        ∀ q, ((σ q).pc q).mainState = .lost := by
  -- each side has its own run, so each clock is followed by itself
  have hhz : ∀ q, (S q).sysHz = (S .one).sysHz := by
    intro q
    cases q with
    | one => rfl
    | two => exact hrate.symm
  have hpc : ∀ q, (σ q).pc q = ((τ q).pc q).timerInt := by
    intro q
    cases stepOf (htick q) with
    | interrupt _ _ h _ _ => exact (Option.some.inj h).symm
  have htimed : ∀ q, ((τ q).pc q).Timed (S .one).sysHz n := fun q =>
    (hlasts q).timed hhz (hrun q)
  rcases (htimed .one).decide (htimed .two) (hgame .one) (hgame .two) hscores with
    hopposite | ⟨hthree, hlost, hlost'⟩
  · left
    rw [hpc, hpc]
    exact hopposite
  · refine .inr ⟨hthree, fun q => ?_⟩
    rw [hpc]
    cases q with
    | one => exact hlost
    | two => exact hlost'

end Session

/-! ## A draw -/

/-- A standard machine with one tick a second. -/
def Setup.lazy : Setup := { Setup.standard with sysHz := 1, sysHz_pos := Nat.one_pos }

namespace Session

/-- Two hundred ticks of each PC. The first one is then a tick ahead of the second. -/
def twoHundred : Side → List Event
  | .one => (List.replicate 200 bothTick).flatten
  | .two => (List.replicate 200 bothTick).flatten ++ [.interrupt .one .timer]

/-- Nobody moves: with the tick that follows on each PC, both players are told that it is a draw. -/
theorem results_opposite_draw : ∃ τ σ : Side → Session,
    (∀ q, Transition.run step (init fun _ => Setup.lazy) (started ++ twoHundred q) = some (τ q)) ∧
    (∀ q, (τ q).step (.interrupt q .timer) = some (σ q)) ∧
      ((σ .one).pc .one).mainState = .tie ∧ ((σ .two).pc .two).mainState = .tie := by
  obtain ⟨σ₀, hreach, hgame⟩ : ∃ σ₀,
      Transition.run step (init fun _ => Setup.lazy) started = some σ₀ ∧ σ₀.InGame :=
    Transition.reaches_of_any (by decide +kernel)
  have hreset := justReset_of_started hreach (by decide) (by decide +kernel) hgame
  -- the run of each side is evaluated once, with everything that is wanted of it
  have hall : ∀ q, (Transition.run step (init fun _ => Setup.lazy) started).all (fun σ₀ =>
      decide (Transition.Along step (fun σ _ => (σ.pc q).mainState = .game) σ₀ (twoHundred q) ∧
        (Transition.run step σ₀ (twoHundred q)).any (fun τ =>
          decide (((τ.pc q).mainState = .game ∧ (τ.pc q).table.scores = (0, 0)) ∧
            (τ.step (.interrupt q .timer)).any (fun σ =>
              decide ((σ.pc q).mainState = .tie)) = true)) = true)) = true := by
    intro q
    cases q <;> decide +kernel
  have hends : ∀ q, ∃ τ σ, Transition.run step σ₀ (twoHundred q) = some τ ∧
      ((τ.pc q).mainState = .game ∧ (τ.pc q).table.scores = (0, 0)) ∧
        τ.step (.interrupt q .timer) = some σ ∧ (σ.pc q).mainState = .tie := by
    intro q
    have hq := hall q
    rw [hreach] at hq
    obtain ⟨τ, hτ, hquiet, hlast⟩ := Transition.reaches_of_any (of_decide_eq_true hq).2
    obtain ⟨σ, hσ, htie⟩ := Option.any_eq_true .. |>.mp hlast
    exact ⟨τ, σ, hτ, hquiet, hσ, of_decide_eq_true htie⟩
  choose τ σ hruns hquiet htick htie using hends
  have hruns' : ∀ q, Transition.run step (init fun _ => Setup.lazy) (started ++ twoHundred q) =
      some (τ q) := fun q => (Transition.run_append_eq_some step).mpr ⟨σ₀, hreach, hruns q⟩
  have hlasts : ∀ q, Lasts (fun _ => Setup.lazy) (started ++ twoHundred q) q 200 := by
    intro q
    have hq := hall q
    rw [hreach] at hq
    refine ⟨started, twoHundred q, σ₀, rfl, hreach, ⟨_, hreset q⟩, (of_decide_eq_true hq).1, ?_⟩
    cases q <;> decide +kernel
  refine ⟨τ, σ, hruns', htick, htie .one, ?_⟩
  have hscores : ((τ .two).pc .two).table.scores = ((τ .one).pc .one).table.scores.swap := by
    rw [(hquiet .two).2, (hquiet .one).2]
    rfl
  rcases results_opposite rfl hruns' hlasts (fun q => (hquiet q).1) hscores htick with
    hopposite | ⟨-, hlost⟩
  · rw [htie .one] at hopposite
    exact hopposite
  · have hlost₁ := hlost .one
    rw [htie .one] at hlost₁
    cases hlost₁

end Session

end AirHockey
