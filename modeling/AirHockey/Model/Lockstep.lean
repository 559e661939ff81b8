import AirHockey.Model.Mirror
import AirHockey.Model.Replica

/-! # Two PCs that tick together

A round is what happens at the two PCs between two ticks, and then a tick of each. As long as
every velocity that the main PC announces is heard before the next tick, the other PC's ball is
the image of its own: except where the ball runs into a puck on the tick itself, which only the
main PC looks at, and where the table is not the same from both sides.

The invariant is `Facing`, on two PCs after a common tick. `Facing.before_tick` carries it to the
next tick, by what every interrupt in between does to a ball (`Between`, composed over the run by
`calm_run`): the main PC tells velocities, the other one hears them, and in the end both balls
have been struck alike. `Facing.after_tick` carries it over the tick, where `Mirrors.advance` does
the work. `ball_mirrors` is the induction over rounds; `ball_not_mirrored` and
`ball_not_mirrored_wall` are the two runs for the two exceptions. -/

namespace AirHockey

/-- The velocity that a message gives the ball. -/
def Effect.speed : Effect → Option (Int × Int)
  | .ballSpeed xspeed yspeed => some (xspeed, yspeed)
  | .move _ _ => none

/-- The image of a ball that has been struck is struck the other way. -/
theorem Flight.Mirrors.struck {f g : Flight} (h : f.Mirrors g) (vs : List (Int × Int)) :
    Flight.Mirrors { f with ball := f.ball.struck vs }
      { g with ball := g.ball.struck (vs.map (- ·)) } := by
  induction vs generalizing f g with
  | nil => exact h
  | cons v vs ih =>
      exact ih (f := { f with ball := { f.ball with xspeed := v.1, yspeed := v.2 } })
        (g := { g with ball := { g.ball with xspeed := -v.1, yspeed := -v.2 } })
        ⟨h.x, h.y, rfl, rfl, h.player1, h.player2⟩

namespace Pc

/-- The velocities told since the game began. -/
def ballTold (s : Pc) : List (Int × Int) := strikes s.table.tx.thisGame

/-- The velocities heard since the game began. -/
def ballHeard (s : Pc) : List (Int × Int) := s.applied.filterMap Effect.speed

/-- What happens to the ball between two ticks: it is given the velocities `vs` that are told and
the velocities `ws` that are heard. -/
structure Between (s s' : Pc) (vs ws : List (Int × Int)) : Prop where
  told : s'.ballTold = s.ballTold ++ vs
  heard : s'.ballHeard = s.ballHeard ++ ws
  ballOfTold : ws = [] → s'.table.ball = s.table.ball.struck vs
  ballOfHeard : vs = [] → s'.table.ball = s.table.ball.struck ws
  slow : ∀ v ∈ vs, Slow v
  apart : s.table.isMainPc = false → vs = []
  role : s'.table.isMainPc = s.table.isMainPc
  scores : s'.table.scores = s.table.scores

namespace Between

/-- What leaves the ball alone. -/
theorem of_table {s s' : Pc} (htable : s'.table = s.table) (happlied : s'.applied = s.applied) :
    Between s s' [] [] where
  told := by rw [ballTold, htable, List.append_nil]; rfl
  heard := by rw [ballHeard, happlied, List.append_nil]; rfl
  ballOfTold _ := by rw [htable]; rfl
  ballOfHeard _ := by rw [htable]; rfl
  slow := nofun
  apart _ := rfl
  role := by rw [htable]
  scores := by rw [htable]

-- two stretches between the same ticks: the lists are appended, and so are the strokes
theorem trans {s t u : Pc} {vs vs' ws ws' : List (Int × Int)} (h : Between s t vs ws)
    (h' : Between t u vs' ws') : Between s u (vs ++ vs') (ws ++ ws') where
  told := by rw [h'.told, h.told, List.append_assoc]
  heard := by rw [h'.heard, h.heard, List.append_assoc]
  ballOfTold hnil := by
    obtain ⟨h₁, h₂⟩ := List.append_eq_nil_iff.mp hnil
    rw [h'.ballOfTold h₂, h.ballOfTold h₁, Sprite.struck_append]
  ballOfHeard hnil := by
    obtain ⟨h₁, h₂⟩ := List.append_eq_nil_iff.mp hnil
    rw [h'.ballOfHeard h₂, h.ballOfHeard h₁, Sprite.struck_append]
  slow v hv := (List.mem_append.mp hv).elim (h.slow v) (h'.slow v)
  apart hrole := by rw [h.apart hrole, h'.apart (h.role.trans hrole), List.append_nil]
  role := h'.role.trans h.role
  scores := h'.scores.trans h.scores

/-- A stroke of the table. -/
theorem of_struck {s s' : Pc} (hs : s.Steady) {vs : List (Int × Int)}
    (h : Table.Struck s.table s'.table vs) (heard : s'.ballHeard = s.ballHeard) :
    Between s s' vs [] where
  told := by
    rw [ballTold, thisGame_tell hs h.tx, strikes_append, strikes_ball]
    rfl
  heard := by rw [heard, List.append_nil]
  ballOfTold _ := h.ball
  ballOfHeard hnil := by
    rw [h.ball, hnil]
  slow := h.slow
  apart := h.main
  role := h.role
  scores := Prod.ext h.scores.1 h.scores.2

end Between

/-- Any interrupt other than a tick. -/
def Calm : Interrupt → Prop
  | .timer => False
  | .keyboard _ | .mouse _ | .serial _ => True

instance : DecidablePred Calm := fun i =>
  match i with
  | .timer => isFalse id
  | .keyboard _ | .mouse _ | .serial _ => isTrue trivial

/-- **An interrupt between two ticks**, after which the game goes on. -/
theorem Between.handle {s s' : Pc} (hs : s.Steady) (hgame : s.mainState = .game) {i : Interrupt}
    (hcalm : Calm i) (hstep : s.handle i = some s') (hgame' : s'.mainState = .game) :
    ∃ vs ws, Between s s' vs ws := by
  cases i with
  | timer => cases hcalm
  | keyboard reads =>
      rcases keyboardInt_game hgame hstep with ⟨h, -⟩ | ⟨-, hleft⟩
      · exact ⟨[], [], .of_table h.table h.applied⟩
      · simp [hleft] at hgame'
  | mouse reads =>
      cases hstep
      obtain ⟨vs, hstruck⟩ := mouseInt_struck hs.idle reads
      refine ⟨vs, [], .of_struck hs hstruck ?_⟩
      obtain ⟨_, _, _, _, _, heq⟩ := mouseInt_eq reads s
      rw [heq]
      rfl
  | serial iir =>
      cases hstep
      have houtcome := spInt_outcome hs.sound iir
      generalize s.spInt iir = s' at houtcome
      cases houtcome with
      | idle r => exact ⟨[], [], .of_table rfl rfl⟩
      | start r hmode => simp [hgame] at hmode
      | leave r _ => exact ⟨[], [], .of_table rfl rfl⟩
      | payload r e _ _ =>
          -- of what a PC hears only a ball message counts as heard of the ball
          cases e with
          | move x y =>
              obtain ⟨vs, hstruck⟩ := Table.move_puck_struck hs.idle (.inl rfl) x y
              refine ⟨vs, [], .of_struck hs hstruck ?_⟩
              show (s.applied ++ [Effect.move x y]).filterMap Effect.speed = _
              rw [List.filterMap_append]
              exact List.append_nil _
          | ballSpeed xspeed yspeed =>
              refine ⟨[], [(xspeed, yspeed)], ?_⟩
              refine ⟨(List.append_nil _).symm, ?_, nofun, fun _ => rfl, nofun, fun _ => rfl, rfl,
                rfl⟩
              show (s.applied ++ [Effect.ballSpeed xspeed yspeed]).filterMap Effect.speed = _
              rw [List.filterMap_append]
              rfl

/-- **A tick on which the ball runs into no puck.** -/
theorem timerInt_flight {s : Pc} (hs : s.Steady) (hgame : s.mainState = .game)
    (hmiss : s.table.ballHits = false) :
    s.timerInt.table.flight = s.table.flight.advance ∧ s.timerInt.ballTold = s.ballTold ∧
      s.timerInt.ballHeard = s.ballHeard ∧ s.timerInt.table.isMainPc = s.table.isMainPc := by
  -- the tick is seen through the machine of the ball, and through the bookkeeping of the pucks
  have hfollows := timerInt_follows hgame hmiss
  obtain ⟨ds, vs, htick⟩ := timerInt_game hs.idle hgame
  have hflight := congrArg Match.flight hfollows.shown
  refine ⟨hflight, ?_, ?_, htick.role⟩
  · have hds := strikes_of_puckTold htick.told
    have hhistory : s.timerInt.table.tx.history =
        s.table.tx.history ++ (ds ++ ballMessages vs) := by
      rw [htick.tx]
      rfl
    have hsilent := hfollows.silent
    rw [hhistory, strikes_append] at hsilent
    rw [ballTold, thisGame_tell hs htick.tx, strikes_append,
      List.self_eq_append_right.mp hsilent.symm, List.append_nil]
    rfl
  · rw [ballHeard, htick.applied]
    rfl

end Pc

namespace Session

/-! ## Rounds -/

def bothTick : List Event := [.interrupt .one .timer, .interrupt .two .timer]

/-- What happens between two ticks, and the ticks. -/
def round (σ : Session) (es : List Event) : Option Session :=
  Transition.run step σ (es ++ bothTick)

/-- Both PCs are in a game. -/
def InGame (σ : Session) : Prop := (σ.pc .one).mainState = .game ∧ (σ.pc .two).mainState = .game

theorem InGame.at {σ : Session} (h : σ.InGame) (p : Side) : (σ.pc p).mainState = .game := by
  cases p with
  | one => exact h.1
  | two => exact h.2

/-- An event of a game between two ticks. -/
def CalmEvent (σ : Session) (e : Event) : Prop :=
  σ.InGame ∧
    match e with
    | .interrupt _ i => Pc.Calm i
    | .deliver _ => True

/-- `p` has heard what the other PC has told of the ball. -/
def Hears (σ : Session) (p : Side) : Prop :=
  (σ.pc p).ballHeard = (σ.pc p.other).ballTold.map (- ·)

/-- Both PCs are about to tick in a game, and everything that has been told of the ball has been
heard. -/
structure Caught (σ : Session) : Prop where
  game : σ.InGame
  one : σ.Hears .one
  two : σ.Hears .two

theorem Caught.at {σ : Session} (h : σ.Caught) (p : Side) : σ.Hears p := by
  cases p with
  | one => exact h.one
  | two => exact h.two

/-- On the tick the ball of `p` runs into no puck, and into no wall or goal that is not there on the
-- decided before the tick: the tests are those of the move that is about to come
other side. -/
structure Even (p : Side) (σ : Session) : Prop where
  miss : (σ.pc p).table.ballHits = false
  court : (σ.pc p).table.ball.xspeed ≠ 0 ∨ (σ.pc p).table.ball.yspeed ≠ 0 →
    CourtAgrees ((σ.pc p).table.ball.x + (σ.pc p).table.ball.xspeed)
      ((σ.pc p).table.ball.y - (σ.pc p).table.ball.yspeed)

/-- The round is one of a game over a link that keeps up. -/
def Common (σ : Session) (es : List Event) : Prop :=
  Transition.Along step CalmEvent σ es ∧ ∀ τ ∈ Transition.run step σ es, τ.Caught

def EvenRound (p : Side) (σ : Session) (es : List Event) : Prop :=
  ∀ τ ∈ Transition.run step σ es, τ.Even p

/-! These can be decided of a state. -/

instance : DecidablePred InGame := fun _ => inferInstanceAs (Decidable (_ ∧ _))

instance (σ : Session) : DecidablePred σ.Hears := fun _ => inferInstanceAs (Decidable (_ = _))

instance (σ : Session) : DecidablePred σ.CalmEvent := fun e =>
  match e with
  | .interrupt _ i => inferInstanceAs (Decidable (σ.InGame ∧ Pc.Calm i))
  | .deliver _ => inferInstanceAs (Decidable (σ.InGame ∧ True))

instance : DecidablePred Caught := fun σ =>
  decidable_of_iff (σ.InGame ∧ σ.Hears .one ∧ σ.Hears .two)
    ⟨fun h => ⟨h.1, h.2.1, h.2.2⟩, fun h => ⟨h.game, h.one, h.two⟩⟩

instance (p : Side) : DecidablePred (Even p) := fun _ =>
  decidable_of_iff (_ ∧ _) ⟨fun h => ⟨h.1, h.2⟩, fun h => ⟨h.miss, h.court⟩⟩

instance (σ : Session) : DecidablePred σ.Common := fun _ => inferInstanceAs (Decidable (_ ∧ _))

instance (p : Side) (σ : Session) : DecidablePred (σ.EvenRound p) := fun es =>
  inferInstanceAs (Decidable (∀ τ ∈ Transition.run step σ es, τ.Even p))

/-! ## Between two ticks -/

/-- One event between two ticks, at each of the two PCs. -/
theorem calm_step {σ σ' : Session} {e : Event} (hs : ∀ p, (σ.pc p).Steady) (hcalm : σ.CalmEvent e)
    (hstep : σ.step e = some σ') (hgame' : σ'.InGame) (p : Side) :
    ∃ vs ws, (σ.pc p).Between (σ'.pc p) vs ws := by
  obtain ⟨hgame, hcalm⟩ := hcalm
  cases stepOf hstep with
  | interrupt q i hpc hother _ =>
      rcases q.eq_or_other p with rfl | rfl
      · exact Pc.Between.handle (hs p) (hgame.at p) hcalm hpc (hgame'.at p)
      · exact ⟨[], [], .of_table (by rw [hother]) (by rw [hother])⟩
  | deliver q b _ hpc hother _ _ =>
      rcases q.eq_or_other p with rfl | rfl
      · exact ⟨[], [], .of_table (by rw [hpc]; rfl) (by rw [hpc]; rfl)⟩
      · exact ⟨[], [], .of_table (by rw [hother]) (by rw [hother])⟩

/-- … and all of them, if the game still goes on in the end. -/
theorem calm_run {σ τ : Session} {es : List Event} (hs : ∀ p, (σ.pc p).Steady)
    (hcalm : Transition.Along step CalmEvent σ es) (hrun : Transition.run step σ es = some τ)
    (hgame : τ.InGame) :
    (∀ p, (τ.pc p).Steady) ∧ ∀ p, ∃ vs ws, (σ.pc p).Between (τ.pc p) vs ws := by
  -- the game goes on after each event but the last by `CalmEvent`, and after the last by assumption
  have hinv := Transition.invariant_along
    (fun τ : Session => (∀ p, (τ.pc p).Steady) ∧
      (τ.InGame → ∀ p, ∃ vs ws, (σ.pc p).Between (τ.pc p) vs ws))
    ?_ ⟨hs, fun _ p => ⟨[], [], .of_table rfl rfl⟩⟩ hcalm hrun
  · exact ⟨hinv.1, hinv.2 hgame⟩
  rintro τ e τ' ⟨hs, hbetween⟩ hcalm hstep
  refine ⟨steady_step hs hstep, fun hgame' p => ?_⟩
  obtain ⟨vs, ws, h⟩ := hbetween hcalm.1 p
  obtain ⟨vs', ws', h'⟩ := calm_step hs hcalm hstep hgame' p
  exact ⟨_, _, h.trans h'⟩

/-- The ticks are independent of each other. -/
theorem pc_bothTick {τ σ' : Session} (h : Transition.run step τ bothTick = some σ') (p : Side) :
    σ'.pc p = (τ.pc p).timerInt := by
  obtain ⟨τ₁, h₁, h⟩ := (Transition.run_cons_eq_some step).mp h
  obtain ⟨τ₂, h₂, h⟩ := (Transition.run_cons_eq_some step).mp h
  cases h
  cases stepOf h₁ with
  | interrupt _ _ hone hother _ =>
      cases stepOf h₂ with
      | interrupt _ _ htwo hother' _ =>
          have hone' := Option.some.inj hone
          have htwo' := Option.some.inj htwo
          cases p with
          | one =>
              have hkeep : σ'.pc .one = τ₁.pc .one := hother'
              rw [hkeep, ← hone']
          | two =>
              have hkeep : τ₁.pc .two = τ.pc .two := hother
              rw [← htwo', hkeep]

/-- Two PCs after a common tick, `p` being the main one. -/
structure Facing (p : Side) (σ : Session) : Prop where
  steady : ∀ q, (σ.pc q).Steady
  main : (σ.pc p).table.isMainPc = true
  guest : (σ.pc p.other).table.isMainPc = false
  slow : Slow (σ.pc p).table.ball.velocity
  mainHeard : (σ.pc p).ballHeard = []
  guestTold : (σ.pc p.other).ballTold = []
  heard : σ.Hears p.other
  mirrors : (σ.pc p).table.flight.Mirrors (σ.pc p.other).table.flight

/-- Until the next tick the velocity that one PC sees is the image of the other's. -/
theorem Facing.before_tick {p : Side} {σ τ : Session} (h : σ.Facing p) (hcaught : τ.Caught)
    (hsteady : ∀ q, (τ.pc q).Steady)
    (hbetween : ∀ q, ∃ vs ws, (σ.pc q).Between (τ.pc q) vs ws) : τ.Facing p := by
  obtain ⟨vs, ws, hmain⟩ := hbetween p
  obtain ⟨vs', ws', hguest⟩ := hbetween p.other
  -- the guest strikes no ball, so that the main PC has nothing to hear
  have hquiet : vs' = [] := hguest.apart h.guest
  have htold : (τ.pc p.other).ballTold = [] := by rw [hguest.told, h.guestTold, hquiet]; rfl
  have hheard : (τ.pc p).ballHeard = [] := by
    have hback : (τ.pc p).ballHeard = (τ.pc p.other).ballTold.map (- ·) := hcaught.at p
    rwa [htold] at hback
  have hdeaf : ws = [] := by
    rw [hmain.heard, h.mainHeard] at hheard
    exact hheard
  -- what has been told in the meantime has been heard in the meantime
  have hnews : ws' = vs.map (- ·) := by
    have hbefore : (σ.pc p.other).ballHeard = (σ.pc p.other.other).ballTold.map (- ·) := h.heard
    have hforth : (τ.pc p.other).ballHeard = (τ.pc p.other.other).ballTold.map (- ·) :=
      hcaught.at p.other
    rw [Side.other_other] at hbefore hforth
    rw [hguest.heard, hmain.told, hbefore, List.map_append] at hforth
    exact List.append_cancel_left hforth
  -- the same strokes on both sides, in the same order
  have hball := hmain.ballOfTold hdeaf
  have hball' := hguest.ballOfHeard hquiet
  refine ⟨hsteady, hmain.role.trans h.main, hguest.role.trans h.guest, ?_, hheard, htold,
    hcaught.at p.other, ?_⟩
  · rw [hball]
    exact Sprite.velocity_struck h.slow hmain.slow
  · have hflight : (τ.pc p).table.flight =
        { (σ.pc p).table.flight with ball := (σ.pc p).table.ball.struck vs } := by
      obtain ⟨h₁, h₂⟩ := Prod.mk.inj hmain.scores
      rw [Table.flight, hball, h₁, h₂]
      rfl
    have hflight' : (τ.pc p.other).table.flight =
        { (σ.pc p.other).table.flight with
          ball := (σ.pc p.other).table.ball.struck (vs.map (- ·)) } := by
      obtain ⟨h₁, h₂⟩ := Prod.mk.inj hguest.scores
      rw [Table.flight, hball', h₁, h₂, hnews]
      rfl
    rw [hflight, hflight']
    exact h.mirrors.struck vs

/-- **The tick.** -/
theorem Facing.after_tick {p : Side} {τ σ' : Session} (h : τ.Facing p)
    (hgame : τ.InGame) (heven : τ.Even p) (hsteady : ∀ q, (σ'.pc q).Steady)
    (htick : ∀ q, σ'.pc q = (τ.pc q).timerInt) : σ'.Facing p := by
  -- the main PC's ball runs into no puck by assumption, the other one's never does
  obtain ⟨hflight, htold, hheard, hrole⟩ := Pc.timerInt_flight (h.steady p) (hgame.at p) heven.miss
  obtain ⟨hflight', htold', hheard', hrole'⟩ := Pc.timerInt_flight (h.steady p.other)
    (hgame.at p.other) (Table.ballHits_apart h.guest)
  have hball : (τ.pc p).table.ball.Inside 50 50 := (h.steady p).confined .ball
  have hball' : (τ.pc p.other).table.ball.Inside 50 50 := (h.steady p.other).confined .ball
  refine ⟨hsteady, ?_, ?_, ?_, ?_, ?_, ?_, ?_⟩
  · rw [htick, hrole, h.main]
  · rw [htick, hrole', h.guest]
  -- the speed limit holds after the tick, whatever the ball has run into
  · obtain ⟨ds, vs, hstep⟩ := Pc.timerInt_game (h.steady p).idle (hgame.at p)
    rw [htick]
    exact (hstep.slow h.slow).1
  · rw [htick, hheard, h.mainHeard]
  · rw [htick, htold', h.guestTold]
  · have hbefore : (τ.pc p.other).ballHeard = (τ.pc p.other.other).ballTold.map (- ·) := h.heard
    rw [Side.other_other] at hbefore
    show (σ'.pc p.other).ballHeard = (σ'.pc p.other.other).ballTold.map (- ·)
    rw [Side.other_other, htick, htick, hheard', htold, hbefore]
  · rw [htick, htick, hflight, hflight']
    exact h.mirrors.advance ⟨hball.width_eq, hball.height_eq⟩ ⟨hball'.width_eq, hball'.height_eq⟩
      h.slow heven.court

/-- **One round.** -/
theorem Facing.round {p : Side} {σ σ' : Session} {es : List Event} (h : σ.Facing p)
    (hcommon : σ.Common es) (heven : σ.EvenRound p es) (hround : σ.round es = some σ') :
    σ'.Facing p := by
  obtain ⟨τ, hτ, hticks⟩ := (Transition.run_append_eq_some step).mp hround
  have hcaught := hcommon.2 τ hτ
  obtain ⟨hsteady, hbetween⟩ := calm_run h.steady hcommon.1 hτ hcaught.game
  have hbefore := h.before_tick hcaught hsteady hbetween
  have hsteady' := run_forall (fun _ _ _ h hstep => Pc.Steady.step h hstep) hsteady hticks
  exact hbefore.after_tick hcaught.game (heven τ hτ) hsteady' (pc_bothTick hticks)

end Session

/-! ## The start of a game -/

namespace Pc

theorem JustReset.silent {main : Bool} {s : Pc} (h : s.JustReset main) :
    s.ballHeard = [] ∧ s.ballTold = [] := by
  obtain ⟨-, t, -, h⟩ := h
  rw [ballHeard, ballTold, h.table, h.applied]
  refine ⟨rfl, ?_⟩
  show strikes t.table.reset.tx.thisGame = []
  rw [Table.thisGame_reset]
  rfl

end Pc

namespace Session

/-- A step with which `p` enters a game. -/
theorem justReset_of_enters {σ σ' : Session} {e : Event} {p : Side} (hstep : σ.step e = some σ')
    (hgame : (σ.pc p).mainState ≠ .game) (hgame' : (σ'.pc p).mainState = .game) :
    (σ'.pc p).JustReset (σ'.pc p).table.isMainPc := by
  cases stepOf hstep with
  | interrupt q i hpc hother _ =>
      rcases q.eq_or_other p with rfl | rfl
      · exact Pc.justReset_of_enters (i := .interrupt i) hpc hgame hgame'
      · exact absurd (hother ▸ hgame') hgame
  | deliver q b _ hpc hother _ _ =>
      rcases q.eq_or_other p with rfl | rfl
      · rw [hpc] at hgame'
        exact absurd hgame' hgame
      · exact absurd (hother ▸ hgame') hgame

/-- Two PCs that begin a game face each other. -/
theorem facing_of_reset {p : Side} {σ : Session} (hs : ∀ q, (σ.pc q).Steady)
    (hmain : (σ.pc p).JustReset true) (hguest : (σ.pc p.other).JustReset false) : σ.Facing p := by
  obtain ⟨hheard, htold⟩ := hmain.silent
  obtain ⟨hheard', htold'⟩ := hguest.silent
  obtain ⟨-, t, hrole, ht⟩ := hmain
  obtain ⟨-, t', hrole', ht'⟩ := hguest
  refine ⟨hs, by rw [ht.table]; exact hrole, by rw [ht'.table]; exact hrole', ?_, hheard, htold',
    ?_, ?_⟩
  · rw [ht.table]
    show Slow (0, 0)
    simp [Slow]
  · show (σ.pc p.other).ballHeard = (σ.pc p.other.other).ballTold.map (- ·)
    rw [Side.other_other, hheard', htold]
    rfl
  · rw [ht.table, ht'.table]
    exact ⟨rfl, rfl, rfl, rfl, rfl, rfl⟩

/-- **Both players see the same ball**, after every common tick, as long as on no tick the main PC's
ball runs into a puck, or into a wall or a goal that is not there on the other side. -/
theorem ball_mirrors {S : Side → Setup} (hS : ∀ q, (S q).Healthy) {es₀ : List Event}
    {σ₀ σ : Session} {p : Side} (hreach : Transition.run step (init S) es₀ = some σ₀)
    (hmain : (σ₀.pc p).JustReset true) (hguest : (σ₀.pc p.other).JustReset false)
    {rounds : List (List Event)}
    (hok : Transition.Along round (fun σ es => σ.Common es ∧ σ.EvenRound p es) σ₀ rounds)
    (hrun : Transition.run round σ₀ rounds = some σ) :
    (σ.pc p).table.flight.Mirrors (σ.pc p.other).table.flight := by
  have hfacing := Transition.invariant_along (Facing p)
    (fun _ _ _ h hok hs => h.round hok.1 hok.2 hs)
    (facing_of_reset (steady_reach hS hreach) hmain hguest) hok hrun
  exact hfacing.mirrors

/-! ## A game of two standard machines -/

theorem deliver_other {σ σ' : Session} {p : Side} {n : Nat}
    (h : Transition.run step σ (deliver p n) = some σ') : σ'.pc p.other = σ.pc p.other := by
  induction n generalizing σ with
  | zero => cases h; rfl
  | succ n ih =>
      obtain ⟨τ, hfirst, hrest⟩ := (Transition.run_cons_eq_some step).mp h
      cases stepOf hfirst with
      | deliver _ _ _ _ hother _ _ => exact (ih hrest).trans hother

/-- The first PC presses Play and the second one follows, from any two states in which they do. -/
theorem justReset_of_started {σ₁ σ : Session} (h : Transition.run step σ₁ started = some σ)
    (hmenu : (σ₁.pc .one).mainState ≠ .game)
    (hwaits : ∀ σ ∈ Transition.run step σ₁ playPressed, (σ.pc .two).mainState ≠ .game)
    (hgame : σ.InGame) : ∀ q, (σ.pc q).JustReset (σ.pc q).table.isMainPc := by
  -- the key, its word on the link, and the word read
  obtain ⟨σ₃, hplayed, hserve⟩ := (Transition.run_append_eq_some step).mp h
  obtain ⟨σ₂, hplay, hdeliver⟩ := (Transition.run_append_eq_some step).mp hplayed
  rw [serve, Transition.run_singleton] at hserve
  have hkey : step σ₁ (.interrupt .one (.keyboard [⟨some kbcObf, some spaceBreakCode⟩])) =
      some σ₂ := by
    rw [← Transition.run_singleton step]
    exact hplay
  have hstill : σ.pc .one = σ₂.pc .one := by
    rw [← show σ₃.pc .one = σ₂.pc .one from deliver_other hdeliver]
    cases stepOf hserve with
    | interrupt _ _ _ hother _ => exact hother
  intro q
  cases q with
  | one =>
      rw [hstill]
      exact justReset_of_enters hkey hmenu (hstill ▸ hgame.1)
  | two => exact justReset_of_enters hserve (hwaits σ₃ hplayed) hgame.2

/-- Two standard machines begin a game, the first one as the main PC. -/
theorem justReset_started {σ : Session} (h : Transition.run step standard started = some σ) :
    (σ.pc .one).JustReset true ∧ (σ.pc .two).JustReset false := by
  have hroles : ∀ σ ∈ Transition.run step standard started, σ.InGame ∧
      (σ.pc .one).table.isMainPc = true ∧ (σ.pc .two).table.isMainPc = false := by
    decide +kernel
  obtain ⟨hgame, hmain, hguest⟩ := hroles σ h
  have hreset := justReset_of_started h nofun (by decide +kernel) hgame
  rw [← hmain, ← hguest]
  exact ⟨hreset .one, hreset .two⟩

/-- The main player pushes the ball, and the other PC hears of it in time. -/
def pushHeard : List Event :=
  happens .one (mousePacket 0x09 0 0xFF ++ mousePacket 0x09 0 30) ++ deliver .two 4 ++ serve .two

/-- The ball has been pushed, and both PCs have moved it three times. -/
theorem ball_mirrors_pushed : ∃ σ₀ σ, Transition.run step standard started = some σ₀ ∧
    Transition.run round σ₀ [pushHeard, [], []] = some σ ∧ (σ.pc .one).table.ball.y = 386 ∧
      (σ.pc .one).table.flight.Mirrors (σ.pc .two).table.flight := by
  -- the roles, the rounds and the place of the ball are all read off one computation
  obtain ⟨σ₀, hreach, hok, hpushed⟩ : ∃ σ₀, Transition.run step standard started = some σ₀ ∧
      Transition.Along round (fun σ es => σ.Common es ∧ σ.EvenRound .one es) σ₀
          [pushHeard, [], []] ∧
        (Transition.run round σ₀ [pushHeard, [], []]).any
          (fun σ => decide ((σ.pc .one).table.ball.y = 386)) = true :=
    Transition.reaches_of_any (by decide +kernel)
  obtain ⟨σ, hrun, hball⟩ := Transition.reaches_of_any hpushed
  obtain ⟨hmain, hguest⟩ := justReset_started hreach
  exact ⟨σ₀, σ, hreach, hrun, hball,
    ball_mirrors (fun _ => Setup.standard_healthy) hreach hmain hguest hok hrun⟩

/-- A run of common rounds after which the other ball is not the image. -/
theorem not_mirrors_of_any {rounds : List (List Event)}
    (h : (Transition.run step standard started).any (fun σ₀ =>
      decide (Transition.Along round Common σ₀ rounds ∧ ∃ σ ∈ Transition.run round σ₀ rounds,
        ¬(σ.pc .one).table.flight.Mirrors (σ.pc .two).table.flight)) = true) :
    ∃ σ₀ σ, Transition.run step standard started = some σ₀ ∧
      (σ₀.pc .one).JustReset true ∧ (σ₀.pc .two).JustReset false ∧
      Transition.Along round Common σ₀ rounds ∧ Transition.run round σ₀ rounds = some σ ∧
        ¬(σ.pc .one).table.flight.Mirrors (σ.pc .two).table.flight := by
  obtain ⟨σ₀, hreach, hcommon, σ, hrun, hnot⟩ := Transition.reaches_of_any h
  obtain ⟨hmain, hguest⟩ := justReset_started hreach
  exact ⟨σ₀, σ, hreach, hmain, hguest, hcommon, hrun, hnot⟩

/-- The pushed ball runs into the red puck: the main PC leaves it at `y = 138` on this tick, and the
other PC moves its own. -/
theorem ball_not_mirrored : ∃ σ₀ σ, Transition.run step standard started = some σ₀ ∧
    (σ₀.pc .one).JustReset true ∧ (σ₀.pc .two).JustReset false ∧
    Transition.Along round Common σ₀ (pushHeard :: List.replicate 34 []) ∧
    Transition.run round σ₀ (pushHeard :: List.replicate 34 []) = some σ ∧
      ¬(σ.pc .one).table.flight.Mirrors (σ.pc .two).table.flight :=
  not_mirrors_of_any (by decide +kernel)

/-- The main player goes round the ball and nudges it from the left. -/
def nudgeHeard : List Event :=
  happens .one (mousePacket 0x19 0x60 0 ++ mousePacket 0x09 0 0xFF ++ mousePacket 0x09 0 0xFF ++
    mousePacket 0x09 102 0 ++ mousePacket 0x09 3 0 ++ mousePacket 0x09 3 0) ++
    deliver .two 4 ++ serve .two

/-- The nudged ball comes to `x = 829` and is not behind the right wall, but its image is behind the
left one. -/
theorem ball_not_mirrored_wall : ∃ σ₀ σ, Transition.run step standard started = some σ₀ ∧
    (σ₀.pc .one).JustReset true ∧ (σ₀.pc .two).JustReset false ∧
    Transition.Along round Common σ₀ (nudgeHeard :: List.replicate 92 []) ∧
    Transition.run round σ₀ (nudgeHeard :: List.replicate 92 []) = some σ ∧
      ¬(σ.pc .one).table.flight.Mirrors (σ.pc .two).table.flight :=
  not_mirrors_of_any (by decide +kernel)

end Session

end AirHockey
