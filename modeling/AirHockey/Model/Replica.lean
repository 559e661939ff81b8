import AirHockey.Lib.Travel
import AirHockey.Model.Pucks
import AirHockey.Model.Standard

/-! # The other player's puck

A PC tells how far its puck has come, and the other one moves the red puck the opposite way. The
red puck is the image of the blue one under the point reflection of the table, as long as the
receiver carries every displacement out.

Both pucks make a journey from where a game puts them: one by what has been told, the other by
what has been heard. `Tracks` says of one PC that its journeys lead through admissible places and
that the red puck is where its journey leads; `Tracks.handle` is the step lemma, over the courses
an interrupt can take (`Pc.handle_course`). `redpuck_mirrors` compares the two journeys when
everything told has been heard: one is the reflection of the other (`travel_reflect`). The
constants of the two halves do not match, and on the main PC the ball may be in the way: the two
runs of `redpuck_lags`. -/

namespace AirHockey

open Travel

/-! ## A displacement that is carried out -/

/-- The places of a blue puck whose image a red puck can be moved to. -/
def Reflects (place : Int × Int) : Prop := place.1 ≤ 797 ∧ 433 ≤ place.2

/-- The places that a red puck can be moved to. -/
def OnRedSide (place : Int × Int) : Prop :=
  273 ≤ place.1 ∧ place.1 ≤ 799 ∧ 21 ≤ place.2 ∧ place.2 ≤ 352

namespace Pc

/-- A displacement that is decoded on the main PC moves the red puck past the ball. -/
def RedFree (iir : Option UInt8) (s : Pc) : Prop :=
  match s.nextItem iir with
  | some (.payload (.move x y)) =>
    s.mainState = .game → s.table.isMainPc = true →
      detectCollision s.table.redpuck (s.table.redpuck.x + x) (s.table.redpuck.y - y) s.table.ball
        s.table.bytesPerPixel = false
  | _ => True

/-- A place that is about to be told has an image on the other side, and a displacement that is
about to be carried out does not run into the ball. -/
def Unobstructed (i : Interrupt) (s : Pc) : Prop :=
  match i with
  | .timer => s.mainState = .game → (s.puckTransmit + 1) % 2 ^ 32 = 2 → Reflects s.blue
  | .serial iir => s.RedFree iir
  | .keyboard _ | .mouse _ => True

/-- Past walls, middle line and ball, the red puck goes where it is told to. -/
theorem move_redpuck {t : Table} (ht : t.Confined) {x y : Int} (hx : int16 x = x) (hy : int16 y = y)
    (hside : t.redpuck.y < middleField)
    (hplace : OnRedSide (t.redpuck.x + x, t.redpuck.y - y))
    (hball : t.isMainPc = true →
      detectCollision t.redpuck (t.redpuck.x + x) (t.redpuck.y - y) t.ball
      t.bytesPerPixel = false) :
    (t.move .redpuck x y 2).redpuck.x = t.redpuck.x + x ∧
      (t.move .redpuck x y 2).redpuck.y = t.redpuck.y - y := by
  have hpuck : t.redpuck.Inside 80 80 := ht .redpuck
  obtain ⟨hw, hh, -⟩ := hpuck
  obtain ⟨hleft, hright, htop, hbottom⟩ := hplace
  dsimp only at hleft hright htop hbottom
  generalize ht' : t.move .redpuck x y 2 = t'
  have hmove := Table.move_puck (by decide) ht'
  rw [hx, hy] at hmove
  have hred : t.get .redpuck = t.redpuck := rfl
  cases hmove with
  -- an admissible place is not at a wall
  | wall hwall =>
      rw [hred] at hwall
      simp only [detectWallCollision, wallInfo, Bool.or_eq_true, decide_eq_true_eq, hw, hh] at hwall
      unfold horizontalStart horizontalEnd verticalStart verticalEnd at hwall
      omega
  -- nor across the middle line, since the puck is on its own side
  | middle _ hmiddle =>
      rw [hred, detectMiddleFieldCollision, if_pos hside] at hmiddle
      unfold middleField at hmiddle
      split at hmiddle
      · cases hmiddle
      · have := of_decide_eq_true hmiddle
        omega
  -- and there is no ball on the main PC; elsewhere nothing is tested
  | hit _ _ hmain hhit =>
      rw [hred, hball hmain] at hhit
      cases hhit
  | free _ _ _ => exact ⟨rfl, rfl⟩

/-- The two journeys of a game: every place that has been told has an image; and if what has been
heard leads through places that the red puck can be moved to, it is where they lead. -/
structure Tracks (s : Pc) : Prop where
  reflects : s.mainState = .game → ∀ place ∈ stops (535, 730) s.told,
    Reflects place ∧ 273 ≤ place.1 ∧ place.2 ≤ 763
  heard : s.mainState = .game → (∀ place ∈ stops (535, 55) s.heard, OnRedSide place) →
    s.red = travel (535, 55) s.heard

/-- A PC outside a game has no journey to keep to. -/
theorem Tracks.of_away {s : Pc} (h : s.mainState ≠ .game) : s.Tracks :=
  ⟨fun hgame => absurd hgame h, fun hgame => absurd hgame h⟩

theorem Tracks.of_fresh {s : Pc} (htold : s.told = []) (hheard : s.heard = [])
    (hred : s.red = (535, 55)) : s.Tracks := by
  refine ⟨fun _ => ?_, fun _ _ => ?_⟩
  · rw [htold]
    simp
  · rw [hheard, travel_nil, hred]

/-- **One step of the journeys.** -/
theorem Tracks.handle {s s' : Pc} (h : s.Tracks) (hrecorded : s.Recorded) (hs : s.Steady)
    {i : Interrupt} (hok : s.Unobstructed i) (hstep : s.handle i = some s') : s'.Tracks := by
  cases (handle_course hs hstep).1 with
  | away hmode => exact .of_away hmode
  | fresh _ htold hheard hred => exact .of_fresh htold hheard hred
  | stay hmode _ htold hheard hred =>
      refine ⟨fun _ => ?_, fun _ => ?_⟩
      · rw [htold]
        exact h.reflects hmode
      · rw [hheard, hred]
        exact h.heard hmode
  | tell htimer hdue hmode _ htold hheard hred =>
      subst htimer
      have hpuck : s.table.bluepuck.Inside 80 80 := hs.confined .bluepuck
      have hstop : travel (535, 730) s.told + (s.blue - s.previous) = s.blue := by
        rw [← hrecorded hmode, add_sub_cancel]
      refine ⟨fun _ => ?_, fun _ => ?_⟩
      · rw [htold, forall_stops_concat, hstop]
        exact ⟨h.reflects hmode, hok hmode hdue, hpuck.left, hpuck.place.2.2.2⟩
      · rw [hheard, hred]
        exact h.heard hmode
  | hear iir hserial x y hitem hmode _ htold hheard hred =>
      subst hserial
      refine ⟨fun _ => ?_, fun _ hstops => ?_⟩
      · rw [htold]
        exact h.reflects hmode
      · rw [hheard, forall_stops_concat] at hstops
        obtain ⟨hearlier, hplace⟩ := hstops
        have hhere := h.heard hmode hearlier
        obtain ⟨⟨item, rest⟩, hsplit, hitem'⟩ := Option.map_eq_some_iff.mp hitem
        obtain rfl : item = .payload (.move x y) := hitem'
        obtain ⟨hx, hy⟩ := splitGame_range hsplit
        have hside : s.table.redpuck.y < middleField := by
          have hy : s.table.redpuck.y = (travel ((535, 55) : Int × Int) s.heard).2 :=
            congrArg Prod.snd hhere
          unfold middleField
          rcases travel_eq_or_mem ((535, 55) : Int × Int) s.heard with hstart | hmem
          · rw [hy, hstart]
            decide
          · have := (hearlier _ hmem).2.2.2
            omega
        have hfree : s.RedFree iir := hok
        rw [RedFree, hitem] at hfree
        rw [← hhere] at hplace
        obtain ⟨hredx, hredy⟩ := move_redpuck hs.confined hx hy hside hplace (hfree hmode)
        rw [hred, hredx, hredy, hheard, travel_concat, ← hhere]
        rfl

theorem Tracks.arrive {s : Pc} (h : s.Tracks) (slots : List RxSlot) : (s.receive slots).Tracks :=
  ⟨h.reflects, h.heard⟩

end Pc

namespace Session

/-- Nothing stands in the way of either red puck. -/
def Unobstructed (σ : Session) : Event → Prop
  | .interrupt p i => (σ.pc p).Unobstructed i
  | .deliver _ => True

theorem tracks_step {σ σ' : Session} {e : Event} (hsteady : ∀ p, (σ.pc p).Steady)
    (hrecorded : ∀ p, (σ.pc p).Recorded) (h : ∀ p, (σ.pc p).Tracks) (hok : σ.Unobstructed e)
    (hs : σ.step e = some σ') (p : Side) :
    (σ'.pc p).Tracks := by
  cases stepOf hs with
  | interrupt q i hpc hother _ =>
      rcases q.eq_or_other p with rfl | rfl
      · exact (h p).handle (hrecorded p) (hsteady p) hok hpc
      · rw [hother]
        exact h q.other
  | deliver q b _ hpc hother _ _ =>
      rcases q.eq_or_other p with rfl | rfl
      · rw [hpc]
        exact (h p).arrive _
      · rw [hother]
        exact h q.other

theorem steady_step {σ σ' : Session} {e : Event} (hs : ∀ p, (σ.pc p).Steady)
    (hstep : σ.step e = some σ') : ∀ p, (σ'.pc p).Steady :=
  step_forall (fun _ _ _ h hstep => Pc.Steady.step h hstep) hs hstep

theorem steady_reach {S : Side → Setup} (hS : ∀ p, (S p).Healthy) {es : List Event} {σ : Session}
    (hreach : Transition.run step (init S) es = some σ) : ∀ p, (σ.pc p).Steady := by
  refine run_forall (fun _ _ _ h hstep => Pc.Steady.step h hstep) (fun p => ?_) hreach
  rw [pc_init]
  exact steady_init (hS p).slots

/-- At the start one PC has just begun its game, and the other one is still in the menu. -/
theorem tracks_start {σ₁ σ₀ : Session} {p : Side} {reads : List KbcRead}
    (hsteady : ∀ q, (σ₁.pc q).Steady) (hmenu : ∀ q, (σ₁.pc q).mainState = .mainMenu)
    (hplay : σ₁.step (.interrupt p (.keyboard reads)) = some σ₀) (q : Side) :
    (σ₀.pc q).Recorded ∧ (σ₀.pc q).Tracks := by
  cases stepOf hplay with
  | interrupt _ _ hpc hother _ =>
      rcases p.eq_or_other q with rfl | rfl
      · have hmode := hmenu q
        have haway : (σ₁.pc q).Recorded := fun hgame => by simp [hmode] at hgame
        refine ⟨haway.handle (hsteady q) hpc, ?_⟩
        cases (Pc.handle_course (hsteady q) hpc).1 with
        | away hmode' => exact .of_away hmode'
        | fresh _ htold hheard hred => exact .of_fresh htold hheard hred
        | stay hmode' _ _ _ _ => simp [hmode] at hmode'
        | tell _ _ hmode' _ _ _ _ => simp [hmode] at hmode'
        | hear _ _ _ _ _ hmode' _ _ _ _ => simp [hmode] at hmode'
      · have haway : (σ₀.pc p.other).mainState ≠ .game := by
          rw [hother, hmenu p.other]
          simp
        exact ⟨fun hgame => absurd hgame haway, .of_away haway⟩

/-- **The red puck is the image of the other player's blue one**, in every game that begins with one
player's Play key while both are in the menu, once every displacement that has been told has been
heard and the last place told is the present one. -/
theorem redpuck_mirrors {S : Side → Setup} (hS : ∀ p, (S p).Healthy) {es₀ es : List Event}
    {σ₁ σ₀ σ : Session} {p : Side} {reads : List KbcRead}
    (hreach : Transition.run step (init S) es₀ = some σ₁)
    (hmenu : ∀ q, (σ₁.pc q).mainState = .mainMenu)
    (hplay : σ₁.step (.interrupt p (.keyboard reads)) = some σ₀)
    (hok : Transition.Along step Unobstructed σ₀ es) (hrun : Transition.run step σ₀ es = some σ)
    (hgame : ∀ q, (σ.pc q).mainState = .game) (q : Side)
    (hheard : (σ.pc q.other).heard = (σ.pc q).told.map (- ·))
    (hprevious : (σ.pc q).previous = (σ.pc q).blue) :
    (σ.pc q.other).table.redpuck.x = 1070 - (σ.pc q).table.bluepuck.x ∧
      (σ.pc q.other).table.redpuck.y = 785 - (σ.pc q).table.bluepuck.y := by
  have hsteady₁ := steady_reach hS hreach
  have hsteady₀ := steady_step hsteady₁ hplay
  have hstart := tracks_start hsteady₁ hmenu hplay
  -- along the run nothing but `Unobstructed` is asked of an event
  have hinv : (∀ q, (σ.pc q).Steady ∧ (σ.pc q).Recorded) ∧ ∀ q, (σ.pc q).Tracks := by
    refine Transition.invariant_along
      (fun σ : Session => (∀ q, (σ.pc q).Steady ∧ (σ.pc q).Recorded) ∧ ∀ q, (σ.pc q).Tracks) ?_
      ⟨fun q => ⟨hsteady₀ q, (hstart q).1⟩, fun q => (hstart q).2⟩ hok hrun
    rintro σ e σ' ⟨hpc, htracks⟩ hok hs
    have hnext : ∀ q, (σ'.pc q).Steady ∧ (σ'.pc q).Recorded :=
      have hkeep : ∀ s i s', s.Steady ∧ s.Recorded → Pc.step s i = some s' →
          s'.Steady ∧ s'.Recorded :=
        fun _ _ _ h hs => ⟨h.1.step hs, h.2.step h.1 hs⟩
      step_forall hkeep hpc hs
    refine ⟨hnext, ?_⟩
    exact tracks_step (fun q => (hpc q).1) (fun q => (hpc q).2) htracks hok hs
  obtain ⟨hpc, htracks⟩ := hinv
  have hcentre : ((535, 55) : Int × Int) = (1070, 785) - (535, 730) := rfl
  have hstops : ∀ place ∈ stops ((535, 55) : Int × Int) (σ.pc q.other).heard, OnRedSide place := by
    rw [hheard, hcentre, stops_reflect]
    intro place hplace
    obtain ⟨image, himage, rfl⟩ := List.mem_map.mp hplace
    obtain ⟨⟨hright, hbottom⟩, hleft, htop⟩ := (htracks q).reflects (hgame q) image himage
    show 273 ≤ 1070 - image.1 ∧ 1070 - image.1 ≤ 799 ∧ 21 ≤ 785 - image.2 ∧ 785 - image.2 ≤ 352
    omega
  have hred := (htracks q.other).heard (hgame q.other) hstops
  rw [hheard, hcentre, travel_reflect, ← (hpc q).2 (hgame q), hprevious] at hred
  exact Prod.mk.inj hred

/-! ## Runs of a game -/

instance (place : Int × Int) : Decidable (Reflects place) := inferInstanceAs (Decidable (_ ∧ _))

instance (iir : Option UInt8) (s : Pc) : Decidable (s.RedFree iir) :=
  -- the match keeps its equation, for the case in which it decides
  match h : s.nextItem iir with
  | some (.payload (.move x y)) =>
    decidable_of_iff (s.mainState = .game → s.table.isMainPc = true →
        detectCollision s.table.redpuck (s.table.redpuck.x + x) (s.table.redpuck.y - y) s.table.ball
          s.table.bytesPerPixel = false) (by rw [Pc.RedFree, h])
  | some (.payload (.ballSpeed _ _)) | some .leave | none => isTrue (by rw [Pc.RedFree, h]; trivial)

instance (i : Interrupt) (s : Pc) : Decidable (s.Unobstructed i) :=
  match i with
  | .timer => inferInstanceAs (Decidable (_ → _ → _))
  | .serial iir => inferInstanceAs (Decidable (s.RedFree iir))
  | .keyboard _ | .mouse _ => isTrue trivial

instance (σ : Session) (e : Event) : Decidable (σ.Unobstructed e) :=
  match e with
  | .interrupt p i => inferInstanceAs (Decidable ((σ.pc p).Unobstructed i))
  | .deliver _ => isTrue trivial

/-- The second PC follows, the first player pulls the puck to the left, and the displacement is told
and heard. -/
def pulled : List Event :=
  deliver .two 2 ++ serve .two ++ happens .one (mousePacket 0x19 0xFB 0x10 ++ ticks 2) ++
    deliver .two 4 ++ serve .two

theorem redpuck_mirrors_pulled : ∃ σ, Transition.run step standard
      (happens .one (key spaceBreakCode) ++ pulled) = some σ ∧
    (σ.pc .one).blue = (530, 714) ∧
    (σ.pc .two).table.redpuck.x = 1070 - (σ.pc .one).table.bluepuck.x ∧
      (σ.pc .two).table.redpuck.y = 785 - (σ.pc .one).table.bluepuck.y := by
  obtain ⟨σ₀, hplay, hok, hend⟩ : ∃ σ₀,
      Transition.run step standard (happens .one (key spaceBreakCode)) = some σ₀ ∧
        Transition.Along step Unobstructed σ₀ pulled ∧
        (Transition.run step σ₀ pulled).any (fun σ => decide
          (((σ.pc .one).mainState = .game ∧ (σ.pc .two).mainState = .game) ∧
            (σ.pc .one).blue = (530, 714) ∧ (σ.pc .two).heard = (σ.pc .one).told.map (- ·) ∧
            (σ.pc .one).previous = (σ.pc .one).blue)) = true :=
    Transition.reaches_of_any (by decide +kernel)
  obtain ⟨σ, hrun, ⟨hone, htwo⟩, hblue, hheard, hprevious⟩ := Transition.reaches_of_any hend
  refine ⟨σ, (Transition.run_append_eq_some step).mpr ⟨σ₀, hplay, hrun⟩, hblue, ?_⟩
  refine redpuck_mirrors (fun _ => Setup.standard_healthy) (Transition.run_nil step standard) ?_
    ((Transition.run_singleton step standard _).symm.trans hplay) hok hrun ?_ .one hheard hprevious
  · intro q
    rw [standard, pc_init]
    rfl
  · rintro (_ | _)
    · exact hone
    · exact htwo

/-- The second PC is told of a puck against its right wall. -/
def againstWall : List Event :=
  -- by `(255, 0)` to the wall of the blue puck, which is further away than that of the red one
  started ++ happens .one (mousePacket 0x09 0xFF 0 ++ mousePacket 0x09 9 0 ++ ticks 2) ++
    deliver .two 4 ++ serve .two

/-- The main PC is told of a puck whose image lies behind the ball. -/
def intoBall : List Event :=
  started ++ happens .two (mousePacket 0x09 0 0xFF ++ mousePacket 0x09 0 42 ++ ticks 2) ++
    deliver .one 4 ++ serve .one

/-- A red puck that stays behind, at a wall that the blue one has not reached, and at the ball. -/
theorem redpuck_lags :
    (∃ σ, Transition.run step standard againstWall = some σ ∧
      ((σ.pc .one).mainState = .game ∧ (σ.pc .two).mainState = .game) ∧
      (σ.pc .two).heard = (σ.pc .one).told.map (- ·) ∧ (σ.pc .one).previous = (σ.pc .one).blue ∧
      (σ.pc .two).table.redpuck.x ≠ 1070 - (σ.pc .one).table.bluepuck.x) ∧
    ∃ σ, Transition.run step standard intoBall = some σ ∧
      ((σ.pc .one).mainState = .game ∧ (σ.pc .two).mainState = .game) ∧
      (σ.pc .one).heard = (σ.pc .two).told.map (- ·) ∧ (σ.pc .two).previous = (σ.pc .two).blue ∧
      (σ.pc .one).table.redpuck.y ≠ 785 - (σ.pc .two).table.bluepuck.y :=
  ⟨Transition.reaches_of_any (by decide +kernel), Transition.reaches_of_any (by decide +kernel)⟩

end Session

end AirHockey
