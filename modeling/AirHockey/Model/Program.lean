import AirHockey.Model.Clock
import AirHockey.Model.Frames
import AirHockey.Model.Standard

/-! # The whole program

The handlers once more, now with what they draw and with `rtc_int`. Drawing is the last thing that
a handler does, and nothing but drawing reads the view: without its view the program is `Core`,
and the handlers that draw nothing are those of `Pc`.

`step_eq` splits every handler into its work and its frame. On the one hand `run_core` follows,
that a run of the program is a run of `Core`; on the other hand `step_iff`, that a step is defined
exactly if the step of `Core` is and its frame has all digits, and `run_iff`, the same for runs,
by induction. `exec_iff` puts both together from the beginning of the program on. `Watched`
collects what a step does to the two buffers, for the modules about the pictures. `exec_tenGoals`
is a run that leaves the program without a digit. -/

namespace AirHockey

/-- An interrupt with what the devices answer while it is handled, or the arrival of bytes. -/
inductive Happening where
  | interrupt (i : Interrupt)
  | rtc (d : Rtc)
  | arrive (slots : List RxSlot)

/-- The timer. -/
def Happening.isTick : Happening → Bool
  | .interrupt .timer => true
  | _ => false

structure Program where
  pc : Pc
  dayTimeInfo : DayTime
  view : View

namespace Program

variable (S : Setup) (A : Artwork)

def drawFrame (p : Program) : Option Program :=
  (p.view.drawFrame S.screen A p.pc p.dayTimeInfo).map fun view => { p with view := view }

def timerInt (p : Program) : Option Program :=
  (p.view.swapBuffers S.screen).bind fun view =>
    let q := { p with pc := p.pc.timerInt, view := view }
    match p.pc.mainState with
    | .mainMenu | .game => q.drawFrame S A
    | _ => some q

def keyboardInt (reads : List KbcRead) (p : Program) : Option Program :=
  (p.pc.keyboardInt reads).bind fun pc =>
    if (p.pc.kbcIh reads).keyboardError then some { p with pc := pc }
    else { p with pc := pc }.drawFrame S A

def mouseInt (reads : List KbcRead) (p : Program) : Program :=
  { p with pc := p.pc.mouseInt reads }

/-- In the middle of a game, the start/leave word is the only message after which something is
drawn. -/
def spInt (iir : Option UInt8) (p : Program) : Option Program :=
  let q := { p with pc := p.pc.spInt iir }
  if p.pc.mainState = .game ∧ q.pc.mainState = .mainMenu then q.drawFrame S A else some q

def rtcInt (d : Rtc) (p : Program) : Program :=
  { p with dayTimeInfo := (rtcUpdateInfo d p.dayTimeInfo).2 }

def step (p : Program) : Happening → Option Program
  | .interrupt .timer => p.timerInt S A
  | .interrupt (.keyboard reads) => p.keyboardInt S A reads
  | .interrupt (.mouse reads) => some (p.mouseInt reads)
  | .interrupt (.serial iir) => p.spInt S A iir
  | .rtc d => some (p.rtcInt d)
  | .arrive slots => some { p with pc := p.pc.receive slots }

/-- The view when the program begins: nothing is loaded but the sprites, and the buffers hold
anything. -/
def beginView (loads : List Bool) (main secondary : Nat → UInt8) : View where
  numbers := A.numbers
  loaded _ := false
  loads := loads
  mainBuffer := S.screen.secondaryBuffer main
  secondaryBuffer := S.screen.secondaryBuffer secondary

/-- The program just before `draw_frame` in `init`. `day_time_info` is a global variable. -/
def begin (loads : List Bool) (main secondary : Nat → UInt8) : Program where
  pc := init S
  dayTimeInfo := ⟨0, 0, 0, 0, 0, 0⟩
  view := beginView S A loads main secondary

end Program

/-! ## The program without its view -/

structure Core where
  pc : Pc
  dayTimeInfo : DayTime

def Program.core (p : Program) : Core := ⟨p.pc, p.dayTimeInfo⟩

/-- What a happening is to a PC that draws nothing. -/
def Happening.input : Happening → Option Input
  | .interrupt i => some (.interrupt i)
  | .rtc _ => none
  | .arrive slots => some (.arrive slots)

namespace Core

def step (c : Core) : Happening → Option Core
  | .interrupt i => (c.pc.handle i).map fun pc => { c with pc := pc }
  | .rtc d => some { c with dayTimeInfo := (rtcUpdateInfo d c.dayTimeInfo).2 }
  | .arrive slots => some { c with pc := c.pc.receive slots }

/-- Is a frame drawn in the step from `c` to `c'`? -/
def Draws (c c' : Core) : Happening → Prop
  | .interrupt .timer => c.pc.mainState = .mainMenu ∨ c.pc.mainState = .game
  | .interrupt (.keyboard reads) => (c.pc.kbcIh reads).keyboardError = false
  | .interrupt (.mouse _) => False
  | .interrupt (.serial _) => c.pc.mainState = .game ∧ c'.pc.mainState = .mainMenu
  | .rtc _ => False
  | .arrive _ => False

instance (c c' : Core) : DecidablePred (Draws c c')
  | .interrupt .timer => inferInstanceAs (Decidable (_ ∨ _))
  | .interrupt (.keyboard _) => inferInstanceAs (Decidable (_ = _))
  | .interrupt (.serial _) => inferInstanceAs (Decidable (_ ∧ _))
  | .interrupt (.mouse _) | .rtc _ | .arrive _ => isFalse id

/-- What every step keeps and drawing needs. -/
structure Sound (c : Core) : Prop where
  receiver : c.pc.receiver.Sound
  confined : c.pc.table.Confined
  time : c.pc.timeRemaining ≤ 200

/-- Its digits allow every frame that is drawn in the step. -/
def Allows (c : Core) (e : Happening) : Prop :=
  ∀ c', c.step e = some c' → Draws c c' e → Drawable c'.pc c'.dayTimeInfo

instance (c : Core) (e : Happening) : Decidable (c.Allows e) :=
  match h : c.step e with
  | none => isTrue fun _ hc' => nomatch h.symm.trans hc'
  | some c₁ =>
    decidable_of_iff (Draws c c₁ e → Drawable c₁.pc c₁.dayTimeInfo)
      ⟨fun hok _ hc' => Option.some.inj (h.symm.trans hc') ▸ hok, fun hok => hok c₁ h⟩

variable {c c' : Core} {e : Happening} {es : List Happening}

/-- Without its view the program is one PC and its clock. -/
theorem step_pc : c.step e = some c' →
    (e.input = none ∧ c'.pc = c.pc) ∨ ∃ i, e.input = some i ∧ c.pc.step i = some c'.pc := by
  intro h
  cases e with
  | interrupt i =>
      obtain ⟨s, hs, heq⟩ := Option.map_eq_some_iff.mp h
      subst heq
      exact .inr ⟨_, rfl, hs⟩
  | rtc d =>
      cases h
      exact .inl ⟨rfl, rfl⟩
  | arrive slots =>
      cases h
      exact .inr ⟨_, rfl, rfl⟩

theorem run_pc (h : Transition.run step c es = some c') :
    Transition.run Pc.step c.pc (es.filterMap Happening.input) = some c'.pc := by
  induction es generalizing c with
  | nil =>
      cases h
      rfl
  | cons e es ih =>
      obtain ⟨c₁, hstep, hrest⟩ := (Transition.run_cons_eq_some step).mp h
      rcases step_pc hstep with ⟨hnone, hpc⟩ | ⟨i, hi, hpc⟩
      · rw [List.filterMap_cons_none hnone, ← hpc]
        exact ih hrest
      · rw [List.filterMap_cons_some hi]
        exact (Transition.run_cons_eq_some Pc.step).mpr ⟨c₁.pc, hpc, ih hrest⟩

theorem run_of_pc {s : Pc}
    (h : Transition.run Pc.step c.pc (es.filterMap Happening.input) = some s) :
    ∃ c', Transition.run step c es = some c' := by
  induction es generalizing c with
  | nil => exact ⟨c, rfl⟩
  | cons e es ih =>
      -- each case below gives one step and leaves the rest to the induction
      have hgo : ∀ c₁, c.step e = some c₁ →
          Transition.run Pc.step c₁.pc (es.filterMap Happening.input) = some s →
          ∃ c', Transition.run step c (e :: es) = some c' := by
        intro c₁ hstep hrest
        obtain ⟨c', hrun⟩ := ih hrest
        exact ⟨c', (Transition.run_cons_eq_some step).mpr ⟨c₁, hstep, hrun⟩⟩
      cases e with
      | interrupt i =>
          have hcons : Transition.run Pc.step c.pc
              (.interrupt i :: es.filterMap Happening.input) = some s := h
          obtain ⟨s₁, hstep, hrest⟩ := (Transition.run_cons_eq_some Pc.step).mp hcons
          exact hgo { c with pc := s₁ } (Option.map_eq_some_iff.mpr ⟨s₁, hstep, rfl⟩) hrest
      | rtc d =>
          exact hgo _ rfl h
      | arrive slots =>
          have hcons : Transition.run Pc.step c.pc
              (.arrive slots :: es.filterMap Happening.input) = some s := h
          obtain ⟨s₁, hstep, hrest⟩ := (Transition.run_cons_eq_some Pc.step).mp hcons
          cases hstep
          exact hgo _ rfl hrest

/-! ### Soundness -/

theorem timeRemaining_step {s s' : Pc} {i : Input} (hsound : s.receiver.Sound)
    (hstep : s.step i = some s') (h : s.timeRemaining ≤ 200) : s'.timeRemaining ≤ 200 := by
  cases i with
  | arrive slots =>
      cases hstep
      exact h
  | interrupt i =>
      cases i with
      | timer =>
          cases hstep
          -- only a tick of a game counts down, and only a new game begins again at 200 seconds
          by_cases hgame : s.mainState = .game
          · obtain ⟨-, hremaining, -⟩ := Pc.timerInt_clock hgame
            rw [hremaining]
            split <;> omega
          · rw [Pc.timerInt_of_not_game hgame]
            exact h
      | keyboard reads =>
          cases Pc.keyboardInt_step hstep with
          | stay hq _ | select hq _ _ | back hq _ _ | leave hq _ _ _ | quit hq _ _ _ =>
              exact hq.clock.2.1.trans_le h
          | play hq _ _ _ | again _ _ hq _ _ _ => exact hq.clock.2.1.trans_le (Nat.le_refl 200)
      | mouse reads =>
          cases hstep
          obtain ⟨_, _, _, _, _, heq⟩ := Pc.mouseInt_eq reads s
          rw [heq]
          exact h
      | serial iir =>
          cases hstep
          have houtcome := Pc.spInt_outcome hsound iir
          generalize s.spInt iir = s' at houtcome
          cases houtcome with
          | idle r => exact h
          | start r _ => exact Nat.le_refl 200
          | leave r _ => exact h
          | payload r e _ _ => cases e <;> exact h

theorem Sound.step (h : c.Sound) (hstep : c.step e = some c') : c'.Sound := by
  rcases step_pc hstep with ⟨-, hpc⟩ | ⟨i, -, hpc⟩
  · constructor
    · rw [hpc]
      exact h.receiver
    · rw [hpc]
      exact h.confined
    · rw [hpc]
      exact h.time
  · obtain ⟨hreceiver, hconfined⟩ := Pc.Regular.step ⟨h.receiver, h.confined⟩ hpc
    exact ⟨hreceiver, hconfined, timeRemaining_step h.receiver hpc h.time⟩

/-- The program when it begins. -/
def begin (S : Setup) : Core := ⟨init S, ⟨0, 0, 0, 0, 0, 0⟩⟩

theorem sound_begin (S : Setup) : (begin S).Sound :=
  ⟨(regular_init S).sound, (regular_init S).confined, Nat.zero_le _⟩

end Core

/-! ## The view follows -/

namespace Program

variable {S : Setup} {A : Artwork} {p p' : Program} {e : Happening} {es : List Happening}

/-- The view after an interrupt, before anything is drawn. -/
def viewAfter (S : Setup) (v : View) : Happening → Option View
  | .interrupt .timer => v.swapBuffers S.screen
  | _ => some v

/-- **Every handler** does its work and then draws a frame, or none. -/
theorem step_eq (p : Program) (e : Happening) :
    p.step S A e = (viewAfter S p.view e).bind fun view => (p.core.step e).bind fun c =>
      if Core.Draws p.core c e then drawFrame S A ⟨c.pc, c.dayTimeInfo, view⟩
      else some ⟨c.pc, c.dayTimeInfo, view⟩ := by
  cases e with
  | interrupt i =>
      cases i with
      | timer =>
          show p.timerInt S A = (p.view.swapBuffers S.screen).bind _
          unfold timerInt
          congr
          funext view
          show _ = if p.pc.mainState = .mainMenu ∨ p.pc.mainState = .game then _ else _
          cases hmode : p.pc.mainState <;> simp [core]
      | keyboard reads =>
          show (p.pc.keyboardInt reads).bind _ = ((p.pc.keyboardInt reads).map _).bind _
          rw [Option.bind_map]
          congr
          funext pc
          show _ = if (p.pc.kbcIh reads).keyboardError = false then _ else _
          cases (p.pc.kbcIh reads).keyboardError <;> rfl
      | mouse reads => rfl
      | serial iir => rfl
  | rtc d => rfl
  | arrive slots => rfl

/-- The step does what a step without the view does. -/
theorem step_core (h : p.step S A e = some p') : p.core.step e = some p'.core := by
  rw [step_eq] at h
  obtain ⟨view, -, h⟩ := Option.bind_eq_some_iff.mp h
  obtain ⟨c, hstep, h⟩ := Option.bind_eq_some_iff.mp h
  rw [hstep]
  split at h
  · obtain ⟨v', -, heq⟩ := Option.map_eq_some_iff.mp h
    subst heq
    rfl
  · cases h
    rfl

/-- **The view only watches**: what a program does with its view, it does without it. -/
theorem run_core (h : Transition.run (step S A) p es = some p') :
    Transition.run Core.step p.core es = some p'.core := by
  induction es generalizing p with
  | nil =>
      cases h
      rfl
  | cons e es ih =>
      obtain ⟨p₁, hstep, hrest⟩ := (Transition.run_cons_eq_some (step S A)).mp h
      exact (Transition.run_cons_eq_some Core.step).mpr ⟨p₁.core, step_core hstep, ih hrest⟩

/-! ### What is drawn -/

/-- What a step does to the view: a tick brings the last frame to the screen, and the frame that is
drawn in the end is painted over the secondary buffer. -/
structure Watched (S : Setup) (A : Artwork) (p : Program) (e : Happening) (p' : Program) :
    Prop where
  sound : p'.view.Sound S.screen A
  loads : p.view.loads = [] → p'.view.loads = []
  main : S.screen.canvas p'.view.mainBuffer =
    if e.isTick then S.screen.canvas p.view.secondaryBuffer else S.screen.canvas p.view.mainBuffer
  still : ¬Core.Draws p.core p'.core e →
    S.screen.canvas p'.view.secondaryBuffer = S.screen.canvas p.view.secondaryBuffer
  drawn : Core.Draws p.core p'.core e → p.view.loads = [] →
    S.screen.canvas p'.view.secondaryBuffer =
      Layer.paint ((frame A p'.pc p'.dayTimeInfo).map (Draw.layer S.screen A))
        (S.screen.canvas p.view.secondaryBuffer)

/-- After an interrupt and before anything is drawn the view is sound. -/
theorem viewAfter_spec {v : View} (hsound : v.Sound S.screen A) (e : Happening) :
    ∃ v', viewAfter S v e = some v' ∧ v'.Sound S.screen A ∧
      (v'.secondaryBuffer = v.secondaryBuffer ∧ v'.loads = v.loads) ∧
      S.screen.canvas v'.mainBuffer =
        if e.isTick then S.screen.canvas v.secondaryBuffer else S.screen.canvas v.mainBuffer := by
  cases e with
  | interrupt i =>
      cases i with
      | timer =>
          obtain ⟨b, hswap, hsize, hcanvas⟩ :=
            Screen.swapBuffers_spec hsound.main hsound.secondary
          exact ⟨_, hswap, ⟨hsize, hsound.secondary, hsound.length, hsound.digit⟩, ⟨rfl, rfl⟩,
            hcanvas⟩
      | keyboard _ | mouse _ | serial _ => exact ⟨v, rfl, hsound, ⟨rfl, rfl⟩, rfl⟩
  | rtc _ | arrive _ => exact ⟨v, rfl, hsound, ⟨rfl, rfl⟩, rfl⟩

theorem drawFrame_iff (hview : p.view.Sound S.screen A) (hcore : p.core.Sound) :
    (∃ p', p.drawFrame S A = some p') ↔ Drawable p.pc p.dayTimeInfo := by
  -- what makes the frame drawable comes from the invariant of `Core`
  have htime : p.pc.timeRemaining ≤ 200 := hcore.time
  have hplaced : ∀ d ∈ frame A p.pc p.dayTimeInfo, d.Placed S.screen A :=
    placed_frame hcore.confined p.dayTimeInfo
  rw [← inArray_frame (A := A) htime, ← View.run_draw_iff hview hplaced]
  constructor
  · rintro ⟨p', h⟩
    obtain ⟨v, hv, -⟩ := Option.map_eq_some_iff.mp h
    exact ⟨v, hv⟩
  · rintro ⟨v, hv⟩
    exact ⟨{ p with view := v }, Option.map_eq_some_iff.mpr ⟨v, hv, rfl⟩⟩

theorem drawFrame_painted (hview : p.view.Sound S.screen A) (hcore : p.core.Sound)
    (h : p.drawFrame S A = some p') :
    p'.core = p.core ∧
      View.Painted S.screen A p.view (frame A p.pc p.dayTimeInfo) p'.view := by
  have htime : p.pc.timeRemaining ≤ 200 := hcore.time
  have hin := (inArray_frame (A := A) htime).mpr ((drawFrame_iff hview hcore).mp ⟨p', h⟩)
  obtain ⟨v, hv, hpainted⟩ := View.run_draw hview (placed_frame hcore.confined p.dayTimeInfo) hin
  obtain ⟨v', hv', heq⟩ := Option.map_eq_some_iff.mp h
  subst heq
  cases hv.symm.trans hv'
  exact ⟨rfl, hpainted⟩

/-- **One step of the program**: it is defined if the step without the view is and if the frame that
is drawn has all its digits. -/
theorem step_iff (hview : p.view.Sound S.screen A) (hcore : p.core.Sound) :
    (∃ p', p.step S A e = some p') ↔ (∃ c, p.core.step e = some c) ∧ p.core.Allows e := by
  obtain ⟨v, hv, hsound, -, -⟩ := viewAfter_spec hview e
  -- the buffers have been swapped, if this is a tick; then the PC goes on
  rw [step_eq, hv, Option.bind_some]
  cases hstep : p.core.step e with
  | none => simp
  | some c =>
      have hdraw := drawFrame_iff (p := ⟨c.pc, c.dayTimeInfo, v⟩) hsound (hcore.step hstep)
      rw [Option.bind_some]
      unfold Core.Allows
      rw [hstep]
      by_cases hdraws : Core.Draws p.core c e
      · rw [if_pos hdraws, hdraw]
        constructor
        · intro hok
          refine ⟨⟨c, rfl⟩, fun c' hc' _ => ?_⟩
          cases hc'
          exact hok
        · intro hok
          exact hok.2 c rfl hdraws
      · rw [if_neg hdraws]
        refine iff_of_true ⟨_, rfl⟩ ⟨⟨c, rfl⟩, fun c' hc' hnot => ?_⟩
        cases hc'
        exact absurd hnot hdraws

theorem step_watched (hview : p.view.Sound S.screen A) (hcore : p.core.Sound)
    (h : p.step S A e = some p') : Watched S A p e p' := by
  obtain ⟨v, hv, hsound, ⟨hsecondary, hloads⟩, hmain⟩ := viewAfter_spec hview e
  have hcore' : p.core.step e = some p'.core := step_core h
  rw [step_eq, hv, Option.bind_some, hcore', Option.bind_some] at h
  -- the frame goes over what was in the secondary buffer
  by_cases hdraws : Core.Draws p.core p'.core e
  · rw [if_pos hdraws] at h
    obtain ⟨-, hpainted⟩ := drawFrame_painted (p := ⟨p'.pc, p'.dayTimeInfo, v⟩) hsound
      (hcore.step hcore') h
    refine ⟨hpainted.sound, fun hnone => hpainted.loads (hloads.trans hnone), ?_,
      fun hnot => absurd hdraws hnot, fun _ hnone => ?_⟩
    · rw [hpainted.main, hmain]
    · rw [hpainted.canvas (hloads.trans hnone), hsecondary]
  · rw [if_neg hdraws] at h
    obtain rfl : v = p'.view := congrArg Program.view (Option.some.inj h)
    refine ⟨hsound, fun hnone => hloads.trans hnone, hmain, fun _ => ?_,
      fun hnot => absurd hnot hdraws⟩
    rw [hsecondary]

/-- **A run of the program** is defined exactly if the run without the view is and if every frame
that is drawn along it has all its digits. -/
theorem run_iff (hview : p.view.Sound S.screen A) (hcore : p.core.Sound) :
    (∃ p', Transition.run (step S A) p es = some p') ↔
      (∃ c, Transition.run Core.step p.core es = some c) ∧
        Transition.Along Core.step Core.Allows p.core es := by
  induction es generalizing p with
  | nil => exact iff_of_true ⟨p, rfl⟩ ⟨⟨p.core, rfl⟩, trivial⟩
  | cons e es ih =>
      constructor
      · rintro ⟨p', hrun⟩
        obtain ⟨p₁, hstep, hrest⟩ := (Transition.run_cons_eq_some (step S A)).mp hrun
        -- each state of the run satisfies the invariants that the next step needs
        have hcore₁ := step_core hstep
        have hwatched := step_watched hview hcore hstep
        obtain ⟨⟨c, hc⟩, halong⟩ := (ih hwatched.sound (hcore.step hcore₁)).mp ⟨p', hrest⟩
        refine ⟨⟨c, (Transition.run_cons_eq_some Core.step).mpr ⟨p₁.core, hcore₁, hc⟩⟩,
          ((step_iff hview hcore).mp ⟨p₁, hstep⟩).2, fun c₁ hc₁ => ?_⟩
        cases hcore₁.symm.trans hc₁
        exact halong
      · rintro ⟨⟨c, hc⟩, hallows, halong⟩
        obtain ⟨c₁, hstep, hrest⟩ := (Transition.run_cons_eq_some Core.step).mp hc
        obtain ⟨p₁, hp₁⟩ := (step_iff hview hcore).mpr ⟨⟨c₁, hstep⟩, hallows⟩
        cases hstep.symm.trans (step_core hp₁)
        have hwatched := step_watched hview hcore hp₁
        obtain ⟨p', hrun⟩ :=
          (ih hwatched.sound (hcore.step hstep)).mpr ⟨⟨c, hrest⟩, halong _ hstep⟩
        exact ⟨p', (Transition.run_cons_eq_some (step S A)).mpr ⟨p₁, hp₁, hrun⟩⟩

/-! ### From the beginning -/

theorem sound_beginView (S : Setup) (A : Artwork) (loads : List Bool)
    (main secondary : Nat → UInt8) : (beginView S A loads main secondary).Sound S.screen A where
  main := rfl
  secondary := rfl
  length font := by cases font <;> rfl
  digit font i hi := by
    cases font with
    | white => exact ⟨0, 0, by simp [beginView, Artwork.numbers, hi]⟩
    | red | blue => exact ⟨0, 425, by simp [beginView, Artwork.numbers, hi]⟩

/-- The first frame, which `init` draws, has all its digits. -/
theorem drawable_begin (S : Setup) : Drawable (init S) ⟨0, 0, 0, 0, 0, 0⟩ := by
  refine ⟨fun hgame => ?_, fun _ f => ?_⟩
  · cases hgame
  · cases f <;> decide

/-- `draw_frame` at the end of `init`, and then what happens. -/
def exec (S : Setup) (A : Artwork) (loads : List Bool) (main secondary : Nat → UInt8)
    (es : List Happening) : Option Program :=
  ((begin S A loads main secondary).drawFrame S A).bind fun p => Transition.run (step S A) p es

/-- The program after the first frame. -/
theorem exec_begin (S : Setup) (A : Artwork) (loads : List Bool) (main secondary : Nat → UInt8) :
    ∃ p : Program, p.core = Core.begin S ∧ p.view.Sound S.screen A ∧
      (begin S A loads main secondary).drawFrame S A = some p ∧
      (∀ es, exec S A loads main secondary es = Transition.run (step S A) p es) ∧
      (loads = [] → p.view.loads = [] ∧ S.screen.canvas p.view.secondaryBuffer =
        Layer.paint ((frame A (init S) ⟨0, 0, 0, 0, 0, 0⟩).map (Draw.layer S.screen A))
          (S.screen.canvas (S.screen.secondaryBuffer secondary))) := by
  have hview := sound_beginView S A loads main secondary
  have hcore : (begin S A loads main secondary).core.Sound := Core.sound_begin S
  obtain ⟨p, hp⟩ := (drawFrame_iff hview hcore).mpr (drawable_begin S)
  -- `draw_frame` changes neither the PC nor the clock
  obtain ⟨heq, hpainted⟩ := drawFrame_painted hview hcore hp
  refine ⟨p, heq, hpainted.sound, hp, fun es => ?_, fun hloads =>
    ⟨hpainted.loads hloads, hpainted.canvas hloads⟩⟩
  rw [exec, hp, Option.bind_some]

theorem exec_defined (S : Setup) (A : Artwork) (loads : List Bool) (main secondary : Nat → UInt8)
    (es : List Happening) : (∃ p, exec S A loads main secondary es = some p) ↔
      (∃ s, Transition.run Pc.step (init S) (es.filterMap Happening.input) = some s) ∧
        Transition.Along Core.step Core.Allows (Core.begin S) es := by
  obtain ⟨p, hcore, hview, -, hexec, -⟩ := exec_begin S A loads main secondary
  rw [hexec, run_iff hview (hcore ▸ Core.sound_begin S), hcore]
  apply and_congr_left'
  constructor
  · rintro ⟨c, hc⟩
    exact ⟨c.pc, Core.run_pc hc⟩
  · rintro ⟨s, hs⟩
    exact Core.run_of_pc hs

theorem exec_core {loads : List Bool} {main secondary : Nat → UInt8}
    (h : exec S A loads main secondary es = some p) :
    Transition.run Core.step (Core.begin S) es = some p.core := by
  obtain ⟨p₀, hcore, -, -, hexec, -⟩ := exec_begin S A loads main secondary
  rw [hexec] at h
  rw [← hcore]
  exact run_core h

/-- **The whole program.** It accesses no memory outside of its arrays, buffers and pixmaps exactly
if no menu does and both scores have one digit whenever a frame of the game is drawn, and every
field of the time of day two whenever one of the menu is; and then drawing has changed nothing: the
program is in the state that the handlers reach which draw nothing. -/
theorem exec_iff (S : Setup) (A : Artwork) (loads : List Bool) (main secondary : Nat → UInt8)
    (es : List Happening) :
    ((∃ p, exec S A loads main secondary es = some p) ↔
      (∃ s, Transition.run Pc.step (init S) (es.filterMap Happening.input) = some s) ∧
        Transition.Along Core.step Core.Allows (Core.begin S) es) ∧
    ∀ p, exec S A loads main secondary es = some p →
      Transition.run Pc.step (init S) (es.filterMap Happening.input) = some p.pc :=
  ⟨exec_defined S A loads main secondary es, fun _ h => Core.run_pc (exec_core h)⟩

end Program

/-! ## A frame without its digits -/

/-- What happens to a PC, with nothing from the clock. -/
def Input.happening : Input → Happening
  | .interrupt i => .interrupt i
  | .arrive slots => .arrive slots

theorem filterMap_happening (es : List Input) :
    (es.map Input.happening).filterMap Happening.input = es := by
  induction es with
  | nil => rfl
  | cons e es ih =>
      rw [List.map_cons, List.filterMap_cons_some (b := e) (by cases e <;> rfl), ih]

/-- A run of the handlers without a view is one of the program, if its frames have all digits. -/
theorem exec_of_run {S : Setup} (P : Pc → Prop) [DecidablePred P] (es : List Input)
    (hrun : (Transition.run Pc.step (init S) es).any (fun s => decide (P s)) = true)
    (halong : Transition.Along Core.step Core.Allows (Core.begin S) (es.map Input.happening))
    (A : Artwork) (loads : List Bool) (main secondary : Nat → UInt8) :
    ∃ p, Program.exec S A loads main secondary (es.map Input.happening) = some p ∧ P p.pc := by
  obtain ⟨s, hs, hP⟩ := Transition.reaches_of_any hrun
  have hdefined := Program.exec_defined S A loads main secondary (es.map Input.happening)
  rw [filterMap_happening] at hdefined
  obtain ⟨p, hp⟩ := hdefined.mpr ⟨⟨s, hs⟩, halong⟩
  have hpc := Core.run_pc (Program.exec_core hp)
  rw [filterMap_happening] at hpc
  -- the run is the same, seen with the view and without
  cases hs.symm.trans hpc
  exact ⟨p, hp, hP⟩

/-- Every picture has one shade, and no two have the same. -/
def Artwork.plain : Artwork where
  backdrop b _ := UInt8.ofNat (1 + b.ctorIdx)
  digit font i _ := UInt8.ofNat (16 * (font.ctorIdx + 1) + i)
  icon icon _ := UInt8.ofNat (64 + icon.ctorIdx)

/-- The first byte of a pixel of the standard machine. -/
def pixel (x y : Nat) (hx : x < 1152) (hy : y < 864) : Setup.standard.screen.Spot :=
  ⟨x, y, 0, hx, hy, by decide⟩

/-- The standard machine with plain pictures, from empty buffers on. -/
def standardExec (es : List Input) : Option Program :=
  Program.exec Setup.standard Artwork.plain [] (fun _ => 0) (fun _ => 0) (es.map Input.happening)

theorem standardExec_of_run (P : Pc → Prop) [DecidablePred P] (es : List Input)
    (hrun : (Transition.run Pc.step (init Setup.standard) es).any (fun s => decide (P s)) = true)
    (halong : Transition.Along Core.step Core.Allows (Core.begin Setup.standard)
      (es.map Input.happening)) : ∃ p, standardExec es = some p ∧ P p.pc :=
  exec_of_run P es hrun halong _ _ _ _

/-- Ten times the other PC sends the ball upwards as fast as its message can say. -/
def tenGoals : List Input :=
  received [0, 0x10] ++ (List.replicate 9 (received [0, 0x20, 0, 0x81] ++ ticks 4)).flatten ++
    received [0, 0x20, 0, 0x81] ++ ticks 3

/-- The tenth goal within one second leaves the program without a digit for the score. -/
theorem exec_tenGoals (A : Artwork) (loads : List Bool) (main secondary : Nat → UInt8) :
    Program.exec Setup.standard A loads main secondary
      ((tenGoals ++ ticks 1).map Input.happening) = none := by
  obtain ⟨s, hrun, hgame, hscore⟩ : ∃ s, Transition.run Pc.step (init Setup.standard) tenGoals =
      some s ∧ s.mainState = .game ∧ s.timerInt.mainState = .game ∧
        s.timerInt.table.player2Score = 10 :=
    Transition.reaches_of_any (by decide +kernel)
  -- were the run defined, the frame after the tenth goal would have its digits
  rw [Option.eq_none_iff_forall_ne_some]
  intro p hp
  obtain ⟨-, halong⟩ := (Program.exec_defined _ _ _ _ _ _).mp ⟨p, hp⟩
  rw [List.map_append] at halong
  obtain ⟨c, hc⟩ : ∃ c, Transition.run Core.step (Core.begin Setup.standard)
      (tenGoals.map Input.happening) = some c := by
    apply Core.run_of_pc (s := s)
    rw [filterMap_happening]
    exact hrun
  have hpc := Core.run_pc hc
  rw [filterMap_happening] at hpc
  cases hrun.symm.trans hpc
  have hallows := (halong.right hc).1 _ rfl (Or.inr hgame)
  -- and the score on it is ten
  have hdigit := (hallows.1 hscore.1).2.2
  rw [show (10 : Int) = _ from hscore.2.symm] at hdigit
  exact absurd hdigit (Int.lt_irrefl _)

end AirHockey
