import AirHockey.Model.MainLoop

/-! # The clock on the screen

The mask of the clock is the number 5, and bit 2 of a notification belongs to no hook: so
`rtc_int` is called with every tick of the timer, after the menu has been drawn, and for no
interrupt of the clock. What it reads is drawn with the next tick and brought to the screen with
the one after.

`Calm.happenings_tick` and `Calm.happenings_quiet` list the calls of a notification with and
without a tick. `menu_clock` follows a time of day through three ticks of a run: it is read after
the first one and left alone until the second (`run_dayTimeInfo`), drawn with the second, and
shown with the third (`menu_shown`, `aside_screen`). `projMainLoop_clock` says it of the main
loop, with the decimal value of the registers. -/

namespace AirHockey

namespace Notification

/-- A notification of the timer, the mouse or the clock. -/
structure Calm (n : Notification) : Prop where
  keyboard : n.asks keyboardMask = false
  serial : n.asks spMask = false
  unhooked : n.interrupts &&& 0x04 = 0

/-- The clock is asked with the timer. -/
theorem asks_rtcMask {n : Notification} (h : n.interrupts &&& 0x04 = 0) :
    n.asks rtcMask = n.asks timerMask := by
  -- of the two bits of the mask one is the timer's, and the other one is not set
  have hbits : n.interrupts &&& rtcMask = n.interrupts &&& timerMask := by
    have hsplit : n.interrupts &&& (timerMask ||| 0x04) =
        n.interrupts &&& timerMask ||| n.interrupts &&& 0x04 :=
      UInt32.toBitVec_inj.mp BitVec.and_or_distrib_left
    rw [show rtcMask = timerMask ||| 0x04 from rfl, hsplit, h, UInt32.or_zero]
  rw [asks, asks, hbits]

variable {n : Notification}

/-- With a tick the clock is read, as the last thing. -/
theorem Calm.happenings_tick (h : n.Calm) (htick : n.asks timerMask = true) :
    n.happenings = .arrive n.early :: .interrupt .timer ::
      n.call mouseMask (.interrupt (.mouse n.mouse)) ++ [.rtc n.clock, .arrive n.late] := by
  have hclock : n.asks rtcMask = true := (asks_rtcMask h.unhooked).trans htick
  -- the calls whose masks are not asked for vanish from the list
  simp [happenings, call, htick, hclock, h.keyboard, h.serial]

/-- Without a tick the clock is not read, whatever it wants. -/
theorem Calm.happenings_quiet (h : n.Calm) (hquiet : n.asks timerMask = false) :
    n.happenings = .arrive n.early :: n.call mouseMask (.interrupt (.mouse n.mouse)) ++
      [.arrive n.late] := by
  have hclock : n.asks rtcMask = false := (asks_rtcMask h.unhooked).trans hquiet
  simp [happenings, call, hquiet, hclock, h.keyboard, h.serial]

end Notification

/-- Neither a tick nor a key nor a serial interrupt. -/
def Happening.isAside : Happening → Bool
  | .interrupt (.mouse _) | .rtc _ | .arrive _ => true
  | .interrupt .timer | .interrupt (.keyboard _) | .interrupt (.serial _) => false

/-- The clock is not read. -/
def Happening.LeavesTime (e : Happening) : Prop := ∀ d, e ≠ .rtc d

namespace Program

variable {S : Setup} {A : Artwork} {p p' : Program} {e : Happening} {es : List Happening}

theorem aside_of_isAside (p : Program) (h : e.isAside) : Aside p e := by
  cases e with
  | interrupt i =>
      cases i with
      | mouse _ => trivial
      | timer | keyboard _ | serial _ => cases h
  | rtc _ | arrive _ => trivial

theorem along_of_isAside (p : Program) (h : ∀ e ∈ es, e.isAside) :
    Transition.Along (step S A) Aside p es := by
  induction es generalizing p with
  | nil => trivial
  | cons e es ih =>
      exact ⟨aside_of_isAside p (h e List.mem_cons_self),
        fun q _ => ih q fun e' he' => h e' (List.mem_cons_of_mem _ he')⟩

theorem run_dayTimeInfo (hleaves : ∀ e ∈ es, e.LeavesTime)
    (hrun : Transition.run (step S A) p es = some p') : p'.dayTimeInfo = p.dayTimeInfo := by
  induction es generalizing p with
  | nil =>
      cases hrun
      rfl
  | cons e es ih =>
      obtain ⟨p₁, hstep, hrest⟩ := (Transition.run_cons_eq_some (step S A)).mp hrun
      rw [ih (fun e' he' => hleaves e' (List.mem_cons_of_mem _ he')) hrest]
      have hcore := step_core hstep
      have hleaves := hleaves e List.mem_cons_self
      show p₁.core.dayTimeInfo = p.core.dayTimeInfo
      cases e with
      | rtc d => exact absurd rfl (hleaves d)
      | arrive slots =>
          rw [← Option.some.inj hcore]
      | interrupt i =>
          obtain ⟨s, -, heq⟩ := Option.map_eq_some_iff.mp hcore
          rw [← heq]

/-- In the menu ticks and mouse packets leave the panel as it is. -/
theorem calm_run (h : p.Faithful S A) (hmenu : p.pc.mainState = .mainMenu)
    (hcalm : ∀ e ∈ es, e.isAside ∨ e.isTick)
    (hrun : Transition.run (step S A) p es = some p') :
    p'.Faithful S A ∧ p.pc.SamePanel p'.pc := by
  induction es generalizing p with
  | nil =>
      cases hrun
      exact ⟨h, rfl, rfl, rfl, rfl⟩
  | cons e es ih =>
      obtain ⟨p₁, hstep, hrest⟩ := (Transition.run_cons_eq_some (step S A)).mp hrun
      have hone : p.pc.SamePanel p₁.pc := by
        rcases hcalm e List.mem_cons_self with haside | htick
        · exact (aside_step h hmenu (aside_of_isAside p haside) hstep).2
        · cases e with
          | interrupt i =>
              cases i with
              | timer =>
                  rw [(tick_menu h hstep hmenu).2.1]
                  exact ⟨rfl, rfl, rfl, rfl⟩
              | keyboard _ | mouse _ | serial _ => cases htick
          | rtc _ | arrive _ => cases htick
      obtain ⟨hfaithful, hpanel⟩ := ih (h.step hstep) (hone.mode.trans hmenu)
        (fun e' he' => hcalm e' (List.mem_cons_of_mem _ he')) hrest
      exact ⟨hfaithful, hpanel.option.trans hone.option, hpanel.menu.trans hone.menu,
        hpanel.winlose.trans hone.winlose, hpanel.mode.trans hone.mode⟩

/-- Between the ticks the screen stays as it is. -/
theorem aside_screen (h : p.Faithful S A) (haside : ∀ e ∈ es, e.isAside)
    (hrun : Transition.run (step S A) p es = some p') : p'.screen S = p.screen S := by
  induction es generalizing p with
  | nil =>
      cases hrun
      rfl
  | cons e es ih =>
      obtain ⟨p₁, hstep, hrest⟩ := (Transition.run_cons_eq_some (step S A)).mp hrun
      have hwatched := step_watched h.view h.core hstep
      -- the main buffer is written on a tick only
      have htick : e.isTick = false := by
        have haside := haside e List.mem_cons_self
        cases e with
        | interrupt i =>
            cases i with
            | timer => cases haside
            | keyboard _ | mouse _ | serial _ => rfl
        | rtc _ | arrive _ => rfl
      have hmain := hwatched.main
      rw [htick] at hmain
      exact (ih (h.step hstep) (fun e' he' => haside e' (List.mem_cons_of_mem _ he')) hrest).trans
        hmain

end Program

/-! ## Three ticks -/

namespace Notification

variable {n : Notification}

theorem mem_call_mouse {e : Happening} (he : e ∈ n.call mouseMask (.interrupt (.mouse n.mouse))) :
    e = .interrupt (.mouse n.mouse) := by
  unfold call at he
  split at he
  · exact List.eq_of_mem_singleton he
  · cases he

/-- What a notification without a tick brings. -/
theorem Calm.quiet (h : n.Calm) (hquiet : n.asks timerMask = false) :
    ∀ e ∈ n.happenings, e.isAside ∧ e.LeavesTime := by
  intro e he
  rw [h.happenings_quiet hquiet] at he
  simp only [List.mem_append, List.mem_cons, List.not_mem_nil, or_false] at he
  -- a byte arrives, the mouse, or a byte arrives
  rcases he with (rfl | he) | rfl
  · exact ⟨rfl, fun d hd => by cases hd⟩
  · obtain rfl := mem_call_mouse he
    exact ⟨rfl, fun d hd => by cases hd⟩
  · exact ⟨rfl, fun d hd => by cases hd⟩

/-- What comes after a tick in its round. -/
theorem after_tick : ∀ e ∈ n.call mouseMask (.interrupt (.mouse n.mouse)) ++
    [.rtc n.clock, .arrive n.late], e.isAside := by
  intro e he
  simp only [List.mem_append, List.mem_cons, List.not_mem_nil, or_false] at he
  rcases he with he | rfl | rfl
  · rw [mem_call_mouse he]
    rfl
  · rfl
  · rfl

end Notification

namespace Program

variable {S : Setup} {A : Artwork} {p p' : Program} {es fs : List Happening}

/-- The clock is read after the first of three ticks. -/
theorem menu_clock (h : p.Faithful S A) (hmenu : p.pc.mainState = .mainMenu)
    {before after between last : List Happening} {d : Rtc}
    (hbefore : ∀ e ∈ before, (e.isAside ∨ e.isTick) ∧ e.LeavesTime)
    (hafter : ∀ e ∈ after, e.isAside ∧ e.LeavesTime) (hbetween : ∀ e ∈ between, e.isAside)
    (hlast : ∀ e ∈ last, e.isAside)
    (hrun : Transition.run (step S A) p (before ++ .rtc d :: after ++
      (.interrupt .timer :: between ++ [.interrupt .timer]) ++ last) = some p') :
    p'.screen S = menuPicture S A p.pc.menu (rtcUpdateInfo d p.dayTimeInfo).2 := by
  -- the run in five parts: before the reading, the reading, after it, the two ticks, the rest
  obtain ⟨p₃, hrun, hrest⟩ := (Transition.run_append_eq_some (step S A)).mp hrun
  obtain ⟨p₂, hread, hticks⟩ := (Transition.run_append_eq_some (step S A)).mp hrun
  obtain ⟨p₀, hfirst, hread'⟩ := (Transition.run_append_eq_some (step S A)).mp hread
  obtain ⟨p₁, hclock, hthen⟩ := (Transition.run_cons_eq_some (step S A)).mp hread'
  have hday₀ : p₀.dayTimeInfo = p.dayTimeInfo :=
    run_dayTimeInfo (fun e he => (hbefore e he).2) hfirst
  have hday₁ : p₁.dayTimeInfo = (rtcUpdateInfo d p.dayTimeInfo).2 := by
    rw [← hday₀]
    exact congrArg Program.dayTimeInfo (Option.some.inj hclock).symm
  have hday₂ : p₂.dayTimeInfo = p₁.dayTimeInfo :=
    run_dayTimeInfo (fun e he => (hafter e he).2) hthen
  -- until the two ticks the panel stays as it was
  have hcalm : ∀ e ∈ before ++ .rtc d :: after, e.isAside ∨ e.isTick := by
    intro e he
    rw [List.mem_append, List.mem_cons] at he
    rcases he with he | rfl | he
    · exact (hbefore e he).1
    · exact .inl rfl
    · exact .inl (hafter e he).1
  obtain ⟨hfaithful, hpanel⟩ := calm_run h hmenu hcalm hread
  obtain ⟨p₅, hbegin, hend⟩ := (Transition.run_snoc_eq_some (step S A)).mp hticks
  obtain ⟨p₄, htick, hquiet⟩ := (Transition.run_cons_eq_some (step S A)).mp hbegin
  obtain ⟨hfaithful', hscreen⟩ := menu_shown hfaithful (hpanel.mode.trans hmenu) htick
    (along_of_isAside p₄ hbetween) hquiet hend
  -- what has been shown stays on the screen until the end
  rw [aside_screen hfaithful' hlast hrest, hscreen, hpanel.menu, hday₂, hday₁]

/-- A run goes on from where its first part has led. -/
theorem run_of_exec_append {loads : List Bool} {main secondary : Nat → UInt8}
    (h : exec S A loads main secondary es = some p)
    (h' : exec S A loads main secondary (es ++ fs) = some p') :
    Transition.run (step S A) p fs = some p' := by
  obtain ⟨p₀, -, -, -, hexec, -⟩ := exec_begin S A loads main secondary
  rw [hexec] at h h'
  obtain ⟨q, hq, hrest⟩ := (Transition.run_append_eq_some (step S A)).mp h'
  cases h.symm.trans hq
  exact hrest

/-- **From the registers of the clock to the screen.** After three ticks in the menu during which
the keyboard and the serial port do not interrupt, the screen shows the time of day as it was read
after the first; and that is the time in the registers, if they are decimal and could be read. -/
theorem projMainLoop_clock {main secondary : Nat → UInt8} {rs : List Receipt}
    (hloop : projMainLoop S A [] main secondary rs = some (p, []))
    (hmenu : p.pc.mainState = .mainMenu) (n₁ n₂ n₃ : Notification)
    (quiet₁ quiet₂ : List Notification)
    (hcalm : ∀ n ∈ n₁ :: quiet₁ ++ n₂ :: quiet₂ ++ [n₃], n.Calm)
    (hticks : ∀ n ∈ [n₁, n₂, n₃], n.asks timerMask = true)
    (hquiet : ∀ n ∈ quiet₁ ++ quiet₂, n.asks timerMask = false)
    (hmore : projMainLoop S A [] main secondary
      (rs ++ (n₁ :: quiet₁ ++ n₂ :: quiet₂ ++ [n₃]).map Receipt.hardware) = some (p', [])) :
    let t := (rtcUpdateInfo n₁.clock p.dayTimeInfo).2
    p'.screen S = menuPicture S A p.pc.menu t ∧
      (∀ d ∈ vgDrawRtc t 10 10, Seen S A (p'.screen S) d) ∧
      (n₁.clock.failures = [] → n₁.clock.updating = false → n₁.clock.binary = false →
        ∀ f, (t.get f).toNat = bcdValue (n₁.clock.registers f.register)) := by
  intro t
  have hexec := exec_of_projMainLoop hloop
  have hexec' := exec_of_projMainLoop hmore
  rw [List.flatMap_append, List.flatMap_map] at hexec'
  -- from here on the three notifications and the quiet ones are a list of happenings
  have hrun := run_of_exec_append hexec hexec'
  have hcalm₁ := hcalm n₁ (by simp)
  have hcalm₂ := hcalm n₂ (by simp)
  have hcalm₃ := hcalm n₃ (by simp)
  have hquiets : ∀ n ∈ quiet₁ ++ quiet₂, ∀ e ∈ n.happenings, e.isAside ∧ e.LeavesTime := by
    intro n hn
    refine (hcalm n ?_).quiet (hquiet n hn)
    rw [List.mem_append] at hn
    rcases hn with hn | hn <;> simp [hn]
  -- the first tick with its reading; the second tick, and up to the third; the rest of its round
  have hflat : (n₁ :: quiet₁ ++ n₂ :: quiet₂ ++ [n₃]).flatMap (fun n => n.happenings) =
      (.arrive n₁.early :: .interrupt .timer ::
          n₁.call mouseMask (.interrupt (.mouse n₁.mouse))) ++
        .rtc n₁.clock ::
          (.arrive n₁.late :: quiet₁.flatMap Notification.happenings ++ [.arrive n₂.early]) ++
        (.interrupt .timer ::
          (n₂.call mouseMask (.interrupt (.mouse n₂.mouse)) ++ [.rtc n₂.clock, .arrive n₂.late] ++
            quiet₂.flatMap Notification.happenings ++ [.arrive n₃.early]) ++
          [.interrupt .timer]) ++
        (n₃.call mouseMask (.interrupt (.mouse n₃.mouse)) ++
          [.rtc n₃.clock, .arrive n₃.late]) := by
    simp [hcalm₁.happenings_tick (hticks n₁ (by simp)),
      hcalm₂.happenings_tick (hticks n₂ (by simp)), hcalm₃.happenings_tick (hticks n₃ (by simp))]
  have hscreen : p'.screen S = menuPicture S A p.pc.menu t := by
    refine menu_clock (faithful_exec hexec) hmenu ?_ ?_ ?_ Notification.after_tick
      ((congrArg _ hflat).symm.trans hrun)
    · intro e he
      rw [List.mem_cons, List.mem_cons] at he
      rcases he with rfl | rfl | he
      · exact ⟨.inl rfl, fun d hd => by cases hd⟩
      · exact ⟨.inr rfl, fun d hd => by cases hd⟩
      · obtain rfl := Notification.mem_call_mouse he
        exact ⟨.inl rfl, fun d hd => by cases hd⟩
    · intro e he
      simp only [List.cons_append, List.mem_cons, List.mem_append, List.mem_flatMap,
        List.not_mem_nil, or_false] at he
      rcases he with rfl | ⟨n, hn, he⟩ | rfl
      · exact ⟨rfl, fun d hd => by cases hd⟩
      · exact hquiets n (List.mem_append_left _ hn) e he
      · exact ⟨rfl, fun d hd => by cases hd⟩
    · intro e he
      rw [List.mem_append, List.mem_append, List.mem_flatMap, List.mem_singleton] at he
      rcases he with (he | ⟨n, hn, he⟩) | rfl
      · exact Notification.after_tick e he
      · exact (hquiets n (List.mem_append_right _ hn) e he).1
      · rfl
  refine ⟨hscreen, fun d hd spot v hv => ?_, fun hworks hidle hdecimal =>
    (Rtc.rtcUpdateInfo_of_working hworks hidle hdecimal p.dayTimeInfo).2⟩
  rw [hscreen]
  have hmem : d ∈ (menuFrame A p.pc.menu t).tail := by simp [menuFrame, hd]
  exact menuPicture_seen _ _ hmem hv

/-- A tick at which the registers of the clock hold `23` for the hour, and 0 otherwise. -/
def tickAt23 : Notification :=
  ⟨timerMask, [], [], [], ⟨0, fun reg => if reg = hour then 0x23 else 0, []⟩, [], none⟩

/-- At the beginning: the second digit on the screen is the 3. -/
theorem projMainLoop_clock_begin :
    ∃ p', projMainLoop Setup.standard Artwork.plain [] (fun _ => 0) (fun _ => 0)
        ([tickAt23, tickAt23, tickAt23].map Receipt.hardware) = some (p', []) ∧
      p'.screen Setup.standard = menuPicture Setup.standard Artwork.plain
        ⟨[true, false, false], [true, false, false]⟩ ⟨0, 0, 0, 23, 0, 0⟩ ∧
      p'.screen Setup.standard (pixel 50 20 (by decide) (by decide)) =
        Artwork.plain.digit .white 3 0 := by
  obtain ⟨p, hcore, -, -, hexec, -⟩ :=
    exec_begin Setup.standard Artwork.plain [] (fun _ => 0) fun _ => 0
  have hpc : p.pc = init Setup.standard := congrArg Core.pc hcore
  have hday : p.dayTimeInfo = ⟨0, 0, 0, 0, 0, 0⟩ := congrArg Core.dayTimeInfo hcore
  have hfirst : projMainLoop Setup.standard Artwork.plain [] (fun _ => 0) (fun _ => 0) [] =
      some (p, []) := projMainLoop_of_goesOn trivial (hexec [])
  obtain ⟨p', hexec'⟩ : ∃ p', exec Setup.standard Artwork.plain [] (fun _ => 0) (fun _ => 0)
      (([tickAt23, tickAt23, tickAt23].map Receipt.hardware).flatMap Receipt.happenings) =
        some p' := by
    rw [exec_defined]
    exact ⟨Option.isSome_iff_exists.mp (by decide +kernel), by decide +kernel⟩
  have hall := projMainLoop_of_goesOn (by decide +kernel) hexec'
  have hcalm : ∀ n ∈ [tickAt23, tickAt23, tickAt23], n.Calm := by
    intro n hn
    simp only [List.mem_cons, List.not_mem_nil, or_false, or_self] at hn
    subst hn
    exact ⟨by decide, by decide, by decide⟩
  obtain ⟨hscreen, hseen, -⟩ := projMainLoop_clock hfirst (by rw [hpc]; rfl) tickAt23 tickAt23
    tickAt23 [] [] hcalm (by decide) (by simp) hall
  rw [hpc, hday] at hscreen
  rw [hday] at hseen
  refine ⟨p', hall, hscreen, ?_⟩
  exact hseen (.number .white (3 : Nat) 45 10) (List.mem_cons_of_mem _ List.mem_cons_self) _ _
    (by decide +kernel)

end Program

end AirHockey
