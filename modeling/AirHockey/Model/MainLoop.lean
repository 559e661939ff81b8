import AirHockey.Lib.EventLoop
import AirHockey.Model.Reading

/-! # The main loop

`proj_main_loop` takes one message after the other. A notification of the hardware tells in one
word which interrupts have come in, and their handlers are called in a fixed order; only then does
the loop look at `mainState` again.

`serve_eq` unfolds a notification into the happenings that it stands for, so that the loop becomes
an instance of the library's `EventLoop` (`mainLoop_eq`). What the loop needs to know of the
program is when it ends: exactly with a key that confirms Exit or Leave (`Core.stop_iff`), and
once it has ended it stays so (`Core.stop_step`). From these, as `Core.ending`,
`projMainLoop_spec` follows: the loop takes all messages up to the one in whose round the program
ends, and serves this one to the end. -/

namespace AirHockey

def timerMask : UInt32 := 0x01
def keyboardMask : UInt32 := 0x02
def mouseMask : UInt32 := 0x08

/-- The number 5, as the hook of the clock, where every other mask is one bit. -/
def rtcMask : UInt32 := 5

def spMask : UInt32 := 0x10

/-- A notification of the hardware: the pending interrupts, and what the devices answer to the
handlers. The serial port has got `early` before the handlers are called, and `late` before it is
its turn. -/
structure Notification where
  interrupts : UInt32
  early : List RxSlot
  keyboard : List KbcRead
  mouse : List KbcRead
  clock : Rtc
  late : List RxSlot
  serial : Option UInt8

/-- `msg.m_notify.interrupts & mask`. -/
def Notification.asks (n : Notification) (mask : UInt32) : Bool := n.interrupts &&& mask != 0

/-- What `driver_receive` returns with. -/
inductive Receipt where
  | failure
  | message
  | notify
  | hardware (n : Notification)

namespace Program

variable (S : Setup) (A : Artwork)

/-- The five calls for a notification of the hardware. -/
def serve (n : Notification) (p : Program) : Option Program :=
  -- the order of the calls in the source
  let p := { p with pc := p.pc.receive n.early }
  (if n.asks timerMask then p.timerInt S A else some p).bind fun p =>
  (if n.asks keyboardMask then p.keyboardInt S A n.keyboard else some p).bind fun p =>
  let p := if n.asks mouseMask then p.mouseInt n.mouse else p
  let p := if n.asks rtcMask then p.rtcInt n.clock else p
  let p := { p with pc := p.pc.receive n.late }
  if n.asks spMask then p.spInt S A n.serial else some p

/-- One round of the loop. -/
def round (p : Program) : Receipt → Option Program
  | .failure => some p
  | .message => some p
  | .notify => some p
  | .hardware n => p.serve S A n

/-- `while (mainState != STOP)`, with the messages still to come. After the last of them the loop
waits in `driver_receive`. -/
def mainLoop : List Receipt → Program → Option (Program × List Receipt)
  | [], p => some (p, [])
  | r :: rs, p =>
    if p.pc.mainState = .stop then some (p, r :: rs)
    else (p.round S A r).bind (mainLoop rs)

/-- `proj_main_loop` from the end of `init` to the beginning of `finalize`. -/
def projMainLoop (loads : List Bool) (main secondary : Nat → UInt8) (rs : List Receipt) :
    Option (Program × List Receipt) :=
  ((begin S A loads main secondary).drawFrame S A).bind (mainLoop S A rs)

end Program

/-! ## What happens in a round -/

/-- One call, if its mask asks for it. -/
def Notification.call (n : Notification) (mask : UInt32) (e : Happening) : List Happening :=
  if n.asks mask then [e] else []

def Notification.happenings (n : Notification) : List Happening :=
  .arrive n.early :: n.call timerMask (.interrupt .timer) ++
    n.call keyboardMask (.interrupt (.keyboard n.keyboard)) ++
    n.call mouseMask (.interrupt (.mouse n.mouse)) ++ n.call rtcMask (.rtc n.clock) ++
    .arrive n.late :: n.call spMask (.interrupt (.serial n.serial))

def Receipt.happenings : Receipt → List Happening
  | .hardware n => n.happenings
  | .failure | .message | .notify => []

namespace Program

variable {S : Setup} {A : Artwork} {p p' : Program}

theorem run_call (n : Notification) (mask : UInt32) (e : Happening) (p : Program) :
    Transition.run (step S A) p (n.call mask e) =
      if n.asks mask then p.step S A e else some p := by
  unfold Notification.call
  split
  · exact Transition.run_singleton (step S A) p e
  · rfl

/-- The calls are a run of the program. -/
theorem serve_eq (n : Notification) (p : Program) :
    p.serve S A n = Transition.run (step S A) p n.happenings := by
  have harrive : ∀ (q : Program) (slots : List RxSlot) (es : List Happening),
      Transition.run (step S A) q (.arrive slots :: es) =
        Transition.run (step S A) { q with pc := q.pc.receive slots } es := fun _ _ _ => rfl
  have hpure : ∀ (c : Bool) (q q' : Program),
      (if c then some q' else some q) = some (if c then q' else q) := by
    intro c q q'
    cases c <;> rfl
  unfold Notification.happenings serve
  simp only [Transition.run_append, harrive, run_call, Option.bind_assoc]
  -- timer and keyboard may fail; the rest is the same on both sides
  refine Option.bind_congr fun p₁ _ => Option.bind_congr fun p₂ _ => ?_
  simp only [step, hpure, Option.bind_some]

theorem round_eq (p : Program) (r : Receipt) :
    p.round S A r = Transition.run (step S A) p r.happenings := by
  cases r with
  | failure | message | notify => rfl
  | hardware n => exact serve_eq n p

theorem mainLoop_eq (rs : List Receipt) (p : Program) :
    p.mainLoop S A rs =
      EventLoop.loop (step S A) Receipt.happenings (fun p => p.pc.mainState = .stop) rs p := by
  induction rs generalizing p with
  | nil => rfl
  | cons r rs ih =>
      rw [mainLoop, EventLoop.loop, round_eq, funext ih]

end Program

/-! ## The end -/

namespace Pc

/-- The key confirms Exit in the menu, or Leave at a result, and no entry above it. -/
def quitKey (s : Pc) : Bool :=
  s.scancode == spaceBreakCode &&
    match s.mainState with
    | .mainMenu => s.menu.isSelected 2 && !s.menu.isSelected 0 && !s.menu.isSelected 1
    | .win | .lost | .tie => s.winlose.isSelected 1 && !s.winlose.isSelected 0
    | .rules | .game | .stop => false

theorem menuKey_quit {s s' : Pc} (hmode : s.mainState = .mainMenu) (h : s.menuKey = some s') :
    s'.mainState = .stop ↔ s.quitKey = true := by
  have htail := onKey_scrolls (fun _ _ => optionDown_scrolls) (fun _ _ => optionUp_scrolls) h
  unfold quitKey
  -- Space acts on the selected entries, in their order; the other keys select
  rw [htail.mode, hmode]
  by_cases hspace : s.scancode = spaceBreakCode
  · -- a later entry that is selected, too, decides
    cases hplay : s.menu.isSelected 0 <;> cases hrules : s.menu.isSelected 1 <;>
      cases hexit : s.menu.isSelected 2 <;>
      simp [play, resetGameState, sendStartLeave, serialPortResetFIFO, hspace, hplay, hrules,
        hmode]
  · simp [hspace, hmode]

theorem popOutButtons_quit {s s' : Pc} (hmode : s.ShowsResult) (h : s.popOutButtons = some s') :
    s'.mainState = .stop ↔ s.quitKey = true := by
  have htail := onKey_scrolls (fun _ _ => popOutUp_scrolls) (fun _ _ => popOutDown_scrolls) h
  have hlive : s.mainState ≠ .stop := by
    rcases hmode with hm | hm | hm <;> simp [hm]
  have hquit : s.quitKey = (s.scancode == spaceBreakCode &&
      (s.winlose.isSelected 1 && !s.winlose.isSelected 0)) := by
    unfold quitKey
    rcases hmode with hm | hm | hm <;> rw [hm]
  rw [htail.mode, hquit]
  by_cases hspace : s.scancode = spaceBreakCode
  -- Leave is tested before Play again, which decides if both are selected
  · cases hagain : s.winlose.isSelected 0 <;> cases hleave : s.winlose.isSelected 1 <;>
      simp [serialPortResetFIFO, resetGameState, hspace, hagain, hlive]
  · simp [hspace, hlive]

/-- **A key ends the program** exactly if it confirms that. -/
theorem keyboardInt_quit {reads : List KbcRead} {s s' : Pc} (hlive : s.mainState ≠ .stop)
    (herror : (s.kbcIh reads).keyboardError = false) (h : s.keyboardInt reads = some s') :
    s'.mainState = .stop ↔ (s.kbcIh reads).quitKey = true := by
  obtain ⟨-, hmode, -⟩ := kbcIh_menuOnly reads s
  have hfalse : ∀ {t : Pc}, t.mainState = .rules ∨ t.mainState = .game → t.quitKey = false := by
    intro t ht
    unfold quitKey
    rcases ht with ht | ht <;> rw [ht] <;> exact Bool.and_false _
  unfold keyboardInt at h
  dsimp only at h
  rw [if_neg (by rw [herror]; exact Bool.false_ne_true)] at h
  split at h
  case h_1 hm => exact menuKey_quit hm h
  case h_2 hm =>
    cases h
    rw [hfalse (.inr hm)]
    refine iff_of_false ?_ Bool.false_ne_true
    unfold gameKey
    split
    · exact fun hstop => by cases hstop
    · rw [hm]
      exact fun hstop => by cases hstop
  case h_3 hm =>
    cases h
    rw [hfalse (.inl hm)]
    refine iff_of_false ?_ Bool.false_ne_true
    split
    · exact fun hstop => by cases hstop
    · rw [hm]
      exact fun hstop => by cases hstop
  case h_4 hm => exact popOutButtons_quit (.inl hm) h
  case h_5 hm => exact popOutButtons_quit (.inr (.inl hm)) h
  case h_6 hm => exact popOutButtons_quit (.inr (.inr hm)) h
  case h_7 hm => exact absurd (hmode.symm.trans hm) hlive

end Pc

namespace Core

/-- What ends the program. -/
def Quits (c : Core) : Happening → Prop
  | .interrupt (.keyboard reads) =>
    (c.pc.kbcIh reads).keyboardError = false ∧ (c.pc.kbcIh reads).quitKey = true
  | .interrupt .timer | .interrupt (.mouse _) | .interrupt (.serial _) | .rtc _ | .arrive _ => False

instance (c : Core) : DecidablePred c.Quits
  | .interrupt (.keyboard _) => inferInstanceAs (Decidable (_ ∧ _))
  | .interrupt .timer | .interrupt (.mouse _) | .interrupt (.serial _) | .rtc _ | .arrive _ =>
    isFalse id

variable {c c' : Core} {e : Happening}

/-- Only a key that confirms it ends the program. -/
theorem stop_iff (hsound : c.Sound) (hlive : c.pc.mainState ≠ .stop) (h : c.step e = some c') :
    c'.pc.mainState = .stop ↔ c.Quits e := by
  by_cases hdraws : c.Draws c' e
  · cases e with
    | rtc d => cases hdraws
    | arrive slots => cases hdraws
    | interrupt i =>
        obtain ⟨s, hs, heq⟩ := Option.map_eq_some_iff.mp h
        subst heq
        cases i with
        | timer =>
            cases hs
            refine iff_of_false ?_ id
            show c.pc.timerInt.mainState ≠ .stop
            rcases hdraws with hmenu | hgame
            · rw [Pc.timerInt_of_not_game (by rw [hmenu]; decide)]
              exact hlive
            -- a tick of the game ends in a result or goes on
            · rw [(Pc.timerInt_score hgame).1, Pc.testedMode_eq]
              unfold verdict
              grind
        | keyboard reads =>
            have herror : (c.pc.kbcIh reads).keyboardError = false := hdraws
            rw [Pc.keyboardInt_quit hlive herror hs]
            exact ⟨fun hquit => ⟨herror, hquit⟩, And.right⟩
        | mouse reads => cases hdraws
        | serial iir =>
            refine iff_of_false (fun hstop => ?_) id
            cases hdraws.2.symm.trans hstop
  · have hquits : ¬c.Quits e := by
      intro hquits
      cases e with
      | rtc d => exact hquits
      | arrive slots => exact hquits
      | interrupt i =>
          cases i with
          | keyboard reads => exact hdraws hquits.1
          | timer | mouse _ | serial _ => exact hquits
    refine iff_of_false (fun hstop => ?_) hquits
    rcases step_still hsound h hdraws with hsame | ⟨-, hgame, -⟩
    · exact hlive (hsame.panel.mode.symm.trans hstop)
    · cases hgame.symm.trans hstop

/-- At the end nothing happens any more. -/
theorem stop_step (hsound : c.Sound) (hstop : c.pc.mainState = .stop) (h : c.step e = some c') :
    c'.pc.mainState = .stop := by
  by_cases hdraws : c.Draws c' e
  · cases e with
    | rtc d => cases hdraws
    | arrive slots => cases hdraws
    | interrupt i =>
        obtain ⟨s, hs, heq⟩ := Option.map_eq_some_iff.mp h
        subst heq
        cases i with
        | timer => rcases hdraws with hm | hm <;> cases hm.symm.trans hstop
        | keyboard reads =>
            cases Pc.keyboardInt_step hs with
            | stay _ hmode => exact hmode.trans hstop
            | select _ hmode _ | back _ hmode _ | play _ hmode _ _ | leave _ hmode _ _ =>
                cases hmode.symm.trans hstop
            | again _ _ _ hmode _ _ | quit _ hmode _ _ => simp [Pc.ShowsResult, hstop] at hmode
        | mouse reads => cases hdraws
        | serial iir => cases hdraws.1.symm.trans hstop
  · rcases step_still hsound h hdraws with hsame | ⟨hmenu, -, -⟩
    · exact hsame.panel.mode.trans hstop
    · cases hmenu.symm.trans hstop

theorem ending : EventLoop.Ending step (fun c => c.pc.mainState = .stop) Sound Quits where
  keeps _ _ _ := Sound.step
  stays _ _ _ := stop_step
  exact _ _ _ := stop_iff

/-- From the beginning on no key ends the program. -/
def GoesOn (S : Setup) (es : List Happening) : Prop :=
  Transition.Along step (fun c e => ¬c.Quits e) (begin S) es

instance (S : Setup) (es : List Happening) : Decidable (GoesOn S es) :=
  inferInstanceAs (Decidable (Transition.Along _ _ _ _))

theorem live_begin (S : Setup) : (begin S).pc.mainState ≠ .stop := fun hstop => by cases hstop

end Core

namespace Program

variable {S : Setup} {A : Artwork} {p p' : Program} {loads : List Bool}
  {main secondary : Nat → UInt8} {rs rest : List Receipt}
  {es : List Happening}

/-- The loop starts from the first frame. -/
theorem projMainLoop_eq (S : Setup) (A : Artwork) (loads : List Bool)
    (main secondary : Nat → UInt8) (rs : List Receipt) :
    ∃ p : Program, p.pc.mainState ≠ .stop ∧
      projMainLoop S A loads main secondary rs = p.mainLoop S A rs ∧
      ∀ es, exec S A loads main secondary es = Transition.run (step S A) p es := by
  obtain ⟨p, hcore, -, hp, hexec, -⟩ := exec_begin S A loads main secondary
  have hpc : p.pc = init S := congrArg Core.pc hcore
  refine ⟨p, ?_, ?_, hexec⟩
  · rw [hpc]
    exact Core.live_begin S
  · rw [projMainLoop, hp, Option.bind_some]

/-- A run has come to the end if it does not go on. -/
theorem stop_iff (h : exec S A loads main secondary es = some p) :
    p.pc.mainState = .stop ↔ ¬Core.GoesOn S es :=
  Core.ending.run (Core.sound_begin S) (Core.live_begin S) (exec_core h)

/-- **When the loop is left.** It takes all messages, or those up to the first in whose round a key
ends the program, which it serves to the last handler; and the program is where the handlers of
these messages bring it. -/
theorem projMainLoop_spec (h : projMainLoop S A loads main secondary rs = some (p', rest)) :
    ∃ taken, rs = taken ++ rest ∧
      exec S A loads main secondary (taken.flatMap Receipt.happenings) = some p' ∧
      (p'.pc.mainState = .stop ↔ ¬Core.GoesOn S (taken.flatMap Receipt.happenings)) ∧
      (p'.pc.mainState ≠ .stop → rest = []) ∧
      ∀ before r, taken = before ++ [r] →
        Core.GoesOn S (before.flatMap Receipt.happenings) := by
  obtain ⟨p, hlive, hloop, hexec⟩ := projMainLoop_eq S A loads main secondary rs
  rw [hloop, mainLoop_eq] at h
  obtain ⟨taken, hrs, hrun, hrest, hbefore⟩ :=
    EventLoop.loop_taken (fun q : Program => q.pc.mainState = .stop) hlive h
  have hexec' := (hexec (taken.flatMap Receipt.happenings)).trans hrun
  refine ⟨taken, hrs, hexec', stop_iff hexec', hrest, fun before r heq => ?_⟩
  obtain ⟨q, hq, hnot⟩ := hbefore before r heq
  -- the loop has gone on after `before`, so the program had not ended there
  exact not_not.mp fun hgoes => hnot ((stop_iff ((hexec _).trans hq)).mpr hgoes)

/-- A loop that has taken all its messages has served them all. -/
theorem exec_of_projMainLoop (h : projMainLoop S A loads main secondary rs = some (p', [])) :
    exec S A loads main secondary (rs.flatMap Receipt.happenings) = some p' := by
  obtain ⟨p, hlive, hloop, hexec⟩ := projMainLoop_eq S A loads main secondary rs
  rw [hloop, mainLoop_eq] at h
  obtain ⟨taken, hrs, hrun, -, -⟩ :=
    EventLoop.loop_taken (fun q : Program => q.pc.mainState = .stop) hlive h
  rw [hrs, List.append_nil, hexec]
  exact hrun

/-- A loop that has not come to its end has no message left. -/
theorem rest_of_live (h : projMainLoop S A loads main secondary rs = some (p', rest))
    (hlive : p'.pc.mainState ≠ .stop) : rest = [] := by
  obtain ⟨p, hlive₀, hloop, -⟩ := projMainLoop_eq S A loads main secondary rs
  rw [hloop, mainLoop_eq] at h
  obtain ⟨-, -, -, hrest, -⟩ :=
    EventLoop.loop_taken (fun q : Program => q.pc.mainState = .stop) hlive₀ h
  exact hrest hlive

/-- A loop whose messages can all be served has a result. -/
theorem projMainLoop_of_exec
    (h : exec S A loads main secondary (rs.flatMap Receipt.happenings) = some p') :
    ∃ r, projMainLoop S A loads main secondary rs = some r := by
  obtain ⟨p, -, hloop, hexec⟩ := projMainLoop_eq S A loads main secondary rs
  rw [hexec] at h
  rw [hloop, mainLoop_eq]
  exact EventLoop.loop_eq_some h

/-- As long as no key ends the program, every message is taken. -/
theorem projMainLoop_of_goesOn (hgoes : Core.GoesOn S (rs.flatMap Receipt.happenings))
    (h : exec S A loads main secondary (rs.flatMap Receipt.happenings) = some p') :
    projMainLoop S A loads main secondary rs = some (p', []) := by
  obtain ⟨⟨q, rest⟩, hall⟩ := projMainLoop_of_exec h
  obtain ⟨p, hlive, hloop, hexec⟩ := projMainLoop_eq S A loads main secondary rs
  -- the loop has taken some messages, and the rest is empty as the program has not ended
  have hloop := (mainLoop_eq rs p).symm.trans (hloop.symm.trans hall)
  obtain ⟨taken, rfl, hrun, hrest, -⟩ :=
    EventLoop.loop_taken (fun q : Program => q.pc.mainState = .stop) hlive hloop
  have hexec' := (hexec (taken.flatMap Receipt.happenings)).trans hrun
  rw [List.flatMap_append] at hgoes h
  have hnil : rest = [] := hrest fun hstop => (stop_iff hexec').mp hstop hgoes.left
  subst hnil
  rw [List.flatMap_nil, List.append_nil] at h
  cases hexec'.symm.trans h
  exact hall

end Program

/-- A notification of a key, and one of a tick at which the clock has nothing to say. -/
def keyReceipt (code : UInt8) : Receipt :=
  .hardware ⟨keyboardMask, [], [⟨some 0x01, some code⟩], [], ⟨0, fun _ => 0, []⟩, [], none⟩

/-- Down to Exit, and a last message that comes too late. -/
def downAndOut : List Receipt :=
  [keyReceipt sBreakCode, keyReceipt sBreakCode, keyReceipt spaceBreakCode,
    keyReceipt spaceBreakCode]

/-- The loop is left after the third of them. -/
theorem Program.projMainLoop_downAndOut :
    ∃ p, projMainLoop Setup.standard Artwork.plain [] (fun _ => 0) (fun _ => 0) downAndOut =
      some (p, [keyReceipt spaceBreakCode]) ∧ p.pc.mainState = .stop := by
  obtain ⟨p₁, hexec⟩ : ∃ p₁, exec Setup.standard Artwork.plain [] (fun _ => 0) (fun _ => 0)
      (downAndOut.flatMap Receipt.happenings) = some p₁ := by
    rw [exec_defined]
    exact ⟨Option.isSome_iff_exists.mp (by decide +kernel), by decide +kernel⟩
  obtain ⟨⟨p, rest⟩, hloop⟩ := projMainLoop_of_exec hexec
  obtain ⟨taken, heq, -, hstop, hrest, hbefore⟩ := projMainLoop_spec hloop
  -- the loop goes on after two keys, and not after three
  have hgoes : ∀ rs ∈ [[], downAndOut.take 1, downAndOut.take 2],
      Core.GoesOn Setup.standard (rs.flatMap Receipt.happenings) := by decide +kernel
  have hends : ¬Core.GoesOn Setup.standard ((downAndOut.take 3).flatMap Receipt.happenings) := by
    decide +kernel
  have hlive : ∀ rs ∈ [[], downAndOut.take 1, downAndOut.take 2], taken = rs → rest = [] := by
    rintro rs hrs rfl
    exact hrest fun hnot => hstop.mp hnot (hgoes _ hrs)
  rcases taken with _ | ⟨r₁, _ | ⟨r₂, _ | ⟨r₃, _ | ⟨r₄, taken⟩⟩⟩⟩
  · cases hlive _ (by simp) rfl
    cases heq
  · cases heq
    cases hlive [_] (by simp [downAndOut]) rfl
  · cases heq
    cases hlive [_, _] (by simp [downAndOut]) rfl
  · cases heq
    exact ⟨p, hloop, hstop.mpr hends⟩
  · have hlength := congrArg List.length heq
    simp only [downAndOut, List.length_append, List.length_cons, List.length_nil] at hlength
    obtain rfl : taken = [] := List.eq_nil_of_length_eq_zero (by omega)
    obtain rfl : rest = [] := List.eq_nil_of_length_eq_zero (by omega)
    cases heq
    exact absurd (hbefore (downAndOut.take 3) _ rfl) hends

end AirHockey
