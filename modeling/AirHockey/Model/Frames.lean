import AirHockey.Model.Canvas

/-! # Drawing a frame

What one drawing command does, and from it what a list of them does: when it has an outcome, and
which picture it leaves in the secondary buffer. Then the frames of the program: all that they
draw lies on the screen, and only the digits can be missing.

`draw_spec` is the lemma for one command and `run_draw` for a list of them, by induction on the
list; `run_draw_iff` makes the condition exact. `placed_frame` and `inArray_frame` say of the
frames of the program what these ask for: everything is on the screen in every state, and every
digit is in its array exactly if the frame is `Drawable`. -/

namespace AirHockey

variable {S : Screen} {A : Artwork}

namespace View

/-- What the view keeps from its beginning on: two buffers of the size of the video memory, and ten
digits of each colour. -/
structure Sound (S : Screen) (A : Artwork) (v : View) : Prop where
  main : v.mainBuffer.size = S.vramSize
  secondary : v.secondaryBuffer.size = S.vramSize
  length : ∀ font, (v.numbers font).length = 10
  digit : ∀ font i, i < 10 →
    ∃ x y, (v.numbers font)[i]? = some (createSprite (A.digitImage font i) x y)

end View

namespace Draw

/-- The digit that the command looks up is in its array. -/
def InArray : Draw → Prop
  | number _ i _ _ => 0 ≤ i ∧ i < 10
  | _ => True

instance : DecidablePred InArray
  | number _ _ _ _ => inferInstanceAs (Decidable (_ ∧ _))
  | background _ | popOut _ | sprite _ => isTrue trivial

/-- What the command draws lies on the screen. -/
def Placed (S : Screen) (A : Artwork) : Draw → Prop
  | background b | popOut b => b.size.1 ≤ S.hRes ∧ b.size.2 ≤ S.vRes
  | sprite s => S.Holds s
  | number font i x y => 0 ≤ i ∧ i < 10 → S.Holds (createSprite (A.digitImage font i.toNat) x y)

/-- What the command paints. -/
def layer (S : Screen) (A : Artwork) : Draw → Layer S.Spot UInt8
  | background b => S.imageLayer 0 0 (A.backdropImage b)
  | popOut b =>
    S.imageLayer (S.hRes / 2 - b.size.1 / 2) (S.vRes / 2 - b.size.2 / 2) (A.backdropImage b)
  | sprite s => S.spriteLayer s
  | number font i x y => S.spriteLayer (createSprite (A.digitImage font i.toNat) x y)

/-- The command needs a picture that cannot be loaded. -/
def Misses (v : View) : Draw → Prop
  | background b | popOut b => (v.load b).1 = false
  | _ => False

end Draw

namespace View

variable {v v' : View}

/-- What a command has done: it has painted its layer, unless its picture was missing. -/
structure Drawn (S : Screen) (A : Artwork) (v : View) (d : Draw) (v' : View) : Prop where
  sound : v'.Sound S A
  main : v'.mainBuffer = v.mainBuffer
  loads : v.loads = [] → v'.loads = []
  painted : ¬d.Misses v →
    S.canvas v'.secondaryBuffer = (d.layer S A).onto (S.canvas v.secondaryBuffer)
  missed : d.Misses v → S.canvas v'.secondaryBuffer = S.canvas v.secondaryBuffer

/-- Loading a picture changes neither the buffers nor the digits. -/
theorem load_frame (b : Backdrop) (v : View) :
    (v.load b).2.numbers = v.numbers ∧ (v.load b).2.mainBuffer = v.mainBuffer ∧
      (v.load b).2.secondaryBuffer = v.secondaryBuffer ∧ (v.loads = [] → (v.load b).2.loads = []) ∧
      (v.loads = [] → (v.load b).1 = true) := by
  unfold load
  split
  · exact ⟨rfl, rfl, rfl, id, fun _ => rfl⟩
  · split
    · next hfails =>
        refine ⟨rfl, rfl, rfl, fun h => ?_, fun h => ?_⟩
        · rw [h] at hfails
          cases hfails
        · rw [h] at hfails
          cases hfails
    · refine ⟨rfl, rfl, rfl, fun h => ?_, fun _ => rfl⟩
      show v.loads.tail = []
      rw [h]
      rfl

/-- When no call of `xpm_load` fails, no picture is missing. -/
theorem not_misses (h : v.loads = []) (d : Draw) : ¬d.Misses v := by
  have hload : ∀ b, ¬(v.load b).1 = false := by
    intro b
    rw [(load_frame b v).2.2.2.2 h]
    exact Bool.noConfusion
  cases d with
  | background b => exact hload b
  | popOut b => exact hload b
  | sprite _ => exact id
  | number _ _ _ _ => exact id

/-- One of the two ways of drawing a whole picture, after it has been loaded. -/
theorem drawn_image (hsound : v.Sound S A) {d : Draw} {b : Backdrop} (left top : Nat)
    (hleft : left + b.size.1 ≤ S.hRes) (htop : top + b.size.2 ≤ S.vRes)
    (hmisses : d.Misses v ↔ (v.load b).1 = false)
    (hlayer : d.layer S A = S.imageLayer left top (A.backdropImage b))
    (hfails : (v.load b).1 = false → v.draw S A d = some (v.load b).2)
    (hdraw : (v.load b).1 = true → v.draw S A d =
      (S.copyLines (A.backdropImage b) left (A.backdropImage b).height top 0
        (v.load b).2.secondaryBuffer).map fun buffer =>
          { (v.load b).2 with secondaryBuffer := buffer }) :
    ∃ v', v.draw S A d = some v' ∧ Drawn S A v d v' := by
  obtain ⟨hnumbers, hmain, hsecondary, hloads, -⟩ := load_frame b v
  cases hload : (v.load b).1 with
  | false =>
      refine ⟨_, hfails hload, ⟨?_, ?_, ?_, ?_⟩, hmain, hloads, ?_, ?_⟩
      · rw [hmain]
        exact hsound.main
      · rw [hsecondary]
        exact hsound.secondary
      · rw [hnumbers]
        exact hsound.length
      · rw [hnumbers]
        exact hsound.digit
      · intro h
        exact absurd (hmisses.mpr hload) h
      · intro _
        rw [hsecondary]
  | true =>
      have hleft' : left + (A.backdropImage b).width ≤ S.hRes := hleft
      have htop' : top + (A.backdropImage b).height ≤ S.vRes := htop
      obtain ⟨buffer, hcopy, hsize, hcanvas⟩ :=
        Screen.copyLines_canvas hleft' htop' (hsecondary ▸ hsound.secondary)
      refine ⟨{ (v.load b).2 with secondaryBuffer := buffer }, ?_, ⟨?_, hsize, ?_, ?_⟩, hmain,
        hloads, ?_, ?_⟩
      · rw [hdraw hload, hcopy]
        rfl
      · show (v.load b).2.mainBuffer.size = _
        rw [hmain]
        exact hsound.main
      · show ∀ font, ((v.load b).2.numbers font).length = 10
        rw [hnumbers]
        exact hsound.length
      · show ∀ font i, i < 10 → ∃ x y, ((v.load b).2.numbers font)[i]? = _
        rw [hnumbers]
        exact hsound.digit
      · intro _
        show S.canvas buffer = _
        rw [hcanvas, hlayer, hsecondary]
      · intro h
        rw [hmisses, hload] at h
        cases h

/-- Drawing a sprite that is on the screen. -/
theorem drawn_sprite (hsound : v.Sound S A) {s : Sprite} (hholds : S.Holds s) :
    ∃ v', (v.vgDrawSprite S s).map Prod.snd = some v' ∧ v'.Sound S A ∧
      (v'.mainBuffer = v.mainBuffer ∧ v'.loads = v.loads) ∧
      S.canvas v'.secondaryBuffer = (S.spriteLayer s).onto (S.canvas v.secondaryBuffer) := by
  obtain ⟨buffer, hdraw, hsize, hcanvas⟩ := Screen.vgDrawSprite_canvas hholds hsound.secondary
  refine ⟨{ v with secondaryBuffer := buffer }, ?_,
    ⟨hsound.main, hsize, hsound.length, hsound.digit⟩, ⟨rfl, rfl⟩, hcanvas⟩
  rw [vgDrawSprite, hdraw]
  rfl

/-- Moving a digit keeps the arrays sound. -/
theorem Sound.place (hsound : v.Sound S A) (font : Font) {i : Nat} (hi : i < 10) (x y : Int) :
    View.Sound S A { v with
      numbers := Function.update v.numbers font
        ((v.numbers font).set i (createSprite (A.digitImage font i) x y)) } where
  main := hsound.main
  secondary := hsound.secondary
  length font' := by
    by_cases h : font' = font
    · subst h
      simp [hsound.length]
    · simp [h, hsound.length]
  digit font' i' hi' := by
    by_cases h : font' = font
    -- the digit that has been moved is the one that is looked up, or it is not
    · subst h
      by_cases heq : i = i'
      · subst heq
        exact ⟨x, y, by simp [hsound.length, hi]⟩
      · obtain ⟨x', y', hdigit⟩ := hsound.digit font' i' hi'
        exact ⟨x', y', by simp [heq, hdigit]⟩
    · obtain ⟨x', y', hdigit⟩ := hsound.digit font' i' hi'
      exact ⟨x', y', by simp [h, hdigit]⟩

/-- **One command** that stays in its array has an outcome, and paints its layer. -/
theorem draw_spec (hsound : v.Sound S A) {d : Draw} (hplaced : d.Placed S A) (hin : d.InArray) :
    ∃ v', v.draw S A d = some v' ∧ Drawn S A v d v' := by
  cases d with
  | background b =>
      obtain ⟨hwidth, hheight⟩ := hplaced
      -- the background begins in the upper left corner …
      refine drawn_image hsound 0 0 (by omega) (by omega) Iff.rfl rfl ?_ ?_
      all_goals
        intro hload
        rw [draw, vgDrawBackground]
        generalize v.load b = out at hload ⊢
        obtain ⟨_, v⟩ := out
        cases hload
      · rfl
      · exact Option.map_map ..
  | popOut b =>
      obtain ⟨hwidth, hheight⟩ := hplaced
      -- … and a pop-out in the middle of the screen
      refine drawn_image hsound (S.hRes / 2 - b.size.1 / 2) (S.vRes / 2 - b.size.2 / 2)
        (by omega) (by omega) Iff.rfl rfl ?_ ?_
      all_goals
        intro hload
        rw [draw, vgDrawnPopOut]
        generalize v.load b = out at hload ⊢
        obtain ⟨_, v⟩ := out
        cases hload
      · rfl
      · exact Option.map_map ..
  | sprite s =>
      obtain ⟨v', hdraw, hsound', ⟨hmain, hloads⟩, hcanvas⟩ := drawn_sprite hsound hplaced
      exact ⟨v', hdraw, hsound', hmain, fun h => hloads.trans h, fun _ => hcanvas, False.elim⟩
  | number font i x y =>
      obtain ⟨hlow, hhigh⟩ := hin
      have hi : i.toNat < 10 := by omega
      obtain ⟨_, _, hdigit⟩ := hsound.digit font i.toNat hi
      obtain ⟨v', hdraw, hsound', ⟨hmain, hloads⟩, hcanvas⟩ :=
        drawn_sprite (hsound.place font hi x y) (hplaced ⟨hlow, hhigh⟩)
      refine ⟨v', ?_, hsound', hmain, fun h => hloads.trans h, fun _ => hcanvas, False.elim⟩
      rw [draw, drawNumber, if_neg (by omega), hdigit]
      exact hdraw

/-- A command that leaves its array has no outcome. -/
theorem draw_eq_none (hsound : v.Sound S A) {d : Draw} (hin : ¬d.InArray) :
    v.draw S A d = none := by
  cases d with
  | background _ | popOut _ | sprite _ => exact absurd trivial hin
  | number font i x y =>
      rw [draw, drawNumber]
      by_cases hneg : i < 0
      · rw [if_pos hneg]
        rfl
      · have hlarge : ¬i < 10 := fun hlt => hin ⟨by omega, hlt⟩
        have hnone : (v.numbers font)[i.toNat]? = none := by
          rw [List.getElem?_eq_none_iff, hsound.length]
          omega
        rw [if_neg hneg, hnone]
        rfl

/-! ## Many commands -/

/-- What a list of commands leaves: every buffer but the secondary one as it was, and in that one,
when all pictures can be loaded, the layers of the commands. -/
structure Painted (S : Screen) (A : Artwork) (v : View) (ds : List Draw) (v' : View) : Prop where
  sound : v'.Sound S A
  main : v'.mainBuffer = v.mainBuffer
  loads : v.loads = [] → v'.loads = []
  canvas : v.loads = [] → S.canvas v'.secondaryBuffer =
    Layer.paint (ds.map (Draw.layer S A)) (S.canvas v.secondaryBuffer)

theorem run_draw {ds : List Draw} (hsound : v.Sound S A) (hplaced : ∀ d ∈ ds, d.Placed S A)
    (hin : ∀ d ∈ ds, d.InArray) :
    ∃ v', Transition.run (draw S A) v ds = some v' ∧ Painted S A v ds v' := by
  -- the view is sound after the first command, which is what the second one needs
  induction ds generalizing v with
  | nil => exact ⟨v, rfl, hsound, rfl, id, fun _ => rfl⟩
  | cons d ds ih =>
      obtain ⟨v₁, hdraw, hdrawn⟩ := draw_spec hsound (hplaced d List.mem_cons_self)
        (hin d List.mem_cons_self)
      obtain ⟨v', hrun, hpainted⟩ := ih hdrawn.sound
        (fun d' hd' => hplaced d' (List.mem_cons_of_mem _ hd'))
        (fun d' hd' => hin d' (List.mem_cons_of_mem _ hd'))
      refine ⟨v', (Transition.run_cons_eq_some (draw S A)).mpr ⟨v₁, hdraw, hrun⟩, hpainted.sound,
        hpainted.main.trans hdrawn.main, fun h => hpainted.loads (hdrawn.loads h), fun h => ?_⟩
      rw [hpainted.canvas (hdrawn.loads h), hdrawn.painted (not_misses h d)]
      rfl

/-- **When drawing goes well**: exactly when no digit is looked up outside of its array. -/
theorem run_draw_iff {ds : List Draw} (hsound : v.Sound S A) (hplaced : ∀ d ∈ ds, d.Placed S A) :
    (∃ v', Transition.run (draw S A) v ds = some v') ↔ ∀ d ∈ ds, d.InArray := by
  constructor
  · rintro ⟨v', hrun⟩
    induction ds generalizing v with
    | nil =>
        intro d hd
        cases hd
    | cons d ds ih =>
        obtain ⟨v₁, hdraw, hrest⟩ := (Transition.run_cons_eq_some (draw S A)).mp hrun
        have hin : d.InArray := by
          by_contra hnot
          rw [draw_eq_none hsound hnot] at hdraw
          cases hdraw
        obtain ⟨v₂, hdraw', hdrawn⟩ := draw_spec hsound (hplaced d List.mem_cons_self) hin
        cases hdraw.symm.trans hdraw'
        have hrest := ih hdrawn.sound (fun d' hd' => hplaced d' (List.mem_cons_of_mem _ hd')) hrest
        intro d' hd'
        rcases List.mem_cons.mp hd' with rfl | hd'
        · exact hin
        · exact hrest d' hd'
  · intro hin
    obtain ⟨v', hrun, -⟩ := run_draw hsound hplaced hin
    exact ⟨v', hrun⟩

end View

/-! ## The frames of the program

Everything that is drawn lies on the screen, whatever the state. -/

theorem digitSize_le (i : Nat) : (digitSize i).1 ≤ 31 ∧ (digitSize i).2 ≤ 31 := by
  unfold digitSize
  split <;> decide

/-- A digit is on the screen if a square of 31 pixels is. -/
theorem holds_digit {S : Setup} {A : Artwork} {font : Font} {i : Nat} {x y : Int}
    (hx : 0 ≤ x ∧ x ≤ 1121) (hy : 0 ≤ y ∧ y ≤ 833) :
    S.screen.Holds (createSprite (A.digitImage font i) x y) := by
  obtain ⟨hwidth, hheight⟩ := digitSize_le i
  constructor
  · exact hx.1
  · show x + ((digitSize i).1 : Nat) ≤ (1152 : Nat)
    omega
  · exact hy.1
  · show y + ((digitSize i).2 : Nat) ≤ (864 : Nat)
    omega

/-- A sprite that never moves. -/
theorem holds_icon {S : Setup} {A : Artwork} {icon : Icon} {x y : Int}
    (hx : 0 ≤ x ∧ x + icon.size.1 ≤ 1152) (hy : 0 ≤ y ∧ y + icon.size.2 ≤ 864) :
    S.screen.Holds (createSprite (A.iconImage icon) x y) :=
  ⟨hx.1, hx.2, hy.1, hy.2⟩

section

variable {S : Setup} {A : Artwork}

theorem size_backdrop (b : Backdrop) : b.size.1 ≤ S.screen.hRes ∧ b.size.2 ≤ S.screen.vRes := by
  show b.size.1 ≤ 1152 ∧ b.size.2 ≤ 864
  -- there are two sizes, and both fit on the screen
  cases b <;> decide

theorem placed_drawButton {buttons : Buttons} {i : Nat} {unselected selected : Sprite}
    (h : S.screen.Holds unselected) (h' : S.screen.Holds selected) :
    (drawButton buttons i unselected selected).Placed S.screen A := by
  unfold drawButton
  split
  · exact h
  · exact h'

theorem placed_drawField {field : UInt8} {x₁ x₂ y : Int} (h₁ : 0 ≤ x₁ ∧ x₁ ≤ 1121)
    (h₂ : 0 ≤ x₂ ∧ x₂ ≤ 1121) (hy : 0 ≤ y ∧ y ≤ 833) :
    ∀ d ∈ drawField field x₁ x₂ y, d.Placed S.screen A := by
  intro d hd
  simp only [drawField, List.mem_cons, List.not_mem_nil, or_false] at hd
  rcases hd with rfl | rfl
  · exact fun _ => holds_digit h₁ hy
  · exact fun _ => holds_digit h₂ hy

theorem placed_menuFrame (menu : Buttons) (t : DayTime) :
    ∀ d ∈ menuFrame A menu t, d.Placed S.screen A := by
  -- the time of day: digit by digit in the upper line, with `20` for the century
  have hrtc : ∀ d ∈ vgDrawRtc t 10 10, d.Placed S.screen A := by
    unfold vgDrawRtc
    simp only [List.forall_mem_append, and_assoc]
    refine ⟨?_, ?_, ?_, ?_, ?_, ?_, ?_⟩
    case refine_6 =>
      intro d hd
      simp only [List.mem_cons, List.not_mem_nil, or_false] at hd
      rcases hd with rfl | rfl
      all_goals exact fun _ => holds_digit (by decide) (by decide)
    all_goals exact placed_drawField (by decide) (by decide) (by decide)
  unfold menuFrame
  simp only [List.forall_mem_append]
  refine ⟨⟨?_, hrtc⟩, ?_⟩
  · intro d hd
    simp only [List.mem_cons, List.not_mem_nil, or_false] at hd
    rcases hd with rfl | rfl | rfl | rfl
    · exact size_backdrop _
    all_goals
      exact placed_drawButton (holds_icon (by decide) (by decide))
        (holds_icon (by decide) (by decide))
  · intro d hd
    simp only [List.mem_cons, List.not_mem_nil, or_false] at hd
    rcases hd with rfl | rfl | rfl | rfl
    all_goals exact holds_icon (by decide) (by decide)

theorem placed_popOutFrame (b : Backdrop) (winlose : Buttons) :
    ∀ d ∈ popOutFrame A b winlose, d.Placed S.screen A := by
  intro d hd
  simp only [popOutFrame, List.mem_cons, List.not_mem_nil, or_false] at hd
  rcases hd with rfl | rfl | rfl
  · exact size_backdrop b
  all_goals
    exact placed_drawButton (holds_icon (by decide) (by decide))
      (holds_icon (by decide) (by decide))

theorem placed_gameFrame {t : Table} (ht : t.Confined) (time : Nat) :
    ∀ d ∈ gameFrame A t time, d.Placed S.screen A := by
  intro d hd
  simp only [gameFrame, vgDrawTime, vgDrawPoints, List.cons_append, List.nil_append, List.mem_cons,
    List.not_mem_nil, or_false] at hd
  rcases hd with rfl | rfl | rfl | rfl | rfl | rfl | rfl | rfl | rfl | rfl | rfl | rfl | rfl | rfl |
    rfl
  -- the moving sprites are inside the table, which is inside the screen
  · exact size_backdrop _
  · exact (ht .redpuck).holds
  · exact (ht .bluepuck).holds
  · exact (ht .mouse).holds
  · exact (ht .ball).holds
  iterate 4 exact holds_icon (by decide) (by decide)
  all_goals exact fun _ => holds_digit (by decide) (by decide)

theorem placed_frame {s : Pc} (hs : s.table.Confined) (t : DayTime) :
    ∀ d ∈ frame A s t, d.Placed S.screen A := by
  unfold frame
  split
  · exact placed_menuFrame _ _
  · intro d hd
    simp only [List.mem_cons, List.not_mem_nil, or_false] at hd
    subst hd
    exact size_backdrop _
  · exact placed_gameFrame hs _
  iterate 3 exact placed_popOutFrame _ _
  · intro d hd
    cases hd

end

/-! ## The digits of a frame -/

theorem inArray_drawField {field : UInt8} {x₁ x₂ y : Int} :
    (∀ d ∈ drawField field x₁ x₂ y, d.InArray) ↔ field.toNat < 100 := by
  simp only [drawField, List.forall_mem_cons, List.not_mem_nil, IsEmpty.forall_iff, implies_true,
    and_true, Draw.InArray]
  -- two digits are enough for a number below 100
  omega

theorem inArray_vgDrawRtc {t : DayTime} {x y : Int} :
    (∀ d ∈ vgDrawRtc t x y, d.InArray) ↔ ∀ f, (t.get f).toNat < 100 := by
  unfold vgDrawRtc
  simp only [List.forall_mem_append, inArray_drawField]
  constructor
  · rintro ⟨⟨⟨⟨⟨⟨hh, hm⟩, hs⟩, hdd⟩, hmm⟩, -⟩, hyyyy⟩ f
    cases f <;> assumption
  · intro h
    refine ⟨⟨⟨⟨⟨⟨h .h, h .m⟩, h .s⟩, h .dd⟩, h .mm⟩, ?_⟩, h .yyyy⟩
    simp [Draw.InArray]

/-- Every number in the frame has its digits: both scores during a game, and every field of the time
of day in the menu. -/
def Drawable (s : Pc) (dayTimeInfo : DayTime) : Prop :=
  (s.mainState = .game → (0 ≤ s.table.player1Score ∧ s.table.player1Score < 10) ∧
    0 ≤ s.table.player2Score ∧ s.table.player2Score < 10) ∧
  (s.mainState = .mainMenu → ∀ f, (dayTimeInfo.get f).toNat < 100)

instance (P : TimeField → Prop) [DecidablePred P] : Decidable (∀ f, P f) :=
  decidable_of_iff (P .yyyy ∧ P .mm ∧ P .dd ∧ P .h ∧ P .m ∧ P .s) (by
    constructor
    · rintro ⟨hyyyy, hmm, hdd, hh, hm, hs⟩ f
      cases f <;> assumption
    · intro h
      exact ⟨h _, h _, h _, h _, h _, h _⟩)

instance (s : Pc) (t : DayTime) : Decidable (Drawable s t) :=
  inferInstanceAs (Decidable (_ ∧ _))

/-- **Which frames can be drawn.** -/
theorem inArray_frame {A : Artwork} {s : Pc} {t : DayTime} (htime : s.timeRemaining ≤ 200) :
    (∀ d ∈ frame A s t, d.InArray) ↔ Drawable s t := by
  have hother : ∀ b winlose, ∀ d ∈ popOutFrame A b winlose, d.InArray := by
    intro b winlose d hd
    simp only [popOutFrame, drawButton, List.mem_cons, List.not_mem_nil, or_false] at hd
    rcases hd with rfl | rfl | rfl <;> trivial
  unfold frame Drawable
  -- only two of the modes show any number
  cases s.mainState with
  | mainMenu =>
      simp only [menuFrame, drawButton, List.forall_mem_append, List.forall_mem_cons,
        inArray_vgDrawRtc]
      simp [Draw.InArray]
  | rules => simp [Draw.InArray]
  -- minutes and seconds of at most 200 seconds have their digits
  | game =>
      simp only [gameFrame, vgDrawTime, vgDrawPoints, List.forall_mem_append, List.forall_mem_cons]
      simp only [Draw.InArray, List.not_mem_nil, IsEmpty.forall_iff, implies_true, true_and,
        and_true, reduceCtorEq, true_imp_iff]
      omega
  | stop => simp
  | win => exact iff_of_true (hother _ _) (by simp)
  | lost => exact iff_of_true (hother _ _) (by simp)
  | tie => exact iff_of_true (hother _ _) (by simp)

end AirHockey
