import AirHockey.Model.Program

/-! # The pictures on the screen

Every frame of the menu, of the rules and of a game is a picture of its own: the background hides
what was in the buffer. The pop-out of a result hides its own box only. And what carries
information in a frame lies side by side, so that nothing covers it.

Each command has a box outside of which it paints nothing (`layer_eq_none`). `seen_of_pairwise` is
the general statement: commands whose boxes lie beside each other are all seen. The boxes of the
frames are computed (`boxes_menuFrame`, `boxes_aside`, `boxes_popOutFrame`), and compared by
`decide`; of the moving sprites only the ball is seen for certain (`gamePicture_seen`), since the
table keeps it away from what is drawn beside it. -/

namespace AirHockey

/-- A rectangle of the screen. -/
structure Box where
  left : Nat
  right : Nat
  top : Nat
  bottom : Nat
  deriving DecidableEq, Repr

namespace Box

/-- The two have no pixel in common. -/
def Beside (b b' : Box) : Prop :=
  b.right ≤ b'.left ∨ b'.right ≤ b.left ∨ b.bottom ≤ b'.top ∨ b'.bottom ≤ b.top

instance : DecidableRel Beside := fun _ _ => inferInstanceAs (Decidable (_ ∨ _))

/-- The box around a picture. -/
def around (left top : Nat) (size : Nat × Nat) : Box := ⟨left, left + size.1, top, top + size.2⟩

/-- The bytes of its pixels. -/
def spots (b : Box) {S : Screen} : Set S.Spot :=
  {p | (b.left ≤ p.x ∧ p.x < b.right) ∧ b.top ≤ p.y ∧ p.y < b.bottom}

theorem Beside.disjoint {b b' : Box} (h : b.Beside b') {S : Screen} {p : S.Spot}
    (hp : p ∈ b.spots) : p ∉ b'.spots := by
  rintro ⟨hx', hy'⟩
  obtain ⟨hx, hy⟩ := hp
  unfold Beside at h
  omega

end Box

/-- Where a command can paint. A digit is at most 31 pixels wide and 31 pixels high. -/
def Draw.box (S : Screen) : Draw → Box
  | .background b => .around 0 0 b.size
  | .popOut b => .around (S.hRes / 2 - b.size.1 / 2) (S.vRes / 2 - b.size.2 / 2) b.size
  | .sprite s => .around s.x.toNat s.y.toNat (s.width, s.height)
  | .number _ _ x y => .around x.toNat y.toNat (31, 31)

section

variable {S : Screen} {A : Artwork} {p : S.Spot} {v : UInt8}

theorem spriteLayer_eq_none {s : Sprite}
    (hp : p ∉ (Box.around s.x.toNat s.y.toNat (s.width, s.height)).spots) :
    S.spriteLayer s p = none := by
  unfold Screen.spriteLayer
  split
  · exact Screen.pixmapLayer_of_clear fun h => hp ⟨h.1, h.2.1⟩
  · rfl

theorem imageLayer_eq_none {left top : Nat} {img : XpmImage}
    (hp : p ∉ (Box.around left top (img.width, img.height)).spots) :
    S.imageLayer left top img p = none :=
  Screen.pixmapLayer_of_clear fun h => hp ⟨h.1, h.2.1⟩

theorem isSome_imageLayer {left top : Nat} {img : XpmImage}
    (hp : p ∈ (Box.around left top (img.width, img.height)).spots) :
    (S.imageLayer left top img p).isSome := by
  have hx : left ≤ p.x ∧ p.x < left + img.width := hp.1
  have hy : top ≤ p.y ∧ p.y < top + img.height := hp.2
  rw [Screen.imageLayer, Screen.pixmapLayer_of_solid hx hy trivial]
  rfl

/-- A command paints in its box only. -/
theorem layer_eq_none {d : Draw} (hp : p ∉ (d.box S).spots) : d.layer S A p = none := by
  cases d with
  | background b => exact imageLayer_eq_none hp
  | popOut b => exact imageLayer_eq_none hp
  | sprite s => exact spriteLayer_eq_none hp
  | number font i x y =>
      apply spriteLayer_eq_none
      rintro ⟨⟨hleft, hright⟩, htop, hbottom⟩
      -- a digit may be smaller than its box
      obtain ⟨hwidth, hheight⟩ := digitSize_le i.toNat
      refine hp ⟨⟨hleft, Nat.lt_of_lt_of_le hright ?_⟩, htop, Nat.lt_of_lt_of_le hbottom ?_⟩
      · exact Nat.add_le_add_left hwidth _
      · exact Nat.add_le_add_left hheight _

theorem mem_box {d : Draw} (h : d.layer S A p = some v) : p ∈ (d.box S).spots := by
  by_contra hp
  rw [layer_eq_none hp] at h
  cases h

/-- **What lies side by side is seen.** No command after the first ones covers another. -/
theorem seen_of_pairwise (ds : List Draw) (f : S.Spot → UInt8) {es : List Draw}
    (hpair : (es.map (Draw.box S)).Pairwise Box.Beside) {d : Draw} (hd : d ∈ es)
    (hp : d.layer S A p = some v) :
    Layer.paint ((ds ++ es).map (Draw.layer S A)) f p = v := by
  obtain ⟨before, after, rfl⟩ := List.append_of_mem hd
  rw [List.map_append, List.pairwise_append] at hpair
  have hlater := (List.pairwise_cons.mp hpair.2.1).1
  rw [← List.append_assoc, List.map_append, List.map_cons]
  -- what is drawn after it lies beside it, so it is the last one to paint this pixel
  refine Layer.paint_of_last hp fun l hl => ?_
  obtain ⟨d', hd', rfl⟩ := List.mem_map.mp hl
  exact layer_eq_none ((hlater _ (List.mem_map_of_mem hd')).disjoint (mem_box hp))

/-- A picture of the size of the screen covers it. -/
theorem covers_background {b : Backdrop} (hwidth : S.hRes ≤ b.size.1) (hheight : S.vRes ≤ b.size.2)
    (ds : List Draw) :
    Layer.Covers ((Draw.background b :: ds).map (Draw.layer S A)) Set.univ := by
  intro p _
  refine ⟨_, List.mem_cons_self, isSome_imageLayer ⟨⟨Nat.zero_le _, ?_⟩, Nat.zero_le _, ?_⟩⟩
  · show p.x < 0 + b.size.1
    have := p.x_lt
    omega
  · show p.y < 0 + b.size.2
    have := p.y_lt
    omega

/-- A pop-out covers its box. -/
theorem covers_popOut (b : Backdrop) (ds : List Draw) :
    Layer.Covers ((Draw.popOut b :: ds).map (Draw.layer S A)) ((Draw.popOut b).box S).spots := by
  intro p hp
  exact ⟨_, List.mem_cons_self, isSome_imageLayer hp⟩

end

/-! ## The frames -/

section

variable (S : Setup) (A : Artwork)

/-- A buffer without anything. -/
def blank : S.screen.Spot → UInt8 := fun _ => 0

/-- A frame that is a picture of its own. -/
def picture (ds : List Draw) : S.screen.Spot → UInt8 :=
  Layer.paint (ds.map (Draw.layer S.screen A)) (blank S)

def menuPicture (menu : Buttons) (t : DayTime) : S.screen.Spot → UInt8 :=
  picture S A (menuFrame A menu t)

def rulesPicture : S.screen.Spot → UInt8 := picture S A [.background .rules]

def gamePicture (t : Table) (time : Nat) : S.screen.Spot → UInt8 :=
  picture S A (gameFrame A t time)

/-- The pop-out of a result over a picture. -/
def popOutPicture (b : Backdrop) (winlose : Buttons) (f : S.screen.Spot → UInt8) :
    S.screen.Spot → UInt8 :=
  Layer.paint ((popOutFrame A b winlose).map (Draw.layer S.screen A)) f

end

variable {S : Setup} {A : Artwork}

/-- What was in the buffer before makes no difference. -/
theorem paint_eq_picture {b : Backdrop} (hb : b.size = (1152, 864)) (ds : List Draw)
    (f : S.screen.Spot → UInt8) :
    Layer.paint ((Draw.background b :: ds).map (Draw.layer S.screen A)) f =
      picture S A (.background b :: ds) := by
  -- the frame covers every pixel, so the old picture shows nowhere
  refine Layer.paint_congr (covers_background ?_ ?_ ds) fun i hi => absurd (Set.mem_univ i) hi
  · rw [hb]
    exact Nat.le_refl _
  · rw [hb]
    exact Nat.le_refl _

theorem paint_menuFrame (menu : Buttons) (t : DayTime) (f : S.screen.Spot → UInt8) :
    Layer.paint ((menuFrame A menu t).map (Draw.layer S.screen A)) f = menuPicture S A menu t :=
  paint_eq_picture rfl _ f

theorem paint_gameFrame (t : Table) (time : Nat) (f : S.screen.Spot → UInt8) :
    Layer.paint ((gameFrame A t time).map (Draw.layer S.screen A)) f = gamePicture S A t time :=
  paint_eq_picture rfl _ f

theorem paint_rulesFrame (f : S.screen.Spot → UInt8) :
    Layer.paint ([Draw.background .rules].map (Draw.layer S.screen A)) f = rulesPicture S A :=
  paint_eq_picture rfl _ f

/-- The box of every pop-out. -/
def popOutBox : Box := ⟨333, 819, 283, 582⟩

/-- A button of a menu, selected or not. -/
theorem box_drawButton {buttons : Buttons} {i : Nat} {unselected selected : Sprite} {b : Box}
    (h : (Draw.sprite unselected).box S.screen = b) (h' : (Draw.sprite selected).box S.screen = b) :
    (drawButton buttons i unselected selected).box S.screen = b := by
  unfold drawButton
  split
  · exact h
  · exact h'

theorem boxes_popOutFrame {b : Backdrop} (hb : b.size = (486, 299)) (winlose : Buttons) :
    (popOutFrame A b winlose).map (Draw.box S.screen) =
      [popOutBox, ⟨495, 644, 480, 559⟩, ⟨450, 691, 380, 459⟩] := by
  simp only [popOutFrame, List.map_cons, List.map_nil, List.cons.injEq, and_true]
  refine ⟨?_, box_drawButton rfl rfl, box_drawButton rfl rfl⟩
  show Box.around ((1152 : Nat) / 2 - b.size.1 / 2) ((864 : Nat) / 2 - b.size.2 / 2) b.size = _
  rw [hb]
  decide

/-- The frame of a result stays in the box of its pop-out … -/
theorem within_popOutFrame {b : Backdrop} (hb : b.size = (486, 299)) (winlose : Buttons) :
    Layer.Within ((popOutFrame A b winlose).map (Draw.layer S.screen A))
      (popOutBox.spots (S := S.screen)) := by
  have hboxes := boxes_popOutFrame (S := S) (A := A) hb winlose
  -- one of three boxes, all of them inside the first one
  intro l hl p hp
  obtain ⟨d, hd, rfl⟩ := List.mem_map.mp hl
  have hbox : d.box S.screen ∈ (popOutFrame A b winlose).map (Draw.box S.screen) :=
    List.mem_map_of_mem hd
  rw [hboxes] at hbox
  apply layer_eq_none
  rintro ⟨hx, hy⟩
  apply hp
  simp only [List.mem_cons, List.not_mem_nil, or_false] at hbox
  rcases hbox with h | h | h
  all_goals
    rw [h] at hx hy
    simp only [popOutBox] at hx hy
    exact ⟨by simp only [popOutBox]; omega, by simp only [popOutBox]; omega⟩

/-- … and hides it, so that drawing a result again leaves nothing of the old one. -/
theorem popOutPicture_popOutPicture {b b' : Backdrop} (hb : b.size = (486, 299))
    (hb' : b'.size = (486, 299)) (winlose winlose' : Buttons) (f : S.screen.Spot → UInt8) :
    popOutPicture S A b' winlose' (popOutPicture S A b winlose f) =
      popOutPicture S A b' winlose' f := by
  -- the new pop-out covers whatever the old frame has painted
  refine Layer.paint_paint (within_popOutFrame hb winlose) ?_
  have hbox : (Draw.popOut b').box S.screen = popOutBox :=
    (List.cons.inj (boxes_popOutFrame (S := S) (A := A) hb' winlose')).1
  rw [← hbox]
  exact covers_popOut b' _

/-- Outside of the box the picture is the one under the pop-out. -/
theorem popOutPicture_of_outside {b : Backdrop} (hb : b.size = (486, 299)) (winlose : Buttons)
    (f : S.screen.Spot → UInt8) {p : S.screen.Spot} (hp : p ∉ popOutBox.spots) :
    popOutPicture S A b winlose f p = f p :=
  Layer.paint_of_none fun l hl => within_popOutFrame hb winlose l hl p hp

/-! ## What can be read -/

theorem boxes_menuFrame (menu : Buttons) (t : DayTime) :
    ((menuFrame A menu t).tail.map (Draw.box S.screen)).Pairwise Box.Beside := by
  -- three buttons, fourteen digits, four separators
  have hboxes : (menuFrame A menu t).tail.map (Draw.box S.screen) =
      [⟨421, 731, 350, 446⟩, ⟨421, 731, 500, 596⟩, ⟨421, 731, 650, 746⟩] ++
      [10, 45, 115, 150, 220, 255, 790, 825, 900, 935, 1005, 1040, 1075, 1110].map
        (fun x => ⟨x, x + 31, 10, 41⟩) ++
      [⟨90, 100, 15, 38⟩, ⟨195, 205, 15, 38⟩, ⟨865, 892, 25, 30⟩, ⟨970, 997, 25, 30⟩] := by
    simp only [menuFrame, vgDrawRtc, drawField, List.cons_append, List.nil_append, List.tail_cons,
      List.map_cons, List.map_nil, List.cons.injEq, and_true]
    refine ⟨box_drawButton rfl rfl, box_drawButton rfl rfl, box_drawButton rfl rfl, ?_⟩
    refine ⟨?_, ?_, ?_, ?_, ?_, ?_, ?_, ?_, ?_, ?_, ?_, ?_, ?_, ?_, ?_, ?_, ?_, ?_⟩
    all_goals rfl
  rw [hboxes]
  decide

/-- In the menu everything but the background is seen: the entries, the time of day, the
separators. -/
theorem menuPicture_seen (menu : Buttons) (t : DayTime) {d : Draw}
    (hd : d ∈ (menuFrame A menu t).tail) {p : S.screen.Spot} {v : UInt8}
    (hp : d.layer S.screen A p = some v) : menuPicture S A menu t p = v := by
  have hframe : menuFrame A menu t = [.background .menu] ++ (menuFrame A menu t).tail := rfl
  rw [menuPicture, picture, hframe]
  exact seen_of_pairwise [.background .menu] (blank S) (boxes_menuFrame menu t) hd hp

/-- What is drawn beside the table. -/
def aside (A : Artwork) (t : Table) (time : Nat) : List Draw :=
  [.sprite A.timeSep, .sprite A.timeTitle, .sprite A.pointsTitle, .sprite A.pointsSep] ++
    vgDrawTime time 35 420 ++ vgDrawPoints t.player1Score t.player2Score 960 425

theorem boxes_aside (t : Table) (time : Nat) :
    (aside A t time).map (Draw.box S.screen) =
      -- four sprites, four digits of the time, two of the score
      [⟨115, 125, 425, 448⟩, ⟨55, 187, 370, 401⟩, ⟨925, 1131, 370, 401⟩, ⟨1015, 1042, 440, 445⟩,
        ⟨35, 66, 420, 451⟩, ⟨75, 106, 420, 451⟩, ⟨140, 171, 420, 451⟩, ⟨180, 211, 420, 451⟩,
        ⟨960, 991, 425, 456⟩, ⟨1065, 1096, 425, 456⟩] := by
  simp only [aside, vgDrawTime, vgDrawPoints, List.cons_append, List.nil_append, List.map_cons,
    List.map_nil, List.cons.injEq, and_true]
  refine ⟨?_, ?_, ?_, ?_, ?_, ?_, ?_, ?_, ?_, ?_⟩
  all_goals rfl

theorem boxes_gameFrame {t : Table} (ht : t.Confined) (time : Nat) :
    ((Draw.sprite t.ball :: aside A t time).map (Draw.box S.screen)).Pairwise Box.Beside := by
  rw [List.map_cons, boxes_aside, List.pairwise_cons]
  refine ⟨?_, by decide⟩
  have hball : t.ball.Inside 50 50 := ht .ball
  have hwidth := hball.width_eq
  obtain ⟨⟨hleft, hright⟩, -⟩ := hball.bounds
  -- the ball stays on the table, and everything else is to the left or to the right of it
  have hside : ∀ b : Box, b.right ≤ 273 ∨ 879 ≤ b.left →
      ((Draw.sprite t.ball).box S.screen).Beside b := by
    intro b hb
    show t.ball.x.toNat + t.ball.width ≤ b.left ∨ b.right ≤ t.ball.x.toNat ∨ _
    omega
  intro b hb
  apply hside
  simp only [List.mem_cons, List.not_mem_nil, or_false] at hb
  rcases hb with rfl | rfl | rfl | rfl | rfl | rfl | rfl | rfl | rfl | rfl
  all_goals decide

/-- In a game nothing covers the ball, the time that is left and the score. -/
theorem gamePicture_seen {t : Table} (ht : t.Confined) (time : Nat) {d : Draw}
    (hd : d ∈ Draw.sprite t.ball :: aside A t time) {p : S.screen.Spot} {v : UInt8}
    (hp : d.layer S.screen A p = some v) : gamePicture S A t time p = v := by
  have hframe : gameFrame A t time = [.background .game, .sprite t.redpuck, .sprite t.bluepuck,
    .sprite t.mouse] ++ (Draw.sprite t.ball :: aside A t time) := rfl
  rw [gamePicture, picture, hframe]
  exact seen_of_pairwise _ (blank S) (boxes_gameFrame ht time) hd hp

end AirHockey
