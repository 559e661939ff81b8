import AirHockey.Model.Moves
import AirHockey.Model.Standard
import AirHockey.Model.Steps
import Mathlib.Tactic.Ring
import Mathlib.Tactic.Positivity

/-! # Everything stays on the table

The four sprites never leave the play area, whatever arrives from the mouse and from the other PC.
The sizes of the sprites are part of the invariant: the right and lower walls are compared with
the far edge, and the middle line and the walls put a puck back by its size.

`Table.Confined` is the invariant. Each outcome of a move keeps it (`move_mouse`, `move_puck`,
`move_ball`), everything else a handler does leaves the places alone, and
`tableInvariant_confined` collects this in the form that the rules for runs ask for. `confinement`
adds what it means to the frame buffer: every byte that a sprite is painted to is inside of it. -/

namespace AirHockey

/-- A sprite of the given size, wholly inside the play area. -/
structure Sprite.Inside (width height : Nat) (s : Sprite) : Prop where
  width_eq : s.width = width
  height_eq : s.height = height
  left : horizontalStart ≤ s.x
  right : s.x + s.width ≤ horizontalEnd
  top : verticalStart ≤ s.y
  bottom : s.y + s.height ≤ verticalEnd

/-- The size that `loader_sprite` gives each of the sprites. -/
def Object.width : Object → Nat
  | .mouse => 12
  | .redpuck | .bluepuck => 80
  | .ball => 50

def Object.height : Object → Nat
  | .mouse => 19
  | .redpuck | .bluepuck => 80
  | .ball => 50

/-- Every sprite has its size and is inside the play area. -/
def Table.Confined (t : Table) : Prop := ∀ o, (t.get o).Inside o.width o.height

namespace Sprite.Inside

variable {width height : Nat} {s : Sprite}

/-- Nothing but position and size matters. -/
theorem congr (h : s.Inside width height) {s' : Sprite} (hw : s'.width = s.width)
    (hh : s'.height = s.height) (hx : s'.x = s.x) (hy : s'.y = s.y) : s'.Inside width height where
  width_eq := hw.trans h.width_eq
  height_eq := hh.trans h.height_eq
  left := hx ▸ h.left
  right := by rw [hx, hw]; exact h.right
  top := hy ▸ h.top
  bottom := by rw [hy, hh]; exact h.bottom

/-- The play area in pixels. -/
theorem bounds (h : s.Inside width height) :
    (273 ≤ s.x ∧ s.x + s.width ≤ 879) ∧ 21 ≤ s.y ∧ s.y + s.height ≤ 843 :=
  ⟨⟨h.left, h.right⟩, h.top, h.bottom⟩

/-- The places of a puck. -/
theorem place (h : s.Inside 80 80) : 273 ≤ s.x ∧ s.x ≤ 799 ∧ 21 ≤ s.y ∧ s.y ≤ 763 := by
  have hbounds := h.bounds
  rw [h.width_eq, h.height_eq] at hbounds
  omega

/-- A move that no wall stops ends inside. -/
theorem moved {x y : Int} (h : s.Inside width height)
    (hwall : detectWallCollision s (s.x + x) (s.y - y) = false) :
    (Table.moved s x y).Inside width height := by
  simp only [detectWallCollision, wallInfo, Bool.or_eq_false_iff, decide_eq_false_iff_not] at hwall
  obtain ⟨⟨⟨htop, hright⟩, hbottom⟩, hleft⟩ := hwall
  refine ⟨h.width_eq, h.height_eq, ?_, ?_, ?_, ?_⟩ <;> simp only [Table.moved] <;> omega

/-- Against a wall it touches the wall; on the other axis it does not move. -/
theorem putAgainst (h : s.Inside width height) (info : Walls) (hw : width ≤ 606)
    (hh : height ≤ 822) : (AirHockey.putAgainst info s).Inside width height := by
  obtain ⟨rfl, rfl, hleft, hright, htop, hbottom⟩ := h
  obtain ⟨top, right, bottom, left⟩ := info
  simp only [horizontalStart, horizontalEnd, verticalStart, verticalEnd]
    at hleft hright htop hbottom
  -- sixteen combinations of walls; the play area is wider and higher than any sprite
  cases top <;> cases right <;> cases bottom <;> cases left
  all_goals
    simp only [AirHockey.putAgainst, if_true, if_false, Bool.false_eq_true]
    refine ⟨rfl, rfl, ?_, ?_, ?_, ?_⟩
    all_goals
      simp only [horizontalStart, horizontalEnd, verticalStart, verticalEnd]
      omega

/-- The ball only turns back. -/
theorem reflect (h : s.Inside width height) (info : Walls) :
    (AirHockey.reflect info s).Inside width height := by
  obtain ⟨top, right, bottom, left⟩ := info
  cases top <;> cases right <;> cases bottom <;> cases left <;>
    exact h.congr rfl rfl rfl rfl

end Sprite.Inside

/-! ## One move -/

namespace Table

namespace Confined

variable {t : Table}

/-- Only one sprite is exchanged. -/
theorem set (h : t.Confined) (o : Object) {sprite : Sprite}
    (hs : sprite.Inside o.width o.height) : (t.set o sprite).Confined := by
  intro o'
  by_cases ho : o' = o
  · subst ho
    rw [get_set_self]
    exact hs
  · rw [get_set_of_ne ho]
    exact h o'

/-- A new velocity of the ball, a goal or a message to the other PC moves nothing. -/
theorem congr (h : t.Confined) {t' : Table} (hmouse : t'.mouse = t.mouse)
    (hred : t'.redpuck = t.redpuck) (hblue : t'.bluepuck = t.bluepuck)
    (hball : t'.ball.width = t.ball.width ∧ t'.ball.height = t.ball.height ∧
      t'.ball.x = t.ball.x ∧ t'.ball.y = t.ball.y) : t'.Confined := by
  intro o
  have ho := h o
  -- only the sprite that is asked for matters
  cases o with
  | mouse => rwa [← show t'.get .mouse = t.get .mouse from hmouse] at ho
  | redpuck => rwa [← show t'.get .redpuck = t.get .redpuck from hred] at ho
  | bluepuck => rwa [← show t'.get .bluepuck = t.get .bluepuck from hblue] at ho
  | ball => exact ho.congr hball.1 hball.2.1 hball.2.2.1 hball.2.2.2

theorem move_mouse (h : t.Confined) (x y : Int) : (t.move .mouse x y 0).Confined := by
  have hmouse := h .mouse
  generalize ht' : t.move .mouse x y 0 = t'
  cases Table.move_mouse ht' with
  | wall _ => exact h.set .mouse (hmouse.putAgainst _ (by decide) (by decide))
  | free hwall => exact h.set .mouse (hmouse.moved hwall)

/-- A puck at the middle line is on its side of it. -/
theorem snapToMiddle {s : Sprite} (h : s.Inside 80 80) : (snapToMiddle s).Inside 80 80 := by
  obtain ⟨hw, hh, hleft, hright, htop, hbottom⟩ := h
  refine ⟨hw, hh, hleft, hright, ?_, ?_⟩
  all_goals
    simp only [Table.snapToMiddle, hh, verticalStart, verticalEnd, middleField]
    split <;> omega

theorem move_puck (h : t.Confined) {o : Object} (ho : o = .redpuck ∨ o = .bluepuck) (x y : Int) :
    (t.move o x y 2).Confined := by
  have hsize : o.width = 80 ∧ o.height = 80 := by
    rcases ho with rfl | rfl <;> exact ⟨rfl, rfl⟩
  have hne : o ≠ .ball := by
    rcases ho with rfl | rfl <;> decide
  have hpuck : (t.get o).Inside 80 80 := by
    have := h o
    rwa [hsize.1, hsize.2] at this
  have hset : ∀ {sprite : Sprite}, sprite.Inside 80 80 → (t.set o sprite).Confined := by
    intro sprite hs
    exact h.set o (by rwa [hsize.1, hsize.2])
  generalize ht' : t.move o x y 2 = t'
  -- put back, put to its side, left where it is, or moved past all tests
  cases Table.move_puck hne ht' with
  | wall _ => exact hset (hpuck.putAgainst _ (by decide) (by decide))
  | middle _ _ => exact hset (snapToMiddle hpuck)
  | hit _ _ _ _ => exact h.congr rfl rfl rfl ⟨rfl, rfl, rfl, rfl⟩
  | free hwall _ _ => exact hset (hpuck.moved hwall)

/-- Counting a goal moves nothing. -/
theorem scored (h : t.Confined) (newX newY : Int) : (t.scored newX newY).Confined :=
  h.congr rfl rfl rfl ⟨rfl, rfl, rfl, rfl⟩

theorem move_ball (h : t.Confined) (x y : Int) : (t.move .ball x y 1).Confined := by
  have hball := h .ball
  generalize ht' : t.move .ball x y 1 = t'
  cases Table.move_ball ht' with
  | goal _ =>
      refine (h.scored _ _).set .ball ⟨hball.width_eq, hball.height_eq, ?_, ?_, ?_, ?_⟩
      -- the spot in the middle is inside for a ball of its size
      all_goals
        have hw : t.ball.width = 50 := hball.width_eq
        have hh : t.ball.height = 50 := hball.height_eq
        simp only [centred, hw, hh, horizontalStart, horizontalEnd, verticalStart, verticalEnd]
        decide
  | wall _ _ _ => exact h.set .ball (hball.reflect _)
  | bounce o _ _ _ _ _ =>
      rw [bounceOff_ball]
      exact h.congr rfl rfl rfl (bounced_frame _ _)
  | free _ _ hwall _ => exact h.set .ball (hball.moved hwall)

end Confined

/-- At the start of a game the ball and the pucks are on their spots. -/
theorem Confined.reset {t : Table} (h : t.Confined) : t.reset.Confined := by
  intro o
  have hsize := h o
  cases o with
  | mouse => exact hsize
  | redpuck | bluepuck | ball =>
      obtain ⟨hw, hh, -⟩ := hsize
      refine ⟨hw, hh, ?_, ?_, ?_, ?_⟩
      all_goals
        simp only [get, Table.reset, horizontalStart, horizontalEnd, verticalStart, verticalEnd]
        simp only [get, Object.width, Object.height] at hw hh
        first | decide | (simp only [hw, hh]; decide)

end Table

/-! ## Every step -/

theorem tableInvariant_confined : TableInvariant Table.Confined where
  send _ _ h := h.congr rfl rfl rfl ⟨rfl, rfl, rfl, rfl⟩
  role _ _ h := h.congr rfl rfl rfl ⟨rfl, rfl, rfl, rfl⟩
  reset _ h := h.reset
  cursor _ x y h := h.move_mouse x y
  ball _ x y h := h.move_ball x y
  redpuck _ x y h := h.move_puck (.inl rfl) x y
  bluepuck _ x y h := h.move_puck (.inr rfl) x y
  visibility _ _ h := h.set .mouse ((h .mouse).congr rfl rfl rfl rfl)
  release _ h := h.set .bluepuck ((h .bluepuck).congr rfl rfl rfl rfl)
  speed _ _ _ h := h.congr rfl rfl rfl ⟨rfl, rfl, rfl, rfl⟩

/-- The sprites as `loader_sprite` creates them. -/
theorem confined_loaderSprite (S : Setup) : (loaderSprite S).Confined := by
  intro o
  cases o
  all_goals
    refine ⟨rfl, rfl, ?_, ?_, ?_, ?_⟩ <;>
      simp [loaderSprite, createSprite, Table.get, horizontalStart, horizontalEnd, verticalStart,
        verticalEnd]

/-! ## The frame buffer -/

def hRes : Nat := 1152
def vRes : Nat := 864

/-- The offsets into `secondary_buffer` of the pixels that `vg_draw_sprite` goes through; those that
are not transparent in the sprite are painted. The address of a line is computed on an
`unsigned`. -/
def vgDrawSprite (sprite : Sprite) (bytesPerPixel : Nat) : List Int :=
  if sprite.visibility then
    (List.range sprite.height).flatMap fun (line : Nat) =>
      let ptr := ((sprite.y + line) * hRes + sprite.x) * bytesPerPixel % 2 ^ 32
      (List.range sprite.width).map fun (i : Nat) => ptr + i * bytesPerPixel
  else []

/-- A sprite inside the play area is painted inside the frame buffer. -/
theorem vgDrawSprite_inside {width height : Nat} {s : Sprite} (h : s.Inside width height)
    {bytesPerPixel : Nat} (hbpp : bytesPerPixel ≤ 4) :
    ∀ p ∈ vgDrawSprite s bytesPerPixel,
      0 ≤ p ∧ p + bytesPerPixel ≤ hRes * vRes * bytesPerPixel := by
  intro p hp
  unfold vgDrawSprite at hp
  split at hp
  · obtain ⟨line, hline, hp⟩ := List.mem_flatMap.mp hp
    -- a pixel of the sprite in the row `line` and the column `i`
    obtain ⟨i, hi, rfl⟩ := List.mem_map.mp hp
    have hline := List.mem_range.mp hline
    have hi := List.mem_range.mp hi
    obtain ⟨⟨hleft, hright⟩, htop, hbottom⟩ := h.bounds
    -- the pixel's number on the screen, and its last byte
    have hpixel : 0 ≤ (s.y + line) * 1152 + s.x ∧
        (s.y + line) * 1152 + s.x + i + 1 ≤ 1152 * 864 := by omega
    have hbytes : ((s.y + line) * 1152 + s.x) * bytesPerPixel < 2 ^ 32 := by
      have : ((s.y + line) * 1152 + s.x) * bytesPerPixel ≤ (1152 * 864) * 4 :=
        mul_le_mul (by omega) (by omega) (by omega) (by omega)
      omega
    have hnonneg : 0 ≤ ((s.y + line) * 1152 + s.x) * (bytesPerPixel : Int) :=
      mul_nonneg hpixel.1 (by omega)
    have hptr : ((s.y + line) * hRes + s.x) * bytesPerPixel % 2 ^ 32 =
        ((s.y + line) * 1152 + s.x) * bytesPerPixel := Int.emod_eq_of_lt hnonneg hbytes
    have hlast : ((s.y + line) * 1152 + s.x + i + 1) * (bytesPerPixel : Int) ≤
        -- in 32 bits nothing wraps around, for the screen has fewer than a million pixels
        1152 * 864 * bytesPerPixel := mul_le_mul_of_nonneg_right hpixel.2 (by omega)
    rw [hptr]
    constructor
    · exact add_nonneg hnonneg (by positivity)
    · calc _ = ((s.y + line) * 1152 + s.x + i + 1) * (bytesPerPixel : Int) := by
            ring
        _ ≤ 1152 * 864 * bytesPerPixel := hlast
  · cases hp

/-! ## Confinement -/

/-- **Whatever the mouse and the other PC send, nothing leaves the table.** The four sprites start
as `loader_sprite` creates them; the rest of the first state is arbitrary. -/
theorem confinement {S : Setup} {s₀ s : Pc} {es : List Input}
    (hstart : ∀ o, s₀.table.get o = (loaderSprite S).get o)
    (hrun : Transition.run Pc.step s₀ es = some s) (o : Object) :
    (273 ≤ (s.table.get o).x ∧ (s.table.get o).x + o.width ≤ 879 ∧
      21 ≤ (s.table.get o).y ∧ (s.table.get o).y + o.height ≤ 843) ∧
    (s.table.get o).width = o.width ∧ (s.table.get o).height = o.height ∧
    ∀ p ∈ vgDrawSprite (s.table.get o) S.bytesPerPixel,
      0 ≤ p ∧ p + S.bytesPerPixel ≤ 1152 * 864 * S.bytesPerPixel := by
  have hfirst : s₀.table.Confined := by
    intro o
    rw [hstart o]
    exact confined_loaderSprite S o
  have hinside := tableInvariant_confined.run hfirst hrun o
  refine ⟨⟨hinside.left, ?_, hinside.top, ?_⟩, hinside.width_eq, hinside.height_eq,
    vgDrawSprite_inside hinside S.bytesPerPixel_le⟩
  · exact hinside.width_eq ▸ hinside.right
  · exact hinside.height_eq ▸ hinside.bottom

/-- A tick, a mouse packet and a stray byte after the start of the program. -/
theorem confinement_standard :
    ∃ s, Transition.run Pc.step (init Setup.standard)
        (ticks 1 ++ mousePacket 0x29 0xF9 0x10 ++ received [0x10]) = some s ∧
      273 ≤ s.table.bluepuck.x ∧ s.table.bluepuck.x + 80 ≤ 879 := by
  obtain ⟨s, hs⟩ : ∃ s, Transition.run Pc.step (init Setup.standard)
      (ticks 1 ++ mousePacket 0x29 0xF9 0x10 ++ received [0x10]) = some s := ⟨_, rfl⟩
  have hpuck := (confinement (fun _ => rfl) hs .bluepuck).1
  exact ⟨s, hs, hpuck.1, hpuck.2.1⟩

end AirHockey
