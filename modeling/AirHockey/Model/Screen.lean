import AirHockey.Lib.Blit
import AirHockey.Model.Confinement

/-! # Drawing a sprite

`vg_draw_sprite` paints into the secondary buffer. Two pointers go along: `colors` through the
whole map, `ptr` through one line of the screen at a time. Every access is tested here for being
inside its block, which the program does not do: `none` is an access outside.

The two loops are inductions over the pixels of a line (`drawPixels_painted`) and over the lines
(`drawLines_painted`), with the library's `Painted` for an invariant: what has been painted so
far, and that nothing else has changed. `vgDrawSprite_exact` says it of the finished sprite, in
terms of the offsets; `drawn_in_every_state` applies it to the sprites of the game, which stay on
the screen whatever happens. -/

namespace AirHockey

open Blit

/-- The video mode. `color` has room for four bytes, and the whole of the video memory has an
address. -/
structure Screen where
  hRes : Nat
  vRes : Nat
  bytesPerPixel : Nat
  bytesPerPixel_le : bytesPerPixel ≤ 4
  addressable : hRes * vRes * bytesPerPixel < 2 ^ 32

namespace Screen

/-- `secondary_buffer`, with arbitrary contents. -/
def secondaryBuffer (S : Screen) (bytes : Nat → UInt8) : Block UInt8 where
  size := S.hRes * S.vRes * S.bytesPerPixel
  byte := bytes

/-- The inner loop, with `n` pixels to go: returns `colors` and the buffer. -/
def drawPixels (S : Screen) (map : Block UInt8) :
    Nat → Nat → Nat → Block UInt8 → Option (Nat × Block UInt8)
  | 0, _, colors, buffer => some (colors, buffer)
  | n + 1, ptr, colors, buffer =>
    if colors + S.bytesPerPixel ≤ map.size then
      if colorAt map.byte colors S.bytesPerPixel = transparent then
        S.drawPixels map n (ptr + S.bytesPerPixel) (colors + S.bytesPerPixel) buffer
      else
        (buffer.memcpy ptr map colors S.bytesPerPixel).bind fun buffer =>
          S.drawPixels map n (ptr + S.bytesPerPixel) (colors + S.bytesPerPixel) buffer
    else none

/-- The offset at which a line begins, computed on an `unsigned`. -/
def lineOffset (S : Screen) (sprite : Sprite) (line : Nat) : Nat :=
  (((sprite.y + line) * S.hRes + sprite.x) * S.bytesPerPixel % 2 ^ 32).toNat

/-- The outer loop, with `n` lines to go; `line` and `height` are both `uint16_t`. -/
def drawLines (S : Screen) (sprite : Sprite) (map : Block UInt8) :
    Nat → Nat → Nat → Block UInt8 → Option (Block UInt8)
  | 0, _, _, buffer => some buffer
  | n + 1, line, colors, buffer =>
    (S.drawPixels map sprite.width (S.lineOffset sprite line) colors buffer).bind fun out =>
      S.drawLines sprite map n (line + 1) out.1 out.2

/-- The return code and the buffer. `mapSize` is the number of bytes at `sprite->map`; either
argument can be a null pointer. -/
def vgDrawSprite (S : Screen) (sprite : Option Sprite) (mapSize : Option Nat)
    (buffer : Block UInt8) : Option (Int × Block UInt8) :=
  match sprite, mapSize with
  | some sprite, some size =>
    if sprite.visibility then
      (S.drawLines sprite ⟨size, sprite.map⟩ sprite.height 0 0 buffer).map fun buffer => (0, buffer)
    else some (0, buffer)
  | _, _ => some (1, buffer)

/-- The sprite is placed wholly inside the screen. -/
structure Holds (S : Screen) (s : Sprite) : Prop where
  left : 0 ≤ s.x
  right : s.x + s.width ≤ S.hRes
  top : 0 ≤ s.y
  bottom : s.y + s.height ≤ S.vRes

/-- The offset of a pixel of the screen. -/
def offset (S : Screen) (x y : Nat) : Nat := RowMajor.offset S.hRes S.bytesPerPixel y x

variable {S : Screen} {s : Sprite}

/-- The part of the screen that the sprite lies on. -/
def Holds.window (h : S.Holds s) : Window where
  line := S.hRes
  lines := S.vRes
  left := s.x.toNat
  top := s.y.toNat
  width := s.width
  height := s.height
  depth := S.bytesPerPixel
  left_le := by
    have := h.left
    have := h.right
    omega
  top_le := by
    have := h.top
    have := h.bottom
    omega

/-- The pixel of the sprite is painted. -/
def Solid (S : Screen) (s : Sprite) (row col : Nat) : Prop :=
  colorAt s.map (RowMajor.offset s.width S.bytesPerPixel row col) S.bytesPerPixel ≠ transparent

/-- Every line begins where it should: nothing wraps. -/
theorem Holds.lineOffset_eq (h : S.Holds s) {line : Nat} (hline : line < s.height) :
    -- the coordinates are not negative, so the computation can be done on naturals
    S.lineOffset s line = h.window.target line 0 := by
  have hx : s.x = s.x.toNat := (Int.toNat_of_nonneg h.left).symm
  have hy : s.y = s.y.toNat := (Int.toNat_of_nonneg h.top).symm
  have htarget : ((s.y + line) * S.hRes + s.x) * S.bytesPerPixel = h.window.target line 0 := by
    rw [hx, hy]
    show _ = ((((s.y.toNat + line) * S.hRes + (s.x.toNat + 0)) * S.bytesPerPixel : Nat) : Int)
    push_cast
    ring
  -- the last line of the window is still inside the video memory, which has an address
  have hle : h.window.target line 0 ≤ S.hRes * S.vRes * S.bytesPerPixel := Window.target_le hline
  have hlt := S.addressable
  unfold lineOffset
  rw [htarget]
  omega

variable {map b b' : Block UInt8} {row col n : Nat}

/-- The rest of a line, with `n` pixels to go. -/
theorem drawPixels_painted (h : S.Holds s) (hmap : map.byte = s.map)
    (hfull : s.width * s.height * S.bytesPerPixel ≤ map.size)
    (hbuffer : b.size = S.hRes * S.vRes * S.bytesPerPixel) (hrow : row < s.height)
    (hn : col + n = s.width) (hpainted : Painted h.window (S.Solid s) map row col b b') :
    ∃ b'', S.drawPixels map n (h.window.target row col) (h.window.source row col) b' =
        some (h.window.source (row + 1) 0, b'') ∧
      Painted h.window (S.Solid s) map (row + 1) 0 b b'' := by
  induction n generalizing col b' with
  | zero =>
      obtain rfl : col = h.window.width := hn
      rw [Window.source_width]
      exact ⟨b', rfl, hpainted.nextLine⟩
  | succ n ih =>
      have hcol : col < h.window.width := by
        show col < s.width
        omega
      have hsource : h.window.source row col + S.bytesPerPixel ≤ map.size :=
        (Window.source_add_le hrow hcol).trans hfull
      -- the map has been tested to hold every pixel
      rw [drawPixels, if_pos hsource]
      have htarget' : h.window.target row col + S.bytesPerPixel = h.window.target row (col + 1) :=
        Window.target_succ.symm
      have hsource' : h.window.source row col + S.bytesPerPixel = h.window.source row (col + 1) :=
        Window.source_succ.symm
      rw [htarget', hsource', hmap]
      by_cases hcolor : colorAt s.map (h.window.source row col) S.bytesPerPixel = transparent
      · rw [if_pos hcolor]
        exact ih (by omega) (hpainted.skip hcol fun hsolid => hsolid hcolor)
      · rw [if_neg hcolor]
        obtain ⟨b'', hcopy, hpainted'⟩ := hpainted.copy hrow hcol hcolor hbuffer.ge hfull
        have hcopy' : b'.memcpy (h.window.target row col) map (h.window.source row col)
            S.bytesPerPixel = some b'' := hcopy
        rw [hcopy']
        exact ih (by omega) hpainted'

/-- The rest of the sprite, with `n` lines to go. -/
theorem drawLines_painted (h : S.Holds s) (hmap : map.byte = s.map)
    (hfull : s.width * s.height * S.bytesPerPixel ≤ map.size)
    (hbuffer : b.size = S.hRes * S.vRes * S.bytesPerPixel)
    (hn : row + n = s.height) (hpainted : Painted h.window (S.Solid s) map row 0 b b') :
    ∃ b'', S.drawLines s map n row (h.window.source row 0) b' = some b'' ∧
      Painted h.window (S.Solid s) map s.height 0 b b'' := by
  induction n generalizing row b' with
  | zero =>
      obtain rfl : row = s.height := hn
      exact ⟨b', rfl, hpainted⟩
  | succ n ih =>
      have hrow : row < s.height := by omega
      obtain ⟨b'', hline, hpainted'⟩ := drawPixels_painted h hmap hfull hbuffer hrow
        (Nat.zero_add s.width) hpainted
      rw [drawLines, h.lineOffset_eq hrow, hline]
      exact ih (by omega) hpainted'

/-- **A sprite that is placed inside the screen** is painted into its window. -/
theorem vgDrawSprite_painted (h : S.Holds s) (hvisible : s.visibility = true) {size : Nat}
    (hfull : s.width * s.height * S.bytesPerPixel ≤ size)
    (hbuffer : b.size = S.hRes * S.vRes * S.bytesPerPixel) :
    ∃ b', S.vgDrawSprite (some s) (some size) b = some (0, b') ∧
      Painted h.window (S.Solid s) ⟨size, s.map⟩ s.height 0 b b' := by
  have hmap : (⟨size, s.map⟩ : Block UInt8).byte = s.map := rfl
  obtain ⟨b', hlines, hpainted⟩ := drawLines_painted h hmap hfull hbuffer (Nat.zero_add s.height)
    Painted.start
  rw [Window.source_zero] at hlines
  refine ⟨b', ?_, hpainted⟩
  rw [vgDrawSprite, if_pos hvisible, hlines]
  rfl

/-- **Drawing is exact.** Whatever the buffer holds, a visible sprite with a full map that lies on
the screen is drawn without an access outside the map and the buffer: its pixels that are not
transparent are in the buffer, byte for byte, and every other byte is as before. A sprite that is
not visible changes nothing. -/
theorem vgDrawSprite_exact (S : Screen) (s : Sprite) (bytes : Nat → UInt8) {mapSize : Nat}
    (hfull : s.width * s.height * S.bytesPerPixel ≤ mapSize) :
    (s.visibility = true → S.Holds s →
      ∃ buffer, S.vgDrawSprite (some s) (some mapSize) (S.secondaryBuffer bytes) =
          some (0, buffer) ∧
        buffer.size = (S.secondaryBuffer bytes).size ∧
        (∀ row col k, row < s.height → col < s.width → S.Solid s row col → k < S.bytesPerPixel →
          buffer.byte (S.offset (s.x.toNat + col) (s.y.toNat + row) + k) =
            s.map (RowMajor.offset s.width S.bytesPerPixel row col + k)) ∧
        ∀ i, (∀ row col k, row < s.height → col < s.width → S.Solid s row col →
            k < S.bytesPerPixel → i ≠ S.offset (s.x.toNat + col) (s.y.toNat + row) + k) →
          buffer.byte i = bytes i) ∧
    (s.visibility = false →
      S.vgDrawSprite (some s) (some mapSize) (S.secondaryBuffer bytes) =
        some (0, S.secondaryBuffer bytes)) := by
  constructor
  · intro hvisible hholds
    obtain ⟨buffer, hdraw, hpainted⟩ := vgDrawSprite_painted hholds hvisible hfull
      (b := S.secondaryBuffer bytes) rfl
    -- at the end every pixel of the sprite has been passed
    have hall : ∀ row col, hholds.window.Before s.height 0 row col ↔
        row < s.height ∧ col < s.width := fun row col => Window.before_height
    refine ⟨buffer, hdraw, hpainted.size, ?_, ?_⟩
    · intro row col k hrow hcol hsolid hk
      exact hpainted.shown row col k ((hall row col).mpr ⟨hrow, hcol⟩) hsolid hk
    · intro i hi
      apply hpainted.frame i
      intro row col k hbefore hsolid hk
      obtain ⟨hrow, hcol⟩ := (hall row col).mp hbefore
      exact hi row col k hrow hcol hsolid hk
  · intro hinvisible
    rw [vgDrawSprite, if_neg (by rw [hinvisible]; exact Bool.false_ne_true)]

/-- A line of two pixels in the middle of a screen of four by three. -/
theorem vgDrawSprite_exact_line :
    let S : Screen := ⟨4, 3, 1, by decide, by decide⟩
    let s := createSprite ⟨2, 1, fun p => if p = 0 then 7 else 8⟩ 1 1
    ∃ buffer, S.vgDrawSprite (some s) (some 2) (S.secondaryBuffer fun _ => 0) = some (0, buffer) ∧
      buffer.byte 6 = 8 := by
  intro S s
  obtain ⟨buffer, hdraw, -, hshown, -⟩ := (vgDrawSprite_exact S s (fun _ => 0)
    (by decide : 2 * 1 * 1 ≤ 2)).1 rfl ⟨by decide, by decide, by decide, by decide⟩
  exact ⟨buffer, hdraw, hshown 0 1 0 (by decide) (by decide) (by unfold Solid; decide) (by decide)⟩

end Screen

/-! ## The sprites of the game -/

/-- The screen of the program. -/
def Setup.screen (S : Setup) : Screen where
  hRes := hRes
  vRes := vRes
  bytesPerPixel := S.bytesPerPixel
  bytesPerPixel_le := S.bytesPerPixel_le
  addressable := by
    -- 1152 by 864 pixels of at most four bytes
    have hle := Nat.mul_le_mul_left (hRes * vRes) S.bytesPerPixel_le
    exact lt_of_le_of_lt hle (by decide)

theorem Sprite.Inside.holds {S : Setup} {width height : Nat} {s : Sprite}
    (h : s.Inside width height) : S.screen.Holds s := by
  obtain ⟨⟨hleft, hright⟩, htop, hbottom⟩ := h.bounds
  constructor
  · omega
  · show s.x + s.width ≤ (1152 : Nat)
    omega
  · omega
  · show s.y + s.height ≤ (864 : Nat)
    omega

/-- The offsets that the confinement of the sprites speaks of are the places of their pixels in the
window. -/
theorem vgDrawSprite_eq_targets {S : Setup} {width height : Nat} {s : Sprite}
    (h : s.Inside width height) (hvisible : s.visibility = true) :
    vgDrawSprite s S.bytesPerPixel = (List.range s.height).flatMap fun row =>
      (List.range s.width).map fun col =>
        ((h.holds (S := S)).window.target row col : Int) := by
  rw [vgDrawSprite, if_pos hvisible]
  apply List.flatMap_congr
  intro row hrow
  have hline : ((s.y + row) * hRes + s.x) * S.bytesPerPixel % 2 ^ 32 =
      ((h.holds (S := S)).window.target row 0 : Int) := by
    rw [← Screen.Holds.lineOffset_eq (h.holds (S := S)) (List.mem_range.mp hrow)]
    exact (Int.toNat_of_nonneg (Int.emod_nonneg _ (by decide))).symm
  apply List.map_congr_left
  intro col _
  rw [hline, Window.target_eq _ row col]
  push_cast
  rfl

/-- Wherever a game has moved them, the cursor, the pucks and the ball are drawn exactly. -/
theorem drawn_in_every_state {S : Setup} {s : Pc} {es : List Input}
    (hrun : Transition.run Pc.step (init S) es = some s) (o : Object)
    (hvisible : (s.table.get o).visibility = true) {size : Nat}
    (hfull : o.width * o.height * S.bytesPerPixel ≤ size) (bytes : Nat → UInt8) :
    ∃ (hholds : S.screen.Holds (s.table.get o)) (buffer : Block UInt8),
      S.screen.vgDrawSprite (some (s.table.get o)) (some size) (S.screen.secondaryBuffer bytes) =
          some (0, buffer) ∧
        Painted hholds.window (S.screen.Solid (s.table.get o)) ⟨size, (s.table.get o).map⟩
          (s.table.get o).height 0 (S.screen.secondaryBuffer bytes) buffer := by
  -- the invariant of the confinement holds in the state that is reached
  have hinside := tableInvariant_confined.run (confined_loaderSprite S) hrun o
  refine ⟨hinside.holds, Screen.vgDrawSprite_painted hinside.holds hvisible ?_ rfl⟩
  rw [hinside.width_eq, hinside.height_eq]
  exact hfull

end AirHockey
