import AirHockey.Lib.Layers
import AirHockey.Model.View

/-! # What a frame looks like

The bytes of a buffer, pixel by pixel, are a picture, and every drawing command paints one layer
over it. From here on the memory behind a frame no longer matters.

`canvas` reads a picture out of a buffer. `vgDrawSprite_canvas` and `copyLines_canvas` say of the
two ways to draw that they succeed and put their layer on top of it; both come from
`canvas_of_painted`, which turns what a loop has painted into a layer. `swapBuffers_spec` carries
the picture over to the screen. -/

namespace AirHockey

open Blit

namespace Screen

/-- One byte of one pixel of the screen. -/
@[ext]
structure Spot (S : Screen) where
  x : Nat
  y : Nat
  k : Nat
  x_lt : x < S.hRes
  y_lt : y < S.vRes
  k_lt : k < S.bytesPerPixel

/-- Where it is in a buffer. -/
def Spot.address {S : Screen} (p : S.Spot) : Nat := S.offset p.x p.y + p.k

/-- The number of bytes of a buffer, `vram_size`. -/
def vramSize (S : Screen) : Nat := S.hRes * S.vRes * S.bytesPerPixel

/-- The picture in a buffer. -/
def canvas (S : Screen) (b : Block UInt8) : S.Spot → UInt8 := fun p => b.byte p.address

/-- The pixels of a rectangle for which `solid` holds, from the bytes of a pixmap. -/
def pixmapLayer (S : Screen) (left top width height : Nat) (solid : Nat → Nat → Prop)
    [∀ row col, Decidable (solid row col)] (bytes : Nat → UInt8) : Layer S.Spot UInt8 := fun p =>
  if (left ≤ p.x ∧ p.x < left + width) ∧ (top ≤ p.y ∧ p.y < top + height) ∧
      solid (p.y - top) (p.x - left) then
    some (bytes (RowMajor.offset width S.bytesPerPixel (p.y - top) (p.x - left) + p.k))
  else none

instance (S : Screen) (s : Sprite) (row col : Nat) : Decidable (S.Solid s row col) :=
  inferInstanceAs (Decidable (_ ≠ _))

/-- A sprite, where it is visible. -/
def spriteLayer (S : Screen) (s : Sprite) : Layer S.Spot UInt8 :=
  if s.visibility then S.pixmapLayer s.x.toNat s.y.toNat s.width s.height (S.Solid s) s.map
  else fun _ => none

/-- A whole picture. -/
def imageLayer (S : Screen) (left top : Nat) (img : XpmImage) : Layer S.Spot UInt8 :=
  S.pixmapLayer left top img.width img.height (fun _ _ => True) img.bytes

variable {S : Screen}

/-! ## Painting is painting a layer -/

section

variable {w : Window} {solid : Nat → Nat → Prop} [∀ row col, Decidable (solid row col)]
  {src b b' : Block UInt8} {left top width height : Nat} {bytes : Nat → UInt8} {p : S.Spot}

theorem pixmapLayer_of_solid (hx : left ≤ p.x ∧ p.x < left + width)
    (hy : top ≤ p.y ∧ p.y < top + height) (hsolid : solid (p.y - top) (p.x - left)) :
    S.pixmapLayer left top width height solid bytes p =
      some (bytes (RowMajor.offset width S.bytesPerPixel (p.y - top) (p.x - left) + p.k)) :=
  if_pos ⟨hx, hy, hsolid⟩

theorem pixmapLayer_of_clear (h : ¬((left ≤ p.x ∧ p.x < left + width) ∧
    (top ≤ p.y ∧ p.y < top + height) ∧ solid (p.y - top) (p.x - left))) :
    S.pixmapLayer left top width height solid bytes p = none :=
  if_neg h

/-- What is painted through a window of the screen is a layer. -/
theorem canvas_of_painted (hline : w.line = S.hRes) (hdepth : w.depth = S.bytesPerPixel)
    (h : Painted w solid src w.height 0 b b') :
    S.canvas b' =
      (S.pixmapLayer w.left w.top w.width w.height solid src.byte).onto (S.canvas b) := by
  funext p
  have haddress : ∀ row col, w.target row col = S.offset (w.left + col) (w.top + row) := by
    intro row col
    rw [Window.target, hline, hdepth]
    rfl
  by_cases hin : (w.left ≤ p.x ∧ p.x < w.left + w.width) ∧ (w.top ≤ p.y ∧ p.y < w.top + w.height) ∧
      solid (p.y - w.top) (p.x - w.left)
  · obtain ⟨⟨hleft, hright⟩, ⟨htop, hbottom⟩, hsolid⟩ := hin
    rw [Layer.onto_of_some (pixmapLayer_of_solid ⟨hleft, hright⟩ ⟨htop, hbottom⟩ hsolid)]
    have hk : p.k < w.depth := hdepth ▸ p.k_lt
    have hshown := h.shown (p.y - w.top) (p.x - w.left) p.k
      (Window.before_height.mpr ⟨by omega, by omega⟩) hsolid hk
    rw [haddress, Nat.add_sub_cancel' hleft, Nat.add_sub_cancel' htop] at hshown
    show b'.byte p.address = _
    rw [Spot.address, hshown, Window.source, hdepth]
  · rw [Layer.onto_of_none (pixmapLayer_of_clear hin)]
    -- were it one of the painted bytes, it would be in the window
    apply h.frame
    intro row col k hbefore hsolid hk heq
    obtain ⟨hrow, hcol⟩ := Window.before_height.mp hbefore
    have hleft := w.left_le
    rw [Spot.address, haddress] at heq
    -- the address determines pixel and byte
    obtain ⟨⟨hy, hx⟩, -⟩ := RowMajor.offset_inj p.x_lt (by omega) p.k_lt (hdepth ▸ hk) heq
    apply hin
    rw [hx, hy, Nat.add_sub_cancel_left, Nat.add_sub_cancel_left]
    exact ⟨⟨by omega, by omega⟩, ⟨by omega, by omega⟩, hsolid⟩

end

variable {b : Block UInt8}

/-- **A sprite is a layer.** It is drawn without an access outside of its pixmap and the buffer. -/
theorem vgDrawSprite_canvas {s : Sprite} (hholds : S.Holds s) (hsize : b.size = S.vramSize) :
    ∃ b', S.vgDrawSprite (some s) (some (s.width * s.height * 4)) b = some (0, b') ∧
      b'.size = S.vramSize ∧ S.canvas b' = (S.spriteLayer s).onto (S.canvas b) := by
  cases hvisible : s.visibility with
  | false =>
      -- an invisible sprite is not drawn, and its layer is empty
      refine ⟨b, ?_, hsize, ?_⟩
      · rw [vgDrawSprite, if_neg (by rw [hvisible]; exact Bool.false_ne_true)]
      · rw [spriteLayer, if_neg (by rw [hvisible]; exact Bool.false_ne_true)]
        rfl
  | true =>
      obtain ⟨b', hdraw, hpainted⟩ := vgDrawSprite_painted hholds hvisible
        -- four bytes a pixel are enough for the map, since the mode has at most four
        (Nat.mul_le_mul_left _ S.bytesPerPixel_le) hsize
      refine ⟨b', hdraw, hpainted.size.trans hsize, ?_⟩
      rw [spriteLayer, if_pos hvisible]
      exact canvas_of_painted rfl rfl hpainted

/-- The window of a picture on the screen. -/
def imageWindow (S : Screen) (img : XpmImage) {left top : Nat} (hleft : left + img.width ≤ S.hRes)
    (htop : top + img.height ≤ S.vRes) : Window where
  line := S.hRes
  lines := S.vRes
  left := left
  top := top
  width := img.width
  height := img.height
  depth := S.bytesPerPixel
  left_le := hleft
  top_le := htop

/-- The rest of a picture, with `n` lines to go. -/
theorem copyLines_painted {img : XpmImage} {left top row n : Nat} {b' : Block UInt8}
    (hleft : left + img.width ≤ S.hRes) (htop : top + img.height ≤ S.vRes)
    (hsize : b.size = S.vramSize) (hn : row + n = img.height)
    (hpainted : Painted (S.imageWindow img hleft htop) (fun _ _ => True) img.pixmap row 0 b b') :
    ∃ b'', S.copyLines img left n (top + row) (row * (img.width * S.bytesPerPixel)) b' = some b'' ∧
      Painted (S.imageWindow img hleft htop) (fun _ _ => True) img.pixmap img.height 0 b b'' := by
  induction n generalizing row b' with
  | zero =>
      obtain rfl : row = img.height := hn
      exact ⟨b', rfl, hpainted⟩
  | succ n ih =>
      have hrow : row < (S.imageWindow img hleft htop).height := by
        show row < img.height
        omega
      -- the pixmap holds four bytes a pixel, of which at most four are copied
      have hfull : img.width * img.height * S.bytesPerPixel ≤ img.pixmap.size :=
        Nat.mul_le_mul_left _ S.bytesPerPixel_le
      obtain ⟨b'', hcopy, hpainted'⟩ :=
        hpainted.copyLine hrow (fun _ _ => trivial) hsize.ge hfull
      -- the start of the line is computed modulo `2 ^ 32`, and is smaller
      have hstart : (top + row) * S.hRes * S.bytesPerPixel < 2 ^ 32 := by
        have hlines := Nat.mul_le_mul_right S.hRes (show top + row ≤ S.vRes by omega)
        have hbytes := Nat.mul_le_mul_right S.bytesPerPixel hlines
        rw [Nat.mul_comm S.vRes] at hbytes
        exact Nat.lt_of_le_of_lt hbytes S.addressable
      have htarget : left * S.bytesPerPixel + (top + row) * S.hRes * S.bytesPerPixel % 2 ^ 32 =
          (S.imageWindow img hleft htop).target row 0 := by
        rw [Nat.mod_eq_of_lt hstart]
        show _ = ((top + row) * S.hRes + (left + 0)) * S.bytesPerPixel
        ring
      have hsource : row * (img.width * S.bytesPerPixel) =
          (S.imageWindow img hleft htop).source row 0 := by
        show _ = (row * img.width + 0) * S.bytesPerPixel
        ring
      rw [copyLines, htarget, hsource]
      rw [show b'.memcpy _ img.pixmap _ (img.width * S.bytesPerPixel) = some b'' from hcopy,
        Option.bind_some, ← hsource]
      have hnext : row * (img.width * S.bytesPerPixel) + img.width * S.bytesPerPixel =
          (row + 1) * (img.width * S.bytesPerPixel) := by ring
      rw [hnext]
      exact ih (by omega) hpainted'

/-- **A picture is a layer**, wherever it is on the screen. -/
theorem copyLines_canvas {img : XpmImage} {left top : Nat} (hleft : left + img.width ≤ S.hRes)
    (htop : top + img.height ≤ S.vRes) (hsize : b.size = S.vramSize) :
    ∃ b', S.copyLines img left img.height top 0 b = some b' ∧
      b'.size = S.vramSize ∧ S.canvas b' = (S.imageLayer left top img).onto (S.canvas b) := by
  obtain ⟨b', hcopy, hpainted⟩ := copyLines_painted hleft htop hsize (Nat.zero_add _) Painted.start
  rw [Nat.zero_mul] at hcopy
  exact ⟨b', hcopy, hpainted.size.trans hsize, canvas_of_painted rfl rfl hpainted⟩

/-- After the buffers have been swapped the screen shows what has been drawn. -/
theorem swapBuffers_spec {v : View} (hmain : v.mainBuffer.size = S.vramSize)
    (hsecondary : v.secondaryBuffer.size = S.vramSize) :
    ∃ b, v.swapBuffers S = some { v with mainBuffer := b } ∧ b.size = S.vramSize ∧
      S.canvas b = S.canvas v.secondaryBuffer := by
  obtain ⟨b, hb⟩ : ∃ b, v.mainBuffer.memcpy 0 v.secondaryBuffer 0 S.vramSize = some b :=
    ⟨_, if_pos ⟨by omega, by omega⟩⟩
  have hswap : v.swapBuffers S = some { v with mainBuffer := b } := by
    rw [View.swapBuffers, show S.hRes * S.vRes * S.bytesPerPixel = S.vramSize from rfl, hb]
    rfl
  rw [Block.memcpy, if_pos ⟨by omega, by omega⟩] at hb
  cases hb
  refine ⟨_, hswap, hmain, ?_⟩
  funext p
  have hlt : p.address < S.vramSize := by
    have hpixel := RowMajor.offset_add_le p.y_lt p.x_lt S.bytesPerPixel
    have hbyte := p.k_lt
    unfold Spot.address offset vramSize
    omega
  show (if 0 ≤ p.address ∧ p.address < 0 + S.vramSize then _ else _) = _
  rw [if_pos ⟨by omega, by omega⟩, Nat.zero_add, Nat.sub_zero]
  rfl

end Screen

end AirHockey
