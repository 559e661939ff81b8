import AirHockey.Lib.Transition
import AirHockey.Model.Screen
import AirHockey.Rtc

/-! # The view

The functions of `view.c`, with the sprites that they draw. `draw_frame` is a list of drawing
commands, carried out in order on the secondary buffer. A command has no outcome where the program
would index outside of an array of digits or access memory outside of a buffer or a pixmap.

The pictures themselves are a parameter, `Artwork`: only their sizes are taken from the headers of
the XPMs. What a frame looks like is worked out in later modules, for any artwork; here are the
commands (`Draw`), the frames of the modes (`frame`), and the two buffers (`View`). -/

namespace AirHockey

open Blit

/-! ## The pictures -/

/-- The arrays `numbers`, `numbers_red` and `numbers_blue`. -/
inductive Font where
  | white
  | red
  | blue
  deriving DecidableEq, Repr

/-- The variables of type `xpm_image_t`. -/
inductive Backdrop where
  | menu
  | rules
  | game
  | youwon
  | youlost
  | tie
  deriving DecidableEq, Repr

/-- The pictures of the sprites that never move. -/
inductive Icon where
  | playUnselected
  | playSelected
  | rulesUnselected
  | rulesSelected
  | exitUnselected
  | exitSelected
  | playAgainUnselected
  | playAgainSelected
  | leaveUnselected
  | leaveSelected
  | whiteTime
  | titleTime
  | titlePoints
  | whitePoints
  | timeTwoPoints
  | daySeparator
  deriving DecidableEq, Repr

/-- Width and height, from the headers of the XPMs. -/
def Backdrop.size : Backdrop → Nat × Nat
  | .menu | .rules | .game => (1152, 864)
  | .youwon | .youlost | .tie => (486, 299)

def Icon.size : Icon → Nat × Nat
  | .playUnselected | .playSelected | .rulesUnselected | .rulesSelected
  | .exitUnselected | .exitSelected => (310, 96)
  | .playAgainUnselected | .playAgainSelected => (241, 79)
  | .leaveUnselected | .leaveSelected => (149, 79)
  | .whiteTime | .timeTwoPoints => (10, 23)
  | .titleTime => (132, 31)
  | .titlePoints => (206, 31)
  | .whitePoints | .daySeparator => (27, 5)

/-- In every font only the one is narrow. -/
-- the digits `1` are 27 wide, all others 31
def digitSize (i : Nat) : Nat × Nat := if i = 1 then (27, 31) else (31, 31)

/-- What `xpm_load` makes of the pictures: their bytes, four for each pixel. -/
structure Artwork where
  backdrop : Backdrop → Nat → UInt8
  digit : Font → Nat → Nat → UInt8
  icon : Icon → Nat → UInt8

namespace Artwork

def backdropImage (A : Artwork) (b : Backdrop) : XpmImage := ⟨b.size.1, b.size.2, A.backdrop b⟩

def digitImage (A : Artwork) (font : Font) (i : Nat) : XpmImage :=
  ⟨(digitSize i).1, (digitSize i).2, A.digit font i⟩

def iconImage (A : Artwork) (icon : Icon) : XpmImage := ⟨icon.size.1, icon.size.2, A.icon icon⟩

/-! ## The sprites of `loader_sprite` that never move -/

section

variable (A : Artwork)

def startButtonUnselected : Sprite := createSprite (A.iconImage .playUnselected) 421 350
def startButtonSelected : Sprite := createSprite (A.iconImage .playSelected) 421 350
def rulesButtonUnselected : Sprite := createSprite (A.iconImage .rulesUnselected) 421 500
def rulesButtonSelected : Sprite := createSprite (A.iconImage .rulesSelected) 421 500
def exitButtonUnselected : Sprite := createSprite (A.iconImage .exitUnselected) 421 650
def exitButtonSelected : Sprite := createSprite (A.iconImage .exitSelected) 421 650
def playAgainButtonUnselected : Sprite := createSprite (A.iconImage .playAgainUnselected) 450 380
def playAgainButtonSelected : Sprite := createSprite (A.iconImage .playAgainSelected) 450 380
def leaveButtonUnselected : Sprite := createSprite (A.iconImage .leaveUnselected) 495 480
def leaveButtonSelected : Sprite := createSprite (A.iconImage .leaveSelected) 495 480
def timeSep : Sprite := createSprite (A.iconImage .whiteTime) 115 425
def timeTitle : Sprite := createSprite (A.iconImage .titleTime) 55 370
def pointsTitle : Sprite := createSprite (A.iconImage .titlePoints) 925 370
def pointsSep : Sprite := createSprite (A.iconImage .whitePoints) 1015 440
def twoPoints : Sprite := createSprite (A.iconImage .timeTwoPoints) (20 + 35 * 2) 15
def twoPoints2 : Sprite := createSprite (A.iconImage .timeTwoPoints) (20 + 35 * 5) 15
def daySep : Sprite := createSprite (A.iconImage .daySeparator) (445 + 35 * 12) 25
def daySep2 : Sprite := createSprite (A.iconImage .daySeparator) (445 + 35 * 15) 25

/-- The digits of one array: each of them is drawn at many places. -/
def numbers : Font → List Sprite
  | .white => (List.range 10).map fun i => createSprite (A.digitImage .white i) 0 0
  | .red => (List.range 10).map fun i => createSprite (A.digitImage .red i) 0 425
  | .blue => (List.range 10).map fun i => createSprite (A.digitImage .blue i) 0 425

end

end Artwork

/-- The pixmap of a picture, in memory. -/
def XpmImage.pixmap (img : XpmImage) : Block UInt8 := ⟨img.width * img.height * 4, img.bytes⟩

/-! ## The state of the view -/

/-- `loads` says which calls of `xpm_load` are to fail; when that list is used up, none does. -/
structure View where
  numbers : Font → List Sprite
  loaded : Backdrop → Bool
  loads : List Bool
  mainBuffer : Block UInt8
  secondaryBuffer : Block UInt8

/-! ## Copying a picture -/

namespace Screen

/-- The common loop of `vg_draw_background` and `vg_drawn_popOut`, with `n` lines to go. -/
def copyLines (S : Screen) (img : XpmImage) (left : Nat) :
    Nat → Nat → Nat → Block UInt8 → Option (Block UInt8)
  | 0, _, _, buffer => some buffer
  | n + 1, line, sprite, buffer =>
    -- the offset of the line is computed on an `unsigned`
    (buffer.memcpy (left * S.bytesPerPixel + line * S.hRes * S.bytesPerPixel % 2 ^ 32)
      img.pixmap sprite (img.width * S.bytesPerPixel)).bind fun buffer =>
        S.copyLines img left n (line + 1) (sprite + img.width * S.bytesPerPixel) buffer

end Screen

namespace View

/-- `if (img->bytes == NULL) xpm_load(…)`; true if there is a picture afterwards. -/
def load (b : Backdrop) (v : View) : Bool × View :=
  -- the picture is loaded once; a call that fails is made again for the next frame
  if v.loaded b then (true, v)
  else if v.loads.headD false then (false, { v with loads := v.loads.tail })
  else (true, { v with loads := v.loads.tail, loaded := Function.update v.loaded b true })

/-- The return code and the view. -/
def vgDrawBackground (S : Screen) (A : Artwork) (b : Backdrop) (v : View) : Option (Int × View) :=
  match v.load b with
  | (false, v) => some (1, v)
  | (true, v) =>
    let img := A.backdropImage b
    (S.copyLines img 0 img.height 0 0 v.secondaryBuffer).map fun buffer =>
      (0, { v with secondaryBuffer := buffer })

/-- In the middle of the screen. -/
def vgDrawnPopOut (S : Screen) (A : Artwork) (b : Backdrop) (v : View) : Option (Int × View) :=
  match v.load b with
  | (false, v) => some (1, v)
  | (true, v) =>
    let img := A.backdropImage b
    (S.copyLines img (S.hRes / 2 - img.width / 2) img.height (S.vRes / 2 - img.height / 2) 0
      v.secondaryBuffer).map fun buffer => (0, { v with secondaryBuffer := buffer })

/-- `vg_draw_sprite`; the pixmap of a sprite has four bytes a pixel, like that of a picture. -/
def vgDrawSprite (S : Screen) (sprite : Sprite) (v : View) : Option (Int × View) :=
  (S.vgDrawSprite (some sprite) (some (sprite.width * sprite.height * 4)) v.secondaryBuffer).map
    fun out => (out.1, { v with secondaryBuffer := out.2 })

/-- `numbers[i]->x = x; numbers[i]->y = y; vg_draw_sprite(numbers[i]);`. -/
def drawNumber (S : Screen) (font : Font) (i x y : Int) (v : View) : Option (Int × View) :=
  if i < 0 then none
  -- an array of ten pointers: an index outside has no outcome
  else
    (v.numbers font)[i.toNat]?.bind fun sprite =>
      let sprite := { sprite with x := x, y := y }
      -- the position is left in the sprite, where the next frame overwrites it
      let numbers := Function.update v.numbers font ((v.numbers font).set i.toNat sprite)
      { v with numbers := numbers }.vgDrawSprite S sprite

end View

/-! ## Frames -/

/-- What `draw_frame` does step by step. -/
inductive Draw where
  | background (b : Backdrop)
  | popOut (b : Backdrop)
  | sprite (sprite : Sprite)
  | number (font : Font) (i x y : Int)

/-- The return codes are ignored. -/
def View.draw (S : Screen) (A : Artwork) (v : View) : Draw → Option View
  | .background b => (v.vgDrawBackground S A b).map Prod.snd
  | .popOut b => (v.vgDrawnPopOut S A b).map Prod.snd
  | .sprite sprite => (v.vgDrawSprite S sprite).map Prod.snd
  | .number font i x y => (v.drawNumber S font i x y).map Prod.snd

def vgDrawTime (time : Nat) (x y : Int) : List Draw :=
  let minutes := time / 60
  let seconds := time % 60
  [.number .white (minutes / 10 : Nat) x y,
    .number .white (minutes % 10 : Nat) (x + 40) y,
    .number .white (seconds / 10 : Nat) (x + 3 * 40 - 15) y,
    .number .white (seconds % 10 : Nat) (x + 4 * 40 - 15) y]

def vgDrawPoints (player1 player2 x y : Int) : List Draw :=
  -- the red number for one player, the blue one for the other
  [.number .red player1 x y, .number .blue player2 (x + 105) y]

/-- The two digits of a field. -/
def drawField (field : UInt8) (x₁ x₂ y : Int) : List Draw :=
  [.number .white (field.toNat / 10 : Nat) x₁ y, .number .white (field.toNat % 10 : Nat) x₂ y]

def vgDrawRtc (time : DayTime) (x y : Int) : List Draw :=
  drawField time.h x (x + 35) y ++
  drawField time.m (x + 35 * 3) (x + 35 * 4) y ++
  drawField time.s (x + 35 * 6) (x + 35 * 7) y ++
  drawField time.dd (430 + x + 35 * 10) (430 + x + 35 * 11) y ++
  drawField time.mm (430 + x + 5 + 35 * 13) (430 + x + 5 + 35 * 14) y ++
  [.number .white 2 (430 + x + 5 + 35 * 16) y, .number .white 0 (430 + x + 5 + 35 * 17) y] ++
  drawField time.yyyy (430 + x + 5 + 35 * 18) (430 + x + 5 + 35 * 19) y

/-- `if (!button_unselected->selected) vg_draw_sprite(button_unselected);` and so on, for the `i`-th
entry of a menu. -/
def drawButton (buttons : Buttons) (i : Nat) (unselected selected : Sprite) : Draw :=
  .sprite (if !buttons.unselected.getD i false then unselected else selected)

/-- The two buttons of `WIN`, `LOST` and `TIE`. -/
def popOutFrame (A : Artwork) (b : Backdrop) (winlose : Buttons) : List Draw :=
  -- the buttons come after the announcement, on top of it
  [.popOut b,
    drawButton winlose 1 A.leaveButtonUnselected A.leaveButtonSelected,
    drawButton winlose 0 A.playAgainButtonUnselected A.playAgainButtonSelected]

def menuFrame (A : Artwork) (menu : Buttons) (dayTimeInfo : DayTime) : List Draw :=
  [.background .menu,
    drawButton menu 0 A.startButtonUnselected A.startButtonSelected,
    drawButton menu 1 A.rulesButtonUnselected A.rulesButtonSelected,
    drawButton menu 2 A.exitButtonUnselected A.exitButtonSelected] ++
  vgDrawRtc dayTimeInfo 10 10 ++
  [.sprite A.twoPoints, .sprite A.twoPoints2, .sprite A.daySep, .sprite A.daySep2]

def gameFrame (A : Artwork) (t : Table) (timeRemaining : Nat) : List Draw :=
  [.background .game, .sprite t.redpuck, .sprite t.bluepuck, .sprite t.mouse, .sprite t.ball,
    .sprite A.timeSep, .sprite A.timeTitle, .sprite A.pointsTitle, .sprite A.pointsSep] ++
  vgDrawTime timeRemaining 35 420 ++ vgDrawPoints t.player1Score t.player2Score 960 425

/-- What `draw_frame` draws, by the mode. -/
def frame (A : Artwork) (s : Pc) (dayTimeInfo : DayTime) : List Draw :=
  match s.mainState with
  | .mainMenu => menuFrame A s.menu dayTimeInfo
  | .rules => [.background .rules]
  | .game => gameFrame A s.table s.timeRemaining
  | .win => popOutFrame A .youwon s.winlose
  | .lost => popOutFrame A .youlost s.winlose
  | .tie => popOutFrame A .tie s.winlose
  -- after the program has been told to stop nothing more is drawn
  | .stop => []

namespace View

def drawFrame (S : Screen) (A : Artwork) (s : Pc) (dayTimeInfo : DayTime) (v : View) :
    Option View :=
  Transition.run (draw S A) v (frame A s dayTimeInfo)

/-- `memcpy(main_buffer, secondary_buffer, vram_size)`. -/
def swapBuffers (S : Screen) (v : View) : Option View :=
  (v.mainBuffer.memcpy 0 v.secondaryBuffer 0 (S.hRes * S.vRes * S.bytesPerPixel)).map fun buffer =>
    { v with mainBuffer := buffer }

end View

end AirHockey
