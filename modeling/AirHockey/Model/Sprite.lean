import Mathlib.Data.List.Basic

/-! # Sprites

`xpm_load` belongs to the graphics library: an `XpmImage` is what it returns. Of a sprite that is
a button only `selected` is ever read, and those flags are kept with the menus; the four sprites
that move are whole `Sprite` records. -/

namespace AirHockey

/-- What `xpm_load` makes of an XPM: the dimensions and the bytes at the returned pointer. -/
structure XpmImage where
  width : Nat
  height : Nat
  bytes : Nat → UInt8

structure Sprite where
  x : Int
  y : Int
  width : Nat
  height : Nat
  xspeed : Int
  yspeed : Int
  map : Nat → UInt8
  visibility : Bool

def createSprite (img : XpmImage) (x y : Int) : Sprite where
  x := x
  y := y
  width := img.width
  height := img.height
  xspeed := 0
  yspeed := 0
  map := img.bytes
  visibility := true

end AirHockey
