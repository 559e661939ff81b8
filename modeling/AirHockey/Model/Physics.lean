import AirHockey.SerialPort.Transmitter

/-! # Moving the sprites

The functions of `physics.c`, over the globals they read and write: the four sprites that move,
the scores, the role of this PC and its end of the serial line. A `Sprite*` argument is an
`Object`, so that comparing pointers is comparing objects; only `detect_collision` follows two of
them.

There are definitions only. What a move does, layer by layer, is proved in `Moves`, `Contact`,
`Rebound` and `Pucks`; the pixel test is measured against the overlap of the pictures in
`Pixels`. -/

namespace AirHockey

def horizontalStart : Int := 273
def horizontalEnd : Int := 879
def verticalStart : Int := 21
def verticalEnd : Int := 843
def middleField : Int := 432
def leftPost : Int := 476
def rightPost : Int := 676
def maxVelocity : Int := 8

def transparent : Nat := 0xFFFFFE

inductive Object where
  | mouse
  | redpuck
  | bluepuck
  | ball
  deriving DecidableEq, Repr

/-- The array `info`: which walls a move would run into. -/
structure Walls where
  top : Bool
  right : Bool
  bottom : Bool
  left : Bool
  deriving DecidableEq, Repr

structure Table where
  mouse : Sprite
  redpuck : Sprite
  bluepuck : Sprite
  ball : Sprite
  player1Score : Int
  player2Score : Int
  isMainPc : Bool
  tx : Transmitter
  bytesPerPixel : Nat

namespace Table

def get (t : Table) : Object → Sprite
  | .mouse => t.mouse
  | .redpuck => t.redpuck
  | .bluepuck => t.bluepuck
  | .ball => t.ball

def set (t : Table) : Object → Sprite → Table
  | .mouse, sprite => { t with mouse := sprite }
  | .redpuck, sprite => { t with redpuck := sprite }
  | .bluepuck, sprite => { t with bluepuck := sprite }
  | .ball, sprite => { t with ball := sprite }

end Table

/-! ## Collision tests -/

/-- `color` after `memcpy(&color, map + position, bytes_per_pixel)` into a zeroed `uint32_t`. -/
def colorAt (map : Nat → UInt8) (position bytesPerPixel : Nat) : Nat :=
  (List.range bytesPerPixel).foldr (fun k color => (map (position + k)).toNat * 256 ^ k + color) 0

/-- The offset that `pixel_detection` computes into the map of a sprite whose upper left corner is
at `(left, top)`, for the screen pixel `(x, y)`. -/
def pixelPosition (width : Nat) (left top x y : Int) (bytesPerPixel : Nat) : Int :=
  (width * (y - top) + (x - left)) * bytesPerPixel

def pixelDetection (object1 : Sprite) (newX newY : Int) (object2 : Sprite)
    (leftBorder rightBorder topBorder bottomBorder : Int) (bytesPerPixel : Nat) : Bool :=
  (List.range (rightBorder - leftBorder).toNat).any fun i =>
    (List.range (bottomBorder - topBorder).toNat).any fun j =>
      let x := leftBorder + i
      let y := topBorder + j
      let position1 := pixelPosition object1.width newX newY x y bytesPerPixel
      let position2 := pixelPosition object2.width object2.x object2.y x y bytesPerPixel
      let color1 := colorAt object1.map position1.toNat bytesPerPixel
      let color2 := colorAt object2.map position2.toNat bytesPerPixel
      color1 != transparent && color2 != transparent

/-- `detect_collision` for two sprites that are not one and the same. -/
def detectCollision (object1 : Sprite) (newX newY : Int) (object2 : Sprite) (bytesPerPixel : Nat) :
    Bool :=
  let leftBorder := max newX object2.x
  let rightBorder := min (newX + object1.width) (object2.x + object2.width)
  let topBorder := max newY object2.y
  let bottomBorder := min (newY + object1.height) (object2.y + object2.height)
  if rightBorder ≥ leftBorder ∧ topBorder ≤ bottomBorder then
    pixelDetection object1 newX newY object2 leftBorder rightBorder topBorder bottomBorder
      bytesPerPixel
  else false

def wallInfo (object : Sprite) (newX newY : Int) : Walls where
  top := newY < verticalStart
  right := newX + object.width > horizontalEnd
  bottom := newY + object.height > verticalEnd
  left := newX < horizontalStart

def detectWallCollision (object : Sprite) (newX newY : Int) : Bool :=
  let info := wallInfo object newX newY
  info.top || info.right || info.bottom || info.left

-- away from the middle line there is no collision, on either side of it
def detectMiddleFieldCollision (object : Sprite) (_newX newY : Int) : Bool :=
  if object.y < middleField then
    if newY < object.y then false
    else newY + object.height > middleField
  else if newY > object.y then false
  else newY < middleField

/-- Between the posts, with both edges. -/
def inGoalMouth (object : Sprite) (newX : Int) : Bool :=
  newX ≥ leftPost ∧ newX ≤ rightPost ∧
    newX + object.width ≥ leftPost ∧ newX + object.width ≤ rightPost

def topGoal (object : Sprite) (newX newY : Int) : Bool :=
  inGoalMouth object newX && newY ≤ verticalStart

def bottomGoal (object : Sprite) (newX newY : Int) : Bool :=
  inGoalMouth object newX && newY + object.height ≥ verticalEnd

/-! ## Responses -/

namespace Table

/-- The goal test counts the goal. -/
-- both goals are tested, one after the other
def detectGoalCollision (object : Sprite) (newX newY : Int) (t : Table) : Bool × Table :=
  let t := if topGoal object newX newY then { t with player2Score := t.player2Score + 1 } else t
  let t := if bottomGoal object newX newY then { t with player1Score := t.player1Score + 1 } else t
  (topGoal object newX newY || bottomGoal object newX newY, t)

end Table

/-- One component of `normalize_speed`. -/
def clampSpeed (v : Int) : Int :=
  let v := if v > maxVelocity then maxVelocity else v
  if v < -maxVelocity then -maxVelocity else v

def normalizeSpeed (object : Sprite) : Sprite :=
  { object with xspeed := clampSpeed object.xspeed, yspeed := clampSpeed object.yspeed }

namespace Table

def ballCollision (object : Object) (t : Table) : Table :=
  let ball :=
    normalizeSpeed { t.ball with xspeed := (t.get object).xspeed, yspeed := (t.get object).yspeed }
  { t with ball := ball, tx := t.tx.transmitBallSpeed ball.xspeed ball.yspeed }

def bounceOff (object1 object2 : Object) (t : Table) : Table :=
  let other := t.get object2
  -- a puck at rest, or a ball: the object goes back where it came from
  if other.xspeed = 0 ∧ other.yspeed = 0 then
    let sprite := t.get object1
    let sprite := { sprite with xspeed := sprite.xspeed * -1, yspeed := sprite.yspeed * -1 }
    let t := t.set object1 sprite
    { t with tx := t.tx.transmitBallSpeed sprite.xspeed sprite.yspeed }
  else
    -- a moving one passes on its velocity, which is told for the ball only
    let sprite := { t.get object1 with xspeed := other.xspeed, yspeed := other.yspeed }
    if object1 = .ball then
      let sprite := normalizeSpeed sprite
      let t := t.set object1 sprite
      { t with tx := t.tx.transmitBallSpeed sprite.xspeed sprite.yspeed }
    else t.set object1 sprite

end Table

/-- The ball turns back at a wall it would hit. -/
def reflect (info : Walls) (object : Sprite) : Sprite :=
  let object := if info.top then { object with yspeed := object.yspeed * -1 } else object
  let object := if info.right then { object with xspeed := object.xspeed * -1 } else object
  let object := if info.bottom then { object with yspeed := object.yspeed * -1 } else object
  if info.left then { object with xspeed := object.xspeed * -1 } else object

/-- Everything else is put against the wall, on the axis that hit it. -/
def putAgainst (info : Walls) (object : Sprite) : Sprite :=
  let object := if info.top then { object with y := verticalStart } else object
  let object := if info.right then { object with x := horizontalEnd - object.width } else object
  let object := if info.bottom then { object with y := verticalEnd - object.height } else object
  if info.left then { object with x := horizontalStart } else object

namespace Table

def handlePlayAreaCollision (object : Object) (info : Walls) (t : Table) : Table :=
  if object = .ball then t.set object (reflect info (t.get object))
  else t.set object (putAgainst info (t.get object))

/-- The three collision layers: 0 for the mouse, 1 for the ball, 2 for the pucks. -/
def detectCollisionInLayer (object : Object) (newX newY : Int) (layer : Nat) (t : Table) :
    Bool × Table :=
  let sprite := t.get object
  let info := wallInfo sprite newX newY
  match layer with
  | 0 =>
    if detectWallCollision sprite newX newY then (true, t.handlePlayAreaCollision object info)
    else (false, t)
  | 1 =>
    let goal := t.detectGoalCollision sprite newX newY
    if goal.1 then
      (true, goal.2.set object { sprite with x := 550, y := 410, xspeed := 0, yspeed := 0 })
    else if detectWallCollision sprite newX newY then
      (true, t.handlePlayAreaCollision object info)
    -- only the main PC looks for hits, the red puck first
    else if t.isMainPc then
      if object ≠ .redpuck ∧ detectCollision sprite newX newY t.redpuck t.bytesPerPixel then
        (true, t.bounceOff object .redpuck)
      else if object ≠ .bluepuck ∧
          detectCollision sprite newX newY t.bluepuck t.bytesPerPixel then
        (true, t.bounceOff object .bluepuck)
      else (false, t)
    else (false, t)
  | 2 =>
    if detectWallCollision sprite newX newY then (true, t.handlePlayAreaCollision object info)
    -- the wall comes before the middle line
    else if detectMiddleFieldCollision sprite newX newY then
      if sprite.y < middleField then
        (true, t.set object { sprite with y := middleField - sprite.height })
      else (true, t.set object { sprite with y := middleField })
    else if t.isMainPc then
      if object ≠ .ball ∧ detectCollision sprite newX newY t.ball t.bytesPerPixel then
        (true, t.ballCollision object)
      else (false, t)
    else (false, t)
  | _ => (false, t)

/-- The displacement is passed as two `int16_t`. -/
def move (object : Object) (x y : Int) (layer : Nat) (t : Table) : Table :=
  let x := int16 x
  let y := int16 y
  let newX := (t.get object).x + x
  let newY := (t.get object).y - y
  let collided := t.detectCollisionInLayer object newX newY layer
  if collided.1 then collided.2
  else
    collided.2.set object
      { collided.2.get object with x := newX, y := newY, xspeed := x, yspeed := y }

end Table

end AirHockey
