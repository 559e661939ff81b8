import AirHockey.Model.Physics
import AirHockey.SerialPort.Receiver

/-! # One PC

The globals of the program, grouped by the file that owns them, with the functions of `model.c`
that only prepare or select something: the menus, the start of a game, the mouse packet.

`init S` is the program when the interrupts start, for any `Setup` that the program does not
decide itself. The displacement in a mouse packet is nine bits in two's complement
(`parseDelta_range`), by trying the 256 data bytes. -/

namespace AirHockey

inductive MainState where
  | mainMenu
  | rules
  | game
  | stop
  | win
  | lost
  | tie
  deriving DecidableEq, Repr

/-- The `selected` flags of one menu: the entries drawn when they are not selected and the entries
drawn when they are. -/
structure Buttons where
  unselected : List Bool
  selected : List Bool
  deriving DecidableEq, Repr

namespace Buttons

/-- `buttons_unselected[i]->selected = v; buttons_selected[i]->selected = v;`, undefined when `i`
is outside one of the arrays. -/
def mark (buttons : Buttons) (i : Int) (v : Bool) : Option Buttons :=
  if 0 ≤ i ∧ i < buttons.unselected.length ∧ i < buttons.selected.length then
    some ⟨buttons.unselected.set i.toNat v, buttons.selected.set i.toNat v⟩
  else none

/-- Is the `i`-th entry of the selected sprites selected? -/
def isSelected (buttons : Buttons) (i : Nat) : Bool := buttons.selected.getD i false

def optionUp (buttons : Buttons) (option size : Int) : Option (Buttons × Int) := do
  -- the entry that is left is cleared before the next one is set
  let buttons ← buttons.mark option false
  let option := option - 1
  let option := if option = -1 then size - 1 else option
  let buttons ← buttons.mark option true
  return (buttons, option)

def optionDown (buttons : Buttons) (option size : Int) : Option (Buttons × Int) := do
  let buttons ← buttons.mark option false
  let option := option + 1
  let option := if option = size then 0 else option
  let buttons ← buttons.mark option true
  return (buttons, option)

end Buttons

/-- What `sp_int` did with a message: the call `move(redpuck, x, y, 2)`, or the ball's new speed. -/
inductive Effect where
  | move (x y : Int)
  | ballSpeed (xspeed yspeed : Int)
  deriving DecidableEq, Repr

/-- The state of one PC. `applied` is a history variable: what the messages of the current game
did. -/
structure Pc where
  mainState : MainState
  option : Int
  menu : Buttons
  winlose : Buttons
  scancode : UInt8
  keyboardError : Bool
  byte : UInt8
  mouseError : Bool
  packet : List UInt8
  count : Nat
  receiver : Receiver
  table : Table
  previousX : Int
  previousY : Int
  puckTransmit : Nat
  timeCount : Nat
  timeRemaining : Nat
  startTime : Nat
  idleGame : Nat
  sysHz : Nat
  applied : List Effect

/-! ## The start of the program -/

/-- What the program does not decide itself: the sprites' pixmaps, the answers of the serial port
to writes, the contents of fresh memory, the pixel format (a pixel is copied into a `uint32_t`) and
the clock rate. -/
structure Setup where
  xpmMouse : Nat → UInt8
  redPuck : Nat → UInt8
  bluePuck : Nat → UInt8
  disk : Nat → UInt8
  slots : List TxSlot
  fcr : List Bool
  cells : List UInt8
  length_cells : cells.length = 100
  bytesPerPixel : Nat
  bytesPerPixel_le : bytesPerPixel ≤ 4
  sysHz : Nat
  sysHz_pos : 0 < sysHz

/-- A serial port that accepts every write. -/
structure Setup.Healthy (S : Setup) : Prop where
  slots : S.slots = []
  fcr : S.fcr = []

/-- The four moving sprites as `loader_sprite` creates them. -/
def loaderSprite (S : Setup) : Table where
  mouse := createSprite ⟨12, 19, S.xpmMouse⟩ 576 150
  redpuck := createSprite ⟨80, 80, S.redPuck⟩ 535 55
  bluepuck := createSprite ⟨80, 80, S.bluePuck⟩ 535 730
  ball := createSprite ⟨50, 50, S.disk⟩ 550 410
  player1Score := 0
  player2Score := 0
  isMainPc := true
  tx := { slots := S.slots, sent := [], history := [], gameMark := 0 }
  bytesPerPixel := S.bytesPerPixel

/-- The program when the interrupts start: the initial values of the globals, the menu flags that
`loader_sprite` sets, and an empty input queue. -/
def init (S : Setup) : Pc where
  mainState := .mainMenu
  option := 0
  menu := ⟨[true, false, false], [true, false, false]⟩
  winlose := ⟨[true, false], [true, false]⟩
  scancode := 0
  keyboardError := false
  byte := 0
  mouseError := false
  packet := [0, 0, 0]
  count := 0
  receiver :=
    { fifo := []
      fcr := S.fcr
      inQueue := Queue.createQueue S.cells S.length_cells
      storedX := 0
      isStoredX := false }
  table := loaderSprite S
  previousX := 0
  previousY := 0
  puckTransmit := 0
  timeCount := 0
  timeRemaining := 0
  startTime := 0
  idleGame := 0
  sysHz := S.sysHz
  applied := []

/-! ## The start of a game -/

namespace Table

/-- The part of `reset_game_state` that concerns the table. -/
def reset (t : Table) : Table :=
  { t with
    player1Score := 0
    player2Score := 0
    ball := { t.ball with x := 550, y := 410, xspeed := 0, yspeed := 0 }
    bluepuck := { t.bluepuck with xspeed := 0, yspeed := 0, x := 535, y := 730 }
    redpuck := { t.redpuck with xspeed := 0, yspeed := 0, x := 535, y := 55 }
    tx := { t.tx with gameMark := t.tx.history.length } }

/-- In a new game nothing has been told. -/
@[simp] theorem thisGame_reset (t : Table) : t.reset.tx.thisGame = [] := List.drop_length

end Table

namespace Pc

def resetGameState (s : Pc) : Pc :=
  { s with
    timeRemaining := 200
    startTime := s.timeCount / s.sysHz
    timeCount := 0
    table := s.table.reset
    previousX := 535
    previousY := 730
    applied := [] }

def serialPortResetFIFO (s : Pc) : Pc := { s with receiver := s.receiver.serialPortResetFIFO }

/-- `send_signal(signal1)`, the only message that a key sends. -/
def sendStartLeave (s : Pc) : Pc :=
  { s with table := { s.table with tx := (s.table.tx.note .signal).sendSignal signal1 } }

end Pc

/-! ## The mouse packet -/

/-- `struct packet`, as far as the program fills it in. -/
structure Packet where
  bytes : List UInt8
  rb : Bool
  mb : Bool
  lb : Bool
  deltaX : Int
  deltaY : Int
  xOv : Bool
  yOv : Bool
  deriving DecidableEq, Repr

def lmbBit : UInt8 := 0x01
def rmbBit : UInt8 := 0x02
def mmbBit : UInt8 := 0x04
def syncBit : UInt8 := 0x08
def msbXDelta : UInt8 := 0x10
def msbYDelta : UInt8 := 0x20
def xOvfl : UInt8 := 0x40
def yOvfl : UInt8 := 0x80

/-- `number | ~(BIT(9) - 1)` on 32 bits, narrowed to `int16_t`. -/
def nineBitSignExtension (number : Nat) : Int := int16 ((number ||| 0xFFFFFE00 : Nat) : Int)

/-- One axis of `parse_mouse_data`: the data byte, or its extension when the sign bit is set. -/
def parseDelta (flags data msb : UInt8) : Int :=
  if flags &&& msb ≠ 0 then nineBitSignExtension (256 + data.toNat) else data.toNat

def parseMouseData (packet : List UInt8) : Packet :=
  let flags := packet.getD 0 0
  { bytes := packet
    rb := flags &&& rmbBit != 0
    mb := flags &&& mmbBit != 0
    lb := flags &&& lmbBit != 0
    deltaX := parseDelta flags (packet.getD 1 0) msbXDelta
    deltaY := parseDelta flags (packet.getD 2 0) msbYDelta
    xOv := flags &&& xOvfl != 0
    yOv := flags &&& yOvfl != 0 }

/-- The sign bit subtracts 256 from the data byte: nine-bit two's complement. -/
theorem nineBitSignExtension_byte (data : UInt8) :
    nineBitSignExtension (256 + data.toNat) = data.toNat - 256 := by
  have h : ∀ n < 256, nineBitSignExtension (256 + n) = (n : Int) - 256 := by decide +kernel
  exact h data.toNat data.toNat_lt

/-- A displacement of the mouse has nine bits. -/
-- without the sign bit the data byte stands for itself
theorem parseDelta_range (flags data msb : UInt8) :
    -256 ≤ parseDelta flags data msb ∧ parseDelta flags data msb ≤ 255 := by
  have h := data.toNat_lt
  unfold parseDelta
  split
  · rw [nineBitSignExtension_byte]
    omega
  · omega

end AirHockey
