import AirHockey.Lib.Transition
import AirHockey.Model.Pc

/-! # The interrupt handlers

`timer_int`, `keyboard_int`, `mouse_int` and `sp_int`, and the steps of one PC. What a handler
draws is left out: drawing reads the state and writes only pixels and the positions of digit
sprites.

There are definitions only, and each stands under the name of its function; a function with many
branches is cut into one definition for each branch, in the order of the source. A step is an
`Interrupt` with everything that the devices answer meanwhile, or the arrival of bytes. -/

namespace AirHockey

def escBreakCode : UInt8 := 0x81
def spaceBreakCode : UInt8 := 0xb9
def sBreakCode : UInt8 := 0x1F
def wBreakCode : UInt8 := 0x11

def kbcObf : UInt8 := 0x01
def kbcAux : UInt8 := 0x20
def kbcToErr : UInt8 := 0x40
def kbcParErr : UInt8 := 0x80
def kbcRetryCnt : Nat := 10

/-- One attempt to read the 8042: the status register and, if it is looked at, the output buffer;
`none` is a port access that fails. -/
structure KbcRead where
  stat : Option UInt8
  data : Option UInt8

/-- The common loop of `kbc_ih` and `mouse_ih`: the status and data of the first attempt that finds
the output buffer full and can read it. Attempts that are not listed find the buffer empty. -/
def kbcPoll : Nat → List KbcRead → Option (UInt8 × UInt8)
  | 0, _ => none
  | _ + 1, [] => none
  | n + 1, read :: reads =>
    match read.stat with
    | none => kbcPoll n reads
    | some stat =>
      if stat &&& kbcObf ≠ 0 then
        match read.data with
        | none => kbcPoll n reads
        | some data => some (stat, data)
      else kbcPoll n reads

namespace Pc

def kbcIh (reads : List KbcRead) (s : Pc) : Pc :=
  match kbcPoll kbcRetryCnt reads with
  | none => { s with keyboardError := false }
  | some (stat, data) =>
    if stat &&& (kbcParErr ||| kbcToErr) = 0 then
      { s with keyboardError := false, scancode := data }
    else { s with keyboardError := true }

def mouseIh (reads : List KbcRead) (s : Pc) : Pc :=
  match kbcPoll kbcRetryCnt reads with
  | none => { s with mouseError := false }
  | some (stat, data) =>
    if stat &&& (kbcParErr ||| kbcToErr) = 0 ∧ stat &&& kbcAux ≠ 0 then
      { s with mouseError := false, byte := data }
    else { s with mouseError := true }

/-! ## The timer -/

def timerIntHandler (s : Pc) : Pc := { s with timeCount := (s.timeCount + 1) % 2 ^ 32 }

def transmitPuckChange (s : Pc) : Pc :=
  let sent := s.table.tx.transmitPuckChange s.table.bluepuck s.previousX s.previousY
  { s with table := { s.table with tx := sent.1 }, previousX := sent.2.1, previousY := sent.2.2 }

/-- Every second tick the displacement of the puck is sent. -/
def puckTick (s : Pc) : Pc :=
  let s := { s with puckTransmit := (s.puckTransmit + 1) % 2 ^ 32 }
  if s.puckTransmit = 2 then { s.transmitPuckChange with puckTransmit := 0 } else s

/-- The test of the clock and the scores, once a second. -/
def clockTick (s : Pc) : Pc :=
  if s.timeCount % s.sysHz = 0 then
    if s.timeRemaining > 0 then
      -- the score of the other player is tested first
      let s := { s with timeRemaining := s.timeRemaining - 1 }
      if s.table.player1Score = 3 then { s with mainState := .lost }
      else if s.table.player2Score = 3 then { s with mainState := .win }
      else s
    else if s.table.player1Score = s.table.player2Score then { s with mainState := .tie }
    else if s.table.player1Score > s.table.player2Score then { s with mainState := .lost }
    else if s.table.player1Score < s.table.player2Score then { s with mainState := .win }
    else s
  else s

def ballTick (s : Pc) : Pc :=
  if s.table.ball.xspeed ≠ 0 ∨ s.table.ball.yspeed ≠ 0 then
    { s with table := s.table.move .ball s.table.ball.xspeed s.table.ball.yspeed 1 }
  else s

def timerInt (s : Pc) : Pc :=
  let s := s.timerIntHandler
  match s.mainState with
  -- the three parts of the case `GAME`, in this order
  | .game => s.puckTick.clockTick.ballTick
  | _ => s

/-! ## The keyboard -/

def optionUp (s : Pc) : Option Pc := do
  let (menu, option) ← s.menu.optionUp s.option 3
  return { s with menu := menu, option := option }

def optionDown (s : Pc) : Option Pc := do
  let (menu, option) ← s.menu.optionDown s.option 3
  return { s with menu := menu, option := option }

def popOutUp (s : Pc) : Option Pc := do
  let (winlose, option) ← s.winlose.optionUp s.option 2
  return { s with winlose := winlose, option := option }

def popOutDown (s : Pc) : Option Pc := do
  let (winlose, option) ← s.winlose.optionDown s.option 2
  return { s with winlose := winlose, option := option }

/-- The Play key: flush what has arrived, announce the game, take the main role. -/
def play (s : Pc) : Pc :=
  let s := s.serialPortResetFIFO.sendStartLeave
  { s with table := { s.table with isMainPc := true }, mainState := .game }.resetGameState

/-- `if (scancode == key) f(…);`, for the two keys that move through a menu. -/
def onKey (key : UInt8) (f : Pc → Option Pc) (s : Pc) : Option Pc :=
  if s.scancode = key then f s else some s

/-- The case `MAIN_MENU` of `keyboard_int`. Entries: 0 play, 1 rules, 2 exit. -/
def menuKey (s : Pc) : Option Pc :=
  -- three tests, one after the other: the state that one of them leaves is the next one's
  let s := if s.menu.isSelected 2 ∧ s.scancode = spaceBreakCode then { s with mainState := .stop }
    else s
  let s := if s.menu.isSelected 0 ∧ s.scancode = spaceBreakCode then s.play else s
  let s := if s.menu.isSelected 1 ∧ s.scancode = spaceBreakCode then { s with mainState := .rules }
    else s
  (s.onKey sBreakCode optionDown).bind (onKey wBreakCode optionUp)

def leaveGame (s : Pc) : Pc :=
  { s.serialPortResetFIFO.sendStartLeave with mainState := .mainMenu }

/-- The case `GAME` of `keyboard_int`. -/
def gameKey (s : Pc) : Pc :=
  -- leaving does not return, so the idle time is set as well
  let s := if s.scancode = escBreakCode then s.leaveGame else s
  { s with idleGame := s.timeCount }

/-- The cases `WIN`, `LOST` and `TIE`. Entries: 0 play again, 1 leave. -/
def popOutButtons (s : Pc) : Option Pc :=
  -- leaving does not return either, so both entries can act on one key
  let s := if s.winlose.isSelected 1 ∧ s.scancode = spaceBreakCode then
    { s.serialPortResetFIFO with mainState := .stop } else s
  let s := if s.winlose.isSelected 0 ∧ s.scancode = spaceBreakCode then
    { s.serialPortResetFIFO with mainState := .game }.resetGameState else s
  (s.onKey wBreakCode popOutUp).bind (onKey sBreakCode popOutDown)

def keyboardInt (reads : List KbcRead) (s : Pc) : Option Pc :=
  let s := s.kbcIh reads
  if s.keyboardError then some s
  else
    match s.mainState with
    | .mainMenu => s.menuKey
    | .game => some s.gameKey
    | .rules => some (if s.scancode = escBreakCode then { s with mainState := .mainMenu } else s)
    | .win | .lost | .tie => s.popOutButtons
    | .stop => some s

/-! ## The mouse -/

def mouseUpdate (parsing : Packet) (t : Table) : Table :=
  -- a packet with an overflow does not move the cursor
  if parsing.xOv || parsing.yOv then t
  else t.move .mouse parsing.deltaX parsing.deltaY 0

/-- What a complete packet does: the cursor moves and, with the left button held, so does the
puck. -/
def actOnPacket (parsing : Packet) (t : Table) : Table :=
  let t := mouseUpdate parsing t
  if parsing.lb then
    let t := t.move .bluepuck parsing.deltaX parsing.deltaY 2
    { t with mouse := { t.mouse with visibility := false } }
  else
    { t with
      mouse := { t.mouse with visibility := true }
      bluepuck := { t.bluepuck with xspeed := 0, yspeed := 0 } }

def mouseInt (reads : List KbcRead) (s : Pc) : Pc :=
  let s := s.mouseIh reads
  if s.mouseError then s
  -- a first byte without the synchronisation bit is dropped
  else if s.count = 0 ∧ s.byte &&& syncBit = 0 then s
  else
    let s := { s with packet := s.packet.set s.count s.byte, count := s.count + 1 }
    if s.count = 3 then
      { s with count := 0, table := actOnPacket (parseMouseData s.packet) s.table }
    else s

/-! ## The serial port -/

/-- The word `temp_x` of the case `GAME`: the stored one, else the next from the queue. -/
def nextTempX (r : Receiver) : Option (Nat × Receiver) :=
  if r.isStoredX then some (r.storedX, { r with isStoredX := false }) else r.readNextSignal

/-- `move(redpuck, -temp_x, temp_y, 2)`. -/
def applyPuck (tempX tempY : Nat) (s : Pc) : Pc :=
  let x := int16 (-tempX)
  let y := int16 tempY
  { s with table := s.table.move .redpuck x y 2, applied := s.applied ++ [.move x y] }

/-- `Ball->xspeed = -aux; Ball->yspeed = -(int8_t)(temp_y >> 8);`. -/
def applyBall (tempY : Nat) (s : Pc) : Pc :=
  let xspeed := -int8 (tempY % 256 : Nat)
  let yspeed := -int8 (tempY / 256 : Nat)
  { s with
    table := { s.table with ball := { s.table.ball with xspeed := xspeed, yspeed := yspeed } }
    applied := s.applied ++ [.ballSpeed xspeed yspeed] }

/-- The rest of the case `GAME` once `temp_x` is known and is no start/leave word: without a second
word the first one is kept. -/
def applyPayload (tempX : Nat) (s : Pc) : Pc :=
  match s.receiver.readNextSignal with
  | none => { s with receiver := { s.receiver with storedX := tempX, isStoredX := true } }
  | some (tempY, r) =>
    if tempX = ballSignal then { s with receiver := r }.applyBall tempY
    else { s with receiver := r }.applyPuck tempX tempY

def spMenu (s : Pc) : Pc :=
  match s.receiver.readNextSignal with
  | none => s
  | some (tempX, r) =>
    let s := { s with receiver := r }
    if tempX = signal1 then
      -- the word is the other PC's: it has pressed Play, and this PC is not the main one
      let s := { s.serialPortResetFIFO with mainState := .game }.resetGameState
      { s with table := { s.table with isMainPc := false } }
    else s

def spGame (s : Pc) : Pc :=
  match nextTempX s.receiver with
  | none => s
  | some (tempX, r) =>
    let s := { s with receiver := r }
    if tempX = signal1 then { s with mainState := .mainMenu } else s.applyPayload tempX

def spInt (iir : Option UInt8) (s : Pc) : Pc :=
  match s.mainState with
  | .mainMenu => { s with receiver := s.receiver.spIh iir }.spMenu
  | .game => { s with receiver := s.receiver.spIh iir }.spGame
  | _ => s

end Pc

/-! ## Steps -/

/-- An interrupt, with what the devices answer while it is handled. -/
inductive Interrupt where
  | timer
  | keyboard (reads : List KbcRead)
  | mouse (reads : List KbcRead)
  | serial (iir : Option UInt8)

/-- `none`: the C program has no defined behaviour (a menu flag outside its array). -/
def Pc.handle (i : Interrupt) (s : Pc) : Option Pc :=
  match i with
  | .timer => some s.timerInt
  | .keyboard reads => s.keyboardInt reads
  | .mouse reads => some (s.mouseInt reads)
  | .serial iir => some (s.spInt iir)

/-- What happens to a PC: an interrupt, or the arrival of bytes in its receive FIFO. -/
inductive Input where
  | interrupt (i : Interrupt)
  | arrive (slots : List RxSlot)

def Pc.receive (slots : List RxSlot) (s : Pc) : Pc :=
  { s with receiver := { s.receiver with fifo := s.receiver.fifo ++ slots } }

def Pc.step (s : Pc) : Input → Option Pc
  | .interrupt i => s.handle i
  | .arrive slots => some (s.receive slots)

end AirHockey
