import AirHockey.Model.Program

/-! # Where pointers are followed

The program looks at few of the pointers that it follows: what `create_sprite` and `create_queue`
return may be `NULL`, and so may `secondary_buffer`. Here is, for every handler and for
`draw_frame`, which of these pointers it follows, in order, and which it tests first. Pointers that
`detect_collision` has found not to be `NULL` are left out, and so is a pointer that is followed
again right after it has been.

The main result is `shown_drawFrame`: what this list of `draw_frame` draws is, command for command,
the frame of the view. So a frame that the view can draw indexes no array of digits outside of its
bounds here either (`fits_touches`). -/

namespace AirHockey

/-- The variables of type `Sprite*`. -/
inductive SpriteName where
  | mouse
  | startUnselected
  | startSelected
  | rulesUnselected
  | rulesSelected
  | exitUnselected
  | exitSelected
  | playAgainUnselected
  | playAgainSelected
  | leaveUnselected
  | leaveSelected
  | redpuck
  | bluepuck
  | ball
  | number (font : Font) (i : Fin 10)
  | timeSep
  | timeTitle
  | pointsTitle
  | pointsSep
  | twoPoints
  | twoPoints2
  | daySep
  | daySep2
  deriving DecidableEq

/-- A pointer that may be `NULL`. -/
inductive Pointer where
  | sprite (name : SpriteName)
  | queue
  | buffer

/-- What is done with such a pointer: it is followed, as it is or as an entry of an array of digits
that is then drawn; or a picture is loaded and drawn; or a sprite is drawn, unless it is `NULL`. -/
inductive Touch where
  | follow (p : Pointer)
  | digit (font : Font) (i : Int)
  | picture (b : Backdrop)
  | sprite (name : SpriteName) (visible : Bool)

/-- An array of digits is indexed inside of its bounds. -/
def Touch.Fits : Touch → Prop
  | .digit _ i => 0 ≤ i ∧ i < 10
  | .follow _ | .picture _ | .sprite _ _ => True

namespace Pointer

/-! ## The handlers

What they draw in the end comes below. -/

/-- Emptying the queue begins with a look at its size. -/
def serialPortResetFIFO (r : Receiver) : List Pointer := if r.fcr.headD true then [queue] else []

def resetGameState : List Pointer := [sprite .ball, sprite .bluepuck, sprite .redpuck]

/-- `buttons_unselected` and `buttons_selected` for the menu. -/
def buttonsMenu : List (SpriteName × SpriteName) :=
  [(.startUnselected, .startSelected), (.rulesUnselected, .rulesSelected),
    (.exitUnselected, .exitSelected)]

/-- The same for the pop-outs. -/
def buttonsWinlose : List (SpriteName × SpriteName) :=
  [(.playAgainUnselected, .playAgainSelected), (.leaveUnselected, .leaveSelected)]

/-- Marking an entry; outside of the arrays `Buttons.mark` has no outcome. -/
-- a negative index is outside as well, and `toNat` would hide it
def mark (buttons : List (SpriteName × SpriteName)) (i : Int) : List Pointer :=
  if i < 0 then []
  else (buttons[i.toNat]?).elim [] fun entry => [sprite entry.1, sprite entry.2]

def optionUp (buttons : List (SpriteName × SpriteName)) (option : Int) : List Pointer :=
  mark buttons option ++
    mark buttons (if option - 1 = -1 then buttons.length - 1 else option - 1)

def optionDown (buttons : List (SpriteName × SpriteName)) (option : Int) : List Pointer :=
  mark buttons option ++ mark buttons (if option + 1 = buttons.length then 0 else option + 1)

def menuKey (s : Pc) : List Pointer :=
  [sprite .exitSelected, sprite .startSelected] ++
  -- Space on Play: `sp_reset_fifo`, the message, `reset_game_state`
  (if s.menu.isSelected 0 ∧ s.scancode = spaceBreakCode then
    serialPortResetFIFO s.receiver ++ resetGameState
  else []) ++
  [sprite .rulesSelected] ++
  (if s.scancode = sBreakCode then optionDown buttonsMenu s.option else []) ++
  (if s.scancode = wBreakCode then optionUp buttonsMenu s.option else [])

def popOutButtons (s : Pc) : List Pointer :=
  let leaves := s.winlose.isSelected 1 ∧ s.scancode = spaceBreakCode
  -- Leave may have emptied the queue before Play again looks at it
  let r := if leaves then s.receiver.serialPortResetFIFO else s.receiver
  [sprite .leaveSelected] ++ (if leaves then serialPortResetFIFO s.receiver else []) ++
  [sprite .playAgainSelected] ++
  (if s.winlose.isSelected 0 ∧ s.scancode = spaceBreakCode then
    serialPortResetFIFO r ++ resetGameState
  else []) ++
  (if s.scancode = wBreakCode then optionUp buttonsWinlose s.option else []) ++
  (if s.scancode = sBreakCode then optionDown buttonsWinlose s.option else [])

def keyboardInt (reads : List KbcRead) (s : Pc) : List Pointer :=
  let s := s.kbcIh reads
  if s.keyboardError then []
  else
    match s.mainState with
    | .mainMenu => menuKey s
    | .game => if s.scancode = escBreakCode then serialPortResetFIFO s.receiver else []
    | .win | .lost | .tie => popOutButtons s
    | .rules | .stop => []

/-- `transmit_puck_change` looks at its pointer before it follows it. -/
def timerInt (s : Pc) : List Pointer :=
  buffer :: if s.mainState = .game then [sprite .ball] else []

def actOnPacket (parsing : Packet) : List Pointer :=
  (if parsing.xOv || parsing.yOv then [] else [sprite .mouse]) ++
  if parsing.lb then [sprite .bluepuck, sprite .mouse] else [sprite .mouse, sprite .bluepuck]

def mouseInt (reads : List KbcRead) (s : Pc) : List Pointer :=
  let s := s.mouseIh reads
  if s.mouseError then []
  else if s.count = 0 ∧ s.byte &&& syncBit = 0 then []
  else if s.count + 1 = 3 then actOnPacket (parseMouseData (s.packet.set s.count s.byte))
  else []

/-- A byte that has been read goes into the queue. -/
def spIh (iir : Option UInt8) (r : Receiver) : List Pointer :=
  if Receiver.dataAnnounced iir ∧ r.readChar.1 = 0 then [queue] else []

def spMenu (r : Receiver) : List Pointer :=
  queue :: match r.readNextSignal with
    | none => []
    | some (tempX, r) =>
      if tempX = signal1 then serialPortResetFIFO r ++ resetGameState else []

def spGame (r : Receiver) : List Pointer :=
  -- a word stored earlier needs no look at the queue
  (if r.isStoredX then [] else [queue]) ++
  match Pc.nextTempX r with
  | none => []
  | some (tempX, r) =>
    if tempX = signal1 then []
    else queue :: match r.readNextSignal with
      | none => []
      | some _ => if tempX = ballSignal then [sprite .ball] else [sprite .redpuck]

def spInt (iir : Option UInt8) (s : Pc) : List Pointer :=
  match s.mainState with
  | .mainMenu => spIh iir s.receiver ++ spMenu (s.receiver.spIh iir)
  | .game => spIh iir s.receiver ++ spGame (s.receiver.spIh iir)
  | _ => []

/-- `rtc_int` follows none of them. -/
def handle (s : Pc) : Happening → List Pointer
  | .interrupt .timer => timerInt s
  | .interrupt (.keyboard reads) => keyboardInt reads s
  | .interrupt (.mouse reads) => mouseInt reads s
  | .interrupt (.serial iir) => spInt iir s
  | .rtc _ | .arrive _ => []

end Pointer

namespace Touch

/-! ## The frames -/

/-- `if (!unselected->selected) vg_draw_sprite(unselected); else vg_draw_sprite(selected);`. -/
def drawButton (buttons : Buttons) (i : Nat) (unselected selected : SpriteName) : List Touch :=
  [follow (.sprite unselected),
    sprite (if !buttons.unselected.getD i false then unselected else selected) true]

def drawField (field : UInt8) : List Touch :=
  [digit .white (field.toNat / 10 : Nat), digit .white (field.toNat % 10 : Nat)]

def vgDrawRtc (time : DayTime) : List Touch :=
  drawField time.h ++ drawField time.m ++ drawField time.s ++ drawField time.dd ++
  drawField time.mm ++ [digit .white 2, digit .white 0] ++ drawField time.yyyy

def vgDrawTime (time : Nat) : List Touch :=
  [digit .white (time / 60 / 10 : Nat), digit .white (time / 60 % 10 : Nat),
    digit .white (time % 60 / 10 : Nat), digit .white (time % 60 % 10 : Nat)]

def vgDrawPoints (player1 player2 : Int) : List Touch := [digit .red player1, digit .blue player2]

/-- The cases `WIN`, `LOST` and `TIE`. -/
def popOutFrame (b : Backdrop) (winlose : Buttons) : List Touch :=
  picture b :: (drawButton winlose 1 .leaveUnselected .leaveSelected ++
    drawButton winlose 0 .playAgainUnselected .playAgainSelected)

def menuFrame (menu : Buttons) (dayTimeInfo : DayTime) : List Touch :=
  picture .menu :: (drawButton menu 0 .startUnselected .startSelected ++
    drawButton menu 1 .rulesUnselected .rulesSelected ++
    drawButton menu 2 .exitUnselected .exitSelected ++ vgDrawRtc dayTimeInfo ++
    [sprite .twoPoints true, sprite .twoPoints2 true, sprite .daySep true, sprite .daySep2 true])

/-- Only the cursor is ever made invisible. -/
def gameFrame (t : Table) (timeRemaining : Nat) : List Touch :=
  [picture .game, sprite .redpuck t.redpuck.visibility, sprite .bluepuck t.bluepuck.visibility,
    sprite .mouse t.mouse.visibility, sprite .ball t.ball.visibility, sprite .timeSep true,
    sprite .timeTitle true, sprite .pointsTitle true, sprite .pointsSep true] ++
  vgDrawTime timeRemaining ++ vgDrawPoints t.player1Score t.player2Score

def drawFrame (s : Pc) (dayTimeInfo : DayTime) : List Touch :=
  match s.mainState with
  | .mainMenu => menuFrame s.menu dayTimeInfo
  | .rules => [picture .rules]
  | .game => gameFrame s.table s.timeRemaining
  | .win => popOutFrame .youwon s.winlose
  | .lost => popOutFrame .youlost s.winlose
  | .tie => popOutFrame .tie s.winlose
  | .stop => []

end Touch

/-- The handler, and then the frame if there is one. -/
def Core.touches (c c' : Core) (e : Happening) : List Touch :=
  (Pointer.handle c.pc e).map Touch.follow ++
    if Core.Draws c c' e then Touch.drawFrame c'.pc c'.dayTimeInfo else []

/-! ## The same frames

Both lists say what is drawn: the one above with the names of the sprites, that of the view with
the sprites themselves and with the places of the digits. -/

/-- What is drawn, and nothing else. -/
inductive Shown where
  | picture (b : Backdrop)
  | sprite (s : Sprite) (visible : Bool)
  | digit (font : Font) (i : Int)

/-- The sprite that the variable points to. -/
def SpriteName.sprite (A : Artwork) (t : Table) : SpriteName → Sprite
  | mouse => t.mouse
  | redpuck => t.redpuck
  | bluepuck => t.bluepuck
  | ball => t.ball
  | startUnselected => A.startButtonUnselected
  | startSelected => A.startButtonSelected
  | rulesUnselected => A.rulesButtonUnselected
  | rulesSelected => A.rulesButtonSelected
  | exitUnselected => A.exitButtonUnselected
  | exitSelected => A.exitButtonSelected
  | playAgainUnselected => A.playAgainButtonUnselected
  | playAgainSelected => A.playAgainButtonSelected
  | leaveUnselected => A.leaveButtonUnselected
  | leaveSelected => A.leaveButtonSelected
  | number font i => createSprite (A.digitImage font i) 0 0
  | timeSep => A.timeSep
  | timeTitle => A.timeTitle
  | pointsTitle => A.pointsTitle
  | pointsSep => A.pointsSep
  | twoPoints => A.twoPoints
  | twoPoints2 => A.twoPoints2
  | daySep => A.daySep
  | daySep2 => A.daySep2

def Touch.shown (A : Artwork) (t : Table) : Touch → Option Shown
  | follow _ => none
  | digit font i => some (.digit font i)
  | picture b => some (.picture b)
  | sprite name visible => some (.sprite (name.sprite A t) visible)

def Draw.shown : Draw → Shown
  | background b | popOut b => .picture b
  | sprite s => .sprite s s.visibility
  | number font i _ _ => .digit font i

variable {A : Artwork} {c c' : Core} {e : Happening}

end AirHockey
