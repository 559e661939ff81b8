import AirHockey.Model.Session

/-! # The standard machine

The program with its own pixmaps on a healthy machine, and names for the inputs of concrete runs.
Nothing general is proved of it: it is what the theorems about all machines are tried out on.

Collisions look at one thing in a pixmap: which of its pixels are transparent. In `disk`,
`red_puck` and `blue_puck` the opaque pixels of a row are one run; the runs are listed here, row
by row, as first and end column. The two pucks have the same outline. -/

namespace AirHockey

def diskRows : List (Nat × Nat) :=
  [(20, 30), (17, 34), (14, 36), (12, 38), (11, 39), (9, 41), (8, 42), (7, 43), (6, 44), (5, 45),
   (5, 45), (4, 46), (3, 47), (3, 47), (2, 48), (2, 48), (1, 49), (1, 49), (1, 49), (1, 49),
   (0, 50), (0, 50), (0, 50), (0, 50), (0, 50), (0, 50), (0, 50), (0, 50), (0, 50), (0, 50),
   (1, 49), (1, 49), (1, 49), (1, 49), (2, 48), (2, 48), (3, 47), (3, 47), (4, 46), (5, 45),
   (5, 45), (6, 44), (7, 43), (8, 42), (9, 41), (11, 39), (12, 38), (14, 36), (16, 34), (20, 30)]

def puckRows : List (Nat × Nat) :=
  [(34, 47), (29, 51), (26, 54), (24, 56), (22, 58), (20, 60), (18, 62), (17, 63), (15, 65),
   (14, 66), (13, 67), (12, 68), (11, 69), (10, 70), (9, 71), (8, 72), (8, 72), (7, 73), (6, 74),
   (6, 74), (5, 75), (5, 76), (4, 76), (4, 77), (3, 77), (3, 77), (2, 78), (2, 78), (2, 78),
   (1, 79), (1, 79), (1, 79), (1, 79), (0, 79), (0, 80), (0, 80), (0, 80), (0, 80), (0, 80),
   (0, 80), (0, 80), (0, 80), (0, 80), (0, 80), (0, 80), (0, 80), (1, 80), (1, 79), (1, 79),
   (1, 79), (1, 79), (2, 78), (2, 78), (2, 78), (3, 77), (3, 77), (3, 76), (4, 76), (4, 76),
   (5, 75), (6, 74), (6, 74), (7, 73), (8, 72), (8, 72), (9, 71), (10, 70), (11, 69), (12, 68),
   (13, 67), (14, 66), (15, 65), (17, 63), (18, 62), (20, 60), (21, 59), (24, 57), (26, 54),
   (29, 51), (33, 46)]

/-- The bytes of a pixmap with four bytes a pixel, low byte first: black inside the outline, the
transparent colour outside. -/
def outline (width : Nat) (rows : List (Nat × Nat)) (position : Nat) : UInt8 :=
  let pixel := position / 4
  let run := rows.getD (pixel / width) (0, 0)
  if run.1 ≤ pixel % width ∧ pixel % width < run.2 then 0
  else UInt8.ofNat (transparent / 256 ^ (position % 4))

/-- The program on a healthy machine: a serial port that accepts every write, 32-bit pixels, and a
clock that ticks 60 times a second. The cursor takes part in no collision. -/
def Setup.standard : Setup where
  xpmMouse := fun _ => 0
  redPuck := outline 80 puckRows
  bluePuck := outline 80 puckRows
  disk := outline 50 diskRows
  slots := []
  fcr := []
  cells := List.replicate 100 0
  length_cells := List.length_replicate
  bytesPerPixel := 4
  bytesPerPixel_le := by decide
  sysHz := 60
  sysHz_pos := by decide

theorem Setup.standard_healthy : Setup.standard.Healthy := ⟨rfl, rfl⟩

/-! ## Inputs -/

def ticks (n : Nat) : List Input := List.replicate n (.interrupt .timer)

/-- A scancode arrives at the keyboard controller. -/
def key (scancode : UInt8) : List Input := [.interrupt (.keyboard [⟨some kbcObf, some scancode⟩])]

/-- The three bytes of a mouse packet, each with its interrupt. -/
def mousePacket (flags deltaX deltaY : UInt8) : List Input :=
  [flags, deltaX, deltaY].map fun b => .interrupt (.mouse [⟨some (kbcObf ||| kbcAux), some b⟩])

/-- Bytes arrive without error, and the interrupt that they raise is handled. -/
def received (bytes : List UInt8) : List Input :=
  [.arrive (bytes.map RxSlot.clean), .interrupt (.serial (some iirIntId))]

/-- What happens at one of two PCs, other than arrivals. -/
def happens (p : Side) (is : List Input) : List Event :=
  is.filterMap fun i =>
    match i with
    | .interrupt i => some (.interrupt p i)
    | .arrive _ => none

/-- Bytes are delivered. -/
def deliver (p : Side) (n : Nat) : List Event := List.replicate n (.deliver p)

/-- The interrupt that they raise is handled. -/
def serve (p : Side) : List Event := [.interrupt p (.serial (some iirIntId))]

/-! ## Two standard machines -/

def standard : Session := Session.init fun _ => Setup.standard

/-- The first PC presses Play, and its word arrives. -/
def playPressed : List Event := happens .one (key spaceBreakCode) ++ deliver .two 2

/-- The first PC starts a game and the second one follows. -/
def started : List Event := playPressed ++ serve .two

end AirHockey
