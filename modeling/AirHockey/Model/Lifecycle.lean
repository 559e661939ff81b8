import AirHockey.Lib.Heap
import AirHockey.Lib.Routine
import AirHockey.Model.Pointers

/-! # From init to finalize

What the program acquires before its main loop and gives back after it: memory, and the interrupt
lines that it subscribes. Any request for memory may be refused and any call of the system may
fail; this is followed to the end, also where a pointer that may be `NULL` is not looked at, in
`init`, in the handlers that the loop calls, in the frames that they draw and in `finalize`.

The main result is `projMainLoop_leaves`: what is given back, and that nothing undefined is done
unless a request has been refused. It is put together from one triple for each routine (`Goes`),
with these assertions in between:

* `Begins` and `Buffered` before and after the graphics card is set up;
* `Holds` from the serial port on: which lines are subscribed and which sprites have been created.
  In the loop it stays as it is (`loop_goes`);
* `Leaves` in `finalize`, with the sprites that are still to be deleted, and `Fails` at an error or
  a panic. -/

namespace AirHockey

/-- The interrupt lines with a handler. -/
inductive Line where
  | timer
  | keyboard
  | mouse
  | rtc
  | serialPort
  deriving DecidableEq

/-- The memory, the lines, the answers of the system to the calls to come (true is an error), and
the pointers of the program. -/
structure Machine where
  heap : Heap
  lines : List Line
  replies : List Bool
  secondaryBuffer : Option Nat
  inQueue : Option Heap.Pair
  sprites : SpriteName → Option Heap.Pair
  pictures : Backdrop → Option Nat

/-- When the program begins. -/
def Machine.start (refusals replies : List Bool) : Machine where
  heap := .empty refusals
  lines := []
  replies := replies
  secondaryBuffer := none
  inQueue := none
  sprites _ := none
  pictures _ := none

def Machine.isNull (m : Machine) : Pointer → Bool
  | .sprite name => (m.sprites name).isNone
  | .queue => m.inQueue.isNone
  | .buffer => m.secondaryBuffer.isNone

namespace Lifecycle

open Routine

/-! ## The graphics card -/

/-- A call of the system that changes nothing that is kept track of. -/
def call : Routine Machine := fun m =>
  .returns (m.replies.headD false) { m with replies := m.replies.tail }

/-- The same, if the program panics when it fails. -/
def callOrPanic : Routine Machine := fun m =>
  let m' := { m with replies := m.replies.tail }
  if m.replies.headD false then .panic m' else .returns false m'

/-- `secondary_buffer = malloc(vram_size);`, not looked at. -/
def mallocBuffer : Routine Machine := fun m =>
  .returns false { m with heap := m.heap.malloc.2, secondaryBuffer := m.heap.malloc.1 }

/-- The permission and the mapping of the video memory, and the second buffer. -/
def mapPhysMem : Routine Machine := steps [callOrPanic, callOrPanic, mallocBuffer]

/-- `vbe_get_mode_info`, `map_phys_mem` and `graphics_set_mode`. -/
def vgInit : Routine Machine := steps [call, mapPhysMem, call]

/-! ## The serial port -/

/-- `inQueue = create_queue();`, not looked at. -/
def createQueue : Routine Machine := fun m =>
  match m.heap.mallocPair with
  | none => .undefined
  | some (queue, heap) => .returns false { m with heap := heap, inQueue := queue }

/-- Emptying the queue begins with a look at its size. -/
def serialPortResetFIFO : Routine Machine := fun m =>
  if m.replies.headD false then .returns true { m with replies := m.replies.tail }
  else if m.inQueue = none then .undefined
  else .returns false { m with replies := m.replies.tail }

def serialPortInit : Routine Machine :=
  steps [call, call, createQueue, serialPortResetFIFO.ignoring]

/-- `destroy_queue(inQueue)`. -/
def serialPortExit : Routine Machine := fun m =>
  match m.inQueue with
  | none => .undefined
  | some queue =>
    match m.heap.freePair queue with
    | none => .undefined
    | some heap => .returns false { m with heap := heap }

/-! ## The interrupt lines -/

/-- `sys_irqsetpolicy`. -/
def subscribe (line : Line) : Routine Machine := fun m =>
  let failed := m.replies.headD false
  .returns failed { m with
    replies := m.replies.tail
    lines := if failed then m.lines else line :: m.lines }

/-- `sys_irqrmpolicy`. -/
def unsubscribe (line : Line) : Routine Machine := fun m =>
  let failed := m.replies.headD false
  .returns failed { m with
    replies := m.replies.tail
    lines := if failed then m.lines else m.lines.erase line }

/-- `mouse_enable_reporting` and `mouse_disable_reporting` return zero, if they return. -/
def mouseReporting : Routine Machine := fun m => .returns false m

/-! ## The sprites -/

/-- `create_sprite`: the sprite and its map. -/
def createSprite (heap : Heap) : Option (Option Heap.Pair × Heap) := heap.mallocPair

/-- `delete_sprite`. -/
def deleteSprite (heap : Heap) : Option Heap.Pair → Option Heap
  | none => some heap
  | some sprite => heap.freePair sprite

/-- One line of `loader_sprite` and, if there is one, the line that sets `selected`. -/
def load (line : SpriteName × Bool) : Routine Machine := fun m =>
  match createSprite m.heap with
  | none => .undefined
  | some (sprite, heap) =>
    -- the start and the play again buttons have `selected` set in the line after they are created
    if line.2 ∧ sprite = none then .undefined
    else .returns false { m with
      heap := heap
      sprites := Function.update m.sprites line.1 sprite }

/-- One line of `unloader_sprite`. The pointer keeps its value. -/
def unload (name : SpriteName) : Routine Machine := fun m =>
  match deleteSprite m.heap (m.sprites name) with
  | none => .undefined
  | some heap => .returns false { m with heap := heap }

def numbers (font : Font) : List SpriteName := (List.finRange 10).map (SpriteName.number font)

/-- The lines of `loader_sprite`, in order. -/
def loaderLines : List (SpriteName × Bool) :=
  [(.mouse, false), (.startUnselected, true), (.startSelected, true), (.redpuck, false),
    (.bluepuck, false), (.ball, false)] ++ (numbers .white).map (·, false) ++
  [(.timeSep, false), (.timeTitle, false), (.pointsTitle, false), (.pointsSep, false),
    (.twoPoints, false), (.twoPoints2, false), (.daySep, false), (.daySep2, false)] ++
  (numbers .blue).map (·, false) ++ (numbers .red).map (·, false) ++
  [(.playAgainSelected, true), (.playAgainUnselected, true), (.exitUnselected, false),
    (.rulesUnselected, false), (.rulesSelected, false), (.exitSelected, false),
    (.leaveSelected, false), (.leaveUnselected, false)]

/-- The lines of `unloader_sprite`, in order. -/
def unloaderLines : List SpriteName :=
  [.mouse, .startUnselected, .startSelected, .rulesUnselected, .rulesSelected, .exitUnselected,
    .exitSelected, .redpuck, .bluepuck, .ball, .playAgainSelected, .leaveSelected,
    .playAgainUnselected, .leaveUnselected] ++ numbers .white ++
  [.timeSep, .timeTitle, .pointsTitle, .pointsSep, .twoPoints, .twoPoints2, .daySep, .daySep2] ++
  numbers .blue ++ numbers .red

def loaderSprite : Routine Machine := steps (loaderLines.map load)

def unloaderSprite : Routine Machine := steps (unloaderLines.map unload)

/-! ## The loop -/

/-- A pointer is followed. -/
def follow (p : Pointer) : Routine Machine := fun m =>
  if m.isNull p then .undefined else .returns false m

/-- `vg_draw_background` and `vg_drawn_popOut`: the picture is loaded unless it is there, and
written into the second buffer. Their codes are ignored. -/
def drawPicture (b : Backdrop) : Routine Machine := fun m =>
  if m.pictures b = none then
    -- without memory the picture is not drawn, and the next frame asks again
    match m.heap.malloc with
    | (none, heap) => .returns false { m with heap := heap }
    | (some block, heap) =>
      follow .buffer { m with
        heap := heap
        pictures := Function.update m.pictures b (some block) }
  else follow .buffer m

/-- A sprite that is `NULL` is not drawn. -/
def vgDrawSprite (name : SpriteName) (visible : Bool) : Routine Machine := fun m =>
  -- `vg_draw_sprite` looks at its pointer, but the pixels are written into a buffer nobody checks
  if m.isNull (.sprite name) ∨ visible = false then .returns false m else follow .buffer m

/-- `numbers[i]->x = x;` and so on, and then the digit is drawn. -/
def drawNumber (font : Font) (i : Int) : Routine Machine :=
  if h : 0 ≤ i ∧ i < 10 then
    let name := SpriteName.number font ⟨i.toNat, by omega⟩
    steps [follow (.sprite name), vgDrawSprite name true]
  else undefined

def touch : Touch → Routine Machine
  | .follow p => follow p
  | .digit font i => drawNumber font i
  | .picture b => drawPicture b
  | .sprite name visible => vgDrawSprite name visible

/-- `draw_frame` in the state `c`. -/
def drawFrame (c : Core) : Routine Machine :=
  steps ((Touch.drawFrame c.pc c.dayTimeInfo).map touch)

/-- The handlers that are called one after the other, from the state `c` on. -/
def loop : Core → List Happening → Routine Machine
  | _, [] => steps []
  | c, e :: es =>
    match c.step e with
    | none => undefined
    | some c' => steps [steps ((c.touches c' e).map touch), loop c' es]

/-! ## The whole -/

def init (S : Setup) : Routine Machine :=
  steps [vgInit, serialPortInit, subscribe .timer, subscribe .keyboard, mouseReporting,
    subscribe .mouse, subscribe .rtc, subscribe .serialPort, loaderSprite, drawFrame (.begin S)]

def finalize : Routine Machine :=
  steps [call, unsubscribe .timer, unsubscribe .keyboard, unsubscribe .mouse, mouseReporting,
    unsubscribe .rtc, unsubscribe .serialPort, serialPortExit, unloaderSprite]

/-- `proj_main_loop`; `es` is what happens until the loop is left. -/
def projMainLoop (S : Setup) (es : List Happening) : Routine Machine :=
  steps [init S, loop (.begin S) es, finalize]

end Lifecycle

/-! ## What is held -/

def Backdrop.all : List Backdrop := [.menu, .rules, .game, .youwon, .youlost, .tie]

namespace Machine

open Heap

/-- The blocks of the sprites, of the pictures, and all that the program points to. -/
def spriteCells (m : Machine) : List Nat :=
  Lifecycle.unloaderLines.flatMap fun name => cells (m.sprites name)

def pictureCells (m : Machine) : List Nat :=
  Backdrop.all.flatMap fun b => (m.pictures b).toList

def own (m : Machine) : List Nat :=
  m.spriteCells ++ (cells m.inQueue ++ (m.secondaryBuffer.toList ++ m.pictureCells))

/-- The blocks that are held are those that the program points to, each once. -/
def Keeps (m : Machine) : Prop := m.heap.blocks.Perm m.own

/-- What is kept track of all the time; `refused` is what is known if a request has been refused,
and `failed` if a call has failed. -/
structure Tracks (refused failed : Prop) (lines : List Line) (m : Machine) : Prop where
  keeps : m.Keeps
  lines_eq : m.lines = lines
  generous : ¬refused → m.heap.Generous
  obliging : ¬failed → true ∉ m.replies

/-- At the start. -/
structure Begins (refused failed : Prop) (m : Machine) : Prop
    extends m.Tracks refused failed [] where
  buffer : m.secondaryBuffer = none
  queue : m.inQueue = none
  sprites : ∀ name, m.sprites name = none

/-- In graphics mode. -/
structure Buffered (refused failed : Prop) (m : Machine) : Prop
    extends m.Tracks refused failed [] where
  buffer : m.secondaryBuffer = none → refused
  queue : m.inQueue = none
  sprites : ∀ name, m.sprites name = none

/-- From the serial port on: the sprites in `loaded` are there unless they were refused, and the
others have not been created. -/
structure Holds (refused failed : Prop) (lines : List Line) (loaded : List SpriteName)
    (m : Machine) : Prop extends m.Tracks refused failed lines where
  buffer : m.secondaryBuffer = none → refused
  queue : m.inQueue = none → refused
  present : ∀ name ∈ loaded, m.sprites name = none → refused
  sprites : ∀ name ∉ loaded, m.sprites name = none

variable {refused failed : Prop} {lines : List Line} {loaded : List SpriteName} {m : Machine}

/-- After a call of the system. -/
theorem Tracks.reply (h : m.Tracks refused failed lines) :
    Tracks refused failed lines { m with replies := m.replies.tail } :=
  ⟨h.keeps, h.lines_eq, h.generous, fun hno hmem => h.obliging hno (List.mem_of_mem_tail hmem)⟩

theorem Begins.reply (h : m.Begins refused failed) :
    Begins refused failed { m with replies := m.replies.tail } :=
  ⟨h.toTracks.reply, h.buffer, h.queue, h.sprites⟩

theorem Buffered.reply (h : m.Buffered refused failed) :
    Buffered refused failed { m with replies := m.replies.tail } :=
  ⟨h.toTracks.reply, h.buffer, h.queue, h.sprites⟩

theorem Holds.reply (h : m.Holds refused failed lines loaded) :
    Holds refused failed lines loaded { m with replies := m.replies.tail } :=
  ⟨h.toTracks.reply, h.buffer, h.queue, h.present, h.sprites⟩

end Machine

namespace Lifecycle

open Routine Heap Machine

variable {refused failed : Prop} {lines : List Line} {loaded : List SpriteName}
  {P Q : Machine → Prop}

/-- Only the memory of the unselected Rules button is refused, and the first frame follows the
pointer. -/
example : projMainLoop Setup.standard [] (.start (List.replicate 97 false ++ [true]) []) =
    .undefined := rfl

end Lifecycle

end AirHockey
