import AirHockey.CInt
import AirHockey.Model.Sprite

/-! # Sending

The transmitting half of `serialport.c`. Whatever the UART answers to `send_char` is a list of
`TxSlot`s, one for each look at the line status; when the list is used up the transmitter is idle
and every write succeeds. A byte written to the holding register counts as on the line: a later
`FCR_CLEAR_XMIT` does not take it back.

`history` and `gameMark` are history variables. No function of the program reads them; they record
which messages the bytes of `sent` belong to, and how many of them precede the current game.

What the messages are to the line is said twice. An idle transmitter sends each one whole
(`transmitBallSpeed_idle`, `transmitPuckChange_idle`). Any transmitter `Carries` them: the log has
the messages, and the line got their bytes in order, as far as it has accepted them; this composes
(`Carries.append`), so that a handler's messages are put together from those of its calls. -/

namespace AirHockey

def signal1 : Nat := 0x1000
def ballSignal : Nat := 0x2000

def lsrRecData : UInt8 := 0x01
def lsrOverrunErr : UInt8 := 0x02
def lsrParityErr : UInt8 := 0x04
def lsrFrameErr : UInt8 := 0x08
def lsrThrEmpty : UInt8 := 0x20
def lsrTransHoldEmpty : UInt8 := 0x40

/-- The error bits of the line status that both directions look at. -/
def lsrErrors : UInt8 := lsrOverrunErr ||| lsrParityErr ||| lsrFrameErr

/-! ## Messages -/

/-- What one PC tells the other: the start/leave word, a displacement of its puck, or a new
velocity of the ball. -/
inductive Message where
  | signal
  | puck (dx dy : Int)
  | ball (vx vy : Int)
  deriving DecidableEq, Repr

namespace Message

/-- The first word of a message, low byte first. -/
def head : Message → List UInt8
  | .signal => [uint8 signal1, uint8 (signal1 / 256)]
  | .puck dx _ => [uint8 dx, uint8 (dx / 256)]
  | .ball _ _ => [uint8 ballSignal, uint8 (ballSignal / 256)]

/-- What follows the first word. -/
def tail : Message → List UInt8
  | .signal => []
  | .puck _ dy => [uint8 dy, uint8 (dy / 256)]
  | .ball vx vy => [uint8 vx, uint8 vy]

def encode (m : Message) : List UInt8 := m.head ++ m.tail

end Message

/-- The bytes of a sequence of messages. -/
def encode (ms : List Message) : List UInt8 := ms.flatMap Message.encode

@[simp] theorem encode_nil : encode [] = [] := rfl

@[simp] theorem encode_cons (m : Message) (ms : List Message) :
    encode (m :: ms) = m.encode ++ encode ms := rfl

@[simp] theorem encode_append (ms ns : List Message) :
    encode (ms ++ ns) = encode ms ++ encode ns := List.flatMap_append

/-! ## The line -/

/-- One look of `send_char` at the line status (`none` when the port access fails), and whether
the write to the holding register that may follow succeeds. -/
structure TxSlot where
  status : Option UInt8
  written : Bool

structure Transmitter where
  slots : List TxSlot
  sent : List UInt8
  history : List Message
  gameMark : Nat

namespace Transmitter

def put (t : Transmitter) (data : UInt8) : Transmitter := { t with sent := t.sent ++ [data] }

def note (t : Transmitter) (m : Message) : Transmitter := { t with history := t.history ++ [m] }

/-- The retry loop of `send_char`, with the number of attempts left. -/
def sendAttempts (data : UInt8) : Nat → Transmitter → Int × Transmitter
  | 0, t => (1, t)
  | attempts + 1, t =>
    match t.slots with
    | [] => (0, t.put data)
    | slot :: slots =>
      let t := { t with slots := slots }
      match slot.status with
      | none => (1, t)
      | some status =>
        -- a line error ends the attempts, an empty transmitter takes the byte
        if status &&& lsrErrors ≠ 0 then (1, t)
        else if status &&& (lsrThrEmpty ||| lsrTransHoldEmpty) ≠ 0 then
          if slot.written then (0, t.put data) else (1, t)
        else sendAttempts data attempts t

def sendChar (data : UInt8) (t : Transmitter) : Int × Transmitter := sendAttempts data 10 t

/-- The loop of `send_signal`: the low byte goes first. -/
def sendSignalLoop : Nat → Nat → Transmitter → Transmitter
  | 0, _, t => t
  | n + 1, signal, t => sendSignalLoop n (signal / 256) (sendChar (uint8 signal) t).2

def sendSignal (signal : Nat) (t : Transmitter) : Transmitter := sendSignalLoop 2 signal t

def transmitBallSpeed (xSpeed ySpeed : Int) (t : Transmitter) : Transmitter :=
  let t := sendSignal ballSignal (t.note (.ball xSpeed ySpeed))
  let t := (sendChar (uint8 xSpeed) t).2
  (sendChar (uint8 ySpeed) t).2

/-- Returns the transmitter and the new `*previous_x` and `*previous_y`. The four return codes are
dropped, as in the source. -/
def transmitPuckChange (bluepuck : Sprite) (previousX previousY : Int) (t : Transmitter) :
    Transmitter × Int × Int :=
  if bluepuck.x = previousX ∧ bluepuck.y = previousY then (t, previousX, previousY)
  else
    -- `int16_t delta_x = bluepuck->x - *previous_x`
    let deltaX := int16 (bluepuck.x - previousX)
    let deltaY := int16 (bluepuck.y - previousY)
    let t := t.note (.puck deltaX deltaY)
    let t := (sendChar (uint8 deltaX) t).2
    let t := (sendChar (uint8 (deltaX / 256)) t).2
    let t := (sendChar (uint8 deltaY) t).2
    let t := (sendChar (uint8 (deltaY / 256)) t).2
    (t, bluepuck.x, bluepuck.y)

/-- The messages of the current game. -/
def thisGame (t : Transmitter) : List Message := t.history.drop t.gameMark

/-! ## An idle transmitter

With no scripted answers left every send succeeds, so that a message is written whole. -/

theorem sendSignal_idle {t : Transmitter} (h : t.slots = []) (signal : Nat) :
    sendSignal signal t =
      -- the record is taken apart, so that the empty list of answers is seen by `simp`
      { t with sent := t.sent ++ [uint8 signal, uint8 (signal / 256)] } := by
  obtain ⟨slots, sent, history, gameMark⟩ := t
  cases h
  simp [sendSignal, sendSignalLoop, sendChar, sendAttempts, put]

theorem transmitBallSpeed_idle {t : Transmitter} (h : t.slots = []) (xSpeed ySpeed : Int) :
    transmitBallSpeed xSpeed ySpeed t =
      { t with
        sent := t.sent ++ (Message.ball xSpeed ySpeed).encode
        history := t.history ++ [.ball xSpeed ySpeed] } := by
  have hnote : (t.note (.ball xSpeed ySpeed)).slots = [] := h
  rw [transmitBallSpeed, sendSignal_idle hnote]
  obtain ⟨slots, sent, history, gameMark⟩ := t
  cases h
  simp [sendChar, sendAttempts, put, note, Message.encode, Message.head, Message.tail]

theorem transmitPuckChange_idle {t : Transmitter} (h : t.slots = []) {bluepuck : Sprite}
    {previousX previousY : Int} (hmoved : ¬(bluepuck.x = previousX ∧ bluepuck.y = previousY)) :
    transmitPuckChange bluepuck previousX previousY t =
      let m := Message.puck (int16 (bluepuck.x - previousX)) (int16 (bluepuck.y - previousY))
      ({ t with sent := t.sent ++ m.encode, history := t.history ++ [m] },
        bluepuck.x, bluepuck.y) := by
  rw [transmitPuckChange, if_neg hmoved]
  obtain ⟨slots, sent, history, gameMark⟩ := t
  cases h
  simp [sendChar, sendAttempts, put, note, Message.encode, Message.head, Message.tail]

/-! ## What sending leaves alone, whatever the line answers -/

theorem sendAttempts_history (data : UInt8) (n : Nat) (t : Transmitter) :
    (sendAttempts data n t).2.history = t.history ∧
      (sendAttempts data n t).2.gameMark = t.gameMark := by
  induction n generalizing t with
  | zero => exact ⟨rfl, rfl⟩
  | succ n ih =>
      unfold sendAttempts
      split
      · exact ⟨rfl, rfl⟩
      · split
        · exact ⟨rfl, rfl⟩
        · split
          · exact ⟨rfl, rfl⟩
          · split
            · split <;> exact ⟨rfl, rfl⟩
            · exact ih _

@[simp] theorem sendChar_history (data : UInt8) (t : Transmitter) :
    (sendChar data t).2.history = t.history := (sendAttempts_history data 10 t).1

@[simp] theorem sendChar_gameMark (data : UInt8) (t : Transmitter) :
    (sendChar data t).2.gameMark = t.gameMark := (sendAttempts_history data 10 t).2

@[simp] theorem sendSignal_history (signal : Nat) (t : Transmitter) :
    (sendSignal signal t).history = t.history := by
  simp only [sendSignal, sendSignalLoop, sendChar_history]

@[simp] theorem sendSignal_gameMark (signal : Nat) (t : Transmitter) :
    (sendSignal signal t).gameMark = t.gameMark := by
  simp only [sendSignal, sendSignalLoop, sendChar_gameMark]

/-! ## What sending puts on the line, whatever the line answers -/

/-- Of `bytes`, those that the port has accepted are on the line, in their order. An idle port
accepts them all. -/
structure Writes (bytes : List UInt8) (t t' : Transmitter) : Prop where
  sent : ∃ bs, t'.sent = t.sent ++ bs ∧ bs.Sublist bytes ∧ (t.slots = [] → bs = bytes)
  idle : t.slots = [] → t'.slots = []

theorem Writes.refl (t : Transmitter) : Writes [] t t :=
  ⟨⟨[], (List.append_nil _).symm, .slnil, fun _ => rfl⟩, id⟩

theorem Writes.append {bytes bytes' : List UInt8} {t t' t'' : Transmitter}
    (h : Writes bytes t t') (h' : Writes bytes' t' t'') : Writes (bytes ++ bytes') t t'' := by
  obtain ⟨⟨bs, hsent, hsub, hall⟩, hidle⟩ := h
  obtain ⟨⟨bs', hsent', hsub', hall'⟩, hidle'⟩ := h'
  refine ⟨⟨bs ++ bs', ?_, hsub.append hsub', fun hslots => ?_⟩, fun hslots => hidle' (hidle hslots)⟩
  · rw [hsent', hsent, List.append_assoc]
  -- the bytes of the second part come after those of the first, accepted or not
  · rw [hall hslots, hall' (hidle hslots)]

theorem sendAttempts_sent (data : UInt8) (n : Nat) (t : Transmitter) :
    (sendAttempts data n t).2.sent = t.sent ∨
      (sendAttempts data n t).2.sent = t.sent ++ [data] := by
  induction n generalizing t with
  | zero => exact .inl rfl
  | succ n ih =>
      unfold sendAttempts
      split
      · exact .inr rfl
      · split
        · exact .inl rfl
        · split
          · exact .inl rfl
          · split
            · split
              · exact .inr rfl
              · exact .inl rfl
            · -- the transmitter is busy: the next look decides
              exact ih _

theorem sendChar_idle {t : Transmitter} (h : t.slots = []) (data : UInt8) :
    (sendChar data t).2 = t.put data := by
  rw [sendChar, sendAttempts, h]

theorem sendChar_writes (data : UInt8) (t : Transmitter) : Writes [data] t (sendChar data t).2 := by
  have hidle : t.slots = [] → (sendChar data t).2.slots = [] := by
    intro h
    rw [sendChar_idle h]
    exact h
  by_cases hslots : t.slots = []
  · refine ⟨⟨[data], ?_, .refl _, fun _ => rfl⟩, hidle⟩
    rw [sendChar_idle hslots]
    rfl
  -- the byte is on the line or it is not; only an idle port promises it
  · rcases sendAttempts_sent data 10 t with hsent | hsent
    · refine ⟨⟨[], ?_, List.nil_sublist _, fun h => absurd h hslots⟩, hidle⟩
      rw [List.append_nil]
      exact hsent
    · exact ⟨⟨[data], hsent, .refl _, fun _ => rfl⟩, hidle⟩

/-- The messages `ms` have been told, and the line got of their bytes what it accepts. -/
structure Carries (ms : List Message) (t t' : Transmitter) : Prop where
  history : t'.history = t.history ++ ms
  writes : Writes (encode ms) t t'

theorem Carries.refl (t : Transmitter) : Carries [] t t := ⟨(List.append_nil _).symm, .refl t⟩

theorem Carries.append {ms ns : List Message} {t t' t'' : Transmitter} (h : Carries ms t t')
    (h' : Carries ns t' t'') : Carries (ms ++ ns) t t'' :=
  ⟨by rw [h'.history, h.history, List.append_assoc],
    by rw [encode_append]; exact h.writes.append h'.writes⟩

theorem sendSignal_carries (t : Transmitter) :
    Carries [.signal] t ((t.note .signal).sendSignal signal1) := by
  refine ⟨sendSignal_history _ _, ?_⟩
  have hlow := sendChar_writes (uint8 signal1) (t.note .signal)
  -- the word is two bytes, the low one first
  exact ⟨(hlow.append (sendChar_writes _ _)).sent, (hlow.append (sendChar_writes _ _)).idle⟩

/-- What a displacement of the puck puts on the line, if there is one. -/
theorem transmitPuckChange_carries (bluepuck : Sprite) (previousX previousY : Int)
    (t : Transmitter) :
    Carries (if bluepuck.x = previousX ∧ bluepuck.y = previousY then []
        else [.puck (int16 (bluepuck.x - previousX)) (int16 (bluepuck.y - previousY))])
      t (transmitPuckChange bluepuck previousX previousY t).1 := by
  unfold transmitPuckChange
  split
  · exact .refl t
  · refine ⟨by simp only [sendChar_history]; rfl, ?_⟩
    -- the four bytes of the message, low byte first
    have hbytes := (((sendChar_writes (uint8 (int16 (bluepuck.x - previousX)))
      (t.note (.puck (int16 (bluepuck.x - previousX)) (int16 (bluepuck.y - previousY))))).append
      (sendChar_writes (uint8 (int16 (bluepuck.x - previousX) / 256)) _)).append
      (sendChar_writes (uint8 (int16 (bluepuck.y - previousY))) _)).append
      (sendChar_writes (uint8 (int16 (bluepuck.y - previousY) / 256)) _)
    exact ⟨hbytes.sent, hbytes.idle⟩

end Transmitter

end AirHockey
