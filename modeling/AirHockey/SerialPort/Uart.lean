import AirHockey.Lib.Ports
import AirHockey.SerialPort.Receiver

/-! # The serial port, access by access

`Transmitter` and `Receiver` take what the UART answers from lists. Here the functions of
`serialport.c` make the accesses themselves, and any of them may be answered in any way or fail.
Whatever a sequence of calls does then, the other two do as well when their lists hold the answers
that have been given.

The lists are computed from the accesses (`txSlots`, `rxSlots`, `identified`, `cleared`), so
nothing in them is left open. Each function has a lemma about its runs, by the rules of the
library for programs that access ports: those that send are `Sends`, which composes, those that
read give the receiver that the other model gives. `accesses_call` collects them, one case for
each call, `accesses_refine` is the induction on the calls, and `session_refine` starts at the
initialisation. -/

namespace AirHockey

namespace Uart

open Ports

abbrev PortProg (α : Type) := Prog UInt16 UInt8 α

abbrev PortAccess := Access UInt16 UInt8

def baseAddrCom1 : UInt16 := 0x3F8

def rbr : UInt16 := baseAddrCom1
def thr : UInt16 := baseAddrCom1
def ier : UInt16 := baseAddrCom1 + 1
def iir : UInt16 := baseAddrCom1 + 2
def fcr : UInt16 := baseAddrCom1 + 2
def lsr : UInt16 := baseAddrCom1 + 5

def ierRecData : UInt8 := 0x01
def fcrEnable : UInt8 := 0x01
def fcrClearReceive : UInt8 := 0x02
def fcrClearXmit : UInt8 := 0x04

/-! ## Sending -/

/-- The retry loop of `send_char`, with the number of attempts left. -/
def sendAttempts (data : UInt8) : Nat → PortProg Int
  | 0 => .done 1
  | attempts + 1 => .inb lsr fun
    | none => .done 1
    | some status =>
      if status &&& lsrErrors ≠ 0 then .done 1
      else if status &&& (lsrThrEmpty ||| lsrTransHoldEmpty) ≠ 0 then
        .outb thr data fun ok => .done (if ok then 0 else 1)
      else sendAttempts data attempts

def sendChar (data : UInt8) : PortProg Int := sendAttempts data 10

/-- The loop of `send_signal`: the low byte goes first. -/
def sendSignalLoop : Nat → Nat → PortProg Unit
  | 0, _ => .done ()
  | n + 1, signal => (sendChar (uint8 signal)).bind fun _ => sendSignalLoop n (signal / 256)

def sendSignal (signal : Nat) : PortProg Unit := sendSignalLoop 2 signal

def transmitBallSpeed (xSpeed ySpeed : Int) : PortProg Unit :=
  (sendSignal ballSignal).bind fun _ =>
  (sendChar (uint8 xSpeed)).bind fun _ =>
  (sendChar (uint8 ySpeed)).bind fun _ => .done ()

/-- Returns the new `*previous_x` and `*previous_y`. -/
def transmitPuckChange (bluepuck : Sprite) (previousX previousY : Int) : PortProg (Int × Int) :=
  if bluepuck.x = previousX ∧ bluepuck.y = previousY then .done (previousX, previousY)
  else
    let deltaX := int16 (bluepuck.x - previousX)
    let deltaY := int16 (bluepuck.y - previousY)
    (sendChar (uint8 deltaX)).bind fun _ =>
    (sendChar (uint8 (deltaX / 256))).bind fun _ =>
    (sendChar (uint8 deltaY)).bind fun _ =>
    (sendChar (uint8 (deltaY / 256))).bind fun _ => .done (bluepuck.x, bluepuck.y)

/-! ## Receiving -/

/-- Returns the code and the queue afterwards. -/
def readChar (inQueue : Queue) : PortProg (Int × Queue) :=
  .inb lsr fun
    | none => .done (1, inQueue)
    | some status =>
      if status &&& lsrRecData ≠ 0 then
        .inb rbr fun
          | none => .done (1, inQueue)
          | some data =>
            if status &&& lsrErrors ≠ 0 then .done (1, inQueue)
            else .done (0, inQueue.enqueue data)
      else .done (1, inQueue)

/-- `while (!read_char());`, for at most `n` rounds; `none` if it has not come to an end. -/
def readLoop : Nat → Queue → PortProg (Option Queue)
  | 0, _ => .done none
  | n + 1, inQueue => (readChar inQueue).bind fun r =>
    if r.1 = 0 then readLoop n r.2 else .done (some r.2)

def spIh (n : Nat) (inQueue : Queue) : PortProg (Option Queue) :=
  .inb iir fun
    | none => .done (some inQueue)
    | some id =>
      -- bit 0 of the identification is clear while an interrupt is pending
      if id &&& iirIntPend = 0 then
        if id &&& iirIntId ≠ 0 then readLoop n inQueue else .done (some inQueue)
      else .done (some inQueue)

/-- Returns the code and the queue afterwards. -/
def serialPortResetFIFO (inQueue : Queue) : PortProg (Int × Queue) :=
  .outb fcr (fcrEnable ||| fcrClearReceive ||| fcrClearXmit) fun ok =>
    .done (if ok then (0, inQueue.drain inQueue.size) else (1, inQueue))

/-- Returns the code and the queue, if it has been created; `cells` is what the memory of the queue
happens to hold. -/
def serialPortInit (cells : List UInt8) (h : cells.length = 100) : PortProg (Int × Option Queue) :=
  .inb ier fun
    | none => .done (1, none)
    | some old => .outb ier (old ||| ierRecData) fun ok =>
      if !ok then .done (1, none)
      else (serialPortResetFIFO (Queue.createQueue cells h)).bind fun r => .done (0, some r.2)

/-! ## What the accesses say

The lists of the other model are read off the accesses: nothing in them is left open. -/

/-- Whether the next access is a write to the holding register, and succeeds. -/
def wroteFirst : List PortAccess → Bool
  | .outb port _ ok :: _ => port == thr && ok
  | .inb _ _ :: _ | [] => false

/-- The byte that the next access reads from the receiver. -/
def readFirst : List PortAccess → Option UInt8
  | .inb port answer :: _ => if port = rbr then answer else none
  | .outb _ _ _ :: _ | [] => none

/-- The looks at the line status, each with what becomes of the write that follows. -/
def txSlots : List PortAccess → List TxSlot
  | .inb port answer :: t =>
    if port = lsr then ⟨answer, wroteFirst t⟩ :: txSlots t else txSlots t
  | .outb _ _ _ :: t => txSlots t
  | [] => []

/-- The looks at the line status, each with the byte that is read after it. -/
def rxSlots : List PortAccess → List RxSlot
  | .inb port answer :: t =>
    if port = lsr then ⟨answer, readFirst t⟩ :: rxSlots t else rxSlots t
  | .outb _ _ _ :: t => rxSlots t
  | [] => []

/-- The interrupt identification that is read first. -/
def identified : List PortAccess → Option UInt8
  | .inb port answer :: _ => if port = iir then answer else none
  | .outb _ _ _ :: _ | [] => none

/-- Whether the FIFOs are cleared first. -/
def cleared : List PortAccess → Bool
  | .outb port _ ok :: _ => port == fcr && ok
  | .inb _ _ :: _ | [] => false

/-- The bytes that are written to the line. -/
def written (t : List PortAccess) : List UInt8 :=
  t.filterMap fun
    | .outb port value true => if port = thr then some value else none
    | .outb _ _ false => none
    | .inb _ _ => none

theorem written_append (t u : List PortAccess) : written (t ++ u) = written t ++ written u :=
  List.filterMap_append

/-- What is sent afterwards does not change what the looks before it say. -/
theorem txSlots_append {u : List PortAccess} (hu : wroteFirst u = false) (t : List PortAccess) :
    txSlots (t ++ u) = txSlots t ++ txSlots u := by
  have hfirst : ∀ t, wroteFirst (t ++ u) = wroteFirst t := by
    intro t
    cases t with
    | nil => exact hu
    | cons access t => cases access <;> rfl
  induction t with
  | nil => rfl
  | cons access t ih =>
      cases access with
      | inb port answer =>
          rw [List.cons_append, txSlots, txSlots, hfirst, ih]
          split <;> rfl
      | outb port value ok => exact ih

theorem rxSlots_append {u : List PortAccess} (hu : readFirst u = none) (t : List PortAccess) :
    rxSlots (t ++ u) = rxSlots t ++ rxSlots u := by
  have hfirst : ∀ t, readFirst (t ++ u) = readFirst t := by
    intro t
    -- an access in front of the second part decides what comes first, or there is none
    cases t with
    | nil => exact hu
    | cons access t => cases access <;> rfl
  induction t with
  | nil => rfl
  | cons access t ih =>
      cases access with
      | inb port answer =>
          rw [List.cons_append, rxSlots, rxSlots, hfirst, ih]
          split <;> rfl
      | outb port value ok => exact ih

/-- Nothing is written to the line but right after a look at its status that has found no error and
room for a byte, and no register is accessed that holds the settings of the line. -/
inductive Careful : List PortAccess → Prop where
  | nil : Careful []
  | read {port : UInt16} (hport : port = lsr ∨ port = rbr ∨ port = iir ∨ port = ier)
      (answer : Option UInt8) {t : List PortAccess} (h : Careful t) :
      Careful (.inb port answer :: t)
  | control {port : UInt16} (hport : port = fcr ∨ port = ier) (value : UInt8) (ok : Bool)
      {t : List PortAccess} (h : Careful t) : Careful (.outb port value ok :: t)
  | send {status : UInt8} (herrors : status &&& lsrErrors = 0)
      (hempty : status &&& (lsrThrEmpty ||| lsrTransHoldEmpty) ≠ 0) (data : UInt8) (ok : Bool)
      {t : List PortAccess} (h : Careful t) :
      Careful (.inb lsr (some status) :: .outb thr data ok :: t)

theorem Careful.append {t u : List PortAccess} (ht : Careful t) (hu : Careful u) :
    Careful (t ++ u) := by
  induction ht with
  | nil => exact hu
  | read hport answer _ ih => exact .read hport answer ih
  | control hport value ok _ ih => exact .control hport value ok ih
  | send herrors hempty data ok _ ih => exact .send herrors hempty data ok ih

/-! ## Sending makes of a transmitter what the answers make of it -/

/-- The accesses do what `f` does when the looks at the line status stand first in the list of the
transmitter: these are used up, and the bytes that are written are on the line. -/
def Sends (t : List PortAccess) (f : Transmitter → Transmitter) : Prop :=
  Careful t ∧ wroteFirst t = false ∧
    ∀ (T : Transmitter) (rest : List TxSlot), T.slots = txSlots t ++ rest →
      (f T).slots = rest ∧ (f T).sent = T.sent ++ written t

theorem Sends.comp {t u : List PortAccess} {f g : Transmitter → Transmitter} (hf : Sends t f)
    (hg : Sends u g) : Sends (t ++ u) fun T => g (f T) := by
  obtain ⟨hcareful, hfirst, hf⟩ := hf
  obtain ⟨hcareful', hfirst', hg⟩ := hg
  refine ⟨hcareful.append hcareful', ?_, fun T rest hT => ?_⟩
  -- the first access is the same, whether there is a second part or not
  · cases t with
    | nil => exact hfirst'
    | cons access t => cases access <;> exact hfirst
  -- the second function finds the answers that the first has not used
  · rw [txSlots_append hfirst', List.append_assoc] at hT
    obtain ⟨hrest, hsent⟩ := hf T _ hT
    obtain ⟨hrest', hsent'⟩ := hg (f T) rest hrest
    exact ⟨hrest', by rw [hsent', hsent, written_append, List.append_assoc]⟩

/-- What only concerns the messages makes no access. -/
theorem Sends.of_kept {f : Transmitter → Transmitter}
    (h : ∀ T, (f T).slots = T.slots ∧ (f T).sent = T.sent) : Sends [] f :=
  ⟨.nil, rfl, fun T _ hT =>
    ⟨(h T).1.trans hT, by rw [(h T).2, written, List.filterMap_nil, List.append_nil]⟩⟩

/-- **The retry loop**: every look at the line status takes one answer. -/
theorem sendAttempts_run {data : UInt8} {n : Nat} {t : List PortAccess} {code : Int}
    (h : (sendAttempts data n).Run t code) :
    Careful t ∧ wroteFirst t = false ∧
      ∀ (T : Transmitter) (rest : List TxSlot), T.slots = txSlots t ++ rest →
        T.sendAttempts data n =
          (code, { T with slots := rest, sent := T.sent ++ written t }) := by
  induction n generalizing t with
  | zero =>
      obtain ⟨rfl, rfl⟩ := Prog.run_done.mp h
      refine ⟨.nil, rfl, fun T rest hT => ?_⟩
      rw [← show T.slots = rest from hT, written, List.filterMap_nil, List.append_nil]
      rfl
  | succ n ih =>
      rw [sendAttempts, Prog.run_inb] at h
      obtain ⟨answer, t, rfl, h⟩ := h
      -- one look, and what follows it
      have hlook : ∀ u, txSlots (.inb lsr answer :: u) = ⟨answer, wroteFirst u⟩ :: txSlots u :=
        fun u => if_pos rfl
      cases answer with
      | none =>
          obtain ⟨rfl, rfl⟩ := Prog.run_done.mp h
          refine ⟨.read (.inl rfl) none .nil, rfl, fun T rest hT => ?_⟩
          rw [hlook] at hT
          simp [Transmitter.sendAttempts, hT, txSlots, written]
      | some status =>
          dsimp only at h
          -- the status cannot be read, shows an error, or says whether there is room
          by_cases herrors : status &&& lsrErrors = 0
          · rw [if_neg (not_not.mpr herrors)] at h
            by_cases hempty : status &&& (lsrThrEmpty ||| lsrTransHoldEmpty) = 0
            · -- the transmitter is busy: another round
              rw [if_neg (not_not.mpr hempty)] at h
              obtain ⟨hcareful, hfirst, hrest⟩ := ih h
              refine ⟨.read (.inl rfl) _ hcareful, rfl, fun T rest hT => ?_⟩
              rw [hlook, hfirst] at hT
              rw [Transmitter.sendAttempts, hT]
              dsimp only [List.cons_append]
              rw [if_neg (not_not.mpr herrors), if_neg (not_not.mpr hempty)]
              exact hrest { T with slots := txSlots t ++ rest } rest rfl
            · -- room for the byte
              rw [if_pos hempty, Prog.run_outb] at h
              obtain ⟨ok, t, rfl, h⟩ := h
              obtain ⟨rfl, rfl⟩ := Prog.run_done.mp h
              refine ⟨.send herrors hempty data ok .nil, rfl, fun T rest hT => ?_⟩
              rw [hlook, show wroteFirst [.outb thr data ok] = ok from rfl] at hT
              cases ok <;>
                simp [Transmitter.sendAttempts, hT, herrors, hempty, txSlots, written,
                  Transmitter.put]
          · rw [if_pos herrors] at h
            obtain ⟨rfl, rfl⟩ := Prog.run_done.mp h
            refine ⟨.read (.inl rfl) _ .nil, rfl, fun T rest hT => ?_⟩
            rw [hlook] at hT
            simp [Transmitter.sendAttempts, hT, herrors, txSlots, written]

theorem sendChar_run {data : UInt8} {t : List PortAccess} {code : Int}
    (h : (sendChar data).Run t code) : Sends t fun T => (T.sendChar data).2 := by
  obtain ⟨hcareful, hfirst, hsend⟩ := sendAttempts_run h
  refine ⟨hcareful, hfirst, fun T rest hT => ?_⟩
  have hchar : T.sendChar data =
      (code, { T with slots := rest, sent := T.sent ++ written t }) := hsend T rest hT
  dsimp only
  rw [hchar]
  exact ⟨rfl, rfl⟩

theorem sendSignal_run {signal : Nat} {t : List PortAccess} {u : Unit}
    (h : (sendSignal signal).Run t u) : Sends t (Transmitter.sendSignal signal) := by
  have hloop : ∀ {n signal t}, (sendSignalLoop n signal).Run t u →
      Sends t (Transmitter.sendSignalLoop n signal) := by
    intro n
    induction n with
    | zero =>
        intro signal t h
        obtain ⟨rfl, -⟩ := Prog.run_done.mp h
        exact .of_kept fun T => ⟨rfl, rfl⟩
    | succ n ih =>
        intro signal t h
        -- one byte more, and the rest of the word shifted down
        obtain ⟨t₁, t₂, code, rfl, h₁, h₂⟩ := Prog.run_bind.mp h
        exact (sendChar_run h₁).comp (ih h₂)
  exact hloop h

theorem transmitBallSpeed_run {xSpeed ySpeed : Int} {t : List PortAccess} {u : Unit}
    (h : (transmitBallSpeed xSpeed ySpeed).Run t u) :
    Sends t (Transmitter.transmitBallSpeed xSpeed ySpeed) := by
  obtain ⟨t₁, t, v, rfl, h₁, h⟩ := Prog.run_bind.mp h
  obtain ⟨t₂, t, code, rfl, h₂, h⟩ := Prog.run_bind.mp h
  obtain ⟨code', -, h₃⟩ := Prog.run_bind_done.mp h
  -- noting the message makes no access
  have hnote : Sends [] fun T => T.note (.ball xSpeed ySpeed) := .of_kept fun T => ⟨rfl, rfl⟩
  exact hnote.comp ((sendSignal_run h₁).comp ((sendChar_run h₂).comp (sendChar_run h₃)))

/-- The previous position is the puck's afterwards, whatever was answered. -/
theorem transmitPuckChange_run {bluepuck : Sprite} {previousX previousY : Int}
    {t : List PortAccess} {previous : Int × Int}
    (h : (transmitPuckChange bluepuck previousX previousY).Run t previous) :
    Sends t (fun T => (T.transmitPuckChange bluepuck previousX previousY).1) ∧
      ∀ T, (Transmitter.transmitPuckChange bluepuck previousX previousY T).2 = previous := by
  unfold transmitPuckChange at h
  unfold Transmitter.transmitPuckChange
  -- a puck that has not moved is not told
  split at h
  · next hsame =>
    obtain ⟨rfl, rfl⟩ := Prog.run_done.mp h
    simp only [if_pos hsame]
    exact ⟨.of_kept fun T => ⟨rfl, rfl⟩, fun _ => trivial⟩
  · next hmoved =>
    obtain ⟨t₁, t, code₁, rfl, h₁, h⟩ := Prog.run_bind.mp h
    obtain ⟨t₂, t, code₂, rfl, h₂, h⟩ := Prog.run_bind.mp h
    obtain ⟨t₃, t, code₃, rfl, h₃, h⟩ := Prog.run_bind.mp h
    obtain ⟨t₄, t, code₄, rfl, h₄, h⟩ := Prog.run_bind.mp h
    obtain ⟨rfl, rfl⟩ := Prog.run_done.mp h
    simp only [if_neg hmoved, List.append_nil]
    have hnote : Sends [] fun T => T.note (.puck (int16 (bluepuck.x - previousX))
        (int16 (bluepuck.y - previousY))) := .of_kept fun T => ⟨rfl, rfl⟩
    refine ⟨?_, fun _ => trivial⟩
    exact hnote.comp ((sendChar_run h₁).comp ((sendChar_run h₂).comp
      ((sendChar_run h₃).comp (sendChar_run h₄))))

/-! ## Reading makes of a receiver what the answers make of it -/

theorem readChar_run {inQueue inQueue' : Queue} {t : List PortAccess} {code : Int}
    (h : (readChar inQueue).Run t (code, inQueue')) :
    Careful t ∧ written t = [] ∧ readFirst t = none ∧ ∃ slot : RxSlot, rxSlots t = [slot] ∧
      ∀ (r : Receiver) (rest : List RxSlot), r.fifo = slot :: rest → r.inQueue = inQueue →
        r.readChar = (code, { r with fifo := rest, inQueue := inQueue' }) := by
  rw [readChar, Prog.run_inb] at h
  obtain ⟨answer, t, rfl, h⟩ := h
  -- the slot is what this one look has found, and the byte if one was read
  cases answer with
  | none =>
      obtain ⟨rfl, hresult⟩ := Prog.run_done.mp h
      cases hresult
      refine ⟨.read (.inl rfl) none .nil, rfl, rfl, ⟨none, none⟩, rfl, fun r rest hfifo hq => ?_⟩
      simp [Receiver.readChar, hfifo, ← hq]
  | some status =>
      dsimp only at h
      -- no data: the look is all there is
      by_cases hdata : status &&& lsrRecData = 0
      · rw [if_neg (not_not.mpr hdata)] at h
        obtain ⟨rfl, hresult⟩ := Prog.run_done.mp h
        cases hresult
        refine ⟨.read (.inl rfl) _ .nil, rfl, rfl, ⟨some status, none⟩, rfl,
          fun r rest hfifo hq => ?_⟩
        simp [Receiver.readChar, hfifo, hdata, ← hq]
      · rw [if_pos hdata, Prog.run_inb] at h
        obtain ⟨answer, t, rfl, h⟩ := h
        have hcareful : Careful t → Careful (.inb lsr (some status) :: .inb rbr answer :: t) :=
          fun h => .read (.inl rfl) _ (.read (.inr (.inl rfl)) _ h)
        cases answer with
        | none =>
            obtain ⟨rfl, hresult⟩ := Prog.run_done.mp h
            cases hresult
            refine ⟨hcareful .nil, rfl, rfl, ⟨some status, none⟩, rfl, fun r rest hfifo hq => ?_⟩
            simp [Receiver.readChar, hfifo, hdata, ← hq]
        | some data =>
            dsimp only at h
            -- the error bits are looked at after the byte has been read
            by_cases herrors : status &&& lsrErrors = 0
            · rw [if_neg (not_not.mpr herrors)] at h
              obtain ⟨rfl, hresult⟩ := Prog.run_done.mp h
              cases hresult
              refine ⟨hcareful .nil, rfl, rfl, ⟨some status, some data⟩, rfl,
                fun r rest hfifo hq => ?_⟩
              simp [Receiver.readChar, hfifo, hdata, herrors, ← hq]
            · rw [if_pos herrors] at h
              obtain ⟨rfl, hresult⟩ := Prog.run_done.mp h
              cases hresult
              refine ⟨hcareful .nil, rfl, rfl, ⟨some status, some data⟩, rfl,
                fun r rest hfifo hq => ?_⟩
              simp [Receiver.readChar, hfifo, hdata, herrors, ← hq]

/-- **The loop of `sp_ih`**: it uses up one answer a round. -/
theorem readLoop_run {n : Nat} {inQueue inQueue' : Queue} {t : List PortAccess}
    (h : (readLoop n inQueue).Run t (some inQueue')) :
    Careful t ∧ written t = [] ∧ readFirst t = none ∧
      ∀ (r : Receiver) (m : Nat), (rxSlots t).length ≤ m → r.fifo = rxSlots t →
        r.inQueue = inQueue → r.readLoop m = { r with fifo := [], inQueue := inQueue' } := by
  induction n generalizing inQueue t with
  | zero =>
      obtain ⟨-, hresult⟩ := Prog.run_done.mp h
      cases hresult
  | succ n ih =>
      obtain ⟨t₁, t₂, ⟨code, queue⟩, rfl, h₁, h₂⟩ := Prog.run_bind.mp h
      obtain ⟨hcareful, hnothing, hfirst, slot, hslot, hread⟩ := readChar_run h₁
      -- a round begins with a look at the line status, never with a read of the data
      have hopens : ∀ u, readFirst u = none → readFirst (t₁ ++ u) = none := by
        intro u hu
        cases t₁ with
        | nil => exact hu
        | cons access t => cases access <;> exact hfirst
      dsimp only at h₂
      by_cases hcode : code = 0
      · -- a byte has been read: another round
        rw [if_pos hcode] at h₂
        obtain ⟨hcareful', hnothing', hfirst', hloop⟩ := ih h₂
        have hslots : rxSlots (t₁ ++ t₂) = slot :: rxSlots t₂ := by
          rw [rxSlots_append hfirst', hslot]
          rfl
        refine ⟨hcareful.append hcareful', by rw [written_append, hnothing, hnothing']; rfl,
          hopens _ hfirst', fun r m hm hfifo hq => ?_⟩
        rw [hslots] at hm hfifo
        cases m with
        | zero => cases hm
        | succ m =>
            rw [Receiver.readLoop, hread r _ hfifo hq, if_pos hcode]
            exact hloop _ m (Nat.le_of_succ_le_succ hm) rfl rfl
      -- the round has found nothing, and the loop is left
      · rw [if_neg hcode] at h₂
        obtain ⟨rfl, hresult⟩ := Prog.run_done.mp h₂
        cases hresult
        rw [List.append_nil]
        refine ⟨hcareful, hnothing, hfirst, fun r m hm hfifo hq => ?_⟩
        rw [hslot] at hm hfifo
        cases m with
        | zero => cases hm
        | succ m => rw [Receiver.readLoop, hread r [] hfifo hq, if_neg hcode]

theorem spIh_eq (n : Nat) (inQueue : Queue) :
    spIh n inQueue = .inb iir fun id =>
      if Receiver.dataAnnounced id then readLoop n inQueue else .done (some inQueue) := by
  unfold spIh
  congr 1
  funext id
  cases id with
  | none => rfl
  | some id =>
      by_cases hpending : id &&& iirIntPend = 0 <;> by_cases hdata : id &&& iirIntId = 0 <;>
        simp [Receiver.dataAnnounced, hpending, hdata]

theorem spIh_run {n : Nat} {inQueue inQueue' : Queue} {t : List PortAccess}
    (h : (spIh n inQueue).Run t (some inQueue')) :
    Careful t ∧ written t = [] ∧ ∀ r : Receiver, r.fifo = rxSlots t → r.inQueue = inQueue →
      r.spIh (identified t) = { r with fifo := [], inQueue := inQueue' } := by
  rw [spIh_eq, Prog.run_inb] at h
  obtain ⟨id, t, rfl, h⟩ := h
  have hslots : rxSlots (.inb iir id :: t) = rxSlots t := if_neg (by decide)
  have hfirst : identified (.inb iir id :: t) = id := by
    rw [identified, if_pos rfl]
  rw [hfirst, hslots]
  -- what is announced decides whether the FIFO is looked at
  cases hid : Receiver.dataAnnounced id with
  | false =>
      rw [hid, if_neg Bool.false_ne_true] at h
      obtain ⟨rfl, hresult⟩ := Prog.run_done.mp h
      cases hresult
      refine ⟨.read (.inr (.inr (.inl rfl))) id .nil, rfl, fun r hfifo hq => ?_⟩
      rw [Receiver.spIh, hid, if_neg Bool.false_ne_true, ← hq,
        ← show r.fifo = [] from hfifo]
  | true =>
      rw [hid, if_pos rfl] at h
      obtain ⟨hcareful, hnothing, -, hloop⟩ := readLoop_run h
      refine ⟨.read (.inr (.inr (.inl rfl))) id hcareful, hnothing, fun r hfifo hq => ?_⟩
      rw [Receiver.spIh, hid, if_pos rfl]
      exact hloop r _ (by rw [hfifo]; exact Nat.le_succ _) hfifo hq

theorem serialPortResetFIFO_run {inQueue inQueue' : Queue} {t : List PortAccess} {code : Int}
    (h : (serialPortResetFIFO inQueue).Run t (code, inQueue')) :
    Careful t ∧ written t = [] ∧ ∀ r : Receiver, r.fifo = [] → r.fcr = [cleared t] →
      r.inQueue = inQueue →
        r.serialPortResetFIFO = { r with fcr := [], inQueue := inQueue' } := by
  rw [serialPortResetFIFO, Prog.run_outb] at h
  obtain ⟨ok, t, rfl, h⟩ := h
  obtain ⟨rfl, hresult⟩ := Prog.run_done.mp h
  refine ⟨.control (.inl rfl) _ ok .nil, ?_, fun r hfifo hfcr hq => ?_⟩
  · cases ok <;> rfl
  -- only a write that works clears the two FIFOs and the queue
  · cases ok with
    | true =>
        cases hresult
        rw [Receiver.serialPortResetFIFO, hfcr, ← hq, ← hfifo]
        rfl
    | false =>
        cases hresult
        rw [Receiver.serialPortResetFIFO, hfcr, ← hq]
        rfl

/-! ## Any calls in any order -/

/-- A call that the handlers make. -/
inductive Call where
  | sendSignal (signal : Nat)
  | transmitBallSpeed (xSpeed ySpeed : Int)
  | transmitPuckChange (bluepuck : Sprite)
  | spIh
  | serialPortResetFIFO

/-- The globals behind the calls. -/
structure Globals where
  inQueue : Queue
  previousX : Int
  previousY : Int

/-- The accesses of a call, with at most `n` rounds of the loop of `sp_ih`. -/
def Call.accesses (n : Nat) (g : Globals) : Call → PortProg (Option Globals)
  | sendSignal signal => (Uart.sendSignal signal).bind fun _ => .done (some g)
  | transmitBallSpeed xSpeed ySpeed =>
    (Uart.transmitBallSpeed xSpeed ySpeed).bind fun _ => .done (some g)
  | transmitPuckChange bluepuck =>
    (Uart.transmitPuckChange bluepuck g.previousX g.previousY).bind fun previous =>
    .done (some { g with previousX := previous.1, previousY := previous.2 })
  | spIh => (Uart.spIh n g.inQueue).bind fun inQueue =>
    .done (inQueue.map fun inQueue => { g with inQueue := inQueue })
  | serialPortResetFIFO => (Uart.serialPortResetFIFO g.inQueue).bind fun r =>
    .done (some { g with inQueue := r.2 })

def accesses (n : Nat) : List Call → Globals → PortProg (Option Globals)
  | [], g => .done (some g)
  | call :: calls, g => (call.accesses n g).bind fun
    | none => .done none
    | some g => accesses n calls g

/-- Both halves of the port as the handlers see them. -/
structure Line where
  tx : Transmitter
  rx : Receiver
  previousX : Int
  previousY : Int

/-- What is answered to a call. -/
structure Reply where
  sends : List TxSlot
  id : Option UInt8
  arrives : List RxSlot
  fcr : Bool

/-- The answers that the accesses of a call have got. -/
def Reply.of (t : List PortAccess) : Reply := ⟨txSlots t, identified t, rxSlots t, cleared t⟩

/-- A call with its answers. -/
def Line.answer (s : Line) (call : Call) (reply : Reply) : Line :=
  let tx := { s.tx with slots := reply.sends }
  match call with
  | .sendSignal signal => { s with tx := tx.sendSignal signal }
  | .transmitBallSpeed xSpeed ySpeed => { s with tx := tx.transmitBallSpeed xSpeed ySpeed }
  | .transmitPuckChange bluepuck =>
    let told := tx.transmitPuckChange bluepuck s.previousX s.previousY
    { s with tx := told.1, previousX := told.2.1, previousY := told.2.2 }
  | .spIh => { s with rx := { s.rx with fifo := reply.arrives }.spIh reply.id }
  | .serialPortResetFIFO =>
    { s with rx := { s.rx with fcr := [reply.fcr] }.serialPortResetFIFO }

/-- The line and the globals say the same, and no answer is left over. -/
structure Line.Shows (s : Line) (g : Globals) : Prop where
  inQueue : s.rx.inQueue = g.inQueue
  previousX : s.previousX = g.previousX
  previousY : s.previousY = g.previousY
  slots : s.tx.slots = []
  fifo : s.rx.fifo = []
  fcr : s.rx.fcr = []

/-- The answers to a call that sends. -/
theorem Sends.answered {t : List PortAccess} {f : Transmitter → Transmitter} (h : Sends t f)
    (T : Transmitter) :
    (f { T with slots := (Reply.of t).sends }).slots = [] ∧
      (f { T with slots := (Reply.of t).sends }).sent = T.sent ++ written t :=
  h.2.2 { T with slots := txSlots t } [] (List.append_nil _).symm

/-- **One call** does with its answers what its accesses do. -/
theorem accesses_call {n : Nat} {call : Call} {g g' : Globals} {t : List PortAccess}
    (h : (call.accesses n g).Run t (some g')) :
    Careful t ∧ ∀ s : Line, s.Shows g → (s.answer call (.of t)).Shows g' ∧
      (s.answer call (.of t)).tx.sent = s.tx.sent ++ written t := by
  cases call with
  | sendSignal signal =>
      obtain ⟨u, hresult, hcall⟩ := Prog.run_bind_done.mp h
      cases hresult
      have hsends := sendSignal_run hcall
      refine ⟨hsends.1, fun s hs => ?_⟩
      obtain ⟨hslots, hsent⟩ := hsends.answered s.tx
      exact ⟨{ hs with slots := hslots }, hsent⟩
  | transmitBallSpeed xSpeed ySpeed =>
      obtain ⟨u, hresult, hcall⟩ := Prog.run_bind_done.mp h
      cases hresult
      have hsends := transmitBallSpeed_run hcall
      refine ⟨hsends.1, fun s hs => ?_⟩
      obtain ⟨hslots, hsent⟩ := hsends.answered s.tx
      exact ⟨{ hs with slots := hslots }, hsent⟩
  | transmitPuckChange bluepuck =>
      obtain ⟨previous, hresult, hcall⟩ := Prog.run_bind_done.mp h
      cases hresult
      obtain ⟨hsends, hprevious⟩ := transmitPuckChange_run hcall
      refine ⟨hsends.1, fun s hs => ?_⟩
      obtain ⟨hslots, hsent⟩ := hsends.answered s.tx
      rw [← hs.previousX, ← hs.previousY] at hslots hsent hprevious
      refine ⟨{ hs with slots := hslots, previousX := ?_, previousY := ?_ }, hsent⟩
      -- the places are told as the transmitter of the other model tells them
      · exact congrArg Prod.fst (hprevious _)
      · exact congrArg Prod.snd (hprevious _)
  | spIh =>
      obtain ⟨inQueue, hresult, hcall⟩ := Prog.run_bind_done.mp h
      -- a loop that has not come to an end leaves no globals
      cases inQueue with
      | none => cases hresult
      | some inQueue =>
          cases hresult
          obtain ⟨hcareful, hnothing, hread⟩ := spIh_run hcall
          refine ⟨hcareful, fun s hs => ?_⟩
          have hrx : (s.answer .spIh (.of t)).rx = { s.rx with fifo := [], inQueue := inQueue } :=
            hread { s.rx with fifo := rxSlots t } rfl hs.inQueue
          refine ⟨⟨by rw [hrx], hs.previousX, hs.previousY, hs.slots, by rw [hrx], ?_⟩, ?_⟩
          · rw [hrx]
            exact hs.fcr
          · rw [hnothing, List.append_nil]
            rfl
  | serialPortResetFIFO =>
      obtain ⟨⟨code, inQueue⟩, hresult, hcall⟩ := Prog.run_bind_done.mp h
      cases hresult
      obtain ⟨hcareful, hnothing, hreset⟩ := serialPortResetFIFO_run hcall
      refine ⟨hcareful, fun s hs => ?_⟩
      have hrx : (s.answer .serialPortResetFIFO (.of t)).rx =
          { s.rx with fcr := [], inQueue := inQueue } :=
        hreset { s.rx with fcr := [cleared t] } hs.fifo rfl hs.inQueue
      refine ⟨⟨by rw [hrx], hs.previousX, hs.previousY, hs.slots, ?_, by rw [hrx]⟩, ?_⟩
      · rw [hrx]
        exact hs.fifo
      · rw [hnothing, List.append_nil]
        rfl

/-- The answers to the calls, one after the other. -/
def Line.answers (s : Line) : List (Call × Reply) → Line
  | [] => s
  | (call, reply) :: rest => (s.answer call reply).answers rest

/-- **Whatever the UART answers to a sequence of calls**, the accesses fall into those of the calls,
and the two halves of the port do with the answers of each what its accesses do. -/
theorem accesses_refine {n : Nat} {calls : List Call} {g g' : Globals} {t : List PortAccess}
    (h : (accesses n calls g).Run t (some g')) :
    Careful t ∧ ∃ parts : List (Call × List PortAccess), parts.map Prod.fst = calls ∧
      parts.flatMap Prod.snd = t ∧
      (∀ part ∈ parts, ∃ g₁ g₂, (part.1.accesses n g₁).Run part.2 (some g₂)) ∧
      ∀ s : Line, s.Shows g →
        (s.answers (parts.map fun part => (part.1, .of part.2))).Shows g' ∧
        (s.answers (parts.map fun part => (part.1, .of part.2))).tx.sent =
          s.tx.sent ++ written t := by
  induction calls generalizing g t with
  | nil =>
      obtain ⟨rfl, hresult⟩ := Prog.run_done.mp h
      cases hresult
      refine ⟨.nil, [], rfl, rfl, fun part hpart => ?_, fun s hs => ⟨hs, ?_⟩⟩
      · cases hpart
      · rw [written, List.filterMap_nil, List.append_nil]
        rfl
  | cons call calls ih =>
      obtain ⟨t₁, t₂, middle, rfl, h₁, h₂⟩ := Prog.run_bind.mp h
      -- a call that does not come to an end leaves no state for the others
      cases middle with
      | none =>
          obtain ⟨-, hresult⟩ := Prog.run_done.mp h₂
          cases hresult
      | some middle =>
          obtain ⟨hcareful, hfirst⟩ := accesses_call h₁
          obtain ⟨hcareful', parts, hcalls, ht₂, hruns, hrest⟩ := ih h₂
          refine ⟨hcareful.append hcareful', (call, t₁) :: parts, congrArg (call :: ·) hcalls,
            ?_, fun part hpart => ?_, fun s hs => ?_⟩
          · rw [List.flatMap_cons, ht₂]
          · rcases List.mem_cons.mp hpart with rfl | hpart
            · exact ⟨g, middle, h₁⟩
            · exact hruns part hpart
          · -- the first call, and from there the others
            obtain ⟨hshows, hsent⟩ := hfirst s hs
            obtain ⟨hshows', hsent'⟩ := hrest _ hshows
            refine ⟨hshows', ?_⟩
            rw [written_append, ← List.append_assoc, ← hsent]
            exact hsent'

/-- `serialPort_init` turns on the interrupt for received data and leaves the other interrupts as
they are. -/
theorem serialPortInit_run {cells : List UInt8} {hcells : cells.length = 100}
    {t : List PortAccess} {code : Int} {inQueue : Queue}
    -- only a run that goes through all three accesses leaves a queue
    (h : (serialPortInit cells hcells).Run t (code, some inQueue)) :
    inQueue = Queue.createQueue cells hcells ∧ ∃ old ok,
      t = [.inb ier (some old), .outb ier (old ||| ierRecData) true,
        .outb fcr (fcrEnable ||| fcrClearReceive ||| fcrClearXmit) ok] := by
  rw [serialPortInit, Prog.run_inb] at h
  obtain ⟨answer, t, rfl, h⟩ := h
  cases answer with
  | none =>
      obtain ⟨-, hresult⟩ := Prog.run_done.mp h
      cases hresult
  | some old =>
      obtain ⟨enabled, t, rfl, hnext⟩ := Prog.run_outb.mp h
      cases enabled with
      | false =>
          obtain ⟨-, hresult⟩ := Prog.run_done.mp hnext
          cases hresult
      | true =>
          obtain ⟨r, hresult, hreset⟩ := Prog.run_bind_done.mp hnext
          cases hresult
          obtain ⟨ok, t, rfl, hdone⟩ := Prog.run_outb.mp hreset
          obtain ⟨rfl, rfl⟩ := Prog.run_done.mp hdone
          refine ⟨?_, old, ok, rfl⟩
          cases ok <;> rfl

/-- The port from its initialisation on. -/
def session (n : Nat) (cells : List UInt8) (h : cells.length = 100) (calls : List Call) :
    PortProg (Option Globals) :=
  (serialPortInit cells h).bind fun r =>
    match r.2 with
    | none => .done none
    | some inQueue => accesses n calls ⟨inQueue, 0, 0⟩

/-- **The serial port, from its initialisation on.** The accesses after the three of
`serialPort_init` fall into those of the calls, and each call of the other model that gets exactly
the answers of its accesses leaves the same queue and the same bytes on the line. -/
theorem session_refine {n : Nat} {cells : List UInt8} {hcells : cells.length = 100}
    {calls : List Call} {g : Globals} {t : List PortAccess}
    (h : (session n cells hcells calls).Run t (some g)) :
    Careful t ∧ ∃ (old : UInt8) (ok : Bool) (parts : List (Call × List PortAccess)),
      t = .inb ier (some old) :: .outb ier (old ||| ierRecData) true ::
        .outb fcr (fcrEnable ||| fcrClearReceive ||| fcrClearXmit) ok ::
          parts.flatMap Prod.snd ∧
      parts.map Prod.fst = calls ∧
      (∀ part ∈ parts, ∃ g₁ g₂, (part.1.accesses n g₁).Run part.2 (some g₂)) ∧
      ∀ s : Line, s.Shows ⟨Queue.createQueue cells hcells, 0, 0⟩ →
        (s.answers (parts.map fun part => (part.1, .of part.2))).Shows g ∧
        (s.answers (parts.map fun part => (part.1, .of part.2))).tx.sent =
          s.tx.sent ++ written t := by
  obtain ⟨t₁, t₂, ⟨code, inQueue⟩, rfl, hinit, hcalls⟩ := Prog.run_bind.mp h
  cases inQueue with
  -- the initialisation has failed, and no call is made
  | none =>
      obtain ⟨-, hresult⟩ := Prog.run_done.mp hcalls
      cases hresult
  | some inQueue =>
      obtain ⟨rfl, old, ok, rfl⟩ := serialPortInit_run hinit
      obtain ⟨hcareful, parts, hof, rfl, hruns, hline⟩ := accesses_refine hcalls
      refine ⟨?_, old, ok, parts, rfl, hof, hruns, fun s hs => ?_⟩
      · exact .read (.inr (.inr (.inr rfl))) _ (.control (.inr rfl) _ _
          (.control (.inl rfl) _ _ hcareful))
      · -- nothing is written to the line before the first call
        have hwritten : written ([.inb ier (some old), .outb ier (old ||| ierRecData) true,
            .outb fcr (fcrEnable ||| fcrClearReceive ||| fcrClearXmit) ok] ++
              parts.flatMap Prod.snd) = written (parts.flatMap Prod.snd) := by
          rw [written_append]
          cases ok <;> rfl
        rw [hwritten]
        exact hline s hs

/-- The second byte of a start/leave word is lost, a byte arrives, and a look finds nothing more. -/
def lostHalf : List PortAccess :=
  [.inb ier (some 0), .outb ier 1 true, .outb fcr 7 true,
    .inb lsr (some 0), .inb lsr (some lsrThrEmpty), .outb thr 0 true,
    .inb lsr (some lsrThrEmpty), .outb thr 0x10 false,
    .inb iir (some iirIntId), .inb lsr (some lsrRecData), .inb rbr (some 0xAB), .inb lsr (some 0)]

theorem session_refine_lostHalf : ∃ g,
    (session 3 (List.replicate 100 0) rfl [.sendSignal signal1, .spIh]).Run lostHalf (some g) ∧
    Careful lostHalf ∧ g.inQueue.toList = [0xAB] ∧
      ∀ s : Line, s.Shows ⟨Queue.createQueue (List.replicate 100 0) rfl, 0, 0⟩ →
        ∃ s' : Line, s'.Shows g ∧ s'.tx.sent = s.tx.sent ++ [0] := by
  have hrun : ∃ g, (session 3 (List.replicate 100 0) rfl [.sendSignal signal1, .spIh]).replay
      lostHalf = some (some g) ∧ g.inQueue.toList = [0xAB] := ⟨_, rfl, by decide⟩
  obtain ⟨g, hrun, hqueue⟩ := hrun
  have hrun := Prog.run_of_replay hrun
  obtain ⟨hcareful, _, _, parts, -, -, -, hline⟩ := session_refine hrun
  exact ⟨g, hrun, hcareful, hqueue, fun s hs => ⟨_, hline s hs⟩⟩

end Uart

end AirHockey
