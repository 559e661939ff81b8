import AirHockey.SerialPort.Queue
import AirHockey.SerialPort.Transmitter

/-! # Receiving

The receiving half of `serialport.c` together with the two globals in which `sp_int` keeps a word
that it could not use yet. The receive FIFO of the UART is a list of `RxSlot`s: what one look at
the line status and the read of the data register that follows it return.

A word is read off the front of the queue (`readNextSignal_cons`), and which word it is depends on
the bytes alone, not on where they lie (`readNextSignal_congr`). A FIFO of bytes that have arrived
without error goes to the queue whole (`spIh_clean`, by induction on the bytes). The frame lemmas
at the end hold whatever the UART answers. -/

namespace AirHockey

def iirIntPend : UInt8 := 0x01
def iirIntId : UInt8 := 0x04

/-- One look of `read_char` at the line status, and the read of the data register that may follow;
`none` is a port access that fails. -/
structure RxSlot where
  status : Option UInt8
  data : Option UInt8

/-- A byte received without error. -/
def RxSlot.clean (b : UInt8) : RxSlot := ⟨some lsrRecData, some b⟩

/-- `fcr` are the results of the next writes to the FIFO control register; when the list is used up
they succeed. -/
structure Receiver where
  fifo : List RxSlot
  fcr : List Bool
  inQueue : Queue
  storedX : Nat
  isStoredX : Bool

namespace Receiver

def readChar (r : Receiver) : Int × Receiver :=
  match r.fifo with
  | [] => (1, r)
  | slot :: fifo =>
    let r := { r with fifo := fifo }
    match slot.status with
    | none => (1, r)
    | some status =>
      -- with no data ready nothing is read
      if status &&& lsrRecData ≠ 0 then
        match slot.data with
        | none => (1, r)
        | some data =>
          -- a byte with a line error is read and thrown away
          if status &&& lsrErrors ≠ 0 then (1, r)
          else (0, { r with inQueue := r.inQueue.enqueue data })
      else (1, r)

/-- `while (!read_char());`, with as much fuel as there is to read. -/
def readLoop : Nat → Receiver → Receiver
  | 0, r => r
  | n + 1, r => if r.readChar.1 = 0 then readLoop n r.readChar.2 else r.readChar.2

/-- Does the interrupt identification, if it could be read, announce received data? -/
def dataAnnounced (iir : Option UInt8) : Bool :=
  match iir with
  | none => false
  | some iir => iir &&& iirIntPend == 0 && iir &&& iirIntId != 0

def spIh (iir : Option UInt8) (r : Receiver) : Receiver :=
  if dataAnnounced iir then readLoop (r.fifo.length + 1) r else r

/-- A failing write to the control register leaves the queue as it is, too. -/
def serialPortResetFIFO (r : Receiver) : Receiver :=
  match r.fcr with
  | false :: fcr => { r with fcr := fcr }
  | fcr => { r with fcr := fcr.tail, fifo := [], inQueue := r.inQueue.drain r.inQueue.size }

/-- `none` stands for the return code `1`: fewer than two bytes, and nothing is taken. -/
def readNextSignal (r : Receiver) : Option (Nat × Receiver) :=
  if r.inQueue.queueGetSize ≥ 2 then
    let lo := r.inQueue.dequeue
    let hi := lo.2.dequeue
    some (word lo.1 hi.1, { r with inQueue := hi.2 })
  else none

/-! ## Taking a word -/

theorem readNextSignal_none {r : Receiver} (h : r.inQueue.size < 2) :
    r.readNextSignal = none := by
  rw [readNextSignal, if_neg (by unfold Queue.queueGetSize; omega)]

/-- Two bytes at the head of the queue are taken as one word. -/
theorem readNextSignal_cons {r : Receiver} {b₀ b₁ : UInt8} {bs : List UInt8}
    (h : r.inQueue.toList = b₀ :: b₁ :: bs) :
    ∃ q : Queue, r.readNextSignal = some (word b₀ b₁, { r with inQueue := q }) ∧
      q.toList = bs ∧ q.capacity = r.inQueue.capacity := by
  have hsize : r.inQueue.queueGetSize ≥ 2 := by
    unfold Queue.queueGetSize
    rw [← Queue.length_toList, h]
    simp
  obtain ⟨h₀, hrest⟩ := Queue.dequeue_of_toList h
  obtain ⟨h₁, hlist⟩ := Queue.dequeue_of_toList hrest
  refine ⟨r.inQueue.dequeue.2.dequeue.2, ?_, hlist, by simp⟩
  rw [readNextSignal, if_pos hsize]
  simp only [h₀, h₁]

theorem toList_cons_of_readNextSignal {r r' : Receiver} {w : Nat}
    (h : r.readNextSignal = some (w, r')) :
    ∃ b₀ b₁ bs, r.inQueue.toList = b₀ :: b₁ :: bs := by
  -- with fewer than two bytes there is no word
  by_cases hsize : r.inQueue.size < 2
  · rw [readNextSignal_none hsize] at h
    cases h
  · match hl : r.inQueue.toList with
    | b₀ :: b₁ :: bs => exact ⟨b₀, b₁, bs, rfl⟩
    | [] | [_] =>
        have := congrArg List.length hl
        simp at this
        omega

/-- What the queue holds decides what a word read from it is, not where in the ring it lies. -/
theorem readNextSignal_congr {r s : Receiver} (h : r.inQueue.toList = s.inQueue.toList) :
    (r.readNextSignal = none ∧ s.readNextSignal = none) ∨
    ∃ w p q, r.readNextSignal = some (w, { r with inQueue := p }) ∧
      s.readNextSignal = some (w, { s with inQueue := q }) ∧ p.toList = q.toList ∧
      p.capacity = r.inQueue.capacity ∧ q.capacity = s.inQueue.capacity := by
  -- two bytes at least make a word on both sides, and fewer on neither
  match hl : r.inQueue.toList with
  | b₀ :: b₁ :: bs =>
      obtain ⟨p, hp, hpl, hpc⟩ := readNextSignal_cons hl
      obtain ⟨q, hq, hql, hqc⟩ := readNextSignal_cons (h.symm.trans hl)
      exact .inr ⟨word b₀ b₁, p, q, hp, hq, hpl.trans hql.symm, hpc, hqc⟩
  | [] | [_] =>
      have h₁ := congrArg List.length hl
      have h₂ := congrArg List.length h
      simp at h₁ h₂
      exact .inl ⟨readNextSignal_none (by omega), readNextSignal_none (by omega)⟩

/-! ## Reading the FIFO -/

theorem readChar_clean {r : Receiver} {b : UInt8} {fifo : List RxSlot}
    (h : r.fifo = RxSlot.clean b :: fifo) :
    r.readChar = (0, { r with fifo := fifo, inQueue := r.inQueue.enqueue b }) := by
  unfold readChar
  rw [h]
  rfl

/-- A FIFO of bytes received without error is moved to the queue whole. -/
theorem readLoop_clean {r : Receiver} {bytes : List UInt8} (h : r.fifo = bytes.map RxSlot.clean)
    {n : Nat} (hn : bytes.length < n) :
    readLoop n r = { r with fifo := [], inQueue := r.inQueue.enqueueAll bytes } := by
  induction bytes generalizing r n with
  | nil =>
      obtain ⟨n, rfl⟩ : ∃ k, n = k + 1 := ⟨n - 1, by simp at hn; omega⟩
      have hread : r.readChar = (1, r) := by
        unfold readChar
        rw [h]
        rfl
      obtain ⟨fifo, fcr, inQueue, storedX, isStoredX⟩ := r
      cases h
      simp [readLoop, hread]
  | cons b bytes ih =>
      obtain ⟨n, rfl⟩ : ∃ k, n = k + 1 := ⟨n - 1, by simp at hn; omega⟩
      have hread := readChar_clean (h : r.fifo = RxSlot.clean b :: bytes.map RxSlot.clean)
      rw [readLoop, hread, if_pos rfl, ih rfl (by simp at hn; omega)]
      rfl

theorem spIh_clean {r : Receiver} {bytes : List UInt8} (h : r.fifo = bytes.map RxSlot.clean)
    {iir : Option UInt8} (hiir : dataAnnounced iir = true) :
    spIh iir r = { r with fifo := [], inQueue := r.inQueue.enqueueAll bytes } := by
  rw [spIh, if_pos hiir, readLoop_clean h (by simp [h])]

theorem spIh_quiet {iir : Option UInt8} (h : dataAnnounced iir = false) (r : Receiver) :
    spIh iir r = r := by
  simp [spIh, h]

/-! ## What reading leaves alone, whatever the UART answers -/

theorem readChar_frame (r : Receiver) :
    r.readChar.2.fcr = r.fcr ∧ r.readChar.2.storedX = r.storedX ∧
      r.readChar.2.isStoredX = r.isStoredX := by
  unfold readChar
  repeat' split
  all_goals exact ⟨rfl, rfl, rfl⟩

theorem readLoop_frame (n : Nat) (r : Receiver) :
    (readLoop n r).fcr = r.fcr ∧ (readLoop n r).storedX = r.storedX ∧
      (readLoop n r).isStoredX = r.isStoredX := by
  induction n generalizing r with
  | zero => exact ⟨rfl, rfl, rfl⟩
  | succ n ih =>
      obtain ⟨h₁, h₂, h₃⟩ := readChar_frame r
      obtain ⟨i₁, i₂, i₃⟩ := ih r.readChar.2
      rw [readLoop]
      -- the loop goes on with what the first round has left
      split
      · exact ⟨i₁.trans h₁, i₂.trans h₂, i₃.trans h₃⟩
      · exact ⟨h₁, h₂, h₃⟩

theorem spIh_frame (iir : Option UInt8) (r : Receiver) :
    (spIh iir r).fcr = r.fcr ∧ (spIh iir r).storedX = r.storedX ∧
      (spIh iir r).isStoredX = r.isStoredX := by
  unfold spIh
  split
  · exact readLoop_frame _ r
  · exact ⟨rfl, rfl, rfl⟩

/-! ## Resetting -/

theorem serialPortResetFIFO_idle {r : Receiver} (h : r.fcr = []) :
    r.serialPortResetFIFO =
      { r with fifo := [], inQueue := r.inQueue.drain r.inQueue.size } := by
  obtain ⟨fifo, fcr, inQueue, storedX, isStoredX⟩ := r
  cases h
  rfl

end Receiver

end AirHockey
