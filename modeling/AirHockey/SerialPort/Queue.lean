import AirHockey.Lib.Ring

/-! # The byte queue between the serial interrupt and the decoder

`Queue` is the record of `queue.c`, with the relation between its two indices as fields: a queue
whose indices are out of step cannot be built. `Queue.toList` is the abstraction that the rest of
the development works with — the bytes still to be taken, oldest first — and every operation is
described once in its terms.

`toList_enqueue` and `toList_dequeue` are the two facts about the ring of the library at the
indices of the record. `toList_enqueueAll_iff` says when a batch of bytes is kept whole: nothing
is dropped exactly if there is room for all of it. -/

namespace AirHockey

structure Queue where
  frontIndex : Nat
  backIndex : Nat
  size : Nat
  capacity : Nat
  characters : List UInt8
  length_characters : characters.length = capacity
  front_lt : frontIndex < capacity
  back_lt : backIndex < capacity
  size_le : size ≤ capacity
  back_eq : (backIndex + 1) % capacity = (frontIndex + size) % capacity

namespace Queue

/-- `malloc` leaves the cells uninitialised; `characters` is what they happen to hold. -/
def createQueue (characters : List UInt8) (h : characters.length = 100) : Queue where
  frontIndex := 0
  backIndex := 99
  size := 0
  capacity := 100
  characters := characters
  length_characters := h
  front_lt := by decide
  back_lt := by decide
  size_le := by decide
  back_eq := by decide

def isEmpty (queue : Queue) : Bool := queue.size == 0

def queueGetSize (queue : Queue) : Nat := queue.size

def queueIsFull (queue : Queue) : Bool := queue.size == queue.capacity

def queueGetCapacity (queue : Queue) : Nat := queue.capacity

theorem capacity_pos (queue : Queue) : 0 < queue.capacity :=
  Nat.lt_of_le_of_lt (Nat.zero_le _) queue.front_lt

/-- A byte that finds the queue full is dropped. -/
def enqueue (queue : Queue) (character : UInt8) : Queue :=
  if h : queue.size = queue.capacity then queue
  else
    { queue with
      backIndex := (queue.backIndex + 1) % queue.capacity
      characters := queue.characters.set ((queue.backIndex + 1) % queue.capacity) character
      size := queue.size + 1
      length_characters := by rw [List.length_set, queue.length_characters]
      back_lt := Nat.mod_lt _ queue.capacity_pos
      size_le := by have := queue.size_le; omega
      back_eq := by rw [queue.back_eq, Nat.mod_add_mod, Nat.add_assoc] }

/-- An empty queue answers `1` and stays as it is. -/
def dequeue (queue : Queue) : UInt8 × Queue :=
  if h : queue.size = 0 then (1, queue)
  else
    (queue.characters.getD queue.frontIndex 0,
      { queue with
        frontIndex := (queue.frontIndex + 1) % queue.capacity
        size := queue.size - 1
        front_lt := Nat.mod_lt _ queue.capacity_pos
        size_le := by have := queue.size_le; omega
        back_eq := by
          rw [queue.back_eq, Nat.mod_add_mod]
          congr 1
          omega })

/-! ## The queue as a list -/

/-- The bytes in the queue, oldest first. -/
def toList (queue : Queue) : List UInt8 :=
  Ring.window queue.characters queue.frontIndex queue.size

@[simp] theorem length_toList (queue : Queue) : queue.toList.length = queue.size :=
  Ring.length_window ..

theorem toList_eq_nil_iff {queue : Queue} : queue.toList = [] ↔ queue.size = 0 := by
  rw [← List.length_eq_zero_iff, length_toList]

@[simp] theorem capacity_enqueue (queue : Queue) (character : UInt8) :
    (queue.enqueue character).capacity = queue.capacity := by
  unfold enqueue
  split <;> rfl

@[simp] theorem capacity_dequeue (queue : Queue) :
    queue.dequeue.2.capacity = queue.capacity := by
  unfold dequeue
  split <;> rfl

theorem enqueue_of_full {queue : Queue} (h : queue.size = queue.capacity) (character : UInt8) :
    queue.enqueue character = queue := by
  rw [enqueue, dif_pos h]

theorem toList_enqueue {queue : Queue} (h : queue.size < queue.capacity) (character : UInt8) :
    (queue.enqueue character).toList = queue.toList ++ [character] := by
  rw [enqueue, dif_neg (Nat.ne_of_lt h)]
  unfold toList
  simp only [queue.back_eq]
  -- the ring of the library has as many cells as the queue has room
  have hlen := queue.length_characters
  rw [← hlen] at h
  simpa only [hlen] using Ring.window_push h character

/-- Taking a byte splits the list at its head. -/
theorem toList_dequeue {queue : Queue} (h : 0 < queue.size) :
    queue.toList = queue.dequeue.1 :: queue.dequeue.2.toList := by
  have hfront := Nat.mod_eq_of_lt queue.front_lt
  rw [dequeue, dif_neg (Nat.ne_of_gt h)]
  unfold toList
  rw [Ring.window_pop h, queue.length_characters, hfront]
  rfl

theorem dequeue_of_toList {queue : Queue} {b : UInt8} {bs : List UInt8}
    (h : queue.toList = b :: bs) :
    queue.dequeue.1 = b ∧ queue.dequeue.2.toList = bs := by
  have hpos : 0 < queue.size := by
    rw [← length_toList, h]
    exact Nat.succ_pos _
  rw [toList_dequeue hpos] at h
  exact List.cons.inj h

@[simp] theorem size_dequeue (queue : Queue) : queue.dequeue.2.size = queue.size - 1 := by
  unfold dequeue
  split
  · next h => simp [h]
  · rfl

/-! ## Draining the queue

`serialPort_resetFIFO` empties the queue one byte at a time; the fuel is the number of bytes. -/

def drain : Nat → Queue → Queue
  | 0, queue => queue
  | n + 1, queue => if queue.isEmpty then queue else drain n queue.dequeue.2

theorem size_drain {n : Nat} {queue : Queue} (h : queue.size ≤ n) : (drain n queue).size = 0 := by
  induction n generalizing queue with
  | zero => exact Nat.le_zero.mp h
  | succ n ih =>
      rw [drain]
      split
      · next he => simpa [isEmpty] using he
      · exact ih (by rw [size_dequeue]; omega)

@[simp] theorem capacity_drain (n : Nat) (queue : Queue) :
    (drain n queue).capacity = queue.capacity := by
  induction n generalizing queue with
  | zero => rfl
  | succ n ih =>
      rw [drain]
      split
      · rfl
      · rw [ih, capacity_dequeue]

@[simp] theorem toList_drain (queue : Queue) : (drain queue.size queue).toList = [] :=
  toList_eq_nil_iff.mpr (size_drain (Nat.le_refl _))

/-! ## Enqueueing a batch -/

/-- The queue after a batch of bytes, in order. -/
def enqueueAll (queue : Queue) (bytes : List UInt8) : Queue := bytes.foldl enqueue queue

@[simp] theorem enqueueAll_nil (queue : Queue) : queue.enqueueAll [] = queue := rfl

@[simp] theorem enqueueAll_cons (queue : Queue) (b : UInt8) (bytes : List UInt8) :
    queue.enqueueAll (b :: bytes) = (queue.enqueue b).enqueueAll bytes := rfl

@[simp] theorem capacity_enqueueAll (queue : Queue) (bytes : List UInt8) :
    (queue.enqueueAll bytes).capacity = queue.capacity := by
  induction bytes generalizing queue with
  | nil => rfl
  | cons b bytes ih => rw [enqueueAll_cons, ih, capacity_enqueue]

/-- **What becomes of a batch**: the bytes for which there is room are appended, and the rest is
dropped. -/
theorem toList_enqueueAll_take (queue : Queue) (bytes : List UInt8) :
    (queue.enqueueAll bytes).toList =
      queue.toList ++ bytes.take (queue.capacity - queue.size) := by
  induction bytes generalizing queue with
  | nil => simp
  | cons b bytes ih =>
      rw [enqueueAll_cons, ih, capacity_enqueue]
      rcases queue.size_le.eq_or_lt with hfull | hlt
      -- a full queue drops this byte and all that follow
      · rw [enqueue_of_full hfull, hfull, Nat.sub_self, List.take_zero, List.take_zero]
      · have hlist := toList_enqueue hlt b
        have hsize : (queue.enqueue b).size = queue.size + 1 := by
          rw [← length_toList, hlist, List.length_append, length_toList, List.length_singleton]
        -- room for one byte and `n` others
        obtain ⟨n, hn⟩ : ∃ n, queue.capacity - queue.size = n + 1 :=
          ⟨queue.capacity - queue.size - 1, by omega⟩
        have hroom : queue.capacity - (queue.size + 1) = n := by omega
        rw [hsize, hroom, hn, List.take_succ_cons, hlist, List.append_assoc, List.singleton_append]

/-- A batch for which there is room is appended whole. -/
theorem toList_enqueueAll {queue : Queue} {bytes : List UInt8}
    (h : queue.size + bytes.length ≤ queue.capacity) :
    (queue.enqueueAll bytes).toList = queue.toList ++ bytes := by
  rw [toList_enqueueAll_take, List.take_of_length_le (by omega)]

/-- Nothing is dropped exactly if there is room. -/
theorem toList_enqueueAll_iff {queue : Queue} {bytes : List UInt8} :
    (queue.enqueueAll bytes).toList = queue.toList ++ bytes ↔
      queue.size + bytes.length ≤ queue.capacity := by
  refine ⟨fun h => ?_, toList_enqueueAll⟩
  have hsize := queue.size_le
  rw [toList_enqueueAll_take] at h
  -- the batch is as long as the part of it that is kept
  have hlen := congrArg List.length (List.append_cancel_left h)
  rw [List.length_take] at hlen
  omega

end Queue

end AirHockey
