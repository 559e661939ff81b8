import AirHockey.Lib.CallReply
import AirHockey.SerialPort.Queue

/-! # The byte queue is a bounded list

The purpose of `queue.c` in its own terms is `Fifo n`: a list of at most `n` bytes, to whose end
bytes are appended while there is room and from whose head they are taken. `Queue.call` makes one
call of the interface of `queue.c`, `Fifo.call` says what the list answers to it, and `Holds` is
the relation that every call keeps.

`Holds.call` is the step lemma, with one case for each call; `replies_of_fifo` follows from it by
the simulation rule for components that answer calls, for every list of calls and whatever the
memory holds at first. -/

namespace AirHockey

/-- A list of at most `n` bytes. -/
structure Fifo (n : Nat) where
  bytes : List UInt8
  length_le : bytes.length ≤ n

/-- The calls of `queue.h` on a queue that exists. -/
inductive QueueCall where
  | enqueue (character : UInt8)
  | dequeue
  | isEmpty
  | queueGetSize
  | queueIsFull
deriving DecidableEq, Repr

/-- What a call returns. -/
inductive QueueReply where
  | void
  | character (c : UInt8)
  | truth (b : Bool)
  | int (n : Nat)
deriving DecidableEq, Repr

namespace Fifo

variable {n : Nat}

def empty (n : Nat) : Fifo n := ⟨[], Nat.zero_le n⟩

/-- At the end, or nowhere if the list is full. -/
def append (f : Fifo n) (c : UInt8) : Fifo n :=
  if h : f.bytes.length < n then
    ⟨f.bytes ++ [c], by rw [List.length_append]; exact h⟩
  else f

def tail (f : Fifo n) : Fifo n :=
  ⟨f.bytes.tail, by rw [List.length_tail]; have := f.length_le; omega⟩

/-- What the list answers; the head of an empty list reads as `1`. -/
def call (f : Fifo n) : QueueCall → QueueReply × Fifo n
  | .enqueue c => (.void, f.append c)
  | .dequeue => (.character (f.bytes.headD 1), f.tail)
  | .isEmpty => (.truth (f.bytes == []), f)
  | .queueGetSize => (.int f.bytes.length, f)
  | .queueIsFull => (.truth (f.bytes.length == n), f)

end Fifo

namespace Queue

/-- One call of the interface. -/
def call (queue : Queue) : QueueCall → QueueReply × Queue
  | .enqueue c => (.void, queue.enqueue c)
  | .dequeue => (.character queue.dequeue.1, queue.dequeue.2)
  | .isEmpty => (.truth queue.isEmpty, queue)
  | .queueGetSize => (.int queue.queueGetSize, queue)
  | .queueIsFull => (.truth queue.queueIsFull, queue)

/-- The queue has the capacity of the list and holds its bytes. -/
structure Holds {n : Nat} (queue : Queue) (f : Fifo n) : Prop where
  capacity : queue.capacity = n
  toList : queue.toList = f.bytes

namespace Holds

variable {n : Nat} {queue : Queue} {f : Fifo n}

theorem size (h : Holds queue f) : queue.size = f.bytes.length := by
  rw [← h.toList, length_toList]

theorem created (characters : List UInt8) (h : characters.length = 100) :
    Holds (createQueue characters h) (Fifo.empty 100) :=
  ⟨rfl, rfl⟩

theorem enqueue (h : Holds queue f) (c : UInt8) : Holds (queue.enqueue c) (f.append c) := by
  have hsize := h.size
  have hcap := h.capacity
  refine ⟨by rw [capacity_enqueue, hcap], ?_⟩
  -- with room the byte goes to the end of both, without room both stay as they are
  by_cases hroom : f.bytes.length < n
  · have hlt : queue.size < queue.capacity := by omega
    rw [Fifo.append, dif_pos hroom, toList_enqueue hlt, h.toList]
  · have hfull : queue.size = queue.capacity := by
      have := queue.size_le
      omega
    rw [Fifo.append, dif_neg hroom, enqueue_of_full hfull, h.toList]

theorem dequeue (h : Holds queue f) :
    queue.dequeue.1 = f.bytes.headD 1 ∧ Holds queue.dequeue.2 f.tail := by
  have hcap : queue.dequeue.2.capacity = n := by rw [capacity_dequeue, h.capacity]
  -- an empty list answers 1, like the queue; any other one gives up its head
  cases hbytes : f.bytes with
  | nil =>
      have hzero : queue.size = 0 := by rw [h.size, hbytes, List.length_nil]
      have hstay : queue.dequeue = (1, queue) := by rw [Queue.dequeue, dif_pos hzero]
      refine ⟨by rw [hstay, List.headD_nil], hcap, ?_⟩
      rw [hstay, h.toList]
      show f.bytes = f.bytes.tail
      rw [hbytes, List.tail_nil]
  | cons b bs =>
      obtain ⟨hhead, htail⟩ := dequeue_of_toList (h.toList.trans hbytes)
      refine ⟨hhead, hcap, ?_⟩
      show queue.dequeue.2.toList = f.bytes.tail
      rw [htail, hbytes, List.tail_cons]

/-- The step lemma: one case a call. -/
theorem call (h : Holds queue f) (i : QueueCall) :
    (queue.call i).1 = (f.call i).1 ∧ Holds (queue.call i).2 (f.call i).2 := by
  cases i with
  | enqueue c => exact ⟨rfl, h.enqueue c⟩
  | dequeue =>
      obtain ⟨hhead, htail⟩ := h.dequeue
      exact ⟨congrArg QueueReply.character hhead, htail⟩
  | isEmpty =>
      refine ⟨congrArg QueueReply.truth ?_, h⟩
      rw [Queue.isEmpty, h.size, Bool.eq_iff_iff]
      simp
  | queueGetSize => exact ⟨congrArg QueueReply.int h.size, h⟩
  | queueIsFull =>
      refine ⟨congrArg QueueReply.truth ?_, h⟩
      rw [Queue.queueIsFull, h.size, h.capacity]

end Holds

theorem capacity_call (queue : Queue) (i : QueueCall) :
    (queue.call i).2.capacity = queue.capacity := by
  cases i with
  | enqueue c => exact capacity_enqueue queue c
  | dequeue => exact capacity_dequeue queue
  | isEmpty | queueGetSize | queueIsFull => rfl

/-- **The queue is a bounded list.** Whatever was in the memory that `create_queue` got and
whatever calls follow, the replies are those of a list of at most 100 bytes, and the indices stay
inside the buffer and `size` apart. -/
theorem replies_of_fifo (characters : List UInt8) (h : characters.length = 100)
    (calls : List QueueCall) :
    CallReply.replies call (createQueue characters h) calls =
        CallReply.replies Fifo.call (Fifo.empty 100) calls ∧
      (let queue := CallReply.after call (createQueue characters h) calls
       queue.frontIndex < 100 ∧ queue.backIndex < 100 ∧
        (queue.frontIndex + queue.size) % 100 = (queue.backIndex + 1) % 100) := by
  refine ⟨?_, ?_⟩
  -- the replies are equal because every call keeps the relation
  · exact CallReply.replies_eq (R := Holds) (fun _ _ i hrel => Holds.call hrel i)
      (Holds.created characters h) calls
  · intro queue
    have hcap : queue.capacity = 100 :=
      CallReply.after_keeps (P := fun q : Queue => q.capacity = 100)
        (fun q i hq => (capacity_call q i).trans hq) rfl calls
    have hfront := queue.front_lt
    have hback := queue.back_lt
    have heq := queue.back_eq
    rw [hcap] at hfront hback heq
    exact ⟨hfront, hback, heq.symm⟩

/-- Calls that find the queue empty, full and wrapped around. -/
theorem replies_of_fifo_wrapped :
    (CallReply.replies call (createQueue (List.replicate 100 7) (by decide))
        ([.dequeue, .enqueue 5, .dequeue] ++ (List.replicate 101 (.enqueue 9)) ++
          [.queueIsFull, .dequeue, .queueGetSize])).drop 104 =
      [.truth true, .character 9, .int 99] := by
  rw [(replies_of_fifo _ _ _).1]
  decide +kernel

end Queue

end AirHockey
