import AirHockey.Lib.Framing
import AirHockey.Model.Handlers

/-! # What the decoder makes of a byte stream

During a game `sp_int` keeps the bytes it has not used in two places, the queue and the word in
`stored_x`. `Receiver.pending` puts them back together, and `splitGame` is the decoder on that one
list: `spGame_eq` says that one call of `sp_int` takes one item off its front. The theorem about
whole streams then comes from the general facts about such readers.

The proof of `spGame_eq` follows the decoder: fewer than two bytes, a start/leave word, a word and
a second one, or a word alone, which goes to `stored_x` and stays pending there. -/

namespace AirHockey

/-- The two bytes of a word, low byte first. -/
def wordBytes (w : Nat) : List UInt8 := [uint8 w, uint8 (w / 256)]

theorem word_wordBytes {w : Nat} (h : w < 65536) : word (uint8 w) (uint8 (w / 256)) = w := by
  rw [word_uint8, uint16]
  omega

theorem word_lt (lo hi : UInt8) : word lo hi < 65536 := by
  have h₁ := lo.toNat_lt
  have h₂ := hi.toNat_lt
  unfold word
  omega

theorem wordBytes_word (lo hi : UInt8) : wordBytes (word lo hi) = [lo, hi] := by
  have h₁ := lo.toNat_lt
  have h₂ := hi.toNat_lt
  have hlo : uint8 (word lo hi) = lo := by
    rw [← UInt8.toNat_inj, toNat_uint8, word]
    omega
  have hhi : uint8 ((word lo hi : Nat) / 256) = hi := by
    rw [← UInt8.toNat_inj, toNat_uint8, word]
    omega
  rw [wordBytes, hlo, hhi]

/-! ## The bytes not yet used -/

namespace Receiver

def pending (r : Receiver) : List UInt8 :=
  (if r.isStoredX then wordBytes r.storedX else []) ++ r.inQueue.toList

/-- `r'` differs from `r` in what is pending only. -/
structure Took (r r' : Receiver) : Prop where
  fifo : r'.fifo = r.fifo
  fcr : r'.fcr = r.fcr
  capacity : r'.inQueue.capacity = r.inQueue.capacity
  storedX_lt : r'.storedX < 65536

theorem pending_of_not_stored {r : Receiver} (h : r.isStoredX = false) :
    r.pending = r.inQueue.toList := by
  simp [pending, h]

theorem length_pending (r : Receiver) :
    r.pending.length = (if r.isStoredX then 2 else 0) + r.inQueue.size := by
  unfold pending
  split
  · simp [wordBytes]
    omega
  · simp

end Receiver

namespace Pc

open Receiver

/-- With a whole word pending, `temp_x` is that word. -/
theorem nextTempX_some {r : Receiver} (hlt : r.storedX < 65536) {b₀ b₁ : UInt8} {bs : List UInt8}
    (h : r.pending = b₀ :: b₁ :: bs) :
    ∃ q : Queue, nextTempX r = some (word b₀ b₁, { r with inQueue := q, isStoredX := false }) ∧
      q.toList = bs ∧ q.capacity = r.inQueue.capacity := by
  obtain ⟨fifo, fcr, inQueue, storedX, isStoredX⟩ := r
  -- the word is the stored one, or it is read off the queue
  cases isStoredX with
  | true =>
      simp only [pending, wordBytes, if_true, List.cons_append, List.nil_append,
        List.cons.injEq] at h
      obtain ⟨rfl, rfl, rfl⟩ := h
      exact ⟨inQueue, by rw [nextTempX, if_pos rfl, word_wordBytes hlt], rfl, rfl⟩
  | false =>
      exact readNextSignal_cons h

theorem nextTempX_none {r : Receiver} (h : r.pending.length < 2) : nextTempX r = none := by
  rw [length_pending] at h
  unfold nextTempX
  split at h <;> rename_i hs
  · omega
  · rw [if_neg hs, readNextSignal_none (by omega)]

end Pc

/-! ## One item -/

/-- What one call of `sp_int` takes from the stream during a game: the leave word, or a message and
what it does. -/
inductive Item where
  | leave
  | payload (e : Effect)
  deriving DecidableEq, Repr

def payloadEffect (tempX tempY : Nat) : Effect :=
  if tempX = ballSignal then .ballSpeed (-int8 (tempY % 256 : Nat)) (-int8 (tempY / 256 : Nat))
  else .move (int16 (-tempX)) (int16 tempY)

def splitGame : List UInt8 → Option (Item × List UInt8)
  | b₀ :: b₁ :: bs =>
    if word b₀ b₁ = signal1 then some (.leave, bs)
    else
      match bs with
      | c₀ :: c₁ :: bs => some (.payload (payloadEffect (word b₀ b₁) (word c₀ c₁)), bs)
      | _ => none
  | _ => none

theorem splitGame_leave {b₀ b₁ : UInt8} {bs : List UInt8} (h : word b₀ b₁ = signal1) :
    splitGame (b₀ :: b₁ :: bs) = some (.leave, bs) := by
  simp [splitGame, h]

theorem splitGame_payload {b₀ b₁ c₀ c₁ : UInt8} {bs : List UInt8} (h : word b₀ b₁ ≠ signal1) :
    splitGame (b₀ :: b₁ :: c₀ :: c₁ :: bs) =
      some (.payload (payloadEffect (word b₀ b₁) (word c₀ c₁)), bs) := by
  simp [splitGame, h]

theorem splitGame_half {b₀ b₁ : UInt8} {bs : List UInt8} (h : word b₀ b₁ ≠ signal1)
    (hlen : bs.length < 2) : splitGame (b₀ :: b₁ :: bs) = none := by
  match bs with
  | [] | [_] => simp [splitGame, h]

/-- The components of a decoded displacement fit into 16 bits. -/
theorem payloadEffect_range {tempX tempY : Nat} {x y : Int}
    (h : payloadEffect tempX tempY = .move x y) : int16 x = x ∧ int16 y = y := by
  unfold payloadEffect at h
  split at h
  · cases h
  · obtain ⟨rfl, rfl⟩ := Effect.move.inj h
    exact ⟨int16_int16 _, int16_int16 _⟩

theorem splitGame_range {bytes rest : List UInt8} {x y : Int}
    (h : splitGame bytes = some (.payload (.move x y), rest)) : int16 x = x ∧ int16 y = y := by
  -- no first word, the word that leaves, half a message, or a whole one
  rcases bytes with _ | ⟨b₀, _ | ⟨b₁, bytes⟩⟩
  · cases h
  · cases h
  · by_cases hsignal : word b₀ b₁ = signal1
    · rw [splitGame_leave hsignal] at h
      cases h
    · rcases bytes with _ | ⟨c₀, _ | ⟨c₁, bytes⟩⟩
      · simp [splitGame, hsignal] at h
      · simp [splitGame, hsignal] at h
      · rw [splitGame_payload hsignal] at h
        obtain ⟨hitem, -⟩ := Prod.mk.inj (Option.some.inj h)
        exact payloadEffect_range (Item.payload.inj hitem)

namespace Effect

/-- What an effect does to the table. -/
def apply : Effect → Table → Table
  | .move x y, t => t.move .redpuck x y 2
  | .ballSpeed xspeed yspeed, t =>
    { t with ball := { t.ball with xspeed := xspeed, yspeed := yspeed } }

end Effect

namespace Pc

open Receiver

/-- An effect, with its place in the history. -/
def perform (e : Effect) (s : Pc) : Pc :=
  { s with table := e.apply s.table, applied := s.applied ++ [e] }

theorem applyPayload_some {s : Pc} {tempX tempY : Nat} {r : Receiver}
    (h : s.receiver.readNextSignal = some (tempY, r)) :
    s.applyPayload tempX =
      { s with receiver := r }.perform (payloadEffect tempX tempY) := by
  unfold applyPayload payloadEffect
  rw [h]
  by_cases hx : tempX = ballSignal
  · simp only [if_pos hx]
    rfl
  · simp only [if_neg hx]
    rfl

/-- **One call of `sp_int` during a game**, once the FIFO has been read. -/
theorem spGame_eq {s : Pc} (hlt : s.receiver.storedX < 65536) :
    ∃ r, s.receiver.Took r ∧
      match splitGame s.receiver.pending with
      | none => s.spGame = { s with receiver := r } ∧ r.pending = s.receiver.pending
      | some (.leave, bs) =>
        s.spGame = { s with receiver := r, mainState := .mainMenu } ∧
          r.isStoredX = false ∧ r.pending = bs
      | some (.payload e, bs) =>
        s.spGame = { s with receiver := r }.perform e ∧ r.isStoredX = false ∧ r.pending = bs := by
  match hp : s.receiver.pending with
  | [] | [_] =>
      have hnone : nextTempX s.receiver = none := nextTempX_none (by simp [hp])
      refine ⟨s.receiver, ⟨rfl, rfl, rfl, hlt⟩, ?_, hp⟩
      rw [spGame, hnone]
  | b₀ :: b₁ :: bs =>
      obtain ⟨q, hx, hq, hcap⟩ := nextTempX_some hlt hp
      have hstep : s.spGame =
          if word b₀ b₁ = signal1 then
            { s with
              receiver := { s.receiver with inQueue := q, isStoredX := false }
              mainState := .mainMenu }
          else
            { s with receiver := { s.receiver with inQueue := q, isStoredX := false } }.applyPayload
              (word b₀ b₁) := by
        rw [spGame, hx]
      -- the word that leaves the game stands alone
      by_cases hsig : word b₀ b₁ = signal1
      · rw [if_pos hsig] at hstep
        rw [splitGame_leave hsig]
        exact ⟨{ s.receiver with inQueue := q, isStoredX := false }, ⟨rfl, rfl, hcap, hlt⟩, hstep,
          rfl, hq⟩
      · rw [if_neg hsig] at hstep
        match hbs : bs with
        | c₀ :: c₁ :: cs =>
            rw [splitGame_payload hsig]
            obtain ⟨q', hy, hq', hcap'⟩ := readNextSignal_cons
              (r := { s.receiver with inQueue := q, isStoredX := false }) hq
            rw [applyPayload_some hy] at hstep
            exact ⟨{ s.receiver with inQueue := q', isStoredX := false },
              ⟨rfl, rfl, hcap'.trans hcap, hlt⟩, hstep, rfl, hq'⟩
        | [] | [_] =>
            -- half a message: the word is kept until the other half arrives
            rw [splitGame_half hsig (by simp)]
            have hsize : q.size < 2 := by
              rw [← Queue.length_toList, hq]
              simp
            have hy : readNextSignal { s.receiver with inQueue := q, isStoredX := false } = none :=
              readNextSignal_none hsize
            rw [applyPayload, hy] at hstep
            exact ⟨{ s.receiver with inQueue := q, storedX := word b₀ b₁, isStoredX := true },
              ⟨rfl, rfl, hcap, word_lt b₀ b₁⟩, hstep, by simp [pending, wordBytes_word, hq]⟩

end Pc

end AirHockey
