import AirHockey.Model.Serial
import AirHockey.Model.Standard

/-! # What is left waiting

An interrupt of the serial port takes all bytes out of the FIFO and puts them into the queue, but
it carries out one message only, and there is no other occasion to decode. The line is kept up
with as long as no batch completes two messages, and as long as the queue has room for it.

The two sides of the main result, `backlog_iff`, are `LeavesNothing`, which speaks of the state
after the interrupt, and `KeepsUp`, a condition on the bytes before it. `leavesNothing_iff`
compares them for one call: the queue keeps the first bytes of the batch (`Reads.pending`), all of
them if there is room (`Reads.lossless_iff`), and one message is taken (`Reads.left`). If there is
no room the queue is full afterwards, which is more than one message needs: `splitGame_append`
shows that what has been dropped has no part in it. -/

namespace AirHockey

/-- What is decoded is not changed by what follows. -/
theorem splitGame_append {bytes rest : List UInt8} {item : Item}
    (h : splitGame bytes = some (item, rest)) (more : List UInt8) :
    splitGame (bytes ++ more) = some (item, rest ++ more) := by
  rcases bytes with _ | ⟨b₀, _ | ⟨b₁, bytes⟩⟩
  · cases h
  · cases h
  · by_cases hsignal : word b₀ b₁ = signal1
    · rw [splitGame_leave hsignal] at h
      cases h
      exact splitGame_leave hsignal
    -- four bytes at least are there, since a message has been decoded
    · rcases bytes with _ | ⟨c₀, _ | ⟨c₁, bytes⟩⟩
      · simp [splitGame, hsignal] at h
      · simp [splitGame, hsignal] at h
      · rw [splitGame_payload hsignal] at h
        cases h
        exact splitGame_payload hsignal

/-- Four bytes are enough for a message. -/
theorem splitGame_isSome {bytes : List UInt8} (h : 4 ≤ bytes.length) :
    ∃ item rest, splitGame bytes = some (item, rest) := by
  rcases bytes with _ | ⟨b₀, _ | ⟨b₁, _ | ⟨c₀, _ | ⟨c₁, bytes⟩⟩⟩⟩
  any_goals simp at h
  by_cases hsignal : word b₀ b₁ = signal1
  · exact ⟨_, _, splitGame_leave hsignal⟩
  · exact ⟨_, _, splitGame_payload hsignal⟩

namespace Pc

/-- The bytes `bytes`, all that have arrived, are read during a game. -/
structure Reads (s : Pc) (i : Input) (iir : Option UInt8) (bytes : List UInt8) : Prop where
  input : i = .interrupt (.serial iir)
  game : s.mainState = .game
  announced : Receiver.dataAnnounced iir = true
  fifo : s.receiver.fifo = bytes.map RxSlot.clean

/-- If the game goes on, then no complete message waits and no byte has been dropped. -/
def LeavesNothing (s : Pc) (i : Input) : Prop :=
  ∀ iir bytes, s.Reads i iir bytes → (s.spInt iir).mainState = .game →
    splitGame (s.spInt iir).receiver.pending = none ∧
      (s.receiver.spIh iir).inQueue.toList = s.receiver.inQueue.toList ++ bytes

/-- The other PC leaves the game; or there is room for the batch, and it completes one message at
most. -/
def KeepsUp (s : Pc) (i : Input) : Prop :=
  ∀ iir bytes, s.Reads i iir bytes →
    (∃ rest, splitGame (s.receiver.pending ++ bytes) = some (.leave, rest)) ∨
    (s.receiver.inQueue.size + bytes.length ≤ 100 ∧ ∀ item rest,
      splitGame (s.receiver.pending ++ bytes) = some (item, rest) → splitGame rest = none)

section

variable {s : Pc} {i : Input} {iir : Option UInt8} {bytes : List UInt8} (h : s.Reads i iir bytes)
include h

/-- The bytes that the queue has room for are pending. -/
theorem Reads.pending (hsound : s.receiver.Sound) : (s.receiver.spIh iir).pending =
    s.receiver.pending ++ bytes.take (100 - s.receiver.inQueue.size) := by
  -- the queue takes what it has room for, behind what is pending
  rw [Receiver.spIh_clean h.fifo h.announced, Receiver.pending, Queue.toList_enqueueAll_take,
    hsound.capacity, ← List.append_assoc]
  rfl

theorem Reads.lossless_iff (hsound : s.receiver.Sound) :
    (s.receiver.spIh iir).inQueue.toList = s.receiver.inQueue.toList ++ bytes ↔
      s.receiver.inQueue.size + bytes.length ≤ 100 := by
  rw [Receiver.spIh_clean h.fifo h.announced, ← hsound.capacity]
  exact Queue.toList_enqueueAll_iff

/-- The game goes on unless the other PC leaves it. -/
theorem Reads.game_iff (hsound : s.receiver.Sound) : (s.spInt iir).mainState = .game ↔
    ¬∃ rest, splitGame (s.receiver.spIh iir).pending = some (.leave, rest) := by
  obtain ⟨r, -, hcall⟩ := spGame_eq (s := { s with receiver := s.receiver.spIh iir })
    (hsound.spIh iir).storedX_lt
  rw [spInt_of_game h.game]
  cases hsplit : splitGame (s.receiver.spIh iir).pending with
  | none =>
      rw [hsplit] at hcall
      rw [hcall.1]
      exact iff_of_true h.game (by simp)
  | some taken =>
      obtain ⟨item, rest⟩ := taken
      rw [hsplit] at hcall
      cases item with
      | leave =>
          rw [hcall.1]
          -- leaving is the one item that ends the game
          exact iff_of_false nofun fun hno => hno ⟨rest, rfl⟩
      | payload e =>
          rw [hcall.1]
          exact iff_of_true h.game (by simp)

/-- One message is taken. -/
theorem Reads.left (hsound : s.receiver.Sound) (hgame : (s.spInt iir).mainState = .game) :
    splitGame (s.spInt iir).receiver.pending = none ↔ ∀ item rest,
      splitGame (s.receiver.spIh iir).pending = some (item, rest) → splitGame rest = none := by
  have hstays := (h.game_iff hsound).mp hgame
  obtain ⟨r, -, hcall⟩ := spGame_eq (s := { s with receiver := s.receiver.spIh iir })
    (hsound.spIh iir).storedX_lt
  rw [spInt_of_game h.game]
  cases hsplit : splitGame (s.receiver.spIh iir).pending with
  | none =>
      rw [hsplit] at hcall
      rw [hcall.1]
      refine iff_of_true ?_ nofun
      show splitGame r.pending = none
      rw [hcall.2]
      exact hsplit
  | some taken =>
      obtain ⟨item, rest⟩ := taken
      rw [hsplit] at hcall
      cases item with
      | leave => exact absurd ⟨rest, hsplit⟩ hstays
      | payload e =>
          rw [hcall.1]
          show splitGame r.pending = none ↔ _
          rw [hcall.2.2]
          constructor
          · rintro hnone _ _ ⟨⟩
            exact hnone
          · intro hone
            exact hone _ _ rfl

end

/-- **One call.** -/
theorem leavesNothing_iff {s : Pc} (hsound : s.receiver.Sound) (i : Input) :
    s.LeavesNothing i ↔ s.KeepsUp i := by
  apply forall_congr'
  intro iir
  apply forall_congr'
  intro bytes
  apply imp_congr_right
  intro h
  have hpending := h.pending hsound
  rw [h.lossless_iff hsound]
  by_cases hfits : s.receiver.inQueue.size + bytes.length ≤ 100
  -- there is room, so the bytes that are pending are the old ones and the batch
  · rw [List.take_of_length_le (by omega)] at hpending
    rw [← hpending]
    by_cases hleave : ∃ rest, splitGame (s.receiver.spIh iir).pending = some (.leave, rest)
    · refine iff_of_true (fun hgame => ?_) (.inl hleave)
      exact absurd hleave ((h.game_iff hsound).mp hgame)
    · have hgame := (h.game_iff hsound).mpr hleave
      rw [h.left hsound hgame]
      constructor
      · intro hnone
        exact .inr ⟨hfits, (hnone hgame).1⟩
      · rintro (hleave' | ⟨-, hone⟩) -
        · exact absurd hleave' hleave
        · exact ⟨hone, hfits⟩
  · -- the queue is full afterwards, so that there is a message to decode
    have hlong : 4 ≤ (s.receiver.spIh iir).pending.length := by
      rw [hpending, List.length_append, Receiver.length_pending, List.length_take]
      omega
    obtain ⟨item, rest, hsplit⟩ := splitGame_isSome hlong
    have hwhole : splitGame (s.receiver.pending ++ bytes) =
        some (item, rest ++ bytes.drop (100 - s.receiver.inQueue.size)) := by
      have := splitGame_append hsplit (bytes.drop (100 - s.receiver.inQueue.size))
      rwa [hpending, List.append_assoc, List.take_append_drop] at this
    rw [hwhole, h.game_iff hsound, hsplit]
    cases item with
    | leave =>
        refine iff_of_true (fun hno => absurd ⟨rest, rfl⟩ hno) (.inl ⟨_, rfl⟩)
    | payload e =>
        -- a byte has been dropped, which neither side allows
        refine iff_of_false (fun himp => hfits (himp (by simp)).2) ?_
        rintro (⟨rest', hleave⟩ | ⟨hroom, -⟩)
        · cases hleave
        · exact hfits hroom

end Pc

/-- **When nothing is left waiting**: as long as every batch leaves room for one message, and no
more than one is completed. In every run the two come to the same, input by input. -/
theorem backlog_iff (S : Setup) (es : List Input) :
    (Transition.Along Pc.step Pc.LeavesNothing (init S) es ↔
      Transition.Along Pc.step Pc.KeepsUp (init S) es) ∧
    ∀ s, Transition.run Pc.step (init S) es = some s →
      ∀ i, s.LeavesNothing i ↔ s.KeepsUp i := by
  have hkeep : ∀ (s : Pc) (i : Input) (s' : Pc), s.receiver.Sound → s.step i = some s' →
      s'.receiver.Sound := fun _ _ _ h hstep => (Pc.step_sound h hstep).1
  constructor
  -- the two conditions agree in every state, so they agree along every run
  · exact Transition.along_congr (fun s : Pc => s.receiver.Sound) hkeep
      (fun _ i hsound => Pc.leavesNothing_iff hsound i) (sound_init S)
  · intro s hrun
    exact Pc.leavesNothing_iff (Pc.run_sound (sound_init S) hrun).1

/-- Two displacements in one batch. -/
def twoAtOnce : List UInt8 := [1, 0, 0, 0, 2, 0, 0, 0]

/-- The second displacement stays in the queue. -/
theorem backlog_grows :
    ∃ s, Transition.run Pc.step (init Setup.standard)
        (received [0, 0x10] ++ [.arrive (twoAtOnce.map RxSlot.clean)]) = some s ∧
      (s.spInt (some iirIntId)).mainState = .game ∧
      (s.spInt (some iirIntId)).receiver.pending = [2, 0, 0, 0] ∧
      ¬s.LeavesNothing (.interrupt (.serial (some iirIntId))) := by
  have hreach : ∃ s, Transition.run Pc.step (init Setup.standard) (received [0, 0x10]) = some s ∧
      (s.mainState = .game ∧ s.receiver.fifo.isEmpty = true) ∧
      ((s.receive (twoAtOnce.map RxSlot.clean)).spInt (some iirIntId)).mainState = .game ∧
      ((s.receive (twoAtOnce.map RxSlot.clean)).spInt (some iirIntId)).receiver.pending =
        [2, 0, 0, 0] :=
    Transition.reaches_of_any (by decide +kernel)
  obtain ⟨s, hrun, ⟨hgame, hempty⟩, hgame', hpending⟩ := hreach
  have hfifo : s.receiver.fifo ++ twoAtOnce.map RxSlot.clean = twoAtOnce.map RxSlot.clean := by
    rw [List.isEmpty_iff.mp hempty, List.nil_append]
  refine ⟨s.receive (twoAtOnce.map RxSlot.clean), ?_, hgame', hpending, fun h => ?_⟩
  · exact (Transition.run_snoc_eq_some Pc.step).mpr ⟨s, hrun, rfl⟩
  · obtain ⟨hnone, -⟩ := h (some iirIntId) twoAtOnce ⟨rfl, hgame, by decide, hfifo⟩ hgame'
    rw [hpending] at hnone
    revert hnone
    decide

end AirHockey
