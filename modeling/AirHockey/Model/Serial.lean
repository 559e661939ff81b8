import AirHockey.Model.Decoding
import AirHockey.Model.Steps

/-! # What a call of `sp_int` can do

The counterpart of the outcomes of a key: first up to the receiver, whatever arrives, and then
with it, on a line without errors and with a UART that accepts every write. There a call takes
words off the front of the bytes that have arrived, wherever these are — in the FIFO, in the queue
or in `stored_x`.

`spInt_outcome` is the first list, `spInt_step` the second. The second one is proved for each mode
on a receiver whose FIFO has been read (`spMenu_step`, `spGame_step`) and carried over by what is
waiting (`SerialStep.of_waiting`), for reading the FIFO changes only where the bytes are. -/

namespace AirHockey

namespace Receiver

/-- The bytes in the receive FIFO. -/
def fifoBytes (r : Receiver) : List UInt8 := r.fifo.filterMap RxSlot.data

/-- The bytes that have arrived and have not been used, oldest first. -/
def waiting (r : Receiver) : List UInt8 := r.pending ++ r.fifoBytes

/-- The receiver of a healthy machine. -/
structure Healthy (r : Receiver) : Prop where
  sound : r.Sound
  fifo : r.fifo = r.fifoBytes.map RxSlot.clean
  fcr : r.fcr = []

theorem fifoBytes_of_eq {r : Receiver} {bytes : List UInt8} (h : r.fifo = bytes.map RxSlot.clean) :
    r.fifoBytes = bytes := by
  rw [fifoBytes, h, List.filterMap_map]
  exact List.filterMap_some

theorem waiting_of_not_stored {r : Receiver} (h : r.isStoredX = false) :
    r.waiting = r.inQueue.toList ++ r.fifoBytes := by
  rw [waiting, pending_of_not_stored h]

namespace Healthy

variable {r : Receiver}

/-- The FIFO in other words. -/
theorem of_fifo (hsound : r.Sound) (bytes : List UInt8) (hfifo : r.fifo = bytes.map RxSlot.clean)
    (hfcr : r.fcr = []) : r.Healthy :=
  ⟨hsound, by rw [fifoBytes_of_eq hfifo]; exact hfifo, hfcr⟩

/-- A byte arrives. -/
theorem arrive (h : r.Healthy) (b : UInt8) :
    Healthy { r with fifo := r.fifo ++ [RxSlot.clean b] } ∧
      waiting { r with fifo := r.fifo ++ [RxSlot.clean b] } = r.waiting ++ [b] := by
  have hfifo : r.fifo ++ [RxSlot.clean b] = (r.fifoBytes ++ [b]).map RxSlot.clean := by
    rw [List.map_append, ← h.fifo]
    rfl
  refine ⟨of_fifo ⟨h.sound.capacity, h.sound.storedX_lt⟩ _ hfifo h.fcr, ?_⟩
  show r.pending ++ fifoBytes _ = r.pending ++ r.fifoBytes ++ [b]
  rw [fifoBytes_of_eq hfifo, List.append_assoc]

/-- Bytes are moved from the FIFO to the queue. -/
theorem spIh (h : r.Healthy) {iir : Option UInt8}
    (hroom : dataAnnounced iir = true → r.inQueue.size + r.fifo.length ≤ 100) :
    (r.spIh iir).Healthy ∧ (r.spIh iir).waiting = r.waiting := by
  -- with nothing announced the FIFO is not read
  cases hiir : dataAnnounced iir with
  | false =>
      rw [spIh_quiet hiir]
      exact ⟨h, rfl⟩
  | true =>
      have hlen : r.fifo.length = r.fifoBytes.length := by
        conv_lhs => rw [h.fifo, List.length_map]
      have hfits : r.inQueue.size + r.fifoBytes.length ≤ r.inQueue.capacity := by
        rw [h.sound.capacity, ← hlen]
        exact hroom hiir
      rw [spIh_clean h.fifo hiir]
      refine ⟨of_fifo ⟨?_, h.sound.storedX_lt⟩ [] rfl h.fcr, ?_⟩
      · exact (Queue.capacity_enqueueAll _ _).trans h.sound.capacity
      · show (if r.isStoredX then wordBytes r.storedX else []) ++
            (r.inQueue.enqueueAll r.fifoBytes).toList ++ [] = r.waiting
        rw [Queue.toList_enqueueAll hfits, List.append_nil, ← List.append_assoc]
        rfl

/-- A reset throws away everything but the stored word. -/
theorem serialPortResetFIFO (h : r.Healthy) :
    r.serialPortResetFIFO.Healthy ∧ r.serialPortResetFIFO.isStoredX = r.isStoredX ∧
      (r.isStoredX = false → r.serialPortResetFIFO.waiting = []) := by
  refine ⟨?_, ?_, fun hs => ?_⟩
  · refine of_fifo h.sound.serialPortResetFIFO [] ?_ ?_
    all_goals rw [serialPortResetFIFO_idle h.fcr]
    · rfl
    · exact h.fcr
  · rw [serialPortResetFIFO_idle h.fcr]
  · have hs' : r.serialPortResetFIFO.isStoredX = false := by
      rw [serialPortResetFIFO_idle h.fcr]
      exact hs
    -- no word is stored, so what waits is the empty queue and the empty FIFO
    rw [waiting_of_not_stored hs', serialPortResetFIFO_idle h.fcr]
    show (r.inQueue.drain r.inQueue.size).toList ++ [] = []
    rw [Queue.toList_drain, List.append_nil]

end Healthy

end Receiver

namespace Pc

/-- The game that a start word begins: nothing has arrived yet, and the other PC is the main one. -/
def startedBy (r : Receiver) (s : Pc) : Pc :=
  let s := { s with receiver := r, mainState := .game }.resetGameState
  { s with table := { s.table with isMainPc := false } }

/-! ## Whatever arrives -/

/-- What a call during a game decodes. -/
def nextItem (iir : Option UInt8) (s : Pc) : Option Item :=
  (splitGame (s.receiver.spIh iir).pending).map Prod.fst

/-- The outcomes of `sp_int` up to the receiver. -/
inductive Outcome (iir : Option UInt8) (s : Pc) : Pc → Prop where
  | idle (r : Receiver) : Outcome iir s { s with receiver := r }
  | start (r : Receiver) (hmode : s.mainState = .mainMenu) : Outcome iir s (s.startedBy r)
  | leave (r : Receiver) (hmode : s.mainState = .game) :
      Outcome iir s { s with receiver := r, mainState := .mainMenu }
  | payload (r : Receiver) (e : Effect) (hmode : s.mainState = .game)
      (hitem : s.nextItem iir = some (.payload e)) :
      Outcome iir s ({ s with receiver := r }.perform e)

theorem spInt_outcome {s : Pc} (h : s.receiver.Sound) (iir : Option UInt8) :
    Outcome iir s (s.spInt iir) := by
  unfold spInt
  split
  · next hmode =>
      unfold spMenu
      split
      · exact .idle _
      · dsimp only
        split
        · exact .start _ hmode
        · exact .idle _
  · next hmode =>
      obtain ⟨r, -, hcall⟩ := spGame_eq (s := { s with receiver := s.receiver.spIh iir })
        (h.spIh iir).storedX_lt
      -- in a game the decoder on the bytes that are pending says what happens
      cases hsplit : splitGame (s.receiver.spIh iir).pending with
      | none =>
          simp only [hsplit] at hcall
          rw [hcall.1]
          exact .idle r
      | some taken =>
          obtain ⟨item, rest⟩ := taken
          have hitem : s.nextItem iir = some item := by
            rw [nextItem, hsplit]
            rfl
          cases item with
          | leave =>
              simp only [hsplit] at hcall
              rw [hcall.1]
              exact .leave r hmode
          | payload e =>
              simp only [hsplit] at hcall
              rw [hcall.1]
              exact .payload r e hmode hitem
  · exact .idle s.receiver

/-! ## On a healthy machine -/

/-- The word that the call looks at first. -/
def tempX (iir : Option UInt8) (s : Pc) : Option Nat :=
  match s.mainState with
  | .mainMenu => (s.receiver.spIh iir).readNextSignal.map Prod.fst
  | .game => (nextTempX (s.receiver.spIh iir)).map Prod.fst
  | _ => none

/-- The call takes the branch `temp_x == signal1`. -/
def TakesSignal (iir : Option UInt8) (s : Pc) : Prop := s.tempX iir = some signal1

instance (iir : Option UInt8) (s : Pc) : Decidable (s.TakesSignal iir) :=
  inferInstanceAs (Decidable (_ = _))

/-- In the menu, a call that does not take the branch changes nothing but the receiver. -/
theorem spInt_of_not_takesSignal {iir : Option UInt8} {s : Pc} (hmode : s.mainState = .mainMenu)
    (hnot : ¬s.TakesSignal iir) : ∃ r, s.spInt iir = { s with receiver := r } := by
  have hword : (s.receiver.spIh iir).readNextSignal.map Prod.fst ≠ some signal1 := by
    unfold TakesSignal tempX at hnot
    rwa [hmode] at hnot
  have hcall : s.spInt iir = spMenu { s with receiver := s.receiver.spIh iir } := by
    rw [spInt, hmode]
  rw [hcall]
  unfold spMenu
  cases hread : (s.receiver.spIh iir).readNextSignal with
  | none => exact ⟨_, rfl⟩
  | some taken =>
      rw [hread] at hword
      dsimp only
      rw [if_neg fun hsignal => hword (congrArg some hsignal)]
      exact ⟨_, rfl⟩

/-- The outcomes of `sp_int`; `r` is the receiver afterwards, and `F` is what is known of a call
that flushes. -/
inductive SerialStep (F : Prop) (s : Pc) (r : Receiver) : Pc → Prop where
  | idle (hwaiting : r.waiting = s.receiver.waiting)
      (hstored : s.mainState ≠ .game → r.isStoredX = s.receiver.isStoredX) :
      SerialStep F s r { s with receiver := r }
  | drop (w : Nat) (hmode : s.mainState = .mainMenu) (hw : w < 65536) (hsignal : w ≠ signal1)
      (hwaiting : s.receiver.waiting = wordBytes w ++ r.waiting) (hstored : r.isStoredX = false) :
      SerialStep F s r { s with receiver := r }
  | start (bytes : List UInt8) (hmode : s.mainState = .mainMenu)
      (hwaiting : s.receiver.waiting = wordBytes signal1 ++ bytes) (hflushed : r.waiting = [])
      (hstored : r.isStoredX = false) (hflush : F) : SerialStep F s r (s.startedBy r)
  | leave (hmode : s.mainState = .game)
      (hwaiting : s.receiver.waiting = wordBytes signal1 ++ r.waiting)
      (hstored : r.isStoredX = false) :
      SerialStep F s r { s with receiver := r, mainState := .mainMenu }
  | payload (x y : Nat) (hmode : s.mainState = .game) (hx : x < 65536) (hy : y < 65536)
      (hsignal : x ≠ signal1)
      (hwaiting : s.receiver.waiting = wordBytes x ++ wordBytes y ++ r.waiting)
      (hstored : r.isStoredX = false) :
      SerialStep F s r ({ s with receiver := r }.perform (payloadEffect x y))

/-- In the menu: words are looked at one by one. -/
theorem spMenu_step {s : Pc} (hmode : s.mainState = .mainMenu) (h : s.receiver.Healthy)
    (hstored : s.receiver.isStoredX = false) :
    ∃ r : Receiver, r.Healthy ∧
      SerialStep (s.receiver.readNextSignal.map Prod.fst = some signal1) s r s.spMenu := by
  unfold spMenu
  cases hread : s.receiver.readNextSignal with
  | none => exact ⟨s.receiver, h, .idle rfl fun _ => rfl⟩
  | some taken =>
      -- two bytes are taken off the queue, and they are the word
      obtain ⟨w, u⟩ := taken
      obtain ⟨b₀, b₁, bs, hlist⟩ := Receiver.toList_cons_of_readNextSignal hread
      obtain ⟨q, hq, hqlist, hcap⟩ := Receiver.readNextSignal_cons hlist
      rw [hread] at hq
      obtain ⟨rfl, rfl⟩ := Prod.mk.inj (Option.some.inj hq)
      have hrest : Receiver.Healthy { s.receiver with inQueue := q } :=
        ⟨⟨hcap.trans h.sound.capacity, h.sound.storedX_lt⟩, h.fifo, h.fcr⟩
      have hwaiting : s.receiver.waiting = wordBytes (word b₀ b₁) ++
          Receiver.waiting { s.receiver with inQueue := q } := by
        have hu := Receiver.waiting_of_not_stored (r := { s.receiver with inQueue := q }) hstored
        rw [Receiver.waiting_of_not_stored hstored, hlist, wordBytes_word, hu, hqlist]
        rfl
      dsimp only
      -- the word that starts a game throws away everything behind it
      by_cases hsignal : word b₀ b₁ = signal1
      · rw [if_pos hsignal]
        rw [hsignal] at hwaiting
        obtain ⟨hhealthy, hkept, hflushed⟩ := hrest.serialPortResetFIFO
        exact ⟨_, hhealthy, .start _ hmode hwaiting (hflushed hstored) (hkept.trans hstored)
          (congrArg some hsignal)⟩
      · rw [if_neg hsignal]
        exact ⟨_, hrest, .drop _ hmode (word_lt b₀ b₁) hsignal hwaiting hstored⟩

/-- In a game: a message at a time. -/
theorem spGame_step (F : Prop) {s : Pc} (hmode : s.mainState = .game) (h : s.receiver.Healthy) :
    ∃ r : Receiver, r.Healthy ∧ SerialStep F s r s.spGame := by
  obtain ⟨r, htook, hcall⟩ := spGame_eq (s := s) h.sound.storedX_lt
  have hhealthy : r.Healthy := by
    have hsound : r.Sound := ⟨htook.capacity.trans h.sound.capacity, htook.storedX_lt⟩
    refine .of_fifo hsound s.receiver.fifoBytes ?_ (htook.fcr.trans h.fcr)
    exact htook.fifo.trans h.fifo
  have hbytes : r.fifoBytes = s.receiver.fifoBytes := by
    rw [Receiver.fifoBytes, htook.fifo]
    rfl
  refine ⟨r, hhealthy, ?_⟩
  cases hsplit : splitGame s.receiver.pending with
  | none =>
      rw [hsplit] at hcall
      rw [hcall.1]
      refine .idle ?_ fun hne => absurd hmode hne
      rw [Receiver.waiting, Receiver.waiting, hcall.2, hbytes]
  | some taken =>
      obtain ⟨item, rest⟩ := taken
      rw [hsplit] at hcall
      -- the words that the item was decoded from
      rcases hp : s.receiver.pending with _ | ⟨b₀, _ | ⟨b₁, bs⟩⟩
      · simp [hp, splitGame] at hsplit
      · simp [hp, splitGame] at hsplit
      · rw [hp] at hsplit
        by_cases hsignal : word b₀ b₁ = signal1
        · rw [splitGame_leave hsignal] at hsplit
          obtain ⟨rfl, rfl⟩ := Prod.mk.inj (Option.some.inj hsplit)
          obtain ⟨hs', hstored, hrest⟩ := hcall
          rw [hs']
          refine .leave hmode ?_ hstored
          rw [Receiver.waiting, Receiver.waiting, hp, hrest, hbytes, ← hsignal, wordBytes_word]
          rfl
        -- a payload needs two words; with fewer bytes nothing is decoded
        · rcases bs with _ | ⟨c₀, _ | ⟨c₁, bs⟩⟩
          · rw [splitGame_half hsignal (by simp)] at hsplit
            cases hsplit
          · rw [splitGame_half hsignal (by simp)] at hsplit
            cases hsplit
          · rw [splitGame_payload hsignal] at hsplit
            obtain ⟨rfl, rfl⟩ := Prod.mk.inj (Option.some.inj hsplit)
            obtain ⟨hs', hstored, hrest⟩ := hcall
            rw [hs']
            refine .payload _ _ hmode (word_lt b₀ b₁) (word_lt c₀ c₁) hsignal ?_ hstored
            rw [Receiver.waiting, Receiver.waiting, hp, hrest, hbytes, wordBytes_word,
              wordBytes_word]
            rfl

/-- The call reads the serial port and has room for what has arrived. -/
def SerialFits (s : Pc) (iir : Option UInt8) : Prop :=
  (s.mainState = .mainMenu ∨ s.mainState = .game) → Receiver.dataAnnounced iir = true →
    s.receiver.inQueue.size + s.receiver.fifo.length ≤ 100

instance (s : Pc) (iir : Option UInt8) : Decidable (s.SerialFits iir) :=
  inferInstanceAs (Decidable (_ ∨ _ → _ → _))

/-- The outcomes do not depend on whether the FIFO has been read. -/
theorem SerialStep.of_waiting {F G : Prop} (hF : F → G) {s : Pc} {u r : Receiver} {s' : Pc}
    (hwaiting : u.waiting = s.receiver.waiting) (hstored : u.isStoredX = s.receiver.isStoredX)
    (h : SerialStep F { s with receiver := u } r s') : SerialStep G s r s' := by
  cases h with
  | idle hw hs => exact .idle (hw.trans hwaiting) fun hm => (hs hm).trans hstored
  | drop w hm hw hsig hwait hs => exact .drop w hm hw hsig (hwaiting.symm.trans hwait) hs
  | start bytes hm hwait hempty hs hf =>
      exact .start bytes hm (hwaiting.symm.trans hwait) hempty hs (hF hf)
  | leave hm hwait hs => exact .leave hm (hwaiting.symm.trans hwait) hs
  | payload x y hm hx hy hsig hwait hs =>
      exact .payload x y hm hx hy hsig (hwaiting.symm.trans hwait) hs

/-- The branch is taken on the first word that is waiting. -/
theorem TakesSignal.waiting {iir : Option UInt8} {s : Pc} (h : s.receiver.Healthy)
    (hstored : s.mainState = .mainMenu → s.receiver.isStoredX = false)
    (hroom : s.SerialFits iir) (htakes : s.TakesSignal iir) :
    ∃ bytes, s.receiver.waiting = wordBytes signal1 ++ bytes := by
  have hread : ∀ u : Receiver, u.readNextSignal.map Prod.fst = some signal1 →
      ∃ bytes, u.inQueue.toList = wordBytes signal1 ++ bytes := by
    intro u hu
    obtain ⟨⟨w, v⟩, huv, hw⟩ := Option.map_eq_some_iff.mp hu
    obtain rfl : w = signal1 := hw
    obtain ⟨b₀, b₁, bs, hlist⟩ := Receiver.toList_cons_of_readNextSignal huv
    obtain ⟨q, hq, -⟩ := Receiver.readNextSignal_cons hlist
    have hword := (Prod.mk.inj (Option.some.inj (hq.symm.trans huv))).1
    exact ⟨bs, by rw [hlist, ← hword, wordBytes_word]; rfl⟩
  have hkept := (Receiver.spIh_frame iir s.receiver).2.2
  unfold TakesSignal tempX at htakes
  split at htakes
  · next hmode =>
      obtain ⟨-, hwaiting⟩ := h.spIh (hroom (.inl hmode))
      obtain ⟨bytes, hbytes⟩ := hread _ htakes
      rw [← hwaiting, Receiver.waiting_of_not_stored (hkept.trans (hstored hmode)), hbytes]
      exact ⟨_, List.append_assoc ..⟩
  -- the stored word comes first, and without it the queue
  · next hmode =>
      obtain ⟨-, hwaiting⟩ := h.spIh (hroom (.inr hmode))
      rw [← hwaiting, Receiver.waiting, Receiver.pending]
      unfold nextTempX at htakes
      split at htakes
      · next hs =>
          have hword : (s.receiver.spIh iir).storedX = signal1 := Option.some.inj htakes
          rw [if_pos hs, hword, List.append_assoc]
          exact ⟨_, rfl⟩
      · next hs =>
          obtain ⟨bytes, hbytes⟩ := hread _ htakes
          rw [if_neg hs, List.nil_append, hbytes]
          exact ⟨_, List.append_assoc ..⟩
  · cases htakes

/-- **What a call of `sp_int` can do.** -/
theorem spInt_step {s : Pc} (h : s.receiver.Healthy)
    (hstored : s.mainState = .mainMenu → s.receiver.isStoredX = false) {iir : Option UInt8}
    (hroom : s.SerialFits iir) :
    ∃ r : Receiver, r.Healthy ∧ SerialStep (s.TakesSignal iir) s r (s.spInt iir) := by
  have hkept := (Receiver.spIh_frame iir s.receiver).2.2
  unfold spInt
  split
  · next hmode =>
      obtain ⟨hhealthy, hwaiting⟩ := h.spIh (hroom (.inl hmode))
      obtain ⟨r, hr, hstep⟩ := spMenu_step (s := { s with receiver := s.receiver.spIh iir }) hmode
        hhealthy (hkept.trans (hstored hmode))
      have htakes : (s.receiver.spIh iir).readNextSignal.map Prod.fst = some signal1 →
          s.TakesSignal iir := by
        unfold TakesSignal tempX
        rw [hmode]
        exact id
      exact ⟨r, hr, hstep.of_waiting htakes hwaiting hkept⟩
  · next hmode =>
      obtain ⟨hhealthy, hwaiting⟩ := h.spIh (hroom (.inr hmode))
      obtain ⟨r, hr, hstep⟩ := spGame_step (s.TakesSignal iir)
        (s := { s with receiver := s.receiver.spIh iir }) hmode hhealthy
      exact ⟨r, hr, hstep.of_waiting id hwaiting hkept⟩
  · exact ⟨s.receiver, h, .idle rfl fun _ => rfl⟩

end Pc

end AirHockey
