import AirHockey.Model.Decoding
import AirHockey.Model.Standard

/-! # The serial stream, from `transmit_*` to `sp_int`

What one PC writes with `transmit_puck_change` and `transmit_ball_speed` arrives at the other in
batches of any size, each followed by one call of `sp_int`. The messages are read back in order,
one per call, and at every point the bytes that the receiver holds and the bytes still to come are
exactly the messages not yet acted upon.

`decodes_wire` shows the two laws of the library's framing for the decoder and the encoder of the
program. `run_batch` is one batch and one call, `run_batches` the induction on the batches: a run
does what the reader of the library makes of the stream. `stream_roundtrip` puts the sender in
front, with `feed_prefix` after any number of batches and `feed_all` once everything has
arrived. -/

namespace AirHockey

namespace Message

/-- A message that the decoder can tell from the control words: the first word of a displacement
is neither of them, and a velocity fits its bytes. -/
def Wellformed : Message → Prop
  | .signal => True
  | .puck dx _ => uint16 dx ≠ signal1 ∧ uint16 dx ≠ ballSignal
  | .ball vx vy => (-128 ≤ vx ∧ vx ≤ 127) ∧ -128 ≤ vy ∧ vy ≤ 127

/-- What a message is to the receiver: displacements are mirrored in `x`, velocities in both
components. -/
def item : Message → Item
  | .signal => .leave
  | .puck dx dy => .payload (.move (int16 (-dx)) (int16 dy))
  | .ball vx vy => .payload (.ballSpeed (-vx) (-vy))

end Message

/-- The first word of a message, as the receiver reads it. -/
theorem word_signal1 : word (uint8 signal1) (uint8 (signal1 / 256)) = signal1 := by decide

theorem word_ballSignal : word (uint8 ballSignal) (uint8 (ballSignal / 256)) = ballSignal := by
  decide

/-- A proper prefix of two bytes. -/
theorem length_lt_two_of_append {bs rest : List UInt8} {c₀ c₁ : UInt8}
    (h : bs ++ rest = [c₀, c₁]) (hrest : rest ≠ []) : bs.length < 2 := by
  have hlen := congrArg List.length h
  have hpos := List.length_pos_of_ne_nil hrest
  simp only [List.length_append, List.length_cons, List.length_nil] at hlen
  omega

/-- **The wire format.** The decoder of a game reads every well-formed message. -/
theorem decodes_wire :
    Framing.Decodes Message.encode splitGame Message.item Message.Wellformed where
  whole := by
    intro m rest hm
    cases m with
    | signal =>
        show splitGame (uint8 signal1 :: uint8 (signal1 / 256) :: rest) = _
        exact splitGame_leave word_signal1
    | puck dx dy =>
        show splitGame (uint8 dx :: uint8 (dx / 256) :: uint8 dy :: uint8 (dy / 256) :: rest) = _
        rw [splitGame_payload (by rw [word_uint8]; exact hm.1)]
        simp only [word_uint8, payloadEffect, if_neg hm.2, int16_neg_uint16, int16_uint16,
          Message.item]
    | ball vx vy =>
        show splitGame
          (uint8 ballSignal :: uint8 (ballSignal / 256) :: uint8 vx :: uint8 vy :: rest) = _
        rw [splitGame_payload (by decide), word_ballSignal]
        simp only [payloadEffect, if_true, int8_lo, int8_hi, int8_of_range hm.1.1 hm.1.2,
          int8_of_range hm.2.1 hm.2.2, Message.item]
  short := by
    intro m bs rest hm henc hrest
    -- fewer than two bytes are no word
    rcases bs with _ | ⟨b₀, _ | ⟨b₁, bs⟩⟩
    · rfl
    · rfl
    -- at least a word is there; of a payload message, not two
    · cases m with
      | signal =>
          simp only [Message.encode, Message.head, Message.tail, List.append_nil,
            List.cons_append, List.cons.injEq] at henc
          exact absurd (List.append_eq_nil_iff.mp henc.2.2.symm).2 hrest
      | puck dx dy =>
          simp only [Message.encode, Message.head, Message.tail, List.cons_append,
            List.nil_append, List.cons.injEq] at henc
          obtain ⟨rfl, rfl, htail⟩ := henc
          refine splitGame_half (by rw [word_uint8]; exact hm.1) ?_
          exact length_lt_two_of_append htail.symm hrest
      | ball vx vy =>
          simp only [Message.encode, Message.head, Message.tail, List.cons_append,
            List.nil_append, List.cons.injEq] at henc
          obtain ⟨rfl, rfl, htail⟩ := henc
          exact splitGame_half (by decide) (length_lt_two_of_append htail.symm hrest)
  empty := rfl

/-! ## One call of `sp_int` -/

namespace Receiver

/-- Reading a batch off the FIFO adds it to what is pending. -/
theorem pending_enqueueAll {r : Receiver} {bytes : List UInt8}
    (h : r.inQueue.size + bytes.length ≤ r.inQueue.capacity) :
    pending { r with fifo := [], inQueue := r.inQueue.enqueueAll bytes } = r.pending ++ bytes := by
  simp only [pending, Queue.toList_enqueueAll h, List.append_assoc]

end Receiver

namespace Pc

/-- `sp_int` during a game, on a FIFO of bytes received without error for which the queue has
room. -/
theorem spInt_game {s : Pc} {bytes : List UInt8} {iir : Option UInt8}
    (hgame : s.mainState = .game) (hlt : s.receiver.storedX < 65536)
    (hfifo : s.receiver.fifo = bytes.map RxSlot.clean)
    (hiir : Receiver.dataAnnounced iir = true)
    (hroom : s.receiver.inQueue.size + bytes.length ≤ s.receiver.inQueue.capacity) :
    ∃ r, Receiver.Took { s.receiver with fifo := [] } r ∧
      match splitGame (s.receiver.pending ++ bytes) with
      | none => s.spInt iir = { s with receiver := r } ∧ r.pending = s.receiver.pending ++ bytes
      | some (.leave, bs) =>
        s.spInt iir = { s with receiver := r, mainState := .mainMenu } ∧
          r.isStoredX = false ∧ r.pending = bs
      | some (.payload e, bs) =>
        s.spInt iir = { s with receiver := r }.perform e ∧ r.isStoredX = false ∧
          r.pending = bs := by
  have hread := Receiver.spIh_clean hfifo hiir
  have hpending := Receiver.pending_enqueueAll hroom
  have hint : s.spInt iir = spGame { s with receiver := s.receiver.spIh iir } := by
    rw [spInt, hgame]
  obtain ⟨r, htook, h⟩ := spGame_eq (s := { s with receiver := s.receiver.spIh iir })
    (by rw [hread]; exact hlt)
  rw [hread] at htook hint h
  rw [hint]
  simp only [hpending] at h
  refine ⟨r, ⟨htook.fifo, htook.fcr, ?_, htook.storedX_lt⟩, h⟩
  rw [htook.capacity, Queue.capacity_enqueueAll]

/-- A PC in a game whose FIFO is empty and whose queue is the one created at the start. -/
structure Reading (s : Pc) : Prop where
  game : s.mainState = .game
  fifo : s.receiver.fifo = []
  capacity : s.receiver.inQueue.capacity = 100
  storedX_lt : s.receiver.storedX < 65536

end Pc

/-! ## Batches -/

/-- A batch of bytes arrives, and the interrupt it raises is handled. -/
def batchInputs (batch : Option UInt8 × List UInt8) : List Input :=
  [.arrive (batch.2.map RxSlot.clean), .interrupt (.serial batch.1)]

/-- No more than 100 bytes are waiting in `inQueue` once the interrupt has read the FIFO. -/
def QueueFits (s : Pc) : Input → Prop
  | .interrupt (.serial _) => s.receiver.inQueue.size + s.receiver.fifo.length ≤ 100
  | _ => True

instance QueueFits.instDecidable (s : Pc) : ∀ i, Decidable (QueueFits s i)
  | .interrupt (.serial _) => inferInstanceAs (Decidable (_ ≤ _))
  | .interrupt .timer | .interrupt (.keyboard _) | .interrupt (.mouse _) | .arrive _ =>
    inferInstanceAs (Decidable True)

/-- One batch for which there is room. -/
theorem run_batch {s : Pc} (hs : s.Reading) {iir : Option UInt8} {bytes : List UInt8}
    (hiir : Receiver.dataAnnounced iir = true)
    (hroom : s.receiver.inQueue.size + bytes.length ≤ 100) :
    match splitGame (s.receiver.pending ++ bytes) with
    | none => ∃ s', Transition.run Pc.step s (batchInputs (iir, bytes)) = some s' ∧ s'.Reading ∧
        s'.table = s.table ∧ s'.applied = s.applied ∧
        s'.receiver.pending = s.receiver.pending ++ bytes
    | some (.payload e, rest) =>
      ∃ s', Transition.run Pc.step s (batchInputs (iir, bytes)) = some s' ∧ s'.Reading ∧
        s'.table = e.apply s.table ∧ s'.applied = s.applied ++ [e] ∧ s'.receiver.pending = rest
    | some (.leave, _) => True := by
  -- the batch arrives, then one call
  let t := s.receive (bytes.map RxSlot.clean)
  have htfifo : t.receiver.fifo = bytes.map RxSlot.clean := by
    show s.receiver.fifo ++ _ = _
    rw [hs.fifo, List.nil_append]
  have hroom' : t.receiver.inQueue.size + bytes.length ≤ t.receiver.inQueue.capacity := by
    rw [show t.receiver.inQueue.capacity = 100 from hs.capacity]
    exact hroom
  have hrun : Transition.run Pc.step s (batchInputs (iir, bytes)) = some (t.spInt iir) := rfl
  have hpending : t.receiver.pending = s.receiver.pending := rfl
  obtain ⟨r, htook, hcall⟩ := Pc.spInt_game (s := t) hs.game hs.storedX_lt htfifo hiir hroom'
  rw [hpending] at hcall
  rw [hrun]
  rcases hsplit : splitGame (s.receiver.pending ++ bytes) with _ | ⟨_ | e, rest⟩
  case none =>
      rw [hsplit] at hcall
      obtain ⟨hcall, hleft⟩ := hcall
      refine ⟨_, congrArg some hcall, ?_, rfl, rfl, hleft⟩
      exact ⟨hs.game, htook.fifo, htook.capacity.trans hs.capacity, htook.storedX_lt⟩
  case some.leave => trivial
  case some.payload =>
      rw [hsplit] at hcall
      obtain ⟨hcall, -, hleft⟩ := hcall
      refine ⟨_, congrArg some hcall, ?_, rfl, rfl, hleft⟩
      exact ⟨hs.game, htook.fifo, htook.capacity.trans hs.capacity, htook.storedX_lt⟩

/-- **`sp_int` is a reader of the wire format.** As long as the items are payload messages, a run
of it over batches does what they say and keeps what is left over. -/
theorem run_batches {batches : List (Option UInt8 × List UInt8)} {s : Pc} (hs : s.Reading)
    (hiir : ∀ b ∈ batches, Receiver.dataAnnounced b.1 = true)
    (hfits : Transition.Along Pc.step QueueFits s (batches.flatMap batchInputs)) {es : List Effect}
    (hes : (Framing.feed splitGame s.receiver.pending (batches.map Prod.snd)).1 =
      es.map Item.payload) :
    ∃ s', Transition.run Pc.step s (batches.flatMap batchInputs) = some s' ∧ s'.Reading ∧
      s'.table = es.foldl (fun t e => e.apply t) s.table ∧ s'.applied = s.applied ++ es ∧
      s'.receiver.pending =
        (Framing.feed splitGame s.receiver.pending (batches.map Prod.snd)).2 := by
  induction batches generalizing s es with
  | nil =>
      obtain rfl : es = [] := by simpa [Framing.feed] using hes
      exact ⟨s, rfl, hs, rfl, by simp, rfl⟩
  | cons b batches ih =>
      obtain ⟨iir, bytes⟩ := b
      have hiir' := fun c hc => hiir c (List.mem_cons_of_mem _ hc)
      have hroom : s.receiver.inQueue.size + bytes.length ≤ 100 := by
        have h := (hfits.2 _ rfl).1
        simpa only [QueueFits, Pc.receive, hs.fifo, List.nil_append, List.length_map] using h
      have hfirst := run_batch hs (hiir _ List.mem_cons_self) hroom
      rw [List.flatMap_cons] at hfits ⊢
      rw [List.map_cons] at hes ⊢
      rcases hsplit : splitGame (s.receiver.pending ++ bytes) with _ | ⟨_ | e, rest⟩
      -- the batch completes no message, and its bytes are pending for the next
      case cons.none =>
          rw [hsplit] at hfirst
          rw [Framing.feed_cons_none hsplit] at hes ⊢
          obtain ⟨t, ht, hread, htable, happlied, hpending⟩ := hfirst
          rw [← hpending] at hes
          obtain ⟨s', hs', hrest⟩ := ih hread hiir' (hfits.right ht) hes
          rw [htable, happlied, hpending] at hrest
          exact ⟨s', (Transition.run_append_eq_some _).mpr ⟨t, ht, hs'⟩, hrest⟩
      -- a start/leave word is no effect, and the items are effects only
      case cons.some.leave =>
          rw [Framing.feed_cons_some hsplit] at hes
          cases es <;> simp at hes
      case cons.some.payload =>
          rw [hsplit] at hfirst
          rw [Framing.feed_cons_some hsplit] at hes ⊢
          obtain ⟨es, rfl⟩ : ∃ es', es = e :: es' := by
            cases es with
            | nil => simp at hes
            | cons e' es' =>
                -- the first item of the stream is the first effect
                simp only [List.map_cons, List.cons.injEq, Item.payload.injEq] at hes
                exact ⟨es', by rw [hes.1]⟩
          simp only [List.map_cons, List.cons.injEq, true_and] at hes
          obtain ⟨t, ht, hread, htable, happlied, hpending⟩ := hfirst
          obtain ⟨s', hs', hread', htable', happlied', hpending'⟩ :=
            ih hread hiir' (hfits.right ht) (by rw [hpending]; exact hes)
          refine ⟨s', (Transition.run_append_eq_some _).mpr ⟨t, ht, hs'⟩, hread', ?_, ?_, ?_⟩
          · rw [htable', htable, List.foldl_cons]
          · rw [happlied', happlied, List.append_assoc, List.singleton_append]
          · rw [hpending', hpending]

/-- Calls with nothing new to read always have room. -/
theorem along_idle {iir : Option UInt8} (hiir : Receiver.dataAnnounced iir = true) {s : Pc}
    (hs : s.Reading) {n : Nat} {es : List Effect}
    (hes : (Framing.feed splitGame s.receiver.pending (List.replicate n [])).1 =
      es.map Item.payload) :
    Transition.Along Pc.step QueueFits s ((List.replicate n (iir, [])).flatMap batchInputs) := by
  induction n generalizing s es with
  | zero => trivial
  | succ n ih =>
      have hsize : s.receiver.inQueue.size ≤ 100 := hs.capacity ▸ s.receiver.inQueue.size_le
      have hfirst := run_batch hs hiir (show s.receiver.inQueue.size + [].length ≤ 100 from hsize)
      rw [List.replicate_succ] at hes ⊢
      rw [List.flatMap_cons]
      -- the first call has room, and the state it leads to is the one of `run_batch`
      suffices hrest : Transition.Along Pc.step QueueFits
          ((s.receive []).spInt iir) ((List.replicate n (iir, [])).flatMap batchInputs) by
        refine ⟨trivial, fun t ht => ⟨?_, fun u hu => ?_⟩⟩
        · cases ht
          simpa [QueueFits, Pc.receive, hs.fifo] using hsize
        · cases ht
          cases hu
          exact hrest
      rcases hsplit : splitGame (s.receiver.pending ++ []) with _ | ⟨_ | e, rest⟩
      case succ.none =>
          rw [hsplit] at hfirst
          rw [Framing.feed_cons_none hsplit] at hes
          obtain ⟨t, ht, hread, -, -, hpending⟩ := hfirst
          obtain rfl : (s.receive []).spInt iir = t := Option.some.inj ht
          rw [← hpending] at hes
          exact ih hread hes
      case succ.some.leave =>
          rw [Framing.feed_cons_some hsplit] at hes
          cases es <;> simp at hes
      case succ.some.payload =>
          rw [hsplit] at hfirst
          rw [Framing.feed_cons_some hsplit] at hes
          obtain ⟨t, ht, hread, -, -, hpending⟩ := hfirst
          obtain rfl : (s.receive []).spInt iir = t := Option.some.inj ht
          cases es with
          | nil => simp at hes
          | cons e' es' =>
              simp only [List.map_cons, List.cons.injEq] at hes
              rw [← hpending] at hes
              exact ih hread hes.2

/-! ## The sender -/

/-- A call that sends a payload message. -/
inductive Transmission where
  | puckChange (bluepuck : Sprite) (previousX previousY : Int)
  | ballSpeed (xSpeed ySpeed : Int)

namespace Transmission

def send (t : Transmitter) : Transmission → Transmitter
  | .puckChange bluepuck previousX previousY =>
    (t.transmitPuckChange bluepuck previousX previousY).1
  | .ballSpeed xSpeed ySpeed => t.transmitBallSpeed xSpeed ySpeed

def message : Transmission → Message
  | .puckChange bluepuck previousX previousY =>
    .puck (int16 (bluepuck.x - previousX)) (int16 (bluepuck.y - previousY))
  | .ballSpeed xSpeed ySpeed => .ball xSpeed ySpeed

/-- `move(redpuck, -dx, dy, 2)` or `Ball speed := (-vx, -vy)`. -/
def effect : Transmission → Effect
  | .puckChange bluepuck previousX previousY =>
    .move (int16 (-(bluepuck.x - previousX))) (int16 (bluepuck.y - previousY))
  | .ballSpeed xSpeed ySpeed => .ballSpeed (-xSpeed) (-ySpeed)

/-- The call writes a message (a puck that has not moved writes none), its first word is no control
word, and a velocity is in the range of its bytes. -/
def Valid : Transmission → Prop
  | .puckChange bluepuck previousX previousY =>
    ¬(bluepuck.x = previousX ∧ bluepuck.y = previousY) ∧
      uint16 (bluepuck.x - previousX) ≠ signal1 ∧ uint16 (bluepuck.x - previousX) ≠ ballSignal
  | .ballSpeed xSpeed ySpeed => (-128 ≤ xSpeed ∧ xSpeed ≤ 127) ∧ -128 ≤ ySpeed ∧ ySpeed ≤ 127

theorem wellformed_message {c : Transmission} (h : c.Valid) : c.message.Wellformed := by
  cases c with
  | puckChange bluepuck previousX previousY =>
      simpa only [message, Message.Wellformed, uint16_int16] using h.2
  | ballSpeed xSpeed ySpeed => exact h

theorem item_message (c : Transmission) : c.message.item = .payload c.effect := by
  cases c with
  -- narrowing, turning round and narrowing again is turning round and narrowing
  | puckChange bluepuck previousX previousY =>
      have hneg : ∀ n : Int, int16 (-int16 n) = int16 (-n) := by
        intro n
        unfold int16
        omega
      simp only [message, Message.item, effect, hneg, int16_int16]
  | ballSpeed xSpeed ySpeed => rfl

theorem send_idle {t : Transmitter} (h : t.slots = []) {c : Transmission} (hc : c.Valid) :
    (c.send t).slots = [] ∧ (c.send t).sent = t.sent ++ c.message.encode := by
  cases c with
  | puckChange bluepuck previousX previousY =>
      rw [send, Transmitter.transmitPuckChange_idle h hc.1]
      exact ⟨h, rfl⟩
  | ballSpeed xSpeed ySpeed =>
      rw [send, Transmitter.transmitBallSpeed_idle h]
      exact ⟨h, rfl⟩

/-- On an idle transmitter, calls put the encoding of their messages on the line. -/
theorem sent_foldl {t : Transmitter} (h : t.slots = []) {cs : List Transmission}
    (hcs : ∀ c ∈ cs, c.Valid) : (cs.foldl send t).sent = t.sent ++ encode (cs.map message) := by
  induction cs generalizing t with
  | nil => simp
  | cons c cs ih =>
      obtain ⟨hslots, hsent⟩ := send_idle h (hcs c List.mem_cons_self)
      rw [List.foldl_cons, ih hslots (fun d hd => hcs d (List.mem_cons_of_mem _ hd)), hsent,
        List.map_cons, encode_cons, List.append_assoc]

theorem wellformed_messages {cs : List Transmission} (hcs : ∀ c ∈ cs, c.Valid) :
    ∀ m ∈ cs.map message, m.Wellformed := by
  intro m hm
  obtain ⟨c, hc, rfl⟩ := List.mem_map.mp hm
  exact wellformed_message (hcs c hc)

theorem items_messages (cs : List Transmission) :
    (cs.map message).map Message.item = (cs.map effect).map Item.payload := by
  simp only [List.map_map, Function.comp_def, item_message]

/-- What the receiver makes of the first part of a stream are the effects of the first calls. -/
theorem feed_prefix {cs : List Transmission} (hcs : ∀ c ∈ cs, c.Valid) {buf : List UInt8}
    {pre : List (List UInt8)} {post : List UInt8}
    (hstream : buf ++ pre.flatten ++ post = encode (cs.map message)) :
    ∃ done rest, cs = done ++ rest ∧
      (Framing.feed splitGame buf pre).1 = (done.map effect).map Item.payload ∧
      (Framing.feed splitGame buf pre).2 ++ post = encode (rest.map message) := by
  obtain ⟨done, rest, hmsgs, hdone, hrest⟩ :=
    decodes_wire.feed_prefix (wellformed_messages hcs) hstream
  obtain ⟨done', rest', rfl, rfl, rfl⟩ := List.map_eq_append_iff.mp hmsgs
  exact ⟨done', rest', rfl, by rw [hdone, items_messages], hrest⟩

end Transmission

/-- **Decoding undoes encoding under every fragmentation.** The bytes that `cs` write arrive in
any batches. After every number of calls of `sp_int` the effects so far are those of a prefix of
`cs`, in order, and the bytes held by the receiver followed by the bytes still to arrive are what
the others write. Once all bytes have arrived, as many further calls as there are messages carry
out whatever is left. -/
theorem stream_roundtrip {cs : List Transmission} (hcs : ∀ c ∈ cs, c.Valid) {t : Transmitter}
    (hidle : t.slots = []) {batches : List (Option UInt8 × List UInt8)}
    (hiir : ∀ b ∈ batches, Receiver.dataAnnounced b.1 = true)
    (hstream : (cs.foldl Transmission.send t).sent = t.sent ++ (batches.map Prod.snd).flatten)
    {s : Pc} (hs : s.Reading) (hempty : s.receiver.inQueue.toList = [])
    (hstored : s.receiver.isStoredX = false)
    (hfits : Transition.Along Pc.step QueueFits s (batches.flatMap batchInputs)) :
    (∀ pre post, batches = pre ++ post → ∃ s' done rest,
      Transition.run Pc.step s (pre.flatMap batchInputs) = some s' ∧ cs = done ++ rest ∧
      s'.mainState = .game ∧ s'.receiver.fifo = [] ∧
      s'.applied = s.applied ++ done.map Transmission.effect ∧
      s'.table = (done.map Transmission.effect).foldl (fun t e => e.apply t) s.table ∧
      s'.receiver.pending ++ (post.map Prod.snd).flatten =
        encode (rest.map Transmission.message)) ∧
    ∀ iir, Receiver.dataAnnounced iir = true → ∃ s',
      Transition.run Pc.step s
        ((batches ++ List.replicate cs.length (iir, [])).flatMap batchInputs) = some s' ∧
      s'.applied = s.applied ++ cs.map Transmission.effect ∧
      s'.table = (cs.map Transmission.effect).foldl (fun t e => e.apply t) s.table ∧
      s'.receiver.pending = [] := by
  -- at the start nothing is pending, so the stream is what the batches bring
  have hpending : s.receiver.pending = [] := by
    rw [Receiver.pending_of_not_stored hstored, hempty]
  have hbytes : (batches.map Prod.snd).flatten = encode (cs.map Transmission.message) := by
    rw [Transmission.sent_foldl hidle hcs] at hstream
    exact (List.append_cancel_left hstream).symm
  have hsplits : ∀ pre post, batches = pre ++ post →
      s.receiver.pending ++ (pre.map Prod.snd).flatten ++ (post.map Prod.snd).flatten =
        encode (cs.map Transmission.message) := by
    intro pre post hsplit
    rw [hpending, ← hbytes, hsplit, List.map_append, List.flatten_append, List.nil_append]
  constructor
  -- a prefix of the batches carries a prefix of the calls
  · intro pre post hsplit
    obtain ⟨done, rest, hcs', hdone, hrest⟩ :=
      Transmission.feed_prefix hcs (hsplits pre post hsplit)
    have hfits' := hfits
    rw [hsplit, List.flatMap_append] at hfits'
    obtain ⟨s', hrun, hread, htable, happlied, hleft⟩ := run_batches hs
      (fun b hb => hiir b (hsplit ▸ List.mem_append_left _ hb)) hfits'.left hdone
    exact ⟨s', done, rest, hrun, hcs', hread.game, hread.fifo, happlied, htable,
      by rw [hleft, hrest]⟩
  -- after the last batch as many calls as there are messages are enough
  · intro iir hann
    obtain ⟨done, rest, hcs', hdone, hrest⟩ :=
      Transmission.feed_prefix hcs (hsplits batches [] (by simp))
    obtain ⟨s', hrun, hread, htable, happlied, hleft⟩ := run_batches hs hiir hfits hdone
    rw [List.map_nil, List.flatten_nil, List.append_nil, ← hleft] at hrest
    have hrestwell := Transmission.wellformed_messages fun c hc =>
      hcs c (by rw [hcs']; exact List.mem_append_right _ hc)
    have hall := decodes_wire.feed_all hrestwell hrest (n := cs.length) (by simp [hcs'])
    have hpayload : (Framing.feed splitGame s'.receiver.pending
        (List.replicate cs.length [])).1 = (rest.map Transmission.effect).map Item.payload := by
      rw [hall, Transmission.items_messages]
    have hmap : (List.replicate cs.length (iir, ([] : List UInt8))).map Prod.snd =
        List.replicate cs.length [] := by rw [List.map_replicate]
    have hann' : ∀ b ∈ List.replicate cs.length (iir, ([] : List UInt8)),
        Receiver.dataAnnounced b.1 = true := by
      intro b hb
      rw [List.eq_of_mem_replicate hb]
      exact hann
    rw [← hmap] at hpayload
    obtain ⟨s'', hrun', -, htable', happlied', hleft'⟩ := run_batches hread hann'
      (along_idle hann hread (hmap ▸ hpayload)) hpayload
    refine ⟨s'', ?_, ?_, ?_, by rw [hleft', hmap, hall]⟩
    · rw [List.flatMap_append]
      exact (Transition.run_append_eq_some _).mpr ⟨s', hrun, hrun'⟩
    · rw [happlied', happlied, hcs', List.map_append, List.append_assoc]
    · rw [htable', htable, hcs', List.map_append, List.foldl_append]

/-- A displacement by `(-5, 5)` and a velocity `(3, -8)`, cut inside words and between them. -/
theorem stream_roundtrip_pieces :
    let batches : List (Option UInt8 × List UInt8) :=
      [(some 4, [0xFB]), (some 4, []), (some 4, [0xFF, 5]), (some 4, [0, 0, 0x20, 3]),
        (some 4, [0xF8])]
    ∃ s', Transition.run Pc.step { init Setup.standard with mainState := .game }
        ((batches ++ List.replicate 2 (some 4, [])).flatMap batchInputs) = some s' ∧
      s'.applied = [.move 5 5, .ballSpeed (-3) 8] := by
  intro batches
  have hcs : ∀ c ∈ [Transmission.puckChange (createSprite ⟨80, 80, fun _ => 0⟩ 530 735) 535 730,
      Transmission.ballSpeed 3 (-8)], c.Valid := by
    intro c hc
    rcases List.mem_cons.mp hc with rfl | hc
    · exact ⟨by decide, by decide, by decide⟩
    · obtain rfl := List.mem_singleton.mp hc
      exact ⟨⟨by decide, by decide⟩, by decide, by decide⟩
  have hiir : ∀ b ∈ batches, Receiver.dataAnnounced b.1 = true := by decide
  have hfits : Transition.Along Pc.step QueueFits { init Setup.standard with mainState := .game }
      (batches.flatMap batchInputs) := by decide +kernel
  obtain ⟨s', hrun, happlied, -, -⟩ := (stream_roundtrip hcs
    (show ({ slots := [], sent := [], history := [], gameMark := 0 } : Transmitter).slots = []
      from rfl)
    hiir (by decide) ⟨rfl, rfl, rfl, by decide⟩ rfl rfl hfits).2 (some 4) rfl
  exact ⟨s', hrun, happlied⟩

end AirHockey
