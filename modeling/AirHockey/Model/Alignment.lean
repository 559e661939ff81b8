import AirHockey.Model.Acts
import AirHockey.Model.Standard

/-! # Whole words

Bytes carry no mark of where a word begins: each receiver relies on having taken an even number of
them. Reading keeps to that; a reset of the receiver, which throws away whatever has arrived,
keeps to it only between two words. As long as it does, every word a PC reads is a word the other
one sent, and the start/leave word comes from the start/leave message alone.

`Aligned` says it of one direction of the link: the bytes a PC has yet to use are the last words
of what the other one has sent. `InOrder.step` is its step lemma for the session, with
`Aligned.act` for the PC that acts and `Aligned.hear` for the one that is told; `inOrder_run`
carries it over runs on which every event satisfies `WholeWords`. The main results are

* `signal_genuine`: a word that is taken for start/leave is one the other PC sent as such;
* `signal_forged`: without the condition it need not be. An odd number of unread bytes is enough to
  see that (`not_genuine`), and two short runs reach it. -/

namespace AirHockey

namespace Session

/-- The bytes that `p` has yet to use, oldest first: those that have arrived and those on the
link. -/
def unread (σ : Session) (p : Side) : List UInt8 :=
  (σ.pc p).receiver.waiting ++ σ.inFlight p

/-- What `p` has yet to use is the end of what has been sent to it, from the beginning of a word
on. -/
structure Aligned (σ : Session) (p : Side) : Prop where
  arrived_le : σ.arrived p ≤ (σ.sentTo p).length
  words : ∃ taken rest, words (σ.historyTo p) = taken ++ rest ∧ σ.unread p = ofWords rest
  unstored : (σ.pc p).mainState = .mainMenu ∨ (σ.pc p).mainState = .rules →
    (σ.pc p).receiver.isStoredX = false

/-- No interrupt flushes the receiver while half a word has arrived or a word is stored, and the
queue never overflows. -/
def WholeWords (σ : Session) : Event → Prop
  | .interrupt p i =>
    ((σ.pc p).Flushes i → (σ.pc p).receiver.isStoredX = false ∧ 2 ∣ σ.arrived p) ∧ (σ.pc p).Fits i
  | .deliver _ => True

/-! ## One step -/

section

variable {σ σ' : Session} {p : Side}

/-- The other PC's words, for one whose own half of the state has not changed. -/
theorem Aligned.hear (h : σ.Aligned p) (ms : List Message) (hpc : σ'.pc p = σ.pc p)
    (harrived : σ'.arrived p = σ.arrived p) (hsent : σ'.sentTo p = σ.sentTo p ++ encode ms)
    (hhistory : σ'.historyTo p = σ.historyTo p ++ ms) : σ'.Aligned p := by
  obtain ⟨taken, rest, hwords, hunread⟩ := h.words
  -- what is sent now is at the end of the link, whatever of the earlier bytes has arrived
  have hflight : σ'.inFlight p = σ.inFlight p ++ encode ms := by
    rw [inFlight, hsent, harrived, List.drop_append_of_le_length h.arrived_le]
    rfl
  refine ⟨?_, ⟨taken, rest ++ AirHockey.words ms, ?_, ?_⟩, ?_⟩
  · rw [harrived, hsent, List.length_append]
    exact Nat.le_add_right_of_le h.arrived_le
  · rw [hhistory, words_append, hwords, List.append_assoc]
  · rw [unread, hpc, hflight, ← List.append_assoc, ofWords_append, ofWords_words]
    exact congrArg (· ++ encode ms) hunread
  · rw [hpc]
    exact h.unstored

/-- A byte moves from the link to the FIFO. -/
theorem unread_deliver {b : UInt8} (h : (σ.pc p).receiver.Healthy)
    (hb : (σ.inFlight p).head? = some b) (hpc : σ'.pc p = (σ.pc p).receive [RxSlot.clean b])
    (harrived : σ'.arrived p = σ.arrived p + 1) (hsent : σ'.sentTo p = σ.sentTo p) :
    σ'.unread p = σ.unread p ∧ σ.arrived p + 1 ≤ (σ.sentTo p).length := by
  obtain ⟨bytes, hbytes⟩ : ∃ bytes, σ.inFlight p = b :: bytes := by
    cases hflight : σ.inFlight p with
    | nil => simp [hflight] at hb
    | cons c bytes => exact ⟨bytes, by rw [hflight] at hb; rw [Option.some.inj hb]⟩
  have hrest : σ'.inFlight p = bytes := by
    rw [inFlight, hsent, harrived, ← List.drop_drop]
    show (σ.inFlight p).drop 1 = bytes
    rw [hbytes]
    rfl
  constructor
  · rw [unread, unread, hrest, hbytes, hpc]
    show Receiver.waiting _ ++ bytes = _
    rw [Pc.receive, (h.arrive b).2, List.append_assoc]
    rfl
  · have := congrArg List.length hbytes
    rw [inFlight, List.length_drop, List.length_cons] at this
    omega

/-- After a flush between two words, the words on the link are left. -/
theorem inFlight_ofWords (hfaithful : σ.sentTo p = encode (σ.historyTo p))
    (heven : 2 ∣ σ.arrived p) :
    ∃ taken rest, words (σ.historyTo p) = taken ++ rest ∧ σ.inFlight p = ofWords rest := by
  obtain ⟨k, hk⟩ := heven
  refine ⟨_, _, (List.take_append_drop k _).symm, ?_⟩
  rw [inFlight, hfaithful, ← ofWords_words, hk, drop_ofWords]

/-- A word is taken. -/
theorem words_take {taken rest : List Nat} {ms : List Message} (hwords : words ms = taken ++ rest)
    {w : Nat} (hw : w < 65536) {bytes : List UInt8} (h : ofWords rest = wordBytes w ++ bytes) :
    ∃ rest', rest = w :: rest' ∧ words ms = (taken ++ [w]) ++ rest' ∧ bytes = ofWords rest' := by
  have hrest : ∀ v ∈ rest, v < 65536 := fun v hv => words_lt (hwords ▸ List.mem_append_right _ hv)
  obtain ⟨rest', rfl, hbytes⟩ := ofWords_eq_append hrest hw h
  exact ⟨rest', rfl, by rw [hwords, List.append_assoc]; rfl, hbytes.symm⟩

/-- A ball word is followed by a velocity. -/
theorem Aligned.fairBall (h : σ.Aligned p) (hbounded : ∀ m ∈ σ.historyTo p, m.Bounded) :
    (σ.pc p).FairBall := by
  obtain ⟨taken, rest, hwords, hunread⟩ := h.words
  intro w bytes hw hwaiting
  rw [unread, hwaiting, List.append_assoc, List.append_assoc] at hunread
  -- the ball word is the first of the rest, and its payload the second
  obtain ⟨rest₁, rfl, hwords₁, hrest₁⟩ := words_take hwords (by decide) hunread.symm
  obtain ⟨rest₂, rfl, -, -⟩ := words_take hwords₁ hw hrest₁.symm
  exact ball_of_words hbounded hwords

/-- Everything is in order for both PCs. -/
structure InOrder (σ : Session) : Prop where
  tame : ∀ p, (σ.pc p).Tame
  aligned : ∀ p, σ.Aligned p

/-- A receiver that has been emptied between two words. -/
theorem Aligned.of_emptied (h : σ.Aligned p) (hfaithful : σ.sentTo p = encode (σ.historyTo p))
    (hwhole : 2 ∣ σ.arrived p) (harrived : σ'.arrived p = σ.arrived p)
    (hsent : σ'.sentTo p = σ.sentTo p) (hhistory : σ'.historyTo p = σ.historyTo p)
    (hwaiting : (σ'.pc p).receiver.waiting = [])
    (hunstored : (σ'.pc p).mainState = .mainMenu ∨ (σ'.pc p).mainState = .rules →
      (σ'.pc p).receiver.isStoredX = false) : σ'.Aligned p := by
  have hflight : σ'.inFlight p = σ.inFlight p := by
    rw [inFlight, hsent, harrived]
    rfl
  -- what had arrived is gone, and the link begins with a whole word
  obtain ⟨taken, rest, hwords, hrest⟩ := inFlight_ofWords hfaithful hwhole
  refine ⟨?_, ⟨taken, rest, by rw [hhistory, hwords], ?_⟩, hunstored⟩
  · rw [harrived, hsent]
    exact h.arrived_le
  · rw [unread, hwaiting, hflight, hrest]
    rfl

/-- An interrupt of the serial port reads on. -/
theorem Aligned.act_serial (h : σ.Aligned p) (hfaithful : σ.sentTo p = encode (σ.historyTo p))
    {F : Prop} (hflush : F → (σ.pc p).receiver.isStoredX = false ∧ 2 ∣ σ.arrived p)
    {r : Receiver} {s' : Pc} (hpc : σ'.pc p = s')
    (hstep : Pc.SerialStep ((σ.pc p).mainState = .mainMenu → F) (σ.pc p) r s')
    (harrived : σ'.arrived p = σ.arrived p) (hsent : σ'.sentTo p = σ.sentTo p)
    (hhistory : σ'.historyTo p = σ.historyTo p) : σ'.Aligned p := by
  obtain ⟨taken, rest, hwords, hunread⟩ := h.words
  have hle : σ'.arrived p ≤ (σ'.sentTo p).length := by
    rw [harrived, hsent]
    exact h.arrived_le
  have hflight : σ'.inFlight p = σ.inFlight p := by
    rw [inFlight, hsent, harrived]
    rfl
  have hunread' : σ'.unread p = s'.receiver.waiting ++ σ'.inFlight p := by
    rw [unread, hpc]
  have htake : ∀ {w : Nat} {bytes : List UInt8}, w < 65536 →
      (σ.pc p).receiver.waiting = wordBytes w ++ bytes →
      ∃ rest', AirHockey.words (σ'.historyTo p) = (taken ++ [w]) ++ rest' ∧
        bytes ++ σ'.inFlight p = ofWords rest' := by
    intro w bytes hw hwaiting
    rw [unread, hwaiting, List.append_assoc] at hunread
    obtain ⟨rest', -, hwords', hrest'⟩ := words_take hwords hw hunread.symm
    exact ⟨rest', by rw [hhistory, hwords'], by rw [hflight, hrest']⟩
  cases hstep with
  | idle hwaiting hkept =>
      refine ⟨hle, ⟨taken, rest, by rw [hhistory, hwords], ?_⟩, fun hm => ?_⟩
      · rw [hunread', hflight, ← hunread]
        exact congrArg (· ++ σ.inFlight p) hwaiting
      · rw [hpc] at hm ⊢
        -- a game cannot be left without a word, so `isStoredX` is as it was
        have hne : (σ.pc p).mainState ≠ .game := by
          intro hgame
          have hm' : (σ.pc p).mainState = .mainMenu ∨ (σ.pc p).mainState = .rules := hm
          simp [hgame] at hm'
        exact (hkept hne).trans (h.unstored hm)
  | drop w _ hw _ hwaiting hstored =>
      obtain ⟨rest', hwords', hrest'⟩ := htake hw hwaiting
      refine ⟨hle, ⟨_, rest', hwords', hunread'.trans hrest'⟩, fun _ => ?_⟩
      rw [hpc]
      exact hstored
  -- the start word: the rest of what has arrived is thrown away with it
  | start bytes hmode _ hempty hstored hF =>
      refine h.of_emptied hfaithful (hflush (hF hmode)).2 harrived hsent hhistory ?_ fun _ => ?_
      · rw [hpc]
        exact hempty
      · rw [hpc]
        exact hstored
  | leave _ hwaiting hstored =>
      obtain ⟨rest', hwords', hrest'⟩ := htake (by decide) hwaiting
      refine ⟨hle, ⟨_, rest', hwords', hunread'.trans hrest'⟩, fun _ => ?_⟩
      rw [hpc]
      exact hstored
  | payload x y _ hx hy _ hwaiting hstored =>
      rw [List.append_assoc] at hwaiting
      obtain ⟨rest₁, hwords₁, hrest₁⟩ := htake hx hwaiting
      rw [List.append_assoc] at hrest₁
      obtain ⟨rest₂, -, hwords₂, hrest₂⟩ := words_take hwords₁ hy hrest₁.symm
      refine ⟨hle, ⟨_, rest₂, hwords₂, hunread'.trans hrest₂⟩, fun _ => ?_⟩
      rw [hpc]
      exact hstored

/-- The PC that acts goes on reading whole words. -/
theorem Aligned.act (h : σ.Aligned p) (htame : (σ.pc p).Tame)
    (hfaithful : σ.sentTo p = encode (σ.historyTo p)) {i : Interrupt}
    (hflush : (σ.pc p).Flushes i → (σ.pc p).receiver.isStoredX = false ∧ 2 ∣ σ.arrived p)
    {ms : List Message} (hact : Pc.Act i (σ.pc p) (σ'.pc p) ms)
    (harrived : σ'.arrived p = σ.arrived p)
    (hsent : σ'.sentTo p = σ.sentTo p) (hhistory : σ'.historyTo p = σ.historyTo p) :
    σ'.Aligned p := by
  have hreset := htame.receiver.serialPortResetFIFO
  have hemptied : (σ.pc p).Flushes i →
      (σ'.pc p).receiver = (σ.pc p).receiver.serialPortResetFIFO → σ'.Aligned p := by
    intro hF hreceiver
    obtain ⟨hstored, hwhole⟩ := hflush hF
    refine h.of_emptied hfaithful hwhole harrived hsent hhistory ?_ fun _ => ?_
    · rw [hreceiver]
      exact hreset.2.2 hstored
    · rw [hreceiver, hreset.2.1, hstored]
  cases hact with
  | quiet ms _ hreceiver hmode _ =>
      obtain ⟨taken, rest, hwords, hunread⟩ := h.words
      refine ⟨?_, ⟨taken, rest, by rw [hhistory, hwords], ?_⟩, ?_⟩
      · rw [harrived, hsent]
        exact h.arrived_le
      · rw [unread, hreceiver, inFlight, hsent, harrived]
        exact hunread
      · intro hm
        rw [hreceiver]
        refine h.unstored ?_
        rcases hmode with heq | ⟨-, heq⟩ | ⟨heq, -⟩ | ⟨heq, -⟩
        · rwa [heq] at hm
        · rcases heq with heq | heq | heq <;> simp [heq] at hm
        · exact .inl heq
        · exact .inr heq
  | play hreceiver _ _ _ hF _ => exact hemptied hF hreceiver
  | leave hreceiver _ _ _ hF _ => exact hemptied hF hreceiver
  | close hreceiver _ _ _ hF _ =>
      rcases hreceiver with heq | heq
      · exact hemptied hF heq
      -- the buttons under a result: both of them may be taken on one key, and each of them flushes
      · obtain ⟨hstored, hwhole⟩ := hflush hF
        have htwice := hreset.1.serialPortResetFIFO
        have hkept := hreset.2.1.trans hstored
        refine h.of_emptied hfaithful hwhole harrived hsent hhistory ?_ fun _ => ?_
        · rw [heq]
          exact htwice.2.2 hkept
        · rw [heq, htwice.2.1, hkept]
  | serial ms r _ hstep =>
      exact h.act_serial hfaithful (fun hF => hflush hF.1) rfl hstep harrived hsent hhistory

/-- **One step of the two PCs.** -/
theorem InOrder.step {e : Event} (h : σ.InOrder) (hok : σ.WholeWords e)
    (hs : σ.step e = some σ') : σ'.InOrder := by
  cases stepOf hs with
  | interrupt q i hpc hother harrived =>
      obtain ⟨hflush, hfits⟩ := hok
      have htame := h.tame q
      have hunstored := fun hm => (h.aligned q).unstored (.inl hm)
      have hfair := (h.aligned q).fairBall (h.tame q.other).bounded
      obtain ⟨ms, hact, htold⟩ := Pc.handle_act htame.idle htame.receiver hunstored hfits hpc
      refine ⟨fun p => ?_, fun p => ?_⟩
      · rcases q.eq_or_other p with rfl | rfl
        · exact htame.handle hunstored hfits (fun _ => hfair) hpc
        · rw [hother]
          exact h.tame q.other
      · rcases q.eq_or_other p with rfl | rfl
        · refine (h.aligned p).act htame (h.tame p.other).faithful hflush hact (harrived p) ?_ ?_
          · rw [sentTo, hother]
            rfl
          · rw [historyTo, hother]
            rfl
        · refine (h.aligned q.other).hear ms hother (harrived q.other) ?_ ?_
          · rw [sentTo, sentTo, Side.other_other, htold.sent]
          · rw [historyTo, historyTo, Side.other_other, htold.history]
  | deliver q b hb hpc hother harrived harrivedOther =>
      have htame := h.tame q
      have hsent : σ'.sentTo q = σ.sentTo q := by
        rw [sentTo, hother]
        rfl
      obtain ⟨hunread, hle⟩ := unread_deliver htame.receiver hb hpc harrived hsent
      obtain ⟨taken, rest, hwords, hrest⟩ := (h.aligned q).words
      refine ⟨fun p => ?_, fun p => ?_⟩
      · rcases q.eq_or_other p with rfl | rfl
        · rw [hpc]
          exact { htame with receiver := (htame.receiver.arrive b).1 }
        · rw [hother]
          exact h.tame q.other
      · rcases q.eq_or_other p with rfl | rfl
        · refine ⟨?_, ⟨taken, rest, ?_, hunread.trans hrest⟩, ?_⟩
          · rw [harrived, hsent]
            exact hle
          · rw [historyTo, hother]
            exact hwords
          · rw [hpc]
            exact (h.aligned p).unstored
        · refine (h.aligned q.other).hear [] hother harrivedOther ?_ ?_
          · rw [sentTo, sentTo, Side.other_other, hpc]
            simp [Pc.receive]
          · rw [historyTo, historyTo, Side.other_other, hpc]
            simp [Pc.receive]

end

theorem inOrder_init {S : Side → Setup} (hS : ∀ p, (S p).Healthy) : (init S).InOrder where
  tame p := by
    rw [pc_init]
    exact tame_init (hS p)
  aligned p := by
    have hhistory : (init S).historyTo p = [] := by
      rw [historyTo, pc_init]
      rfl
    have hunread : (init S).unread p = [] := by
      rw [unread, inFlight, sentTo, pc_init, pc_init, arrived_init]
      rfl
    refine ⟨?_, ⟨[], [], by rw [hhistory]; rfl, hunread⟩, fun _ => ?_⟩
    · rw [arrived_init]
      exact Nat.zero_le _
    · rw [pc_init]
      rfl

/-- **Every run.** -/
theorem inOrder_run {S : Side → Setup} (hS : ∀ p, (S p).Healthy) {es : List Event} {σ : Session}
    (hok : Transition.Along step WholeWords (init S) es)
    (hrun : Transition.run step (init S) es = some σ) : σ.InOrder :=
  Transition.invariant_along InOrder (fun _ _ _ h hok hs => h.step hok hs) (inOrder_init hS) hok
    hrun

/-! ## Start/leave words are not forged -/

/-- What `p` reads next has been written by one `send_signal(signal1)`: it is, at its place in what
has been sent, the encoding of a start/leave message. -/
def Genuine (σ : Session) (p : Side) : Prop :=
  ∃ pre post, σ.historyTo p = pre ++ .signal :: post ∧
    σ.sentTo p = encode pre ++ (Message.signal.encode ++ encode post) ∧
    σ.unread p = Message.signal.encode ++ encode post

/-- **A start/leave word comes from a start/leave message**, on a run on which every flush falls
between two words and the queue never overflows. -/
theorem signal_genuine {S : Side → Setup} (hS : ∀ p, (S p).Healthy) {es : List Event} {σ : Session}
    (hok : Transition.Along step WholeWords (init S) es)
    (hrun : Transition.run step (init S) es = some σ) {p : Side} {iir : Option UInt8}
    (hfits : (σ.pc p).SerialFits iir) (htakes : (σ.pc p).TakesSignal iir) : σ.Genuine p := by
  have h := inOrder_run hS hok hrun
  obtain ⟨taken, rest, hwords, hunread⟩ := (h.aligned p).words
  obtain ⟨bytes, hwaiting⟩ := htakes.waiting (h.tame p).receiver
    (fun hm => (h.aligned p).unstored (.inl hm)) hfits
  rw [unread, hwaiting, List.append_assoc] at hunread
  -- the word `0x1000` is the first of those left, so a start/leave message stands there
  obtain ⟨rest', rfl, -, hbytes⟩ := words_take hwords (by decide) hunread.symm
  have hbounded : ∀ m ∈ σ.historyTo p, m.Bounded := (h.tame p.other).bounded
  have hfaithful : σ.sentTo p = encode (σ.historyTo p) := (h.tame p.other).faithful
  obtain ⟨pre, post, hhistory, -, rfl⟩ := signal_of_words hbounded hwords
  refine ⟨pre, post, hhistory, ?_, ?_⟩
  · rw [hfaithful, hhistory, encode_append, encode_cons]
  · rw [unread, hwaiting, List.append_assoc, hbytes, ofWords_words]
    rfl

instance (σ : Session) (e : Event) : Decidable (σ.WholeWords e) :=
  match e with
  | .interrupt _ _ => inferInstanceAs (Decidable ((_ → _ ∧ _) ∧ _))
  | .deliver _ => isTrue trivial

theorem signal_genuine_play : ∃ σ, Transition.run step standard playPressed = some σ ∧
    (σ.pc .two).TakesSignal (some iirIntId) ∧ σ.Genuine .two := by
  have hreach : ∃ σ, Transition.run step standard playPressed = some σ ∧
      (σ.pc .two).TakesSignal (some iirIntId) ∧ (σ.pc .two).SerialFits (some iirIntId) :=
    Transition.reaches_of_any (by decide +kernel)
  obtain ⟨σ, hrun, htakes, hfits⟩ := hreach
  exact ⟨σ, hrun, htakes,
    signal_genuine (fun _ => Setup.standard_healthy) (by decide +kernel) hrun hfits htakes⟩

/-- A game has begun, and the first byte of a displacement `(5, 16)` arrives. The other PC leaves
the game, which throws this byte away, and the next two bytes arrive: `00 10`. -/
def cutDisplacement : List Event :=
  playPressed ++ serve .two ++
    happens .one (mousePacket 0x29 5 0xF0 ++ ticks 2) ++ deliver .two 1 ++
    happens .two (key escBreakCode) ++ deliver .two 2

/-- A hundred bytes and the first byte of the same displacement arrive before `sp_int` is called:
the queue has no room for the last one. -/
-- 25 messages of four bytes fill the queue
def lostByte : List Event :=
  playPressed ++ serve .two ++
    (List.replicate 25 (happens .one (mousePacket 0x09 1 0 ++ ticks 2))).flatten ++
    happens .one (mousePacket 0x29 5 0xF0 ++ ticks 2) ++ deliver .two 101 ++ serve .two ++
    deliver .two 2 ++ (List.replicate 24 (serve .two)).flatten

/-- Messages have an even number of bytes. -/
theorem not_genuine {σ : Session} {p : Side} (hunread : ¬2 ∣ (σ.unread p).length) :
    ¬σ.Genuine p := by
  rintro ⟨pre, post, -, -, hgenuine⟩
  apply hunread
  rw [hgenuine, ← ofWords_message, ← ofWords_words, ← ofWords_append, length_ofWords]
  exact ⟨_, rfl⟩

/-- The high byte of one component and the low byte of the other are taken for a start/leave
word. -/
theorem signal_forged :
    (∃ σ, Transition.run step standard cutDisplacement = some σ ∧
      (σ.pc .two).SerialFits (some iirIntId) ∧ (σ.pc .two).TakesSignal (some iirIntId) ∧
      ¬σ.Genuine .two) ∧
    ∃ σ, Transition.run step standard lostByte = some σ ∧
      (σ.pc .two).SerialFits (some iirIntId) ∧ (σ.pc .two).TakesSignal (some iirIntId) ∧
      ¬σ.Genuine .two := by
  have hcut : ∃ σ, Transition.run step standard cutDisplacement = some σ ∧
      (σ.pc .two).SerialFits (some iirIntId) ∧ (σ.pc .two).TakesSignal (some iirIntId) ∧
      ¬2 ∣ (σ.unread .two).length :=
    Transition.reaches_of_any (by decide +kernel)
  have hlost : ∃ σ, Transition.run step standard lostByte = some σ ∧
      (σ.pc .two).SerialFits (some iirIntId) ∧ (σ.pc .two).TakesSignal (some iirIntId) ∧
      ¬2 ∣ (σ.unread .two).length :=
    Transition.reaches_of_any (by decide +kernel)
  -- in both runs the number of bytes that are left is odd
  obtain ⟨σ, hrun, hfits, htakes, hodd⟩ := hcut
  obtain ⟨τ, hrun', hfits', htakes', hodd'⟩ := hlost
  exact ⟨⟨σ, hrun, hfits, htakes, not_genuine hodd⟩, τ, hrun', hfits', htakes', not_genuine hodd'⟩

end Session

end AirHockey
