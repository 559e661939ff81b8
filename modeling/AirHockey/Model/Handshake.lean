import AirHockey.Model.Alignment
import Mathlib.Data.List.Infix

/-! # Starting and leaving a game together

The start/leave word is a toggle: a PC that starts or leaves a game tells the other one, which
does the same when it reads the word. Seen from there the two PCs are the two parties of `Toggle`,
as long as nobody has quit and no start/leave word is lost.

`toggle` is that view: whether a PC plays, whether it is the main one, and how many start/leave
words it has yet to read (`signals` counts them among bytes). A count is only meaningful while
words and, in a game, messages are read whole: that is `Coherent`, and `Coherent.step` keeps it
and shows that every event of the session is a step of the toggle (`ToggleStep`) or ends with
somebody who has quit. The protocol's own invariants, `Toggle.Balanced` and `Toggle.Led`, then
hold along every run:

* `modes_agree`: with nothing left to read, the two PCs are in the same mode, if no flush loses a
  word (`Orderly`); `modes_differ` is a run with a loss;
* `one_main`: in a game one of the two is the main PC, if the announcements do not cross either
  (`Courteous`); `not_one_main` has a run without and a run with two main PCs. -/

namespace AirHockey

/-! ## Counting start/leave words -/

/-- The words that the bytes make. -/
def wordsOf : List UInt8 → List Nat
  | b₀ :: b₁ :: bs => word b₀ b₁ :: wordsOf bs
  | _ => []

/-- How many start/leave words there are among the bytes. -/
def signals (bytes : List UInt8) : Nat := (wordsOf bytes).count signal1

@[simp] theorem signals_nil : signals [] = 0 := rfl

theorem signals_wordBytes {w : Nat} (hw : w < 65536) (bytes : List UInt8) :
    signals (wordBytes w ++ bytes) = (if w = signal1 then 1 else 0) + signals bytes := by
  show (word (uint8 w) (uint8 (w / 256)) :: wordsOf bytes).count signal1 = _
  rw [word_wordBytes hw, List.count_cons, Nat.add_comm]
  simp [signals]

theorem signals_ofWords {ws : List Nat} (hws : ∀ w ∈ ws, w < 65536) (bytes : List UInt8) :
    signals (ofWords ws ++ bytes) = ws.count signal1 + signals bytes := by
  induction ws with
  | nil => simp
  | cons w ws ih =>
      rw [ofWords_cons, List.append_assoc, signals_wordBytes (hws w List.mem_cons_self),
        ih fun v hv => hws v (List.mem_cons_of_mem _ hv), List.count_cons]
      simp
      omega

/-- Only start/leave messages have start/leave words. -/
theorem count_words {ms : List Message} (h : ∀ m ∈ ms, m.Bounded) :
    (words ms).count signal1 = ms.count .signal := by
  -- neither half of a payload message can be `0x1000`
  induction ms with
  | nil => rfl
  | cons m ms ih =>
      rw [words_cons, List.count_append, ih fun m' hm' => h m' (List.mem_cons_of_mem _ hm'),
        List.count_cons]
      have hm : m.Bounded := h m List.mem_cons_self
      cases m with
      | signal =>
          show 1 + _ = _ + 1
          omega
      | puck dx dy =>
          obtain ⟨hx, hx', hy, hy'⟩ := hm
          have hx := (uint16_ne (n := dx) (by omega) (by omega)).1
          have hy := (uint16_ne hy hy').1
          simp [Message.words, hx, hy]
      | ball vx vy =>
          have hv := (word_ne hm).1
          have hball : ballSignal ≠ signal1 := by decide
          simp [Message.words, hball, hv]

theorem signals_encode {ms : List Message} (h : ∀ m ∈ ms, m.Bounded) (bytes : List UInt8) :
    signals (encode ms ++ bytes) = ms.count .signal + signals bytes := by
  rw [← ofWords_words, signals_ofWords fun w hw => words_lt hw, count_words h]

theorem signals_append {bytes : List UInt8} (h : 2 ∣ bytes.length) (rest : List UInt8) :
    signals (bytes ++ rest) = signals bytes + signals rest := by
  -- two bytes at a time; an odd byte at the end would be paired with the first one of `rest`
  induction bytes using wordsOf.induct with
  | case1 b₀ b₁ bytes ih =>
      have heven : 2 ∣ bytes.length := by
        simp only [List.length_cons] at h
        omega
      have hcons : ∀ bytes, signals (b₀ :: b₁ :: bytes) =
          (if word b₀ b₁ = signal1 then 1 else 0) + signals bytes := by
        intro bytes
        rw [← signals_wordBytes (word_lt b₀ b₁), wordBytes_word]
        rfl
      rw [List.cons_append, List.cons_append, hcons, hcons, ih heven, Nat.add_assoc]
  | case2 bytes hshort =>
      rcases bytes with _ | ⟨b₀, _ | ⟨b₁, bytes⟩⟩
      · simp
      · simp at h
      · exact absurd rfl (hshort b₀ b₁ bytes)

/-- The first two words of a sequence of messages, when the first is no start/leave word. -/
theorem words_eq_cons_cons {ms : List Message} {x y : Nat} {ws : List Nat}
    (h : words ms = x :: y :: ws) (hx : x ≠ signal1) :
    ∃ m post, ms = m :: post ∧ m.words = [x, y] ∧ ws = words post := by
  cases ms with
  | nil => cases h
  | cons m ms =>
      cases m with
      | signal => exact absurd (List.cons.inj h).1.symm hx
      | puck dx dy =>
          obtain ⟨hx, hrest⟩ := List.cons.inj h
          obtain ⟨hy, hrest⟩ := List.cons.inj hrest
          exact ⟨_, ms, rfl, by rw [← hx, ← hy]; rfl, hrest.symm⟩
      | ball vx vy =>
          obtain ⟨hx, hrest⟩ := List.cons.inj h
          obtain ⟨hy, hrest⟩ := List.cons.inj hrest
          exact ⟨_, ms, rfl, by rw [← hx, ← hy]; rfl, hrest.symm⟩

namespace Session

/-! ## A link without losses -/

/-- What has arrived is a number of whole messages. -/
def BetweenMessages (σ : Session) (p : Side) : Prop :=
  ∃ pre, pre <+: σ.historyTo p ∧ (encode pre).length = σ.arrived p

/-- A flush that loses no start/leave word and does not cut a message of the game that it begins. -/
structure CleanFlush (σ : Session) (p : Side) (i : Interrupt) : Prop where
  unstored : (σ.pc p).receiver.isStoredX = false
  wholeWords : 2 ∣ σ.arrived p
  wholeMessages : (σ.pc p).mainState ≠ .game → σ.BetweenMessages p
  lossless : signals (σ.pc p).receiver.waiting = Pc.taken i
  once : Pc.taken i = 0 → ¬(σ.pc p).SelectsTwice

/-- Every flush is clean, and the queue never overflows. -/
def Orderly (σ : Session) : Event → Prop
  | .interrupt p i => ((σ.pc p).Flushes i → σ.CleanFlush p i) ∧ (σ.pc p).Fits i
  | .deliver _ => True

theorem Orderly.wholeWords {σ : Session} {e : Event} (h : σ.Orderly e) : σ.WholeWords e := by
  cases e with
  | interrupt p i => exact ⟨fun hf => ⟨(h.1 hf).unstored, (h.1 hf).wholeWords⟩, h.2⟩
  | deliver p => trivial

/-- A game is being played, or its result is shown. -/
def Playing (mode : MainState) : Prop :=
  mode = .game ∨ mode = .win ∨ mode = .lost ∨ mode = .tie

instance (mode : MainState) : Decidable (Playing mode) := inferInstanceAs (Decidable (_ ∨ _))

/-- During a game, messages are read whole. -/
def Framed (σ : Session) (p : Side) : Prop :=
  Playing (σ.pc p).mainState → ∃ post, post <:+ σ.historyTo p ∧ σ.unread p = encode post

/-- The PCs as parties that toggle each other. -/
def toggle (σ : Session) : Toggle.State := fun p =>
  { on := decide (Playing (σ.pc p).mainState)
    lead := (σ.pc p).table.isMainPc
    unread := signals (σ.unread p) }

theorem toggle_eq {σ : Session} {p : Side} {on lead : Bool} {n : Nat}
    (hon : decide (Playing (σ.pc p).mainState) = on) (hlead : (σ.pc p).table.isMainPc = lead)
    (hn : signals (σ.unread p) = n) : σ.toggle p = ⟨on, lead, n⟩ := by
  rw [toggle, hon, hlead, hn]

/-! ## One act -/

section

variable {σ σ' : Session} {p : Side}

/-- What is left after a flush. -/
theorem signals_flush (h : σ.Aligned p) (hfaithful : σ.sentTo p = encode (σ.historyTo p))
    (heven : 2 ∣ σ.arrived p) :
    signals (σ.unread p) = signals (σ.pc p).receiver.waiting + signals (σ.inFlight p) := by
  obtain ⟨-, rest, -, hunread⟩ := h.words
  obtain ⟨-, rest', -, hflight⟩ := inFlight_ofWords hfaithful heven
  have hlen := congrArg List.length hunread
  rw [unread, List.length_append, hflight, length_ofWords, length_ofWords] at hlen
  exact signals_append (by omega) _

/-- A game that begins between two messages is framed. -/
theorem BetweenMessages.framed (h : σ.BetweenMessages p)
    (hfaithful : σ.sentTo p = encode (σ.historyTo p)) :
    ∃ post, post <:+ σ.historyTo p ∧ σ.inFlight p = encode post := by
  obtain ⟨pre, ⟨post, hpost⟩, hlen⟩ := h
  refine ⟨post, ⟨pre, hpost⟩, ?_⟩
  rw [inFlight, hfaithful, ← hpost, encode_append, ← hlen, List.drop_left]

/-- A payload message that is decoded in a framed game is one that was sent. -/
theorem Framed.payload {post : List Message} {x y : Nat} {bytes : List UInt8} (hx : x < 65536)
    (hy : y < 65536) (hsignal : x ≠ signal1)
    (h : encode post = wordBytes x ++ (wordBytes y ++ bytes)) :
    ∃ m post', post = m :: post' ∧ m.words = [x, y] ∧ bytes = encode post' := by
  rw [← ofWords_words] at h
  have hlt : ∀ v ∈ words post, v < 65536 := fun v hv => words_lt hv
  obtain ⟨rest₁, hrest₁, hbytes₁⟩ := ofWords_eq_append hlt hx h
  have hlt₁ : ∀ v ∈ rest₁, v < 65536 := fun v hv => hlt v (hrest₁ ▸ List.mem_cons_of_mem _ hv)
  obtain ⟨rest₂, rfl, hbytes₂⟩ := ofWords_eq_append hlt₁ hy hbytes₁
  obtain ⟨m, post', hpost, hm, hws⟩ := words_eq_cons_cons hrest₁ hsignal
  exact ⟨m, post', hpost, hm, by rw [← hbytes₂, hws, ofWords_words]⟩

/-- A mode that drifts stays in a game or out of it. -/
theorem playing_drifts {mode mode' : MainState} (h : Pc.Drifts mode mode') :
    Playing mode' ↔ Playing mode := by
  rcases h with rfl | ⟨rfl, rfl | rfl | rfl⟩ | ⟨rfl, rfl | rfl⟩ | ⟨rfl, rfl⟩
  · exact Iff.rfl
  all_goals decide

theorem playing_result {s : Pc} (h : s.ShowsResult) : Playing s.mainState := .inr h

/-- What is known of the PC that acts, before it does. -/
structure Ready (σ : Session) (p : Side) (i : Interrupt) : Prop where
  aligned : σ.Aligned p
  tame : (σ.pc p).Tame
  faithful : σ.sentTo p = encode (σ.historyTo p)
  bounded : ∀ m ∈ σ.historyTo p, m.Bounded
  framed : σ.Framed p
  clean : (σ.pc p).Flushes i → σ.CleanFlush p i

namespace Ready

variable {i : Interrupt} {ms : List Message}

/-- After a key that flushes, what was on the link is unread, and as many start/leave words. -/
theorem flush (h : σ.Ready p i) (hflush : (σ.pc p).Flushes i) (hkey : Pc.taken i = 0)
    (hwaiting : (σ'.pc p).receiver.waiting = []) (hflight : σ'.inFlight p = σ.inFlight p) :
    σ'.unread p = σ.inFlight p ∧ signals (σ'.unread p) = signals (σ.unread p) := by
  have hclean := h.clean hflush
  have hunread : σ'.unread p = σ.inFlight p := by
    rw [unread, hwaiting, hflight, List.nil_append]
  refine ⟨hunread, ?_⟩
  rw [hunread, signals_flush h.aligned h.faithful hclean.wholeWords, hclean.lossless, hkey,
    Nat.zero_add]

/-- A flush by a key leaves nothing waiting. -/
theorem waiting_flush (h : σ.Ready p i) (hflush : (σ.pc p).Flushes i) {r : Receiver}
    (hr : r = (σ.pc p).receiver.serialPortResetFIFO ∨
      r = (σ.pc p).receiver.serialPortResetFIFO.serialPortResetFIFO) : r.waiting = [] := by
  have hstored := (h.clean hflush).unstored
  obtain ⟨hhealthy, hkept, hempty⟩ := h.tame.receiver.serialPortResetFIFO
  -- once or twice, the second reset finds nothing
  rcases hr with rfl | rfl
  · exact hempty hstored
  · exact hhealthy.serialPortResetFIFO.2.2 (hkept.trans hstored)

/-- **Messages go on being read whole.** -/
theorem framed_act (h : σ.Ready p i) (hact : Pc.Act i (σ.pc p) (σ'.pc p) ms)
    (hflight : σ'.inFlight p = σ.inFlight p) (hhistory : σ'.historyTo p = σ.historyTo p) :
    σ'.Framed p := by
  intro hplaying
  rw [hhistory]
  have hbegins : (σ.pc p).Flushes i → (σ.pc p).mainState ≠ .game →
      (σ'.pc p).receiver.waiting = [] →
      ∃ post, post <:+ σ.historyTo p ∧ σ'.unread p = encode post := by
    intro hflush hmode hwaiting
    obtain ⟨post, hpost, hbytes⟩ := ((h.clean hflush).wholeMessages hmode).framed h.faithful
    exact ⟨post, hpost, by rw [unread, hwaiting, hflight, hbytes]; rfl⟩
  cases hact with
  | quiet ms _ hreceiver hmode _ =>
      obtain ⟨post, hpost, hbytes⟩ := h.framed ((playing_drifts hmode).mp hplaying)
      exact ⟨post, hpost, by rw [unread, hreceiver, hflight]; exact hbytes⟩
  | play hreceiver hmode _ _ hflush _ =>
      exact hbegins hflush (by simp [hmode]) (h.waiting_flush hflush (.inl hreceiver))
  | leave _ _ hmode' _ _ _ =>
      rw [hmode'] at hplaying
      exact absurd hplaying (by decide)
  | close hreceiver hmode _ _ hflush _ =>
      refine hbegins hflush ?_ (h.waiting_flush hflush hreceiver)
      rcases hmode with hm | hm | hm <;> simp [hm]
  -- `sp_int` reads at most one message; outside a game it reads a word, and that ends with `Framed`
  | serial ms r _ hstep =>
      generalize hpc : σ'.pc p = s' at hstep hplaying
      have hunread : σ'.unread p = s'.receiver.waiting ++ σ.inFlight p := by
        rw [unread, hpc, hflight]
      cases hstep with
      | idle hwaiting _ =>
          obtain ⟨post, hpost, hbytes⟩ := h.framed hplaying
          refine ⟨post, hpost, hunread.trans ?_⟩
          rw [← hbytes]
          exact congrArg (· ++ σ.inFlight p) hwaiting
      | drop w hmode _ _ _ _ =>
          have hplaying' : Playing (σ.pc p).mainState := hplaying
          rw [hmode] at hplaying'
          exact absurd hplaying' (by decide)
      | start bytes hmode _ hempty _ hflush =>
          refine hbegins (hflush hmode).1 (by simp [hmode]) ?_
          rw [hpc]
          exact hempty
      | leave _ _ _ => exact absurd (show Playing .mainMenu from hplaying) (by decide)
      | payload x y hmode hx hy hsignal hwaiting _ =>
          obtain ⟨post, hpost, hbytes⟩ := h.framed hplaying
          rw [unread, hwaiting, List.append_assoc, List.append_assoc] at hbytes
          obtain ⟨m, post', rfl, -, hrest⟩ := Framed.payload hx hy hsignal hbytes.symm
          exact ⟨post', (List.suffix_cons m post').trans hpost, hunread.trans hrest⟩

/-- An interrupt of the serial port hears a start/leave word, or leaves the party as it is. -/
theorem turn_serial (h : σ.Ready p i) {r : Receiver} {s' : Pc} (hpc : σ'.pc p = s')
    (hstep : Pc.SerialStep ((σ.pc p).mainState = .mainMenu →
      (σ.pc p).Flushes i ∧ Pc.taken i = 1) (σ.pc p) r s')
    (hflight : σ'.inFlight p = σ.inFlight p) :
    Toggle.Turn (σ.toggle p) (σ'.toggle p) 0 := by
  have hparty : ∀ {on lead : Bool} {n : Nat}, decide (Playing s'.mainState) = on →
      s'.table.isMainPc = lead → signals (σ'.unread p) = n →
      σ'.toggle p = ⟨on, lead, n⟩ := fun hon hlead hn =>
    toggle_eq (by rw [hpc, hon]) (by rw [hpc, hlead]) hn
  have hunread : σ'.unread p = s'.receiver.waiting ++ σ.inFlight p := by
    rw [unread, hpc, hflight]
  cases hstep with
  | idle hwaiting _ =>
      refine .rest (hparty rfl rfl ?_)
      rw [hunread]
      exact congrArg (fun bytes => signals (bytes ++ σ.inFlight p)) hwaiting
  -- a word that means nothing in the menu is no start/leave word
  | drop w hmode hw hsignal hwaiting _ =>
      refine .rest (hparty rfl rfl ?_)
      show _ = signals (σ.unread p)
      rw [hunread, unread, hwaiting, List.append_assoc, signals_wordBytes hw, if_neg hsignal,
        Nat.zero_add]
  -- the start word itself is lost with the flush, and no other
  | start bytes hmode hwaiting hempty _ hflush =>
      obtain ⟨hflush, htaken⟩ := hflush hmode
      have hclean := h.clean hflush
      have hbefore : signals (σ.unread p) = 1 + signals (σ.inFlight p) := by
        rw [signals_flush h.aligned h.faithful hclean.wholeWords, hclean.lossless, htaken]
      refine .hear ?_ (hparty ?_ ?_ ?_)
      · show 0 < signals (σ.unread p)
        omega
      · rw [toggle, hmode]
        rfl
      · rw [toggle, hmode]
        exact (Bool.and_false _).symm
      · show _ = signals (σ.unread p) - 1
        rw [hbefore, hunread, show (Pc.startedBy r (σ.pc p)).receiver.waiting = [] from hempty,
          List.nil_append]
        omega
  | leave hmode hwaiting _ =>
      have hbefore : signals (σ.unread p) = 1 + signals (r.waiting ++ σ.inFlight p) := by
        rw [unread, hwaiting, List.append_assoc, signals_wordBytes (by decide), if_pos rfl]
      refine .hear ?_ (hparty ?_ ?_ ?_)
      · show 0 < signals (σ.unread p)
        omega
      · rw [toggle, hmode]
        rfl
      · rw [toggle, hmode]
        exact (Bool.and_true _).symm
      · show _ = signals (σ.unread p) - 1
        rw [hbefore, hunread]
        show signals (r.waiting ++ σ.inFlight p) = _
        omega
  | payload x y hmode hx hy hsignal hwaiting _ =>
      obtain ⟨post, ⟨pre, hpost⟩, hbytes⟩ := h.framed (.inl hmode)
      rw [unread, hwaiting, List.append_assoc, List.append_assoc] at hbytes
      obtain ⟨m, post', rfl, hm, -⟩ := Framed.payload hx hy hsignal hbytes.symm
      have hbounded : m.Bounded := h.bounded m (hpost ▸ by simp)
      have hsecond := (hbounded.second_ne hm).1
      refine .rest (hparty rfl ?_ ?_)
      · obtain ⟨_, _, hrole, _⟩ := Pc.apply_struck h.tame.idle (payloadEffect x y)
        exact hrole
      · show _ = signals (σ.unread p)
        rw [hunread, unread, hwaiting, List.append_assoc, List.append_assoc,
          signals_wordBytes hx, if_neg hsignal, signals_wordBytes hy, if_neg hsecond,
          Nat.zero_add, Nat.zero_add]
        rfl

/-- **What an act is between the two parties.** -/
theorem turn (h : σ.Ready p i) (hact : Pc.Act i (σ.pc p) (σ'.pc p) ms)
    (hflight : σ'.inFlight p = σ.inFlight p)
    (hlive : (σ'.pc p).mainState ≠ .stop) :
    Toggle.Turn (σ.toggle p) (σ'.toggle p) (ms.count .signal) := by
  cases hact with
  | quiet ms hms hreceiver hmode hrole =>
      rw [List.count_eq_zero.mpr hms]
      refine .rest (toggle_eq ?_ hrole ?_)
      · exact decide_eq_decide.mpr (playing_drifts hmode)
      · rw [unread, hreceiver, hflight]
        rfl
  | play hreceiver hmode hmode' hrole hflush hkey =>
      have hgame : (σ'.pc p).mainState = .game :=
        hmode'.resolve_right fun htwice => (h.clean hflush).once hkey htwice.2
      have hwaiting := h.waiting_flush hflush (.inl hreceiver)
      refine .announce (toggle_eq ?_ ?_ (h.flush hflush hkey hwaiting hflight).2)
      · rw [hgame, toggle, hmode]
        rfl
      · rw [hrole, toggle, hmode]
        exact (Bool.or_true _).symm
  | leave hreceiver hmode hmode' hrole hflush hkey =>
      have hwaiting := h.waiting_flush hflush (.inl hreceiver)
      refine .announce (toggle_eq ?_ ?_ (h.flush hflush hkey hwaiting hflight).2)
      · rw [hmode', toggle, hmode]
        rfl
      · rw [hrole, toggle, hmode]
        exact (Bool.or_false _).symm
  -- a result is still part of the game, so Play again changes nothing
  | close hreceiver hmode hmode' hrole hflush hkey =>
      have hgame := hmode'.resolve_right hlive
      have hwaiting := h.waiting_flush hflush hreceiver
      refine .rest (toggle_eq ?_ hrole (h.flush hflush hkey hwaiting hflight).2)
      rw [hgame]
      exact (decide_eq_true (playing_result hmode)).symm
  | serial ms r hms hstep =>
      rw [List.count_eq_zero.mpr hms]
      exact h.turn_serial rfl hstep hflight

end Ready

/-! ## One step -/

/-- Both PCs read whole words, and whole messages during a game. -/
structure Coherent (σ : Session) : Prop where
  inOrder : σ.InOrder
  framed : ∀ p, σ.Framed p

/-- Somebody has quit. -/
def Quit (σ : Session) : Prop := ∃ p, (σ.pc p).mainState = .stop

theorem Coherent.ready (h : σ.Coherent) {i : Interrupt}
    (hclean : (σ.pc p).Flushes i → σ.CleanFlush p i) : σ.Ready p i where
  aligned := h.inOrder.aligned p
  tame := h.inOrder.tame p
  faithful := (h.inOrder.tame p.other).faithful
  bounded := (h.inOrder.tame p.other).bounded
  framed := h.framed p
  clean := hclean

/-- The other PC has more to read, and reads it whole. -/
theorem Framed.hear (h : σ.Framed p) (harrived_le : σ.arrived p ≤ (σ.sentTo p).length)
    (ms : List Message) (hpc : σ'.pc p = σ.pc p) (harrived : σ'.arrived p = σ.arrived p)
    (hsent : σ'.sentTo p = σ.sentTo p ++ encode ms)
    (hhistory : σ'.historyTo p = σ.historyTo p ++ ms) :
    σ'.unread p = σ.unread p ++ encode ms ∧ σ'.Framed p := by
  have hunread : σ'.unread p = σ.unread p ++ encode ms := by
    rw [unread, unread, inFlight, inFlight, hpc, hsent, harrived,
      List.drop_append_of_le_length harrived_le, List.append_assoc]
  refine ⟨hunread, fun hplaying => ?_⟩
  rw [hpc] at hplaying
  obtain ⟨post, ⟨pre, hpost⟩, hbytes⟩ := h hplaying
  exact ⟨post ++ ms, ⟨pre, by rw [hhistory, ← hpost, List.append_assoc]⟩,
    by rw [hunread, hbytes, encode_append]⟩

/-- What a step does to the two parties. -/
inductive ToggleStep (σ σ' : Session) : Event → Prop where
  | rest (e : Event) (h : σ'.toggle = σ.toggle) : ToggleStep σ σ' e
  | announce (p : Side) (i : Interrupt) (hflush : (σ.pc p).Flushes i)
      (hmode : (σ.pc p).mainState = .mainMenu ∨ (σ.pc p).mainState = .game)
      (hkey : Pc.taken i = 0) (h : σ'.toggle = Toggle.announce p σ.toggle) :
      ToggleStep σ σ' (.interrupt p i)
  | hear (e : Event) (p : Side) (hpos : 0 < (σ.toggle p).unread)
      (h : σ'.toggle = Toggle.hear p σ.toggle) : ToggleStep σ σ' e

/-- A key that announces flushes. -/
theorem announce_key {i : Interrupt} {ms : List Message}
    (hact : Pc.Act i (σ.pc p) (σ'.pc p) ms) (hms : ms.count .signal = 1) :
    (σ.pc p).Flushes i ∧ Pc.taken i = 0 ∧
      ((σ.pc p).mainState = .mainMenu ∨ (σ.pc p).mainState = .game) := by
  cases hact with
  | quiet ms hnone _ _ _ => simp [List.count_eq_zero.mpr hnone] at hms
  | play _ hmode _ _ hflush hkey => exact ⟨hflush, hkey, .inl hmode⟩
  | leave _ hmode _ _ hflush hkey => exact ⟨hflush, hkey, .inr hmode⟩
  | close _ _ _ _ _ _ => simp at hms
  | serial ms _ hnone _ => simp [List.count_eq_zero.mpr hnone] at hms

/-- Who has quit stays away. -/
-- only `quiet` and `serial` acts can start from `.stop`
theorem quit_act {i : Interrupt} {ms : List Message} (hact : Pc.Act i (σ.pc p) (σ'.pc p) ms)
    (hstop : (σ.pc p).mainState = .stop) : (σ'.pc p).mainState = .stop := by
  cases hact with
  | quiet ms _ _ hmode _ =>
      rcases hmode with hm | ⟨hm, -⟩ | ⟨hm, -⟩ | ⟨hm, -⟩
      · exact hm.trans hstop
      all_goals simp [hstop] at hm
  | play _ hmode _ _ _ _ => simp [hstop] at hmode
  | leave _ hmode _ _ _ _ => simp [hstop] at hmode
  | close _ hmode _ _ _ _ => rcases hmode with hm | hm | hm <;> simp [hstop] at hm
  | serial ms r _ hstep =>
      generalize σ'.pc p = s' at hstep ⊢
      cases hstep with
      | idle _ _ => exact hstop
      | drop _ _ _ _ _ _ => exact hstop
      | start _ hmode _ _ _ _ => simp [hstop] at hmode
      | leave hmode _ _ => simp [hstop] at hmode
      | payload _ _ hmode _ _ _ _ _ => simp [hstop] at hmode

theorem Quit.step {e : Event} (h : σ.Quit) (hσ : σ.Coherent) (hok : σ.Orderly e)
    (hs : σ.step e = some σ') : σ'.Quit := by
  obtain ⟨p, hstop⟩ := h
  refine ⟨p, ?_⟩
  cases stepOf hs with
  | interrupt q i hpc hother _ =>
      rcases q.eq_or_other p with rfl | rfl
      · obtain ⟨ms, hact, -⟩ := Pc.handle_act (hσ.inOrder.tame p).idle (hσ.inOrder.tame p).receiver
          (fun hm => (hσ.inOrder.aligned p).unstored (.inl hm)) hok.2 hpc
        exact quit_act hact hstop
      · rw [hother]
        exact hstop
  | deliver q b _ hpc hother _ _ =>
      rcases q.eq_or_other p with rfl | rfl
      · rw [hpc]
        exact hstop
      · rw [hother]
        exact hstop

/-- The party that does not act has the announcements of the other one to hear. -/
theorem toggle_told {ms : List Message} (haligned : σ.Aligned p) (hsame : σ'.pc p = σ.pc p)
    (hunread : σ'.unread p = σ.unread p ++ encode ms) (hbounded : ∀ m ∈ ms, m.Bounded) :
    σ'.toggle p =
      { σ.toggle p with unread := (σ.toggle p).unread + ms.count .signal } := by
  -- the new words are counted apart, as the unread bytes are even in number
  obtain ⟨-, rest, -, hrest⟩ := haligned.words
  have heven : 2 ∣ (σ.unread p).length := by
    rw [hrest, length_ofWords]
    exact ⟨_, rfl⟩
  have hms := signals_encode hbounded []
  rw [List.append_nil] at hms
  have hsignals : signals (σ'.unread p) = signals (σ.unread p) + ms.count .signal := by
    rw [hunread, signals_append heven, hms, signals_nil, Nat.add_zero]
  rw [toggle, toggle, hsame, hsignals]

/-- **One step of the two PCs.** -/
theorem Coherent.step {e : Event} (h : σ.Coherent) (hok : σ.Orderly e)
    (hs : σ.step e = some σ') :
    σ'.Coherent ∧ (σ'.Quit ∨ ToggleStep σ σ' e) := by
  have hinOrder := h.inOrder.step hok.wholeWords hs
  cases stepOf hs with
  | interrupt q i hpc hother harrived =>
      have hready := h.ready hok.1
      have hflight : σ'.inFlight q = σ.inFlight q := by
        rw [inFlight, sentTo, hother, harrived]
        rfl
      have hhistory : σ'.historyTo q = σ.historyTo q := by
        rw [historyTo, hother]
        rfl
      obtain ⟨ms, hact, htold⟩ := Pc.handle_act hready.tame.idle hready.tame.receiver
        (fun hm => hready.aligned.unstored (.inl hm)) hok.2 hpc
      obtain ⟨hunread, hframed⟩ := (h.framed q.other).hear (h.inOrder.aligned q.other).arrived_le
        ms hother (harrived q.other)
        (by rw [sentTo, sentTo, Side.other_other, htold.sent])
        (by rw [historyTo, historyTo, Side.other_other, htold.history])
      refine ⟨⟨hinOrder, fun p => ?_⟩, ?_⟩
      · rcases q.eq_or_other p with rfl | rfl
        · exact hready.framed_act hact hflight hhistory
        · exact hframed
      · by_cases hlive : (σ'.pc q).mainState = .stop
        · exact .inl ⟨q, hlive⟩
        · right
          have hbounded : ∀ m ∈ ms, m.Bounded := fun m hm =>
            (hinOrder.tame q).bounded m (by rw [htold.history]; exact List.mem_append_right _ hm)
          have htold' := toggle_told (h.inOrder.aligned q.other) hother hunread hbounded
          -- the turn of one party is a step of both, by what the other one is told
          rcases (hready.turn hact hflight hlive).outcome htold' with
            hrest | ⟨hone, hann⟩ | ⟨hpos, hhear⟩
          · exact .rest _ hrest
          · obtain ⟨hflush, hkey, hmode⟩ := announce_key hact hone
            exact .announce q i hflush hmode hkey hann
          · exact .hear _ q hpos hhear
  | deliver q b hb hpc hother harrived harrivedOther =>
      have hsent : σ'.sentTo q = σ.sentTo q := by
        rw [sentTo, hother]
        rfl
      have hhistory : σ'.historyTo q = σ.historyTo q := by
        rw [historyTo, hother]
        rfl
      obtain ⟨hunread, -⟩ := unread_deliver (h.inOrder.tame q).receiver hb hpc harrived hsent
      obtain ⟨hunreadOther, hframed⟩ := (h.framed q.other).hear
        (h.inOrder.aligned q.other).arrived_le [] hother harrivedOther
        (by rw [sentTo, sentTo, Side.other_other, hpc]; simp [Pc.receive])
        (by rw [historyTo, historyTo, Side.other_other, hpc]; simp [Pc.receive])
      rw [encode_nil, List.append_nil] at hunreadOther
      refine ⟨⟨hinOrder, fun p => ?_⟩, .inr (.rest _ (funext fun p => ?_))⟩
      · rcases q.eq_or_other p with rfl | rfl
        · intro hplaying
          rw [hpc] at hplaying
          rw [hunread, hhistory]
          exact h.framed p hplaying
        · exact hframed
      · rcases q.eq_or_other p with rfl | rfl
        · rw [toggle, toggle, hunread, hpc]
          rfl
        · rw [toggle, toggle, hunreadOther, hother]

end

/-! ## Every run -/

theorem coherent_init {S : Side → Setup} (hS : ∀ p, (S p).Healthy) : (init S).Coherent where
  inOrder := inOrder_init hS
  framed p hplaying := by
    rw [pc_init] at hplaying
    exact absurd (show Playing .mainMenu from hplaying) (by decide)

theorem toggle_init (S : Side → Setup) (p : Side) : (init S).toggle p = ⟨false, true, 0⟩ := by
  have hunread : (init S).unread p = [] := by
    rw [unread, inFlight, sentTo, pc_init, pc_init, arrived_init]
    rfl
  rw [toggle, hunread, pc_init]
  rfl

-- at the start nobody plays and nothing is unread
theorem balanced_init (S : Side → Setup) : Toggle.Balanced (init S).toggle := by
  unfold Toggle.Balanced
  rw [toggle_init, toggle_init]
  decide

theorem led_init (S : Side → Setup) : Toggle.Led (init S).toggle where
  balanced := balanced_init S
  oneWay p _ := by rw [toggle_init]
  announcer p hp := by
    rw [toggle_init] at hp
    exact absurd hp (by decide)
  unique _ hon := by
    have := hon .one
    rw [toggle_init] at this
    cases this

/-- A PC with nothing left to read. -/
structure Quiet (σ : Session) (p : Side) : Prop where
  link : σ.inFlight p = []
  fifo : (σ.pc p).receiver.fifo = []
  queue : (σ.pc p).receiver.inQueue.size = 0
  unstored : (σ.pc p).receiver.isStoredX = false

theorem Quiet.toggle {σ : Session} {p : Side} (h : σ.Quiet p) : (σ.toggle p).unread = 0 := by
  show signals (σ.unread p) = 0
  rw [unread, Receiver.waiting_of_not_stored h.unstored, h.link, Receiver.fifoBytes, h.fifo,
    Queue.toList_eq_nil_iff.mpr h.queue]
  rfl

/-- **Two PCs with nothing left to read are in the same mode**, on a run on which every flush is
clean and the queue never overflows. -/
theorem modes_agree {S : Side → Setup} (hS : ∀ p, (S p).Healthy) {es : List Event} {σ : Session}
    (hok : Transition.Along step Orderly (init S) es)
    (hrun : Transition.run step (init S) es = some σ) (hquiet : ∀ p, σ.Quiet p)
    (hmode : ∀ p, (σ.pc p).mainState = .mainMenu ∨ (σ.pc p).mainState = .game) :
    (σ.pc .one).mainState = (σ.pc .two).mainState := by
  -- once somebody has quit there is nothing more to show
  have hinv : σ.Coherent ∧ (σ.Quit ∨ Toggle.Balanced σ.toggle) := by
    refine Transition.invariant_along
      (fun σ : Session => σ.Coherent ∧ (σ.Quit ∨ Toggle.Balanced σ.toggle)) ?_
      ⟨coherent_init hS, .inr (balanced_init S)⟩ hok hrun
    rintro σ e σ' ⟨hσ, hbalanced⟩ hok hs
    obtain ⟨hσ', hstep⟩ := hσ.step hok hs
    refine ⟨hσ', ?_⟩
    rcases hbalanced with hquit | hbalanced
    · exact .inl (hquit.step hσ hok hs)
    · refine hstep.imp_right fun hstep => ?_
      cases hstep with
      | rest _ h => exact h ▸ hbalanced
      | announce p _ _ _ _ h => exact h ▸ hbalanced.announce p
      | hear _ p hpos h => exact h ▸ hbalanced.hear hpos
  rcases hinv.2 with ⟨p, hstop⟩ | hbalanced
  · rcases hmode p with hm | hm <;> simp [hstop] at hm
  -- balanced, and nothing to hear: the two parties are on the same side
  · have hagree : decide (Playing (σ.pc .one).mainState) = decide (Playing (σ.pc .two).mainState) :=
      hbalanced.agree fun p => (hquiet p).toggle
    rcases hmode .one with h₁ | h₁ <;> rcases hmode .two with h₂ | h₂ <;> rw [h₁, h₂] at hagree ⊢
    all_goals exact absurd hagree (by decide)

/-- Nobody announces anything while an announcement of the other one is unread. -/
def Courteous (σ : Session) (e : Event) : Prop :=
  σ.Orderly e ∧
    match e with
    | .interrupt p i =>
      (σ.pc p).Flushes i → Pc.taken i = 0 →
        (σ.pc p).mainState = .mainMenu ∨ (σ.pc p).mainState = .game → signals (σ.unread p) = 0
    | .deliver _ => True

/-- **Exactly one of two PCs in a game is the main one**, when neither has anything left to read, on
a run on which announcements do not cross either. -/
theorem one_main {S : Side → Setup} (hS : ∀ p, (S p).Healthy) {es : List Event} {σ : Session}
    (hok : Transition.Along step Courteous (init S) es)
    (hrun : Transition.run step (init S) es = some σ) (hquiet : ∀ p, σ.Quiet p)
    (hgame : ∀ p, (σ.pc p).mainState = .game) :
    (σ.pc .one).table.isMainPc = !(σ.pc .two).table.isMainPc := by
  -- the same induction with the stronger invariant, which knows who leads
  have hinv : σ.Coherent ∧ (σ.Quit ∨ Toggle.Led σ.toggle) := by
    refine Transition.invariant_along
      (fun σ : Session => σ.Coherent ∧ (σ.Quit ∨ Toggle.Led σ.toggle)) ?_
      ⟨coherent_init hS, .inr (led_init S)⟩ hok hrun
    rintro σ e σ' ⟨hσ, hled⟩ ⟨hok, hcourteous⟩ hs
    obtain ⟨hσ', hstep⟩ := hσ.step hok hs
    refine ⟨hσ', ?_⟩
    rcases hled with hquit | hled
    · exact .inl (hquit.step hσ hok hs)
    · refine hstep.imp_right fun hstep => ?_
      cases hstep with
      | rest _ h => exact h ▸ hled
      | announce p i hflush hmode hkey h => exact h ▸ hled.announce (hcourteous hflush hkey hmode)
      | hear _ p hpos h => exact h ▸ hled.hear hpos
  rcases hinv.2 with ⟨p, hstop⟩ | hled
  · have := hgame p
    simp [hstop] at this
  · refine hled.unique (fun p => (hquiet p).toggle) fun p => ?_
    show decide (Playing (σ.pc p).mainState) = true
    rw [hgame p]
    rfl

/-! ## Runs of the two programs -/

instance (σ : Session) (p : Side) : Decidable (σ.BetweenMessages p) :=
  decidable_of_iff (∃ pre ∈ (σ.historyTo p).inits, (encode pre).length = σ.arrived p)
    (by simp [BetweenMessages])

instance (σ : Session) (p : Side) (i : Interrupt) : Decidable (σ.CleanFlush p i) :=
  decidable_of_iff ((σ.pc p).receiver.isStoredX = false ∧ 2 ∣ σ.arrived p ∧
      ((σ.pc p).mainState ≠ .game → σ.BetweenMessages p) ∧
      signals (σ.pc p).receiver.waiting = Pc.taken i ∧
      (Pc.taken i = 0 → ¬(σ.pc p).SelectsTwice))
    ⟨fun ⟨h₁, h₂, h₃, h₄, h₅⟩ => ⟨h₁, h₂, h₃, h₄, h₅⟩,
      fun ⟨h₁, h₂, h₃, h₄, h₅⟩ => ⟨h₁, h₂, h₃, h₄, h₅⟩⟩

instance (σ : Session) (e : Event) : Decidable (σ.Orderly e) :=
  match e with
  | .interrupt _ _ => inferInstanceAs (Decidable ((_ → _) ∧ _))
  | .deliver _ => isTrue trivial

instance (σ : Session) (e : Event) : Decidable (σ.Courteous e) :=
  match e with
  | .interrupt _ _ => inferInstanceAs (Decidable (_ ∧ (_ → _ → _ ∨ _ → _)))
  | .deliver _ => inferInstanceAs (Decidable (_ ∧ True))

instance (σ : Session) (p : Side) : Decidable (σ.Quiet p) :=
  decidable_of_iff (σ.inFlight p = [] ∧ (σ.pc p).receiver.fifo.length = 0 ∧
      (σ.pc p).receiver.inQueue.size = 0 ∧ (σ.pc p).receiver.isStoredX = false)
    ⟨fun ⟨h₁, h₂, h₃, h₄⟩ => ⟨h₁, List.length_eq_zero_iff.mp h₂, h₃, h₄⟩,
      fun ⟨h₁, h₂, h₃, h₄⟩ => ⟨h₁, List.length_eq_zero_iff.mpr h₂, h₃, h₄⟩⟩

theorem modes_agree_started : ∃ σ, Transition.run step standard started = some σ ∧
    (σ.pc .one).mainState = .game ∧ (σ.pc .one).mainState = (σ.pc .two).mainState := by
  have hreach : ∃ σ, Transition.run step standard started = some σ ∧
      (σ.Quiet .one ∧ σ.Quiet .two) ∧ (σ.pc .one).mainState = .game ∧
        (σ.pc .two).mainState = .game :=
    Transition.reaches_of_any (by decide +kernel)
  obtain ⟨σ, hrun, ⟨h₁, h₂⟩, hone, htwo⟩ := hreach
  refine ⟨σ, hrun, hone,
    modes_agree (fun _ => Setup.standard_healthy) (by decide +kernel) hrun ?_ ?_⟩
  · rintro (_ | _)
    · exact h₁
    · exact h₂
  · rintro (_ | _)
    · exact .inr hone
    · exact .inr htwo

theorem one_main_started : ∃ σ, Transition.run step standard started = some σ ∧
    (σ.pc .one).table.isMainPc = true ∧
    (σ.pc .one).table.isMainPc = !(σ.pc .two).table.isMainPc := by
  have hreach : ∃ σ, Transition.run step standard started = some σ ∧
      (σ.Quiet .one ∧ σ.Quiet .two) ∧ (σ.pc .one).table.isMainPc = true ∧
        (σ.pc .one).mainState = .game ∧ (σ.pc .two).mainState = .game :=
    Transition.reaches_of_any (by decide +kernel)
  obtain ⟨σ, hrun, ⟨h₁, h₂⟩, hmain, hone, htwo⟩ := hreach
  refine ⟨σ, hrun, hmain, one_main (fun _ => Setup.standard_healthy) (by decide +kernel) hrun ?_ ?_⟩
  · rintro (_ | _)
    · exact h₁
    · exact h₂
  · rintro (_ | _)
    · exact hone
    · exact htwo

/-- Both press Play; the word of the first has arrived at the second when that one presses, and is
thrown away. -/
def playTwice : List Event :=
  playPressed ++ happens .two (key spaceBreakCode) ++ deliver .one 2 ++ serve .one

/-- The first PC is back in its menu, and the second one plays on alone. -/
theorem modes_differ : ∃ σ, Transition.run step standard playTwice = some σ ∧
    (σ.Quiet .one ∧ σ.Quiet .two) ∧ (σ.pc .one).mainState = .mainMenu ∧
      (σ.pc .two).mainState = .game :=
  Transition.reaches_of_any (by decide +kernel)

/-- In a game, both leave at the same time, and both read the other's word in the menu. -/
def leaveTogether : List Event :=
  started ++ happens .one (key escBreakCode) ++ happens .two (key escBreakCode) ++
    deliver .two 2 ++ serve .two ++ deliver .one 2 ++ serve .one

/-- Announcements do not cross, but the first PC loses one that has arrived together with another
one, and the second one cuts a displacement when it starts, so that it takes the next start/leave
word for the other half. -/
def playAlone : List Event :=
  happens .two (key spaceBreakCode) ++ happens .two (key escBreakCode) ++ deliver .one 4 ++
    serve .one ++ happens .one (mousePacket 0x09 1 0 ++ ticks 2) ++ deliver .two 2 ++
    happens .two (key spaceBreakCode) ++ deliver .one 2 ++ serve .one ++ deliver .two 2 ++
    serve .two ++ happens .one (key spaceBreakCode) ++ deliver .two 2 ++ serve .two

/-- Neither of two PCs in a game is the main one, or both are. -/
theorem not_one_main :
    (∃ σ, Transition.run step standard leaveTogether = some σ ∧ (σ.Quiet .one ∧ σ.Quiet .two) ∧
      ((σ.pc .one).mainState = .game ∧ (σ.pc .two).mainState = .game) ∧
      (σ.pc .one).table.isMainPc = false ∧ (σ.pc .two).table.isMainPc = false) ∧
    ∃ σ, Transition.run step standard playAlone = some σ ∧ (σ.Quiet .one ∧ σ.Quiet .two) ∧
      ((σ.pc .one).mainState = .game ∧ (σ.pc .two).mainState = .game) ∧
      (σ.pc .one).table.isMainPc = true ∧ (σ.pc .two).table.isMainPc = true :=
  ⟨Transition.reaches_of_any (by decide +kernel), Transition.reaches_of_any (by decide +kernel)⟩

end Session

end AirHockey
