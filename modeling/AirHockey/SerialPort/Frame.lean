import AirHockey.SerialPort.Transmitter

/-! # Frames on a line that refuses bytes

`send_char` says whether its byte went out, and nobody listens: a displacement counts as told
whatever became of its four bytes. Whether they all went out is a question about the answers of
the UART alone.

`TxSlot.accept` and `acceptAll` compute the question from these answers. One byte is an induction
on the attempts of `send_char` (`sendAttempts_accept`), any number of them one on the bytes: all
of them are on the line if they are let through (`sent_sendAll`), and fewer if one is not
(`length_sendAll_lt`). `allOrNothing_iff` then compares the two outcomes of a displacement. -/

namespace AirHockey

/-- The answers that are left when a byte has been let through within `n` looks at the line status;
`none` if it has not. -/
def TxSlot.accept : Nat → List TxSlot → Option (List TxSlot)
  | 0, _ => none
  | _ + 1, [] => some []
  | n + 1, slot :: slots =>
    match slot.status with
    | none => none
    | some status =>
      if status &&& lsrErrors ≠ 0 then none
      else if status &&& (lsrThrEmpty ||| lsrTransHoldEmpty) ≠ 0 then
        if slot.written then some slots else none
      else accept n slots

/-- As many bytes in a row are let through, each within the ten attempts of `send_char`. -/
def TxSlot.acceptAll : Nat → List TxSlot → Bool
  | 0, _ => true
  | n + 1, slots =>
    match accept 10 slots with
    | none => false
    | some slots => acceptAll n slots

namespace Transmitter

/-- `send_char` for each of the bytes, whatever it returns. -/
def sendAll (bytes : List UInt8) (t : Transmitter) : Transmitter :=
  bytes.foldl (fun t data => (sendChar data t).2) t

/-- A byte that is let through is on the line, and one that is not leaves no trace. -/
theorem sendAttempts_accept (data : UInt8) (n : Nat) (t : Transmitter) :
    match TxSlot.accept n t.slots with
    | some slots => (sendAttempts data n t).2 = { t.put data with slots := slots }
    | none => (sendAttempts data n t).2.sent = t.sent := by
  obtain ⟨slots, sent, history, gameMark⟩ := t
  induction n generalizing slots with
  | zero => rfl
  | succ n ih =>
      rcases slots with _ | ⟨⟨_ | status, written⟩, slots⟩
      · rfl
      · rfl
      · simp only [TxSlot.accept, sendAttempts]
        -- an error ends the attempts, and a busy transmitter is looked at again
        by_cases herror : status &&& lsrErrors ≠ 0
        · simp only [if_pos herror]
        · simp only [if_neg herror]
          by_cases hempty : status &&& (lsrThrEmpty ||| lsrTransHoldEmpty) ≠ 0
          · simp only [if_pos hempty]
            cases written <;> rfl
          · simp only [if_neg hempty]
            exact ih slots

theorem sent_sendAll {bytes : List UInt8} {t : Transmitter}
    (h : TxSlot.acceptAll bytes.length t.slots = true) :
    (t.sendAll bytes).sent = t.sent ++ bytes := by
  induction bytes generalizing t with
  | nil => exact (List.append_nil _).symm
  | cons data bytes ih =>
      have hsend := sendAttempts_accept data 10 t
      rw [List.length_cons, TxSlot.acceptAll] at h
      cases haccept : TxSlot.accept 10 t.slots with
      | none =>
          rw [haccept] at h
          cases h
      | some slots =>
          rw [haccept] at h hsend
          show (sendAll bytes (sendChar data t).2).sent = _
          rw [show (sendChar data t).2 = { t.put data with slots := slots } from hsend, ih h]
          exact List.append_assoc ..

/-- Each byte goes out at most once. -/
theorem length_sendAll_le (bytes : List UInt8) (t : Transmitter) :
    (t.sendAll bytes).sent.length ≤ t.sent.length + bytes.length := by
  induction bytes generalizing t with
  | nil => exact Nat.le_refl _
  | cons data bytes ih =>
      have hsend := sendAttempts_accept data 10 t
      have hone : (sendChar data t).2.sent.length ≤ t.sent.length + 1 := by
        show (sendAttempts data 10 t).2.sent.length ≤ _
        -- let through or not, one byte makes at most one
        split at hsend
        · rw [hsend]
          simp [put]
        · rw [hsend]
          exact Nat.le_succ _
      have hrest := ih (sendChar data t).2
      show (sendAll bytes (sendChar data t).2).sent.length ≤ _
      rw [List.length_cons]
      omega

/-- A byte that is not let through is missing for good. -/
theorem length_sendAll_lt {bytes : List UInt8} {t : Transmitter}
    (h : TxSlot.acceptAll bytes.length t.slots = false) :
    (t.sendAll bytes).sent.length < t.sent.length + bytes.length := by
  induction bytes generalizing t with
  | nil => cases h
  | cons data bytes ih =>
      have hsend := sendAttempts_accept data 10 t
      show (sendAll bytes (sendChar data t).2).sent.length < _
      rw [List.length_cons]
      rw [List.length_cons, TxSlot.acceptAll] at h
      cases haccept : TxSlot.accept 10 t.slots with
      | none =>
          -- this byte is missing, and each of the others makes up for itself at most
          rw [haccept] at hsend
          have hrest := length_sendAll_le bytes (sendChar data t).2
          rw [show (sendChar data t).2.sent = t.sent from hsend] at hrest
          omega
      | some slots =>
          rw [haccept] at h hsend
          have hslots : (sendChar data t).2 = { t.put data with slots := slots } := hsend
          have hrest := ih (t := (sendChar data t).2) (by rw [hslots]; exact h)
          have hlen : (sendChar data t).2.sent.length = t.sent.length + 1 := by
            rw [hslots]
            simp [put]
          omega

/-! ## Displacements -/

/-- The frame of a displacement from the place that was told last. -/
def puckFrame (bluepuck : Sprite) (previousX previousY : Int) : List UInt8 :=
  Message.encode (.puck (int16 (bluepuck.x - previousX)) (int16 (bluepuck.y - previousY)))

theorem transmitPuckChange_moved {bluepuck : Sprite} {previousX previousY : Int}
    (hmoved : ¬(bluepuck.x = previousX ∧ bluepuck.y = previousY)) (t : Transmitter) :
    (transmitPuckChange bluepuck previousX previousY t).1 =
        (t.note (.puck (int16 (bluepuck.x - previousX)) (int16 (bluepuck.y - previousY)))).sendAll
          (puckFrame bluepuck previousX previousY) ∧
      (transmitPuckChange bluepuck previousX previousY t).2 = (bluepuck.x, bluepuck.y) := by
  rw [transmitPuckChange, if_neg hmoved]
  exact ⟨rfl, rfl⟩

/-- The frame is on the line and the puck's place counts as told, or nothing has happened. -/
def AllOrNothing (bluepuck : Sprite) (previousX previousY : Int) (t : Transmitter) : Prop :=
  let sent := t.transmitPuckChange bluepuck previousX previousY
  (sent.1.sent = t.sent ++ puckFrame bluepuck previousX previousY ∧
      sent.2 = (bluepuck.x, bluepuck.y)) ∨
    (sent.1.sent = t.sent ∧ sent.2 = (previousX, previousY))

instance (bluepuck : Sprite) (previousX previousY : Int) (t : Transmitter) :
    Decidable (AllOrNothing bluepuck previousX previousY t) :=
  inferInstanceAs (Decidable (_ ∨ _))

/-- **When a displacement is told whole or not at all**: when there is nothing to tell, and when the
line takes all four bytes. -/
theorem allOrNothing_iff (bluepuck : Sprite) (previousX previousY : Int) (t : Transmitter) :
    AllOrNothing bluepuck previousX previousY t ↔
      (bluepuck.x = previousX ∧ bluepuck.y = previousY) ∨ TxSlot.acceptAll 4 t.slots = true := by
  by_cases hmoved : bluepuck.x = previousX ∧ bluepuck.y = previousY
  · refine iff_of_true (.inr ?_) (.inl hmoved)
    rw [transmitPuckChange, if_pos hmoved]
    exact ⟨rfl, rfl⟩
  · obtain ⟨hsent, htold⟩ := transmitPuckChange_moved hmoved t
    unfold AllOrNothing
    dsimp only
    rw [hsent, htold]
    generalize hu : t.note (.puck (int16 (bluepuck.x - previousX))
      (int16 (bluepuck.y - previousY))) = u
    have hslots : u.slots = t.slots := hu ▸ rfl
    have hline : u.sent = t.sent := hu ▸ rfl
    rw [← hslots, ← hline]
    constructor
    · intro h
      -- a byte that is refused leaves a gap in the frame, but the place counts as told
      refine .inr (Bool.of_not_eq_false fun hrefused => ?_)
      rcases h with ⟨hbytes, -⟩ | ⟨-, hunchanged⟩
      · have hlt : (u.sendAll (puckFrame bluepuck previousX previousY)).sent.length < _ :=
          length_sendAll_lt hrefused
        rw [hbytes, List.length_append] at hlt
        exact Nat.lt_irrefl _ hlt
      · exact hmoved (Prod.mk.inj hunchanged)
    · intro h
      exact .inl ⟨sent_sendAll (h.resolve_left hmoved), rfl⟩

/-- A transmitter that is busy for ten looks, and the other half of a displacement. -/
theorem not_allOrNothing :
    let bluepuck : Sprite := createSprite ⟨80, 80, fun _ => 0⟩ 540 714
    let t : Transmitter := ⟨List.replicate 10 ⟨some 0, true⟩, [], [], 0⟩
    (t.transmitPuckChange bluepuck 535 730).1.sent = [0, 0xF0, 0xFF] ∧
      (t.transmitPuckChange bluepuck 535 730).2 = (540, 714) ∧
      ¬AllOrNothing bluepuck 535 730 t := by
  decide

end Transmitter

end AirHockey
