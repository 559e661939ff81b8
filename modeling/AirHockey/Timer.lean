import Mathlib.Data.UInt
import AirHockey.Lib.Ports

/-! # The frequency of a timer

`timer_set_frequency` keeps the operating mode of a counter, which it asks for first, and programs
its divisor, the low byte before the high one.

The mode that it keeps has four bits, and the last of them says whether the counter reads its word
in binary or as four decimal digits. `timerSetFrequency_spec` therefore speaks of the word that the
counter holds, whatever is answered, and of the divisor where the bit is clear in the status that
has been read. The counters are the 8254's, as far as these accesses concern them; the theorem goes
through the accesses one by one, with a case for each that can fail. -/

namespace AirHockey

open Ports

def timerFreq : Nat := 1193182

/-- The ports of the three counters begin here. -/
def timer0 : UInt16 := 0x40

def timerCtrl : UInt16 := 0x43

def timerRbCmd : UInt8 := 0xC0
def timerRbCount : UInt8 := 0x20
def timerLsbMsb : UInt8 := 0x30

/-- `TIMER_RB_SEL(n)`. -/
def timerRbSel (n : UInt8) : UInt8 := 1 <<< (n + 1)

def utilGetLSB (val : UInt16) : UInt8 := (val &&& 0xFF).toUInt8

def utilGetMSB (val : UInt16) : UInt8 := ((val &&& 0xFF00) >>> 8).toUInt8

/-- The status of a counter, if it can be had. -/
def timerGetConf (timer : UInt8) : Prog UInt16 UInt8 (Option UInt8) :=
  if timer > 2 then .done none
  else .outb timerCtrl (timerRbCmd ||| timerRbCount ||| timerRbSel timer) fun ok =>
    if ok then .inb (timer0 + timer.toUInt16) .done else .done none

/-- `TIMER_SEL0` and so on. -/
def timerSel (timer : UInt8) : Option UInt8 :=
  if timer = 0 then some 0x00
  else if timer = 1 then some 0x40
  else if timer = 2 then some 0x80
  else none

def timerSetFrequency (timer : UInt8) (freq : UInt32) : Prog UInt16 UInt8 Nat :=
  if timer > 2 ∨ freq.toNat > timerFreq ∨ freq < 19 then .done 1
  else (timerGetConf timer).bind fun
    | none => .done 1
    | some command =>
      match timerSel timer with
      | none => .done 1
      | some sel =>
        let count : UInt16 := UInt16.ofNat (timerFreq / freq.toNat)
        .outb timerCtrl ((command &&& 0x0F) ||| timerLsbMsb ||| sel) fun ok =>
        if !ok then .done 1
        else .outb (timer0 + timer.toUInt16) (utilGetLSB count) fun ok =>
        if !ok then .done 1
        else .outb (timer0 + timer.toUInt16) (utilGetMSB count) fun ok =>
        .done (if ok then 0 else 1)

/-! ## The two bytes of a word -/

theorem toNat_utilGetLSB (val : UInt16) : (utilGetLSB val).toNat = val.toNat % 256 := by
  -- both bytes are remainders: `&` with ones and `>>` are `%` and `/` on the numbers
  have hmask : val.toNat &&& 255 = val.toNat % 256 := Nat.and_two_pow_sub_one_eq_mod val.toNat 8
  rw [utilGetLSB, UInt16.toNat_toUInt8, UInt16.toNat_and]
  show (val.toNat &&& 255) % 2 ^ 8 = _
  omega

theorem toNat_utilGetMSB (val : UInt16) : (utilGetMSB val).toNat = val.toNat / 256 := by
  have hlt := val.toNat_lt
  have hmask : val.toNat / 256 &&& 255 = val.toNat / 256 % 256 :=
    Nat.and_two_pow_sub_one_eq_mod (val.toNat / 256) 8
  have hshift : (val.toNat &&& 0xFF00) >>> 8 = val.toNat / 256 &&& 255 := by
    rw [Nat.shiftRight_and_distrib, Nat.shiftRight_eq_div_pow]
    rfl
  rw [utilGetMSB, UInt16.toNat_toUInt8, UInt16.toNat_shiftRight, UInt16.toNat_and]
  show ((val.toNat &&& 0xFF00) >>> 8) % 2 ^ 8 = _
  omega

/-! ## What the counters get -/

/-- The counters of the 8254 as its documentation has it: `word i` is what has been loaded into
counter `i`, `bcd i` whether it is read as decimal digits, and `low i` the low byte of the next
word, if that has been written. -/
structure Pit where
  word : UInt8 → Nat
  bcd : UInt8 → Bool
  low : UInt8 → Option UInt8

/-- What a counter divides by; zero stands for the largest divisor. -/
def Pit.divisor (c : Pit) (i : UInt8) : Nat :=
  let word := c.word i
  if c.bcd i then
    if word = 0 then 10000
    else 1000 * (word / 4096) + 100 * (word / 256 % 16) + 10 * (word / 16 % 16) + word % 16
  else if word = 0 then 65536
  else word

/-- A control word selects a counter, sets how it counts and makes it wait for both bytes of its
word, unless it only asks for a status. Other than `LSB_MSB` no access mode is used. -/
def Pit.take (c : Pit) (port : UInt16) (value : UInt8) : Pit :=
  if port = timerCtrl then
    if value >>> 6 = 3 then c
    else { c with
      bcd := Function.update c.bcd (value >>> 6) (value &&& 0x01 != 0)
      low := Function.update c.low (value >>> 6) none }
  else
    let i := (port - timer0).toUInt8
    match c.low i with
    | none => { c with low := Function.update c.low i (some value) }
    | some byte =>
      { c with
        word := Function.update c.word i (byte.toNat + 256 * value.toNat)
        low := Function.update c.low i none }

/-- What has come of a list of accesses. -/
def Pit.after (c : Pit) (t : List (Access UInt16 UInt8)) : Pit :=
  t.foldl (fun c access =>
    match access with
    | .outb port value true => c.take port value
    | .outb _ _ false => c
    | .inb _ _ => c) c

@[simp] theorem Pit.after_nil (c : Pit) : c.after [] = c := rfl

@[simp] theorem Pit.after_outb (c : Pit) (port : UInt16) (value : UInt8) (ok : Bool)
    (t : List (Access UInt16 UInt8)) :
    c.after (.outb port value ok :: t) = (if ok then c.take port value else c).after t := by
  cases ok <;> rfl

theorem Pit.after_append (c : Pit) (t u : List (Access UInt16 UInt8)) :
    c.after (t ++ u) = (c.after t).after u := List.foldl_append

/-- The access has not failed. -/
def Works : Access UInt16 UInt8 → Prop
  | .inb _ answer => answer ≠ none
  | .outb _ _ ok => ok = true

/-- The arguments that `timer_set_frequency` accepts. -/
def ValidRate (timer : UInt8) (freq : UInt32) : Prop :=
  timer ≤ 2 ∧ freq.toNat ≤ timerFreq ∧ 19 ≤ freq

/-- The divisor fits its two bytes, and it is the largest that still gives the frequency. -/
theorem divisor_spec {timer : UInt8} {freq : UInt32} (h : ValidRate timer freq) :
    0 < timerFreq / freq.toNat ∧ timerFreq / freq.toNat < 2 ^ 16 ∧
      timerFreq / freq.toNat * freq.toNat ≤ timerFreq ∧
      timerFreq < (timerFreq / freq.toNat + 1) * freq.toNat := by
  obtain ⟨-, hle, hlow⟩ := h
  -- at least 19, so the quotient has no more than 16 bits
  have hlow : 19 ≤ freq.toNat := hlow
  refine ⟨Nat.div_pos hle (by omega), ?_, Nat.div_mul_le_self _ _, ?_⟩
  · apply (Nat.div_lt_iff_lt_mul (by omega)).mpr
    unfold timerFreq
    omega
  · exact (Nat.div_lt_iff_lt_mul (by omega)).mp (Nat.lt_succ_self _)

/-- What the three counters have in common: their ports, their control words and the commands that
ask for their status. -/
structure Counter (timer sel : UInt8) : Prop where
  select : timerSel timer = some sel
  port : timer0 + timer.toUInt16 ≠ timerCtrl
  index : (timer0 + timer.toUInt16 - timer0).toUInt8 = timer
  control : ∀ mode : UInt8, ((mode &&& 0x0F) ||| timerLsbMsb ||| sel) >>> 6 = timer
  digits : ∀ mode : UInt8, ((mode &&& 0x0F) ||| timerLsbMsb ||| sel) &&& 0x01 = mode &&& 0x01
  status : (timerRbCmd ||| timerRbCount ||| timerRbSel timer) >>> 6 = 3
  selects : timer ≠ 3

theorem counter_of_le {timer : UInt8} (h : timer ≤ 2) : ∃ sel, Counter timer sel := by
  -- the control words are closed terms once the mode is one of 256 numbers
  have hcontrol : ∀ mode < 256,
      ((UInt8.ofNat mode &&& 0x0F) ||| timerLsbMsb ||| 0x00) >>> 6 = 0 ∧
      ((UInt8.ofNat mode &&& 0x0F) ||| timerLsbMsb ||| 0x40) >>> 6 = 1 ∧
      ((UInt8.ofNat mode &&& 0x0F) ||| timerLsbMsb ||| 0x80) >>> 6 = 2 := by
    decide +kernel
  have hdigits : ∀ mode < 256, ∀ sel ∈ [(0x00 : UInt8), 0x40, 0x80],
      ((UInt8.ofNat mode &&& 0x0F) ||| timerLsbMsb ||| sel) &&& 0x01 =
        UInt8.ofNat mode &&& 0x01 := by
    decide +kernel
  have hmode : ∀ mode : UInt8, UInt8.ofNat mode.toNat = mode := fun mode => UInt8.ofNat_toNat
  have hcases : timer = 0 ∨ timer = 1 ∨ timer = 2 := by
    have hle : timer.toNat ≤ 2 := h
    rw [← UInt8.toNat_inj, ← UInt8.toNat_inj, ← UInt8.toNat_inj]
    show timer.toNat = 0 ∨ timer.toNat = 1 ∨ timer.toNat = 2
    omega
  have hbit : ∀ sel ∈ [(0x00 : UInt8), 0x40, 0x80], ∀ mode : UInt8,
      ((mode &&& 0x0F) ||| timerLsbMsb ||| sel) &&& 0x01 = mode &&& 0x01 := by
    intro sel hsel mode
    rw [← hmode mode]
    exact hdigits _ mode.toNat_lt sel hsel
  rcases hcases with rfl | rfl | rfl
  · refine ⟨0x00, rfl, by decide, by decide, fun mode => ?_, hbit _ (by simp), by decide, by decide⟩
    rw [← hmode mode]
    exact (hcontrol _ mode.toNat_lt).1
  · refine ⟨0x40, rfl, by decide, by decide, fun mode => ?_, hbit _ (by simp), by decide, by decide⟩
    rw [← hmode mode]
    exact (hcontrol _ mode.toNat_lt).2.1
  · refine ⟨0x80, rfl, by decide, by decide, fun mode => ?_, hbit _ (by simp), by decide, by decide⟩
    rw [← hmode mode]
    exact (hcontrol _ mode.toNat_lt).2.2

namespace Pit

variable {timer sel : UInt8}

/-- Nothing but a second byte changes a word, and nothing but a control word how it is read. -/
theorem take_status (h : Counter timer sel) (c : Pit) :
    c.take timerCtrl (timerRbCmd ||| timerRbCount ||| timerRbSel timer) = c := by
  rw [take, if_pos rfl, if_pos h.status]

theorem take_control (h : Counter timer sel) (c : Pit) (mode : UInt8) :
    c.take timerCtrl ((mode &&& 0x0F) ||| timerLsbMsb ||| sel) =
      { c with
        bcd := Function.update c.bcd timer (mode &&& 0x01 != 0)
        low := Function.update c.low timer none } := by
  rw [take, if_pos rfl, h.control, h.digits, if_neg h.selects]

theorem take_low (h : Counter timer sel) {c : Pit} (hnone : c.low timer = none) (byte : UInt8) :
    c.take (timer0 + timer.toUInt16) byte =
      { c with low := Function.update c.low timer (some byte) } := by
  rw [take, if_neg h.port, h.index]
  dsimp only
  rw [hnone]

theorem take_high (h : Counter timer sel) {c : Pit} {low : UInt8} (hlow : c.low timer = some low)
    (byte : UInt8) : c.take (timer0 + timer.toUInt16) byte =
      { c with
        word := Function.update c.word timer (low.toNat + 256 * byte.toNat)
        low := Function.update c.low timer none } := by
  rw [take, if_neg h.port, h.index]
  dsimp only
  rw [hlow]

end Pit

/-- **The three writes**: the first one says how the word is to be read, and the last one counts. -/
theorem Pit.after_program {timer sel : UInt8} (h : Counter timer sel) (c : Pit)
    (mode low high : UInt8) (ok : Bool) :
    let c' := c.after [.outb timerCtrl ((mode &&& 0x0F) ||| timerLsbMsb ||| sel) true,
      .outb (timer0 + timer.toUInt16) low true, .outb (timer0 + timer.toUInt16) high ok]
    c'.word = (if ok then Function.update c.word timer (low.toNat + 256 * high.toNat)
      else c.word) ∧ c'.bcd = Function.update c.bcd timer (mode &&& 0x01 != 0) := by
  -- the control word has made the counter wait, the first byte is kept for the second
  have hnone : ∀ b, (Pit.low ⟨c.word, b, Function.update c.low timer none⟩) timer = none :=
    fun b => Function.update_self ..
  have hlow : ∀ b, (Pit.low ⟨c.word, b, Function.update (Function.update c.low timer none) timer
      (some low)⟩) timer = some low := fun b => Function.update_self ..
  simp only [after_outb, after_nil, if_true]
  rw [take_control h, take_low h (hnone _)]
  cases ok with
  | true =>
      rw [if_pos rfl, take_high h (hlow _), if_pos rfl]
      exact ⟨rfl, rfl⟩
  | false => exact ⟨rfl, rfl⟩

/-- The status of a counter is asked for. -/
theorem timerGetConf_spec {timer sel : UInt8} (h : Counter timer sel) (hle : timer ≤ 2) (c : Pit)
    {t : List (Access UInt16 UInt8)} {r : Option UInt8} (hrun : (timerGetConf timer).Run t r) :
    c.after t = c ∧ (r ≠ none ↔ ∀ a ∈ t, Works a) ∧
      ∀ status, r = some status → ∃ a, t = [a, .inb (timer0 + timer.toUInt16) (some status)] := by
  rw [timerGetConf, if_neg (by simpa using hle)] at hrun
  obtain ⟨ok, t', rfl, hnext⟩ := Prog.run_outb.mp hrun
  cases ok with
  | false =>
      obtain ⟨rfl, rfl⟩ := Prog.run_done.mp hnext
      exact ⟨rfl, by simp [Works], fun _ hstatus => absurd hstatus (by simp)⟩
  | true =>
      obtain ⟨answer, t'', rfl, hdone⟩ := Prog.run_inb.mp hnext
      obtain ⟨rfl, rfl⟩ := Prog.run_done.mp hdone
      refine ⟨Pit.take_status h c, by simp [Works], fun status hstatus =>
        ⟨.outb timerCtrl (timerRbCmd ||| timerRbCount ||| timerRbSel timer) true, ?_⟩⟩
      rw [hstatus]

/-- The count that is sent, put together from its two bytes. -/
theorem count_bytes {timer : UInt8} {freq : UInt32} (h : ValidRate timer freq) :
    (utilGetLSB (UInt16.ofNat (timerFreq / freq.toNat))).toNat +
      256 * (utilGetMSB (UInt16.ofNat (timerFreq / freq.toNat))).toNat =
        timerFreq / freq.toNat := by
  have hfits : timerFreq / freq.toNat < 2 ^ 16 := (divisor_spec h).2.1
  rw [toNat_utilGetLSB, toNat_utilGetMSB, UInt16.toNat_ofNat_of_lt' hfits]
  omega

/-- **The frequency of a timer**, whatever fails. The call succeeds exactly if its arguments are
valid and no access fails; then the counter holds `TIMER_FREQ / freq`, and on any failure no word
has changed. How the word is read is copied from the status that has been read, where its last bit
says so: with the bit clear, the counter divides by the word. The other counters are left alone, and
arguments that are not valid cause no access at all. -/
theorem timerSetFrequency_spec (timer : UInt8) (freq : UInt32) (c : Pit)
    {t : List (Access UInt16 UInt8)} {r : Nat} (h : (timerSetFrequency timer freq).Run t r) :
    (r = 0 ↔ ValidRate timer freq ∧ ∀ a ∈ t, Works a) ∧
      (c.after t).word = (if r = 0 then
        Function.update c.word timer (timerFreq / freq.toNat) else c.word) ∧
      (r = 0 → ∃ status, t[1]? = some (.inb (timer0 + timer.toUInt16) (some status)) ∧
        (c.after t).bcd timer = (status &&& 0x01 != 0) ∧
        (status &&& 0x01 = 0 → (c.after t).divisor timer = timerFreq / freq.toNat)) ∧
      (∀ i ≠ timer, (c.after t).divisor i = c.divisor i) ∧
      (¬ValidRate timer freq → t = []) := by
  by_cases hvalid : ValidRate timer freq
  · obtain ⟨sel, hcounter⟩ := counter_of_le hvalid.1
    -- the guard of the source lets exactly the valid arguments through
    have hguard : ¬(timer > 2 ∨ freq.toNat > timerFreq ∨ freq < 19) := by
      rintro (hbad | hbad | hbad)
      · exact absurd hvalid.1 (UInt8.not_le.mpr hbad)
      · exact absurd hvalid.2.1 (Nat.not_le.mpr hbad)
      · exact absurd hvalid.2.2 (UInt32.not_le.mpr hbad)
    have hpos : timerFreq / freq.toNat ≠ 0 := (divisor_spec hvalid).1.ne'
    rw [timerSetFrequency, if_neg hguard] at h
    obtain ⟨t₁, t₂, conf, rfl, hconf, hrest⟩ := Prog.run_bind.mp h
    obtain ⟨hafter, hworks, hread⟩ := timerGetConf_spec hcounter hvalid.1 c hconf
    rw [Pit.after_append, hafter, List.forall_mem_append, ← hworks, and_iff_right hvalid]
    cases conf with
    | none =>
        obtain ⟨rfl, rfl⟩ := Prog.run_done.mp hrest
        exact ⟨by simp, rfl, fun h0 => absurd h0 one_ne_zero, fun _ _ => rfl,
          fun hnot => absurd hvalid hnot⟩
    | some command =>
        obtain ⟨_, rfl⟩ := hread command rfl
        suffices hall : (r = 0 ↔ ∀ a ∈ t₂, Works a) ∧
            (c.after t₂).word = (if r = 0 then
              Function.update c.word timer (timerFreq / freq.toNat) else c.word) ∧
            (r = 0 → (c.after t₂).bcd timer = (command &&& 0x01 != 0)) ∧
            ∀ i ≠ timer, (c.after t₂).bcd i = c.bcd i by
          obtain ⟨hiff, hword, hbcd, hothers⟩ := hall
          refine ⟨by simpa using hiff, hword, fun h0 => ⟨command, rfl, hbcd h0, fun hbit => ?_⟩,
            fun i hi => ?_, fun hnot => absurd hvalid hnot⟩
          -- a word that is not zero is the divisor, if its digits are binary
          · simp [Pit.divisor, hbcd h0, hbit, hword, h0, hpos]
          · have hsame : (c.after t₂).word i = c.word i := by
              rw [hword]
              split
              · exact Function.update_of_ne hi _ _
              · rfl
            rw [Pit.divisor, Pit.divisor, hsame, hothers i hi]
        simp only [hcounter.select] at hrest
        have hother : ∀ (b : Bool) (i : UInt8), i ≠ timer →
            Function.update c.bcd timer b i = c.bcd i := fun b i hi => Function.update_of_ne hi _ _
        obtain ⟨ok, t₃, rfl, hlow⟩ := Prog.run_outb.mp hrest
        cases ok with
        | false =>
            obtain ⟨rfl, rfl⟩ := Prog.run_done.mp hlow
            exact ⟨by simp [Works], rfl, fun h0 => absurd h0 one_ne_zero, fun _ _ => rfl⟩
        | true =>
            obtain ⟨ok, t₄, rfl, hhigh⟩ := Prog.run_outb.mp hlow
            cases ok with
            | false =>
                -- the control word has got through, but no byte of the word
                obtain ⟨rfl, rfl⟩ := Prog.run_done.mp hhigh
                refine ⟨by simp [Works], ?_, fun h0 => absurd h0 one_ne_zero, fun i hi => ?_⟩
                · simp [Pit.take_control hcounter]
                · simpa [Pit.take_control hcounter] using hother _ i hi
            | true =>
                obtain ⟨ok, t₅, rfl, hdone⟩ := Prog.run_outb.mp hhigh
                obtain ⟨rfl, rfl⟩ := Prog.run_done.mp hdone
                obtain ⟨hword, hbcd⟩ := Pit.after_program hcounter c command
                  (utilGetLSB (UInt16.ofNat (timerFreq / freq.toNat)))
                  (utilGetMSB (UInt16.ofNat (timerFreq / freq.toNat))) ok
                rw [count_bytes hvalid] at hword
                refine ⟨by cases ok <;> simp [Works], ?_, fun _ => ?_, fun i hi => ?_⟩
                · rw [hword]
                  cases ok <;> rfl
                · rw [hbcd]
                  exact Function.update_self ..
                · rw [hbcd]
                  exact hother _ i hi
  · have hguard : timer > 2 ∨ freq.toNat > timerFreq ∨ freq < 19 := by
      by_contra hnot
      rw [not_or, not_or] at hnot
      exact hvalid ⟨UInt8.not_lt.mp hnot.1, Nat.not_lt.mp hnot.2.1, UInt32.not_lt.mp hnot.2.2⟩
    rw [timerSetFrequency, if_pos hguard] at h
    obtain ⟨rfl, rfl⟩ := Prog.run_done.mp h
    exact ⟨by simp [hvalid], rfl, fun h0 => absurd h0 one_ne_zero, fun _ _ => rfl, fun _ => rfl⟩

/-- 60 ticks a second: the counter is to divide by 19886. -/
def sixtyHertz : List (Access UInt16 UInt8) :=
  [.outb timerCtrl 0xE2 true, .inb timer0 (some 0x36), .outb timerCtrl 0x36 true,
    .outb timer0 0xAE true, .outb timer0 0x4D true]

theorem timerSetFrequency_sixtyHertz :
    (timerSetFrequency 0 60).Run sixtyHertz 0 ∧
      ((⟨fun _ => 0, fun _ => true, fun _ => none⟩ : Pit).after sixtyHertz).divisor 0 = 19886 := by
  have hrun : (timerSetFrequency 0 60).Run sixtyHertz 0 := Prog.run_of_replay (by decide)
  refine ⟨hrun, ?_⟩
  -- the status that has been read is `0x36`, and its last bit is clear
  obtain ⟨-, -, hset, -⟩ :=
    timerSetFrequency_spec 0 60 ⟨fun _ => 0, fun _ => true, fun _ => none⟩ hrun
  obtain ⟨status, hread, -, hdivisor⟩ := hset rfl
  cases hread
  exact hdivisor (by decide)

end AirHockey
