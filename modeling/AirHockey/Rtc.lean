import Mathlib.Data.UInt
import Mathlib.Tactic.Common

/-! # The real-time clock

`rtc.c` reads the time of day field by field: through one port it names a register, through the
other it gets the byte. Every access can fail, and every field that is read goes straight into
`day_time_info`.

Each function has one lemma that says what it returns and how many accesses it makes, by what they
answer (`rtcGetConfig_spec`, `verifyBit_spec`, `rtcReadConvert_spec`). Which fields a call stores
is its `course`, a function of the failures alone; `readConvertAll_spec` shows by induction on the
fields that the call follows it. `rtcUpdateInfo_iff` then says exactly when the call keeps its
promise, for every pattern of failures, and `rtcUpdateInfo_of_binary` and
`rtcUpdateInfo_of_working` what comes of it in the two cases that a program meets. -/

namespace AirHockey

def second : UInt8 := 0
def minute : UInt8 := 2
def hour : UInt8 := 4
def day : UInt8 := 7
def month : UInt8 := 8
def year : UInt8 := 9
def rtcUpdate : UInt8 := 10
def rtcCount : UInt8 := 11

/-- The data mode bit: the registers are binary. -/
def dm : UInt8 := 0x04

/-- The update-in-progress bit. -/
def uip : UInt8 := 0x80

/-- The fields of `day_time`. -/
inductive TimeField where
  | yyyy | mm | dd | h | m | s
  deriving DecidableEq, Repr

/-- `day_time`. -/
structure DayTime where
  yyyy : UInt8
  mm : UInt8
  dd : UInt8
  h : UInt8
  m : UInt8
  s : UInt8
  deriving DecidableEq, Repr

/-- The register that a field is read from. -/
def TimeField.register : TimeField → UInt8
  | .yyyy => year
  | .mm => month
  | .dd => day
  | .h => hour
  | .m => minute
  | .s => second

namespace DayTime

def get (t : DayTime) : TimeField → UInt8
  | .yyyy => t.yyyy
  | .mm => t.mm
  | .dd => t.dd
  | .h => t.h
  | .m => t.m
  | .s => t.s

def set (t : DayTime) (f : TimeField) (v : UInt8) : DayTime :=
  match f with
  | .yyyy => { t with yyyy := v }
  | .mm => { t with mm := v }
  | .dd => { t with dd := v }
  | .h => { t with h := v }
  | .m => { t with m := v }
  | .s => { t with s := v }

theorem get_set (t : DayTime) (f g : TimeField) (v : UInt8) :
    (t.set f v).get g = if g = f then v else t.get g := by
  cases f <;> cases g <;> rfl

theorem ext_get {t u : DayTime} (h : ∀ f, t.get f = u.get f) : t = u := by
  obtain ⟨_, _, _, _, _, _⟩ := t
  obtain ⟨_, _, _, _, _, _⟩ := u
  simp only [DayTime.mk.injEq]
  exact ⟨h .yyyy, h .mm, h .dd, h .h, h .m, h .s⟩

end DayTime

/-- The clock behind its two ports: the register that is addressed, the registers, and which of the
accesses to come fail; when that list is used up, none does. -/
structure Rtc where
  address : UInt8
  registers : UInt8 → UInt8
  failures : List Bool

namespace Rtc

/-- Any access to a port: does it fail? -/
def access (d : Rtc) : Bool × Rtc :=
  (d.failures.headD false, { d with failures := d.failures.tail })

/-- `sys_outb(RTC_ADDR_REG, rtc)`; true is an error. -/
def sysOutb (d : Rtc) (rtc : UInt8) : Bool × Rtc :=
  match d.access with
  | (true, d) => (true, d)
  | (false, d) => (false, { d with address := rtc })

/-- `util_sys_inb(RTC_DATA_REG, st)`. -/
def utilSysInb (d : Rtc) : Option UInt8 × Rtc :=
  match d.access with
  | (true, d) => (none, d)
  | (false, d) => (some (d.registers d.address), d)

def rtcGetConfig (d : Rtc) (rtc : UInt8) : Option UInt8 × Rtc :=
  match d.sysOutb rtc with
  | (true, d) => (none, d)
  | (false, d) => d.utilSysInb

/-- Is the bit set in the register? True stands for 1, and is also the answer when the register
could not be read. -/
def verifyBit (d : Rtc) (rtc bit : UInt8) : Bool × Rtc :=
  match d.rtcGetConfig rtc with
  | (none, d) => (true, d)
  | (some st, d) => (st &&& bit != 0, d)

def verifyUpdating (d : Rtc) : Bool × Rtc := d.verifyBit rtcUpdate uip

def verifyBinary (d : Rtc) : Bool × Rtc := d.verifyBit rtcCount dm

end Rtc

/-- The loop of `rtc_convert_binary`, with `k` rounds to go. -/
def convertLoop : Nat → UInt8 → UInt8 → UInt8 → UInt8
  | 0, _, value, _ => value
  | k + 1, bcd, value, scale =>
    let lsb := bcd &&& 0x0F
    convertLoop k (bcd >>> 4) (value + lsb * scale) (scale * 10)

def rtcConvertBinary (bcd : UInt8) : UInt8 := convertLoop 8 bcd 0 1

/-- The field is written only if `verify_binary` returns 0. -/
def rtcReadConvert (reg : UInt8) (info : TimeField) (d : Rtc) (t : DayTime) :
    Int × Rtc × DayTime :=
  match d.rtcGetConfig reg with
  | (none, d) => (1, d, t)
  | (some rtc, d) =>
    match d.verifyBinary with
    | (true, d) => (0, d, t)
    | (false, d) => (0, d, t.set info (rtcConvertBinary rtc))

/-- The calls of `rtc_read_convert`, one after the other, up to the first that fails. -/
def readConvertAll : List (UInt8 × TimeField) → Rtc → DayTime → Int × Rtc × DayTime
  | [], d, t => (0, d, t)
  -- 1 is a failure; a field that is not written is none
  | (reg, info) :: rest, d, t =>
    match rtcReadConvert reg info d t with
    -- `if (rtc_read_convert(...)) return 1;`
    | (code, d, t) => if code ≠ 0 then (1, d, t) else readConvertAll rest d t

/-- The return code, and `day_time_info` after the call. -/
def rtcUpdateInfo (d : Rtc) (dayTimeInfo : DayTime) : Int × DayTime :=
  match d.verifyUpdating with
  | (true, _) => (1, dayTimeInfo)
  | (false, d) =>
    match readConvertAll [(second, .s), (minute, .m), (hour, .h), (day, .dd), (month, .mm),
      (year, .yyyy)] d dayTimeInfo with
    | (code, _, t) => (code, t)

/-! ## Decimal digits -/

/-- The number that two decimal digits stand for, one in each half of a byte. -/
def bcdValue (b : UInt8) : Nat := 10 * (b.toNat / 16) + b.toNat % 16

/-- Once the byte has been shifted out, the rest of the rounds add nothing. -/
theorem convertLoop_zero (k : Nat) (value scale : UInt8) : convertLoop k 0 value scale = value := by
  induction k generalizing value scale with
  | zero => rfl
  | succ k ih =>
      have hzero : value + 0 * scale = value := by rw [UInt8.zero_mul, UInt8.add_zero]
      exact (ih (value + 0 * scale) (scale * 10)).trans hzero

/-- The two digits of a byte, the last one first. -/
theorem toNat_digits (b : UInt8) :
    (b &&& 0x0F).toNat = b.toNat % 16 ∧ (b >>> 4).toNat = b.toNat / 16 := by
  constructor
  · rw [UInt8.toNat_and]
    exact Nat.and_two_pow_sub_one_eq_mod b.toNat 4
  · rw [UInt8.toNat_shiftRight]
    exact Nat.shiftRight_eq_div_pow b.toNat 4

/-- **The conversion is right**, and no byte overflows it. -/
theorem toNat_rtcConvertBinary (b : UInt8) : (rtcConvertBinary b).toNat = bcdValue b := by
  have hlt := b.toNat_lt
  -- a byte has two digits, so the third round finds nothing
  have hout : b >>> 4 >>> 4 = 0 := by
    apply UInt8.toNat_inj.mp
    rw [(toNat_digits _).2, (toNat_digits b).2]
    show b.toNat / 16 / 16 = 0
    omega
  -- the two rounds that add something, written out
  show (convertLoop 6 (b >>> 4 >>> 4) _ _).toNat = 10 * (b.toNat / 16) + b.toNat % 16
  rw [hout, convertLoop_zero]
  simp only [UInt8.toNat_add, UInt8.toNat_mul, (toNat_digits _).1, (toNat_digits _).2]
  have hlow : b.toNat % 16 ≤ 15 := by omega
  have hhigh : b.toNat / 16 ≤ 15 := by omega
  have hone : b.toNat / 16 % 16 = b.toNat / 16 := Nat.mod_eq_of_lt (by omega)
  rw [hone]
  generalize b.toNat / 16 = high at hhigh ⊢
  generalize b.toNat % 16 = low at hlow ⊢
  show ((0 + low * 1 % 256) % 256 + high * 10 % 256) % 256 = _
  omega

namespace Rtc

/-! ## The accesses of a call -/

/-- The next two accesses, as far as they are made: can a register be read, and what is left of the
list? -/
def readsRegister (failures : List Bool) : Bool × List Bool :=
  if failures.headD false then (false, failures.tail)
  else (!failures.tail.headD false, failures.tail.tail)

/-- `rtc_get_config` finds the register, if it can read it. -/
theorem rtcGetConfig_spec (d : Rtc) (rtc : UInt8) :
    ∃ d' : Rtc, d'.registers = d.registers ∧ d'.failures = (readsRegister d.failures).2 ∧
      d.rtcGetConfig rtc =
        (if (readsRegister d.failures).1 then some (d.registers rtc) else none, d') := by
  unfold rtcGetConfig sysOutb utilSysInb access
  cases haddr : d.failures.headD false with
  | true =>
      rw [readsRegister, if_pos haddr]
      refine ⟨{ d with failures := d.failures.tail }, rfl, rfl, rfl⟩
  | false =>
      rw [readsRegister, if_neg (by rw [haddr]; exact Bool.false_ne_true)]
      dsimp only
      refine ⟨{ d with address := rtc, failures := d.failures.tail.tail }, rfl, rfl, ?_⟩
      cases d.failures.tail.headD false with
      | true => rfl
      | false => rfl

/-- The two tests give 1 also when they fail. -/
theorem verifyBit_spec (d : Rtc) (rtc bit : UInt8) :
    ∃ d' : Rtc, d'.registers = d.registers ∧ d'.failures = (readsRegister d.failures).2 ∧
      d.verifyBit rtc bit =
        (!(readsRegister d.failures).1 || d.registers rtc &&& bit != 0, d') := by
  obtain ⟨d', hregisters, hfailures, heq⟩ := d.rtcGetConfig_spec rtc
  refine ⟨d', hregisters, hfailures, ?_⟩
  unfold verifyBit
  rw [heq]
  cases (readsRegister d.failures).1 with
  | false => rfl
  | true => rfl

/-- Register A says that an update is in progress. -/
def updating (d : Rtc) : Bool := d.registers rtcUpdate &&& uip != 0

/-- Register B says that the registers are binary. -/
def binary (d : Rtc) : Bool := d.registers rtcCount &&& dm != 0

/-- The number in the register of a field. -/
def value (d : Rtc) (f : TimeField) : Nat :=
  if d.binary then (d.registers f.register).toNat else bcdValue (d.registers f.register)

/-- One call of `rtc_read_convert`: it fails if the register of the field cannot be read, and it
stores the field if register B can be read, too, and the registers are decimal. -/
theorem rtcReadConvert_spec (d : Rtc) (f : TimeField) (t : DayTime) :
    ∃ d' : Rtc, d'.registers = d.registers ∧
      ((readsRegister d.failures).1 = true →
        d'.failures = (readsRegister (readsRegister d.failures).2).2) ∧
      rtcReadConvert f.register f d t =
        if (readsRegister d.failures).1 then
          (0, d', if (readsRegister (readsRegister d.failures).2).1 && !d.binary then
            t.set f (rtcConvertBinary (d.registers f.register)) else t)
        else (1, d', t) := by
  obtain ⟨d₁, hregisters, hfailures, heq⟩ := d.rtcGetConfig_spec f.register
  unfold rtcReadConvert
  rw [heq]
  cases (readsRegister d.failures).1 with
  | false => exact ⟨d₁, hregisters, fun h => absurd h Bool.false_ne_true, rfl⟩
  | true =>
      obtain ⟨d₂, hregisters', hfailures', heq'⟩ := d₁.verifyBit_spec rtcCount dm
      have hmode : d₁.verifyBinary =
          (!(readsRegister (readsRegister d.failures).2).1 || d.binary, d₂) := by
        rw [verifyBinary, heq', hregisters, hfailures, binary]
      rw [hfailures] at hfailures'
      refine ⟨d₂, hregisters'.trans hregisters, fun _ => hfailures', ?_⟩
      simp only [if_true, hmode]
      cases (readsRegister (readsRegister d.failures).2).1 with
      | false => rfl
      | true =>
          cases d.binary with
          | false => rfl
          | true => rfl

/-! ## What is stored -/

/-- How a call goes on once no update is in progress: the fields that it stores, and whether it gets
through them all. -/
structure Course where
  stored : List TimeField
  through : Bool
  deriving DecidableEq, Repr

/-- A field whose register cannot be read ends the call; one is stored if register B can be read
after it and says that the registers are decimal. -/
def course (binary : Bool) : List TimeField → List Bool → Course
  | [], _ => ⟨[], true⟩
  | f :: fs, failures =>
    let value := readsRegister failures
    let mode := readsRegister value.2
    if value.1 then
      let rest := course binary fs mode.2
      if mode.1 && !binary then { rest with stored := f :: rest.stored } else rest
    else ⟨[], false⟩

/-- **The call follows its course.** -/
theorem readConvertAll_spec (fs : List TimeField) (d : Rtc) (t : DayTime) :
    ∃ (d' : Rtc) (t' : DayTime), readConvertAll (fs.map fun f => (f.register, f)) d t =
        (if (course d.binary fs d.failures).through then 0 else 1, d', t') ∧
      ∀ g, t'.get g = if g ∈ (course d.binary fs d.failures).stored then
        rtcConvertBinary (d.registers g.register) else t.get g := by
  induction fs generalizing d t with
  | nil => exact ⟨d, t, rfl, fun g => rfl⟩
  | cons f fs ih =>
      obtain ⟨d₁, hregisters, hfailures, heq⟩ := d.rtcReadConvert_spec f t
      rw [List.map_cons, readConvertAll, heq, course]
      cases hread : (readsRegister d.failures).1 with
      | false => exact ⟨d₁, t, rfl, fun g => rfl⟩
      | true =>
          -- nothing in the clock changes but the list of the failures
          have hbinary : d₁.binary = d.binary := by rw [binary, binary, hregisters]
          obtain ⟨d', t', hrest, hget⟩ := ih d₁
            (if (readsRegister (readsRegister d.failures).2).1 && !d.binary then
              t.set f (rtcConvertBinary (d.registers f.register)) else t)
          rw [hbinary, hfailures hread] at hrest hget
          rw [hregisters] at hget
          simp only [if_true]
          cases hstore : (readsRegister (readsRegister d.failures).2).1 && !d.binary with
          | false =>
              rw [hstore] at hrest hget
              exact ⟨d', t', hrest, hget⟩
          | true =>
              rw [hstore] at hrest hget
              refine ⟨d', t', hrest, fun g => ?_⟩
              rw [hget g]
              simp only [if_true, List.mem_cons, DayTime.get_set]
              by_cases hg : g = f
              · simp [hg]
              · simp [hg]

/-- Nothing is stored of binary registers. -/
theorem course_binary (fs : List TimeField) (failures : List Bool) :
    (course true fs failures).stored = [] := by
  induction fs generalizing failures with
  | nil => rfl
  | cons f fs ih =>
      rw [course]
      -- with binary registers the last test is false, whatever register B costs
      cases (readsRegister failures).1 with
      | false => rfl
      | true =>
          simp only [Bool.not_true, Bool.and_false, if_true, Bool.false_eq_true, if_false]
          exact ih _

/-- What is stored is the number in the register. -/
theorem toNat_stored {d : Rtc} {fs : List TimeField} {failures : List Bool} {f : TimeField}
    (hf : f ∈ (course d.binary fs failures).stored) :
    (rtcConvertBinary (d.registers f.register)).toNat = d.value f := by
  cases hbinary : d.binary with
  | true =>
      rw [hbinary, course_binary] at hf
      cases hf
  | false =>
      rw [toNat_rtcConvertBinary, value, hbinary]
      rfl

/-- The fields in the order in which they are read. -/
def fields : List TimeField := [.s, .m, .h, .dd, .mm, .yyyy]

/-- The call comes to read the fields. -/
def Begins (d : Rtc) : Prop := (readsRegister d.failures).1 = true ∧ d.updating = false

instance (d : Rtc) : Decidable d.Begins := inferInstanceAs (Decidable (_ ∧ _))

/-- The course of a call that begins. -/
def reading (d : Rtc) : Course := course d.binary fields (readsRegister d.failures).2

theorem rtcUpdateInfo_idle {d : Rtc} (h : ¬d.Begins) (t : DayTime) :
    rtcUpdateInfo d t = (1, t) := by
  obtain ⟨d', -, -, heq⟩ := d.verifyBit_spec rtcUpdate uip
  have hverify : d.verifyUpdating = (true, d') := by
    rw [verifyUpdating, heq]
    unfold Begins updating at h
    -- it returns at once if register A cannot be read or says that an update is in progress
    cases hread : (readsRegister d.failures).1 with
    | false => rfl
    | true =>
        rw [hread] at h
        simpa using h
  rw [rtcUpdateInfo, hverify]

/-- **A call that begins** stores the fields of its course, and those only. -/
theorem rtcUpdateInfo_begins {d : Rtc} (h : d.Begins) (t : DayTime) :
    ∃ t', rtcUpdateInfo d t = (if d.reading.through then 0 else 1, t') ∧
      ∀ f, t'.get f = if f ∈ d.reading.stored then
        rtcConvertBinary (d.registers f.register) else t.get f := by
  obtain ⟨hread, hupdating⟩ := h
  obtain ⟨d₁, hregisters, hfailures, heq⟩ := d.verifyBit_spec rtcUpdate uip
  have hverify : d.verifyUpdating = (false, d₁) := by
    have hbit : (d.registers rtcUpdate &&& uip != 0) = false := hupdating
    rw [verifyUpdating, heq, hread, hbit]
    rfl
  -- the accesses of the first test are gone from the list
  obtain ⟨d', t', hall, hget⟩ := readConvertAll_spec fields d₁ t
  have hbinary : d₁.binary = d.binary := by rw [binary, binary, hregisters]
  rw [hbinary, hfailures] at hall hget
  rw [hregisters] at hget
  refine ⟨t', ?_, hget⟩
  rw [rtcUpdateInfo, hverify]
  dsimp only
  rw [show [(second, TimeField.s), (minute, .m), (hour, .h), (day, .dd), (month, .mm),
    (year, .yyyy)] = fields.map fun f => (f.register, f) from rfl, hall]
  rfl

/-- A binary clock is never read, whatever fails. -/
theorem rtcUpdateInfo_of_binary {d : Rtc} (h : d.binary = true) (t : DayTime) :
    (rtcUpdateInfo d t).2 = t := by
  by_cases hbegins : d.Begins
  · obtain ⟨t', heq, hget⟩ := rtcUpdateInfo_begins hbegins t
    rw [heq]
    apply DayTime.ext_get
    intro f
    rw [hget f, reading, h, course_binary]
    exact if_neg List.not_mem_nil
  · rw [rtcUpdateInfo_idle hbegins]

/-- A decimal clock whose ports all work is read completely. -/
theorem rtcUpdateInfo_of_working {d : Rtc} (hworks : d.failures = []) (hidle : d.updating = false)
    (hdecimal : d.binary = false) (t : DayTime) :
    (rtcUpdateInfo d t).1 = 0 ∧
      ∀ f, ((rtcUpdateInfo d t).2.get f).toNat = bcdValue (d.registers f.register) := by
  have hbegins : d.Begins := ⟨by rw [hworks]; rfl, hidle⟩
  have hreading : d.reading = ⟨fields, true⟩ := by
    rw [reading, hworks, hdecimal]
    decide
  obtain ⟨t', heq, hget⟩ := rtcUpdateInfo_begins hbegins t
  rw [heq, hreading]
  refine ⟨rfl, fun f => ?_⟩
  -- nothing fails, so every field is stored
  have hall : f ∈ fields := by cases f <;> decide
  rw [hget f, hreading, if_pos hall, toNat_rtcConvertBinary]

/-- The call does no harm: a field that is left out although all registers of fields can be read, or
stored before one of them cannot, has the number of its register already. -/
def Harmless (d : Rtc) (t : DayTime) : Prop :=
  d.Begins →
    (d.reading.through = true → ∀ f, f ∉ d.reading.stored → (t.get f).toNat = d.value f) ∧
    (d.reading.through = false → ∀ f, f ∈ d.reading.stored → (t.get f).toNat = d.value f)

/-- **When the time of day is read right**: a call that fails leaves `day_time_info` as it is, and
one that succeeds sets every field to the number in its register. -/
theorem rtcUpdateInfo_iff (d : Rtc) (t : DayTime) :
    (((rtcUpdateInfo d t).1 ≠ 0 → (rtcUpdateInfo d t).2 = t) ∧
      ((rtcUpdateInfo d t).1 = 0 → ∀ f, ((rtcUpdateInfo d t).2.get f).toNat = d.value f)) ↔
    d.Harmless t := by
  unfold Harmless
  by_cases hbegins : d.Begins
  · obtain ⟨t', heq, hget⟩ := rtcUpdateInfo_begins hbegins t
    rw [heq, forall_prop_of_true hbegins]
    -- with success, the fields that are not stored have to be right before the call
    cases hthrough : d.reading.through with
    | true =>
        simp only [if_true, ne_eq, not_true_eq_false, false_imp_iff, true_and, true_imp_iff,
          Bool.true_eq_false, and_true]
        apply forall_congr'
        intro f
        rw [hget f]
        by_cases hf : f ∈ d.reading.stored
        · rw [if_pos hf]
          exact iff_of_true (toNat_stored hf) fun hnot => absurd hf hnot
        · rw [if_neg hf]
          exact ⟨fun heq _ => heq, fun heq => heq hf⟩
    | false =>
        simp only [Bool.false_eq_true, if_false, ne_eq, one_ne_zero, not_false_eq_true,
          true_imp_iff, false_imp_iff, and_true, true_and]
        constructor
        · intro hsame f hf
          rw [← hsame, hget f, if_pos hf]
          exact toNat_stored hf
        · intro hold
          apply DayTime.ext_get
          intro f
          rw [hget f]
          split
          · next hf =>
              apply UInt8.toNat_inj.mp
              rw [toNat_stored hf, hold f hf]
          · rfl
  -- a call that does not begin changes nothing and fails
  · rw [rtcUpdateInfo_idle hbegins]
    simp [hbegins]

/-- A clock with `0x30` in the register of the seconds. -/
def halfPast (registerB : UInt8) (failures : List Bool) : Rtc where
  address := 0
  registers reg := if reg = rtcCount then registerB else if reg = second then 0x30 else 0
  failures := failures

/-- Without any failure a call in binary mode succeeds and leaves the seconds as they were; and when
the minutes cannot be read, a call in decimal mode fails after it has changed the seconds. -/
theorem rtcUpdateInfo_wrong :
    let d := halfPast dm []
    let d' := halfPast 0 (List.replicate 6 false ++ [true])
    let t : DayTime := ⟨24, 1, 1, 0, 0, 0⟩
    ((rtcUpdateInfo d t).1 = 0 ∧ ((rtcUpdateInfo d t).2.get .s).toNat ≠ d.value .s) ∧
      (rtcUpdateInfo d' t).1 ≠ 0 ∧ (rtcUpdateInfo d' t).2 ≠ t := by
  decide

end Rtc

end AirHockey
