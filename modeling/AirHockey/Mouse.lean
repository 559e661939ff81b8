import AirHockey.Lib.Ports
import AirHockey.Model.Handlers

/-! # Commands for the mouse

`mouse.c` talks to the mouse through the 8042: a byte that is to reach the mouse is announced with
a command of its own, and nothing may be written while the input buffer is full. The answer is
read without waiting for it. Data reporting is switched by trying until the mouse acknowledges.

`writeMouseCmd_spec` says what one attempt can do: at most 24 accesses, every write right after a
look at an empty input buffer (`Polite`), and success exactly if the mouse has got the command and
acknowledges it (`Acked`). `writeMouseCmd_cause` says why an attempt fails. `mouseReporting_spec`
puts any number of attempts together by the library's rule for them, `Prog.run_retry`; what the
controller makes of the bytes is an induction on the attempts (`after_attempts`). -/

namespace AirHockey

open Ports

abbrev PortProg (α : Type) := Prog UInt16 UInt8 α

abbrev PortAccess := Access UInt16 UInt8

def kbcOutBuf : UInt16 := 0x60
def kbcStReg : UInt16 := 0x64
def kbcCmdReg : UInt16 := 0x64

def kbcIbf : UInt8 := 0x02

def mouseWriteCmd : UInt8 := 0xD4
def dsablDataReporting : UInt8 := 0xF5
def enblDataReporting : UInt8 := 0xF4
def mouseAck : UInt8 := 0xFA

/-- The loop of `kbc_write_cmd` and `kbc_write_argument`, with `n` rounds to go; true is an
error. -/
def kbcWrite (port : UInt16) (value : UInt8) : Nat → PortProg Bool
  | 0 => .done true
  -- a status that cannot be read ends the loop
  | n + 1 => .inb kbcStReg fun
    | none => .done true
    | some stat =>
      if stat &&& kbcIbf = 0 then .outb port value fun ok => .done !ok
      else kbcWrite port value n

def kbcWriteCmd (cmd : UInt8) : PortProg Bool := kbcWrite kbcCmdReg cmd kbcRetryCnt

def kbcWriteArgument (cmd : UInt8) : PortProg Bool := kbcWrite kbcOutBuf cmd kbcRetryCnt

/-- The return code and the byte that is stored. The first round of the loop always returns, whether
the output buffer is full or not. -/
def kbcReadReturn : PortProg (UInt8 × Option UInt8) :=
  .inb kbcStReg fun
    | none => .done (1, none)
    | some stat => .inb kbcOutBuf fun
      | none => .done (1, none)
      | some cmd => .done (stat &&& (kbcParErr ||| kbcToErr), some cmd)

def writeMouseCmd (cmd : UInt8) : PortProg Nat :=
  (kbcWriteCmd mouseWriteCmd).bind fun error =>
    if error then .done 1
    else (kbcWriteArgument cmd).bind fun error =>
      if error then .done 1
      else kbcReadReturn.bind fun (code, response) =>
        if code ≠ 0 then .done 1 else .done (if response = some mouseAck then 0 else 1)

/-- `while (true) { if (write_mouse_cmd(cmd)) continue; break; } return 0;`, for at most `n` rounds;
`none` if it has not come to an end. -/
def mouseReporting (cmd : UInt8) (n : Nat) : PortProg (Option Nat) :=
  Prog.retry (writeMouseCmd cmd) (fun code => code == 0) n

def mouseEnableReporting (n : Nat) : PortProg (Option Nat) := mouseReporting enblDataReporting n

def mouseDisableReporting (n : Nat) : PortProg (Option Nat) := mouseReporting dsablDataReporting n

/-! ## What the controller gets -/

/-- The bytes that are written. -/
def sent (t : List PortAccess) : List (UInt16 × UInt8) :=
  t.filterMap fun
    | .outb port value true => some (port, value)
    | .outb _ _ false => none
    | .inb _ _ => none

theorem sent_append (t u : List PortAccess) : sent (t ++ u) = sent t ++ sent u :=
  List.filterMap_append

/-- The 8042 as its documentation has it: a byte at the data port goes to the keyboard, unless the
last command has announced it for the mouse. -/
structure Kbc where
  forMouse : Bool
  mouse : List UInt8
  keyboard : List UInt8
  deriving DecidableEq

def Kbc.take (c : Kbc) (w : UInt16 × UInt8) : Kbc :=
  if w.1 = kbcCmdReg then { c with forMouse := w.2 == mouseWriteCmd }
  else if c.forMouse then { c with forMouse := false, mouse := c.mouse ++ [w.2] }
  else { c with keyboard := c.keyboard ++ [w.2] }

/-- What has come of the bytes that are written. -/
def Kbc.after (c : Kbc) (t : List PortAccess) : Kbc := (sent t).foldl Kbc.take c

theorem Kbc.after_append (c : Kbc) (t u : List PortAccess) :
    c.after (t ++ u) = (c.after t).after u := by
  rw [after, sent_append, List.foldl_append]
  rfl

/-- Every write comes right after a look at the status that has found the input buffer empty. -/
def Polite (t : List PortAccess) : Prop :=
  ∀ before port value ok after, t = before ++ .outb port value ok :: after →
    ∃ earlier stat, before = earlier ++ [.inb kbcStReg (some stat)] ∧ stat &&& kbcIbf = 0

theorem Polite.append {t u : List PortAccess} (ht : Polite t) (hu : Polite u) :
    Polite (t ++ u) := by
  intro before port value ok after heq
  -- the write is in the second part, or in the first one
  rcases List.append_eq_append_iff.mp heq with ⟨w, rfl, hw⟩ | ⟨w, rfl, hw⟩
  · obtain ⟨earlier, stat, rfl, hstat⟩ := hu w port value ok after hw
    exact ⟨t ++ earlier, stat, by rw [List.append_assoc], hstat⟩
  · cases w with
    -- it cannot be the first access of the second part, for a look comes before it
    | nil =>
        obtain ⟨earlier, stat, hnil, hstat⟩ := hu [] port value ok after hw.symm
        cases List.append_ne_nil_of_right_ne_nil earlier (List.cons_ne_nil _ []) hnil.symm
    | cons access w =>
        obtain ⟨rfl, rfl⟩ := List.cons.inj hw
        exact ht before port value ok w rfl

theorem polite_flatten {ts : List (List PortAccess)} (h : ∀ t ∈ ts, Polite t) :
    Polite ts.flatten := by
  induction ts with
  | nil => intro before port value ok after heq; simp at heq
  | cons t ts ih =>
      rw [List.flatten_cons]
      apply (h t List.mem_cons_self).append
      exact ih fun u hu => h u (List.mem_cons_of_mem _ hu)

/-- Nothing is written. -/
theorem polite_of_reads {t : List PortAccess} (h : ∀ a ∈ t, ∃ port answer, a = .inb port answer) :
    Polite t ∧ sent t = [] := by
  constructor
  · intro before port value ok after heq
    obtain ⟨_, _, hread⟩ := h (.outb port value ok) (by rw [heq]; simp)
    cases hread
  · rw [sent, List.filterMap_eq_nil_iff]
    intro a ha
    obtain ⟨port, answer, rfl⟩ := h a ha
    rfl

/-- A look at the status before it does not matter. -/
theorem polite_read (port : UInt16) (answer : Option UInt8) : Polite [.inb port answer] := by
  intro before port' value ok after heq
  have hmem : Access.outb port' value ok ∈ [Access.inb port answer] := by
    rw [heq]
    simp
  cases List.eq_of_mem_singleton hmem

/-- A look at the status and a write. -/
theorem polite_write {stat : UInt8} (h : stat &&& kbcIbf = 0) (port : UInt16) (value : UInt8)
    (ok : Bool) : Polite [.inb kbcStReg (some stat), .outb port value ok] := by
  intro before port' value' ok' after heq
  cases before with
  | nil => cases heq
  | cons access before =>
      obtain ⟨rfl, heq⟩ := List.cons.inj heq
      cases before with
      | nil => exact ⟨[], stat, rfl, h⟩
      | cons access' before =>
          obtain ⟨-, hnil⟩ := List.cons.inj heq
          simp at hnil

/-! ## The functions -/

/-- **One byte.** It is written, or there is an error; and nothing else is. -/
theorem kbcWrite_spec {port : UInt16} {value : UInt8} {n : Nat} {t : List PortAccess}
    {error : Bool} (h : (kbcWrite port value n).Run t error) :
    Polite t ∧ sent t = (if error then [] else [(port, value)]) ∧ t.length ≤ n + 1 := by
  induction n generalizing t with
  | zero =>
      obtain ⟨rfl, rfl⟩ := Prog.run_done.mp h
      obtain ⟨hpolite, hsent⟩ := polite_of_reads (t := []) (by simp)
      exact ⟨hpolite, hsent, Nat.zero_le _⟩
  | succ n ih =>
      obtain ⟨answer, t', rfl, hnext⟩ := Prog.run_inb.mp h
      cases answer with
      | none =>
          obtain ⟨rfl, rfl⟩ := Prog.run_done.mp hnext
          exact ⟨polite_read _ _, rfl, by simp⟩
      | some stat =>
          dsimp only at hnext
          split at hnext
          · next hempty =>
            obtain ⟨ok, t'', rfl, hdone⟩ := Prog.run_outb.mp hnext
            obtain ⟨rfl, rfl⟩ := Prog.run_done.mp hdone
            refine ⟨polite_write hempty port value ok, ?_, by simp⟩
            cases ok <;> rfl
          · -- the input buffer is full: one round less
            obtain ⟨hpolite, hsent, hlength⟩ := ih hnext
            refine ⟨(polite_read _ _).append hpolite, hsent, ?_⟩
            rw [List.length_cons]
            omega

/-- The mouse has got the command, and its answer is the acknowledgement. -/
def Acked (cmd : UInt8) (t : List PortAccess) : Prop :=
  sent t = [(kbcCmdReg, mouseWriteCmd), (kbcOutBuf, cmd)] ∧
    ∃ before stat, t = before ++ [.inb kbcStReg (some stat), .inb kbcOutBuf (some mouseAck)] ∧
      stat &&& (kbcParErr ||| kbcToErr) = 0

/-- What an attempt writes: both bytes, or the first of them, or none. -/
inductive Wrote (cmd : UInt8) : List (UInt16 × UInt8) → Prop where
  | none : Wrote cmd []
  | announced : Wrote cmd [(kbcCmdReg, mouseWriteCmd)]
  | all : Wrote cmd [(kbcCmdReg, mouseWriteCmd), (kbcOutBuf, cmd)]

/-- The answer is read in two accesses, or there is an error. -/
theorem kbcReadReturn_spec {t : List PortAccess} {r : UInt8 × Option UInt8}
    (h : kbcReadReturn.Run t r) :
    (t = [.inb kbcStReg none] ∧ r.1 ≠ 0) ∨
      ∃ stat answer, t = [.inb kbcStReg (some stat), .inb kbcOutBuf answer] ∧
        (r.1 = 0 ∧ r.2 = some mouseAck ↔
          answer = some mouseAck ∧ stat &&& (kbcParErr ||| kbcToErr) = 0) := by
  obtain ⟨answer, t', rfl, hnext⟩ := Prog.run_inb.mp h
  cases answer with
  | none =>
      left
      obtain ⟨rfl, rfl⟩ := Prog.run_done.mp hnext
      exact ⟨rfl, by decide⟩
  | some stat =>
      right
      obtain ⟨answer, t'', rfl, hlast⟩ := Prog.run_inb.mp hnext
      cases answer with
      | none =>
          obtain ⟨rfl, rfl⟩ := Prog.run_done.mp hlast
          exact ⟨stat, none, rfl, by simp⟩
      | some data =>
          obtain ⟨rfl, rfl⟩ := Prog.run_done.mp hlast
          exact ⟨stat, some data, rfl, and_comm⟩

/-- Nothing is written meanwhile, and whether the answer is the acknowledgement can be told from the
last two accesses. -/
theorem kbcReadReturn_acked {t : List PortAccess} {r : UInt8 × Option UInt8}
    (h : kbcReadReturn.Run t r) (u : List PortAccess) :
    (Polite t ∧ sent t = [] ∧ t.length ≤ 2) ∧
      (r.1 = 0 ∧ r.2 = some mouseAck ↔ ∃ before stat,
        u ++ t = before ++ [.inb kbcStReg (some stat), .inb kbcOutBuf (some mouseAck)] ∧
          stat &&& (kbcParErr ||| kbcToErr) = 0) := by
  have hspec := kbcReadReturn_spec h
  constructor
  · have hreads : ∀ a ∈ t, ∃ port answer, a = Access.inb port answer := by
      rcases hspec with ⟨rfl, -⟩ | ⟨stat, answer, rfl, -⟩ <;> simp
    obtain ⟨hpolite, hsent⟩ := polite_of_reads hreads
    refine ⟨hpolite, hsent, ?_⟩
    rcases hspec with ⟨rfl, -⟩ | ⟨stat, answer, rfl, -⟩ <;> simp
  · rcases hspec with ⟨rfl, hne⟩ | ⟨stat, answer, rfl, hiff⟩
    · refine iff_of_false (fun hzero => hne hzero.1) ?_
      rintro ⟨before, stat, heq, -⟩
      have hlast := congrArg List.getLast? heq
      simp at hlast
    · rw [hiff]
      constructor
      · rintro ⟨rfl, hstat⟩
        exact ⟨u, stat, rfl, hstat⟩
      · rintro ⟨before, stat', heq, hstat⟩
        -- two lists with equal ends of length two
        obtain ⟨-, htail⟩ := List.append_inj' heq rfl
        simp only [List.cons.injEq, Access.inb.injEq, Option.some.injEq, true_and,
          and_true] at htail
        rw [htail.1]
        exact ⟨htail.2, hstat⟩

/-- **One attempt.** -/
theorem writeMouseCmd_spec {cmd : UInt8} {t : List PortAccess} {code : Nat}
    (h : (writeMouseCmd cmd).Run t code) :
    Polite t ∧ t.length ≤ 24 ∧ Wrote cmd (sent t) ∧ (code = 0 ↔ Acked cmd t) := by
  obtain ⟨t₁, t₂, error, rfl, hcmd, hrest⟩ := Prog.run_bind.mp h
  obtain ⟨hpolite₁, hsent₁, hlength₁⟩ := kbcWrite_spec hcmd
  have hretry : kbcRetryCnt = 10 := rfl
  cases error with
  | true =>
      obtain ⟨rfl, rfl⟩ := Prog.run_done.mp hrest
      rw [List.append_nil]
      have hsent : sent t₁ = [] := hsent₁
      refine ⟨hpolite₁, by omega, by rw [hsent]; exact .none, iff_of_false (by decide) ?_⟩
      rintro ⟨hall, -⟩
      rw [hsent] at hall
      cases hall
  | false =>
      have hsent₁ : sent t₁ = [(kbcCmdReg, mouseWriteCmd)] := hsent₁
      obtain ⟨t₂, t₃, error, rfl, harg, hrest⟩ := Prog.run_bind.mp hrest
      obtain ⟨hpolite₂, hsent₂, hlength₂⟩ := kbcWrite_spec harg
      cases error with
      | true =>
          obtain ⟨rfl, rfl⟩ := Prog.run_done.mp hrest
          rw [List.append_nil]
          have hsent : sent (t₁ ++ t₂) = [(kbcCmdReg, mouseWriteCmd)] := by
            rw [sent_append, hsent₁, hsent₂]
            rfl
          refine ⟨hpolite₁.append hpolite₂, ?_, by rw [hsent]; exact .announced,
            iff_of_false (by decide) ?_⟩
          · rw [List.length_append]
            omega
          · rintro ⟨hall, -⟩
            rw [hsent] at hall
            cases hall
      | false =>
          -- both bytes are written, and the answer decides
          obtain ⟨t₃, t₄, r, rfl, hread, hdone⟩ := Prog.run_bind.mp hrest
          obtain ⟨rfl, hcode⟩ : t₄ = [] ∧ (code = 0 ↔ r.1 = 0 ∧ r.2 = some mouseAck) := by
            dsimp only at hdone
            split at hdone
            · next herror =>
              obtain ⟨rfl, rfl⟩ := Prog.run_done.mp hdone
              exact ⟨rfl, by simp [herror]⟩
            · next hok =>
              obtain ⟨rfl, rfl⟩ := Prog.run_done.mp hdone
              have hok : r.1 = 0 := not_not.mp hok
              exact ⟨rfl, by simp [hok]⟩
          rw [List.append_nil]
          obtain ⟨⟨hpolite₃, hsent₃, hlength₃⟩, hacked⟩ := kbcReadReturn_acked hread (t₁ ++ t₂)
          have hsent : sent (t₁ ++ (t₂ ++ t₃)) =
              [(kbcCmdReg, mouseWriteCmd), (kbcOutBuf, cmd)] := by
            rw [sent_append, sent_append, hsent₁, hsent₂, hsent₃]
            rfl
          refine ⟨hpolite₁.append (hpolite₂.append hpolite₃), ?_, by rw [hsent]; exact .all, ?_⟩
          · rw [List.length_append, List.length_append]
            -- ten rounds of looking and a write, twice, and the two accesses of the answer
            omega
          · rw [hcode, Acked, and_iff_right hsent, hacked, List.append_assoc]

/-! ## Why an attempt fails -/

/-- What makes an attempt fail, at the end of its accesses: one that fails, an input buffer that is
found full as often as it is looked at, or an answer that does not acknowledge the command. -/
inductive Cause : List PortAccess → Prop where
  | read (before : List PortAccess) (port : UInt16) : Cause (before ++ [.inb port none])
  | write (before : List PortAccess) (port : UInt16) (value : UInt8) :
      Cause (before ++ [.outb port value false])
  | full (before : List PortAccess) (stats : List UInt8) (hcount : stats.length = kbcRetryCnt)
      (hfull : ∀ stat ∈ stats, stat &&& kbcIbf ≠ 0) :
      Cause (before ++ stats.map fun stat => .inb kbcStReg (some stat))
  | denied (before : List PortAccess) (stat data : UInt8)
      (hnot : ¬(data = mouseAck ∧ stat &&& (kbcParErr ||| kbcToErr) = 0)) :
      Cause (before ++ [.inb kbcStReg (some stat), .inb kbcOutBuf (some data)])

/-- What comes before does not matter. -/
theorem Cause.prepend {t : List PortAccess} (h : Cause t) (u : List PortAccess) :
    Cause (u ++ t) := by
  cases h with
  | read before port =>
      rw [← List.append_assoc]
      exact .read _ port
  | write before port value =>
      rw [← List.append_assoc]
      exact .write _ port value
  | full before stats hcount hfull =>
      rw [← List.append_assoc]
      exact .full _ stats hcount hfull
  | denied before stat data hnot =>
      rw [← List.append_assoc]
      exact .denied _ stat data hnot

/-- The loop gives up on an access that fails, or when its `n` rounds are over. -/
theorem kbcWrite_fails {port : UInt16} {value : UInt8} {n : Nat} {t : List PortAccess}
    (h : (kbcWrite port value n).Run t true) :
    Cause t ∨ ∃ stats : List UInt8, stats.length = n ∧ (∀ stat ∈ stats, stat &&& kbcIbf ≠ 0) ∧
      t = stats.map fun stat => .inb kbcStReg (some stat) := by
  induction n generalizing t with
  | zero =>
      obtain ⟨rfl, -⟩ := Prog.run_done.mp h
      exact .inr ⟨[], rfl, by simp, rfl⟩
  | succ n ih =>
      obtain ⟨answer, t, rfl, hnext⟩ := Prog.run_inb.mp h
      cases answer with
      | none =>
          obtain ⟨rfl, -⟩ := Prog.run_done.mp hnext
          exact .inl (.read [] kbcStReg)
      | some stat =>
          dsimp only at hnext
          split at hnext
          · obtain ⟨ok, t, rfl, hdone⟩ := Prog.run_outb.mp hnext
            obtain ⟨rfl, herror⟩ := Prog.run_done.mp hdone
            cases ok with
            | true => cases herror
            | false => exact .inl (.write [.inb kbcStReg (some stat)] port value)
          -- a full buffer, and the rounds that are left
          · next hfull =>
            rcases ih hnext with hcause | ⟨stats, hcount, hstats, rfl⟩
            · exact .inl (hcause.prepend [.inb kbcStReg (some stat)])
            · refine .inr ⟨stat :: stats, congrArg (· + 1) hcount, fun v hv => ?_, rfl⟩
              rcases List.mem_cons.mp hv with rfl | hv
              · exact hfull
              · exact hstats v hv

/-- A byte that is given up has a cause. -/
theorem kbcWrite_cause {port : UInt16} {value : UInt8} {t : List PortAccess}
    (h : (kbcWrite port value kbcRetryCnt).Run t true) : Cause t := by
  rcases kbcWrite_fails h with hcause | ⟨stats, hcount, hfull, rfl⟩
  · exact hcause
  · exact .full [] stats hcount hfull

/-- **An attempt fails for a reason.** -/
theorem writeMouseCmd_cause {cmd : UInt8} {t : List PortAccess} {code : Nat}
    (h : (writeMouseCmd cmd).Run t code) (hcode : code ≠ 0) : Cause t := by
  have hnot : ¬Acked cmd t := fun hacked => hcode ((writeMouseCmd_spec h).2.2.2.mpr hacked)
  obtain ⟨t₁, t₂, error, rfl, hcmd, hrest⟩ := Prog.run_bind.mp h
  cases error with
  | true =>
      obtain ⟨rfl, -⟩ := Prog.run_done.mp hrest
      rw [List.append_nil]
      exact kbcWrite_cause hcmd
  | false =>
      obtain ⟨t₂, t₃, error, rfl, harg, hrest⟩ := Prog.run_bind.mp hrest
      refine Cause.prepend ?_ t₁
      cases error with
      | true =>
          obtain ⟨rfl, -⟩ := Prog.run_done.mp hrest
          rw [List.append_nil]
          exact kbcWrite_cause harg
      | false =>
          obtain ⟨t₃, t₄, r, rfl, hread, hdone⟩ := Prog.run_bind.mp hrest
          obtain rfl : t₄ = [] := by
            dsimp only at hdone
            split at hdone <;> exact (Prog.run_done.mp hdone).1
          rw [List.append_nil] at hnot ⊢
          refine Cause.prepend ?_ t₂
          rcases kbcReadReturn_spec hread with ⟨rfl, -⟩ | ⟨stat, answer, rfl, -⟩
          · exact .read [] kbcStReg
          -- the answer could not be read, or it is no acknowledgement
          · cases answer with
            | none => exact .read [.inb kbcStReg (some stat)] kbcOutBuf
            | some data =>
                refine .denied [] stat data fun ⟨hack, hstat⟩ =>
                  hnot ⟨?_, t₁ ++ t₂, stat, ?_, hstat⟩
                · rw [sent_append, sent_append, (kbcWrite_spec hcmd).2.1,
                    (kbcWrite_spec harg).2.1]
                  rfl
                · rw [hack, List.append_assoc]

/-! ## Until the mouse acknowledges -/

/-- What an attempt means to the controller, which may still be waiting for a byte from the attempt
before: the mouse gets the command, or nothing. -/
theorem Wrote.after {cmd : UInt8} {t : List PortAccess} (h : Wrote cmd (sent t)) (c : Kbc) :
    (c.after t).keyboard = c.keyboard ∧
      ((c.after t).mouse = c.mouse ++ [cmd] ∨ (c.after t).mouse = c.mouse) := by
  unfold Kbc.after
  generalize sent t = writes at h ⊢
  cases h with
  | none => exact ⟨rfl, .inr rfl⟩
  | announced => exact ⟨rfl, .inr rfl⟩
  | all => exact ⟨rfl, .inl rfl⟩

/-- What a list of attempts means to the controller. -/
theorem after_attempts {cmd : UInt8} {attempts : List (List PortAccess)}
    (h : ∀ u ∈ attempts, Wrote cmd (sent u)) (c : Kbc) :
    ∃ k ≤ attempts.length, (c.after attempts.flatten).keyboard = c.keyboard ∧
      (c.after attempts.flatten).mouse = c.mouse ++ List.replicate k cmd := by
  induction attempts generalizing c with
  | nil => exact ⟨0, Nat.le_refl 0, rfl, (List.append_nil _).symm⟩
  -- the controller may be waiting for a byte when the next attempt begins
  | cons u attempts ih =>
      obtain ⟨k, hk, hkeyboard, hmouse⟩ :=
        ih (fun v hv => h v (List.mem_cons_of_mem _ hv)) (c.after u)
      obtain ⟨hkeyboard', hmouse'⟩ := (h u List.mem_cons_self).after c
      rw [List.flatten_cons, Kbc.after_append, List.length_cons]
      rcases hmouse' with hheard | hmissed
      · refine ⟨k + 1, by omega, hkeyboard.trans hkeyboard', ?_⟩
        rw [hmouse, hheard, List.append_assoc]
        rfl
      · exact ⟨k, by omega, hkeyboard.trans hkeyboard', by rw [hmouse, hmissed]⟩

/-- **Switching data reporting**, whatever the controller answers. A run consists of attempts, each
of at most 24 accesses: those that fail, each for a reason, and at last the one that the mouse
acknowledges, if the rounds have not been used up. No byte is written while the input buffer is
full; the keyboard gets nothing, and the mouse nothing but the command. -/
theorem mouseReporting_spec (cmd : UInt8) (n : Nat) (c : Kbc) {t : List PortAccess}
    {r : Option Nat} (h : (mouseReporting cmd n).Run t r) :
    Polite t ∧
      (∃ k ≤ n, (c.after t).keyboard = c.keyboard ∧
        (c.after t).mouse = c.mouse ++ List.replicate k cmd ∧ (r = some 0 → 0 < k)) ∧
      ∃ vain : List (List PortAccess),
        (∀ u ∈ vain, (∃ code ≠ 0, (writeMouseCmd cmd).Run u code) ∧ u.length ≤ 24 ∧ Cause u ∧
          ¬Acked cmd u) ∧
        (r = none ∧ vain.length = n ∧ t = vain.flatten ∨
          ∃ u, r = some 0 ∧ (writeMouseCmd cmd).Run u 0 ∧ u.length ≤ 24 ∧ Acked cmd u ∧
            vain.length < n ∧ t = vain.flatten ++ u) := by
  obtain ⟨vain, hvain, hrest⟩ := Prog.run_retry.mp h
  -- what holds of one attempt in vain, holds of each
  have hspec : ∀ u ∈ vain, Polite u ∧ Wrote cmd (sent u) := by
    intro u hu
    obtain ⟨code, hrun, -⟩ := hvain u hu
    obtain ⟨hpolite, -, hwrote, -⟩ := writeMouseCmd_spec hrun
    exact ⟨hpolite, hwrote⟩
  have hfails : ∀ u ∈ vain, (∃ code ≠ 0, (writeMouseCmd cmd).Run u code) ∧ u.length ≤ 24 ∧
      Cause u ∧ ¬Acked cmd u := by
    intro u hu
    obtain ⟨code, hrun, hcode⟩ := hvain u hu
    obtain ⟨-, hlength, -, hiff⟩ := writeMouseCmd_spec hrun
    have hne : code ≠ 0 := by simpa using hcode
    exact ⟨⟨code, hne, hrun⟩, hlength, writeMouseCmd_cause hrun hne, fun h => hne (hiff.mpr h)⟩
  have hpolite := polite_flatten fun u hu => (hspec u hu).1
  obtain ⟨k, hk, hkeyboard, hmouse⟩ := after_attempts (fun u hu => (hspec u hu).2) c
  -- the rounds are used up, or one attempt is good
  rcases hrest with ⟨rfl, rfl, rfl⟩ | ⟨code, u, rfl, hgood, hrun, hlt, rfl⟩
  · exact ⟨hpolite, ⟨k, hk, hkeyboard, hmouse, fun hnone => by cases hnone⟩, vain, hfails,
      .inl ⟨rfl, rfl, rfl⟩⟩
  · obtain ⟨hpolite', hlength, hwrote, hiff⟩ := writeMouseCmd_spec hrun
    obtain rfl : code = 0 := by simpa using hgood
    have hacked := hiff.mp rfl
    refine ⟨hpolite.append hpolite', ⟨k + 1, by omega, ?_, ?_, fun _ => Nat.succ_pos k⟩, vain,
      hfails, .inr ⟨u, rfl, hrun, hlength, hacked, hlt, rfl⟩⟩
    · rw [Kbc.after_append, (hwrote.after _).1, hkeyboard]
    · -- the last attempt has brought the command to the mouse once more
      rw [Kbc.after_append, Kbc.after, hacked.1, List.replicate_succ', ← List.append_assoc,
        ← hmouse]
      rfl

/-- An old byte in the output buffer is taken for the answer to the first attempt. -/
def twoAttempts : List PortAccess :=
  [.inb kbcStReg (some 0x02), .inb kbcStReg (some 0), .outb kbcCmdReg mouseWriteCmd true,
    .inb kbcStReg (some 0), .outb kbcOutBuf enblDataReporting true, .inb kbcStReg (some 0x01),
    .inb kbcOutBuf (some 0x1E),
    .inb kbcStReg (some 0), .outb kbcCmdReg mouseWriteCmd true, .inb kbcStReg (some 0),
    .outb kbcOutBuf enblDataReporting true, .inb kbcStReg (some 0x21),
    .inb kbcOutBuf (some mouseAck)]

theorem mouseReporting_twoAttempts :
    (mouseEnableReporting 5).Run twoAttempts (some 0) ∧ Polite twoAttempts := by
  have hrun : (mouseReporting enblDataReporting 5).Run twoAttempts (some 0) :=
    Prog.run_of_replay (by decide)
  exact ⟨hrun, (mouseReporting_spec enblDataReporting 5 ⟨false, [], []⟩ hrun).1⟩

end AirHockey
