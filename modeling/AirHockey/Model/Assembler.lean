import AirHockey.Lib.Marked
import AirHockey.Lib.Trace
import AirHockey.Model.Standard
import AirHockey.Model.TableStep

/-! # The mouse packet assembler

`mouse_int` collects the bytes of a packet over three interrupts, and looks for the sync bit in
the first one only. An interrupt with a damaged byte is dropped, and the count stays.

The abstract side is the reader of the library `Marked`: packets of three symbols, each of which
may be lost, and a hand that fills with what arrives. `Assembling` relates the program's `count`
and `packet` to the hand, `Assembling.skip` and `Assembling.take` are the two kinds of interrupts,
and `actedUpon_eq` follows by induction on the interrupts. `assembler_inStep_iff` transports the
reader's exact condition for staying in step; `decodePacket_injective` is what makes it exact
here, too. -/

namespace AirHockey

def hasSync (b : UInt8) : Bool := b &&& syncBit != 0

/-- Nine-bit two's complement: the sign is one of the flags, the rest is a data byte. -/
def nineBits (sign : Bool) (data : UInt8) : Int :=
  (BitVec.ofNat 9 (256 * sign.toNat + data.toNat)).toInt

/-- What the three bytes of a packet say. -/
def decodePacket (content : UInt8 × UInt8 × UInt8) : Packet :=
  let flags := content.1
  { bytes := [flags, content.2.1, content.2.2]
    rb := flags &&& rmbBit != 0
    mb := flags &&& mmbBit != 0
    lb := flags &&& lmbBit != 0
    deltaX := nineBits (flags &&& msbXDelta != 0) content.2.1
    deltaY := nineBits (flags &&& msbYDelta != 0) content.2.2
    xOv := flags &&& xOvfl != 0
    yOv := flags &&& yOvfl != 0 }

theorem parseDelta_eq (flags data msb : UInt8) :
    parseDelta flags data msb = nineBits (flags &&& msb != 0) data := by
  -- the bits of both signs are compared by computation, for all 256 data bytes
  have hplus : ∀ n < 256, (BitVec.ofNat 9 (256 * false.toNat + n)).toInt = (n : Int) := by
    decide +kernel
  have hminus : ∀ n < 256, (BitVec.ofNat 9 (256 * true.toNat + n)).toInt = (n : Int) - 256 := by
    decide +kernel
  unfold parseDelta nineBits
  by_cases hsign : flags &&& msb = 0
  · have hflag : (flags &&& msb != 0) = false := by simp [hsign]
    rw [if_neg (not_not.mpr hsign), hflag, hplus _ data.toNat_lt]
  · have hflag : (flags &&& msb != 0) = true := by simp [hsign]
    rw [if_pos hsign, hflag, hminus _ data.toNat_lt, nineBitSignExtension_byte]

theorem parseMouseData_eq (a b c : UInt8) : parseMouseData [a, b, c] = decodePacket (a, b, c) := by
  unfold parseMouseData decodePacket
  simp only [List.getD_cons_zero, List.getD_cons_succ, parseDelta_eq]

theorem decodePacket_injective : Function.Injective decodePacket := by
  rintro ⟨a, b, c⟩ ⟨a', b', c'⟩ h
  have hbytes : [a, b, c] = [a', b', c'] := congrArg Packet.bytes h
  simpa using hbytes

/-! ## One byte -/

/-- The attempts to read the 8042 bring a byte of the mouse, or one with a parity or timeout
error. -/
def Delivers (reads : List KbcRead) (b : Marked.Symbol UInt8) : Prop :=
  ∃ stat data, kbcPoll kbcRetryCnt reads = some (stat, data) ∧
    if b.lost then stat &&& (kbcParErr ||| kbcToErr) ≠ 0
    else stat &&& (kbcParErr ||| kbcToErr) = 0 ∧ stat &&& kbcAux ≠ 0 ∧ data = b.value

def handBytes : Marked.Hand UInt8 → List UInt8
  | .empty => []
  | .one a => [a]
  | .two a b => [a, b]

/-- The bytes in hand are the first `count` of `packet`. -/
structure Assembling (s : Pc) (r : Marked.Hand UInt8) : Prop where
  count : s.count = (handBytes r).length
  packet : ∃ tail, s.packet = handBytes r ++ tail ∧ s.packet.length = 3

namespace Pc

variable {s : Pc} {reads : List KbcRead} {data : UInt8}

/-- What a byte that arrives completes … -/
theorem completes_of_byte (hih : s.mouseIh reads = { s with mouseError := false, byte := data }) :
    s.completes reads =
      if s.count = 0 ∧ data &&& syncBit = 0 then none
      else if s.count + 1 = 3 then some (parseMouseData (s.packet.set s.count data))
      else none := by
  unfold completes
  rw [hih]
  rfl

/-- … and what it leaves in hand. -/
theorem hand_of_byte (hih : s.mouseIh reads = { s with mouseError := false, byte := data }) :
    ((s.mouseInt reads).count, (s.mouseInt reads).packet) =
      if s.count = 0 ∧ data &&& syncBit = 0 then (s.count, s.packet)
      else if s.count + 1 = 3 then (0, s.packet.set s.count data)
      else (s.count + 1, s.packet.set s.count data) := by
  unfold mouseInt
  rw [hih]
  dsimp only
  -- the same tests as in `completes`, with what they leave
  rw [if_neg Bool.false_ne_true]
  split
  · rfl
  · split <;> rfl

end Pc

namespace Assembling

variable {s : Pc} {r : Marked.Hand UInt8} {reads : List KbcRead} {b : UInt8}

/-- A damaged byte is dropped. -/
theorem skip (h : Assembling s r) (hread : Delivers reads ⟨b, true⟩) :
    s.completes reads = none ∧ Assembling (s.mouseInt reads) r := by
  obtain ⟨stat, data, hpoll, herror⟩ := hread
  have hih : s.mouseIh reads = { s with mouseError := true } := by
    unfold Pc.mouseIh
    rw [hpoll]
    -- `mouse_ih` reports an error, and `mouse_int` returns at once
    exact if_neg fun hok => herror hok.1
  constructor
  · unfold Pc.completes
    rw [hih]
    rfl
  · have hint : s.mouseInt reads = { s with mouseError := true } := by
      unfold Pc.mouseInt
      rw [hih]
      rfl
    rw [hint]
    exact ⟨h.count, h.packet⟩

/-- A byte that arrives is what the reader takes next. -/
theorem take (h : Assembling s r) (hread : Delivers reads ⟨b, false⟩) :
    s.completes reads = (Marked.take hasSync r b).1.map decodePacket ∧
      Assembling (s.mouseInt reads) (Marked.take hasSync r b).2 := by
  obtain ⟨stat, data, hpoll, hok, haux, rfl⟩ := hread
  obtain ⟨hcount, tail, hpacket, hlength⟩ := h
  have hih : s.mouseIh reads = { s with mouseError := false, byte := data } := by
    unfold Pc.mouseIh
    rw [hpoll]
    exact if_pos ⟨hok, haux⟩
  have hcompletes := Pc.completes_of_byte hih
  have hhand := Pc.hand_of_byte hih
  rw [hpacket, List.length_append] at hlength
  cases r with
  | empty =>
      obtain ⟨p, q, t, rfl⟩ : ∃ p q t, tail = [p, q, t] := by
        simpa [handBytes, List.length_eq_three] using hlength
      have hfirst : s.count = 0 := hcount
      have hbytes : s.packet = [p, q, t] := hpacket
      -- the first byte is taken only with the sync bit
      by_cases hsync : data &&& syncBit = 0
      · have hmark : Marked.take hasSync .empty data = (none, .empty) := by
          simp [Marked.take, hasSync, hsync]
        rw [if_pos ⟨hfirst, hsync⟩, hfirst, hbytes] at hhand
        rw [if_pos ⟨hfirst, hsync⟩] at hcompletes
        obtain ⟨hcount', hpacket'⟩ := Prod.mk.inj hhand
        rw [hmark]
        exact ⟨hcompletes, hcount', [p, q, t], hpacket', by rw [hpacket']; rfl⟩
      · have hmark : Marked.take hasSync .empty data = (none, .one data) := by
          simp [Marked.take, hasSync, hsync]
        rw [if_neg (fun h => hsync h.2), hfirst, hbytes] at hcompletes hhand
        obtain ⟨hcount', hpacket'⟩ := Prod.mk.inj hhand
        rw [hmark]
        exact ⟨hcompletes, hcount', [q, t], hpacket', by rw [hpacket']; rfl⟩
  | one a =>
      obtain ⟨q, t, rfl⟩ : ∃ q t, tail = [q, t] := by
        simp only [handBytes, List.length_singleton] at hlength
        exact List.length_eq_two.mp (by omega)
      have hsecond : s.count = 1 := hcount
      have hbytes : s.packet = [a, q, t] := hpacket
      rw [if_neg (by omega), hsecond, hbytes] at hcompletes hhand
      obtain ⟨hcount', hpacket'⟩ := Prod.mk.inj hhand
      exact ⟨hcompletes, hcount', [t], hpacket', by rw [hpacket']; rfl⟩
  | two a c =>
      obtain ⟨t, rfl⟩ : ∃ t, tail = [t] := by
        simp only [handBytes, List.length_cons, List.length_nil] at hlength
        exact List.length_eq_one_iff.mp (by omega)
      have hthird : s.count = 2 := hcount
      have hbytes : s.packet = [a, c, t] := hpacket
      rw [if_neg (by omega), hthird, hbytes] at hcompletes hhand
      obtain ⟨hcount', hpacket'⟩ := Prod.mk.inj hhand
      refine ⟨hcompletes.trans ?_, hcount', [a, c, data], hpacket', by rw [hpacket']; rfl⟩
      exact congrArg some (parseMouseData_eq a c data)

end Assembling

/-! ## Any number of bytes -/

namespace Pc

/-- The packet that an input acts upon. -/
def actsUpon (s : Pc) (i : Input) (_ : Pc) : Option Packet :=
  match s.motion i with
  | some (.packet parsing) => some parsing
  | some (.effect _) | some .tick | none => none

/-- The interrupts of the mouse, with what the 8042 answers. -/
def mouseInputs (rs : List (List KbcRead)) : List Input :=
  rs.map fun reads => .interrupt (.mouse reads)

/-- The packets acted upon while the interrupts `rs` are handled. -/
def actedUpon (s : Pc) (rs : List (List KbcRead)) : List Packet :=
  Transition.trace step actsUpon s (mouseInputs rs)

theorem actsUpon_mouse (s s' : Pc) (reads : List KbcRead) :
    s.actsUpon (.interrupt (.mouse reads)) s' = s.completes reads := by
  have hmotion : s.motion (.interrupt (.mouse reads)) = (s.completes reads).map .packet := rfl
  rw [actsUpon, hmotion]
  cases s.completes reads <;> rfl

theorem actedUpon_cons (s : Pc) (reads : List KbcRead) (rs : List (List KbcRead)) :
    s.actedUpon (reads :: rs) = (s.completes reads).toList ++ (s.mouseInt reads).actedUpon rs := by
  unfold actedUpon mouseInputs
  rw [List.map_cons, Transition.trace_cons rfl, actsUpon_mouse]

/-- **The assembler is the reader**: what it acts upon is what the reader makes of the bytes that
arrive. -/
theorem actedUpon_eq {s : Pc} {r : Marked.Hand UInt8} (h : Assembling s r)
    {rs : List (List KbcRead)} {bytes : List (Marked.Symbol UInt8)}
    (hreads : List.Forall₂ Delivers rs bytes) :
    s.actedUpon rs = (Marked.collect hasSync r (Marked.arriving bytes)).1.map decodePacket := by
  -- one interrupt for each symbol
  induction hreads generalizing s r with
  | nil => rfl
  | @cons reads b rs bytes hread _ ih =>
      obtain ⟨value, lost⟩ := b
      rw [actedUpon_cons]
      cases lost with
      | true =>
          obtain ⟨hnone, hnext⟩ := h.skip hread
          rw [hnone, ih hnext]
          rfl
      | false =>
          obtain ⟨hsome, hnext⟩ := h.take hread
          have harrive : Marked.arriving (⟨value, false⟩ :: bytes) =
              value :: Marked.arriving bytes := rfl
          rw [hsome, ih hnext, harrive, Marked.collect]
          cases (Marked.take hasSync r value).1 <;> rfl

end Pc

/-! ## Packets -/

/-- A packet of the mouse, with the damage that it takes on the way. -/
abbrev MousePacket := Marked.Sent hasSync

/-- The interrupts `rs` bring the packets `ps`. -/
def BringsPackets (rs : List (List KbcRead)) (ps : List MousePacket) : Prop :=
  List.Forall₂ Delivers rs (ps.flatMap Marked.Sent.symbols)

/-- Every packet can be brought. -/
theorem exists_bringsPackets (ps : List MousePacket) : ∃ rs, BringsPackets rs ps := by
  unfold BringsPackets
  induction ps.flatMap Marked.Sent.symbols with
  | nil => exact ⟨[], .nil⟩
  | cons b bytes ih =>
      obtain ⟨rs, hrs⟩ := ih
      let stat : UInt8 := if b.lost then kbcObf ||| kbcAux ||| kbcParErr else kbcObf ||| kbcAux
      -- the status says whether the byte is damaged; the data register holds it in either case
      refine ⟨[⟨some stat, some b.value⟩] :: rs, .cons ⟨stat, b.value, ?_⟩ hrs⟩
      cases hlost : b.lost with
      | true =>
          simp only [stat, hlost, if_true]
          exact ⟨rfl, by decide⟩
      | false =>
          simp only [stat, hlost, Bool.false_eq_true, if_false]
          exact ⟨rfl, by decide, by decide, trivial⟩

/-- **When the assembler stays in step**: whatever undamaged packets follow, the packets acted upon
are those that have arrived whole, exactly if of every damaged packet the first byte is damaged,
and each of the other two is damaged or without the sync bit. -/
theorem assembler_inStep_iff {s : Pc} (hcount : s.count = 0) (hpacket : s.packet.length = 3)
    (ps : List MousePacket) :
    (∀ qs : List MousePacket, (∀ q ∈ qs, q.whole = true) → ∀ rs, BringsPackets rs (ps ++ qs) →
      s.actedUpon rs = (Marked.wholes hasSync (ps ++ qs)).map decodePacket) ↔
      ∀ p ∈ ps, p.whole = true ∨ p.first.lost = true ∧
        (p.second.lost = true ∨ hasSync p.second.value = false) ∧
        (p.third.lost = true ∨ hasSync p.third.value = false) := by
  have hstart : Assembling s .empty := ⟨hcount, s.packet, rfl, hpacket⟩
  have hread : ∀ {rs : List (List KbcRead)} {qs : List MousePacket}, BringsPackets rs qs →
      s.actedUpon rs = (Marked.read hasSync .empty qs).1.map decodePacket :=
    fun hbrings => Pc.actedUpon_eq hstart hbrings
  have hmarked : hasSync 8 = true := by decide
  have hunmarked : hasSync 0 = false := by decide
  have hinj := List.map_injective_iff.mpr decodePacket_injective
  refine Iff.trans ?_ (Marked.inStep_iff hmarked hunmarked ps)
  constructor
  · intro hacts qs hqs
    -- some interrupts bring the packets, and the decoded packets determine the bytes
    obtain ⟨rs, hbrings⟩ := exists_bringsPackets (ps ++ qs)
    have hacted := hacts qs hqs rs hbrings
    rw [hread hbrings] at hacted
    exact hinj hacted
  · intro hstep qs hqs rs hbrings
    rw [hread hbrings, hstep qs hqs]

/-- The packet that follows the damaged one. -/
def laterPacket : MousePacket := ⟨⟨9, false⟩, ⟨2, false⟩, ⟨3, false⟩, by decide⟩

/-- Without its first byte, a packet without further sync bits is dropped whole. -/
theorem assembler_inStep_faded :
    ∃ rs, BringsPackets rs [⟨⟨8, true⟩, ⟨1, false⟩, ⟨1, false⟩, by decide⟩, laterPacket] ∧
      (init Setup.standard).actedUpon rs = [decodePacket (9, 2, 3)] := by
  let faded : MousePacket := ⟨⟨8, true⟩, ⟨1, false⟩, ⟨1, false⟩, by decide⟩
  obtain ⟨rs, hbrings⟩ := exists_bringsPackets [faded, laterPacket]
  have hstep := (assembler_inStep_iff (s := init Setup.standard) rfl rfl [faded]).mpr
    (by simp [faded]; decide)
  exact ⟨rs, hbrings, hstep [laterPacket] (by simp [laterPacket, Marked.Sent.whole]) rs hbrings⟩

/-- Without its last byte, a packet is completed by the first byte of the next one. -/
theorem assembler_shifted :
    ∃ rs, BringsPackets rs [⟨⟨8, false⟩, ⟨1, false⟩, ⟨1, true⟩, by decide⟩, laterPacket] ∧
      (init Setup.standard).count = 0 ∧
      (init Setup.standard).actedUpon rs = [decodePacket (8, 1, 9)] ∧
      (init Setup.standard).actedUpon rs ≠ [decodePacket (9, 2, 3)] := by
  obtain ⟨rs, hbrings⟩ := exists_bringsPackets
    [⟨⟨8, false⟩, ⟨1, false⟩, ⟨1, true⟩, by decide⟩, laterPacket]
  have hstart : Assembling (init Setup.standard) .empty := ⟨rfl, [0, 0, 0], rfl, rfl⟩
  -- the program's own loop, on the bytes `8, 1, 9, 2, 3`
  have hacted : (init Setup.standard).actedUpon rs = [decodePacket (8, 1, 9)] :=
    Pc.actedUpon_eq hstart hbrings
  refine ⟨rs, hbrings, rfl, hacted, ?_⟩
  rw [hacted]
  decide

end AirHockey
