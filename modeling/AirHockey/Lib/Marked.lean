import Mathlib.Data.List.Basic

/-! # Packets of three symbols, the first one marked

A device sends packets of three symbols and marks the first symbol of each. A reader collects
symbols and looks for the mark only when it has none: behind the first symbol anything may stand,
marked symbols too. Symbols get lost on the way. What the reader makes of the rest agrees with
what was sent whole exactly as long as no damaged packet leaves it with a symbol in hand.

One packet is a case analysis over what is lost of it and what the reader has in hand
(`read_whole`, `read_damaged`, `read_damaged_of_ne`). Any number of packets is an induction on the
packets: `not_inStep_of_ne` says that a reader out of step stays out of step, `read_eq_iff` that a
reader is in step at the end exactly if every damaged packet `Fades`, and `inStep_iff` looks at it
from outside, by what comes of the packets that follow. -/

namespace Marked

variable {α : Type*} (mark : α → Bool)

/-- The symbols in hand. -/
inductive Hand (α : Type*) where
  | empty
  | one (a : α)
  | two (a b : α)

/-- The next symbol, and the packet that it completes. -/
def take : Hand α → α → Option (α × α × α) × Hand α
  | .empty, a => (none, if mark a then .one a else .empty)
  | .one a, b => (none, .two a b)
  | .two a b, c => (some (a, b, c), .empty)

/-- The packets that the reader makes of `as`, and what it is left with. -/
def collect : Hand α → List α → List (α × α × α) × Hand α
  | r, [] => ([], r)
  | r, a :: as =>
    let next := take mark r a
    let rest := collect next.2 as
    (next.1.toList ++ rest.1, rest.2)

/-- A symbol on the way. -/
structure Symbol (α : Type*) where
  value : α
  lost : Bool

/-- A packet on the way; its first symbol has been sent with the mark. -/
structure Sent (mark : α → Bool) where
  first : Symbol α
  second : Symbol α
  third : Symbol α
  marked : mark first.value = true

namespace Sent

variable {mark}

def symbols (p : Sent mark) : List (Symbol α) := [p.first, p.second, p.third]

/-- Nothing of it is lost. -/
def whole (p : Sent mark) : Bool := !p.first.lost && !p.second.lost && !p.third.lost

def content (p : Sent mark) : α × α × α := (p.first.value, p.second.value, p.third.value)

/-- A reader with empty hands drops all that is left of it: the first symbol is lost, and no other
one that arrives is marked. -/
def Fades (p : Sent mark) : Prop :=
  p.first.lost = true ∧ (p.second.lost = true ∨ mark p.second.value = false) ∧
    (p.third.lost = true ∨ mark p.third.value = false)

instance (p : Sent mark) : Decidable p.Fades := inferInstanceAs (Decidable (_ ∧ _))

end Sent

/-- The symbols that arrive. -/
def arriving (symbols : List (Symbol α)) : List α :=
  (symbols.filter fun s => !s.lost).map Symbol.value

/-- The packets that arrive whole. -/
def wholes (ps : List (Sent mark)) : List (α × α × α) := (ps.filter Sent.whole).map Sent.content

/-- What the reader makes of the packets `ps`. -/
def read (r : Hand α) (ps : List (Sent mark)) : List (α × α × α) × Hand α :=
  collect mark r (arriving (ps.flatMap Sent.symbols))

variable {mark}

theorem collect_append (r : Hand α) (as bs : List α) :
    collect mark r (as ++ bs) =
      ((collect mark r as).1 ++ (collect mark (collect mark r as).2 bs).1,
        (collect mark (collect mark r as).2 bs).2) := by
  induction as generalizing r with
  | nil => rfl
  | cons a as ih => simp only [List.cons_append, collect, ih, List.append_assoc]

theorem arriving_append (as bs : List (Symbol α)) :
    arriving (as ++ bs) = arriving as ++ arriving bs := by
  unfold arriving
  rw [List.filter_append, List.map_append]

@[simp] theorem read_nil (r : Hand α) : read mark r [] = ([], r) := rfl

theorem read_append (r : Hand α) (ps qs : List (Sent mark)) :
    read mark r (ps ++ qs) =
      ((read mark r ps).1 ++ (read mark (read mark r ps).2 qs).1,
        (read mark (read mark r ps).2 qs).2) := by
  unfold read
  rw [List.flatMap_append, arriving_append, collect_append]

theorem read_cons (r : Hand α) (p : Sent mark) (ps : List (Sent mark)) :
    read mark r (p :: ps) =
      ((read mark r [p]).1 ++ (read mark (read mark r [p]).2 ps).1,
        (read mark (read mark r [p]).2 ps).2) :=
  read_append r [p] ps

theorem wholes_append (ps qs : List (Sent mark)) :
    wholes mark (ps ++ qs) = wholes mark ps ++ wholes mark qs := by
  unfold wholes
  rw [List.filter_append, List.map_append]

theorem wholes_cons (p : Sent mark) (ps : List (Sent mark)) :
    wholes mark (p :: ps) = wholes mark [p] ++ wholes mark ps :=
  wholes_append [p] ps

/-! ## One packet -/

/-- What arrives of one packet. -/
theorem arriving_symbols (p : Sent mark) : arriving ([p].flatMap Sent.symbols) =
    (if p.first.lost then [] else [p.first.value]) ++
      (if p.second.lost then [] else [p.second.value]) ++
      (if p.third.lost then [] else [p.third.value]) := by
  unfold arriving
  cases h₁ : p.first.lost <;> cases h₂ : p.second.lost <;> cases h₃ : p.third.lost <;>
    simp [Sent.symbols, h₁, h₂, h₃]

theorem wholes_of_whole {p : Sent mark} (h : p.whole = true) : wholes mark [p] = [p.content] := by
  simp [wholes, h]

theorem wholes_of_damaged {p : Sent mark} (h : p.whole = false) : wholes mark [p] = [] := by
  simp [wholes, h]

/-- A whole packet, to a reader in any state: exactly one packet comes out. -/
theorem read_whole {p : Sent mark} (h : p.whole = true) (r : Hand α) :
    ∃ out r', read mark r [p] = ([out], r') ∧ (r = .empty → out = p.content ∧ r' = .empty) ∧
      (r ≠ .empty → out = p.content → r' ≠ .empty) := by
  obtain ⟨⟨a, lostA⟩, ⟨b, lostB⟩, ⟨c, lostC⟩, hmark⟩ := p
  simp only [Sent.whole, Bool.and_eq_true, Bool.not_eq_true'] at h
  obtain ⟨⟨rfl, rfl⟩, rfl⟩ := h
  have harrive := arriving_symbols (⟨⟨a, false⟩, ⟨b, false⟩, ⟨c, false⟩, hmark⟩ : Sent mark)
  unfold read
  rw [harrive]
  unfold Sent.content
  dsimp only at hmark
  cases r with
  -- with empty hands the marked symbol is the first one, and all three come out
  | empty =>
      refine ⟨(a, b, c), .empty, ?_, fun _ => ⟨rfl, rfl⟩, fun hne => absurd rfl hne⟩
      simp [collect, take, hmark]
  | one x =>
      refine ⟨(x, a, b), if mark c then .one c else .empty, ?_, nofun, fun _ heq => ?_⟩
      · simp [collect, take]
      · -- a shifted packet equal to the sent one has three equal symbols
        obtain ⟨rfl, rfl, rfl⟩ : x = a ∧ a = b ∧ b = c := by simpa using heq
        simp [hmark]
  -- the same with two symbols in hand; the mark of the second or of the third starts a packet
  | two x y =>
      refine ⟨(x, y, a), (collect mark .empty [b, c]).2, ?_, nofun, fun _ heq => ?_⟩
      · cases hb : mark b <;> cases hc : mark c <;> simp [collect, take, hb, hc]
      · obtain ⟨rfl, rfl, rfl⟩ : x = a ∧ y = b ∧ a = c := by simpa using heq
        cases hb : mark y <;> simp [collect, take, hb, hmark]

/-- A damaged packet, to a reader with empty hands: nothing comes out, and nothing stays exactly if
the packet fades. -/
theorem read_damaged {p : Sent mark} (h : p.whole = false) :
    (read mark .empty [p]).1 = [] ∧ ((read mark .empty [p]).2 = .empty ↔ p.Fades) := by
  obtain ⟨⟨a, lostA⟩, ⟨b, lostB⟩, ⟨c, lostC⟩, hmark⟩ := p
  dsimp only at hmark
  unfold read
  rw [arriving_symbols]
  unfold Sent.Fades
  -- the seven ways to damage it; what stays depends on the marks of the symbols that arrive
  cases lostA <;> cases lostB <;> cases lostC <;> first
    | exact absurd h.symm Bool.false_ne_true
    | cases hb : mark b <;> cases hc : mark c <;> simp [collect, take, hmark, hb, hc]

/-- A damaged packet, to a reader with something in hand: something stays, or a packet comes
out. -/
theorem read_damaged_of_ne {p : Sent mark} (h : p.whole = false) {r : Hand α} (hr : r ≠ .empty) :
    (read mark r [p]).1 = [] → (read mark r [p]).2 ≠ .empty := by
  obtain ⟨⟨a, lostA⟩, ⟨b, lostB⟩, ⟨c, lostC⟩, hmark⟩ := p
  dsimp only at hmark
  unfold read
  rw [arriving_symbols]
  cases r with
  | empty => exact absurd rfl hr
  | one x =>
      cases lostA <;> cases lostB <;> cases lostC <;> first
        | exact absurd h.symm Bool.false_ne_true
        | simp [collect, take]
  | two x y =>
      cases lostA <;> cases lostB <;> cases lostC <;> first
        | exact absurd h.symm Bool.false_ne_true
        | simp [collect, take]

/-! ## Any number of packets -/

/-- As many packets come out as arrive whole, at least. -/
theorem length_wholes_le (r : Hand α) (ps : List (Sent mark)) :
    (wholes mark ps).length ≤ (read mark r ps).1.length := by
  induction ps generalizing r with
  | nil => exact Nat.zero_le _
  | cons p ps ih =>
      have hrest := ih (read mark r [p]).2
      rw [wholes_cons, read_cons, List.length_append, List.length_append]
      cases hp : p.whole with
      | true =>
          obtain ⟨out, r', hread, -, -⟩ := read_whole hp r
          rw [hread] at hrest ⊢
          rw [wholes_of_whole hp, List.length_singleton, List.length_singleton]
          omega
      | false =>
          rw [wholes_of_damaged hp, List.length_nil]
          omega

/-- **Out of step, it stays so**: with a symbol in hand, the reader cannot make exactly the whole
packets of what follows and end with empty hands. -/
theorem not_inStep_of_ne {r : Hand α} (hr : r ≠ .empty) (ps : List (Sent mark))
    (hout : (read mark r ps).1 = wholes mark ps) : (read mark r ps).2 ≠ .empty := by
  induction ps generalizing r with
  | nil => exact hr
  | cons p ps ih =>
      rw [wholes_cons, read_cons] at hout
      rw [read_cons]
      dsimp only at hout ⊢
      cases hp : p.whole with
      -- the one packet that comes out has to be the one sent, and then the hands are not empty
      | true =>
          obtain ⟨out, r', hread, -, hshift⟩ := read_whole hp r
          rw [hread, wholes_of_whole hp] at hout
          rw [hread]
          obtain ⟨hfirst, hrest⟩ := List.cons.inj hout
          exact ih (hshift hr hfirst) hrest
      | false =>
          rw [wholes_of_damaged hp, List.nil_append] at hout
          -- a packet too many cannot be made up for
          have hsilent : (read mark r [p]).1 = [] := by
            have hlen := congrArg List.length hout
            have hmany := length_wholes_le (read mark r [p]).2 ps
            rw [List.length_append] at hlen
            exact List.length_eq_zero_iff.mp (by omega)
          rw [hsilent, List.nil_append] at hout
          exact ih (read_damaged_of_ne hp hr hsilent) hout

/-- **In step**, from empty hands to empty hands: every damaged packet fades. -/
theorem read_eq_iff (ps : List (Sent mark)) :
    ((read mark .empty ps).1 = wholes mark ps ∧ (read mark .empty ps).2 = .empty) ↔
      ∀ p ∈ ps, p.whole = true ∨ p.Fades := by
  induction ps with
  | nil => simp [wholes]
  | cons p ps ih =>
      rw [List.forall_mem_cons, ← ih, wholes_cons, read_cons]
      dsimp only
      cases hp : p.whole with
      | true =>
          obtain ⟨out, r', hread, hsame, -⟩ := read_whole hp .empty
          obtain ⟨rfl, rfl⟩ := hsame rfl
          rw [hread, wholes_of_whole hp]
          simp
      | false =>
          obtain ⟨hsilent, hfades⟩ := read_damaged hp
          rw [hsilent, wholes_of_damaged hp]
          by_cases hleft : (read mark .empty [p]).2 = .empty
          · rw [hleft]
            simp [hfades.mp hleft]
          · refine iff_of_false ?_ ?_
            · rintro ⟨hout, hend⟩
              exact not_inStep_of_ne hleft ps hout hend
            · rintro ⟨hfade, -⟩
              exact hleft (hfades.mpr (hfade.resolve_left Bool.false_ne_true))

/-- **What a damaged packet does to the packets after it**: nothing, whatever whole packets follow,
exactly if every damaged packet fades. The mark has to be of some use: there is a symbol with it and
one without. -/
theorem inStep_iff {m u : α} (hm : mark m = true) (hu : mark u = false) (ps : List (Sent mark)) :
    (∀ qs : List (Sent mark), (∀ q ∈ qs, q.whole = true) →
      (read mark .empty (ps ++ qs)).1 = wholes mark (ps ++ qs)) ↔
      ∀ p ∈ ps, p.whole = true ∨ p.Fades := by
  constructor
  · intro hstep
    have hout : (read mark .empty ps).1 = wholes mark ps := by
      have := hstep [] (by simp)
      rwa [List.append_nil] at this
    refine (read_eq_iff ps).mp ⟨hout, ?_⟩
    -- the packet `m`, `u`, `u` tells empty hands from others
    let probe : Sent mark := ⟨⟨m, false⟩, ⟨u, false⟩, ⟨u, false⟩, hm⟩
    have hprobe := hstep [probe] (by simp [probe, Sent.whole])
    rw [read_append, wholes_append, hout] at hprobe
    have hread := List.append_cancel_left hprobe
    have hne : m ≠ u := by
      rintro rfl
      simp [hm] at hu
    have harrive : arriving ([probe].flatMap Sent.symbols) = [m, u, u] := rfl
    have hwhole : wholes mark [probe] = [(m, u, u)] := rfl
    rw [read, harrive, hwhole] at hread
    -- with symbols in hand, the probe does not come out as it was sent
    cases hhand : (read mark .empty ps).2 with
    | empty => rfl
    | one x =>
        rw [hhand] at hread
        simp [collect, take, hu, hne] at hread
    | two x y =>
        rw [hhand] at hread
        simp [collect, take, hu, hne] at hread
  -- conversely, whole packets are no exception to `read_eq_iff`
  · intro hfades qs hqs
    refine ((read_eq_iff (ps ++ qs)).mpr fun p hp => ?_).1
    rcases List.mem_append.mp hp with hp | hp
    · exact hfades p hp
    · exact .inl (hqs p hp)

end Marked
