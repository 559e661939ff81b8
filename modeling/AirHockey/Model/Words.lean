import AirHockey.Model.Line
import AirHockey.Model.Serial

/-! # The words on the wire

Everything that is sent is a sequence of 16-bit words, and a receiver whose pairing of bytes is
right sees these words. The bounds of the table make the words of a displacement and of a velocity
different from both control words.

`ofWords_words` says that the bytes of the messages are those of their words. `words_split`, by
induction on the messages, says where one is after some words: between two messages or in the
middle of one. With the bounds it follows that a start/leave word is a start/leave message
(`signal_of_words`) and that a velocity stands behind a ball word (`ball_of_words`). -/

namespace AirHockey

namespace Message

def words : Message → List Nat
  | .signal => [signal1]
  | .puck dx dy => [uint16 dx, uint16 dy]
  | .ball vx vy => [ballSignal, word (uint8 vx) (uint8 vy)]

/-- A message that the program can send: a puck crosses the table at most, and the ball is no faster
than `MAX_VELOCITY`. -/
def Bounded : Message → Prop
  | .signal => True
  | .puck dx dy => -526 ≤ dx ∧ dx ≤ 526 ∧ -742 ≤ dy ∧ dy ≤ 742
  | .ball vx vy => Slow (vx, vy)

end Message

def words (ms : List Message) : List Nat := ms.flatMap Message.words

@[simp] theorem words_nil : words [] = [] := rfl

@[simp] theorem words_cons (m : Message) (ms : List Message) :
    words (m :: ms) = m.words ++ words ms := rfl

@[simp] theorem words_append (ms ns : List Message) : words (ms ++ ns) = words ms ++ words ns :=
  List.flatMap_append

/-- Words as bytes, low byte first. -/
def ofWords (ws : List Nat) : List UInt8 := ws.flatMap wordBytes

@[simp] theorem ofWords_nil : ofWords [] = [] := rfl

@[simp] theorem ofWords_cons (w : Nat) (ws : List Nat) :
    ofWords (w :: ws) = wordBytes w ++ ofWords ws := rfl

@[simp] theorem ofWords_append (ws vs : List Nat) : ofWords (ws ++ vs) = ofWords ws ++ ofWords vs :=
  List.flatMap_append

theorem length_ofWords (ws : List Nat) : (ofWords ws).length = 2 * ws.length := by
  induction ws with
  | nil => rfl
  | cons w ws ih =>
      rw [ofWords_cons, List.length_append, ih, List.length_cons]
      show 2 + 2 * ws.length = 2 * (ws.length + 1)
      omega

/-- Dropping whole words. -/
theorem drop_ofWords (ws : List Nat) (k : Nat) :
    (ofWords ws).drop (2 * k) = ofWords (ws.drop k) := by
  induction k generalizing ws with
  | zero => rfl
  | succ k ih =>
      cases ws with
      | nil => simp
      | cons w ws => exact ih ws

theorem wordBytes_uint16 (n : Int) : wordBytes (uint16 n) = [uint8 n, uint8 (n / 256)] := by
  have hlo : uint8 (uint16 n) = uint8 n := by
    rw [← UInt8.toNat_inj, toNat_uint8, toNat_uint8, uint16]
    omega
  have hhi : uint8 ((uint16 n : Nat) / 256) = uint8 (n / 256) := by
    rw [← UInt8.toNat_inj, toNat_uint8, toNat_uint8, uint16]
    omega
  rw [wordBytes, hlo, hhi]

theorem ofWords_message (m : Message) : ofWords m.words = m.encode := by
  cases m with
  | signal => rfl
  | puck dx dy =>
      show wordBytes (uint16 dx) ++ (wordBytes (uint16 dy) ++ []) = _
      rw [wordBytes_uint16, wordBytes_uint16]
      rfl
  | ball vx vy =>
      show wordBytes ballSignal ++ (wordBytes (word (uint8 vx) (uint8 vy)) ++ []) = _
      rw [wordBytes_word]
      rfl

/-- The bytes of a sequence of messages are those of their words. -/
theorem ofWords_words (ms : List Message) : ofWords (words ms) = encode ms := by
  induction ms with
  | nil => rfl
  | cons m ms ih => rw [words_cons, ofWords_append, ofWords_message, ih, encode_cons]

theorem words_lt {ms : List Message} {w : Nat} (h : w ∈ words ms) : w < 65536 := by
  -- one word or two, and each is a remainder of 65536
  obtain ⟨m, -, hw⟩ := List.mem_flatMap.mp h
  cases m with
  | signal =>
      rcases List.mem_singleton.mp hw with rfl
      decide
  | puck dx dy =>
      rcases List.mem_pair.mp hw with rfl | rfl
      · exact uint16_lt dx
      · exact uint16_lt dy
  | ball vx vy =>
      rcases List.mem_pair.mp hw with rfl | rfl
      · decide
      · exact word_lt _ _

theorem wordBytes_injective {w v : Nat} (hw : w < 65536) (hv : v < 65536)
    (h : wordBytes w = wordBytes v) : w = v := by
  simp only [wordBytes, List.cons.injEq, and_true] at h
  rw [← word_wordBytes hw, ← word_wordBytes hv, h.1, h.2]

/-- The first word can be read off the bytes. -/
theorem ofWords_eq_append {rest : List Nat} (hrest : ∀ v ∈ rest, v < 65536) {w : Nat}
    (hw : w < 65536) {bytes : List UInt8} (h : ofWords rest = wordBytes w ++ bytes) :
    ∃ rest', rest = w :: rest' ∧ ofWords rest' = bytes := by
  cases rest with
  | nil => cases h
  | cons v rest =>
      have hbytes : wordBytes v = wordBytes w ∧ ofWords rest = bytes :=
        List.append_inj h rfl
      refine ⟨rest, ?_, hbytes.2⟩
      rw [wordBytes_injective (hrest v List.mem_cons_self) hw hbytes.1]

/-! ## Places in a sequence of messages -/

/-- Between two words one is between two messages, or between the two words of one. -/
theorem words_split {ms : List Message} {taken rest : List Nat} (h : words ms = taken ++ rest) :
    (∃ pre post, ms = pre ++ post ∧ taken = words pre ∧ rest = words post) ∨
    ∃ pre m post a b, ms = pre ++ m :: post ∧ m.words = [a, b] ∧ taken = words pre ++ [a] ∧
      rest = b :: words post := by
  induction ms generalizing taken with
  | nil =>
      obtain ⟨rfl, rfl⟩ := List.append_eq_nil_iff.mp h.symm
      exact .inl ⟨[], [], rfl, rfl, rfl⟩
  | cons m ms ih =>
      -- what follows holds of a message of one word and of a message of two
      have hnext : ∀ taken', taken = m.words ++ taken' → words ms = taken' ++ rest →
          (∃ pre post, m :: ms = pre ++ post ∧ taken = words pre ∧ rest = words post) ∨
          ∃ pre m' post a b, m :: ms = pre ++ m' :: post ∧ m'.words = [a, b] ∧
            taken = words pre ++ [a] ∧ rest = b :: words post := by
        rintro taken' rfl hrest
        rcases ih hrest with
          ⟨pre, post, rfl, rfl, hpost⟩ | ⟨pre, m', post, a, b, rfl, hm, rfl, hpost⟩
        · exact .inl ⟨m :: pre, post, rfl, rfl, hpost⟩
        · exact .inr ⟨m :: pre, m', post, a, b, rfl, hm, by simp, hpost⟩
      cases taken with
      | nil => exact .inl ⟨[], m :: ms, rfl, rfl, h.symm⟩
      -- the first word is a whole message, or the first half of one
      | cons w taken =>
          cases m with
          | signal =>
              obtain ⟨rfl, hrest⟩ := List.cons.inj h
              exact hnext taken rfl hrest
          | puck dx dy =>
              obtain ⟨rfl, hrest⟩ := List.cons.inj h
              cases taken with
              | nil => exact .inr ⟨[], .puck dx dy, ms, _, _, rfl, rfl, rfl, hrest.symm⟩
              | cons w taken =>
                  obtain ⟨rfl, hms⟩ := List.cons.inj hrest
                  exact hnext taken rfl hms
          | ball vx vy =>
              obtain ⟨rfl, hrest⟩ := List.cons.inj h
              cases taken with
              | nil => exact .inr ⟨[], .ball vx vy, ms, _, _, rfl, rfl, rfl, hrest.symm⟩
              | cons w taken =>
                  obtain ⟨rfl, hms⟩ := List.cons.inj hrest
                  exact hnext taken rfl hms

/-! ## Control words -/

theorem uint16_ne {n : Int} (h₁ : -742 ≤ n) (h₂ : n ≤ 742) :
    uint16 n ≠ signal1 ∧ uint16 n ≠ ballSignal := by
  unfold uint16 signal1 ballSignal
  omega

theorem word_ne {vx vy : Int} (h : Slow (vx, vy)) :
    word (uint8 vx) (uint8 vy) ≠ signal1 ∧ word (uint8 vx) (uint8 vy) ≠ ballSignal := by
  obtain ⟨hx, hx', hy, hy'⟩ := h
  rw [word, toNat_uint8, toNat_uint8]
  unfold signal1 ballSignal
  -- eight and less in each byte: far from `0x1000` and `0x2000`
  dsimp only at hx hx' hy hy'
  omega

namespace Message.Bounded

/-- The second word of a message is no control word. -/
theorem second_ne {m : Message} (h : m.Bounded) {a b : Nat} (hm : m.words = [a, b]) :
    b ≠ signal1 ∧ b ≠ ballSignal := by
  cases m with
  | signal => cases hm
  | puck dx dy =>
      cases hm
      exact uint16_ne h.2.2.1 h.2.2.2
  | ball vx vy =>
      cases hm
      exact word_ne h

/-- Only the start/leave message begins with its word. -/
theorem eq_signal {m : Message} (h : m.Bounded) {ws : List Nat} (hm : m.words = signal1 :: ws) :
    m = .signal := by
  cases m with
  | signal => rfl
  | puck dx dy =>
      obtain ⟨hx, hx', -⟩ := h
      exact absurd (List.cons.inj hm).1 (uint16_ne (by omega) (by omega)).1
  | ball vx vy => exact absurd (List.cons.inj hm).1 (by decide)

/-- Only a ball message begins with its word. -/
theorem eq_ball {m : Message} (h : m.Bounded) {ws : List Nat} (hm : m.words = ballSignal :: ws) :
    ∃ vx vy, m = .ball vx vy ∧ Slow (vx, vy) := by
  cases m with
  | signal => exact absurd (List.cons.inj hm).1 (by decide)
  | puck dx dy =>
      obtain ⟨hx, hx', -⟩ := h
      exact absurd (List.cons.inj hm).1 (uint16_ne (by omega) (by omega)).2
  | ball vx vy => exact ⟨vx, vy, rfl, h⟩

end Message.Bounded

section

variable {ms : List Message} (hms : ∀ m ∈ ms, m.Bounded) {taken rest : List Nat}
include hms

/-- A start/leave word among the words is a start/leave message among the messages. -/
theorem signal_of_words (h : words ms = taken ++ signal1 :: rest) :
    ∃ pre post, ms = pre ++ .signal :: post ∧ taken = words pre ∧ rest = words post := by
  -- between two messages the word is the first of one, in the middle of one it is none
  rcases words_split h with ⟨pre, post, rfl, htaken, hpost⟩ | ⟨pre, m, post, a, b, rfl, hm, -, hb⟩
  · cases post with
    | nil => cases hpost
    | cons m post =>
        have hm : m.Bounded := hms m (by simp)
        have hwords : ∃ ws, m.words = signal1 :: ws := by
          cases m <;> exact ⟨_, congrArg (· :: _) (List.cons.inj hpost.symm).1⟩
        obtain ⟨ws, hws⟩ := hwords
        obtain rfl := hm.eq_signal hws
        exact ⟨pre, post, rfl, htaken, (List.cons.inj hpost).2⟩
  · exact absurd (List.cons.inj hb).1.symm ((hms m (by simp)).second_ne hm).1

/-- What follows a ball word is a velocity. -/
theorem ball_of_words {w : Nat} (h : words ms = taken ++ ballSignal :: w :: rest) :
    ∃ vx vy, w = word (uint8 vx) (uint8 vy) ∧ Slow (vx, vy) := by
  -- the same for the ball word, and the word behind it
  rcases words_split h with ⟨pre, post, rfl, -, hpost⟩ | ⟨pre, m, post, a, b, rfl, hm, -, hb⟩
  · cases post with
    | nil => cases hpost
    | cons m post =>
        have hm : m.Bounded := hms m (by simp)
        have hwords : ∃ ws, m.words = ballSignal :: ws := by
          cases m <;> exact ⟨_, congrArg (· :: _) (List.cons.inj hpost.symm).1⟩
        obtain ⟨ws, hws⟩ := hwords
        obtain ⟨vx, vy, rfl, hslow⟩ := hm.eq_ball hws
        exact ⟨vx, vy, (List.cons.inj (List.cons.inj hpost).2).1, hslow⟩
  · exact absurd (List.cons.inj hb).1.symm ((hms m (by simp)).second_ne hm).2

end

/-- The effect of a ball message: the velocity reversed. -/
theorem payloadEffect_ball {vx vy : Int} (h : Slow (vx, vy)) :
    payloadEffect ballSignal (word (uint8 vx) (uint8 vy)) = .ballSpeed (-vx) (-vy) := by
  obtain ⟨hx, hx', hy, hy'⟩ := h
  dsimp only at hx hx' hy hy'
  rw [payloadEffect, if_pos rfl, int8_lo, int8_hi, int8_of_range (by omega) (by omega),
    int8_of_range (by omega) (by omega)]

end AirHockey
