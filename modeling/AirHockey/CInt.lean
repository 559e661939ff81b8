import Mathlib.Data.Nat.ModEq

/-! # Fixed-width conversions

The program computes in `int` and narrows on assignment. `int` itself never overflows in it, so it
is `Int` here; what does matter is the narrowing to 8 and 16 bits on the way to the serial line
and back.

What the other modules use is how the conversions compose: a sender's narrowing and a receiver's
are one narrowing (`int16_uint16`, `int16_neg_uint16`), two bytes put together are the word that
they were taken from (`word_uint8`), and each signed byte comes back (`int8_lo`, `int8_hi`). All
of them are linear arithmetic with remainders once the definitions are unfolded. -/

namespace AirHockey

/-- The value of an `int8_t` after `n` is assigned to it. -/
def int8 (n : Int) : Int := (n + 128) % 256 - 128

/-- The value of an `int16_t` after `n` is assigned to it. -/
def int16 (n : Int) : Int := (n + 32768) % 65536 - 32768

/-- The value of a `uint8_t` after `n` is assigned to it. -/
def uint8 (n : Int) : UInt8 := UInt8.ofNat (n % 256).toNat

/-- The value of a `uint16_t` after `n` is assigned to it. -/
def uint16 (n : Int) : Nat := (n % 65536).toNat

/-- `*character = lo; *character += hi << 8`, on a `uint16_t`. -/
def word (lo hi : UInt8) : Nat := lo.toNat + hi.toNat * 256

theorem int8_of_range {n : Int} (h₁ : -128 ≤ n) (h₂ : n ≤ 127) : int8 n = n := by
  unfold int8; omega

theorem int16_of_range {n : Int} (h₁ : -32768 ≤ n) (h₂ : n ≤ 32767) : int16 n = n := by
  unfold int16; omega

theorem toNat_uint8 (n : Int) : (uint8 n).toNat = (n % 256).toNat := by
  have h : (n % 256).toNat < 256 := by omega
  rw [uint8, UInt8.toNat_ofNat', Nat.mod_eq_of_lt h]

@[simp] theorem int16_int16 (n : Int) : int16 (int16 n) = int16 n := by
  unfold int16; omega

@[simp] theorem uint16_int16 (n : Int) : uint16 (int16 n) = uint16 n := by
  unfold uint16 int16; omega

@[simp] theorem int16_uint16 (n : Int) : int16 (uint16 n) = int16 n := by
  unfold uint16 int16; omega

@[simp] theorem int16_neg_uint16 (n : Int) : int16 (-(uint16 n : Int)) = int16 (-n) := by
  unfold uint16 int16; omega

theorem uint16_lt (n : Int) : uint16 n < 65536 := by
  unfold uint16; omega

/-- The two bytes of a word, low byte first, put it together again. -/
theorem word_uint8 (n : Int) : word (uint8 n) (uint8 (n / 256)) = uint16 n := by
  rw [word, toNat_uint8, toNat_uint8, uint16]
  omega

/-- Reading a word of two signed bytes back: `(int8_t)(w & 0xFF)`. -/
theorem int8_lo (x y : Int) : int8 (word (uint8 x) (uint8 y) % 256 : Nat) = int8 x := by
  rw [word, toNat_uint8, toNat_uint8]
  unfold int8
  omega

/-- Reading a word of two signed bytes back: `(int8_t)(w >> 8)`. -/
theorem int8_hi (x y : Int) : int8 (word (uint8 x) (uint8 y) / 256 : Nat) = int8 y := by
  rw [word, toNat_uint8, toNat_uint8]
  unfold int8
  omega

end AirHockey
