import Mathlib.Algebra.Group.Int.Defs
import Mathlib.Algebra.Group.Nat.Defs

set_option autoImplicit false

/-! Big-endian byte strings of naturals, and the shifts by which code writes them. -/
namespace BigEndian

/-- The value of a byte string, most significant byte first. -/
def decode : List UInt8 → Nat
  | [] => 0
  | byte :: rest => byte.toNat * 256 ^ rest.length + decode rest

/-- The `width` low bytes of a value, most significant first. -/
def encode : Nat → Nat → List UInt8
  | 0, _ => []
  | width + 1, value => UInt8.ofNat (value / 256 ^ width) :: encode width value

@[simp] theorem encode_length (width value : Nat) : (encode width value).length = width := by
  induction width with
  | zero => rfl
  | succ width ih => simp only [encode, List.length_cons, ih]

/-- Encoding keeps exactly the residue modulo the width of the string. -/
theorem decode_encode (width value : Nat) :
    decode (encode width value) = value % 256 ^ width := by
  induction width with
  | zero => simp only [encode, decode, Nat.pow_zero, Nat.mod_one]
  | succ width ih =>
      have byte : (UInt8.ofNat (value / 256 ^ width)).toNat = value / 256 ^ width % 256 :=
        UInt8.toNat_ofNat'
      rw [encode, decode, encode_length, ih, byte, Nat.pow_succ 256 width, Nat.mod_mul,
        Nat.add_comm, Nat.mul_comm]

theorem encode_injective (width left right : Nat) :
    encode width left = encode width right ↔
      left % 256 ^ width = right % 256 ^ width := by
  constructor
  · intro same
    rw [← decode_encode, ← decode_encode, same]
  · intro same
    induction width with
    | zero => rfl
    | succ width ih =>
        have low : left % 256 ^ width = right % 256 ^ width := by
          have below : 256 ^ width ∣ 256 ^ (width + 1) := Nat.pow_dvd_pow 256 (Nat.le_succ width)
          rw [← Nat.mod_mod_of_dvd left below, same, Nat.mod_mod_of_dvd right below]
        have high : left / 256 ^ width % 256 = right / 256 ^ width % 256 := by
          rw [Nat.pow_succ] at same
          rw [← Nat.mod_mul_right_div_self, same, Nat.mod_mul_right_div_self]
        simp only [encode, List.cons.injEq]
        refine ⟨?_, ih low⟩
        apply UInt8.toNat_inj.mp
        simpa only [UInt8.toNat_ofNat'] using high

/-- The bytes of a half word, as `to_be_bytes` gives them. -/
def bytes16 (x : UInt16) : List UInt8 := [(x >>> 8).toUInt8, x.toUInt8]

/-- The low three bytes of a word, by the shifts 16, 8 and 0. -/
def bytes24 (x : UInt32) : List UInt8 := [(x >>> 16).toUInt8, (x >>> 8).toUInt8, x.toUInt8]

/-- The bytes of a word, by the shifts 24, 16, 8 and 0. -/
def bytes32 (x : UInt32) : List UInt8 :=
  [(x >>> 24).toUInt8, (x >>> 16).toUInt8, (x >>> 8).toUInt8, x.toUInt8]

/-- The half word that `from_be_bytes` reads. -/
def ofBytes16 (b₀ b₁ : UInt8) : UInt16 := b₀.toUInt16 <<< 8 ||| b₁.toUInt16

/-- The word that `from_be_bytes` reads. -/
def ofBytes32 (b₀ b₁ b₂ b₃ : UInt8) : UInt32 :=
  b₀.toUInt32 <<< 24 ||| b₁.toUInt32 <<< 16 ||| b₂.toUInt32 <<< 8 ||| b₃.toUInt32

theorem bytes16_eq (x : UInt16) : bytes16 x = encode 2 x.toNat := by
  simp only [bytes16, encode, List.cons.injEq, and_true]
  refine ⟨?_, ?_⟩ <;> apply UInt8.toNat_inj.mp <;>
    simp [UInt16.toNat_shiftRight, Nat.shiftRight_eq_div_pow]

theorem bytes24_eq (x : UInt32) : bytes24 x = encode 3 x.toNat := by
  simp only [bytes24, encode, List.cons.injEq, and_true]
  refine ⟨?_, ?_, ?_⟩ <;> apply UInt8.toNat_inj.mp <;>
    simp [UInt32.toNat_shiftRight, Nat.shiftRight_eq_div_pow]

theorem bytes32_eq (x : UInt32) : bytes32 x = encode 4 x.toNat := by
  simp only [bytes32, encode, List.cons.injEq, and_true]
  refine ⟨?_, ?_, ?_, ?_⟩ <;> apply UInt8.toNat_inj.mp <;>
    simp [UInt32.toNat_shiftRight, Nat.shiftRight_eq_div_pow]

theorem decode_bytes24 (x : UInt32) : decode (bytes24 x) = x.toNat % 2 ^ 24 := by
  rw [bytes24_eq]
  exact decode_encode 3 x.toNat

theorem decode_bytes32 (x : UInt32) : decode (bytes32 x) = x.toNat := by
  rw [bytes32_eq]
  exact (decode_encode 4 x.toNat).trans (Nat.mod_eq_of_lt x.toNat_lt)

theorem bytes16_injective (x y : UInt16) : bytes16 x = bytes16 y ↔ x = y := by
  have small (z : UInt16) : z.toNat % 256 ^ 2 = z.toNat := Nat.mod_eq_of_lt z.toNat_lt
  rw [bytes16_eq, bytes16_eq, encode_injective, small, small, UInt16.toNat_inj]

theorem bytes24_injective (x y : UInt32) :
    bytes24 x = bytes24 y ↔ x.toNat % 2 ^ 24 = y.toNat % 2 ^ 24 := by
  rw [bytes24_eq, bytes24_eq]
  exact encode_injective 3 x.toNat y.toNat

theorem toNat_ofBytes16 (b₀ b₁ : UInt8) :
    (ofBytes16 b₀ b₁).toNat = b₀.toNat * 256 + b₁.toNat := by
  have h₀ := b₀.toNat_lt
  have h₁ := b₁.toNat_lt
  simp only [ofBytes16, UInt16.toNat_or, UInt16.toNat_shiftLeft, UInt8.toNat_toUInt16]
  rw [show (8 : UInt16).toNat % 16 = 8 from rfl, Nat.shiftLeft_eq, Nat.mod_eq_of_lt (by omega),
    ← Nat.shiftLeft_eq, ← Nat.shiftLeft_add_eq_or_of_lt h₁, Nat.shiftLeft_eq]

theorem toNat_ofBytes32 (b₀ b₁ b₂ b₃ : UInt8) :
    (ofBytes32 b₀ b₁ b₂ b₃).toNat =
      b₀.toNat * 2 ^ 24 + b₁.toNat * 2 ^ 16 + b₂.toNat * 2 ^ 8 + b₃.toNat := by
  have h₀ := b₀.toNat_lt
  have h₁ := b₁.toNat_lt
  have h₂ := b₂.toNat_lt
  have h₃ := b₃.toNat_lt
  simp only [ofBytes32, UInt32.toNat_or, UInt32.toNat_shiftLeft, UInt8.toNat_toUInt32]
  rw [show (24 : UInt32).toNat % 32 = 24 from rfl, show (16 : UInt32).toNat % 32 = 16 from rfl,
    show (8 : UInt32).toNat % 32 = 8 from rfl]
  simp only [Nat.shiftLeft_eq]
  rw [Nat.mod_eq_of_lt (show b₀.toNat * 2 ^ 24 < 2 ^ 32 by omega),
    Nat.mod_eq_of_lt (show b₁.toNat * 2 ^ 16 < 2 ^ 32 by omega),
    Nat.mod_eq_of_lt (show b₂.toNat * 2 ^ 8 < 2 ^ 32 by omega)]
  -- Each byte lands below the bits already placed, so every `or` is a sum.
  rw [← Nat.shiftLeft_eq b₀.toNat 24,
    ← Nat.shiftLeft_add_eq_or_of_lt (show b₁.toNat * 2 ^ 16 < 2 ^ 24 by omega)]
  rw [show b₀.toNat <<< 24 + b₁.toNat * 2 ^ 16 = (b₀.toNat * 2 ^ 8 + b₁.toNat) <<< 16 by
      simp only [Nat.shiftLeft_eq]; omega,
    ← Nat.shiftLeft_add_eq_or_of_lt (show b₂.toNat * 2 ^ 8 < 2 ^ 16 by omega)]
  rw [show (b₀.toNat * 2 ^ 8 + b₁.toNat) <<< 16 + b₂.toNat * 2 ^ 8 =
      (b₀.toNat * 2 ^ 16 + b₁.toNat * 2 ^ 8 + b₂.toNat) <<< 8 by
      simp only [Nat.shiftLeft_eq]; omega,
    ← Nat.shiftLeft_add_eq_or_of_lt h₃]

/-- The shifts of `bytes16` undone. -/
theorem ofBytes16_shifts (x : UInt16) : ofBytes16 (x >>> 8).toUInt8 x.toUInt8 = x := by
  have small := x.toNat_lt
  apply UInt16.toNat_inj.mp
  simp only [toNat_ofBytes16, UInt16.toNat_toUInt8, UInt16.toNat_shiftRight,
    Nat.shiftRight_eq_div_pow, show (8 : UInt16).toNat % 16 = 8 from rfl]
  omega

/-- The shifts of `bytes24` undone, which keeps the low 24 bits. -/
theorem ofBytes32_shifts24 (x : UInt32) :
    ofBytes32 0 (x >>> 16).toUInt8 (x >>> 8).toUInt8 x.toUInt8 = x % 0x1000000 := by
  have small := x.toNat_lt
  apply UInt32.toNat_inj.mp
  simp only [toNat_ofBytes32, UInt32.toNat_toUInt8, UInt32.toNat_shiftRight, UInt32.toNat_mod,
    Nat.shiftRight_eq_div_pow, show (0 : UInt8).toNat = 0 from rfl,
    show (16 : UInt32).toNat % 32 = 16 from rfl, show (8 : UInt32).toNat % 32 = 8 from rfl,
    show (0x1000000 : UInt32).toNat = 0x1000000 from rfl]
  omega

/-- The shifts of `bytes32` undone. -/
theorem ofBytes32_shifts (x : UInt32) :
    ofBytes32 (x >>> 24).toUInt8 (x >>> 16).toUInt8 (x >>> 8).toUInt8 x.toUInt8 = x := by
  have small := x.toNat_lt
  apply UInt32.toNat_inj.mp
  simp only [toNat_ofBytes32, UInt32.toNat_toUInt8, UInt32.toNat_shiftRight,
    Nat.shiftRight_eq_div_pow, show (24 : UInt32).toNat % 32 = 24 from rfl,
    show (16 : UInt32).toNat % 32 = 16 from rfl, show (8 : UInt32).toNat % 32 = 8 from rfl]
  omega

end BigEndian
