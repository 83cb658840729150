import StreamGate.Cipher.Aes

/-!
# The field of 256 elements

The multiplication of bytes that the cipher is built on is the multiplication
of a field.  The product `Aes.mul a b` is a polynomial in `Aes.double`, applied
to `b`, so everything follows from `double` being additive:

* `mul_xor` and `mul_double`: multiplying by a byte commutes with the sum and
  with `double`.
* `mul_left_comm`, and from it `mul_comm` and `mul_assoc`: products may be
  reordered.
* `power_add`, `power_mul` and `mul_power`: the laws of powers.
* `power_256`: squaring is additive, so the eightfold square is the identity
  because it fixes the generator `2`.
* `inverse_inverse`: the field inverse is its own inverse, zero included.
-/

namespace StreamGate.Aes

/-- A property of all numbers below 256 holds of all bytes. -/
theorem forall_byte {P : UInt8 → Prop} (h : ∀ n : Fin 256, P (UInt8.ofNat n.val)) (b : UInt8) :
    P b := by
  have hb := h ⟨b.toNat, b.toNat_lt⟩
  rwa [UInt8.ofNat_toNat] at hb

/-! ## Doubling -/

theorem and_high (b : UInt8) : b &&& 0x80 = 0 ∨ b &&& 0x80 = 0x80 := by
  revert b
  exact forall_byte (by decide +kernel)

theorem xor_and (a b c : UInt8) : (a ^^^ b) &&& c = (a &&& c) ^^^ (b &&& c) := by
  apply UInt8.toBitVec_inj.1
  ext i
  simp only [UInt8.toBitVec_and, UInt8.toBitVec_xor, BitVec.getElem_and, BitVec.getElem_xor]
  cases a.toBitVec[i] <;> cases b.toBitVec[i] <;> simp

theorem double_eq (b : UInt8) : double b = (b <<< 1) ^^^ (if b &&& 0x80 = 0 then 0 else 0x1b) := by
  unfold double
  split <;> simp

@[simp] theorem double_zero : double 0 = 0 := rfl

/-- The carry of a sum is the sum of the carries. -/
theorem double_xor (a b : UInt8) : double (a ^^^ b) = double a ^^^ double b := by
  have carry : (if (a ^^^ b) &&& 0x80 = 0 then (0 : UInt8) else 0x1b)
      = (if a &&& 0x80 = 0 then 0 else 0x1b) ^^^ (if b &&& 0x80 = 0 then 0 else 0x1b) := by
    rw [xor_and]
    rcases and_high a with ha | ha <;> rcases and_high b with hb | hb <;> rw [ha, hb] <;> rfl
  simp only [double_eq, carry, UInt8.shiftLeft_xor]
  ac_rfl

/-! ## Products -/

theorem mulBits_xor (n : Nat) (a x y : UInt8) :
    mulBits n a (x ^^^ y) = mulBits n a x ^^^ mulBits n a y := by
  induction n generalizing a x y with
  | zero => simp [mulBits]
  | succ n ih =>
    simp only [mulBits, double_xor, ih]
    split
    · simp
    · ac_rfl

theorem mulBits_double (n : Nat) (a x : UInt8) :
    mulBits n a (double x) = double (mulBits n a x) := by
  induction n generalizing a x with
  | zero => simp [mulBits]
  | succ n ih =>
    simp only [mulBits, double_xor, ih]
    split <;> simp

theorem mul_xor (a x y : UInt8) : mul a (x ^^^ y) = mul a x ^^^ mul a y := mulBits_xor 8 a x y

theorem mul_double (a x : UInt8) : mul a (double x) = double (mul a x) := mulBits_double 8 a x

@[simp] theorem mul_zero (a : UInt8) : mul a 0 = 0 := by
  have h := mul_xor a 0 0
  simpa using h

@[simp] theorem mul_one (a : UInt8) : mul a 1 = a := by
  revert a
  exact forall_byte (by decide +kernel)

theorem mul_two (a : UInt8) : mul a 2 = double a := by
  rw [show (2 : UInt8) = double 1 from rfl, mul_double, mul_one]

theorem mulBits_mul (n : Nat) (a b c : UInt8) :
    mulBits n a (mul b c) = mul b (mulBits n a c) := by
  induction n generalizing a c with
  | zero => simp [mulBits]
  | succ n ih =>
    simp only [mulBits, mul_xor, ← mul_double, ih]
    split <;> simp

theorem mul_left_comm (a b c : UInt8) : mul a (mul b c) = mul b (mul a c) := mulBits_mul 8 a b c

theorem mul_comm (a b : UInt8) : mul a b = mul b a := by
  have h := mul_left_comm a b 1
  rwa [mul_one, mul_one] at h

theorem mul_assoc (a b c : UInt8) : mul (mul a b) c = mul a (mul b c) := by
  rw [mul_comm (mul a b), mul_left_comm c, mul_comm c]

@[simp] theorem one_mul (a : UInt8) : mul 1 a = a := by rw [mul_comm, mul_one]

@[simp] theorem zero_mul (a : UInt8) : mul 0 a = 0 := by rw [mul_comm, mul_zero]

theorem xor_mul (x y a : UInt8) : mul (x ^^^ y) a = mul x a ^^^ mul y a := by
  rw [mul_comm, mul_xor, mul_comm a, mul_comm a]

/-! ## Powers -/

theorem power_add (b : UInt8) (m n : Nat) : power b (m + n) = mul (power b m) (power b n) := by
  induction m with
  | zero => simp [power]
  | succ m ih => rw [Nat.succ_add, power, power, ih, mul_assoc]

theorem power_mul (b : UInt8) (m n : Nat) : power b (m * n) = power (power b m) n := by
  induction n with
  | zero => rfl
  | succ n ih => rw [Nat.mul_succ, Nat.add_comm, power_add, ih, power]

@[simp] theorem one_power (n : Nat) : power 1 n = 1 := by
  induction n with
  | zero => rfl
  | succ n ih => rw [power, ih, mul_one]

theorem mul_power (a b : UInt8) (n : Nat) : power (mul a b) n = mul (power a n) (power b n) := by
  induction n with
  | zero => simp [power]
  | succ n ih => rw [power, ih, mul_assoc, mul_left_comm b, ← mul_assoc, power, power]

/-- Taking the power `n` is additive. -/
def AdditivePower (n : Nat) : Prop :=
  ∀ x y : UInt8, power (x ^^^ y) n = power x n ^^^ power y n

/-- The mixed products of a square cancel. -/
theorem additivePower_two : AdditivePower 2 := by
  intro x y
  simp only [power, mul_one, mul_xor, xor_mul, mul_comm y x]
  rw [UInt8.xor_assoc, ← UInt8.xor_assoc (mul x y), UInt8.xor_self, UInt8.zero_xor]

theorem AdditivePower.square {n : Nat} (additive : AdditivePower n) : AdditivePower (n * n) := by
  intro x y
  rw [power_mul, power_mul, power_mul, additive x y, additive]

theorem additivePower_256 : AdditivePower 256 :=
  additivePower_two.square.square.square

theorem power_two_256 : power 2 256 = 2 := by
  rw [show 256 = 16 * 16 from rfl, power_mul]
  decide +kernel

theorem power_256_mulBits (n : Nat) (a : UInt8) {c : UInt8} (hc : power c 256 = c) :
    power (mulBits n a c) 256 = mulBits n a c := by
  induction n generalizing a c with
  | zero => rw [mulBits, power, zero_mul]
  | succ n ih =>
    have hdouble : power (double c) 256 = double c := by
      rw [← mul_two, mul_power, hc, power_two_256]
    have hbit : power (if a &&& 1 = 0 then 0 else c) 256 = if a &&& 1 = 0 then 0 else c := by
      split
      · rfl
      · exact hc
    rw [mulBits, additivePower_256, hbit, ih (a >>> 1) hdouble]

/-- Every byte is its own power at 256. -/
theorem power_256 (b : UInt8) : power b 256 = b := by
  have h := power_256_mulBits 8 b (one_power 256)
  rwa [← mul, mul_one] at h

/-! ## The inverse -/

theorem inverse_inverse (b : UInt8) : inverse (inverse b) = b := by
  unfold inverse
  calc power (power b 254) 254
      = power b (256 * 252 + 4) := (power_mul b 254 254).symm
    _ = mul (power (power b 256) 252) (power b 4) := by rw [power_add, power_mul]
    _ = mul (power b 252) (power b 4) := by rw [power_256]
    _ = power b 256 := (power_add b 252 4).symm
    _ = b := power_256 b

end StreamGate.Aes
