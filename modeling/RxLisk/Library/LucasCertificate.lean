import Mathlib.NumberTheory.LucasPrimality
import Mathlib.Data.Nat.Prime.Basic
import Mathlib.Algebra.BigOperators.Group.List.Basic

/-!
# Certificates of primality

Powers are computed modulo a number by squaring, which makes the test of Lucas a computation: a
number is prime when some element has the right order, given the prime factors of the number less
one.
-/

namespace LucasCertificate

/-- `base ^ exponent % modulus` by squaring, for exponents of at most `fuel` binary digits. -/
def powMod (modulus : ℕ) : (fuel base exponent : ℕ) → ℕ
  | 0, _, _ => 1 % modulus
  | fuel + 1, base, exponent =>
    let squared := powMod modulus fuel (base * base % modulus) (exponent / 2)
    if exponent % 2 = 0 then squared else base * squared % modulus

theorem powMod_eq (modulus : ℕ) {fuel base exponent : ℕ} (h : exponent < 2 ^ fuel) :
    powMod modulus fuel base exponent = base ^ exponent % modulus := by
  induction fuel generalizing base exponent with
  | zero =>
    have hzero : exponent = 0 := by simpa using h
    rw [hzero, pow_zero, powMod]
  | succ fuel ih =>
    have hhalf : exponent / 2 < 2 ^ fuel := by
      rw [pow_succ] at h
      omega
    have hsquare : (base * base % modulus) ^ (exponent / 2) % modulus =
        base ^ (2 * (exponent / 2)) % modulus := by
      rw [← Nat.pow_mod, ← pow_two, pow_mul]
    rw [powMod, ih hhalf, hsquare]
    split_ifs with heven
    · rw [show 2 * (exponent / 2) = exponent by omega]
    · rw [← Nat.mul_mod_mod, Nat.mod_mod, Nat.mul_mod_mod, ← pow_succ']
      rw [show 2 * (exponent / 2) + 1 = exponent by omega]

/-- The test: `base` has order `number - 1`, whose prime factors are listed. -/
def Passes (number fuel base : ℕ) (factors : List ℕ) : Prop :=
  1 < number ∧ number < 2 ^ fuel ∧ factors.prod = number - 1 ∧
    powMod number fuel base (number - 1) = 1 ∧
    ∀ factor ∈ factors, powMod number fuel base ((number - 1) / factor) ≠ 1

instance (number fuel base : ℕ) (factors : List ℕ) : Decidable (Passes number fuel base factors) :=
  inferInstanceAs (Decidable (_ ∧ _ ∧ _ ∧ _ ∧ _))

/-- A number that passes the test with the listed factors. -/
structure Certificate where
  number : ℕ
  fuel : ℕ
  base : ℕ
  factors : List ℕ
  passes : Passes number fuel base factors

theorem Certificate.prime (certificate : Certificate)
    (hprime : certificate.factors.Forall Nat.Prime) : certificate.number.Prime := by
  obtain ⟨number, fuel, base, factors, hone, hfuel, hproduct, horder, hproper⟩ := certificate
  dsimp only at hprime ⊢
  have hcast (exponent : ℕ) (hexponent : exponent ≤ number - 1) :
      (base : ZMod number) ^ exponent = 1 ↔ powMod number fuel base exponent = 1 := by
    rw [powMod_eq number (by omega), ← Nat.cast_pow, ← Nat.cast_one, ZMod.natCast_eq_natCast_iff,
      Nat.ModEq, Nat.mod_eq_of_lt hone]
  apply lucas_primality number (base : ZMod number)
  · exact (hcast _ le_rfl).mpr horder
  · intro factor hfactor hdvd hpower
    have hmem : factor ∈ factors := by
      rw [← hproduct, hfactor.prime.dvd_prod_iff] at hdvd
      obtain ⟨other, hother, hdvd⟩ := hdvd
      have hotherPrime := List.forall_iff_forall_mem.mp hprime other hother
      rwa [(Nat.prime_dvd_prime_iff_eq hfactor hotherPrime).mp hdvd]
    exact hproper factor hmem ((hcast _ (Nat.div_le_self _ _)).mp hpower)

end LucasCertificate
