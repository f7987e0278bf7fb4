import Mathlib.Data.ZMod.Basic
import Mathlib.GroupTheory.OrderOfElement

/-!
# Schnorr signatures over a group

The public key is a multiple of a base element, a signature is a commitment and a number, and the
verifier checks one equation.  The number enters the equation only up to multiples of the order of
the base element.
-/

namespace Schnorr

variable {G : Type*} [AddCommGroup G] {base publicKey commitment : G} {order : ℕ}

/-- The equation that the verifier checks. -/
def Accepts (base publicKey commitment : G) (challenge response : ℕ) : Prop :=
  challenge • -publicKey + response • base = commitment

/-- The response of the signer satisfies the equation. -/
theorem accepts_response (horder : order • base = 0) (secret nonce challenge : ℕ) :
    Accepts base (secret • base) (nonce • base) challenge
      ((challenge * secret + nonce) % order) := by
  rw [Accepts, ← nsmul_eq_mod_nsmul _ horder, add_nsmul, mul_nsmul', smul_neg, neg_add_cancel_left]

theorem accepts_iff_of_modEq (horder : order • base = 0) {challenge response response' : ℕ}
    (h : response ≡ response' [MOD order]) :
    Accepts base publicKey commitment challenge response ↔
      Accepts base publicKey commitment challenge response' := by
  rw [Accepts, Accepts, nsmul_eq_mod_nsmul response horder, h, ← nsmul_eq_mod_nsmul _ horder]

/-- For a base element of prime order, the response is determined modulo the order. -/
theorem Accepts.modEq (horder : order • base = 0) (hprime : order.Prime) (hbase : base ≠ 0)
    {challenge response response' : ℕ}
    (h : Accepts base publicKey commitment challenge response)
    (h' : Accepts base publicKey commitment challenge response') :
    response ≡ response' [MOD order] := by
  have hequal : response • base = response' • base := add_left_cancel (h.trans h'.symm)
  have hfact : Fact order.Prime := ⟨hprime⟩
  rw [← addOrderOf_eq_prime horder hbase]
  exact nsmul_eq_nsmul_iff_modEq.mp hequal

end Schnorr
