import RxLisk.Transactions.NewTransaction

/-!
# Public keys and signatures that are given as text

An address and three encoders read hexadecimal text.  None of them rejects a text: a pair of
characters that is no number counts as zero, and an odd last character is left out.  The bytes that
are read decide the address, and only the length decides whether there is one.
-/

namespace RxLisk

open SwiftString

namespace Crypto

/-- The address depends on the text through its bytes only. -/
theorem address_eq_of_hexBytes_eq {left right : SwiftString} (h : hexBytes left = hexBytes right) :
    address left = address right := by
  rw [address, address, h]

theorem address_hexString_hexBytes (publicKey : SwiftString) :
    address (hexString (hexBytes publicKey)) = address publicKey :=
  address_eq_of_hexBytes_eq (hexBytes_hexString (hexBytes publicKey))

end Crypto

namespace NewTransaction

/-- What is read from any text, and when it is all of the text. -/
theorem hexBytes_account_for_text (self : NewTransaction) (string : SwiftString) :
    (hexString (hexBytes string) = asciiLowercased string ↔ IsHexText string) ∧
      (∀ other : SwiftString, IsHexText string → IsHexText other →
        hexBytes string = hexBytes other → asciiLowercased string = asciiLowercased other) ∧
      hexBytes string = (List.range (string.length / 2)).map (fun i ↦
        (toUInt8 ((string.take (i * 2 + 2)).drop (i * 2)) 16).getD 0) ∧
      { self with senderPublicKey := some string }.senderPublicKeyBytes = hexBytes string ∧
      { self with signature := some string }.signatureBytes = hexBytes string ∧
      { self with signSignature := some string }.signSignatureBytes = hexBytes string ∧
      Crypto.address string = Crypto.address (hexString (hexBytes string)) ∧
      ((∃ result, Crypto.address string = some result) ↔
        SHA256.Paddable (string.length / 2)) := by
  refine ⟨hexString_hexBytes_iff string, ?_, hexBytes_eq_map string, rfl, rfl, rfl,
    (Crypto.address_hexString_hexBytes string).symm, Crypto.exists_address_iff string⟩
  intro other hstring hother h
  exact asciiLowercased_eq_of_hexBytes_eq hstring hother h

/-- A leading sign, an odd length and a letter that is no digit each give another key. -/
theorem malformed_keys_have_addresses :
    hexString (hexBytes (ofScalars "+a".toList)) ≠ asciiLowercased (ofScalars "+a".toList) ∧
      asciiLowercased (ofScalars "+a".toList) ≠ asciiLowercased (ofScalars "0a".toList) ∧
      hexBytes (ofScalars "+a".toList) = hexBytes (ofScalars "0a".toList) ∧
      hexBytes (ofScalars "0a0".toList) = hexBytes (ofScalars "0a".toList) ∧
      hexBytes (ofScalars "zz".toList) = hexBytes (ofScalars "00".toList) ∧
      (∃ result, Crypto.address (ofScalars "+a".toList) = some result ∧
        Crypto.address (ofScalars "0a".toList) = some result ∧
        Crypto.address (ofScalars "0a0".toList) = some result) ∧
      ∃ result, Crypto.address (ofScalars "zz".toList) = some result := by
  have hsign : hexBytes (ofScalars "+a".toList) = hexBytes (ofScalars "0a".toList) := by decide
  have hodd : hexBytes (ofScalars "0a0".toList) = hexBytes (ofScalars "0a".toList) := by decide
  obtain ⟨result, hresult⟩ :=
    (Crypto.exists_address_iff (ofScalars "0a".toList)).mpr (by decide)
  refine ⟨by decide, by decide, hsign, hodd, by decide, ⟨result, ?_, hresult, ?_⟩, ?_⟩
  · rw [Crypto.address_eq_of_hexBytes_eq hsign, hresult]
  · rw [Crypto.address_eq_of_hexBytes_eq hodd, hresult]
  · exact (Crypto.exists_address_iff (ofScalars "zz".toList)).mpr (by decide)

end NewTransaction

end RxLisk
