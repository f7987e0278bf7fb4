import RxLisk.Transactions.Signing

/-!
# Signing again

A call reads the signatures that an earlier call stored, and it keeps a second signature that it
does not replace.  It gives the result of signing the unsigned transaction exactly when the fields
it finds decode to no bytes and no second signature is kept, which after one call is no longer the
case.
-/

namespace RxLisk

open SwiftString

namespace NewTransaction

/-- The four fields that a call writes. -/
def signedFields (self : NewTransaction) :
    Option SwiftString × Option SwiftString × Option SwiftString × Option SwiftString :=
  (self.senderPublicKey, self.signature, self.signSignature, self.id)

/-- Signing leaves what it leaves on the transaction that was never signed. -/
def HistoryFree (digest : List UInt8 → Option (List UInt8)) (ed25519 : Ed25519)
    (self : NewTransaction) (keyPair : KeyPair) (secondKeyPair : Option KeyPair) : Prop :=
  (self.sign digest ed25519 keyPair secondKeyPair).map signedFields =
    (self.unsigned.sign digest ed25519 keyPair secondKeyPair).map signedFields

/-- Nothing is stored that the call would hash or keep. -/
structure NoTrace (transaction : NewTransaction) (secondKeyPair : Option KeyPair) : Prop where
  signatureBytes : transaction.signatureBytes = []
  signSignatureBytes : transaction.signSignatureBytes = []
  signSignature : secondKeyPair = none → transaction.signSignature = none

section Call

variable {digest : List UInt8 → Option (List UInt8)} {ed25519 : Ed25519}
  {self next : NewTransaction} {keyPair : KeyPair} {secondKeyPair : Option KeyPair}

/-- What is known of a call that returned. -/
theorem of_sign_eq_some (h : self.sign digest ed25519 keyPair secondKeyPair = some next) :
    next.unsigned = self.unsigned ∧
      (∃ hash, digest (self.bodyBytes keyPair ++ self.signatureBytes ++ self.signSignatureBytes) =
          some hash ∧ next.signature = some (hexString (keyPair.sign ed25519 hash))) ∧
      (secondKeyPair = none → next.signSignature = self.signSignature) ∧
      (secondKeyPair ≠ none → next.signSignature ≠ none) := by
  rw [sign_eq] at h
  obtain ⟨hash, hhash, h⟩ := Option.bind_eq_some_iff.mp h
  cases secondKeyPair with
  | none =>
    obtain ⟨idHash, -, h⟩ := Option.bind_eq_some_iff.mp h
    cases h
    exact ⟨rfl, ⟨hash, hhash, rfl⟩, fun _ ↦ rfl, fun hne ↦ absurd rfl hne⟩
  | some secondKeyPair =>
    obtain ⟨secondHash, -, h⟩ := Option.bind_eq_some_iff.mp h
    obtain ⟨idHash, -, h⟩ := Option.bind_eq_some_iff.mp h
    cases h
    exact ⟨rfl, ⟨hash, hhash, rfl⟩, nofun, fun _ ↦ nofun⟩

theorem historyFree_of_noTrace (h : self.NoTrace secondKeyPair) :
    HistoryFree digest ed25519 self keyPair secondKeyPair := by
  rw [HistoryFree, sign_eq, sign_eq, bodyBytes_unsigned, signatureBytes_unsigned,
    signSignatureBytes_unsigned, h.signatureBytes, h.signSignatureBytes]
  cases secondKeyPair with
  | none =>
    have hnone : self.signSignature = self.unsigned.signSignature := h.signSignature rfl
    simp only [Option.bind_eq_bind, Option.pure_def, Option.map_bind, Function.comp_def,
      Option.map_some, signedFields, hnone]
  | some secondKeyPair =>
    simp only [Option.bind_eq_bind, Option.pure_def, Option.map_bind, Function.comp_def,
      Option.map_some, signedFields]

/-- A call that agrees with the one on the unsigned transaction found no trace, unless the signature
of the hash does not tell the body from the body with the stored signatures. -/
theorem noTrace_or_collision {fresh : NewTransaction}
    (hfresh : self.unsigned.sign digest ed25519 keyPair secondKeyPair = some fresh)
    (h : HistoryFree digest ed25519 self keyPair secondKeyPair) :
    self.NoTrace secondKeyPair ∨
      self.signatureBytes ++ self.signSignatureBytes ≠ [] ∧ ∃ bodyHash staleHash,
        digest (self.bodyBytes keyPair) = some bodyHash ∧
        digest (self.bodyBytes keyPair ++ (self.signatureBytes ++ self.signSignatureBytes)) =
          some staleHash ∧
        keyPair.sign ed25519 staleHash = keyPair.sign ed25519 bodyHash := by
  rw [HistoryFree, hfresh, Option.map_some, Option.map_eq_some_iff] at h
  obtain ⟨next, hnext, hfields⟩ := h
  simp only [signedFields, Prod.mk.injEq] at hfields
  obtain ⟨-, hsignature, hsignSignature, -⟩ := hfields
  obtain ⟨-, ⟨staleHash, hstaleHash, hstale⟩, hkept, -⟩ := of_sign_eq_some hnext
  obtain ⟨-, ⟨bodyHash, hbodyHash, hbody⟩, hnone, -⟩ := of_sign_eq_some hfresh
  by_cases hempty : self.signatureBytes ++ self.signSignatureBytes = []
  · left
    obtain ⟨hfirst, hsecond⟩ := List.append_eq_nil_iff.mp hempty
    refine ⟨hfirst, hsecond, fun h ↦ ?_⟩
    rw [← hkept h, hsignSignature, hnone h]
    rfl
  · right
    refine ⟨hempty, bodyHash, staleHash, ?_, ?_, ?_⟩
    · simpa using hbodyHash
    · rw [← List.append_assoc]
      exact hstaleHash
    · rw [hstale, hbody] at hsignature
      exact hexString_injective (Option.some.inj hsignature)

end Call

/-- A hash that never traps gives a call that never does. -/
theorem exists_sign_eq_some {digest : List UInt8 → Option (List UInt8)}
    (hdigest : ∀ bytes, ∃ hash, digest bytes = some hash) (ed25519 : Ed25519)
    (self : NewTransaction) (keyPair : KeyPair) (secondKeyPair : Option KeyPair) :
    ∃ next, self.sign digest ed25519 keyPair secondKeyPair = some next := by
  choose hash hhash using hdigest
  rw [sign_eq]
  cases secondKeyPair <;> simp [hhash]

/-- Over all hashes and signatures, no trace is what history freedom means. -/
theorem forall_historyFree_iff (self : NewTransaction) (keyPair : KeyPair)
    (secondKeyPair : Option KeyPair) :
    (∀ digest ed25519, HistoryFree digest ed25519 self keyPair secondKeyPair) ↔
      self.NoTrace secondKeyPair := by
  refine ⟨fun h ↦ ?_, fun h digest ed25519 ↦ historyFree_of_noTrace h⟩
  -- signatures that tell the body from everything else
  let ed25519 : Ed25519 :=
    { createKeypair := fun _ ↦ (Vector.replicate 32 0, Vector.replicate 64 0)
      sign := fun message _ _ ↦
        Vector.replicate 64 (if message = self.bodyBytes keyPair then 0 else 1) }
  obtain ⟨fresh, hfresh⟩ := exists_sign_eq_some (fun bytes ↦ ⟨bytes, rfl⟩) ed25519 self.unsigned
    keyPair secondKeyPair
  rcases noTrace_or_collision hfresh (h some ed25519) with htrace | ⟨hne, hcollision⟩
  · exact htrace
  · obtain ⟨bodyHash, staleHash, hbodyHash, hstaleHash, heq⟩ := hcollision
    cases hbodyHash
    cases hstaleHash
    have hstale : self.bodyBytes keyPair ++ (self.signatureBytes ++ self.signSignatureBytes) ≠
        self.bodyBytes keyPair := fun happend ↦ hne (List.append_right_eq_self.mp happend)
    simp [KeyPair.sign, ed25519, hstale] at heq

/-! ## Runs -/

theorem unsigned_of_signAll {digest : List UInt8 → Option (List UInt8)} {ed25519 : Ed25519}
    {self final : NewTransaction} {calls : List (KeyPair × Option KeyPair)}
    (h : signAll digest ed25519 self calls = some final) : final.unsigned = self.unsigned :=
  Run.invariant_of_eq_some (fun transaction ↦ transaction.unsigned = self.unsigned)
    (fun _ _ _ hstate hnext ↦ (of_sign_eq_some hnext).1.trans hstate) rfl h

/-- After a call there is a trace for every later one. -/
theorem noTrace_of_signAll_iff {digest : List UInt8 → Option (List UInt8)} {ed25519 : Ed25519}
    {self final : NewTransaction} {calls : List (KeyPair × Option KeyPair)}
    (h : signAll digest ed25519 self.unsigned calls = some final)
    (secondKeyPair : Option KeyPair) : final.NoTrace secondKeyPair ↔ calls = [] := by
  constructor
  · intro htrace
    by_contra hcalls
    obtain ⟨previous, call, -, hlast⟩ :=
      Run.exists_last_step (fun _ ↦ True) (fun _ _ _ _ _ ↦ trivial) hcalls trivial h
    obtain ⟨-, ⟨hash, -, hsignature⟩, -, -⟩ := of_sign_eq_some hlast
    have hempty := congrArg List.length htrace.signatureBytes
    simp [signatureBytes, optionalHexBytes, hsignature] at hempty
  · rintro rfl
    cases h
    exact ⟨rfl, rfl, fun _ ↦ rfl⟩

/-- A call of either entry point that returned. -/
inductive Signs (ed25519 : Ed25519) : NewTransaction → NewTransaction → Prop
  | keyPairs {self next : NewTransaction} (keyPair : KeyPair) (secondKeyPair : Option KeyPair)
      (h : self.sign SHA256.digestOf ed25519 keyPair secondKeyPair = some next) :
      Signs ed25519 self next
  | secrets {self next : NewTransaction} (secret : SwiftString)
      (secondSecret : Option SwiftString)
      (h : (self.signSecret ed25519 secret secondSecret).run = some (.ok next)) :
      Signs ed25519 self next

/-- Signing with secrets is signing with the key pairs that they give. -/
theorem exists_keyPairs_of_signSecret {ed25519 : Ed25519} {self next : NewTransaction}
    {secret : SwiftString} {secondSecret : Option SwiftString}
    (h : (self.signSecret ed25519 secret secondSecret).run = some (.ok next)) :
    ∃ keyPair secondKeyPair,
      self.sign SHA256.digestOf ed25519 keyPair secondKeyPair = some next := by
  obtain ⟨keyPair, -, h⟩ := Run.exists_of_run_bind_eq_ok h
  cases secondSecret with
  | none => exact ⟨keyPair, none, Run.eq_some_of_run_lift_eq_ok h⟩
  | some secondSecret =>
    obtain ⟨secondKeyPair, -, h⟩ := Run.exists_of_run_bind_eq_ok h
    exact ⟨keyPair, secondKeyPair, Run.eq_some_of_run_lift_eq_ok h⟩

theorem signs_iff {ed25519 : Ed25519} {self next : NewTransaction} :
    Signs ed25519 self next ↔ ∃ call : KeyPair × Option KeyPair,
      self.sign SHA256.digestOf ed25519 call.1 call.2 = some next := by
  constructor
  · intro h
    cases h with
    | keyPairs keyPair secondKeyPair h => exact ⟨(keyPair, secondKeyPair), h⟩
    | secrets secret secondSecret h =>
      obtain ⟨keyPair, secondKeyPair, h⟩ := exists_keyPairs_of_signSecret h
      exact ⟨(keyPair, secondKeyPair), h⟩
  · intro ⟨call, h⟩
    exact Signs.keyPairs call.1 call.2 h

/-- What calls of both entry points reach, a run of calls with key pairs reaches. -/
theorem reachable_iff {ed25519 : Ed25519} {self final : NewTransaction} :
    Relation.ReflTransGen (Signs ed25519) self final ↔
      ∃ calls, signAll SHA256.digestOf ed25519 self calls = some final := by
  have hsteps : Signs ed25519 = fun self next ↦ ∃ call : KeyPair × Option KeyPair,
      self.sign SHA256.digestOf ed25519 call.1 call.2 = some next := by
    funext self next
    exact propext signs_iff
  rw [hsteps]
  exact Run.reflTransGen_iff

/-- A property of every call of a run and of the transaction that it finds. -/
def EveryCall (digest : List UInt8 → Option (List UInt8)) (ed25519 : Ed25519)
    (self : NewTransaction) (calls : List (KeyPair × Option KeyPair))
    (property : NewTransaction → KeyPair × Option KeyPair → Prop) : Prop :=
  ∀ earlier call later state, calls = earlier ++ call :: later →
    signAll digest ed25519 self earlier = some state → property state call

/-- Signing forgets the history of a transaction exactly when the call finds no trace of it.  Where
the results agree for one hash and one signature scheme although there is a trace, the scheme does
not tell two different messages apart.  In a run whose calls find no trace each call leaves what it
leaves on the unsigned transaction, but only the first call of a run finds no trace.  Runs of calls
with key pairs reach everything that calls of both entry points reach. -/
theorem sign_historyFree_iff (self : NewTransaction) (keyPair : KeyPair)
    (secondKeyPair : Option KeyPair) :
    ((∀ digest ed25519, HistoryFree digest ed25519 self keyPair secondKeyPair) ↔
      self.NoTrace secondKeyPair) ∧
    (∀ (digest : List UInt8 → Option (List UInt8)) (ed25519 : Ed25519) (fresh : NewTransaction),
      self.unsigned.sign digest ed25519 keyPair secondKeyPair = some fresh →
      HistoryFree digest ed25519 self keyPair secondKeyPair →
        self.NoTrace secondKeyPair ∨
          self.signatureBytes ++ self.signSignatureBytes ≠ [] ∧ ∃ bodyHash staleHash,
            digest (self.bodyBytes keyPair) = some bodyHash ∧
            digest (self.bodyBytes keyPair ++ (self.signatureBytes ++ self.signSignatureBytes)) =
              some staleHash ∧
            keyPair.sign ed25519 staleHash = keyPair.sign ed25519 bodyHash) ∧
    (∀ (digest : List UInt8 → Option (List UInt8)) (ed25519 : Ed25519)
      (calls : List (KeyPair × Option KeyPair)),
      EveryCall digest ed25519 self calls (fun state call ↦ state.NoTrace call.2) →
      EveryCall digest ed25519 self calls fun state call ↦
        (state.sign digest ed25519 call.1 call.2).map signedFields =
          (self.unsigned.sign digest ed25519 call.1 call.2).map signedFields) ∧
    (∀ (digest : List UInt8 → Option (List UInt8)) (ed25519 : Ed25519) (final : NewTransaction)
      (calls : List (KeyPair × Option KeyPair)),
      signAll digest ed25519 self.unsigned calls = some final →
        (final.NoTrace secondKeyPair ↔ calls = [])) ∧
    ∀ (ed25519 : Ed25519) (final : NewTransaction),
      Relation.ReflTransGen (Signs ed25519) self final ↔
        ∃ calls, signAll SHA256.digestOf ed25519 self calls = some final := by
  refine ⟨forall_historyFree_iff self keyPair secondKeyPair, ?_, ?_, ?_, ?_⟩
  · intro digest ed25519 fresh hfresh hfree
    exact noTrace_or_collision hfresh hfree
  · intro digest ed25519 calls htrace earlier call later state hcalls hstate
    have hfree : HistoryFree digest ed25519 state call.1 call.2 :=
      historyFree_of_noTrace (htrace earlier call later state hcalls hstate)
    rwa [HistoryFree, unsigned_of_signAll hstate] at hfree
  · intro digest ed25519 final calls hfinal
    exact noTrace_of_signAll_iff hfinal secondKeyPair
  · intro ed25519 final
    exact reachable_iff

/-- Signed with a second key and then without one, the transaction keeps its second signature. -/
theorem sign_keeps_second_signature :
    ¬∀ (ed25519 : Ed25519) (calls : List (KeyPair × Option KeyPair)) (final : NewTransaction)
      (keyPair : KeyPair) (secondKeyPair : Option KeyPair),
      signAll SHA256.digestOf ed25519 tenthTransfer calls = some final →
        HistoryFree SHA256.digestOf ed25519 final keyPair secondKeyPair := by
  intro hclaim
  have hunsigned := unsigned_tenthTransfer
  obtain ⟨final, log, -, hfinal, hrecorded⟩ :=
    exists_signAll_recorded default hunsigned [(default, some default)]
  obtain ⟨fresh, log, -, hfresh, -⟩ :=
    exists_signAll_recorded default hunsigned [(default, none)]
  have hfree := hclaim default _ final default none hfinal
  simp only [signAll, List.foldlM_cons, List.foldlM_nil, bind_pure] at hfinal hfresh
  rw [HistoryFree, hrecorded.unsigned, hunsigned.unsigned_eq, hfresh, Option.map_some,
    Option.map_eq_some_iff] at hfree
  obtain ⟨next, hnext, hfields⟩ := hfree
  simp only [signedFields, Prod.mk.injEq] at hfields
  obtain ⟨-, -, hkept, -⟩ := of_sign_eq_some hnext
  obtain ⟨-, -, hnone, -⟩ := of_sign_eq_some hfresh
  obtain ⟨-, -, -, hsecond⟩ := of_sign_eq_some hfinal
  apply hsecond nofun
  calc
    final.signSignature = next.signSignature := (hkept rfl).symm
    _ = fresh.signSignature := hfields.2.2.1
    _ = tenthTransfer.signSignature := hnone rfl
    _ = none := rfl

end NewTransaction

end RxLisk
