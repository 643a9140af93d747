import CkbSdk.Unlock.Witness

/-!
# The sighash signer

`Secp256k1SighashSigner::sign_tx_with_owner_id` is the signing path of three signers: the sighash
signer itself, the anyone-can-pay signer and the cheque signer, which differ only in the owner
id they pass. It pads the witnesses, computes the message with a 65-byte zero lock, asks the
wallet for a signature under the owner id, and writes the signature into the lock of witness
`i`.

The main result says what a successful call returns, and that the signature checks the way the
chain checks it: zeroing the lock of the signed transaction and recomputing the digest gives
back the message the wallet signed. Signing a second time changes nothing, as long as the wallet
signs a message the same way every time.
-/

namespace CkbSdk

open Outcome

/-- The first input position of a well-formed group is an input of the transaction. -/
theorem ScriptGroup.WellFormed.first_input {group : ScriptGroup} {tx : Transaction}
    {witnessIndex : Nat} (wellFormed : group.WellFormed tx)
    (first : group.inputIndices.head? = some witnessIndex) : witnessIndex < tx.raw.inputs.length :=
  wellFormed.inside witnessIndex (List.mem_of_mem_head? first)

/-- Every witness of a transaction below 4 GiB, and the empty default past its end, leaves room
for the 76 bytes of framing around it. -/
theorem Transaction.Sized.getD_bound {tx : Transaction} (sized : tx.Sized) (witnessIndex : Nat) :
    (tx.witnesses.getD witnessIndex []).length + 76 < 2 ^ 32 := by
  rw [List.getD_eq_getElem?_getD]
  cases found : tx.witnesses[witnessIndex]? with
  | none => decide
  | some witness => exact sized.witness_bound (List.getElem?_mem found)

/-- Witness `i` of a transaction below 4 GiB, read and given a lock of at most 65 bytes, is still
below 4 GiB. -/
theorem Transaction.Sized.fits_withLock {tx : Transaction} (sized : tx.Sized) {witnessIndex : Nat}
    {current : WitnessArgs}
    (parsed : WitnessArgs.parseOrDefault (tx.witnesses.getD witnessIndex []) = ok current)
    {lock : Bytes} (short : lock.length ≤ 65) :
    (current.withLock (some lock)).asBytes.length < 2 ^ 32 := by
  have relocked := current.length_asBytes_withLock lock
  have read := WitnessArgs.length_parseOrDefault parsed
  have bound := sized.getD_bound witnessIndex
  omega

/-- A wallet whose signature depends only on the owner id and the message, not on the transaction
passed along with them. -/
def Wallet.Deterministic (wallet : Wallet) : Prop :=
  ∀ ownerId message (first second : Transaction) provider,
    wallet.sign ownerId message first provider = wallet.sign ownerId message second provider

/-- A witness of a transaction below 4 GiB leaves room for its framing. -/
theorem Transaction.Sized.fits_withWitness {tx : Transaction} {witnessIndex : Nat}
    {witnessArgs : WitnessArgs} (sized : (tx.withWitness witnessIndex witnessArgs).Sized) :
    witnessArgs.asBytes.length < 2 ^ 32 := by
  have bound := sized.getD_bound witnessIndex
  rw [Transaction.getD_withWitness] at bound
  omega

/-- `Secp256k1SighashSigner`: a boxed wallet, such as a raw-key wallet or a hardware wallet. -/
structure Secp256k1SighashSigner where
  wallet : Wallet

namespace Secp256k1SighashSigner

/-- `Secp256k1SighashSigner::sign_tx_with_owner_id`. -/
def signTxWithOwnerId (chain : Chain) (signer : Secp256k1SighashSigner) (ownerId : Bytes)
    (tx : Transaction) (group : ScriptGroup) (provider : TransactionDependencyProvider) :
    Outcome SignError Transaction := do
  let witnessIndex ← group.firstInputIndex
  let witnesses := padWitnesses tx.witnesses witnessIndex
  let txNew := tx.setWitnesses witnesses
  let zeroLock := List.replicate 65 0
  let message ← generateMessage chain txNew group zeroLock
  let signature ← ofExcept .wallet (signer.wallet.sign ownerId message tx provider)
  let currentWitness ← WitnessArgs.parseOrDefault (witnesses.getD witnessIndex [])
  let currentWitness := currentWitness.withLock (some signature)
  pure (tx.setWitnesses (witnesses.set witnessIndex currentWitness.asBytes))

/-- `Secp256k1SighashSigner::match_args`: the args are a 20-byte id the wallet holds. -/
def matchArgs (signer : Secp256k1SighashSigner) (args : Bytes) : Bool :=
  args.length == 20 && signer.wallet.matchId args

/-- `Secp256k1SighashSigner::sign_tx`: the owner id is the script args. -/
def signTx (chain : Chain) (signer : Secp256k1SighashSigner) (tx : Transaction)
    (group : ScriptGroup) (provider : TransactionDependencyProvider) : Outcome SignError Transaction :=
  signer.signTxWithOwnerId chain group.script.args tx group provider

/-- The call, with the group's first input fixed, as one chain of steps. -/
theorem signTxWithOwnerId_eq {chain : Chain} {signer : Secp256k1SighashSigner} {ownerId : Bytes}
    {tx : Transaction} {group : ScriptGroup} {provider : TransactionDependencyProvider}
    {witnessIndex : Nat} (first : group.inputIndices.head? = some witnessIndex) :
    signer.signTxWithOwnerId chain ownerId tx group provider =
      generateMessage chain (tx.setWitnesses (padWitnesses tx.witnesses witnessIndex)) group
          (List.replicate 65 0) >>= fun message =>
        ofExcept .wallet (signer.wallet.sign ownerId message tx provider) >>= fun signature =>
          (fun current => tx.withWitness witnessIndex (current.withLock (some signature))) <$>
            WitnessArgs.parseOrDefault (tx.witnesses.getD witnessIndex []) := by
  obtain ⟨later, indices⟩ := List.head?_eq_some_iff.mp first
  simp only [signTxWithOwnerId, ScriptGroup.firstInputIndex, indices, ok_bind, pure_eq,
    bind_ok_eq_map, getD_padWitnesses, Transaction.withWitness]

/-- Signing commutes with overwriting a witness that is already there, below the input count and
outside the group: the call reads neither the witness nor its position. -/
theorem signTxWithOwnerId_set_of_not_mem {chain : Chain} {signer : Secp256k1SighashSigner}
    {ownerId : Bytes} {tx : Transaction} {group : ScriptGroup}
    {provider : TransactionDependencyProvider} (deterministic : signer.wallet.Deterministic)
    {index : Nat} (outside : index ∉ group.inputIndices) (input : index < tx.raw.inputs.length)
    (present : index < tx.witnesses.length) (witness : Bytes) :
    signer.signTxWithOwnerId chain ownerId (tx.setWitnesses (tx.witnesses.set index witness)) group
        provider =
      (fun signed => signed.setWitnesses (signed.witnesses.set index witness)) <$>
        signer.signTxWithOwnerId chain ownerId tx group provider := by
  cases first : group.inputIndices.head? with
  | none =>
    have indices : group.inputIndices = [] := List.head?_eq_none_iff.mp first
    simp [signTxWithOwnerId, ScriptGroup.firstInputIndex, indices]
  | some witnessIndex =>
    have apart : index ≠ witnessIndex := by
      rintro rfl
      exact outside (List.mem_of_mem_head? first)
    rw [signTxWithOwnerId_eq first, signTxWithOwnerId_eq first]
    simp only [Transaction.witnesses_setWitnesses, Transaction.setWitnesses_setWitnesses,
      padWitnesses_set present, generateMessage_set_of_not_mem outside input,
      deterministic ownerId _ (tx.setWitnesses _) tx, List.getD_eq_getElem?_getD,
      List.getElem?_set_ne apart, map_bind, Functor.map_map,
      Transaction.withWitness_set present apart]

/-- The sighash path fails only with a wallet error or a witness `i` that does not parse: the
witnesses are padded before the message is computed, so never with `WitnessNotEnough`. -/
theorem signTxWithOwnerId_eq_err {chain : Chain} {signer : Secp256k1SighashSigner} {ownerId : Bytes}
    {tx : Transaction} {group : ScriptGroup} {provider : TransactionDependencyProvider}
    {error : SignError} (failed : signer.signTxWithOwnerId chain ownerId tx group provider = err error) :
    (∃ walletError, error = .wallet walletError) ∨
      ∃ verification, error = .invalidWitnessArgs verification := by
  cases first : group.inputIndices.head? with
  | none =>
    have indices : group.inputIndices = [] := List.head?_eq_none_iff.mp first
    simp [signTxWithOwnerId, ScriptGroup.firstInputIndex, indices] at failed
  | some witnessIndex =>
    rw [signTxWithOwnerId_eq first] at failed
    rcases bind_eq_err.mp failed with messageFailed | ⟨message, _, rest⟩
    · exact .inr (generateMessage_eq_err first (lt_length_padWitnesses _ _) messageFailed)
    · rcases bind_eq_err.mp rest with walletFailed | ⟨signature, _, parseFailed⟩
      · obtain ⟨cause, _, rfl⟩ := ofExcept_eq_err.mp walletFailed
        exact .inl ⟨cause, rfl⟩
      · exact .inr (WitnessArgs.parseOrDefault_eq_err (map_eq_err.mp parseFailed))

/-- What a successful call did, step by step. -/
theorem signTxWithOwnerId_eq_ok {chain : Chain} {signer : Secp256k1SighashSigner} {ownerId : Bytes}
    {tx signed : Transaction} {group : ScriptGroup} {provider : TransactionDependencyProvider} :
    signer.signTxWithOwnerId chain ownerId tx group provider = ok signed ↔
      ∃ witnessIndex message signature current, group.inputIndices.head? = some witnessIndex ∧
        generateMessage chain (tx.setWitnesses (padWitnesses tx.witnesses witnessIndex)) group
          (List.replicate 65 0) = ok message ∧
        signer.wallet.sign ownerId message tx provider = .ok signature ∧
        WitnessArgs.parseOrDefault (tx.witnesses.getD witnessIndex []) = ok current ∧
        signed = tx.withWitness witnessIndex (current.withLock (some signature)) := by
  simp only [signTxWithOwnerId, bind_eq_ok, ScriptGroup.firstInputIndex_eq_ok, ofExcept_eq_ok,
    getD_padWitnesses, pure_eq, ok.injEq, Transaction.withWitness]
  constructor
  · rintro ⟨witnessIndex, first, message, messaged, signature, wallet, current, parsed, rfl⟩
    exact ⟨witnessIndex, message, signature, current, first, messaged, wallet, parsed, rfl⟩
  · rintro ⟨witnessIndex, message, signature, current, first, messaged, wallet, parsed, rfl⟩
    exact ⟨witnessIndex, first, message, messaged, signature, wallet, current, parsed, rfl⟩

/-- A successful call returns `tx` with the same raw part; its witnesses are `tx`'s padded with
empty witnesses up to position `i` and changed only at `i`; witness `i` reads back as the old one
with the signature as its lock; and the digest of the signed transaction, with that lock zeroed,
is the message the wallet signed. -/
theorem signTxWithOwnerId_result (chain : Chain) (signer : Secp256k1SighashSigner) (ownerId : Bytes)
    (provider : TransactionDependencyProvider) {tx signed : Transaction} {group : ScriptGroup}
    {witnessIndex : Nat} (first : group.inputIndices.head? = some witnessIndex)
    (wellFormed : group.WellFormed tx) (sized : tx.Sized)
    (signatureLength : ∀ message signature,
      signer.wallet.sign ownerId message tx provider = .ok signature → signature.length = 65)
    (computed : signer.signTxWithOwnerId chain ownerId tx group provider = ok signed) :
    signed.raw = tx.raw ∧
      ∃ message signature current,
        generateMessage chain (tx.setWitnesses (padWitnesses tx.witnesses witnessIndex)) group
          (List.replicate 65 0) = ok message ∧
        signer.wallet.sign ownerId message tx provider = .ok signature ∧
        WitnessArgs.parseOrDefault (tx.witnesses.getD witnessIndex []) = ok current ∧
        signed.witnesses = (tx.witnesses ++
          List.replicate (witnessIndex + 1 - tx.witnesses.length) []).set witnessIndex
            (current.withLock (some signature)).asBytes ∧
        WitnessArgs.parseOrDefault (signed.witnesses.getD witnessIndex []) =
          ok (current.withLock (some signature)) ∧
        generateMessage chain signed group (List.replicate signature.length 0) = ok message := by
  obtain ⟨index, message, signature, current, first', messaged, walletSigned, parsed, rfl⟩ :=
    signTxWithOwnerId_eq_ok.mp computed
  obtain rfl : index = witnessIndex := Option.some.inj (first'.symm.trans first)
  have fits := sized.fits_withLock parsed (signatureLength message signature walletSigned).le
  refine ⟨rfl, message, signature, current, messaged, walletSigned, parsed, rfl, ?_, ?_⟩
  · rw [Transaction.getD_withWitness, WitnessArgs.parseOrDefault_asBytes fits]
  · rw [signatureLength message signature walletSigned, generateMessage_withWitness first
      wellFormed.increasing (wellFormed.first_input first) parsed fits, messaged]

/-- Signing a signed transaction again returns it unchanged, for a wallet that signs a message
the same way whatever transaction comes with it. The message is the same, because the digest
ignores the lock of witness `i`; so is the signature; and writing it again writes what is there. -/
theorem signTxWithOwnerId_idempotent (chain : Chain) (signer : Secp256k1SighashSigner)
    (ownerId : Bytes) (provider : TransactionDependencyProvider) {tx signed : Transaction}
    {group : ScriptGroup} (wellFormed : group.WellFormed tx) (deterministic : signer.wallet.Deterministic)
    (sized : signed.Sized) (computed : signer.signTxWithOwnerId chain ownerId tx group provider = ok signed) :
    signer.signTxWithOwnerId chain ownerId signed group provider = ok signed := by
  obtain ⟨witnessIndex, message, signature, current, first, messaged, walletSigned, parsed, rfl⟩ :=
    signTxWithOwnerId_eq_ok.mp computed
  have fits := sized.fits_withWitness
  refine signTxWithOwnerId_eq_ok.mpr
    ⟨witnessIndex, message, signature, current.withLock (some signature), first, ?_, ?_, ?_, ?_⟩
  · rw [Transaction.padWitnesses_withWitness, Transaction.setWitnesses_self,
      generateMessage_withWitness first wellFormed.increasing (wellFormed.first_input first) parsed fits,
      messaged]
  · rw [deterministic ownerId message _ tx provider, walletSigned]
  · rw [Transaction.getD_withWitness, WitnessArgs.parseOrDefault_asBytes fits]
  · simp

end Secp256k1SighashSigner

open Secp256k1SighashSigner in
/-- The sample: witness `0` is created, signed with 65 bytes of ones, and the signed transaction
gives back the signed message. -/
theorem signTxWithOwnerId_result_sample :
    (Sample.tx.withWitness 0 (WitnessArgs.empty.withLock (some (List.replicate 65 1)))).raw =
        Sample.tx.raw ∧
      ∃ message signature current,
        generateMessage Sample.chain (Sample.tx.setWitnesses (padWitnesses Sample.tx.witnesses 0))
          Sample.group (List.replicate 65 0) = ok message ∧
        (Sample.wallet (List.replicate 65 1)).sign Sample.group.script.args message Sample.tx
          Sample.provider = .ok signature ∧
        WitnessArgs.parseOrDefault (Sample.tx.witnesses.getD 0 []) = ok current ∧
        (Sample.tx.withWitness 0 (WitnessArgs.empty.withLock (some (List.replicate 65 1)))).witnesses =
          (Sample.tx.witnesses ++ List.replicate (0 + 1 - Sample.tx.witnesses.length) []).set 0
            (current.withLock (some signature)).asBytes ∧
        WitnessArgs.parseOrDefault ((Sample.tx.withWitness 0
          (WitnessArgs.empty.withLock (some (List.replicate 65 1)))).witnesses.getD 0 []) =
            ok (current.withLock (some signature)) ∧
        generateMessage Sample.chain
          (Sample.tx.withWitness 0 (WitnessArgs.empty.withLock (some (List.replicate 65 1))))
          Sample.group (List.replicate signature.length 0) = ok message :=
  signTxWithOwnerId_result Sample.chain ⟨Sample.wallet (List.replicate 65 1)⟩
    Sample.group.script.args Sample.provider rfl ⟨by decide, by decide, by decide⟩ (by decide)
    (by rintro _ _ ⟨⟩; rfl) rfl

end CkbSdk
