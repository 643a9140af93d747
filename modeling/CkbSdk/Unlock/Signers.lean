import CkbSdk.Unlock.MultisigRuns

/-!
# The script signers

The crate's four implementations of `ScriptSigner`: the sighash signer, the multisig signer, and
two signers built on the sighash one, for anyone-can-pay locks and for cheque locks, which pass
it another owner id. `ScriptSigner` here is the sum of the four, so that a statement about every
signer is one statement.

`match_args` returns a Boolean for every signer and every args but one case: the anyone-can-pay
signer slices `args[0..20]` before it checks the length, so args under 20 bytes panic
(`ScriptSigner.matchArgs_eq_panic`).

Signing twice is signing once for the three sighash-based signers whenever the wallet signs a
message the same way each time. For the multisig signer it takes one more condition: the wallet
never signs with 65 zero bytes. Such a signature is taken for the empty slot it equals, so a
second call no longer finds a place for it once another signature has filled that slot.
-/

namespace CkbSdk

open Outcome

/-- `AnyoneCanPaySigner`: a sighash signer whose owner id is the first 20 bytes of the args. -/
structure AnyoneCanPaySigner where
  sighashSigner : Secp256k1SighashSigner

namespace AnyoneCanPaySigner

/-- `AnyoneCanPaySigner::match_args`. The slice `args[0..20]` is taken before the length check,
so args shorter than 20 bytes panic. -/
def matchArgs (signer : AnyoneCanPaySigner) (args : Bytes) : Outcome Empty Bool :=
  if args.length < 20 then panic
  else ok (20 ≤ args.length && args.length ≤ 22 && signer.sighashSigner.wallet.matchId (args.take 20))

/-- `AnyoneCanPaySigner::sign_tx`: `args[0..20]` is the owner id, and shorter args panic. -/
def signTx (chain : Chain) (signer : AnyoneCanPaySigner) (tx : Transaction) (group : ScriptGroup)
    (provider : TransactionDependencyProvider) : Outcome SignError Transaction :=
  let args := group.script.args
  if args.length < 20 then panic
  else signer.sighashSigner.signTxWithOwnerId chain (args.take 20) tx group provider

end AnyoneCanPaySigner

/-- `ChequeAction`: whether the signer claims a cheque, as its receiver, or withdraws it, as its
sender. -/
inductive ChequeAction where
  | claim
  | withdraw
deriving DecidableEq, Repr

/-- `ChequeSigner`: a sighash signer and the action it signs for. -/
structure ChequeSigner where
  sighashSigner : Secp256k1SighashSigner
  action : ChequeAction

namespace ChequeSigner

/-- `ChequeSigner::owner_id`: no bytes unless the args are 40 bytes; then the receiver half for a
claim and the sender half for a withdrawal. -/
def ownerId (signer : ChequeSigner) (args : Bytes) : Bytes :=
  if args.length ≠ 40 then []
  else if signer.action = .claim then args.take 20
  else (args.drop 20).take 20

/-- `ChequeSigner::match_args`. -/
def matchArgs (signer : ChequeSigner) (args : Bytes) : Bool :=
  args.length == 40 && signer.sighashSigner.wallet.matchId (signer.ownerId args)

/-- `ChequeSigner::sign_tx`. -/
def signTx (chain : Chain) (signer : ChequeSigner) (tx : Transaction) (group : ScriptGroup)
    (provider : TransactionDependencyProvider) : Outcome SignError Transaction :=
  signer.sighashSigner.signTxWithOwnerId chain (signer.ownerId group.script.args) tx group provider

end ChequeSigner

/-- The signers implementing `ScriptSigner`. -/
inductive ScriptSigner where
  | sighash (signer : Secp256k1SighashSigner)
  | multisig (signer : Secp256k1MultisigSigner)
  | anyoneCanPay (signer : AnyoneCanPaySigner)
  | cheque (signer : ChequeSigner)

namespace ScriptSigner

/-- `ScriptSigner::match_args` of each signer; only the anyone-can-pay one can panic. -/
def matchArgs : ScriptSigner → Bytes → Outcome Empty Bool
  | sighash signer, args => ok (signer.matchArgs args)
  | multisig signer, args => ok (signer.matchArgs args)
  | anyoneCanPay signer, args => signer.matchArgs args
  | cheque signer, args => ok (signer.matchArgs args)

/-- `match_args` panics exactly for an anyone-can-pay signer given args under 20 bytes; every
other call returns a Boolean. -/
theorem matchArgs_eq_panic (signer : ScriptSigner) (args : Bytes) :
    signer.matchArgs args = panic ↔
      (∃ anyoneCanPay, signer = .anyoneCanPay anyoneCanPay) ∧ args.length < 20 := by
  cases signer <;> simp [matchArgs, AnyoneCanPaySigner.matchArgs]

/-- An anyone-can-pay signer panics on 19 bytes of args, whatever its wallet. -/
theorem anyoneCanPay_matchArgs_short_args_panics (signer : AnyoneCanPaySigner) :
    (ScriptSigner.anyoneCanPay signer).matchArgs (List.replicate 19 0) = panic :=
  rfl

/-- `ScriptSigner::sign_tx` of each signer. -/
def signTx (chain : Chain) : ScriptSigner → Transaction → ScriptGroup →
    TransactionDependencyProvider → Outcome SignError Transaction
  | sighash signer, tx, group, provider => signer.signTx chain tx group provider
  | multisig signer, tx, group, provider => signer.signTx chain tx group provider
  | anyoneCanPay signer, tx, group, provider => signer.signTx chain tx group provider
  | cheque signer, tx, group, provider => signer.signTx chain tx group provider

/-- Every signer fails only with a wallet error or a witness `i` that does not parse, and the
multisig signer also with too many signatures. No signer returns `WitnessNotEnough`, since each
pads the witnesses before it computes the message; nor `TxDep`, `InvalidMultisigConfig` or
`Other`. -/
theorem signTx_err_kinds (chain : Chain) (signer : ScriptSigner) (provider : TransactionDependencyProvider)
    (tx : Transaction) (group : ScriptGroup) {error : SignError}
    (failed : signer.signTx chain tx group provider = err error) :
    (∃ walletError, error = .wallet walletError) ∨
      (∃ verification, error = .invalidWitnessArgs verification) ∨
      (error = .tooManySignatures ∧ ∃ multisig, signer = .multisig multisig) := by
  cases signer with
  | sighash signer => exact (signer.signTxWithOwnerId_eq_err failed).imp_right .inl
  | multisig signer =>
    rcases signer.signTx_eq_err failed with walletFailed | parseFailed | tooMany
    · exact .inl walletFailed
    · exact .inr (.inl parseFailed)
    · exact .inr (.inr ⟨tooMany, signer, rfl⟩)
  | anyoneCanPay signer =>
    simp only [signTx, AnyoneCanPaySigner.signTx] at failed
    split at failed
    · cases failed
    · exact (signer.sighashSigner.signTxWithOwnerId_eq_err failed).imp_right .inl
  | cheque signer => exact (signer.sighashSigner.signTxWithOwnerId_eq_err failed).imp_right .inl

set_option maxRecDepth 2000 in
/-- The sample: a wallet that cannot sign makes the sighash signer fail with its error. -/
theorem signTx_err_kinds_sample :
    ∃ error, (ScriptSigner.sighash ⟨⟨fun _ => true, fun _ _ _ _ => .error ⟨"locked"⟩⟩⟩).signTx
        Sample.chain Sample.tx Sample.group Sample.provider = err error ∧
      ((∃ walletError, error = .wallet walletError) ∨
        (∃ verification, error = .invalidWitnessArgs verification) ∨
        (error = .tooManySignatures ∧ ∃ multisig,
          ScriptSigner.sighash ⟨⟨fun _ => true, fun _ _ _ _ => .error ⟨"locked"⟩⟩⟩ =
            ScriptSigner.multisig multisig)) :=
  ⟨_, rfl, ScriptSigner.signTx_err_kinds Sample.chain _ Sample.provider Sample.tx Sample.group rfl⟩

/-- The wallet a signer signs with. -/
def wallet : ScriptSigner → Wallet
  | sighash signer => signer.wallet
  | multisig signer => signer.wallet
  | anyoneCanPay signer => signer.sighashSigner.wallet
  | cheque signer => signer.sighashSigner.wallet

/-- What idempotence needs beyond a deterministic wallet: a multisig wallet never signs with a
zero slot. The sighash-based signers need nothing more. -/
def NoZeroSignature : ScriptSigner → Prop
  | multisig signer => ∀ ownerId message tx provider signature,
      signer.wallet.sign ownerId message tx provider = .ok signature → signature ≠ zeroSlot
  | _ => True

end ScriptSigner

namespace Sample

/-- A one-of-two config over the sample addresses. -/
def oneOfTwoConfig : MultisigConfig :=
  ⟨[⟨List.replicate 20 1, rfl⟩, ⟨List.replicate 20 2, rfl⟩], 0, 1, by decide, by decide, by decide⟩

/-- A party holding both addresses, whose wallet signs for the first with 65 zero bytes and for
the second with 65 bytes of fives, whatever the message. -/
def zeroSigningParty : Secp256k1MultisigSigner :=
  Secp256k1MultisigSigner.new chain
    ⟨fun _ => true, fun id _ _ _ => .ok (if id = List.replicate 20 1 then zeroSlot else List.replicate 65 5)⟩
    oneOfTwoConfig

end Sample

set_option maxRecDepth 4000 in
/-- Signing twice is not signing once for a multisig wallet that signs with a zero slot. The
first call finds the zero signature in the empty slot and leaves it, then fills that slot with
the second signature; the second call finds no slot left for the zero signature. -/
theorem multisig_zero_signature_sign_twice :
    (ScriptSigner.multisig Sample.zeroSigningParty).wallet.Deterministic ∧
      Sample.group.WellFormed Sample.tx ∧
      (ScriptSigner.multisig Sample.zeroSigningParty).signTx Sample.chain Sample.tx Sample.group
          Sample.provider =
        ok (Sample.tx.withWitness 0 (WitnessArgs.empty.withLock
          (some (Sample.oneOfTwoConfig.slotLock [List.replicate 65 5])))) ∧
      (ScriptSigner.multisig Sample.zeroSigningParty).signTx Sample.chain
          (Sample.tx.withWitness 0 (WitnessArgs.empty.withLock
            (some (Sample.oneOfTwoConfig.slotLock [List.replicate 65 5])))) Sample.group
          Sample.provider =
        err .tooManySignatures :=
  ⟨fun _ _ _ _ _ => rfl, ⟨by decide, by decide, by decide⟩, rfl, rfl⟩

/-- Signing twice is signing once, for every signer whose wallet signs a message the same way
whatever transaction comes with it and, for a multisig signer, never signs with a zero slot,
when the signed transaction is below 4 GiB. -/
theorem ScriptSigner.sign_twice_eq_sign_once (chain : Chain) (signer : ScriptSigner)
    (provider : TransactionDependencyProvider) {tx signed : Transaction} {group : ScriptGroup}
    (wellFormed : group.WellFormed tx) (deterministic : signer.wallet.Deterministic)
    (nonzero : signer.NoZeroSignature) (sized : signed.Sized)
    (computed : signer.signTx chain tx group provider = ok signed) :
    signer.signTx chain signed group provider = ok signed := by
  cases signer with
  | sighash signer =>
    exact signer.signTxWithOwnerId_idempotent chain _ provider wellFormed deterministic sized computed
  | multisig signer => exact signer.signTx_idempotent wellFormed deterministic nonzero sized computed
  | anyoneCanPay signer =>
    simp only [ScriptSigner.signTx, AnyoneCanPaySigner.signTx] at computed ⊢
    split at computed
    · cases computed
    · next long =>
      rw [if_neg long]
      exact signer.sighashSigner.signTxWithOwnerId_idempotent chain _ provider wellFormed
        deterministic sized computed
  | cheque signer =>
    exact signer.sighashSigner.signTxWithOwnerId_idempotent chain _ provider wellFormed deterministic
      sized computed

set_option maxRecDepth 4000 in
/-- The sample: party 1 of the two-of-two config signs the sample transaction, and signing the
result again returns it. -/
theorem sign_twice_eq_sign_once_sample :
    (ScriptSigner.multisig (Sample.multisigParty 1)).signTx Sample.chain
        (Sample.tx.withWitness 0 (WitnessArgs.empty.withLock
          (some (Sample.multisigConfig.slotLock [List.replicate 65 1])))) Sample.group Sample.provider =
      ok (Sample.tx.withWitness 0 (WitnessArgs.empty.withLock
        (some (Sample.multisigConfig.slotLock [List.replicate 65 1])))) :=
  ScriptSigner.sign_twice_eq_sign_once Sample.chain (.multisig (Sample.multisigParty 1)) Sample.provider
    (show Sample.group.WellFormed Sample.tx from ⟨by decide, by decide, by decide⟩) (fun _ _ _ _ _ => rfl)
    (by rintro _ _ _ _ _ ⟨⟩; decide) (by decide) rfl

end CkbSdk
