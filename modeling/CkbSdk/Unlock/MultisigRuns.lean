import CkbSdk.Unlock.Multisig

/-!
# Runs of multisig signing

Multisig signing is a protocol between parties that sign one transaction in turn, each on the
result of the last. This module follows such runs. The state of a run is the transaction with
witness `i` carrying the lock `config data ++ filled slots ++ zero slots`; `SlotState` names what
holds of it. One turn keeps `SlotState` and only appends to the filled slots
(`Secp256k1MultisigSigner.signTx_slotLock_eq_ok`), so by induction every run keeps it
(`signRun_slotLock`), from every point of the run on (`signRun_slotState`). Two parties reach
the same signatures in either order (`signTx_comm`).
-/

namespace CkbSdk

open Outcome Secp256k1MultisigSigner

/-- Parties signing one after another, each on the previous result. -/
def signRun (chain : Chain) (group : ScriptGroup) (provider : TransactionDependencyProvider) :
    List Secp256k1MultisigSigner → Transaction → Outcome SignError Transaction
  | [], tx => ok tx
  | signer :: signers, tx =>
    signer.signTx chain tx group provider >>= signRun chain group provider signers

/-- What holds of `state`, reached from `tx` by the parties `signers` signing `message`: witness
`i` is the original arguments `base` with the lock `config data ++ filled ++ zero slots`, as long
as the zero lock; the filled slots are distinct non-zero 65-byte signatures, within the
threshold; and each is the signature of `message` by one of the parties' wallets, under a
configured address the wallet holds. -/
structure SlotState (provider : TransactionDependencyProvider) (config : MultisigConfig)
    (message : Bytes) (signers : List Secp256k1MultisigSigner) (tx : Transaction)
    (witnessIndex : Nat) (base : WitnessArgs) (state : Transaction) (filled : List Bytes) : Prop where
  layout : state = tx.withWitness witnessIndex (base.withLock (some (config.slotLock filled)))
  lockLength :
    (config.slotLock filled).length = config.toWitnessData.length + 65 * config.threshold.toNat
  distinct : filled.Nodup
  slots : ∀ signature ∈ filled, signature.length = 65 ∧ signature ≠ zeroSlot
  bounded : filled.length ≤ config.threshold.toNat
  signed : ∀ signature ∈ filled, ∃ signer ∈ signers, ∃ address ∈ config.sighashAddresses,
    signer.wallet.matchId address.bytes ∧
      signer.wallet.sign address.bytes message tx provider = .ok signature

/-- The parties of a run: all share the config, sign deterministically, and fill slots. -/
def Parties (config : MultisigConfig) (signers : List Secp256k1MultisigSigner) : Prop :=
  ∀ signer ∈ signers, signer.config = config ∧ signer.wallet.Deterministic ∧ signer.wallet.SignsSlots

section Runs

variable {chain : Chain} {provider : TransactionDependencyProvider} {config : MultisigConfig}
  {tx : Transaction} {group : ScriptGroup} {witnessIndex : Nat} {base : WitnessArgs}

/-- A run keeps the layout and only appends: from filled slots `filled`, it ends with
`filled ++ added`, where the added signatures are distinct from the old ones and from each
other, fill slots, stay within the threshold, and are the parties' signatures of `message`. -/
theorem signRun_slotLock (first : group.inputIndices.head? = some witnessIndex)
    (increasing : group.inputIndices.Sorted (· < ·)) (input : witnessIndex < tx.raw.inputs.length)
    (parsed : WitnessArgs.parseOrDefault (tx.witnesses.getD witnessIndex []) = ok base)
    (fits : (base.withLock (some config.zeroLock)).asBytes.length < 2 ^ 32) {message : Bytes}
    (messaged : generateMessage chain (tx.setWitnesses (padWitnesses tx.witnesses witnessIndex)) group
      config.zeroLock = ok message) :
    ∀ (signers : List Secp256k1MultisigSigner) (filled : List Bytes) (final : Transaction),
      Parties config signers → filled.Nodup →
      (∀ signature ∈ filled, signature.length = 65 ∧ signature ≠ zeroSlot) →
      filled.length ≤ config.threshold.toNat →
      signRun chain group provider signers
          (tx.withWitness witnessIndex (base.withLock (some (config.slotLock filled)))) = ok final →
      ∃ added, final = tx.withWitness witnessIndex (base.withLock (some (config.slotLock (filled ++ added)))) ∧
        (filled ++ added).Nodup ∧
        (∀ signature ∈ filled ++ added, signature.length = 65 ∧ signature ≠ zeroSlot) ∧
        (filled ++ added).length ≤ config.threshold.toNat ∧
        ∀ signature ∈ added, ∃ signer ∈ signers, ∃ address ∈ config.sighashAddresses,
          signer.wallet.matchId address.bytes ∧
            signer.wallet.sign address.bytes message tx provider = .ok signature := by
  intro signers
  induction signers with
  | nil =>
    intro filled final _ distinct filledSlots bounded ran
    cases ran
    exact ⟨[], by simp, by simpa, by simpa, by simpa, by simp⟩
  | cons signer signers inductionHypothesis =>
    intro filled final parties distinct filledSlots bounded ran
    obtain ⟨configured, deterministic, slotsSigned⟩ := parties signer (List.mem_cons_self _ _)
    obtain ⟨middle, turned, ranRest⟩ := bind_eq_ok.mp ran
    obtain ⟨collected, collecting, within, rfl⟩ := (signTx_slotLock_eq_ok configured deterministic
      slotsSigned first increasing input parsed fits messaged filledSlots bounded).mp turned
    have collectedSigned := fun signature (member : signature ∈ collected) =>
      signatures_signed collecting member
    have grown := nodup_foldl_addSignature collected distinct
    obtain ⟨added, rest, distinctAll, slotsAll, boundedAll, signedRest⟩ :=
      inductionHypothesis _ final (fun other member => parties other (List.mem_cons_of_mem _ member))
        grown (slots_foldl_addSignature filledSlots (signatures_slots slotsSigned collecting)) within
        ranRest
    obtain ⟨new, appended⟩ := prefix_foldl_addSignature collected filled
    rw [← appended] at rest distinctAll slotsAll boundedAll grown
    refine ⟨new ++ added, by rw [rest, List.append_assoc], by rwa [← List.append_assoc],
      by rwa [← List.append_assoc], by rwa [← List.append_assoc], ?_⟩
    intro signature member
    rcases List.mem_append.mp member with fresh | later
    · have notOld : signature ∉ filled := fun old => List.disjoint_of_nodup_append grown old fresh
      have inCollected := (mem_foldl_addSignature.mp (appended ▸ List.mem_append_right filled fresh))
      obtain ⟨address, configuredAddress, holds, walletSigned⟩ :=
        collectedSigned signature (inCollected.resolve_left notOld)
      exact ⟨signer, List.mem_cons_self _ _, address, configured ▸ configuredAddress, holds,
        walletSigned⟩
    · obtain ⟨other, party, rest⟩ := signedRest signature later
      exact ⟨other, List.mem_cons_of_mem _ party, rest⟩

/-- The first party of a run meets a witness without a lock; it signs as if the zero lock
were written in. -/
theorem signRun_lockless (first : group.inputIndices.head? = some witnessIndex)
    (increasing : group.inputIndices.Sorted (· < ·)) (input : witnessIndex < tx.raw.inputs.length)
    (parsed : WitnessArgs.parseOrDefault (tx.witnesses.getD witnessIndex []) = ok base)
    (lockless : base.lock = none)
    (fits : (base.withLock (some config.zeroLock)).asBytes.length < 2 ^ 32)
    {signers : List Secp256k1MultisigSigner} (parties : Parties config signers) (started : signers ≠ []) :
    signRun chain group provider signers tx =
      signRun chain group provider signers
        (tx.withWitness witnessIndex (base.withLock (some (config.slotLock [])))) := by
  obtain ⟨signer, rest, rfl⟩ := List.exists_cons_of_ne_nil started
  obtain ⟨configured, deterministic, -⟩ := parties signer (List.mem_cons_self _ _)
  subst configured
  simp only [signRun, ← MultisigConfig.zeroLock_eq_slotLock,
    signTx_lockless first increasing input parsed lockless fits deterministic]

/-- The message of a signed state is the message of the run. -/
theorem generateMessage_slotLock (first : group.inputIndices.head? = some witnessIndex)
    (increasing : group.inputIndices.Sorted (· < ·)) (input : witnessIndex < tx.raw.inputs.length)
    (parsed : WitnessArgs.parseOrDefault (tx.witnesses.getD witnessIndex []) = ok base)
    (fits : (base.withLock (some config.zeroLock)).asBytes.length < 2 ^ 32) {filled : List Bytes}
    (whole : ∀ slot ∈ filled, slot.length = 65) (bounded : filled.length ≤ config.threshold.toNat) :
    generateMessage chain (tx.withWitness witnessIndex (base.withLock (some (config.slotLock filled))))
        group config.zeroLock =
      generateMessage chain (tx.setWitnesses (padWitnesses tx.witnesses witnessIndex)) group
        config.zeroLock :=
  generateMessage_withWitness first increasing input parsed (fits_slotLock fits whole bounded)

end Runs

/-- A run of multisig parties from a witness without a lock. After the first `earlier` turns,
and again after `later` ones more, witness `i` carries `config data ++ filled slots ++ zero
slots` of the zero lock's length; the filled slots are distinct non-zero signatures within the
threshold; those filled by the earlier turns are still there, in place; and every filled slot is
a party's signature of the message both transactions give. -/
theorem signRun_slotState (chain : Chain) (provider : TransactionDependencyProvider)
    (config : MultisigConfig) {tx : Transaction} {group : ScriptGroup} {witnessIndex : Nat}
    {base : WitnessArgs} (first : group.inputIndices.head? = some witnessIndex)
    (wellFormed : group.WellFormed tx)
    (parsed : WitnessArgs.parseOrDefault (tx.witnesses.getD witnessIndex []) = ok base)
    (lockless : base.lock = none)
    (fits : (base.withLock (some config.zeroLock)).asBytes.length < 2 ^ 32)
    {earlier later : List Secp256k1MultisigSigner} (parties : Parties config (earlier ++ later))
    (started : earlier ≠ []) {middle final : Transaction}
    (ranEarlier : signRun chain group provider earlier tx = ok middle)
    (ranLater : signRun chain group provider later middle = ok final) :
    ∃ message filled added,
      generateMessage chain middle group config.zeroLock = ok message ∧
      generateMessage chain final group config.zeroLock = ok message ∧
      SlotState provider config message earlier tx witnessIndex base middle filled ∧
      SlotState provider config message (earlier ++ later) tx witnessIndex base final
        (filled ++ added) := by
  have increasing := wellFormed.increasing
  have input := wellFormed.first_input first
  have earlierParties : Parties config earlier := fun signer member =>
    parties signer (List.mem_append_left later member)
  have laterParties : Parties config later := fun signer member =>
    parties signer (List.mem_append_right earlier member)
  obtain ⟨message, messaged⟩ : ∃ message, generateMessage chain
      (tx.setWitnesses (padWitnesses tx.witnesses witnessIndex)) group config.zeroLock = ok message := by
    obtain ⟨signer, rest, rfl⟩ := List.exists_cons_of_ne_nil started
    obtain ⟨middleStep, stepped, -⟩ := bind_eq_ok.mp ranEarlier
    rw [← (earlierParties signer (List.mem_cons_self _ _)).1]
    exact generateMessage_of_signTx first stepped
  rw [signRun_lockless first increasing input parsed lockless fits earlierParties started] at ranEarlier
  obtain ⟨filled, rfl, distinct, filledSlots, bounded, filledSigned⟩ :=
    signRun_slotLock first increasing input parsed fits messaged earlier [] middle earlierParties
      List.nodup_nil (by simp) (by simp) ranEarlier
  obtain ⟨added, rfl, distinctAll, slotsAll, boundedAll, addedSigned⟩ :=
    signRun_slotLock first increasing input parsed fits messaged later filled final laterParties
      distinct filledSlots bounded ranLater
  refine ⟨message, filled, added, ?_, ?_, ⟨rfl, ?_, distinct, filledSlots, bounded, filledSigned⟩,
    ⟨rfl, ?_, distinctAll, slotsAll, boundedAll, fun signature member => ?_⟩⟩
  · rw [generateMessage_slotLock first increasing input parsed fits
      (fun slot member => (filledSlots slot member).1) bounded, messaged]
  · rw [generateMessage_slotLock first increasing input parsed fits
      (fun slot member => (slotsAll slot member).1) boundedAll, messaged]
  · exact config.length_slotLock (fun slot member => (filledSlots slot member).1) bounded
  · exact config.length_slotLock (fun slot member => (slotsAll slot member).1) boundedAll
  · rcases List.mem_append.mp member with old | new
    · obtain ⟨signer, party, rest⟩ := filledSigned signature old
      exact ⟨signer, List.mem_append_left later party, rest⟩
    · obtain ⟨signer, party, rest⟩ := addedSigned signature new
      exact ⟨signer, List.mem_append_right earlier party, rest⟩

namespace Sample

/-- Both sample parties are parties of the sample config. -/
theorem parties_multisigParty : Parties multisigConfig [multisigParty 1, multisigParty 2] := by
  intro signer member
  simp only [List.mem_cons, List.mem_singleton, List.not_mem_nil, or_false] at member
  rcases member with rfl | rfl <;>
    exact ⟨rfl, fun _ _ _ _ _ => rfl, by rintro _ _ _ _ _ ⟨⟩; decide⟩

end Sample

set_option maxRecDepth 4000 in
/-- The sample run: party 1 signs, then party 2; the first slot keeps party 1's signature. -/
theorem signRun_slotState_sample :
    ∃ message filled added,
      generateMessage Sample.chain (Sample.tx.withWitness 0 (WitnessArgs.empty.withLock
        (some (Sample.multisigConfig.slotLock [List.replicate 65 1]))))
          Sample.group Sample.multisigConfig.zeroLock = ok message ∧
      generateMessage Sample.chain (Sample.tx.withWitness 0 (WitnessArgs.empty.withLock
        (some (Sample.multisigConfig.slotLock [List.replicate 65 1, List.replicate 65 2]))))
          Sample.group Sample.multisigConfig.zeroLock = ok message ∧
      SlotState Sample.provider Sample.multisigConfig message [Sample.multisigParty 1] Sample.tx 0
        WitnessArgs.empty (Sample.tx.withWitness 0 (WitnessArgs.empty.withLock
          (some (Sample.multisigConfig.slotLock [List.replicate 65 1])))) filled ∧
      SlotState Sample.provider Sample.multisigConfig message
        ([Sample.multisigParty 1] ++ [Sample.multisigParty 2]) Sample.tx 0 WitnessArgs.empty
        (Sample.tx.withWitness 0 (WitnessArgs.empty.withLock
          (some (Sample.multisigConfig.slotLock [List.replicate 65 1, List.replicate 65 2]))))
        (filled ++ added) :=
  signRun_slotState Sample.chain Sample.provider Sample.multisigConfig
    (show Sample.group.inputIndices.head? = some 0 from rfl)
    (show Sample.group.WellFormed Sample.tx from ⟨by decide, by decide, by decide⟩)
    (show WitnessArgs.parseOrDefault (Sample.tx.witnesses.getD 0 []) = ok WitnessArgs.empty from rfl)
    rfl (by decide) Sample.parties_multisigParty (by simp) rfl rfl

/-- Two turns from a witness without a lock: the second party adds its signatures to the
first's, over the one message. -/
theorem signTx_pair_eq_ok {chain : Chain} {provider : TransactionDependencyProvider}
    {config : MultisigConfig} {tx : Transaction} {group : ScriptGroup} {witnessIndex : Nat}
    {base : WitnessArgs} (first : group.inputIndices.head? = some witnessIndex)
    (wellFormed : group.WellFormed tx)
    (parsed : WitnessArgs.parseOrDefault (tx.witnesses.getD witnessIndex []) = ok base)
    (lockless : base.lock = none)
    (fits : (base.withLock (some config.zeroLock)).asBytes.length < 2 ^ 32)
    {signerA signerB : Secp256k1MultisigSigner} (parties : Parties config [signerA, signerB])
    {signed : Transaction} :
    (signerA.signTx chain tx group provider >>= fun middle => signerB.signTx chain middle group provider) =
        ok signed ↔
      ∃ message collectedA collectedB,
        generateMessage chain (tx.setWitnesses (padWitnesses tx.witnesses witnessIndex)) group
          config.zeroLock = ok message ∧
        signerA.signatures message tx provider = ok collectedA ∧
        signerB.signatures message tx provider = ok collectedB ∧
        ((collectedA ++ collectedB).foldl addSignature []).length ≤ config.threshold.toNat ∧
        signed = tx.withWitness witnessIndex
          (base.withLock (some (config.slotLock ((collectedA ++ collectedB).foldl addSignature [])))) := by
  have increasing := wellFormed.increasing
  have input := wellFormed.first_input first
  obtain ⟨configuredA, deterministicA, slotsA⟩ := parties signerA (by simp)
  obtain ⟨configuredB, deterministicB, slotsB⟩ := parties signerB (by simp)
  have fitsA : (base.withLock (some signerA.config.zeroLock)).asBytes.length < 2 ^ 32 := by
    rw [configuredA]
    exact fits
  have noSlots : ∀ slot ∈ ([] : List Bytes), slot.length = 65 ∧ slot ≠ zeroSlot := by simp
  have startA : signerA.signTx chain tx group provider =
      signerA.signTx chain (tx.withWitness witnessIndex (base.withLock (some (config.slotLock []))))
        group provider := by
    rw [signTx_lockless first increasing input parsed lockless fitsA deterministicA, configuredA,
      MultisigConfig.zeroLock_eq_slotLock]
  cases messaged : generateMessage chain (tx.setWitnesses (padWitnesses tx.witnesses witnessIndex))
      group config.zeroLock
  case ok message =>
    simp only [bind_eq_ok, startA, signTx_slotLock_eq_ok configuredA deterministicA slotsA first
      increasing input parsed fits messaged noSlots (Nat.zero_le _)]
    have grownSlots : ∀ {collectedA : List Bytes},
        signerA.signatures message tx provider = ok collectedA →
          ∀ signature ∈ collectedA.foldl addSignature [], signature.length = 65 ∧ signature ≠ zeroSlot :=
      fun collectingA => slots_foldl_addSignature noSlots (signatures_slots slotsA collectingA)
    constructor
    · rintro ⟨middle, ⟨collectedA, collectingA, withinA, rfl⟩, turnedB⟩
      obtain ⟨collectedB, collectingB, withinB, rfl⟩ := (signTx_slotLock_eq_ok configuredB
        deterministicB slotsB first increasing input parsed fits messaged (grownSlots collectingA)
          withinA).mp turnedB
      exact ⟨message, collectedA, collectedB, rfl, collectingA, collectingB,
        by rwa [List.foldl_append], by rw [List.foldl_append]⟩
    · rintro ⟨message', collectedA, collectedB, computedMessage, collectingA, collectingB, within, rfl⟩
      cases computedMessage
      rw [List.foldl_append] at within ⊢
      have withinA := (prefix_foldl_addSignature collectedB (collectedA.foldl addSignature [])).length_le.trans within
      exact ⟨_, ⟨collectedA, collectingA, withinA, rfl⟩, (signTx_slotLock_eq_ok configuredB
        deterministicB slotsB first increasing input parsed fits messaged (grownSlots collectingA)
          withinA).mpr ⟨collectedB, collectingB, within, rfl⟩⟩
  all_goals
    rw [signTx_lockless first increasing input parsed lockless fitsA deterministicA,
      signTx_withWitness first increasing input parsed fitsA deterministicA, configuredA, messaged]
    simp

/-- Two multisig parties sign a transaction whose witness `i` has no lock, in either order. Both
orders succeed or both fail; when both succeed, the two transactions are the original one with
witness `i` given the lock `config data ++ filled slots ++ zero slots`, and the filled slots of
the two hold the same signatures, possibly in another order. -/
theorem signTx_comm (chain : Chain) (provider : TransactionDependencyProvider)
    (config : MultisigConfig) {tx : Transaction} {group : ScriptGroup} {witnessIndex : Nat}
    {base : WitnessArgs} (first : group.inputIndices.head? = some witnessIndex)
    (wellFormed : group.WellFormed tx)
    (parsed : WitnessArgs.parseOrDefault (tx.witnesses.getD witnessIndex []) = ok base)
    (lockless : base.lock = none)
    (fits : (base.withLock (some config.zeroLock)).asBytes.length < 2 ^ 32)
    {signerA signerB : Secp256k1MultisigSigner} (parties : Parties config [signerA, signerB]) :
    ((∃ signed, (signerA.signTx chain tx group provider >>= fun middle =>
        signerB.signTx chain middle group provider) = ok signed) ↔
      ∃ signed, (signerB.signTx chain tx group provider >>= fun middle =>
        signerA.signTx chain middle group provider) = ok signed) ∧
    ∀ signedAB signedBA,
      (signerA.signTx chain tx group provider >>= fun middle =>
        signerB.signTx chain middle group provider) = ok signedAB →
      (signerB.signTx chain tx group provider >>= fun middle =>
        signerA.signTx chain middle group provider) = ok signedBA →
      ∃ filledAB filledBA, filledAB.Perm filledBA ∧
        signedAB = tx.withWitness witnessIndex (base.withLock (some (config.slotLock filledAB))) ∧
        signedBA = tx.withWitness witnessIndex (base.withLock (some (config.slotLock filledBA))) := by
  have swapped : Parties config [signerB, signerA] := fun signer member =>
    parties signer ((List.Perm.swap signerA signerB []).mem_iff.mp member)
  have sameCount : ∀ collectedA collectedB : List Bytes,
      ((collectedA ++ collectedB).foldl addSignature []).length =
        ((collectedB ++ collectedA).foldl addSignature []).length :=
    fun collectedA collectedB => (perm_foldl_addSignature_append collectedA collectedB).length_eq
  refine ⟨⟨fun ⟨signed, computed⟩ => ?_, fun ⟨signed, computed⟩ => ?_⟩,
    fun signedAB signedBA computedAB computedBA => ?_⟩
  · obtain ⟨message, collectedA, collectedB, messaged, collectingA, collectingB, within, -⟩ :=
      (signTx_pair_eq_ok first wellFormed parsed lockless fits parties).mp computed
    exact ⟨_, (signTx_pair_eq_ok first wellFormed parsed lockless fits swapped).mpr
      ⟨message, collectedB, collectedA, messaged, collectingB, collectingA,
        sameCount collectedA collectedB ▸ within, rfl⟩⟩
  · obtain ⟨message, collectedB, collectedA, messaged, collectingB, collectingA, within, -⟩ :=
      (signTx_pair_eq_ok first wellFormed parsed lockless fits swapped).mp computed
    exact ⟨_, (signTx_pair_eq_ok first wellFormed parsed lockless fits parties).mpr
      ⟨message, collectedA, collectedB, messaged, collectingA, collectingB,
        sameCount collectedB collectedA ▸ within, rfl⟩⟩
  · obtain ⟨message, collectedA, collectedB, messaged, collectingA, collectingB, -, rfl⟩ :=
      (signTx_pair_eq_ok first wellFormed parsed lockless fits parties).mp computedAB
    obtain ⟨message', collectedB', collectedA', messaged', collectingB', collectingA', -, rfl⟩ :=
      (signTx_pair_eq_ok first wellFormed parsed lockless fits swapped).mp computedBA
    obtain rfl : message = message' := ok.inj (messaged.symm.trans messaged')
    obtain rfl : collectedA = collectedA' := ok.inj (collectingA.symm.trans collectingA')
    obtain rfl : collectedB = collectedB' := ok.inj (collectingB.symm.trans collectingB')
    exact ⟨_, _, perm_foldl_addSignature_append collectedA collectedB, rfl, rfl⟩

set_option maxRecDepth 4000 in
/-- The sample parties in either order. -/
theorem signTx_comm_sample :
    ((∃ signed, ((Sample.multisigParty 1).signTx Sample.chain Sample.tx Sample.group Sample.provider >>=
        fun middle => (Sample.multisigParty 2).signTx Sample.chain middle Sample.group Sample.provider) =
          ok signed) ↔
      ∃ signed, ((Sample.multisigParty 2).signTx Sample.chain Sample.tx Sample.group Sample.provider >>=
        fun middle => (Sample.multisigParty 1).signTx Sample.chain middle Sample.group Sample.provider) =
          ok signed) ∧
    ∀ signedAB signedBA,
      ((Sample.multisigParty 1).signTx Sample.chain Sample.tx Sample.group Sample.provider >>=
        fun middle => (Sample.multisigParty 2).signTx Sample.chain middle Sample.group Sample.provider) =
          ok signedAB →
      ((Sample.multisigParty 2).signTx Sample.chain Sample.tx Sample.group Sample.provider >>=
        fun middle => (Sample.multisigParty 1).signTx Sample.chain middle Sample.group Sample.provider) =
          ok signedBA →
      ∃ filledAB filledBA, filledAB.Perm filledBA ∧
        signedAB = Sample.tx.withWitness 0
          (WitnessArgs.empty.withLock (some (Sample.multisigConfig.slotLock filledAB))) ∧
        signedBA = Sample.tx.withWitness 0
          (WitnessArgs.empty.withLock (some (Sample.multisigConfig.slotLock filledBA))) :=
  signTx_comm Sample.chain Sample.provider Sample.multisigConfig
    (show Sample.group.inputIndices.head? = some 0 from rfl)
    (show Sample.group.WellFormed Sample.tx from ⟨by decide, by decide, by decide⟩)
    (show WitnessArgs.parseOrDefault (Sample.tx.witnesses.getD 0 []) = ok WitnessArgs.empty from rfl)
    rfl (by decide) Sample.parties_multisigParty

/-! ## Runs in closed form -/

/-- A run in the abstract, on the filled slots: each party adds the signatures its wallet collects
over the message, and the run stops at the first party whose signatures go past the threshold. -/
def collectRun (message : Bytes) (tx : Transaction) (provider : TransactionDependencyProvider)
    (threshold : Nat) : List Secp256k1MultisigSigner → List Bytes → Outcome SignError (List Bytes)
  | [], filled => ok filled
  | signer :: signers, filled =>
    signer.signatures message tx provider >>= fun collected =>
      if (collected.foldl addSignature filled).length ≤ threshold then
        collectRun message tx provider threshold signers (collected.foldl addSignature filled)
      else err .tooManySignatures

/-- An abstract run succeeds exactly when every party's wallet signs and all the signatures,
added in turn, stay within the threshold. -/
theorem collectRun_eq_ok {message : Bytes} {tx : Transaction}
    {provider : TransactionDependencyProvider} {threshold : Nat} :
    ∀ {signers : List Secp256k1MultisigSigner} {filled result : List Bytes},
      filled.length ≤ threshold →
      (collectRun message tx provider threshold signers filled = ok result ↔
        ∃ collected, signers.mapM (fun signer => signer.signatures message tx provider) = ok collected ∧
          (collected.flatten.foldl addSignature filled).length ≤ threshold ∧
          result = collected.flatten.foldl addSignature filled)
  | [], filled, result, bounded => by
    simp only [collectRun, List.mapM_nil, pure_eq, ok.injEq, exists_eq_left', List.flatten_nil,
      List.foldl_nil, bounded, true_and]
    exact eq_comm
  | signer :: signers, filled, result, _ => by
    simp only [collectRun, bind_eq_ok, mapM_cons_eq_ok]
    constructor
    · rintro ⟨collected, collecting, rest⟩
      split at rest
      · next within =>
        obtain ⟨others, mapped, final, rfl⟩ := (collectRun_eq_ok within).mp rest
        exact ⟨collected :: others, ⟨collected, others, collecting, mapped, rfl⟩,
          by simpa using final, by simp⟩
      · cases rest
    · rintro ⟨_, ⟨collected, others, collecting, mapped, rfl⟩, final, rfl⟩
      simp only [List.flatten_cons, List.foldl_append] at final ⊢
      have within := (prefix_foldl_addSignature others.flatten
        (collected.foldl addSignature filled)).length_le.trans final
      exact ⟨collected, collecting, by
        rw [if_pos within]
        exact (collectRun_eq_ok within).mpr ⟨others, mapped, final, rfl⟩⟩

/-- The abstract run over the same parties in another order succeeds with the same signatures,
up to order. -/
theorem collectRun_perm {message : Bytes} {tx : Transaction}
    {provider : TransactionDependencyProvider} {threshold : Nat}
    {signers reordered : List Secp256k1MultisigSigner} (permuted : signers.Perm reordered)
    {filled : List Bytes} (ran : collectRun message tx provider threshold signers [] = ok filled) :
    ∃ reorderedFilled, collectRun message tx provider threshold reordered [] = ok reorderedFilled ∧
      filled.Perm reorderedFilled := by
  obtain ⟨collected, mapped, within, rfl⟩ := (collectRun_eq_ok (Nat.zero_le _)).mp ran
  obtain ⟨reorderedCollected, reorderedMapped, collectedPermuted⟩ := mapM_perm permuted mapped
  have filledPermuted := perm_foldl_addSignature collectedPermuted.flatten
  exact ⟨_, (collectRun_eq_ok (Nat.zero_le _)).mpr ⟨reorderedCollected, reorderedMapped,
    filledPermuted.length_eq ▸ within, rfl⟩, filledPermuted⟩

section Refinement

variable {chain : Chain} {provider : TransactionDependencyProvider} {config : MultisigConfig}
  {tx : Transaction} {group : ScriptGroup} {witnessIndex : Nat} {base : WitnessArgs}

/-- A run of parties from a signed state refines the abstract run: it writes the slots the
abstract run fills, and fails where it fails. -/
theorem signRun_slotLock_eq (first : group.inputIndices.head? = some witnessIndex)
    (increasing : group.inputIndices.Sorted (· < ·)) (input : witnessIndex < tx.raw.inputs.length)
    (parsed : WitnessArgs.parseOrDefault (tx.witnesses.getD witnessIndex []) = ok base)
    (fits : (base.withLock (some config.zeroLock)).asBytes.length < 2 ^ 32) {message : Bytes}
    (messaged : generateMessage chain (tx.setWitnesses (padWitnesses tx.witnesses witnessIndex)) group
      config.zeroLock = ok message)
    {signers : List Secp256k1MultisigSigner} (parties : Parties config signers) :
    ∀ {filled : List Bytes}, (∀ slot ∈ filled, slot.length = 65 ∧ slot ≠ zeroSlot) →
      filled.length ≤ config.threshold.toNat →
      signRun chain group provider signers
          (tx.withWitness witnessIndex (base.withLock (some (config.slotLock filled)))) =
        (fun filled => tx.withWitness witnessIndex (base.withLock (some (config.slotLock filled)))) <$>
          collectRun message tx provider config.threshold.toNat signers filled := by
  induction signers with
  | nil => intro filled _ _; rfl
  | cons signer signers inductionHypothesis =>
    intro filled filledSlots bounded
    obtain ⟨configured, deterministic, slotsSigned⟩ := parties signer (List.mem_cons_self _ _)
    rw [signRun, collectRun, signTx_slotLock_eq configured deterministic slotsSigned first increasing
      input parsed fits messaged filledSlots bounded]
    cases collecting : signer.signatures message tx provider with
    | ok collected =>
      simp only [ok_bind]
      split
      · next within =>
        exact inductionHypothesis (fun other member => parties other (List.mem_cons_of_mem _ member))
          (slots_foldl_addSignature filledSlots (signatures_slots slotsSigned collecting)) within
      · rfl
    | err error => rfl
    | panic => rfl

/-- A run from a witness without a lock, as one formula: the message of the original
transaction, then the abstract run from no filled slots. -/
theorem signRun_eq (first : group.inputIndices.head? = some witnessIndex)
    (increasing : group.inputIndices.Sorted (· < ·)) (input : witnessIndex < tx.raw.inputs.length)
    (parsed : WitnessArgs.parseOrDefault (tx.witnesses.getD witnessIndex []) = ok base)
    (lockless : base.lock = none)
    (fits : (base.withLock (some config.zeroLock)).asBytes.length < 2 ^ 32)
    {signers : List Secp256k1MultisigSigner} (parties : Parties config signers) (started : signers ≠ []) :
    signRun chain group provider signers tx =
      generateMessage chain (tx.setWitnesses (padWitnesses tx.witnesses witnessIndex)) group
          config.zeroLock >>= fun message =>
        (fun filled => tx.withWitness witnessIndex (base.withLock (some (config.slotLock filled)))) <$>
          collectRun message tx provider config.threshold.toNat signers [] := by
  rw [signRun_lockless first increasing input parsed lockless fits parties started]
  cases messaged : generateMessage chain (tx.setWitnesses (padWitnesses tx.witnesses witnessIndex))
      group config.zeroLock with
  | ok message =>
    rw [ok_bind, signRun_slotLock_eq first increasing input parsed fits messaged parties (by simp)
      (Nat.zero_le _)]
  | _ =>
    obtain ⟨signer, rest, rfl⟩ := List.exists_cons_of_ne_nil started
    obtain ⟨configured, deterministic, -⟩ := parties signer (List.mem_cons_self _ _)
    subst configured
    have fitsEmpty := fits_slotLock fits (by simp)
      (show ([] : List Bytes).length ≤ signer.config.threshold.toNat from Nat.zero_le _)
    rw [signRun, signTx_withWitness first increasing input parsed fitsEmpty deterministic, messaged]
    rfl

end Refinement

/-- A run of multisig parties from a witness without a lock succeeds exactly when the message
computes, every party's wallet signs it, and the distinct signatures of all the parties are at
most the threshold. The lock is then the config data, the distinct signatures in the order they
first come, and zero slots up to the threshold. -/
theorem signRun_eq_ok_iff (chain : Chain) (provider : TransactionDependencyProvider)
    (config : MultisigConfig) {tx : Transaction} {group : ScriptGroup} {witnessIndex : Nat}
    {base : WitnessArgs} (first : group.inputIndices.head? = some witnessIndex)
    (wellFormed : group.WellFormed tx)
    (parsed : WitnessArgs.parseOrDefault (tx.witnesses.getD witnessIndex []) = ok base)
    (lockless : base.lock = none)
    (fits : (base.withLock (some config.zeroLock)).asBytes.length < 2 ^ 32)
    {signers : List Secp256k1MultisigSigner} (parties : Parties config signers)
    (started : signers ≠ []) (signed : Transaction) :
    signRun chain group provider signers tx = ok signed ↔
      ∃ message collected,
        generateMessage chain (tx.setWitnesses (padWitnesses tx.witnesses witnessIndex)) group
          config.zeroLock = ok message ∧
        signers.mapM (fun signer => signer.signatures message tx provider) = ok collected ∧
        collected.flatten.eraseDups.length ≤ config.threshold.toNat ∧
        signed = tx.withWitness witnessIndex
          (base.withLock (some (config.slotLock collected.flatten.eraseDups))) := by
  rw [signRun_eq first wellFormed.increasing (wellFormed.first_input first) parsed lockless fits
    parties started]
  simp only [bind_eq_ok, map_eq_ok, eraseDups_eq_foldl_addSignature]
  constructor
  · rintro ⟨message, messaged, _, ran, rfl⟩
    obtain ⟨collected, mapped, within, rfl⟩ := (collectRun_eq_ok (Nat.zero_le _)).mp ran
    exact ⟨message, collected, messaged, mapped, within, rfl⟩
  · rintro ⟨message, collected, messaged, mapped, within, rfl⟩
    exact ⟨message, messaged, _,
      (collectRun_eq_ok (Nat.zero_le _)).mpr ⟨collected, mapped, within, rfl⟩, rfl⟩

set_option maxRecDepth 4000 in
/-- The sample run: parties 1 and 2 sign, and the lock holds their two signatures. -/
theorem signRun_eq_ok_iff_sample :
    signRun Sample.chain Sample.group Sample.provider [Sample.multisigParty 1, Sample.multisigParty 2]
        Sample.tx =
      ok (Sample.tx.withWitness 0 (WitnessArgs.empty.withLock
        (some (Sample.multisigConfig.slotLock [List.replicate 65 1, List.replicate 65 2])))) :=
  (signRun_eq_ok_iff Sample.chain Sample.provider Sample.multisigConfig
    (show Sample.group.inputIndices.head? = some 0 from rfl)
    (show Sample.group.WellFormed Sample.tx from ⟨by decide, by decide, by decide⟩)
    (show WitnessArgs.parseOrDefault (Sample.tx.witnesses.getD 0 []) = ok WitnessArgs.empty from rfl)
    rfl (by decide) Sample.parties_multisigParty (by simp) _).mpr
    ⟨_, [[List.replicate 65 1], [List.replicate 65 2]], rfl, rfl, by decide, rfl⟩

/-- Multisig parties sign a transaction whose witness `i` has no lock in any order with the same
outcome: every order succeeds or every order fails, and two orders that succeed fill the slots
with the same signatures, possibly in another order. -/
theorem signRun_perm (chain : Chain) (provider : TransactionDependencyProvider)
    (config : MultisigConfig) {tx : Transaction} {group : ScriptGroup} {witnessIndex : Nat}
    {base : WitnessArgs} (first : group.inputIndices.head? = some witnessIndex)
    (wellFormed : group.WellFormed tx)
    (parsed : WitnessArgs.parseOrDefault (tx.witnesses.getD witnessIndex []) = ok base)
    (lockless : base.lock = none)
    (fits : (base.withLock (some config.zeroLock)).asBytes.length < 2 ^ 32)
    {signers reordered : List Secp256k1MultisigSigner} (parties : Parties config signers)
    (permuted : signers.Perm reordered) (started : signers ≠ []) :
    ((∃ signed, signRun chain group provider signers tx = ok signed) ↔
      ∃ signed, signRun chain group provider reordered tx = ok signed) ∧
    ∀ signed reorderedSigned, signRun chain group provider signers tx = ok signed →
      signRun chain group provider reordered tx = ok reorderedSigned →
      ∃ filled reorderedFilled, filled.Perm reorderedFilled ∧
        signed = tx.withWitness witnessIndex (base.withLock (some (config.slotLock filled))) ∧
        reorderedSigned =
          tx.withWitness witnessIndex (base.withLock (some (config.slotLock reorderedFilled))) := by
  have reorderedParties : Parties config reordered := fun signer member =>
    parties signer (permuted.mem_iff.mpr member)
  have reorderedStarted : reordered ≠ [] := by
    rintro rfl
    exact started permuted.eq_nil
  have input := wellFormed.first_input first
  rw [signRun_eq first wellFormed.increasing input parsed lockless fits parties started,
    signRun_eq first wellFormed.increasing input parsed lockless fits reorderedParties reorderedStarted]
  simp only [bind_eq_ok, map_eq_ok]
  refine ⟨⟨?_, ?_⟩, ?_⟩
  · rintro ⟨_, message, messaged, filled, ran, rfl⟩
    obtain ⟨reorderedFilled, reorderedRan, -⟩ := collectRun_perm permuted ran
    exact ⟨_, message, messaged, reorderedFilled, reorderedRan, rfl⟩
  · rintro ⟨_, message, messaged, filled, ran, rfl⟩
    obtain ⟨reorderedFilled, reorderedRan, -⟩ := collectRun_perm permuted.symm ran
    exact ⟨_, message, messaged, reorderedFilled, reorderedRan, rfl⟩
  · rintro _ _ ⟨message, messaged, filled, ran, rfl⟩ ⟨message', messaged', reorderedFilled, reorderedRan, rfl⟩
    obtain rfl : message = message' := ok.inj (messaged.symm.trans messaged')
    obtain ⟨other, otherRan, permutedFilled⟩ := collectRun_perm permuted ran
    obtain rfl : other = reorderedFilled := ok.inj (otherRan.symm.trans reorderedRan)
    exact ⟨filled, other, permutedFilled, rfl, rfl⟩

set_option maxRecDepth 4000 in
/-- The sample parties in either order. -/
theorem signRun_perm_sample :
    ((∃ signed, signRun Sample.chain Sample.group Sample.provider
        [Sample.multisigParty 1, Sample.multisigParty 2] Sample.tx = ok signed) ↔
      ∃ signed, signRun Sample.chain Sample.group Sample.provider
        [Sample.multisigParty 2, Sample.multisigParty 1] Sample.tx = ok signed) ∧
    ∀ signed reorderedSigned,
      signRun Sample.chain Sample.group Sample.provider
        [Sample.multisigParty 1, Sample.multisigParty 2] Sample.tx = ok signed →
      signRun Sample.chain Sample.group Sample.provider
        [Sample.multisigParty 2, Sample.multisigParty 1] Sample.tx = ok reorderedSigned →
      ∃ filled reorderedFilled, filled.Perm reorderedFilled ∧
        signed = Sample.tx.withWitness 0
          (WitnessArgs.empty.withLock (some (Sample.multisigConfig.slotLock filled))) ∧
        reorderedSigned = Sample.tx.withWitness 0
          (WitnessArgs.empty.withLock (some (Sample.multisigConfig.slotLock reorderedFilled))) :=
  signRun_perm Sample.chain Sample.provider Sample.multisigConfig
    (show Sample.group.inputIndices.head? = some 0 from rfl)
    (show Sample.group.WellFormed Sample.tx from ⟨by decide, by decide, by decide⟩)
    (show WitnessArgs.parseOrDefault (Sample.tx.witnesses.getD 0 []) = ok WitnessArgs.empty from rfl)
    rfl (by decide) Sample.parties_multisigParty (List.Perm.swap _ _ []) (by simp)

end CkbSdk
