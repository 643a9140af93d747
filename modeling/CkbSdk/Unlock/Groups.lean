import CkbSdk.Unlock.Signers

/-!
# Signing the script groups of a transaction

A transaction is unlocked by signing each of its script groups in turn, each with the signer
that matches its script: any of the four signers, one after another on the result of the last.
This module shows that the order does not matter. Signing the groups in any order gives the
same transaction, or fails in every order. The groups must have disjoint inputs, as the script
groups of one transaction do, and the first witness of each group must already exist.

The proof is the one for programs on disjoint state. A signer reads the transaction hash, the
witnesses of its own group and the witnesses past the inputs, and writes the witness of its
group's first input (`Transaction.withWitness`). So signing a group commutes with overwriting
a witness outside it (`ScriptSigner.signTx_set_of_not_mem`), two groups can be swapped, and any
permutation is a sequence of swaps.

The existing-witness hypothesis is needed. A signer that finds too few witnesses pads the list
with empty ones. `generate_message` skips the later positions of a group that have no witness,
but hashes an empty witness that padding has created. So with too few witnesses, a group
signed before another group's padding signs a different message than one signed after it.

The same frame argument shows what a run of signers is for: no group's message changes while
the others are signed (`signGroups_keeps_messages`). A signer's own write changes only the lock
of its group's first witness, which the digest replaces by the zero lock, and the other writes
fall outside the group. So every signature made along the way is over the message of the
finished transaction.
-/

namespace CkbSdk

open Outcome

namespace ScriptSigner

/-- Signing commutes with overwriting a witness that is already there, below the input count and
outside the group, for every signer. -/
theorem signTx_set_of_not_mem (chain : Chain) (signer : ScriptSigner)
    (provider : TransactionDependencyProvider) {tx : Transaction} {group : ScriptGroup}
    (deterministic : signer.wallet.Deterministic) {index : Nat} (outside : index ∉ group.inputIndices)
    (input : index < tx.raw.inputs.length) (present : index < tx.witnesses.length) (witness : Bytes) :
    signer.signTx chain (tx.setWitnesses (tx.witnesses.set index witness)) group provider =
      (fun signed => signed.setWitnesses (signed.witnesses.set index witness)) <$>
        signer.signTx chain tx group provider := by
  cases signer with
  | sighash signer =>
    exact signer.signTxWithOwnerId_set_of_not_mem deterministic outside input present witness
  | multisig signer => exact signer.signTx_set_of_not_mem deterministic outside input present witness
  | anyoneCanPay signer =>
    simp only [signTx, AnyoneCanPaySigner.signTx]
    by_cases short : group.script.args.length < 20
    · simp [short]
    · simp only [short, if_false]
      exact signer.sighashSigner.signTxWithOwnerId_set_of_not_mem deterministic outside input present
        witness
  | cheque signer =>
    exact signer.sighashSigner.signTxWithOwnerId_set_of_not_mem deterministic outside input present
      witness

/-- A successful call reads witness `i` as `WitnessArgs`, writes it back with a new lock, and
writes nothing else. -/
theorem exists_withLock_of_signTx {chain : Chain} {signer : ScriptSigner}
    {provider : TransactionDependencyProvider} {tx signed : Transaction} {group : ScriptGroup}
    {witnessIndex : Nat} (first : group.inputIndices.head? = some witnessIndex)
    (computed : signer.signTx chain tx group provider = ok signed) :
    ∃ current lock, WitnessArgs.parseOrDefault (tx.witnesses.getD witnessIndex []) = ok current ∧
      signed = tx.withWitness witnessIndex (current.withLock lock) := by
  have sighashed : ∀ (sighash : Secp256k1SighashSigner) ownerId,
      sighash.signTxWithOwnerId chain ownerId tx group provider = ok signed →
        ∃ current lock, WitnessArgs.parseOrDefault (tx.witnesses.getD witnessIndex []) =
          ok current ∧ signed = tx.withWitness witnessIndex (current.withLock lock) := by
    intro sighash ownerId computed
    rw [Secp256k1SighashSigner.signTxWithOwnerId_eq first] at computed
    obtain ⟨_, _, _, _, current, parsed, rfl⟩ := by simpa only [bind_eq_ok, map_eq_ok] using computed
    exact ⟨current, _, parsed, rfl⟩
  cases signer with
  | sighash signer => exact sighashed signer _ computed
  | multisig signer =>
    rw [signTx, Secp256k1MultisigSigner.signTx_eq first] at computed
    obtain ⟨_, _, _, _, current, parsed, _, _, rfl⟩ := by
      simpa only [bind_eq_ok, map_eq_ok] using computed
    exact ⟨current, _, parsed, rfl⟩
  | anyoneCanPay signer =>
    simp only [signTx, AnyoneCanPaySigner.signTx] at computed
    split at computed
    · cases computed
    · exact sighashed _ _ computed
  | cheque signer => exact sighashed _ _ computed

/-- A successful call writes witness `i` and nothing else. -/
theorem exists_withWitness_of_signTx {chain : Chain} {signer : ScriptSigner}
    {provider : TransactionDependencyProvider} {tx signed : Transaction} {group : ScriptGroup}
    {witnessIndex : Nat} (first : group.inputIndices.head? = some witnessIndex)
    (computed : signer.signTx chain tx group provider = ok signed) :
    ∃ witnessArgs, signed = tx.withWitness witnessIndex witnessArgs :=
  let ⟨_, _, _, written⟩ := exists_withLock_of_signTx first computed
  ⟨_, written⟩

end ScriptSigner

/-- A group whose first input, the witness its signer writes, is an input position that already
has a witness. -/
def ScriptGroup.Witnessed (tx : Transaction) (group : ScriptGroup) : Prop :=
  ∃ witnessIndex, group.inputIndices.head? = some witnessIndex ∧
    witnessIndex < tx.raw.inputs.length ∧ witnessIndex < tx.witnesses.length

/-- Signing a group keeps every group witnessed: the raw part and the witness count stay. -/
theorem ScriptGroup.Witnessed.of_signTx {chain : Chain} {signer : ScriptSigner}
    {provider : TransactionDependencyProvider} {tx signed : Transaction} {group other : ScriptGroup}
    (witnessed : group.Witnessed tx) (computed : signer.signTx chain tx group provider = ok signed)
    (otherWitnessed : other.Witnessed tx) : other.Witnessed signed := by
  obtain ⟨witnessIndex, first, _, present⟩ := witnessed
  obtain ⟨witnessArgs, rfl⟩ := ScriptSigner.exists_withWitness_of_signTx first computed
  obtain ⟨otherIndex, otherFirst, otherInput, otherPresent⟩ := otherWitnessed
  rw [Transaction.withWitness_of_lt present]
  exact ⟨otherIndex, otherFirst, otherInput, by simpa using otherPresent⟩

/-- Signing script groups in turn, each with its signer, each on the result of the last. -/
def signGroups (chain : Chain) (provider : TransactionDependencyProvider) :
    List (ScriptSigner × ScriptGroup) → Transaction → Outcome SignError Transaction
  | [], tx => ok tx
  | (signer, group) :: jobs, tx =>
    signer.signTx chain tx group provider >>= signGroups chain provider jobs

section Swap

variable {chain : Chain} {provider : TransactionDependencyProvider} {tx : Transaction}
  {first second : ScriptSigner} {firstGroup secondGroup : ScriptGroup}

/-- Two signers on groups with disjoint inputs, in one order, give what they give in the other. -/
theorem signTx_signTx_swap (disjoint : firstGroup.inputIndices.Disjoint secondGroup.inputIndices)
    (firstWitnessed : firstGroup.Witnessed tx) (secondWitnessed : secondGroup.Witnessed tx)
    (firstDeterministic : first.wallet.Deterministic)
    (secondDeterministic : second.wallet.Deterministic) {signed : Transaction}
    (computed : (first.signTx chain tx firstGroup provider >>= fun middle =>
      second.signTx chain middle secondGroup provider) = ok signed) :
    (second.signTx chain tx secondGroup provider >>= fun middle =>
      first.signTx chain middle firstGroup provider) = ok signed := by
  obtain ⟨firstIndex, firstHead, firstInput, firstPresent⟩ := firstWitnessed
  obtain ⟨secondIndex, secondHead, secondInput, secondPresent⟩ := secondWitnessed
  have firstApart : firstIndex ∉ secondGroup.inputIndices :=
    disjoint (List.mem_of_mem_head? firstHead)
  have secondApart : secondIndex ∉ firstGroup.inputIndices :=
    fun member => disjoint member (List.mem_of_mem_head? secondHead)
  obtain ⟨middle, firstSigned, secondSigned⟩ := bind_eq_ok.mp computed
  obtain ⟨firstArgs, rfl⟩ := ScriptSigner.exists_withWitness_of_signTx firstHead firstSigned
  rw [Transaction.withWitness_of_lt firstPresent, second.signTx_set_of_not_mem chain provider
    secondDeterministic firstApart firstInput firstPresent] at secondSigned
  obtain ⟨secondOnly, secondAlone, rfl⟩ := map_eq_ok.mp secondSigned
  obtain ⟨secondArgs, rfl⟩ := ScriptSigner.exists_withWitness_of_signTx secondHead secondAlone
  have distinct : secondIndex ≠ firstIndex := fun same => firstApart (same ▸ List.mem_of_mem_head? secondHead)
  rw [secondAlone, ok_bind, Transaction.withWitness_of_lt secondPresent, first.signTx_set_of_not_mem
    chain provider firstDeterministic secondApart secondInput secondPresent, firstSigned, map_ok,
    Transaction.withWitness_of_lt firstPresent]
  simp only [Transaction.witnesses_setWitnesses, Transaction.setWitnesses_setWitnesses,
    List.set_comm _ _ _ distinct]

end Swap

/-- What order independence needs of jobs on a transaction: every group's first witness exists,
the groups have pairwise disjoint inputs, and every wallet signs a message the same way whatever
transaction comes with it. -/
structure SeparateJobs (tx : Transaction) (jobs : List (ScriptSigner × ScriptGroup)) : Prop where
  witnessed : ∀ job ∈ jobs, job.2.Witnessed tx
  disjoint : jobs.Pairwise fun job other => job.2.inputIndices.Disjoint other.2.inputIndices
  deterministic : ∀ job ∈ jobs, job.1.wallet.Deterministic

namespace SeparateJobs

variable {chain : Chain} {provider : TransactionDependencyProvider} {tx : Transaction}
  {jobs : List (ScriptSigner × ScriptGroup)}

/-- The jobs after the first stay separate on the transaction the first one signs. -/
theorem tail {job : ScriptSigner × ScriptGroup} {signed : Transaction}
    (separate : SeparateJobs tx (job :: jobs))
    (computed : job.1.signTx chain tx job.2 provider = ok signed) : SeparateJobs signed jobs where
  witnessed other member := (separate.witnessed job (List.mem_cons_self _ _)).of_signTx computed
    (separate.witnessed other (List.mem_cons_of_mem _ member))
  disjoint := (List.pairwise_cons.mp separate.disjoint).2
  deterministic other member := separate.deterministic other (List.mem_cons_of_mem _ member)

/-- Separate jobs stay separate in any order. -/
theorem perm {reordered : List (ScriptSigner × ScriptGroup)} (separate : SeparateJobs tx jobs)
    (permuted : jobs.Perm reordered) : SeparateJobs tx reordered where
  witnessed job member := separate.witnessed job (permuted.mem_iff.mpr member)
  disjoint := separate.disjoint.perm permuted List.disjoint_symm
  deterministic job member := separate.deterministic job (permuted.mem_iff.mpr member)

end SeparateJobs

/-- Two separate jobs at the head of the sequence can be swapped. -/
theorem signGroups_swap {chain : Chain} {provider : TransactionDependencyProvider} {tx : Transaction}
    {job other : ScriptSigner × ScriptGroup} {jobs : List (ScriptSigner × ScriptGroup)}
    (separate : SeparateJobs tx (job :: other :: jobs)) {signed : Transaction}
    (computed : signGroups chain provider (job :: other :: jobs) tx = ok signed) :
    signGroups chain provider (other :: job :: jobs) tx = ok signed := by
  obtain ⟨signer, group⟩ := job
  obtain ⟨otherSigner, otherGroup⟩ := other
  obtain ⟨first, firstSigned, rest⟩ := bind_eq_ok.mp computed
  obtain ⟨second, secondSigned, restSigned⟩ := bind_eq_ok.mp rest
  have disjoint := (List.pairwise_cons.mp separate.disjoint).1 _ (List.mem_cons_self _ _)
  obtain ⟨swappedFirst, swappedSigned, swappedSecond⟩ := bind_eq_ok.mp
    (signTx_signTx_swap disjoint (separate.witnessed _ (List.mem_cons_self _ _))
      (separate.witnessed _ (List.mem_cons_of_mem _ (List.mem_cons_self _ _)))
      (separate.deterministic _ (List.mem_cons_self _ _))
      (separate.deterministic _ (List.mem_cons_of_mem _ (List.mem_cons_self _ _)))
      (bind_eq_ok.mpr ⟨first, firstSigned, secondSigned⟩))
  exact bind_eq_ok.mpr ⟨swappedFirst, swappedSigned, bind_eq_ok.mpr ⟨second, swappedSecond, restSigned⟩⟩

/-- The script groups of a transaction signed in any order give the same transaction, or fail
in every order: for groups with disjoint inputs whose first witnesses exist, and wallets that
sign a message the same way whatever transaction comes with it. -/
theorem signGroups_perm (chain : Chain) (provider : TransactionDependencyProvider)
    {jobs reordered : List (ScriptSigner × ScriptGroup)} (permuted : jobs.Perm reordered)
    {tx : Transaction} (separate : SeparateJobs tx jobs) (signed : Transaction) :
    signGroups chain provider jobs tx = ok signed ↔ signGroups chain provider reordered tx = ok signed := by
  induction permuted generalizing tx with
  | nil => rfl
  | cons job permuted inductionHypothesis =>
    obtain ⟨signer, group⟩ := job
    simp only [signGroups, bind_eq_ok]
    exact exists_congr fun middle => and_congr_right fun computed =>
      inductionHypothesis (separate.tail computed)
  | swap job other jobs =>
    exact ⟨signGroups_swap separate, signGroups_swap (separate.perm (List.Perm.swap job other jobs))⟩
  | trans permuted _ inductionHypothesis nextHypothesis =>
    exact (inductionHypothesis separate).trans (nextHypothesis (separate.perm permuted))


namespace Sample

/-- A transaction with two inputs and an empty witness for each. -/
def twoInputTx : Transaction :=
  ⟨⟨0, [], [], [⟨0, ⟨⟨List.replicate 32 2, rfl⟩, 0⟩⟩, ⟨0, ⟨⟨List.replicate 32 2, rfl⟩, 1⟩⟩], [], []⟩,
    [[], []]⟩

/-- A sighash signer on the first input and an anyone-can-pay signer on the second. -/
def twoJobs : List (ScriptSigner × ScriptGroup) :=
  [(.sighash ⟨wallet (List.replicate 65 1)⟩, ⟨group.script, [0], []⟩),
    (.anyoneCanPay ⟨⟨wallet (List.replicate 65 2)⟩⟩, ⟨group.script, [1], []⟩)]

/-- The two jobs are separate on the two-input transaction. -/
theorem twoJobs_separate : SeparateJobs twoInputTx twoJobs :=
  ⟨by simp [twoJobs, ScriptGroup.Witnessed, twoInputTx], by simp [twoJobs],
    by simp [twoJobs, Wallet.Deterministic, ScriptSigner.wallet, wallet]⟩

end Sample

set_option maxRecDepth 2000 in
/-- The sample: both orders sign both witnesses. -/
theorem signGroups_perm_sample :
    signGroups Sample.chain Sample.provider Sample.twoJobs Sample.twoInputTx =
        ok (Sample.twoInputTx.setWitnesses
          [(WitnessArgs.empty.withLock (some (List.replicate 65 1))).asBytes,
            (WitnessArgs.empty.withLock (some (List.replicate 65 2))).asBytes]) ∧
      signGroups Sample.chain Sample.provider Sample.twoJobs.reverse Sample.twoInputTx =
        ok (Sample.twoInputTx.setWitnesses
          [(WitnessArgs.empty.withLock (some (List.replicate 65 1))).asBytes,
            (WitnessArgs.empty.withLock (some (List.replicate 65 2))).asBytes]) :=
  ⟨rfl, (signGroups_perm Sample.chain Sample.provider (List.reverse_perm Sample.twoJobs).symm
    Sample.twoJobs_separate _).mp rfl⟩

set_option maxRecDepth 4000 in
/-- Without the first witnesses the order matters. On three inputs and no witnesses, the group of
inputs `0` and `1` signed first skips witness `1`, which does not exist yet; signed after the
group of input `2` has padded the list, it hashes it. With a hash that sees the preimage's length
and a wallet that signs with the message, the two orders write different witnesses. -/
example :
    let chain : Chain := ⟨fun bytes => ⟨leBytes 32 bytes.length, length_leBytes 32 _⟩, 0⟩
    let signer : ScriptSigner := .sighash ⟨⟨fun _ => true, fun _ message _ _ => .ok message⟩⟩
    let tx : Transaction :=
      ⟨⟨0, [], [], List.replicate 3 ⟨0, ⟨⟨List.replicate 32 2, rfl⟩, 0⟩⟩, [], []⟩, []⟩
    let jobs := [(signer, ⟨Sample.group.script, [0, 1], []⟩), (signer, ⟨Sample.group.script, [2], []⟩)]
    signGroups chain Sample.provider jobs tx ≠ signGroups chain Sample.provider jobs.reverse tx := by
  decide

section Messages

variable {chain : Chain} {provider : TransactionDependencyProvider} {signer : ScriptSigner}
  {tx signed : Transaction} {group : ScriptGroup} {witnessIndex : Nat}

/-- Signing a group leaves the message of every group that does not hold its first input. -/
theorem generateMessage_signTx_of_not_mem (first : group.inputIndices.head? = some witnessIndex)
    (input : witnessIndex < tx.raw.inputs.length) (present : witnessIndex < tx.witnesses.length)
    (computed : signer.signTx chain tx group provider = ok signed) {other : ScriptGroup}
    (outside : witnessIndex ∉ other.inputIndices) (zeroLock : Bytes) :
    generateMessage chain signed other zeroLock = generateMessage chain tx other zeroLock := by
  obtain ⟨witnessArgs, rfl⟩ := ScriptSigner.exists_withWitness_of_signTx first computed
  rw [Transaction.withWitness_of_lt present, generateMessage_set_of_not_mem outside input,
    Transaction.setWitnesses_self]

/-- Signing a group leaves its own message: the digest reads the signed witness with its lock
replaced by the zero lock. -/
theorem generateMessage_signTx_self (first : group.inputIndices.head? = some witnessIndex)
    (increasing : group.inputIndices.Sorted (· < ·)) (input : witnessIndex < tx.raw.inputs.length)
    (present : witnessIndex < tx.witnesses.length)
    (computed : signer.signTx chain tx group provider = ok signed)
    (bounded : (signed.witnesses.getD witnessIndex []).length + 76 < 2 ^ 32) (zeroLock : Bytes) :
    generateMessage chain signed group zeroLock = generateMessage chain tx group zeroLock := by
  obtain ⟨current, lock, parsed, rfl⟩ := ScriptSigner.exists_withLock_of_signTx first computed
  rw [Transaction.getD_withWitness] at bounded
  rw [generateMessage_withWitness first increasing input parsed (by omega),
    padWitnesses_of_lt present, Transaction.setWitnesses_self]

/-- A run of separate jobs leaves, for a group whose inputs none of them holds, the witnesses at
its inputs and its message. -/
theorem signGroups_frame {jobs : List (ScriptSigner × ScriptGroup)} {final : Transaction}
    {other : ScriptGroup} (separate : SeparateJobs tx jobs)
    (apart : ∀ job ∈ jobs, other.inputIndices.Disjoint job.2.inputIndices)
    (computed : signGroups chain provider jobs tx = ok final) :
    (∀ index ∈ other.inputIndices, final.witnesses.getD index [] = tx.witnesses.getD index []) ∧
      ∀ zeroLock, generateMessage chain final other zeroLock =
        generateMessage chain tx other zeroLock := by
  induction jobs generalizing tx with
  | nil =>
    cases computed
    exact ⟨fun _ _ => rfl, fun _ => rfl⟩
  | cons job jobs inductionHypothesis =>
    obtain ⟨middle, stepped, rest⟩ := bind_eq_ok.mp computed
    obtain ⟨witnessIndex, first, input, present⟩ := separate.witnessed job (List.mem_cons_self _ _)
    have outside : witnessIndex ∉ other.inputIndices := fun member =>
      apart job (List.mem_cons_self _ _) member (List.mem_of_mem_head? first)
    obtain ⟨kept, messages⟩ := inductionHypothesis (separate.tail stepped)
      (fun later member => apart later (List.mem_cons_of_mem _ member)) rest
    refine ⟨fun index member => ?_, fun zeroLock => ?_⟩
    · obtain ⟨witnessArgs, rfl⟩ := ScriptSigner.exists_withWitness_of_signTx first stepped
      have apartIndex : witnessIndex ≠ index := fun same => outside (same ▸ member)
      rw [kept index member, Transaction.withWitness_of_lt present]
      simp [List.getD_eq_getElem?_getD, List.getElem?_set_ne apartIndex]
    · rw [messages, generateMessage_signTx_of_not_mem first input present stepped outside]

/-- Signing the script groups in turn never changes the message of any of them: for separate
jobs on groups with increasing input positions and a signed transaction below 4 GiB, each
group's message on the signed transaction is its message on the transaction before signing, so
the signature each signer made at its turn is over the message of the finished transaction. -/
theorem signGroups_keeps_messages (chain : Chain) (provider : TransactionDependencyProvider)
    {jobs : List (ScriptSigner × ScriptGroup)} {final : Transaction}
    (separate : SeparateJobs tx jobs)
    (increasing : ∀ job ∈ jobs, job.2.inputIndices.Sorted (· < ·)) (sized : final.Sized)
    (computed : signGroups chain provider jobs tx = ok final) :
    ∀ job ∈ jobs, ∀ zeroLock,
      generateMessage chain final job.2 zeroLock = generateMessage chain tx job.2 zeroLock := by
  induction jobs generalizing tx with
  | nil => exact nofun
  | cons job jobs inductionHypothesis =>
    obtain ⟨middle, stepped, rest⟩ := bind_eq_ok.mp computed
    obtain ⟨witnessIndex, first, input, present⟩ := separate.witnessed job (List.mem_cons_self _ _)
    have apart := (List.pairwise_cons.mp separate.disjoint).1
    intro other member zeroLock
    rcases List.mem_cons.mp member with rfl | later
    · obtain ⟨kept, messages⟩ := signGroups_frame (separate.tail stepped) apart rest
      have bounded := sized.getD_bound witnessIndex
      rw [kept witnessIndex (List.mem_of_mem_head? first)] at bounded
      rw [messages, generateMessage_signTx_self first (increasing _ (List.mem_cons_self _ _)) input
        present stepped bounded]
    · rw [inductionHypothesis (separate.tail stepped)
        (fun job member => increasing job (List.mem_cons_of_mem _ member)) rest other later,
        generateMessage_signTx_of_not_mem first input present stepped
          (fun inOther => apart other later (List.mem_of_mem_head? first) inOther)]

end Messages

set_option maxRecDepth 2000 in
/-- The sample: a sighash and an anyone-can-pay signer, each on its own input. -/
theorem signGroups_keeps_messages_sample :
    signGroups Sample.chain Sample.provider Sample.twoJobs Sample.twoInputTx =
        ok (Sample.twoInputTx.setWitnesses
          [(WitnessArgs.empty.withLock (some (List.replicate 65 1))).asBytes,
            (WitnessArgs.empty.withLock (some (List.replicate 65 2))).asBytes]) ∧
      (Sample.twoInputTx.setWitnesses
          [(WitnessArgs.empty.withLock (some (List.replicate 65 1))).asBytes,
            (WitnessArgs.empty.withLock (some (List.replicate 65 2))).asBytes]).Sized ∧
      ∀ job ∈ Sample.twoJobs, ∀ zeroLock, generateMessage Sample.chain
        (Sample.twoInputTx.setWitnesses
          [(WitnessArgs.empty.withLock (some (List.replicate 65 1))).asBytes,
            (WitnessArgs.empty.withLock (some (List.replicate 65 2))).asBytes]) job.2 zeroLock =
          generateMessage Sample.chain Sample.twoInputTx job.2 zeroLock :=
  have computed : signGroups Sample.chain Sample.provider Sample.twoJobs Sample.twoInputTx =
      ok (Sample.twoInputTx.setWitnesses
        [(WitnessArgs.empty.withLock (some (List.replicate 65 1))).asBytes,
          (WitnessArgs.empty.withLock (some (List.replicate 65 2))).asBytes]) := rfl
  have sized : (Sample.twoInputTx.setWitnesses
      [(WitnessArgs.empty.withLock (some (List.replicate 65 1))).asBytes,
        (WitnessArgs.empty.withLock (some (List.replicate 65 2))).asBytes]).Sized := by decide
  ⟨computed, sized, signGroups_keeps_messages Sample.chain Sample.provider Sample.twoJobs_separate
    (by simp [Sample.twoJobs]) sized computed⟩

end CkbSdk
