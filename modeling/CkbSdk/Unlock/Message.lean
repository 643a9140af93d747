import CkbSdk.Molecule
import Mathlib.Data.List.Sort

/-!
# The signing message

Every signer signs the digest `generate_message` computes for a script group: blake2b-256 over
the transaction hash, the group's first witness with its lock replaced by a zero placeholder,
the group's other witnesses, and the witnesses past the inputs. Each witness enters as its
length in eight little-endian bytes followed by its bytes.

The main result here says exactly what the preimage binds. Two preimages are equal if and only
if the transaction hashes are equal, the zero-locked first witnesses serialize equally, and the
sequences of the other hashed witnesses are equal. The backward direction is unique decoding of
the length-prefixed stream, which holds because the witnesses of a well-formed transaction are
far shorter than `2 ^ 64` bytes. It follows that the lock of the first witness, and every
witness below the input count that the group does not name, do not affect the message.
-/

namespace CkbSdk

/-- `unlock::SignError`. -/
inductive SignError where
  | wallet (error : WalletError)
  | txDep (error : TransactionDependencyError)
  | witnessNotEnough
  | invalidWitnessArgs (error : VerificationError)
  | invalidMultisigConfig (message : String)
  | tooManySignatures
  | other (message : String)
deriving DecidableEq, Repr

open Outcome Molecule

/-- `script_group.input_indices[0]`: panics on a group without inputs. -/
def ScriptGroup.firstInputIndex (group : ScriptGroup) : Outcome SignError Nat :=
  match group.inputIndices with
  | [] => panic
  | witnessIndex :: _ => ok witnessIndex

/-- `input_indices[0]` is read exactly when the group has a first input position. -/
theorem ScriptGroup.firstInputIndex_eq_ok {group : ScriptGroup} {witnessIndex : Nat} :
    group.firstInputIndex = ok witnessIndex ↔ group.inputIndices.head? = some witnessIndex := by
  unfold ScriptGroup.firstInputIndex
  split <;> simp_all

/-- A script group whose `input_indices` the signers can read: non-empty (they index
`input_indices[0]`), strictly increasing, and all inside the transaction's inputs. -/
structure ScriptGroup.WellFormed (group : ScriptGroup) (tx : Transaction) : Prop where
  nonempty : group.inputIndices ≠ []
  increasing : group.inputIndices.Sorted (· < ·)
  inside : ∀ index ∈ group.inputIndices, index < tx.raw.inputs.length

/-- A witness as the signers read it: empty bytes are `WitnessArgs::default()`, anything else
must parse, or the call fails with `InvalidWitnessArgs`. -/
def WitnessArgs.parseOrDefault (witnessData : Bytes) : Outcome SignError WitnessArgs :=
  if witnessData.isEmpty then ok WitnessArgs.empty
  else ofExcept .invalidWitnessArgs (WitnessArgs.fromSlice witnessData)

/-- A `WitnessArgs` the signers read back is below 4 GiB: the default is 16 bytes, and a parsed
one is the slice it came from, whose `u32` total size is its length. -/
theorem WitnessArgs.parseOrDefault_fits {witnessData : Bytes} {witnessArgs : WitnessArgs}
    (parsed : WitnessArgs.parseOrDefault witnessData = ok witnessArgs) :
    witnessArgs.asBytes.length < 2 ^ 32 := by
  unfold WitnessArgs.parseOrDefault at parsed
  split at parsed
  · cases parsed
    decide
  · cases fromSliced : WitnessArgs.fromSlice witnessData with
    | error => simp [fromSliced] at parsed
    | ok value =>
      simp only [fromSliced, ofExcept_ok, ok.injEq] at parsed
      subst parsed
      have accepted : WitnessArgs.verify witnessData = .ok () := by
        cases verified : WitnessArgs.verify witnessData <;>
          simp_all [WitnessArgs.fromSlice, Bind.bind, Except.bind]
      rw [WitnessArgs.asBytes_fromSlice fromSliced, ← (WitnessArgs.verify_eq_ok accepted).1]
      exact unpackNumber_lt witnessData

/-- Reading a witness fails only on bytes that do not parse. -/
theorem WitnessArgs.parseOrDefault_eq_err {witnessData : Bytes} {error : SignError}
    (failed : WitnessArgs.parseOrDefault witnessData = err error) :
    ∃ verification, error = .invalidWitnessArgs verification := by
  unfold WitnessArgs.parseOrDefault at failed
  split at failed
  · cases failed
  · obtain ⟨cause, _, rfl⟩ := ofExcept_eq_err.mp failed
    exact ⟨cause, rfl⟩

/-- Rust's `(bytes.len() as u64).to_le_bytes()` followed by the bytes: how every witness enters
the digest. -/
def lengthPrefixed (data : Bytes) : Bytes := leBytes 8 data.length ++ data

/-- `other_witnesses`: the group's later input positions that have a witness, in group order. -/
def otherWitnesses (group : ScriptGroup) (witnesses : List Bytes) : List Bytes :=
  (group.inputIndices.drop 1).filterMap fun index => witnesses[index]?

/-- `outter_witnesses`: the witnesses past the inputs. -/
def outterWitnesses (inputsLength : Nat) (witnesses : List Bytes) : List Bytes :=
  if inputsLength < witnesses.length then witnesses.drop inputsLength else []

/-- `init_witness`: witness `i`, read as `WitnessArgs`, with the zero lock in place of its lock. -/
def initWitness (tx : Transaction) (witnessIndex : Nat) (zeroLock : Bytes) :
    Outcome SignError WitnessArgs := do
  let witnessArgs ← WitnessArgs.parseOrDefault (tx.witnesses.getD witnessIndex [])
  pure (witnessArgs.withLock (some zeroLock))

/-- The bytes `ScriptSigner::generate_message` feeds to blake2b. -/
def messagePreimage (chain : Chain) (tx : Transaction) (group : ScriptGroup) (zeroLock : Bytes) :
    Outcome SignError Bytes := do
  let witnessIndex ← group.firstInputIndex
  failIf (tx.witnesses.length ≤ witnessIndex) .witnessNotEnough
  let initWitness ← initWitness tx witnessIndex zeroLock
  let otherWitnesses := otherWitnesses group tx.witnesses
  let outterWitnesses := outterWitnesses tx.raw.inputs.length tx.witnesses
  pure ((tx.hash chain).bytes ++ lengthPrefixed initWitness.asBytes ++
    (otherWitnesses.map lengthPrefixed).flatten ++ (outterWitnesses.map lengthPrefixed).flatten)

/-- `ScriptSigner::generate_message`: the blake2b-256 digest of the preimage. -/
def generateMessage (chain : Chain) (tx : Transaction) (group : ScriptGroup) (zeroLock : Bytes) :
    Outcome SignError Bytes := do
  let preimage ← messagePreimage chain tx group zeroLock
  pure (chain.blake2b256 preimage).bytes

/-- The witnesses the digest hashes after the first one. -/
def hashedWitnesses (tx : Transaction) (group : ScriptGroup) : List Bytes :=
  otherWitnesses group tx.witnesses ++ tx.witnesses.drop tx.raw.inputs.length

/-- The witnesses after the inputs are those from position `inputs.len()` on. -/
@[simp] theorem outterWitnesses_eq (inputsLength : Nat) (witnesses : List Bytes) :
    outterWitnesses inputsLength witnesses = witnesses.drop inputsLength := by
  unfold outterWitnesses
  split
  · rfl
  · exact (List.drop_eq_nil_of_le (by omega)).symm

/-- With the group's first input fixed, the preimage is the witness-count check, then the
zero-locked first witness, then one formula. -/
theorem messagePreimage_eq {chain : Chain} {tx : Transaction} {group : ScriptGroup}
    {zeroLock : Bytes} {witnessIndex : Nat} (first : group.inputIndices.head? = some witnessIndex) :
    messagePreimage chain tx group zeroLock =
      failIf (tx.witnesses.length ≤ witnessIndex) .witnessNotEnough >>= fun _ =>
        (fun init => (tx.hash chain).bytes ++ lengthPrefixed init ++
          ((hashedWitnesses tx group).map lengthPrefixed).flatten) <$>
          (WitnessArgs.asBytes <$> initWitness tx witnessIndex zeroLock) := by
  obtain ⟨later, indices⟩ := List.head?_eq_some_iff.mp first
  simp [messagePreimage, ScriptGroup.firstInputIndex, indices, hashedWitnesses]

/-- On a transaction that has witness `i`, the message fails only on a witness `i` that does not
parse: the witness count check passes. -/
theorem generateMessage_eq_err {chain : Chain} {tx : Transaction} {group : ScriptGroup}
    {zeroLock : Bytes} {witnessIndex : Nat} (first : group.inputIndices.head? = some witnessIndex)
    (present : witnessIndex < tx.witnesses.length) {error : SignError}
    (failed : generateMessage chain tx group zeroLock = err error) :
    ∃ verification, error = .invalidWitnessArgs verification := by
  have preimageFailed : messagePreimage chain tx group zeroLock = err error := by
    rcases bind_eq_err.mp failed with failedPreimage | ⟨_, _, returned⟩
    · exact failedPreimage
    · cases returned
  rw [messagePreimage_eq first, failIf, if_neg (Nat.not_le.mpr present), ok_bind, map_eq_err,
    map_eq_err, initWitness] at preimageFailed
  rcases bind_eq_err.mp preimageFailed with parseFailed | ⟨_, _, returned⟩
  · exact WitnessArgs.parseOrDefault_eq_err parseFailed
  · cases returned

/-- The preimage of a successful call, in one formula. -/
theorem messagePreimage_eq_ok {chain : Chain} {tx : Transaction} {group : ScriptGroup}
    {zeroLock preimage : Bytes} :
    messagePreimage chain tx group zeroLock = ok preimage ↔
      ∃ witnessIndex init, group.inputIndices.head? = some witnessIndex ∧
        witnessIndex < tx.witnesses.length ∧ initWitness tx witnessIndex zeroLock = ok init ∧
        preimage = (tx.hash chain).bytes ++ lengthPrefixed init.asBytes ++
          ((hashedWitnesses tx group).map lengthPrefixed).flatten := by
  cases first : group.inputIndices.head? with
  | none =>
    have indices : group.inputIndices = [] := List.head?_eq_none_iff.mp first
    simp [messagePreimage, ScriptGroup.firstInputIndex, indices]
  | some witnessIndex =>
    rw [messagePreimage_eq first]
    by_cases inside : witnessIndex < tx.witnesses.length
    · cases initial : initWitness tx witnessIndex zeroLock <;>
        simp [failIf, initial, inside, Nat.not_le.mpr inside, @eq_comm _ preimage]
    · simp [failIf, inside, Nat.le_of_not_lt inside]

/-- Equal hashes, equal zero-locked first witnesses and equal hashed witnesses give equal
preimages. This direction needs no bound on the witnesses. -/
theorem messagePreimage_congr {chain : Chain} {zeroLock : Bytes} {group : ScriptGroup}
    {witnessIndex : Nat} {tx₁ tx₂ : Transaction} (first : group.inputIndices.head? = some witnessIndex)
    (lengths : tx₁.witnesses.length = tx₂.witnesses.length) (hashes : tx₁.hash chain = tx₂.hash chain)
    (inits : (WitnessArgs.asBytes <$> initWitness tx₁ witnessIndex zeroLock) =
      (WitnessArgs.asBytes <$> initWitness tx₂ witnessIndex zeroLock))
    (hashed : hashedWitnesses tx₁ group = hashedWitnesses tx₂ group) :
    messagePreimage chain tx₁ group zeroLock = messagePreimage chain tx₂ group zeroLock := by
  rw [messagePreimage_eq first, messagePreimage_eq first, lengths, hashes, inits, hashed]

/-- A length prefix followed by its bytes can be split off: the prefixes fix the lengths when
the lengths are within `2 ^ 64` of each other. -/
theorem lengthPrefixed_append_inj {first second rest₁ rest₂ : Bytes}
    (close₁ : first.length < second.length + 2 ^ 64) (close₂ : second.length < first.length + 2 ^ 64)
    (same : lengthPrefixed first ++ rest₁ = lengthPrefixed second ++ rest₂) :
    first = second ∧ rest₁ = rest₂ := by
  simp only [lengthPrefixed, List.append_assoc] at same
  obtain ⟨prefixes, bodies⟩ := List.append_inj same (by simp)
  have lengths : first.length = second.length := by
    have decoded := congrArg leValue prefixes
    simp only [leValue_leBytes] at decoded
    omega
  exact List.append_inj bodies lengths

/-- The stream of length-prefixed witnesses decodes uniquely. -/
theorem lengthPrefixed_stream_inj {first second : List Bytes}
    (short : ∀ witness ∈ first ++ second, witness.length < 2 ^ 32)
    (same : (first.map lengthPrefixed).flatten = (second.map lengthPrefixed).flatten) :
    first = second := by
  induction first generalizing second with
  | nil =>
    cases second with
    | nil => rfl
    | cons witness rest =>
      have lengths := congrArg List.length same
      simp [lengthPrefixed] at lengths
      omega
  | cons witness rest inductionHypothesis =>
    cases second with
    | nil =>
      have lengths := congrArg List.length same
      simp [lengthPrefixed] at lengths
    | cons other others =>
      have witnessShort := short witness (by simp)
      have otherShort := short other (by simp)
      have split : lengthPrefixed witness ++ (rest.map lengthPrefixed).flatten =
          lengthPrefixed other ++ (others.map lengthPrefixed).flatten := by
        simpa only [List.map_cons, List.flatten_cons] using same
      obtain ⟨rfl, tails⟩ := lengthPrefixed_append_inj (by omega) (by omega) split
      have restShort : ∀ w ∈ rest ++ others, w.length < 2 ^ 32 := fun w member =>
        short w (List.mem_append.mpr ((List.mem_append.mp member).imp
          (List.mem_cons_of_mem _) (List.mem_cons_of_mem _)))
      rw [inductionHypothesis restShort tails]

/-- Every hashed witness of a well-formed transaction is shorter than 4 GiB. -/
theorem hashedWitnesses_short {tx : Transaction} (sized : tx.Sized) (group : ScriptGroup) :
    ∀ witness ∈ hashedWitnesses tx group, witness.length < 2 ^ 32 := by
  intro witness member
  have stored : witness ∈ tx.witnesses := by
    rcases List.mem_append.mp member with other | outer
    · obtain ⟨index, -, found⟩ := List.mem_filterMap.mp other
      exact List.getElem?_mem found
    · exact List.mem_of_mem_drop outer
  have := sized.witness_bound stored
  omega

/-- The zero-locked first witness is 20 bytes plus the zero lock plus its other two fields,
which together stay below 4 GiB. -/
theorem initWitness_length {tx : Transaction} {witnessIndex : Nat} {zeroLock : Bytes}
    {init : WitnessArgs} (computed : initWitness tx witnessIndex zeroLock = ok init) :
    zeroLock.length + 20 ≤ init.asBytes.length ∧
      init.asBytes.length < zeroLock.length + 20 + 2 ^ 32 := by
  obtain ⟨witnessArgs, parsed, built⟩ := bind_eq_ok.mp computed
  simp only [pure_eq, ok.injEq] at built
  subst built
  have fits := WitnessArgs.parseOrDefault_fits parsed
  have lockLength : (packOption packBytes (some zeroLock)).length = 4 + zeroLock.length :=
    length_packBytes zeroLock
  rw [WitnessArgs.length_asBytes] at fits ⊢
  simp only [WitnessArgs.withLock_lock, WitnessArgs.withLock_inputType,
    WitnessArgs.withLock_outputType, lockLength]
  omega

/-- What the digest preimage binds, and nothing more: two successful preimages over well-formed
transactions are equal exactly when the transaction hashes are equal, witness `i` with its lock
replaced by the zero lock serializes to the same bytes, and the other hashed witnesses form the
same sequence. -/
theorem messagePreimage_eq_iff (chain : Chain) (zeroLock : Bytes) (group : ScriptGroup)
    (witnessIndex : Nat) (first : group.inputIndices.head? = some witnessIndex)
    {tx₁ tx₂ : Transaction} {preimage₁ preimage₂ : Bytes} (sized₁ : tx₁.Sized) (sized₂ : tx₂.Sized)
    (computed₁ : messagePreimage chain tx₁ group zeroLock = ok preimage₁)
    (computed₂ : messagePreimage chain tx₂ group zeroLock = ok preimage₂) :
    preimage₁ = preimage₂ ↔ tx₁.hash chain = tx₂.hash chain ∧
      (WitnessArgs.asBytes <$> initWitness tx₁ witnessIndex zeroLock) =
        (WitnessArgs.asBytes <$> initWitness tx₂ witnessIndex zeroLock) ∧
      hashedWitnesses tx₁ group = hashedWitnesses tx₂ group := by
  obtain ⟨index₁, init₁, first₁, -, initial₁, rfl⟩ := messagePreimage_eq_ok.mp computed₁
  obtain ⟨index₂, init₂, first₂, -, initial₂, rfl⟩ := messagePreimage_eq_ok.mp computed₂
  obtain rfl : index₁ = witnessIndex := Option.some.inj (first₁.symm.trans first)
  obtain rfl : index₂ = index₁ := Option.some.inj (first₂.symm.trans first₁)
  rw [initial₁, initial₂, map_ok, map_ok, ok.injEq]
  constructor
  · intro same
    simp only [List.append_assoc] at same
    obtain ⟨hashes, rest⟩ := List.append_inj same (by simp [FixedBytes.size_eq])
    have bounds₁ := initWitness_length initial₁
    have bounds₂ := initWitness_length initial₂
    obtain ⟨inits, streams⟩ := lengthPrefixed_append_inj (by omega) (by omega) rest
    have short : ∀ witness ∈ hashedWitnesses tx₁ group ++ hashedWitnesses tx₂ group,
        witness.length < 2 ^ 32 := by
      intro witness member
      rcases List.mem_append.mp member with one | two
      · exact hashedWitnesses_short sized₁ group witness one
      · exact hashedWitnesses_short sized₂ group witness two
    exact ⟨FixedBytes.ext hashes, inits, lengthPrefixed_stream_inj short streams⟩
  · rintro ⟨hashes, inits, streams⟩
    rw [hashes, inits, streams]

namespace Sample

/-- A hash function that maps everything to zeros: enough to run the signers on samples. -/
def chain : Chain := ⟨fun _ => ⟨List.replicate 32 0, rfl⟩, 0⟩

/-- A provider that knows no cell; the signers pass it to the wallet and never read it. -/
def provider : TransactionDependencyProvider := ⟨fun _ => .error ⟨"absent"⟩, fun _ => .error ⟨"absent"⟩⟩

/-- A transaction with one input and no witnesses yet. -/
def tx : Transaction := ⟨⟨0, [], [], [⟨0, ⟨⟨List.replicate 32 2, rfl⟩, 0⟩⟩], [], []⟩, []⟩

/-- The group of that input, under a lock whose args are a 20-byte id. -/
def group : ScriptGroup := ⟨⟨⟨List.replicate 32 1, rfl⟩, .type, List.replicate 20 7⟩, [0], []⟩

/-- A wallet that holds every id and signs every message with `signature`. -/
def wallet (signature : Bytes) : Wallet := ⟨fun _ => true, fun _ _ _ _ => .ok signature⟩

end Sample

set_option maxRecDepth 2000 in
/-- The sample: a transaction whose first witness is empty and one whose first witness carries
a lock; the preimages agree, as the characterisation says they must. -/
theorem messagePreimage_eq_iff_sample :
    ∃ preimage₁ preimage₂,
      messagePreimage Sample.chain (Sample.tx.setWitnesses [[]]) Sample.group [0] = ok preimage₁ ∧
      messagePreimage Sample.chain
        (Sample.tx.setWitnesses [(WitnessArgs.empty.withLock (some [5])).asBytes]) Sample.group [0] =
          ok preimage₂ ∧
      (preimage₁ = preimage₂ ↔ (Sample.tx.setWitnesses [[]]).hash Sample.chain =
          (Sample.tx.setWitnesses [(WitnessArgs.empty.withLock (some [5])).asBytes]).hash Sample.chain ∧
        (WitnessArgs.asBytes <$> initWitness (Sample.tx.setWitnesses [[]]) 0 [0]) =
          (WitnessArgs.asBytes <$> initWitness
            (Sample.tx.setWitnesses [(WitnessArgs.empty.withLock (some [5])).asBytes]) 0 [0]) ∧
        hashedWitnesses (Sample.tx.setWitnesses [[]]) Sample.group =
          hashedWitnesses (Sample.tx.setWitnesses [(WitnessArgs.empty.withLock (some [5])).asBytes])
            Sample.group) :=
  ⟨_, _, rfl, rfl, messagePreimage_eq_iff Sample.chain [0] Sample.group 0 rfl (by decide) (by decide)
    rfl rfl⟩

end CkbSdk
