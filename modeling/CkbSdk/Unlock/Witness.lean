import CkbSdk.Unlock.Message

/-!
# Writing a signature into witness `i`

Every signer of the crate ends the same way. It pads the witness list with empty witnesses until
position `i`, the group's first input, exists; reads witness `i` as `WitnessArgs`, or as the
default when it is empty; replaces its lock; and writes it back. The steps are modelled once
here, with `Transaction.withWitness` naming the transaction a signer returns.

The fact every signing proof rests on is `generateMessage_withWitness`: rewriting the lock of
witness `i` does not change the message. The digest reads witness `i` only with its lock
replaced by the zero lock, the other witnesses of the group sit at later positions, and the
outer witnesses sit past the inputs, so none of them is the rewritten one.
-/

namespace CkbSdk

open Outcome Molecule

/-- `while witnesses.len() <= witness_idx { witnesses.push(Default::default()) }`: empty
witnesses are appended until position `witnessIndex` exists. -/
def padWitnesses (witnesses : List Bytes) (witnessIndex : Nat) : List Bytes :=
  witnesses ++ List.replicate (witnessIndex + 1 - witnesses.length) []

/-- After padding, position `i` is a witness. -/
theorem lt_length_padWitnesses (witnesses : List Bytes) (witnessIndex : Nat) :
    witnessIndex < (padWitnesses witnesses witnessIndex).length := by
  simp only [padWitnesses, List.length_append, List.length_replicate]
  omega

/-- Padding adds only empty witnesses, so every position reads as it did. -/
theorem getD_padWitnesses (witnesses : List Bytes) (witnessIndex position : Nat) :
    (padWitnesses witnesses witnessIndex).getD position [] = witnesses.getD position [] := by
  simp only [padWitnesses, List.getD_eq_getElem?_getD]
  by_cases present : position < witnesses.length
  · rw [List.getElem?_append_left present]
  · have outside : witnesses[position]? = none := List.getElem?_eq_none (by omega)
    rw [List.getElem?_append_right (by omega), outside, List.getElem?_replicate]
    split <;> rfl

/-- Padding witnesses that already reach position `i` changes nothing. -/
theorem padWitnesses_of_lt {witnesses : List Bytes} {witnessIndex : Nat}
    (present : witnessIndex < witnesses.length) : padWitnesses witnesses witnessIndex = witnesses := by
  simp [padWitnesses, Nat.sub_eq_zero_of_le present]

/-- What every signer returns: `tx` with its witnesses padded to position `witnessIndex`, and
witness `witnessIndex` replaced by the encoding of `witnessArgs`. -/
def Transaction.withWitness (tx : Transaction) (witnessIndex : Nat) (witnessArgs : WitnessArgs) :
    Transaction :=
  tx.setWitnesses ((padWitnesses tx.witnesses witnessIndex).set witnessIndex witnessArgs.asBytes)

/-- Writing a witness keeps the raw transaction. -/
@[simp] theorem Transaction.raw_withWitness (tx : Transaction) (witnessIndex : Nat)
    (witnessArgs : WitnessArgs) : (tx.withWitness witnessIndex witnessArgs).raw = tx.raw := rfl

/-- After writing witness `i`, position `i` is a witness. -/
theorem Transaction.lt_length_withWitness (tx : Transaction) (witnessIndex : Nat)
    (witnessArgs : WitnessArgs) : witnessIndex < (tx.withWitness witnessIndex witnessArgs).witnesses.length := by
  simpa [Transaction.withWitness] using lt_length_padWitnesses tx.witnesses witnessIndex

/-- Witness `i` reads back as what was written. -/
theorem Transaction.getD_withWitness (tx : Transaction) (witnessIndex : Nat)
    (witnessArgs : WitnessArgs) :
    (tx.withWitness witnessIndex witnessArgs).witnesses.getD witnessIndex [] = witnessArgs.asBytes := by
  simp [Transaction.withWitness, List.getD_eq_getElem?_getD,
    List.getElem?_set_self (lt_length_padWitnesses tx.witnesses witnessIndex)]

/-- A signed transaction needs no more padding. -/
@[simp] theorem Transaction.padWitnesses_withWitness (tx : Transaction) (witnessIndex : Nat)
    (witnessArgs : WitnessArgs) :
    padWitnesses (tx.withWitness witnessIndex witnessArgs).witnesses witnessIndex =
      (tx.withWitness witnessIndex witnessArgs).witnesses :=
  padWitnesses_of_lt (tx.lt_length_withWitness witnessIndex witnessArgs)

/-- Writing a witness that is already there only overwrites it. -/
theorem Transaction.withWitness_of_lt {tx : Transaction} {witnessIndex : Nat}
    (present : witnessIndex < tx.witnesses.length) (witnessArgs : WitnessArgs) :
    tx.withWitness witnessIndex witnessArgs =
      tx.setWitnesses (tx.witnesses.set witnessIndex witnessArgs.asBytes) := by
  rw [Transaction.withWitness, padWitnesses_of_lt present]

/-- Padding after an overwrite inside the list is the overwrite after padding. -/
theorem padWitnesses_set {witnesses : List Bytes} {index : Nat} (present : index < witnesses.length)
    (witnessIndex : Nat) (witness : Bytes) :
    padWitnesses (witnesses.set index witness) witnessIndex =
      (padWitnesses witnesses witnessIndex).set index witness := by
  simp [padWitnesses, List.set_append_left _ _ present]

/-- Writing witness `i` commutes with overwriting another witness that is already there. -/
theorem Transaction.withWitness_set {tx : Transaction} {index witnessIndex : Nat}
    (present : index < tx.witnesses.length) (apart : index ≠ witnessIndex) (witness : Bytes)
    (witnessArgs : WitnessArgs) :
    (tx.setWitnesses (tx.witnesses.set index witness)).withWitness witnessIndex witnessArgs =
      (tx.withWitness witnessIndex witnessArgs).setWitnesses
        ((tx.withWitness witnessIndex witnessArgs).witnesses.set index witness) := by
  simp only [Transaction.withWitness, Transaction.witnesses_setWitnesses,
    Transaction.setWitnesses_setWitnesses, padWitnesses_set present, List.set_comm _ _ _ apart]

/-- Writing witness `i` twice keeps the second write. -/
@[simp] theorem Transaction.withWitness_withWitness (tx : Transaction) (witnessIndex : Nat)
    (first second : WitnessArgs) :
    (tx.withWitness witnessIndex first).withWitness witnessIndex second =
      tx.withWitness witnessIndex second := by
  have present : witnessIndex <
      ((padWitnesses tx.witnesses witnessIndex).set witnessIndex first.asBytes).length := by
    simpa using lt_length_padWitnesses tx.witnesses witnessIndex
  simp only [Transaction.withWitness, Transaction.witnesses_setWitnesses, padWitnesses_of_lt present,
    List.set_set, Transaction.setWitnesses_setWitnesses]

/-- The encoding of a `WitnessArgs` below 4 GiB is read back as itself: it is never empty, so the
signers parse it rather than take the default. -/
theorem WitnessArgs.parseOrDefault_asBytes {witnessArgs : WitnessArgs}
    (fits : witnessArgs.asBytes.length < 2 ^ 32) :
    WitnessArgs.parseOrDefault witnessArgs.asBytes = ok witnessArgs := by
  have nonempty : witnessArgs.asBytes.isEmpty = false := by
    have long := WitnessArgs.length_asBytes witnessArgs
    cases bytes : witnessArgs.asBytes with
    | nil =>
      simp only [bytes, List.length_nil] at long
      omega
    | cons => rfl
  simp [WitnessArgs.parseOrDefault, nonempty, WitnessArgs.fromSlice_asBytes witnessArgs fits]

/-- A witness read by the signers is the default or is its own slice, so its encoding is never
longer than the slice or the 16 bytes of the default. -/
theorem WitnessArgs.length_parseOrDefault {witnessData : Bytes} {witnessArgs : WitnessArgs}
    (parsed : WitnessArgs.parseOrDefault witnessData = ok witnessArgs) :
    witnessArgs.asBytes.length ≤ max 16 witnessData.length := by
  unfold WitnessArgs.parseOrDefault at parsed
  split at parsed
  · cases parsed
    simp [WitnessArgs.length_asBytes, WitnessArgs.empty, packOption]
  · cases fromSliced : WitnessArgs.fromSlice witnessData with
    | error => simp [fromSliced] at parsed
    | ok value =>
      simp only [fromSliced, ofExcept_ok, ok.injEq] at parsed
      subst parsed
      rw [WitnessArgs.asBytes_fromSlice fromSliced]
      omega

/-- Replacing the lock changes the encoding by the difference of the two lock encodings. -/
theorem WitnessArgs.length_asBytes_withLock (witnessArgs : WitnessArgs) (lock : Bytes) :
    (witnessArgs.withLock (some lock)).asBytes.length + (packOption packBytes witnessArgs.lock).length =
      witnessArgs.asBytes.length + 4 + lock.length := by
  simp only [WitnessArgs.length_asBytes, WitnessArgs.withLock_lock, WitnessArgs.withLock_inputType,
    WitnessArgs.withLock_outputType]
  have lockLength : (packOption packBytes (some lock)).length = 4 + lock.length := length_packBytes lock
  omega

/-- Two locks of one length give encodings of one length. -/
theorem WitnessArgs.length_withLock_congr (witnessArgs : WitnessArgs) {first second : Bytes}
    (lengths : first.length = second.length) :
    (witnessArgs.withLock (some first)).asBytes.length =
      (witnessArgs.withLock (some second)).asBytes.length := by
  have one := witnessArgs.length_asBytes_withLock first
  have two := witnessArgs.length_asBytes_withLock second
  omega

/-- The witnesses the digest hashes after the first one sit at the group's later positions and
past the inputs: overwriting any other position below the input count leaves them as they were. -/
theorem hashedWitnesses_set_of_not_mem {tx : Transaction} {group : ScriptGroup} {index : Nat}
    (unread : index ∉ group.inputIndices.drop 1) (input : index < tx.raw.inputs.length)
    (witness : Bytes) :
    hashedWitnesses (tx.setWitnesses (tx.witnesses.set index witness)) group =
      hashedWitnesses tx group := by
  have others : otherWitnesses group (tx.witnesses.set index witness) =
      otherWitnesses group tx.witnesses :=
    List.filterMap_congr fun other member =>
      List.getElem?_set_ne fun same => unread (by rw [same]; exact member)
  simp [hashedWitnesses, others, List.drop_set, input]

/-- The witnesses the digest hashes after the first one do not include position `i`, so
overwriting witness `i` leaves them as they were. -/
theorem hashedWitnesses_set {tx : Transaction} {group : ScriptGroup} {witnessIndex : Nat}
    (first : group.inputIndices.head? = some witnessIndex)
    (increasing : group.inputIndices.Sorted (· < ·)) (input : witnessIndex < tx.raw.inputs.length)
    (witness : Bytes) :
    hashedWitnesses (tx.setWitnesses (tx.witnesses.set witnessIndex witness)) group =
      hashedWitnesses tx group := by
  obtain ⟨later, indices⟩ := List.head?_eq_some_iff.mp first
  rw [indices, List.sorted_cons] at increasing
  refine hashedWitnesses_set_of_not_mem ?_ input witness
  rw [indices, List.drop_one, List.tail_cons]
  exact fun member => Nat.lt_irrefl _ (increasing.1 _ member)

/-- The message of a group reads no witness below the input count outside the group: overwriting
one leaves the preimage as it was. -/
theorem messagePreimage_set_of_not_mem {chain : Chain} {tx : Transaction} {group : ScriptGroup}
    {zeroLock : Bytes} {index : Nat} (outside : index ∉ group.inputIndices)
    (input : index < tx.raw.inputs.length) (witnesses : List Bytes) (witness : Bytes) :
    messagePreimage chain (tx.setWitnesses (witnesses.set index witness)) group zeroLock =
      messagePreimage chain (tx.setWitnesses witnesses) group zeroLock := by
  cases indices : group.inputIndices with
  | nil => simp [messagePreimage, ScriptGroup.firstInputIndex, indices]
  | cons witnessIndex later =>
    have first : group.inputIndices.head? = some witnessIndex := by rw [indices]; rfl
    have apart : index ≠ witnessIndex := by
      rintro rfl
      exact outside (indices ▸ List.mem_cons_self index later)
    refine messagePreimage_congr first (List.length_set ..) rfl ?_ ?_
    · simp [initWitness, List.getD_eq_getElem?_getD, List.getElem?_set_ne apart]
    · exact hashedWitnesses_set_of_not_mem (fun member => outside (List.mem_of_mem_drop member))
        (show index < (tx.setWitnesses witnesses).raw.inputs.length from input) witness

/-- The message of a group is the same after a witness outside it, below the input count, is
overwritten. -/
theorem generateMessage_set_of_not_mem {chain : Chain} {tx : Transaction} {group : ScriptGroup}
    {zeroLock : Bytes} {index : Nat} (outside : index ∉ group.inputIndices)
    (input : index < tx.raw.inputs.length) (witnesses : List Bytes) (witness : Bytes) :
    generateMessage chain (tx.setWitnesses (witnesses.set index witness)) group zeroLock =
      generateMessage chain (tx.setWitnesses witnesses) group zeroLock := by
  simp only [generateMessage, messagePreimage_set_of_not_mem outside input]

/-- Witness `i` enters the digest only with its lock replaced by the zero lock: writing back the
arguments it was read as, under any lock, leaves the preimage of the padded transaction as it
was. -/
theorem messagePreimage_withWitness {chain : Chain} {tx : Transaction} {group : ScriptGroup}
    {zeroLock : Bytes} {witnessIndex : Nat} {current : WitnessArgs} {lock : Option Bytes}
    (first : group.inputIndices.head? = some witnessIndex)
    (increasing : group.inputIndices.Sorted (· < ·)) (input : witnessIndex < tx.raw.inputs.length)
    (parsed : WitnessArgs.parseOrDefault (tx.witnesses.getD witnessIndex []) = ok current)
    (fits : (current.withLock lock).asBytes.length < 2 ^ 32) :
    messagePreimage chain (tx.withWitness witnessIndex (current.withLock lock)) group zeroLock =
      messagePreimage chain (tx.setWitnesses (padWitnesses tx.witnesses witnessIndex)) group zeroLock := by
  apply messagePreimage_congr first
  · simp [Transaction.withWitness]
  · rfl
  · simp only [initWitness, Transaction.getD_withWitness, Transaction.witnesses_setWitnesses,
      getD_padWitnesses, WitnessArgs.parseOrDefault_asBytes fits, parsed, ok_bind, pure_eq, map_ok,
      WitnessArgs.withLock_withLock]
  · have rewritten := hashedWitnesses_set first increasing
      (show witnessIndex < (tx.setWitnesses (padWitnesses tx.witnesses witnessIndex)).raw.inputs.length
        from input) (current.withLock lock).asBytes
    exact rewritten

/-- The message is the same before and after the lock of witness `i` is rewritten. -/
theorem generateMessage_withWitness {chain : Chain} {tx : Transaction} {group : ScriptGroup}
    {zeroLock : Bytes} {witnessIndex : Nat} {current : WitnessArgs} {lock : Option Bytes}
    (first : group.inputIndices.head? = some witnessIndex)
    (increasing : group.inputIndices.Sorted (· < ·)) (input : witnessIndex < tx.raw.inputs.length)
    (parsed : WitnessArgs.parseOrDefault (tx.witnesses.getD witnessIndex []) = ok current)
    (fits : (current.withLock lock).asBytes.length < 2 ^ 32) :
    generateMessage chain (tx.withWitness witnessIndex (current.withLock lock)) group zeroLock =
      generateMessage chain (tx.setWitnesses (padWitnesses tx.witnesses witnessIndex)) group zeroLock := by
  simp only [generateMessage, messagePreimage_withWitness first increasing input parsed fits]

end CkbSdk
