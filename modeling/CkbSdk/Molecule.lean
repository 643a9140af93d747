import CkbSdk.Types

/-!
# Molecule encodings and `WitnessArgs`

Molecule is the chain's binary format. A `fixvec` is a `u32` item count followed by the items;
a `table` (and a `dynvec`, which has the same layout) is a `u32` total size, one `u32` offset per
field, and the fields; an option is empty for `None`. Sizes are written as `u32`, so an encoding
of 4 GiB or more wraps its header, exactly as the generated builders' `as u32` casts do.

The signers rewrite one table, `WitnessArgs`, by parsing a witness, replacing its lock and
serializing it again. Its strict verifier is modelled check by check. Two laws connect the two
directions: every `WitnessArgs` below 4 GiB parses back to itself, and every slice the verifier
accepts is the encoding of what it parses to. The second law says that accepted witnesses are
canonical, so equal `WitnessArgs` values have equal bytes and parsing loses nothing.

The encodings of scripts and raw transactions exist only to be hashed.
-/

namespace CkbSdk

namespace Molecule

/-- `pack_number`: a `u32` size, count or offset, little-endian. -/
def packNumber (value : Nat) : Bytes := leBytes 4 value

/-- `unpack_number`: the `u32` at the front of a slice. -/
def unpackNumber (slice : Bytes) : Nat := leValue (slice.take 4)

/-- A `fixvec` of fixed-size items: the item count, then the items. -/
def packFixVec (items : List Bytes) : Bytes := packNumber items.length ++ items.flatten

/-- The `fixvec<byte>` named `Bytes`: the byte count, then the bytes. -/
def packBytes (data : Bytes) : Bytes := packNumber data.length ++ data

/-- An option: nothing for `None`, the item's encoding for `Some`. -/
def packOption {α : Type} (encode : α → Bytes) : Option α → Bytes
  | none => []
  | some value => encode value

/-- The offsets of the fields of a table or `dynvec`, the first one at `start`. -/
def fieldOffsets (start : Nat) : List Bytes → List Nat
  | [] => []
  | field :: rest => start :: fieldOffsets (start + field.length) rest

/-- A `table` or `dynvec`: the total size, one offset per field, then the fields. -/
def packTable (fields : List Bytes) : Bytes :=
  let headerSize := 4 * (fields.length + 1)
  packNumber (headerSize + (fields.map List.length).sum) ++
    ((fieldOffsets headerSize fields).map packNumber).flatten ++ fields.flatten

/-- `slice[start..stop]`, taken where verification has already checked the range. -/
def subSlice (slice : Bytes) (start stop : Nat) : Bytes := (slice.drop start).take (stop - start)

/-- A sub-slice that runs to the end is a drop. -/
theorem subSlice_length (slice : Bytes) (start : Nat) :
    subSlice slice start slice.length = slice.drop start :=
  List.take_of_length_le (by simp)

/-- A sub-slice followed by the rest of the slice is the rest from the sub-slice's start. -/
theorem subSlice_append_drop {slice : Bytes} {start stop : Nat} (ordered : start ≤ stop) :
    subSlice slice start stop ++ slice.drop stop = slice.drop start := by
  rw [subSlice, ← Nat.add_sub_cancel' ordered, ← List.drop_drop, Nat.add_sub_cancel_left,
    List.take_append_drop]

/-- A sub-slice that ends inside the slice has the length of its range. -/
theorem length_subSlice {slice : Bytes} {start stop : Nat} (inside : stop ≤ slice.length) :
    (subSlice slice start stop).length = stop - start := by
  simp only [subSlice, List.length_take, List.length_drop]
  omega

/-- A header is four bytes. -/
@[simp] theorem length_packNumber (value : Nat) : (packNumber value).length = 4 := by
  simp [packNumber]

/-- A table header has one offset per field. -/
@[simp] theorem length_fieldOffsets (start : Nat) (fields : List Bytes) :
    (fieldOffsets start fields).length = fields.length := by
  induction fields generalizing start with
  | nil => rfl
  | cons field rest inductionHypothesis => simp [fieldOffsets, inductionHypothesis]

/-- A table's length: its header of one number per field plus one, and its fields. -/
theorem length_packTable (fields : List Bytes) :
    (packTable fields).length = 4 * (fields.length + 1) + (fields.map List.length).sum := by
  have numbers (values : List Nat) : ((values.map packNumber).flatten).length = 4 * values.length := by
    induction values with
    | nil => rfl
    | cons value rest inductionHypothesis =>
      simp only [List.map_cons, List.flatten_cons, List.length_append, length_packNumber,
        inductionHypothesis, List.length_cons]
      omega
  simp only [packTable, List.length_append, length_packNumber, numbers, length_fieldOffsets,
    List.length_flatten]
  omega

/-- A header is never empty. -/
@[simp] theorem packNumber_ne_nil (value : Nat) : packNumber value ≠ [] :=
  List.ne_nil_of_length_pos (by simp)

/-- A header read back is the number written, reduced to `u32`. -/
@[simp] theorem unpackNumber_packNumber_append (value : Nat) (rest : Bytes) :
    unpackNumber (packNumber value ++ rest) = value % 2 ^ 32 := by
  simp [unpackNumber, packNumber, List.take_left' (length_leBytes 4 value)]

/-- Four bytes are the header of their own value. -/
theorem packNumber_unpackNumber {chunk : Bytes} (four : chunk.length = 4) :
    packNumber (unpackNumber chunk) = chunk := by
  have whole : chunk.take 4 = chunk := List.take_of_length_le (by omega)
  simpa only [packNumber, unpackNumber, whole, four] using leBytes_leValue chunk

/-- A header reads only the first four bytes. -/
@[simp] theorem unpackNumber_take (slice : Bytes) : unpackNumber (slice.take 4) = unpackNumber slice := by
  simp [unpackNumber, List.take_take]

/-- The four bytes at `start` are the header of the number read there. -/
theorem packNumber_unpackNumber_drop {slice : Bytes} {start : Nat} (inside : start + 4 ≤ slice.length) :
    packNumber (unpackNumber (slice.drop start)) = subSlice slice start (start + 4) := by
  rw [subSlice, Nat.add_sub_cancel_left, ← unpackNumber_take]
  exact packNumber_unpackNumber (by simp; omega)

/-- A header reads a `u32`. -/
theorem unpackNumber_lt (slice : Bytes) : unpackNumber slice < 2 ^ 32 := by
  have bound := leValue_lt (slice.take 4)
  have short : (slice.take 4).length ≤ 4 := by simp
  calc unpackNumber slice < 256 ^ (slice.take 4).length := bound
    _ ≤ 256 ^ 4 := Nat.pow_le_pow_right (by decide) short
    _ = 2 ^ 32 := by norm_num

end Molecule

open Molecule

/-- The serialized dep-type byte. -/
def DepType.toByte : DepType → UInt8
  | .code => 0
  | .depGroup => 1

/-- The table `Script { code_hash, hash_type, args }`. -/
def Script.asBytes (script : Script) : Bytes :=
  packTable [script.codeHash.bytes, [script.hashType.toByte], packBytes script.args]

/-- The struct `OutPoint { tx_hash, index }`. -/
def OutPoint.asBytes (outPoint : OutPoint) : Bytes :=
  outPoint.txHash.bytes ++ leBytes 4 outPoint.index.toNat

/-- The struct `CellInput { since, previous_output }`. -/
def CellInput.asBytes (input : CellInput) : Bytes :=
  leBytes 8 input.since.toNat ++ input.previousOutput.asBytes

/-- The struct `CellDep { out_point, dep_type }`. -/
def CellDep.asBytes (cellDep : CellDep) : Bytes :=
  cellDep.outPoint.asBytes ++ [cellDep.depType.toByte]

/-- The table `CellOutput { capacity, lock, type_ }`. -/
def CellOutput.asBytes (output : CellOutput) : Bytes :=
  packTable [leBytes 8 output.capacity.toNat, output.lock.asBytes,
    packOption Script.asBytes output.type]

/-- The table `RawTransaction`, the preimage of the transaction hash. -/
def RawTransaction.asBytes (raw : RawTransaction) : Bytes :=
  packTable [leBytes 4 raw.version.toNat, packFixVec (raw.cellDeps.map CellDep.asBytes),
    packFixVec (raw.headerDeps.map FixedBytes.bytes), packFixVec (raw.inputs.map CellInput.asBytes),
    packTable (raw.outputs.map CellOutput.asBytes), packTable (raw.outputsData.map packBytes)]

/-- The table `Transaction { raw, witnesses }`: what a `TransactionView` holds. -/
def Transaction.asBytes (tx : Transaction) : Bytes :=
  packTable [tx.raw.asBytes, packTable (tx.witnesses.map packBytes)]

/-- A `TransactionView` is a molecule table, so a well-formed one is shorter than 4 GiB: its
`u32` headers could not describe it otherwise. -/
def Transaction.Sized (tx : Transaction) : Prop := tx.asBytes.length < 2 ^ 32

/-- Whether a transaction is below 4 GiB is decided by its length. -/
instance : DecidablePred Transaction.Sized := fun tx =>
  inferInstanceAs (Decidable (tx.asBytes.length < 2 ^ 32))

/-- An element of a list of naturals is at most its sum. -/
theorem le_sum_of_mem {values : List Nat} {value : Nat} (member : value ∈ values) :
    value ≤ values.sum := by
  induction values with
  | nil => cases member
  | cons first rest inductionHypothesis =>
    rcases List.mem_cons.mp member with same | later
    · simp [same]
    · have := inductionHypothesis later
      simp only [List.sum_cons]
      omega

/-- Every witness of a well-formed transaction leaves room for the 76 bytes the encoding holds
around it at least: the table headers, the smallest raw part, and the witness's own offset and
length. -/
theorem Transaction.Sized.witness_bound {tx : Transaction} (sized : tx.Sized) {witness : Bytes}
    (member : witness ∈ tx.witnesses) : witness.length + 76 < 2 ^ 32 := by
  have rawLength : 52 ≤ tx.raw.asBytes.length := by
    simp only [RawTransaction.asBytes, length_packTable, packFixVec, List.length_cons,
      List.map_cons, List.map_nil, List.sum_cons, List.sum_nil, List.length_append,
      length_packNumber, length_leBytes]
    omega
  have framed : witness.length + 4 ≤ ((tx.witnesses.map packBytes).map List.length).sum :=
    le_sum_of_mem (List.mem_map_of_mem _ (List.mem_map_of_mem _ member))
  have counted : 1 ≤ tx.witnesses.length := List.length_pos_of_mem member
  unfold Transaction.Sized Transaction.asBytes at sized
  simp only [length_packTable, List.length_cons, List.length_nil, List.map_cons, List.map_nil,
    List.sum_cons, List.sum_nil, List.length_map] at sized framed
  omega

/-- `script.calc_script_hash()`. -/
def Script.calcScriptHash (chain : Chain) (script : Script) : Byte32 :=
  chain.blake2b256 script.asBytes

/-- `tx.hash()`: the hash of the raw part, so it ignores the witnesses. -/
def Transaction.hash (chain : Chain) (tx : Transaction) : Byte32 :=
  chain.blake2b256 tx.raw.asBytes

/-- The transaction hash does not read the witnesses. -/
@[simp] theorem Transaction.hash_setWitnesses (chain : Chain) (tx : Transaction)
    (witnesses : List Bytes) : (tx.setWitnesses witnesses).hash chain = tx.hash chain := rfl

/-- The table `WitnessArgs { lock, input_type, output_type }`, each field an optional `Bytes`
held here as its raw data. -/
structure WitnessArgs where
  lock : Option Bytes
  inputType : Option Bytes
  outputType : Option Bytes
deriving DecidableEq, Repr

namespace WitnessArgs

/-- `WitnessArgs::default()`: all three fields absent. -/
def empty : WitnessArgs := ⟨none, none, none⟩

/-- `witness_args.as_builder().lock(lock.pack()).build()`: the other two fields are kept. -/
def withLock (witnessArgs : WitnessArgs) (lock : Option Bytes) : WitnessArgs :=
  { witnessArgs with lock := lock }

/-- Setting the lock sets the lock. -/
@[simp] theorem withLock_lock (witnessArgs : WitnessArgs) (lock : Option Bytes) :
    (witnessArgs.withLock lock).lock = lock := rfl

/-- Setting the lock keeps `input_type`. -/
@[simp] theorem withLock_inputType (witnessArgs : WitnessArgs) (lock : Option Bytes) :
    (witnessArgs.withLock lock).inputType = witnessArgs.inputType := rfl

/-- Setting the lock keeps `output_type`. -/
@[simp] theorem withLock_outputType (witnessArgs : WitnessArgs) (lock : Option Bytes) :
    (witnessArgs.withLock lock).outputType = witnessArgs.outputType := rfl

/-- Setting the lock twice keeps the second. -/
@[simp] theorem withLock_withLock (witnessArgs : WitnessArgs) (first second : Option Bytes) :
    (witnessArgs.withLock first).withLock second = witnessArgs.withLock second := rfl

/-- The three field encodings, in table order. -/
def fields (witnessArgs : WitnessArgs) : List Bytes :=
  [packOption packBytes witnessArgs.lock, packOption packBytes witnessArgs.inputType,
    packOption packBytes witnessArgs.outputType]

/-- `witness_args.as_bytes()`. -/
def asBytes (witnessArgs : WitnessArgs) : Bytes := packTable witnessArgs.fields

end WitnessArgs

/-- `molecule::error::VerificationError`, carrying the `NAME` of the reader whose check failed
(`"BytesReader"`, `"WitnessArgsReader"`). -/
inductive VerificationError where
  | totalSizeNotMatch (name : String) (expected actual : Nat)
  | headerIsBroken (name : String) (expected actual : Nat)
  | offsetsNotMatch (name : String)
  | fieldCountNotMatch (name : String) (expected actual : Nat)
deriving DecidableEq, Repr

namespace Molecule

/-- A check of a verifier passes exactly when its condition fails and the checks after it
pass. -/
theorem ite_error_eq_ok {condition : Prop} [Decidable condition] {error : VerificationError}
    {rest : Except VerificationError Unit} :
    (if condition then .error error else rest) = .ok () ↔ ¬ condition ∧ rest = .ok () := by
  split <;> simp [*]

/-- `BytesReader::verify`: a count header and exactly that many bytes. -/
def verifyBytes (slice : Bytes) : Except VerificationError Unit :=
  if slice.length < 4 then .error (.headerIsBroken "BytesReader" 4 slice.length) else
  let itemCount := unpackNumber slice
  if itemCount = 0 then
    if slice.length ≠ 4 then .error (.totalSizeNotMatch "BytesReader" 4 slice.length) else .ok ()
  else
    let totalSize := 4 + itemCount
    if slice.length ≠ totalSize then
      .error (.totalSizeNotMatch "BytesReader" totalSize slice.length)
    else .ok ()

/-- `BytesOptReader::verify`: an empty slice is `None`, anything else must be a `Bytes`. -/
def verifyBytesOpt (slice : Bytes) : Except VerificationError Unit :=
  if slice.isEmpty then pure () else verifyBytes slice

/-- A verified `BytesOpt` read back with `to_opt()` and `raw_data()`. -/
def unpackBytesOpt (field : Bytes) : Option Bytes :=
  if field.isEmpty then none else some (field.drop 4)

end Molecule

namespace WitnessArgs

/-- `WitnessArgsReader::verify` in strict mode: the header must describe exactly three fields
in order, the total size must be the slice's length, and each field must be a `BytesOpt`. -/
def verify (slice : Bytes) : Except VerificationError Unit :=
  let sliceLen := slice.length
  if sliceLen < 4 then .error (.headerIsBroken "WitnessArgsReader" 4 sliceLen) else
  let totalSize := unpackNumber slice
  if sliceLen ≠ totalSize then
    .error (.totalSizeNotMatch "WitnessArgsReader" totalSize sliceLen) else
  if sliceLen < 8 then .error (.headerIsBroken "WitnessArgsReader" 8 sliceLen) else
  let offsetFirst := unpackNumber (slice.drop 4)
  if offsetFirst % 4 ≠ 0 ∨ offsetFirst < 8 then .error (.offsetsNotMatch "WitnessArgsReader") else
  if sliceLen < offsetFirst then .error (.headerIsBroken "WitnessArgsReader" offsetFirst sliceLen) else
  let fieldCount := offsetFirst / 4 - 1
  if fieldCount < 3 then .error (.fieldCountNotMatch "WitnessArgsReader" 3 fieldCount) else
  if fieldCount > 3 then .error (.fieldCountNotMatch "WitnessArgsReader" 3 fieldCount) else
  let inputTypeStart := unpackNumber (slice.drop 8)
  let outputTypeStart := unpackNumber (slice.drop 12)
  if offsetFirst > inputTypeStart ∨ inputTypeStart > outputTypeStart ∨
      outputTypeStart > totalSize then
    .error (.offsetsNotMatch "WitnessArgsReader")
  else do
    verifyBytesOpt (subSlice slice offsetFirst inputTypeStart)
    verifyBytesOpt (subSlice slice inputTypeStart outputTypeStart)
    verifyBytesOpt (subSlice slice outputTypeStart totalSize)

/-- `WitnessArgs::from_slice`: verify, then read each field between its offsets. -/
def fromSlice (slice : Bytes) : Except VerificationError WitnessArgs := do
  verify slice
  let lockStart := unpackNumber (slice.drop 4)
  let inputTypeStart := unpackNumber (slice.drop 8)
  let outputTypeStart := unpackNumber (slice.drop 12)
  pure ⟨unpackBytesOpt (subSlice slice lockStart inputTypeStart),
    unpackBytesOpt (subSlice slice inputTypeStart outputTypeStart),
    unpackBytesOpt (slice.drop outputTypeStart)⟩

end WitnessArgs

namespace Molecule

/-- An encoded `Bytes` is its count header and its bytes. -/
@[simp] theorem length_packBytes (data : Bytes) : (packBytes data).length = 4 + data.length := by
  simp [packBytes]

/-- An encoded optional `Bytes` below 4 GiB passes its verifier. -/
theorem verifyBytesOpt_packOption (field : Option Bytes)
    (fits : (packOption packBytes field).length < 2 ^ 32) :
    verifyBytesOpt (packOption packBytes field) = .ok () := by
  cases field with
  | none => rfl
  | some data =>
    have small : data.length % 4294967296 = data.length :=
      Nat.mod_eq_of_lt (by simp [packOption] at fits; omega)
    by_cases emptyData : data = []
    · subst emptyData
      rfl
    · simp [packOption, verifyBytesOpt, verifyBytes, packBytes, small, emptyData]

/-- An accepted optional `Bytes` is the encoding of what it reads back as. -/
theorem packOption_unpackBytesOpt {field : Bytes} (accepted : verifyBytesOpt field = .ok ()) :
    packOption packBytes (unpackBytesOpt field) = field := by
  by_cases emptyField : field = []
  · subst emptyField
    rfl
  · have valid : verifyBytes field = .ok () := by simpa [verifyBytesOpt, emptyField] using accepted
    have counted : field.length = 4 + unpackNumber field := by
      simp only [verifyBytes] at valid
      split_ifs at valid <;> omega
    have header : packNumber (field.drop 4).length = field.take 4 := by
      rw [List.length_drop, counted, Nat.add_sub_cancel_left, ← unpackNumber_take]
      exact packNumber_unpackNumber (by simp; omega)
    simp only [unpackBytesOpt, List.isEmpty_iff, emptyField, packOption, packBytes, header,
      List.take_append_drop, if_false]

/-- Reading an encoded optional `Bytes` gives the option back. -/
@[simp] theorem unpackBytesOpt_packOption (field : Option Bytes) :
    unpackBytesOpt (packOption packBytes field) = field := by
  cases field <;> simp [packOption, unpackBytesOpt, packBytes, List.drop_left']

/-- A three-field table: the header, then the fields. -/
theorem packTable_three (first second third : Bytes) :
    packTable [first, second, third] =
      packNumber (16 + first.length + second.length + third.length) ++ (packNumber 16 ++
        (packNumber (16 + first.length) ++ (packNumber (16 + first.length + second.length) ++
          (first ++ (second ++ third))))) := by
  simp [packTable, fieldOffsets, Nat.add_assoc]

end Molecule

namespace WitnessArgs

/-- Where a three-field table below 4 GiB keeps its header values and its fields. -/
theorem packTable_reads {first second third : Bytes}
    (fits : 16 + first.length + second.length + third.length < 2 ^ 32) :
    let slice := packTable [first, second, third]
    slice.length = 16 + first.length + second.length + third.length ∧
      unpackNumber slice = 16 + first.length + second.length + third.length ∧
      unpackNumber (slice.drop 4) = 16 ∧
      unpackNumber (slice.drop 8) = 16 + first.length ∧
      unpackNumber (slice.drop 12) = 16 + first.length + second.length ∧
      slice.drop 16 = first ++ (second ++ third) := by
  intro slice
  simp only [slice, packTable_three]
  refine ⟨by simp; omega, ?_, ?_, ?_, ?_, ?_⟩ <;>
    simp [List.drop_append_eq_append_drop, List.drop_eq_nil_of_le] <;> omega

/-- A slice `packTable [first, second, third]` dropped past its header and some fields. -/
theorem packTable_drop {first second third : Bytes}
    (fits : 16 + first.length + second.length + third.length < 2 ^ 32) :
    (packTable [first, second, third]).drop (16 + first.length) = second ++ third ∧
      (packTable [first, second, third]).drop (16 + first.length + second.length) = third := by
  have body := (packTable_reads fits).2.2.2.2.2
  have secondDrop : (packTable [first, second, third]).drop (16 + first.length) =
      second ++ third := by
    rw [← List.drop_drop, body, List.drop_left]
  exact ⟨secondDrop, by rw [← List.drop_drop, secondDrop, List.drop_left]⟩

/-- A three-field table below 4 GiB whose fields are valid optional `Bytes` is accepted, and
reads back field by field. -/
theorem fromSlice_packTable {first second third : Bytes}
    (fits : 16 + first.length + second.length + third.length < 2 ^ 32)
    (firstValid : verifyBytesOpt first = .ok ()) (secondValid : verifyBytesOpt second = .ok ())
    (thirdValid : verifyBytesOpt third = .ok ()) :
    fromSlice (packTable [first, second, third]) =
      .ok ⟨unpackBytesOpt first, unpackBytesOpt second, unpackBytesOpt third⟩ := by
  obtain ⟨length, total, offsetFirst, inputTypeStart, outputTypeStart, body⟩ := packTable_reads fits
  obtain ⟨secondDrop, thirdDrop⟩ := packTable_drop fits
  have firstSlice : subSlice (packTable [first, second, third]) 16 (16 + first.length) = first := by
    simp [subSlice, body]
  have secondSlice : subSlice (packTable [first, second, third]) (16 + first.length)
      (16 + first.length + second.length) = second := by
    simp [subSlice, secondDrop]
  have thirdSlice : subSlice (packTable [first, second, third])
      (16 + first.length + second.length) (16 + first.length + second.length + third.length) =
        third := by
    simp [subSlice, thirdDrop]
  have headerFits : ¬ (16 + first.length + second.length + third.length < 4) ∧
      ¬ (16 + first.length + second.length + third.length < 8) ∧
      ¬ (16 + first.length + second.length + third.length < 16) ∧
      ¬ (16 > 16 + first.length) ∧ ¬ (16 + first.length > 16 + first.length + second.length) ∧
      ¬ (16 + first.length + second.length > 16 + first.length + second.length + third.length) := by
    omega
  simp only [fromSlice, verify, length, total, offsetFirst, inputTypeStart, outputTypeStart,
    firstSlice, secondSlice, thirdSlice, thirdDrop, firstValid, secondValid, thirdValid, headerFits]
  simp
  rfl

/-- The encoding's length: a 16-byte header and the three fields. -/
theorem length_asBytes (witnessArgs : WitnessArgs) :
    witnessArgs.asBytes.length = 16 + (packOption packBytes witnessArgs.lock).length +
      (packOption packBytes witnessArgs.inputType).length +
      (packOption packBytes witnessArgs.outputType).length := by
  simp only [asBytes, fields, packTable_three, List.length_append, length_packNumber]
  omega

/-- Every `WitnessArgs` whose encoding is below 4 GiB parses back to itself. -/
theorem fromSlice_asBytes (witnessArgs : WitnessArgs) (fits : witnessArgs.asBytes.length < 2 ^ 32) :
    fromSlice witnessArgs.asBytes = .ok witnessArgs := by
  rw [length_asBytes] at fits
  rw [asBytes, fields, fromSlice_packTable fits (verifyBytesOpt_packOption _ (by omega))
    (verifyBytesOpt_packOption _ (by omega)) (verifyBytesOpt_packOption _ (by omega))]
  simp

/-- What a slice accepted by the verifier has: a total size equal to its length, a first
offset of 16 (three fields), ordered offsets inside the slice, and three verified `BytesOpt`. -/
theorem verify_eq_ok {slice : Bytes} (accepted : verify slice = .ok ()) :
    unpackNumber slice = slice.length ∧ 16 ≤ slice.length ∧ unpackNumber (slice.drop 4) = 16 ∧
      16 ≤ unpackNumber (slice.drop 8) ∧
      unpackNumber (slice.drop 8) ≤ unpackNumber (slice.drop 12) ∧
      unpackNumber (slice.drop 12) ≤ slice.length ∧
      verifyBytesOpt (subSlice slice 16 (unpackNumber (slice.drop 8))) = .ok () ∧
      verifyBytesOpt (subSlice slice (unpackNumber (slice.drop 8)) (unpackNumber (slice.drop 12))) =
        .ok () ∧
      verifyBytesOpt (slice.drop (unpackNumber (slice.drop 12))) = .ok () := by
  simp only [verify, ite_error_eq_ok] at accepted
  obtain ⟨-, totalMatch, -, badFirst, -, fewFields, manyFields, unordered, accepted⟩ := accepted
  have sized : unpackNumber slice = slice.length := by omega
  have firstOffset : unpackNumber (slice.drop 4) = 16 := by omega
  rw [firstOffset, sized, subSlice_length] at accepted
  cases first : verifyBytesOpt (subSlice slice 16 (unpackNumber (slice.drop 8))) <;>
    cases second : verifyBytesOpt (subSlice slice (unpackNumber (slice.drop 8))
      (unpackNumber (slice.drop 12))) <;>
    simp only [first, second, bind, Except.bind] at accepted <;> try cases accepted
  exact ⟨sized, by omega, firstOffset, by omega, by omega, by omega, rfl, rfl, accepted⟩

/-- An accepted witness is the encoding of what it parses to: the verifier admits no second
encoding of any value, so parsing loses nothing. -/
theorem asBytes_fromSlice {slice : Bytes} {witnessArgs : WitnessArgs}
    (parsed : fromSlice slice = .ok witnessArgs) : witnessArgs.asBytes = slice := by
  have accepted : verify slice = .ok () := by
    cases verified : verify slice <;> simp_all [fromSlice, bind, Except.bind]
  have read : witnessArgs = ⟨unpackBytesOpt (subSlice slice 16 (unpackNumber (slice.drop 8))),
      unpackBytesOpt (subSlice slice (unpackNumber (slice.drop 8)) (unpackNumber (slice.drop 12))),
      unpackBytesOpt (slice.drop (unpackNumber (slice.drop 12)))⟩ := by
    obtain ⟨-, -, firstOffset, -⟩ := verify_eq_ok accepted
    simp only [fromSlice, accepted, firstOffset] at parsed
    exact (Except.ok.inj parsed).symm
  obtain ⟨sized, long, firstOffset, afterHeader, ordered, beforeEnd, lockValid, inputTypeValid,
    outputTypeValid⟩ := verify_eq_ok accepted
  subst read
  simp only [asBytes, fields, packOption_unpackBytesOpt lockValid,
    packOption_unpackBytesOpt inputTypeValid, packOption_unpackBytesOpt outputTypeValid,
    packTable_three, length_subSlice (Nat.le_trans ordered beforeEnd),
    length_subSlice beforeEnd, List.length_drop]
  have lockEnd : 16 + (unpackNumber (slice.drop 8) - 16) = unpackNumber (slice.drop 8) := by omega
  have inputTypeEnd : unpackNumber (slice.drop 8) +
      (unpackNumber (slice.drop 12) - unpackNumber (slice.drop 8)) =
        unpackNumber (slice.drop 12) := by omega
  have total : unpackNumber (slice.drop 12) + (slice.length - unpackNumber (slice.drop 12)) =
      unpackNumber (slice.drop 0) := by
    rw [List.drop_zero]
    omega
  rw [lockEnd, inputTypeEnd, total, ← firstOffset, packNumber_unpackNumber_drop (by omega),
    packNumber_unpackNumber_drop (by omega), packNumber_unpackNumber_drop (by omega),
    packNumber_unpackNumber_drop (by omega), firstOffset, subSlice_append_drop ordered,
    subSlice_append_drop afterHeader, subSlice_append_drop (by omega : 12 ≤ 12 + 4),
    subSlice_append_drop (by omega : 8 ≤ 8 + 4), subSlice_append_drop (by omega : 4 ≤ 4 + 4),
    subSlice_append_drop (by omega : 0 ≤ 0 + 4), List.drop_zero]

end WitnessArgs

end CkbSdk
