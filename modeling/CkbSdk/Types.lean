import CkbSdk.Rust

/-!
# Cells, scripts and transactions

The chain's data model as the builders and signers read it: scripts and their code identity,
out-points, cell inputs and outputs, cell dependencies, and a transaction split into its raw
part and its witnesses. The transaction hash is taken over the raw part only, so replacing
witnesses never changes it; that is the first fact every signing proof uses.

The crate's collaborators are records of functions: the transaction dependency provider, the
cell-dep resolver and the wallet. Each is an arbitrary function, so every theorem about a
builder or a signer holds for every provider, resolver and wallet. The cell collector and the
header-dep resolver are passed to `build_base` but never called by these builders, and are
left out.
-/

namespace CkbSdk

/-- `ScriptHashType`: how a code hash selects the script's code. -/
inductive ScriptHashType where
  | data
  | type
  | data1
deriving DecidableEq, Repr

/-- The serialized hash-type byte. -/
def ScriptHashType.toByte : ScriptHashType → UInt8
  | .data => 0
  | .type => 1
  | .data1 => 2

/-- A script: code hash, hash type and arguments. -/
structure Script where
  codeHash : Byte32
  hashType : ScriptHashType
  args : Bytes
deriving DecidableEq, Repr

/-- `types::ScriptId`: the code a script runs, without its arguments. It is the key under
which a script's code dependency is resolved. -/
structure ScriptId where
  codeHash : Byte32
  hashType : ScriptHashType
deriving DecidableEq, Repr

/-- `ScriptId::from(&script)`. -/
def ScriptId.ofScript (script : Script) : ScriptId := ⟨script.codeHash, script.hashType⟩

/-- A reference to a cell: the transaction that created it and the output index. -/
structure OutPoint where
  txHash : Byte32
  index : UInt32
deriving DecidableEq, Repr

/-- A transaction input: the cell it consumes and its `since` time lock. -/
structure CellInput where
  since : UInt64
  previousOutput : OutPoint
deriving DecidableEq, Repr

/-- `CellInput::new(previous_output, since)`. -/
def CellInput.new (previousOutput : OutPoint) (since : UInt64) : CellInput :=
  ⟨since, previousOutput⟩

/-- How a cell dependency supplies code: directly, or as a group of cells. -/
inductive DepType where
  | code
  | depGroup
deriving DecidableEq, Repr

/-- A cell dependency: the cell holding a script's code. -/
structure CellDep where
  outPoint : OutPoint
  depType : DepType
deriving DecidableEq, Repr

/-- A cell as a transaction output: capacity in shannons, lock script, optional type script. -/
structure CellOutput where
  capacity : UInt64
  lock : Script
  type : Option Script
deriving DecidableEq, Repr

/-- The part of a transaction its hash covers. -/
structure RawTransaction where
  version : UInt32
  cellDeps : List CellDep
  headerDeps : List Byte32
  inputs : List CellInput
  outputs : List CellOutput
  outputsData : List Bytes
deriving DecidableEq, Repr

/-- A transaction: its raw part and one witness per position, each the raw bytes of a packed
`Bytes`. Witnesses past the inputs are the outer witnesses. -/
structure Transaction where
  raw : RawTransaction
  witnesses : List Bytes
deriving DecidableEq, Repr

/-- `TransactionBuilder::default()` with the given cell deps, inputs, outputs and outputs data
set, and everything else left at its default: version 0, no header deps, no witnesses. -/
def Transaction.build (cellDeps : List CellDep) (inputs : List CellInput)
    (outputs : List CellOutput) (outputsData : List Bytes) : Transaction :=
  ⟨⟨0, cellDeps, [], inputs, outputs, outputsData⟩, []⟩

/-- `tx.as_advanced_builder().set_witnesses(witnesses).build()`: the raw part is kept. -/
def Transaction.setWitnesses (tx : Transaction) (witnesses : List Bytes) : Transaction :=
  { tx with witnesses := witnesses }

/-- Replacing the witnesses keeps the raw transaction. -/
@[simp] theorem Transaction.raw_setWitnesses (tx : Transaction) (witnesses : List Bytes) :
    (tx.setWitnesses witnesses).raw = tx.raw := rfl

/-- Replacing the witnesses sets them. -/
@[simp] theorem Transaction.witnesses_setWitnesses (tx : Transaction) (witnesses : List Bytes) :
    (tx.setWitnesses witnesses).witnesses = witnesses := rfl

/-- Writing back a transaction's own witnesses changes nothing. -/
@[simp] theorem Transaction.setWitnesses_self (tx : Transaction) : tx.setWitnesses tx.witnesses = tx :=
  rfl

/-- Replacing the witnesses twice keeps the second list. -/
@[simp] theorem Transaction.setWitnesses_setWitnesses (tx : Transaction) (first second : List Bytes) :
    (tx.setWitnesses first).setWitnesses second = tx.setWitnesses second := rfl

/-- `ckb_script::ScriptGroup`: the script and the input and output positions that share it. -/
structure ScriptGroup where
  script : Script
  inputIndices : List Nat
  outputIndices : List Nat
deriving DecidableEq, Repr

/-- Modelled from the spec: `traits::TransactionDependencyError`, the failure of a lookup,
whose cause the crate only forwards. -/
structure TransactionDependencyError where
  message : String
deriving DecidableEq, Repr

/-- The `traits::TransactionDependencyProvider` methods the builders call. -/
structure TransactionDependencyProvider where
  getCell : OutPoint → Except TransactionDependencyError CellOutput
  getCellData : OutPoint → Except TransactionDependencyError Bytes

/-- `traits::CellDepResolver`: the code dependency of a script identity, if known. -/
structure CellDepResolver where
  resolve : ScriptId → Option CellDep

/-- Modelled from the spec: `traits::WalletError`, forwarded by the signers. -/
structure WalletError where
  message : String
deriving DecidableEq, Repr

/-- `traits::Wallet`: which owner ids it holds keys for, and signing a message under an owner
id. `sign` also receives the transaction and the dependency provider, as in the trait. -/
structure Wallet where
  matchId : Bytes → Bool
  sign : Bytes → Bytes → Transaction → TransactionDependencyProvider → Except WalletError Bytes

/-- What the modelled code takes from outside `src/`: blake2b-256 from `ckb_hash`, and
`constants::CHEQUE_CELL_SINCE`, whose value the model leaves open. -/
structure Chain where
  blake2b256 : Bytes → Byte32
  chequeCellSince : UInt64

/-- Molecule's `Display` of a `Uint32`, `Uint64` or `Byte32`: the type name and the raw bytes
in hexadecimal. -/
def displayArray (name : String) (bytes : Bytes) : String :=
  name ++ "(0x" ++ hexString bytes ++ ")"

/-- Molecule's `Display` of an `OutPoint`, used in the builders' error messages. -/
def OutPoint.display (outPoint : OutPoint) : String :=
  "OutPoint \x7b tx_hash: " ++ displayArray "Byte32" outPoint.txHash.bytes ++
    ", index: " ++ displayArray "Uint32" (leBytes 4 outPoint.index.toNat) ++ " \x7d"

/-- Molecule's `Display` of a `CellInput`, used in the builders' error messages. -/
def CellInput.display (input : CellInput) : String :=
  "CellInput \x7b since: " ++ displayArray "Uint64" (leBytes 8 input.since.toNat) ++
    ", previous_output: " ++ input.previousOutput.display ++ " \x7d"

end CkbSdk
