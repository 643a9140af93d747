import CkbSdk.Molecule

/-!
# The builder contract

Every builder has one operation, `build_base`, which either returns an unsigned transaction
skeleton or a `TxBuilderError`. The cheque and transfer builders share a handful of steps,
each modelled once here: looking a cell up through the dependency provider, resolving a
script's code dependency, reading a 16-byte token amount, and remembering the first script of
a run of inputs that must all agree.

Cell dependencies collected in a `HashSet` are modelled as a duplicate-free list built by
`List.insert`. The set's iteration order is unspecified; the model keeps the reverse order of
insertion, and no theorem depends on that order.
-/

namespace CkbSdk

/-- Modelled from the spec: `tx_builder::TxBuilderError` (its module is not under `src/`):
an invariant violation, an unresolved code dependency, or a failed provider lookup. -/
inductive TxBuilderError where
  | invalidParameter (message : String)
  | resolveCellDepFailed (scriptId : ScriptId)
  | dependencyLookup (error : TransactionDependencyError)
deriving DecidableEq, Repr

namespace TxBuilder

open Outcome

/-- `tx_dep_provider.get_cell(out_point)?`. -/
def getCell (provider : TransactionDependencyProvider) (outPoint : OutPoint) :
    Outcome TxBuilderError CellOutput :=
  ofExcept .dependencyLookup (provider.getCell outPoint)

/-- `tx_dep_provider.get_cell_data(out_point)?`. -/
def getCellData (provider : TransactionDependencyProvider) (outPoint : OutPoint) :
    Outcome TxBuilderError Bytes :=
  ofExcept .dependencyLookup (provider.getCellData outPoint)

/-- `cell_dep_resolver.resolve(&script_id).ok_or(ResolveCellDepFailed(script_id))?` for the
script's `ScriptId`. -/
def resolveCellDep (resolver : CellDepResolver) (script : Script) :
    Outcome TxBuilderError CellDep :=
  okOr (.resolveCellDepFailed (ScriptId.ofScript script)) (resolver.resolve (ScriptId.ofScript script))

/-- `u128::from_le_bytes` after `amount_bytes.copy_from_slice(data)` into `[0u8; 16]`: the copy
panics unless the data is exactly 16 bytes. -/
def readAmount (data : Bytes) : Outcome TxBuilderError Nat :=
  if data.length = 16 then ok (leValue data) else panic

/-- `if last.is_none() { last = Some(script) } else if last != Some(script) { return Err(..) }`:
the first script of a loop is the reference every later one must equal. -/
def rememberFirst (message : String) (last : Option Script) (script : Script) :
    Outcome TxBuilderError (Option Script) :=
  match last with
  | none => ok (some script)
  | some first => if first ≠ script then err (.invalidParameter message) else ok (some first)

/-- `provider.get_cell(out_point)?` gives a cell exactly when the provider returns it. -/
theorem getCell_eq_ok {provider : TransactionDependencyProvider} {outPoint : OutPoint}
    {cell : CellOutput} : getCell provider outPoint = ok cell ↔ provider.getCell outPoint = .ok cell := by
  unfold getCell
  cases provider.getCell outPoint <;> simp

/-- `provider.get_cell_data(out_point)?` gives data exactly when the provider returns it. -/
theorem getCellData_eq_ok {provider : TransactionDependencyProvider} {outPoint : OutPoint}
    {data : Bytes} :
    getCellData provider outPoint = ok data ↔ provider.getCellData outPoint = .ok data := by
  unfold getCellData
  cases provider.getCellData outPoint <;> simp

/-- A script's dep resolves exactly when the resolver knows its script id. -/
theorem resolveCellDep_eq_ok {resolver : CellDepResolver} {script : Script} {cellDep : CellDep} :
    resolveCellDep resolver script = ok cellDep ↔
      resolver.resolve (ScriptId.ofScript script) = some cellDep := by
  unfold resolveCellDep
  cases resolver.resolve (ScriptId.ofScript script) <;> simp

/-- An amount is read exactly from 16 bytes of data, as their little-endian value. -/
theorem readAmount_eq_ok {data : Bytes} {amount : Nat} :
    readAmount data = ok amount ↔ data.length = 16 ∧ amount = leValue data := by
  unfold readAmount
  split <;> simp [*, eq_comm]

/-- The copy into a 16-byte buffer panics exactly on data of another length. -/
theorem readAmount_eq_panic {data : Bytes} : readAmount data = panic ↔ data.length ≠ 16 := by
  unfold readAmount
  split <;> simp [*]

/-- Looking up a cell never panics. -/
@[simp] theorem getCell_ne_panic {provider : TransactionDependencyProvider} {outPoint : OutPoint} :
    getCell provider outPoint ≠ panic := ofExcept_ne_panic

/-- Looking up a cell's data never panics. -/
@[simp] theorem getCellData_ne_panic {provider : TransactionDependencyProvider}
    {outPoint : OutPoint} : getCellData provider outPoint ≠ panic := ofExcept_ne_panic

/-- Resolving a dep never panics. -/
@[simp] theorem resolveCellDep_ne_panic {resolver : CellDepResolver} {script : Script} :
    resolveCellDep resolver script ≠ panic := okOr_ne_panic

/-- Comparing a script with the first one never panics. -/
@[simp] theorem rememberFirst_ne_panic {message : String} {last : Option Script} {script : Script} :
    rememberFirst message last script ≠ panic := by
  unfold rememberFirst
  split
  · simp
  · split <;> simp

/-- The remembered script is the first one; a later script passes only if it is equal. -/
theorem rememberFirst_eq_ok {message : String} {last next : Option Script} {script : Script} :
    rememberFirst message last script = ok next ↔
      (last = none ∨ last = some script) ∧ next = some script := by
  unfold rememberFirst
  cases last with
  | none => simp [eq_comm]
  | some first =>
    by_cases same : first = script
    · subst same
      simp [eq_comm]
    · simp [same]

/-- A script remembered by `rememberFirst` is the one just seen, whenever one was remembered. -/
theorem remembered_eq {last : Option Script} {script remembered : Script}
    (agreed : last = none ∨ last = some script) (was : last = some remembered) :
    remembered = script := by
  rcases agreed with unset | same
  · simp [unset] at was
  · simpa [same, eq_comm] using was

end TxBuilder

end CkbSdk
