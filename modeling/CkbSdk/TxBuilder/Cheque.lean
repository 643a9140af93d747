import CkbSdk.TxBuilder
import Mathlib.Algebra.BigOperators.Group.List
import Mathlib.Data.List.Nodup

/-!
# Cheque claim and withdraw builders

A cheque cell escrows a token amount (16 bytes of cell data, a little-endian `u128`) under a
lock whose 40 args bytes hold the receiver's and then the sender's lock-hash prefixes. The
receiver claims: every cheque input and the receiver's own token cell are consumed, the receiver
cell comes back holding the sum of the amounts, and the cheques' capacity goes back to the
sender. The sender withdraws after a time lock: the cheques are consumed with
`CHEQUE_CELL_SINCE` and come back as one token cell of the sender.

Both builders are modelled line by line, with the provider, the resolver, the hash function and
the build profile left arbitrary. Each loop body has one inversion lemma saying everything an
iteration can do, and one invariant over the inputs done so far; `Outcome.foldlM_invariant`
carries it over the whole loop. What a successful build returns follows from the invariant and
the inversion of `build_base`: the inputs in the caller's order, the outputs with the sums of
the cheques' amounts and capacities, what was checked of every cell, and the cell deps.

Two lines of the source matter most for what follows. The claim loop reads each cheque's type
script from the receiver cell, not from the cheque cell, so its type-script check can never
fail and the cheques' type scripts are never resolved. The sums use `+=`, which wraps in a
release build: the outputs then hold the exact sums reduced to `u128` and `u64`.
-/

namespace CkbSdk

open Outcome TxBuilder

/-- Both builders' final check: the cheque lock args are 40 bytes and their second half is the
prefix of the sender lock's hash. -/
def checkChequeLockArgs (chain : Chain) (senderLockScript chequeLockScript : Script) :
    Outcome TxBuilderError Unit := do
  let chequeLockArgs := chequeLockScript.args
  failIf (chequeLockArgs.length ≠ 40) (.invalidParameter
    ("invalid cheque lock args length, expected: 40, got: " ++ toString chequeLockArgs.length))
  let senderLockHash := senderLockScript.calcScriptHash chain
  failIf (senderLockHash.bytes.take 20 ≠ (chequeLockArgs.drop 20).take 20)
    (.invalidParameter "sender lock script is match with cheque lock script args")

/-- The lock args check passes exactly on 40 bytes of args whose second half is the first 20
bytes of the sender lock's hash. -/
theorem checkChequeLockArgs_eq_ok {chain : Chain} {senderLockScript chequeLockScript : Script} :
    checkChequeLockArgs chain senderLockScript chequeLockScript = ok () ↔
      chequeLockScript.args.length = 40 ∧
        (senderLockScript.calcScriptHash chain).bytes.take 20 =
          (chequeLockScript.args.drop 20).take 20 := by
  simp [checkChequeLockArgs]

/-- The lock args check never panics. -/
@[simp] theorem checkChequeLockArgs_ne_panic {chain : Chain}
    {senderLockScript chequeLockScript : Script} :
    checkChequeLockArgs chain senderLockScript chequeLockScript ≠ panic := by
  simp [checkChequeLockArgs, bind_eq_panic]

/-! ## The sums both loops keep -/

namespace TransactionDependencyProvider

/-- The token amount in the data of the cell at an out-point, or 0 where the lookup fails. -/
def amountAt (provider : TransactionDependencyProvider) (outPoint : OutPoint) : Nat :=
  match provider.getCellData outPoint with
  | .ok data => leValue data
  | .error _ => 0

/-- The capacity of the cell at an out-point, or 0 where the lookup fails. -/
def capacityAt (provider : TransactionDependencyProvider) (outPoint : OutPoint) : Nat :=
  match provider.getCell outPoint with
  | .ok cell => cell.capacity.toNat
  | .error _ => 0

/-- The exact total amount at the out-points, as an unbounded integer. -/
def amountSum (provider : TransactionDependencyProvider) (outPoints : List OutPoint) : Nat :=
  (outPoints.map provider.amountAt).sum

/-- The exact total capacity at the out-points, as an unbounded integer. -/
def capacitySum (provider : TransactionDependencyProvider) (outPoints : List OutPoint) : Nat :=
  (outPoints.map provider.capacityAt).sum

/-- The amounts of two lists of cheques add up. -/
theorem amountSum_append (provider : TransactionDependencyProvider) (first second : List OutPoint) :
    provider.amountSum (first ++ second) = provider.amountSum first + provider.amountSum second := by
  simp [amountSum]

/-- The capacities of two lists of cheques add up. -/
theorem capacitySum_append (provider : TransactionDependencyProvider)
    (first second : List OutPoint) :
    provider.capacitySum (first ++ second) =
      provider.capacitySum first + provider.capacitySum second := by
  simp [capacitySum]

/-- One more cheque adds the value of its data to the amount. -/
theorem amountSum_append_of_getCellData {provider : TransactionDependencyProvider}
    {outPoints : List OutPoint} {outPoint : OutPoint} {data : Bytes}
    (found : provider.getCellData outPoint = .ok data) :
    provider.amountSum (outPoints ++ [outPoint]) = provider.amountSum outPoints + leValue data := by
  simp [amountSum, amountAt, found]

/-- One more cheque adds its cell's capacity to the capacity. -/
theorem capacitySum_append_of_getCell {provider : TransactionDependencyProvider}
    {outPoints : List OutPoint} {outPoint : OutPoint} {cell : CellOutput}
    (found : provider.getCell outPoint = .ok cell) :
    provider.capacitySum (outPoints ++ [outPoint]) =
      provider.capacitySum outPoints + cell.capacity.toNat := by
  simp [capacitySum, capacityAt, found]

end TransactionDependencyProvider

/-- What both loops keep of their running sums: the exact sums over the out-points done,
reduced to `u128` and `u64`; and a debug build gets this far only while the exact sums fit. -/
structure SumsKept (profile : Profile) (provider : TransactionDependencyProvider)
    (outPoints : List OutPoint) (amount capacity : Nat) : Prop where
  amount : amount = provider.amountSum outPoints % 2 ^ 128
  capacity : capacity = provider.capacitySum outPoints % 2 ^ 64
  exact : profile = .debug →
    provider.amountSum outPoints < 2 ^ 128 ∧ provider.capacitySum outPoints < 2 ^ 64

/-- Adding one more cell's amount and capacity with `+=` keeps the sums. -/
theorem SumsKept.add {profile : Profile} {provider : TransactionDependencyProvider}
    {outPoints : List OutPoint} {outPoint : OutPoint} {cell : CellOutput} {data : Bytes}
    {amount capacity nextAmount nextCapacity : Nat}
    (kept : SumsKept profile provider outPoints amount capacity)
    (foundCell : provider.getCell outPoint = .ok cell)
    (foundData : provider.getCellData outPoint = .ok data)
    (amountAdded : (profile.add 128 amount (leValue data) : Outcome TxBuilderError Nat) =
      ok nextAmount)
    (capacityAdded : (profile.add 64 capacity cell.capacity.toNat : Outcome TxBuilderError Nat) =
      ok nextCapacity) :
    SumsKept profile provider (outPoints ++ [outPoint]) nextAmount nextCapacity := by
  obtain ⟨amountKept, capacityKept, exact⟩ := kept
  obtain ⟨amountWrapped, amountFits⟩ := Profile.add_eq_ok amountAdded
  obtain ⟨capacityWrapped, capacityFits⟩ := Profile.add_eq_ok capacityAdded
  refine ⟨?_, ?_, fun debug => ?_⟩
  · rw [TransactionDependencyProvider.amountSum_append_of_getCellData foundData, amountWrapped,
      amountKept, Nat.mod_add_mod]
  · rw [TransactionDependencyProvider.capacitySum_append_of_getCell foundCell, capacityWrapped,
      capacityKept, Nat.mod_add_mod]
  rw [TransactionDependencyProvider.amountSum_append_of_getCellData foundData,
    TransactionDependencyProvider.capacitySum_append_of_getCell foundCell]
  obtain ⟨amountBound, capacityBound⟩ := exact debug
  rw [Nat.mod_eq_of_lt amountBound] at amountKept
  rw [Nat.mod_eq_of_lt capacityBound] at capacityKept
  exact ⟨amountKept ▸ amountFits debug, capacityKept ▸ capacityFits debug⟩

/-- Before the first cell both sums are zero. -/
theorem SumsKept.nil {profile : Profile} {provider : TransactionDependencyProvider} :
    SumsKept profile provider [] 0 0 :=
  ⟨rfl, rfl, fun _ => ⟨by simp [TransactionDependencyProvider.amountSum],
    by simp [TransactionDependencyProvider.capacitySum]⟩⟩

/-- The two additions for one more cell return when the build does not check overflow or the
exact sums up to that cell fit: the progress counterpart of `SumsKept.add`. -/
theorem SumsKept.exists_add {profile : Profile} {provider : TransactionDependencyProvider}
    {outPoints : List OutPoint} {outPoint : OutPoint} {cell : CellOutput} {data : Bytes}
    {amount capacity : Nat} (kept : SumsKept profile provider outPoints amount capacity)
    (foundCell : provider.getCell outPoint = .ok cell)
    (foundData : provider.getCellData outPoint = .ok data)
    (fits : profile = .debug → provider.amountSum (outPoints ++ [outPoint]) < 2 ^ 128 ∧
      provider.capacitySum (outPoints ++ [outPoint]) < 2 ^ 64) :
    (∃ nextAmount, (profile.add 128 amount (leValue data) : Outcome TxBuilderError Nat) =
      ok nextAmount) ∧
    ∃ nextCapacity, (profile.add 64 capacity cell.capacity.toNat : Outcome TxBuilderError Nat) =
      ok nextCapacity := by
  obtain ⟨amountKept, capacityKept, exact⟩ := kept
  rw [TransactionDependencyProvider.amountSum_append_of_getCellData foundData,
    TransactionDependencyProvider.capacitySum_append_of_getCell foundCell] at fits
  refine ⟨Profile.exists_add_eq_ok fun debug => ?_, Profile.exists_add_eq_ok fun debug => ?_⟩
  · rw [amountKept, Nat.mod_eq_of_lt (exact debug).1]
    exact (fits debug).1
  · rw [capacityKept, Nat.mod_eq_of_lt (exact debug).2]
    exact (fits debug).2

/-- Sums that fit over a list of out-points fit over each prefix of it. -/
theorem TransactionDependencyProvider.fits_of_append {provider : TransactionDependencyProvider}
    {first second : List OutPoint}
    (fits : provider.amountSum (first ++ second) < 2 ^ 128 ∧
      provider.capacitySum (first ++ second) < 2 ^ 64) :
    provider.amountSum first < 2 ^ 128 ∧ provider.capacitySum first < 2 ^ 64 := by
  rw [amountSum_append, capacitySum_append] at fits
  omega

/-- The amount in a list that starts with a cell whose data was found. -/
theorem TransactionDependencyProvider.amountSum_cons_of_getCellData
    {provider : TransactionDependencyProvider} {outPoints : List OutPoint} {outPoint : OutPoint}
    {data : Bytes} (found : provider.getCellData outPoint = .ok data) :
    provider.amountSum (outPoint :: outPoints) = leValue data + provider.amountSum outPoints := by
  simp [amountSum, amountAt, found]

/-! ## The claim builder -/

/-- `ChequeClaimBuilder`: the cheque inputs, the receiver's token cell, the sender's lock. -/
structure ChequeClaimBuilder where
  inputs : List CellInput
  receiverInput : CellInput
  senderLockScript : Script
deriving DecidableEq, Repr

/-- The variables the claim loop updates. -/
structure ClaimTotals where
  cellDeps : List CellDep
  amount : Nat
  capacity : Nat
  lastLockScript : Option Script
deriving DecidableEq, Repr

namespace ChequeClaimBuilder

/-- One iteration of the claim loop over `self.inputs`. Its type script is read from
`receiver_input_cell`, as in the source, so the comparison with the receiver's type script
always passes. -/
def claimInput (profile : Profile) (resolver : CellDepResolver)
    (provider : TransactionDependencyProvider) (receiverInputCell : CellOutput)
    (receiverTypeScript : Script) (totals : ClaimTotals) (input : CellInput) :
    Outcome TxBuilderError ClaimTotals := do
  let outPoint := input.previousOutput
  let inputCell ← getCell provider outPoint
  let inputData ← getCellData provider outPoint
  let typeScript ← okOr (.invalidParameter ("cheque input missing type script: " ++ input.display))
    receiverInputCell.type
  failIf (inputData.length ≠ 16) (.invalidParameter
    ("invalid cheque input cell data length, expected: 16, got: " ++ toString inputData.length))
  failIf (typeScript ≠ receiverTypeScript) (.invalidParameter
    ("cheque input's type script not same with receiver input's type script: " ++ input.display))
  let inputAmount ← readAmount inputData
  let inputCapacity := inputCell.capacity.toNat
  let lockScript := inputCell.lock
  let lastLockScript ← rememberFirst "all cheque input lock script must be the same"
    totals.lastLockScript lockScript
  let lockCellDep ← resolveCellDep resolver lockScript
  let amount ← profile.add 128 totals.amount inputAmount
  let capacity ← profile.add 64 totals.capacity inputCapacity
  pure ⟨totals.cellDeps.insert lockCellDep, amount, capacity, lastLockScript⟩

/-- `ChequeClaimBuilder::build_base`. -/
def buildBase (chain : Chain) (profile : Profile) (resolver : CellDepResolver)
    (provider : TransactionDependencyProvider) (builder : ChequeClaimBuilder) :
    Outcome TxBuilderError Transaction := do
  failIf builder.inputs.isEmpty (.invalidParameter "empty cheque inputs")
  let inputs := builder.inputs ++ [builder.receiverInput]
  let receiverInputCell ← getCell provider builder.receiverInput.previousOutput
  let receiverInputData ← getCellData provider builder.receiverInput.previousOutput
  let receiverTypeScript ← okOr (.invalidParameter "receiver input missing type script")
    receiverInputCell.type
  failIf (receiverInputData.length ≠ 16) (.invalidParameter
    ("invalid receiver input cell data length, expected: 16, got: " ++
      toString receiverInputData.length))
  let receiverInputAmount ← readAmount receiverInputData
  let receiverTypeCellDep ← resolveCellDep resolver receiverTypeScript
  let receiverLockCellDep ← resolveCellDep resolver receiverInputCell.lock
  let cellDeps := ([] : List CellDep).insert receiverTypeCellDep |>.insert receiverLockCellDep
  let totals ← builder.inputs.foldlM
    (claimInput profile resolver provider receiverInputCell receiverTypeScript)
    ⟨cellDeps, 0, 0, none⟩
  let chequeLockScript ← unwrap totals.lastLockScript
  checkChequeLockArgs chain builder.senderLockScript chequeLockScript
  let receiverOutput := receiverInputCell
  let receiverOutputAmount ← profile.add 128 receiverInputAmount totals.amount
  let receiverOutputData := leBytes 16 receiverOutputAmount
  let senderOutput : CellOutput := ⟨UInt64.ofNat totals.capacity, builder.senderLockScript, none⟩
  pure (Transaction.build totals.cellDeps inputs [receiverOutput, senderOutput]
    [receiverOutputData, []])

section Loop

variable {profile : Profile} {resolver : CellDepResolver} {provider : TransactionDependencyProvider}
  {receiverInputCell : CellOutput} {receiverTypeScript : Script}

/-- What one iteration of the claim loop can do: find the cheque cell and its 16 bytes of data,
pass the type check against the receiver cell, agree with the remembered lock, resolve the
lock's dependency, and add the amount and the capacity. -/
theorem claimInput_eq_ok {totals next : ClaimTotals} {input : CellInput}
    (stepped : claimInput profile resolver provider receiverInputCell receiverTypeScript totals
      input = ok next) :
    ∃ cell data lockCellDep amount capacity,
      provider.getCell input.previousOutput = .ok cell ∧
      provider.getCellData input.previousOutput = .ok data ∧ data.length = 16 ∧
      receiverInputCell.type = some receiverTypeScript ∧
      (totals.lastLockScript = none ∨ totals.lastLockScript = some cell.lock) ∧
      resolver.resolve (ScriptId.ofScript cell.lock) = some lockCellDep ∧
      (profile.add 128 totals.amount (leValue data) : Outcome TxBuilderError Nat) = ok amount ∧
      (profile.add 64 totals.capacity cell.capacity.toNat : Outcome TxBuilderError Nat) =
        ok capacity ∧
      next = ⟨totals.cellDeps.insert lockCellDep, amount, capacity, some cell.lock⟩ := by
  simp only [claimInput, bind_eq_ok, failIf_eq_ok, okOr_eq_ok, getCell_eq_ok, getCellData_eq_ok,
    readAmount_eq_ok, rememberFirst_eq_ok, resolveCellDep_eq_ok, pure_eq, ok.injEq, ne_eq,
    not_not] at stepped
  obtain ⟨cell, foundCell, data, foundData, typeScript, typed, -, long, -, same, _, ⟨-, rfl⟩, _,
    ⟨lastOk, rfl⟩, lockCellDep, resolved, amount, amountAdded, capacity, capacityAdded, rfl⟩ :=
    stepped
  exact ⟨cell, data, lockCellDep, amount, capacity, foundCell, foundData, long, same ▸ typed,
    lastOk, resolved, amountAdded, capacityAdded, rfl⟩

/-- Where one iteration of the claim loop can panic: only at its additions, in a debug build. The
data length is checked before the copy. -/
theorem claimInput_eq_panic {totals : ClaimTotals} {input : CellInput}
    (stepped : claimInput profile resolver provider receiverInputCell receiverTypeScript totals
      input = panic) :
    ∃ cell data, provider.getCell input.previousOutput = .ok cell ∧
      provider.getCellData input.previousOutput = .ok data ∧ profile = .debug ∧
      (2 ^ 128 ≤ totals.amount + leValue data ∨ 2 ^ 64 ≤ totals.capacity + cell.capacity.toNat) := by
  simp only [claimInput, bind_eq_panic, getCell_ne_panic, getCellData_ne_panic, okOr_ne_panic,
    failIf_ne_panic, rememberFirst_ne_panic, resolveCellDep_ne_panic, readAmount_eq_panic,
    Profile.add_eq_panic, getCell_eq_ok, getCellData_eq_ok, okOr_eq_ok, failIf_eq_ok,
    rememberFirst_eq_ok, resolveCellDep_eq_ok, readAmount_eq_ok, pure_eq, reduceCtorEq, false_or,
    and_false, exists_false, or_false, ne_eq, not_not] at stepped
  obtain ⟨cell, foundCell, data, foundData, _, _, _, long, _, _, overflowed⟩ := stepped
  refine ⟨cell, data, foundCell, foundData, ?_⟩
  rcases overflowed with short | ⟨_, ⟨-, rfl⟩, _, _, _, _, amountOver | ⟨_, -, capacityOver⟩⟩
  · exact absurd long short
  · exact ⟨amountOver.1, .inl amountOver.2⟩
  · exact ⟨capacityOver.1, .inr capacityOver.2⟩

/-- What the claim loop keeps over the cheque inputs done so far: each has a cell with 16 bytes
of data whose lock is the remembered one, the sums are kept, and the deps are the starting ones
and the remembered lock's, once each. -/
structure ClaimInvariant (profile : Profile) (resolver : CellDepResolver)
    (provider : TransactionDependencyProvider) (base : List CellDep) (done : List CellInput)
    (totals : ClaimTotals) : Prop where
  sums : SumsKept profile provider (done.map CellInput.previousOutput) totals.amount
    totals.capacity
  cells : ∀ input ∈ done, ∃ cell data, provider.getCell input.previousOutput = .ok cell ∧
    provider.getCellData input.previousOutput = .ok data ∧ data.length = 16 ∧
    totals.lastLockScript = some cell.lock
  distinct : totals.cellDeps.Nodup
  cellDeps : ∀ cellDep, cellDep ∈ totals.cellDeps ↔ cellDep ∈ base ∨
    ∃ lockScript, totals.lastLockScript = some lockScript ∧
      resolver.resolve (ScriptId.ofScript lockScript) = some cellDep

/-- One iteration keeps the claim invariant. -/
theorem claimInput_invariant {base : List CellDep} {done : List CellInput}
    {totals next : ClaimTotals} {input : CellInput}
    (invariant : ClaimInvariant profile resolver provider base done totals)
    (stepped : claimInput profile resolver provider receiverInputCell receiverTypeScript totals
      input = ok next) :
    ClaimInvariant profile resolver provider base (done ++ [input]) next := by
  obtain ⟨sums, cells, distinct, cellDeps⟩ := invariant
  obtain ⟨cell, data, lockCellDep, amount, capacity, foundCell, foundData, long, -, lastOk,
    resolved, amountAdded, capacityAdded, rfl⟩ := claimInput_eq_ok stepped
  refine ⟨?_, ?_, distinct.insert, ?_⟩
  · rw [List.map_append, List.map_singleton]
    exact sums.add foundCell foundData amountAdded capacityAdded
  · intro other member
    rcases List.mem_append.mp member with earlier | latest
    · obtain ⟨otherCell, otherData, foundOther, foundOtherData, otherLong, last⟩ :=
        cells other earlier
      exact ⟨otherCell, otherData, foundOther, foundOtherData, otherLong,
        by rw [remembered_eq lastOk last]⟩
    · rw [List.mem_singleton.mp latest]
      exact ⟨cell, data, foundCell, foundData, long, rfl⟩
  · intro other
    have previous : (∃ lockScript, totals.lastLockScript = some lockScript ∧
        resolver.resolve (ScriptId.ofScript lockScript) = some other) → lockCellDep = other := by
      rintro ⟨lockScript, last, resolvedOther⟩
      rw [remembered_eq lastOk last, resolved] at resolvedOther
      exact Option.some.inj resolvedOther
    rw [List.mem_insert_iff, cellDeps]
    simp only [Option.some.injEq, exists_eq_left', resolved]
    constructor
    · rintro (rfl | inBase | earlier)
      · exact .inr rfl
      · exact .inl inBase
      · exact .inr (previous earlier)
    · rintro (inBase | rfl)
      · exact .inr (.inl inBase)
      · exact .inl rfl

/-- The claim loop starts in the invariant from any duplicate-free starting deps. -/
theorem ClaimInvariant.start {base : List CellDep} (distinct : base.Nodup) :
    ClaimInvariant profile resolver provider base [] ⟨base, 0, 0, none⟩ :=
  ⟨SumsKept.nil, nofun, distinct, fun _ => by simp⟩

/-- The whole claim loop keeps the invariant from any duplicate-free starting deps. -/
theorem claimInvariant_run {base : List CellDep} {inputs : List CellInput} {totals : ClaimTotals}
    (distinct : base.Nodup)
    (ran : inputs.foldlM (claimInput profile resolver provider receiverInputCell receiverTypeScript)
      ⟨base, 0, 0, none⟩ = ok totals) :
    ClaimInvariant profile resolver provider base inputs totals :=
  foldlM_invariant (ClaimInvariant profile resolver provider base) claimInput_invariant
    (ClaimInvariant.start distinct) ran

/-- One iteration of the claim loop takes its step when the cheque cell is found with 16 bytes of
data under the lock remembered so far, or under the first lock, that lock resolves, and in a
debug build the sums up to this input fit. -/
theorem claimInput_progress {base : List CellDep} {done : List CellInput} {totals : ClaimTotals}
    {input : CellInput} {cell : CellOutput} {data : Bytes} {chequeLockScript : Script}
    {lockCellDep : CellDep}
    (invariant : ClaimInvariant profile resolver provider base done totals)
    (last : totals.lastLockScript = none ∨ totals.lastLockScript = some chequeLockScript)
    (typed : receiverInputCell.type = some receiverTypeScript)
    (foundCell : provider.getCell input.previousOutput = .ok cell)
    (foundData : provider.getCellData input.previousOutput = .ok data) (long : data.length = 16)
    (locked : cell.lock = chequeLockScript)
    (resolved : resolver.resolve (ScriptId.ofScript chequeLockScript) = some lockCellDep)
    (fits : profile = .debug →
      provider.amountSum ((done ++ [input]).map CellInput.previousOutput) < 2 ^ 128 ∧
        provider.capacitySum ((done ++ [input]).map CellInput.previousOutput) < 2 ^ 64) :
    ∃ next, claimInput profile resolver provider receiverInputCell receiverTypeScript totals input =
      ok next ∧ next.lastLockScript = some chequeLockScript := by
  rw [List.map_append, List.map_singleton] at fits
  obtain ⟨⟨amount, amountAdded⟩, capacity, capacityAdded⟩ :=
    invariant.sums.exists_add foundCell foundData fits
  subst locked
  refine ⟨⟨totals.cellDeps.insert lockCellDep, amount, capacity, some cell.lock⟩, ?_, rfl⟩
  simp only [claimInput, bind_eq_ok, failIf_eq_ok, okOr_eq_ok, getCell_eq_ok, getCellData_eq_ok,
    readAmount_eq_ok, rememberFirst_eq_ok, resolveCellDep_eq_ok, pure_eq, ok.injEq, ne_eq,
    not_not]
  exact ⟨cell, foundCell, data, foundData, _, typed, (), long, (), rfl, _, ⟨long, rfl⟩, _,
    ⟨last, rfl⟩, lockCellDep, resolved, amount, amountAdded, capacity, capacityAdded, rfl⟩

/-- The claim loop runs to its end over cheque cells that are all found with 16 bytes of data
under one lock that resolves, when in a debug build their sums fit. -/
theorem claimRun_progress {base : List CellDep} {inputs : List CellInput}
    {chequeLockScript : Script} (distinct : base.Nodup)
    (typed : receiverInputCell.type = some receiverTypeScript)
    (cells : ∀ input ∈ inputs, ∃ cell data, provider.getCell input.previousOutput = .ok cell ∧
      provider.getCellData input.previousOutput = .ok data ∧ data.length = 16 ∧
      cell.lock = chequeLockScript)
    (resolved : (resolver.resolve (ScriptId.ofScript chequeLockScript)).isSome)
    (fits : profile = .debug →
      provider.amountSum (inputs.map CellInput.previousOutput) < 2 ^ 128 ∧
        provider.capacitySum (inputs.map CellInput.previousOutput) < 2 ^ 64) :
    ∃ totals, inputs.foldlM (claimInput profile resolver provider receiverInputCell
      receiverTypeScript) ⟨base, 0, 0, none⟩ = ok totals ∧
      ClaimInvariant profile resolver provider base inputs totals := by
  obtain ⟨lockCellDep, resolvedLock⟩ := Option.isSome_iff_exists.mp resolved
  obtain ⟨totals, ran, invariant, -⟩ := foldlM_progress
    (fun done totals => ClaimInvariant profile resolver provider base done totals ∧
      (totals.lastLockScript = none ∨ totals.lastLockScript = some chequeLockScript))
    (fun {done input after totals} split ⟨invariant, last⟩ => by
      obtain ⟨cell, data, foundCell, foundData, long, locked⟩ := cells input (by simp [← split])
      obtain ⟨next, stepped, remembered⟩ := claimInput_progress invariant last typed foundCell
        foundData long locked resolvedLock fun debug => by
          have whole := fits debug
          rw [← split, List.append_cons, List.map_append] at whole
          exact TransactionDependencyProvider.fits_of_append whole
      exact ⟨next, stepped, claimInput_invariant invariant stepped, .inr remembered⟩)
    (List.nil_append inputs) ⟨ClaimInvariant.start distinct, .inl rfl⟩
  exact ⟨totals, ran, invariant⟩

/-- A claim loop over at least one input has resolved the dependency of the lock it remembers:
its last iteration did. -/
theorem claimRun_resolves {base : List CellDep} {inputs : List CellInput} {totals : ClaimTotals}
    {chequeLockScript : Script} (nonempty : inputs ≠ [])
    (ran : inputs.foldlM (claimInput profile resolver provider receiverInputCell
      receiverTypeScript) ⟨base, 0, 0, none⟩ = ok totals)
    (remembered : totals.lastLockScript = some chequeLockScript) :
    (resolver.resolve (ScriptId.ofScript chequeLockScript)).isSome := by
  obtain ⟨done, input, rfl⟩ := (List.eq_nil_or_concat inputs).resolve_left nonempty
  simp only [List.concat_eq_append, List.foldlM_append, List.foldlM_cons, List.foldlM_nil,
    bind_eq_ok, pure_eq, ok.injEq] at ran
  obtain ⟨_, -, next, stepped, rfl⟩ := ran
  obtain ⟨cell, _, lockCellDep, _, _, -, -, -, -, -, resolved, -, -, stored⟩ :=
    claimInput_eq_ok stepped
  rw [stored, Option.some.injEq] at remembered
  rw [← remembered, resolved]
  rfl

end Loop

variable {chain : Chain} {profile : Profile} {resolver : CellDepResolver}
  {provider : TransactionDependencyProvider} {builder : ChequeClaimBuilder} {tx : Transaction}

/-- What a successful claim build does: the guards that passed, the lookups and resolutions that
succeeded, the loop that ran, and the transaction it returns. -/
theorem buildBase_eq_ok (built : buildBase chain profile resolver provider builder = ok tx) :
    ∃ receiverCell receiverData receiverTypeScript receiverTypeCellDep receiverLockCellDep totals
      chequeLockScript receiverOutputAmount,
      builder.inputs ≠ [] ∧
      provider.getCell builder.receiverInput.previousOutput = .ok receiverCell ∧
      provider.getCellData builder.receiverInput.previousOutput = .ok receiverData ∧
      receiverCell.type = some receiverTypeScript ∧ receiverData.length = 16 ∧
      resolver.resolve (ScriptId.ofScript receiverTypeScript) = some receiverTypeCellDep ∧
      resolver.resolve (ScriptId.ofScript receiverCell.lock) = some receiverLockCellDep ∧
      builder.inputs.foldlM (claimInput profile resolver provider receiverCell receiverTypeScript)
        ⟨([] : List CellDep).insert receiverTypeCellDep |>.insert receiverLockCellDep, 0, 0, none⟩ =
          ok totals ∧
      totals.lastLockScript = some chequeLockScript ∧
      checkChequeLockArgs chain builder.senderLockScript chequeLockScript = ok () ∧
      (profile.add 128 (leValue receiverData) totals.amount : Outcome TxBuilderError Nat) =
        ok receiverOutputAmount ∧
      tx = Transaction.build totals.cellDeps (builder.inputs ++ [builder.receiverInput])
        [receiverCell, ⟨UInt64.ofNat totals.capacity, builder.senderLockScript, none⟩]
        [leBytes 16 receiverOutputAmount, []] := by
  simp only [buildBase, failIf_bind_eq_ok, bind_eq_ok, getCell_eq_ok, getCellData_eq_ok,
    okOr_eq_ok, readAmount_eq_ok, resolveCellDep_eq_ok, unwrap_eq_ok, pure_eq, ok.injEq,
    List.isEmpty_iff, ne_eq, not_not, failIf_eq_ok] at built
  obtain ⟨-, nonempty, receiverCell, foundCell, receiverData, foundData, receiverTypeScript, typed,
    -, long, _, ⟨-, rfl⟩, receiverTypeCellDep, resolvedType, receiverLockCellDep, resolvedLock, totals,
    ran, chequeLockScript, remembered, ⟨⟩, checked, receiverOutputAmount, added, rfl⟩ := built
  exact ⟨receiverCell, receiverData, receiverTypeScript, receiverTypeCellDep, receiverLockCellDep,
    totals, chequeLockScript, receiverOutputAmount, nonempty, foundCell, foundData, typed, long,
    resolvedType, resolvedLock, ran, remembered, checked, added, rfl⟩

/-- The remembered lock is the lock of every cheque cell. -/
theorem ClaimInvariant.lock {base : List CellDep} {done : List CellInput} {totals : ClaimTotals}
    {chequeLockScript : Script} (invariant : ClaimInvariant profile resolver provider base done totals)
    (remembered : totals.lastLockScript = some chequeLockScript) :
    ∀ input ∈ done, ∃ cell data, provider.getCell input.previousOutput = .ok cell ∧
      provider.getCellData input.previousOutput = .ok data ∧ data.length = 16 ∧
      cell.lock = chequeLockScript := by
  intro input member
  obtain ⟨cell, data, foundCell, foundData, long, last⟩ := invariant.cells input member
  rw [remembered, Option.some.injEq] at last
  exact ⟨cell, data, foundCell, foundData, long, last.symm⟩

end ChequeClaimBuilder

namespace Sample

/-- A 32-byte hash of one repeated byte. -/
def tagHash (tag : UInt8) : Byte32 := ⟨List.replicate 32 tag, List.length_replicate 32 tag⟩

/-- A script whose code hash is `tagHash tag`. -/
def tagScript (tag : UInt8) (args : Bytes) : Script := ⟨tagHash tag, .type, args⟩

/-- Output 0 of the transaction `tagHash tag`. -/
def tagOutPoint (tag : UInt8) : OutPoint := ⟨tagHash tag, 0⟩

/-- A chain whose hash maps everything to zeros. -/
def zeroHashChain : Chain := ⟨fun _ => tagHash 0, 0⟩

/-- A resolver with a code cell for every script, at output 0 of its code hash. -/
def codeResolver : CellDepResolver := ⟨fun scriptId => some ⟨⟨scriptId.codeHash, 0⟩, .code⟩⟩

/-- The sender's lock; its hash under `zeroHashChain` starts with 20 zero bytes. -/
def senderLock : Script := tagScript 5 []

/-- A cheque lock whose args end with the sender's lock-hash prefix. -/
def chequeLock : Script := tagScript 3 (List.replicate 20 9 ++ List.replicate 20 0)

/-- A provider over a table of cells and their data. -/
def cellProvider (cells : List (OutPoint × CellOutput × Bytes)) : TransactionDependencyProvider :=
  ⟨fun outPoint => match cells.lookup outPoint with
      | some (cell, _) => .ok cell
      | none => .error ⟨"unknown out point"⟩,
    fun outPoint => match cells.lookup outPoint with
      | some (_, data) => .ok data
      | none => .error ⟨"unknown out point"⟩⟩

/-- The receiver's token cell, of type `tagScript 2`, holding `amount`, and one cheque cell of
type script `chequeType` holding `chequeAmount`. -/
def claimCells (amount : Nat) (chequeType : Option Script) (chequeAmount : Nat) :
    List (OutPoint × CellOutput × Bytes) :=
  [(tagOutPoint 10, ⟨142, tagScript 1 [], some (tagScript 2 [])⟩, leBytes 16 amount),
    (tagOutPoint 11, ⟨162, chequeLock, chequeType⟩, leBytes 16 chequeAmount)]

/-- The claim of the one cheque into the receiver's cell. -/
def claim : ChequeClaimBuilder := ⟨[⟨0, tagOutPoint 11⟩], ⟨0, tagOutPoint 10⟩, senderLock⟩

/-- The cells of a claim of a cheque of 100 into a receiver cell holding 5, both of type
`tagScript 2`. -/
def claimProvider : TransactionDependencyProvider :=
  cellProvider (claimCells 5 (some (tagScript 2 [])) 100)

end Sample

section Claim

open ChequeClaimBuilder

variable {chain : Chain} {profile : Profile} {resolver : CellDepResolver}
  {provider : TransactionDependencyProvider} {builder : ChequeClaimBuilder} {tx : Transaction}

/-- A cheque cell without a type script is claimed: the check that a cheque cell has one reads
the receiver's cell. -/
theorem claimBuilder_accepts_typeless_cheque :
    (Sample.cellProvider (Sample.claimCells 5 none 100)).getCell (Sample.tagOutPoint 11) =
        .ok ⟨162, Sample.chequeLock, none⟩ ∧
      ∃ tx, ChequeClaimBuilder.buildBase Sample.zeroHashChain .debug Sample.codeResolver
        (Sample.cellProvider (Sample.claimCells 5 none 100)) Sample.claim = ok tx :=
  ⟨rfl, _, rfl⟩

/-- A successful claim consumes the cheques and then the receiver's cell, in the caller's order.
It gives the receiver cell back with its amount plus the cheques' amounts as data, and the
cheques' capacity to the sender in a cell without a type script. The outputs hold the exact
sums reduced to `u128` and `u64`; a debug build gets here only when the exact sums fit. -/
theorem ChequeClaimBuilder.buildBase_receiver_gets_sum
    (built : buildBase chain profile resolver provider builder = ok tx) :
    ∃ receiverCell receiverData,
      provider.getCell builder.receiverInput.previousOutput = .ok receiverCell ∧
      provider.getCellData builder.receiverInput.previousOutput = .ok receiverData ∧
      tx.raw.inputs = builder.inputs ++ [builder.receiverInput] ∧
      tx.raw.outputs = [receiverCell,
        ⟨UInt64.ofNat (provider.capacitySum (builder.inputs.map CellInput.previousOutput)),
          builder.senderLockScript, none⟩] ∧
      tx.raw.outputsData = [leBytes 16 (leValue receiverData +
        provider.amountSum (builder.inputs.map CellInput.previousOutput)), []] ∧
      (profile = .debug →
        leValue receiverData + provider.amountSum (builder.inputs.map CellInput.previousOutput) <
          2 ^ 128 ∧ provider.capacitySum (builder.inputs.map CellInput.previousOutput) < 2 ^ 64) := by
  obtain ⟨receiverCell, receiverData, _, _, _, totals, _, receiverOutputAmount, -, foundCell,
    foundData, -, -, -, -, ran, -, -, added, rfl⟩ := buildBase_eq_ok built
  obtain ⟨⟨amountKept, capacityKept, exact⟩, -, -, -⟩ :=
    claimInvariant_run List.nodup_nil.insert.insert ran
  obtain ⟨outputWrapped, outputFits⟩ := Profile.add_eq_ok added
  refine ⟨receiverCell, receiverData, foundCell, foundData, rfl, ?_, ?_, fun debug => ?_⟩
  · rw [Transaction.build, capacityKept, uint64_ofNat_mod]
  · simp only [Transaction.build, outputWrapped, amountKept, Nat.add_mod_mod]
    exact congrArg (· :: [[]]) (leBytes_mod 16 _)
  · obtain ⟨amountBound, capacityBound⟩ := exact debug
    rw [amountKept, Nat.mod_eq_of_lt amountBound] at outputFits
    exact ⟨outputFits debug, capacityBound⟩

/-- The sample: a claim of a cheque of 100 into a receiver cell holding 5. -/
theorem buildBase_receiver_gets_sum_sample :
    ∃ tx, ChequeClaimBuilder.buildBase Sample.zeroHashChain .debug Sample.codeResolver
        Sample.claimProvider Sample.claim = ok tx ∧
      ∃ receiverCell receiverData,
        Sample.claimProvider.getCell Sample.claim.receiverInput.previousOutput = .ok receiverCell ∧
        Sample.claimProvider.getCellData Sample.claim.receiverInput.previousOutput =
          .ok receiverData ∧
        tx.raw.inputs = Sample.claim.inputs ++ [Sample.claim.receiverInput] ∧
        tx.raw.outputs = [receiverCell, ⟨UInt64.ofNat (Sample.claimProvider.capacitySum
          (Sample.claim.inputs.map CellInput.previousOutput)), Sample.claim.senderLockScript, none⟩] ∧
        tx.raw.outputsData = [leBytes 16 (leValue receiverData +
          Sample.claimProvider.amountSum (Sample.claim.inputs.map CellInput.previousOutput)), []] ∧
        (Profile.debug = .debug → leValue receiverData +
            Sample.claimProvider.amountSum (Sample.claim.inputs.map CellInput.previousOutput) <
              2 ^ 128 ∧
          Sample.claimProvider.capacitySum (Sample.claim.inputs.map CellInput.previousOutput) <
            2 ^ 64) :=
  have built : ChequeClaimBuilder.buildBase Sample.zeroHashChain .debug Sample.codeResolver
      Sample.claimProvider Sample.claim = ok _ := rfl
  ⟨_, built, ChequeClaimBuilder.buildBase_receiver_gets_sum built⟩

/-- In a release build the receiver's amount wraps: a receiver cell holding `u128::MAX` claims a
cheque of 1 and gets an output holding 0, where a debug build panics. -/
theorem claimBuilder_release_wraps_amount :
    (∃ tx, ChequeClaimBuilder.buildBase Sample.zeroHashChain .release Sample.codeResolver
        (Sample.cellProvider (Sample.claimCells (2 ^ 128 - 1) (some (Sample.tagScript 2 [])) 1))
        Sample.claim = ok tx ∧ tx.raw.outputsData = [leBytes 16 0, []]) ∧
      ChequeClaimBuilder.buildBase Sample.zeroHashChain .debug Sample.codeResolver
        (Sample.cellProvider (Sample.claimCells (2 ^ 128 - 1) (some (Sample.tagScript 2 [])) 1))
        Sample.claim = panic :=
  ⟨⟨_, rfl, rfl⟩, rfl⟩

/-- The cell deps of a successful claim are the deps of the receiver cell's type and lock scripts
and of the cheque cells' common lock, each once. The cheque cells' type scripts are not
resolved. -/
theorem ChequeClaimBuilder.buildBase_cellDeps
    (built : buildBase chain profile resolver provider builder = ok tx) :
    tx.raw.cellDeps.Nodup ∧
      ∃ receiverCell chequeLockScript,
        provider.getCell builder.receiverInput.previousOutput = .ok receiverCell ∧
        (∀ input ∈ builder.inputs, ∃ cell, provider.getCell input.previousOutput = .ok cell ∧
          cell.lock = chequeLockScript) ∧
        ∀ cellDep, cellDep ∈ tx.raw.cellDeps ↔ ∃ script,
          (receiverCell.type = some script ∨ script = receiverCell.lock ∨
            script = chequeLockScript) ∧
          resolver.resolve (ScriptId.ofScript script) = some cellDep := by
  obtain ⟨receiverCell, _, receiverTypeScript, receiverTypeCellDep, receiverLockCellDep, totals,
    chequeLockScript, _, -, foundCell, -, typed, -, resolvedType, resolvedLock, ran, remembered,
    -, -, rfl⟩ := buildBase_eq_ok built
  have invariant := claimInvariant_run List.nodup_nil.insert.insert ran
  refine ⟨invariant.distinct, receiverCell, chequeLockScript, foundCell, fun input member => ?_,
    fun cellDep => ?_⟩
  · obtain ⟨cell, -, found, -, -, locked⟩ := invariant.lock remembered input member
    exact ⟨cell, found, locked⟩
  · rw [Transaction.build, invariant.cellDeps, remembered]
    simp only [List.mem_insert_iff, List.not_mem_nil, or_false, Option.some.injEq,
      exists_eq_left', typed, or_and_right, exists_or, exists_eq_left, resolvedType, resolvedLock]
    rw [@eq_comm _ receiverTypeCellDep, @eq_comm _ receiverLockCellDep]
    tauto

/-- The sample: a claim of a cheque of 100 into a receiver cell holding 5, each script's code
in its own cell. -/
theorem buildBase_cellDeps_sample :
    ∃ tx, ChequeClaimBuilder.buildBase Sample.zeroHashChain .debug Sample.codeResolver
        Sample.claimProvider Sample.claim = ok tx ∧
      tx.raw.cellDeps.Nodup ∧ ∃ receiverCell chequeLockScript,
        Sample.claimProvider.getCell Sample.claim.receiverInput.previousOutput = .ok receiverCell ∧
        (∀ input ∈ Sample.claim.inputs, ∃ cell,
          Sample.claimProvider.getCell input.previousOutput = .ok cell ∧
            cell.lock = chequeLockScript) ∧
        ∀ cellDep, cellDep ∈ tx.raw.cellDeps ↔ ∃ script,
          (receiverCell.type = some script ∨ script = receiverCell.lock ∨
            script = chequeLockScript) ∧
          Sample.codeResolver.resolve (ScriptId.ofScript script) = some cellDep :=
  have built : ChequeClaimBuilder.buildBase Sample.zeroHashChain .debug Sample.codeResolver
      Sample.claimProvider Sample.claim = ok _ := rfl
  ⟨_, built, ChequeClaimBuilder.buildBase_cellDeps built⟩

/-- A cheque cell whose type script differs from the receiver's is claimed, and the dependency of
its type script is not among the cell deps: the loop reads the type script of the receiver's
cell in place of the cheque's. -/
theorem claimBuilder_omits_cheque_type_dep :
    ∃ tx, ChequeClaimBuilder.buildBase Sample.zeroHashChain .debug Sample.codeResolver
        (Sample.cellProvider (Sample.claimCells 5 (some (Sample.tagScript 4 [])) 100)) Sample.claim =
          ok tx ∧
      ⟨0, Sample.tagOutPoint 11⟩ ∈ tx.raw.inputs ∧
      (Sample.cellProvider (Sample.claimCells 5 (some (Sample.tagScript 4 [])) 100)).getCell
          (Sample.tagOutPoint 11) = .ok ⟨162, Sample.chequeLock, some (Sample.tagScript 4 [])⟩ ∧
      Sample.codeResolver.resolve (ScriptId.ofScript (Sample.tagScript 4 [])) =
        some ⟨Sample.tagOutPoint 4, .code⟩ ∧
      (⟨Sample.tagOutPoint 4, .code⟩ : CellDep) ∉ tx.raw.cellDeps :=
  ⟨_, rfl, by decide, rfl, rfl, by decide⟩

/-- The claim builder never panics in a release build. In a debug build it panics only when the
exact total amount, the receiver's and the cheques' together, reaches `2 ^ 128`, or the exact
total capacity of the cheques reaches `2 ^ 64`: every data length is checked before its copy,
and the remembered lock is unwrapped after a loop over at least one cheque. -/
theorem ChequeClaimBuilder.buildBase_panics_only_on_overflow
    (panicked : buildBase chain profile resolver provider builder = panic) :
    profile = .debug ∧ ∃ receiverData,
      provider.getCellData builder.receiverInput.previousOutput = .ok receiverData ∧
      (2 ^ 128 ≤ leValue receiverData +
          provider.amountSum (builder.inputs.map CellInput.previousOutput) ∨
        2 ^ 64 ≤ provider.capacitySum (builder.inputs.map CellInput.previousOutput)) := by
  simp only [buildBase, bind_eq_panic, failIf_ne_panic, getCell_ne_panic, getCellData_ne_panic,
    okOr_ne_panic, readAmount_eq_panic, resolveCellDep_ne_panic, unwrap_eq_panic,
    checkChequeLockArgs_ne_panic, Profile.add_eq_panic, failIf_eq_ok, getCell_eq_ok,
    getCellData_eq_ok, okOr_eq_ok, readAmount_eq_ok, resolveCellDep_eq_ok, unwrap_eq_ok, pure_eq,
    reduceCtorEq, false_or, and_false, exists_false, or_false, List.isEmpty_iff, ne_eq,
    not_not] at panicked
  obtain ⟨_, nonempty, _, _, receiverData, foundData, _, _, _, long, rest⟩ := panicked
  rcases rest with short | ⟨_, ⟨-, rfl⟩, _, _, _, _,
    loopPanicked | ⟨totals, ran, unset | ⟨_, _, _, _, debug, over⟩⟩⟩
  · exact absurd long short
  · obtain ⟨done, input, after, middle, split, ranDone, stepped⟩ := foldlM_eq_panic loopPanicked
    obtain ⟨cell, data, foundCell, foundInputData, debug, over⟩ := claimInput_eq_panic stepped
    obtain ⟨amountKept, capacityKept, exact⟩ :=
      (claimInvariant_run List.nodup_nil.insert.insert ranDone).sums
    obtain ⟨amountBound, capacityBound⟩ := exact debug
    rw [Nat.mod_eq_of_lt amountBound] at amountKept
    rw [Nat.mod_eq_of_lt capacityBound] at capacityKept
    have amountSplit : provider.amountSum (builder.inputs.map CellInput.previousOutput) =
        provider.amountSum (done.map CellInput.previousOutput) + leValue data +
          provider.amountSum (after.map CellInput.previousOutput) := by
      rw [split, List.map_append, List.map_cons, List.append_cons,
        TransactionDependencyProvider.amountSum_append,
        TransactionDependencyProvider.amountSum_append_of_getCellData foundInputData]
    have capacitySplit : provider.capacitySum (builder.inputs.map CellInput.previousOutput) =
        provider.capacitySum (done.map CellInput.previousOutput) + cell.capacity.toNat +
          provider.capacitySum (after.map CellInput.previousOutput) := by
      rw [split, List.map_append, List.map_cons, List.append_cons,
        TransactionDependencyProvider.capacitySum_append,
        TransactionDependencyProvider.capacitySum_append_of_getCell foundCell]
    exact ⟨debug, receiverData, foundData, by omega⟩
  · obtain ⟨input, member⟩ := List.exists_mem_of_ne_nil _ nonempty
    obtain ⟨_, _, _, _, _, lastLock⟩ :=
      (claimInvariant_run List.nodup_nil.insert.insert ran).cells input member
    simp [lastLock] at unset
  · obtain ⟨amountKept, -, exact⟩ := (claimInvariant_run List.nodup_nil.insert.insert ran).sums
    rw [amountKept, Nat.mod_eq_of_lt (exact debug).1] at over
    exact ⟨debug, receiverData, foundData, .inl over⟩

/-- A debug build over a receiver cell holding `u128::MAX` and a cheque of 1 panics, and the exact
amount it would need is past `u128`. -/
theorem buildBase_panics_only_on_overflow_sample :
    ChequeClaimBuilder.buildBase Sample.zeroHashChain .debug Sample.codeResolver
        (Sample.cellProvider (Sample.claimCells (2 ^ 128 - 1) (some (Sample.tagScript 2 [])) 1))
        Sample.claim = panic ∧
      Profile.debug = .debug ∧ ∃ receiverData,
        (Sample.cellProvider (Sample.claimCells (2 ^ 128 - 1) (some (Sample.tagScript 2 [])) 1)).getCellData
            Sample.claim.receiverInput.previousOutput = .ok receiverData ∧
        (2 ^ 128 ≤ leValue receiverData +
            (Sample.cellProvider (Sample.claimCells (2 ^ 128 - 1) (some (Sample.tagScript 2 [])) 1)).amountSum
              (Sample.claim.inputs.map CellInput.previousOutput) ∨
          2 ^ 64 ≤
            (Sample.cellProvider (Sample.claimCells (2 ^ 128 - 1) (some (Sample.tagScript 2 [])) 1)).capacitySum
              (Sample.claim.inputs.map CellInput.previousOutput)) :=
  have panicked : ChequeClaimBuilder.buildBase Sample.zeroHashChain .debug Sample.codeResolver
      (Sample.cellProvider (Sample.claimCells (2 ^ 128 - 1) (some (Sample.tagScript 2 [])) 1))
      Sample.claim = panic := rfl
  ⟨panicked, ChequeClaimBuilder.buildBase_panics_only_on_overflow panicked⟩

end Claim

/-! ## The withdraw builder -/

/-- `ChequeWithdrawBuilder`: the cheque cells' out-points and the sender's lock. -/
structure ChequeWithdrawBuilder where
  outPoints : List OutPoint
  senderLockScript : Script
deriving DecidableEq, Repr

/-- The variables the withdraw loop updates. -/
structure WithdrawTotals where
  inputs : List CellInput
  lastLockScript : Option Script
  lastTypeScript : Option Script
  amount : Nat
  capacity : Nat
deriving DecidableEq, Repr

namespace ChequeWithdrawBuilder

/-- One iteration of the withdraw loop over `self.out_points`. The data is copied into a
16-byte buffer without a length check, so other lengths panic. -/
def withdrawInput (chain : Chain) (profile : Profile) (provider : TransactionDependencyProvider)
    (totals : WithdrawTotals) (outPoint : OutPoint) : Outcome TxBuilderError WithdrawTotals := do
  let inputCell ← getCell provider outPoint
  let inputData ← getCellData provider outPoint
  let lockScript := inputCell.lock
  let typeScript ← okOr
    (.invalidParameter ("cheque input missing type script: " ++ outPoint.display)) inputCell.type
  let lastLockScript ← rememberFirst "all cheque input lock script must be the same"
    totals.lastLockScript lockScript
  let lastTypeScript ← rememberFirst "all cheque input type script must be the same"
    totals.lastTypeScript typeScript
  let inputAmount ← readAmount inputData
  let inputCapacity := inputCell.capacity.toNat
  let input := CellInput.new outPoint chain.chequeCellSince
  let capacity ← profile.add 64 totals.capacity inputCapacity
  let amount ← profile.add 128 totals.amount inputAmount
  pure ⟨totals.inputs ++ [input], lastLockScript, lastTypeScript, amount, capacity⟩

/-- `ChequeWithdrawBuilder::build_base`. -/
def buildBase (chain : Chain) (profile : Profile) (resolver : CellDepResolver)
    (provider : TransactionDependencyProvider) (builder : ChequeWithdrawBuilder) :
    Outcome TxBuilderError Transaction := do
  failIf builder.outPoints.isEmpty (.invalidParameter "empty withdraw inputs")
  let totals ← builder.outPoints.foldlM (withdrawInput chain profile provider)
    ⟨[], none, none, 0, 0⟩
  let chequeLockScript ← unwrap totals.lastLockScript
  let typeScript ← unwrap totals.lastTypeScript
  let lockCellDep ← resolveCellDep resolver chequeLockScript
  let typeCellDep ← resolveCellDep resolver typeScript
  checkChequeLockArgs chain builder.senderLockScript chequeLockScript
  let senderOutput : CellOutput :=
    ⟨UInt64.ofNat totals.capacity, builder.senderLockScript, some typeScript⟩
  let senderOutputData := leBytes 16 totals.amount
  pure (Transaction.build [lockCellDep, typeCellDep] totals.inputs [senderOutput]
    [senderOutputData])

section Loop

variable {chain : Chain} {profile : Profile} {provider : TransactionDependencyProvider}

/-- What one iteration of the withdraw loop can do: find the cheque cell, which has a type
script, and its data; agree with the remembered lock and type script; read 16 bytes of data;
and add the capacity and the amount. -/
theorem withdrawInput_eq_ok {totals next : WithdrawTotals} {outPoint : OutPoint}
    (stepped : withdrawInput chain profile provider totals outPoint = ok next) :
    ∃ cell data typeScript capacity amount,
      provider.getCell outPoint = .ok cell ∧ provider.getCellData outPoint = .ok data ∧
      cell.type = some typeScript ∧
      (totals.lastLockScript = none ∨ totals.lastLockScript = some cell.lock) ∧
      (totals.lastTypeScript = none ∨ totals.lastTypeScript = some typeScript) ∧
      data.length = 16 ∧
      (profile.add 64 totals.capacity cell.capacity.toNat : Outcome TxBuilderError Nat) =
        ok capacity ∧
      (profile.add 128 totals.amount (leValue data) : Outcome TxBuilderError Nat) = ok amount ∧
      next = ⟨totals.inputs ++ [CellInput.new outPoint chain.chequeCellSince], some cell.lock,
        some typeScript, amount, capacity⟩ := by
  simp only [withdrawInput, bind_eq_ok, okOr_eq_ok, getCell_eq_ok, getCellData_eq_ok,
    readAmount_eq_ok, rememberFirst_eq_ok, pure_eq, ok.injEq] at stepped
  obtain ⟨cell, foundCell, data, foundData, typeScript, typed, _, ⟨lockOk, rfl⟩, _, ⟨typeOk, rfl⟩,
    _, ⟨long, rfl⟩, capacity, capacityAdded, amount, amountAdded, rfl⟩ := stepped
  exact ⟨cell, data, typeScript, capacity, amount, foundCell, foundData, typed, lockOk, typeOk, long,
    capacityAdded, amountAdded, rfl⟩

/-- Where one iteration of the withdraw loop can panic: at the copy of data that is not 16
bytes, or, in a debug build, at a sum past its width. -/
theorem withdrawInput_eq_panic {totals : WithdrawTotals} {outPoint : OutPoint}
    (stepped : withdrawInput chain profile provider totals outPoint = panic) :
    ∃ cell data, provider.getCell outPoint = .ok cell ∧ provider.getCellData outPoint = .ok data ∧
      (data.length ≠ 16 ∨ profile = .debug ∧
        (2 ^ 64 ≤ totals.capacity + cell.capacity.toNat ∨ 2 ^ 128 ≤ totals.amount + leValue data)) := by
  simp only [withdrawInput, bind_eq_panic, getCell_ne_panic, getCellData_ne_panic, okOr_ne_panic,
    rememberFirst_ne_panic, readAmount_eq_panic, Profile.add_eq_panic, getCell_eq_ok,
    getCellData_eq_ok, okOr_eq_ok, rememberFirst_eq_ok, readAmount_eq_ok, pure_eq, reduceCtorEq,
    false_or, and_false, exists_false, or_false] at stepped
  obtain ⟨cell, foundCell, data, foundData, _, _, _, _, _, _, overflowed⟩ := stepped
  refine ⟨cell, data, foundCell, foundData, ?_⟩
  rcases overflowed with short | ⟨_, ⟨-, rfl⟩, capacityOver | ⟨_, -, amountOver⟩⟩
  · exact .inl short
  · exact .inr ⟨capacityOver.1, .inl capacityOver.2⟩
  · exact .inr ⟨amountOver.1, .inr amountOver.2⟩

/-- What the withdraw loop keeps over the out-points done so far: one input each with the
cheque `since`, in order; each has a cell with a type script and 16 bytes of data, whose lock
and type script are the remembered ones; and the sums are kept. -/
structure WithdrawInvariant (chain : Chain) (profile : Profile)
    (provider : TransactionDependencyProvider) (done : List OutPoint) (totals : WithdrawTotals) :
    Prop where
  sums : SumsKept profile provider done totals.amount totals.capacity
  inputs : totals.inputs = done.map (CellInput.new · chain.chequeCellSince)
  cells : ∀ outPoint ∈ done, ∃ cell data typeScript, provider.getCell outPoint = .ok cell ∧
    provider.getCellData outPoint = .ok data ∧ data.length = 16 ∧
    totals.lastLockScript = some cell.lock ∧ cell.type = some typeScript ∧
    totals.lastTypeScript = some typeScript

/-- One iteration keeps the withdraw invariant. -/
theorem withdrawInput_invariant {done : List OutPoint} {totals next : WithdrawTotals}
    {outPoint : OutPoint} (invariant : WithdrawInvariant chain profile provider done totals)
    (stepped : withdrawInput chain profile provider totals outPoint = ok next) :
    WithdrawInvariant chain profile provider (done ++ [outPoint]) next := by
  obtain ⟨sums, inputs, cells⟩ := invariant
  obtain ⟨cell, data, typeScript, capacity, amount, foundCell, foundData, typed, lockOk, typeOk,
    long, capacityAdded, amountAdded, rfl⟩ := withdrawInput_eq_ok stepped
  refine ⟨sums.add foundCell foundData amountAdded capacityAdded, by simp [inputs], ?_⟩
  intro other member
  rcases List.mem_append.mp member with earlier | latest
  · obtain ⟨otherCell, otherData, otherType, foundOther, foundOtherData, otherLong, lastLock,
      otherTyped, lastType⟩ := cells other earlier
    refine ⟨otherCell, otherData, otherType, foundOther, foundOtherData, otherLong, ?_, otherTyped,
      ?_⟩
    · rw [remembered_eq lockOk lastLock]
    · rw [remembered_eq typeOk lastType]
  · rw [List.mem_singleton.mp latest]
    exact ⟨cell, data, typeScript, foundCell, foundData, long, rfl, typed, rfl⟩

/-- The withdraw loop starts in the invariant. -/
theorem WithdrawInvariant.start :
    WithdrawInvariant chain profile provider [] ⟨[], none, none, 0, 0⟩ :=
  ⟨SumsKept.nil, rfl, nofun⟩

/-- The whole withdraw loop keeps the invariant. -/
theorem withdrawInvariant_run {outPoints : List OutPoint} {totals : WithdrawTotals}
    (ran : outPoints.foldlM (withdrawInput chain profile provider) ⟨[], none, none, 0, 0⟩ =
      ok totals) :
    WithdrawInvariant chain profile provider outPoints totals :=
  foldlM_invariant (WithdrawInvariant chain profile provider) withdrawInput_invariant
    WithdrawInvariant.start ran

/-- One iteration of the withdraw loop takes its step when the cheque cell is found with 16 bytes
of data, under the lock and with the type script remembered so far or as the first ones, and in
a debug build the sums up to this cell fit. -/
theorem withdrawInput_progress {done : List OutPoint} {totals : WithdrawTotals}
    {outPoint : OutPoint} {cell : CellOutput} {data : Bytes} {chequeLockScript typeScript : Script}
    (invariant : WithdrawInvariant chain profile provider done totals)
    (lastLock : totals.lastLockScript = none ∨ totals.lastLockScript = some chequeLockScript)
    (lastType : totals.lastTypeScript = none ∨ totals.lastTypeScript = some typeScript)
    (foundCell : provider.getCell outPoint = .ok cell)
    (foundData : provider.getCellData outPoint = .ok data) (long : data.length = 16)
    (locked : cell.lock = chequeLockScript) (typed : cell.type = some typeScript)
    (fits : profile = .debug → provider.amountSum (done ++ [outPoint]) < 2 ^ 128 ∧
      provider.capacitySum (done ++ [outPoint]) < 2 ^ 64) :
    ∃ next, withdrawInput chain profile provider totals outPoint = ok next ∧
      next.lastLockScript = some chequeLockScript ∧ next.lastTypeScript = some typeScript := by
  obtain ⟨⟨amount, amountAdded⟩, capacity, capacityAdded⟩ :=
    invariant.sums.exists_add foundCell foundData fits
  subst locked
  refine ⟨⟨totals.inputs ++ [CellInput.new outPoint chain.chequeCellSince], some cell.lock,
    some typeScript, amount, capacity⟩, ?_, rfl, rfl⟩
  simp only [withdrawInput, bind_eq_ok, okOr_eq_ok, getCell_eq_ok, getCellData_eq_ok,
    readAmount_eq_ok, rememberFirst_eq_ok, pure_eq, ok.injEq]
  exact ⟨cell, foundCell, data, foundData, typeScript, typed, _, ⟨lastLock, rfl⟩, _,
    ⟨lastType, rfl⟩, _, ⟨long, rfl⟩, capacity, capacityAdded, amount, amountAdded, rfl⟩

/-- The withdraw loop runs to its end over cheque cells that are all found with 16 bytes of data,
one lock and one type script, when in a debug build their sums fit. -/
theorem withdrawRun_progress {outPoints : List OutPoint} {chequeLockScript typeScript : Script}
    (cells : ∀ outPoint ∈ outPoints, ∃ cell data, provider.getCell outPoint = .ok cell ∧
      provider.getCellData outPoint = .ok data ∧ data.length = 16 ∧
      cell.lock = chequeLockScript ∧ cell.type = some typeScript)
    (fits : profile = .debug → provider.amountSum outPoints < 2 ^ 128 ∧
      provider.capacitySum outPoints < 2 ^ 64) :
    ∃ totals, outPoints.foldlM (withdrawInput chain profile provider) ⟨[], none, none, 0, 0⟩ =
      ok totals ∧ WithdrawInvariant chain profile provider outPoints totals := by
  obtain ⟨totals, ran, invariant, -⟩ := foldlM_progress
    (fun done totals => WithdrawInvariant chain profile provider done totals ∧
      (totals.lastLockScript = none ∨ totals.lastLockScript = some chequeLockScript) ∧
      (totals.lastTypeScript = none ∨ totals.lastTypeScript = some typeScript))
    (fun {done outPoint after totals} split ⟨invariant, lastLock, lastType⟩ => by
      obtain ⟨cell, data, foundCell, foundData, long, locked, typed⟩ :=
        cells outPoint (by simp [← split])
      obtain ⟨next, stepped, rememberedLock, rememberedType⟩ := withdrawInput_progress invariant
        lastLock lastType foundCell foundData long locked typed fun debug => by
          have whole := fits debug
          rw [← split, List.append_cons] at whole
          exact TransactionDependencyProvider.fits_of_append whole
      exact ⟨next, stepped, withdrawInput_invariant invariant stepped, .inr rememberedLock,
        .inr rememberedType⟩)
    (List.nil_append outPoints) ⟨WithdrawInvariant.start, .inl rfl, .inl rfl⟩
  exact ⟨totals, ran, invariant⟩

/-- The remembered lock and type script are those of every cheque cell. -/
theorem WithdrawInvariant.scripts {done : List OutPoint} {totals : WithdrawTotals}
    {chequeLockScript typeScript : Script}
    (invariant : WithdrawInvariant chain profile provider done totals)
    (rememberedLock : totals.lastLockScript = some chequeLockScript)
    (rememberedType : totals.lastTypeScript = some typeScript) :
    ∀ outPoint ∈ done, ∃ cell data, provider.getCell outPoint = .ok cell ∧
      provider.getCellData outPoint = .ok data ∧ data.length = 16 ∧
      cell.lock = chequeLockScript ∧ cell.type = some typeScript := by
  intro outPoint member
  obtain ⟨cell, data, cellType, foundCell, foundData, long, lastLock, typed, lastType⟩ :=
    invariant.cells outPoint member
  rw [rememberedLock, Option.some.injEq] at lastLock
  rw [rememberedType, Option.some.injEq] at lastType
  exact ⟨cell, data, foundCell, foundData, long, lastLock.symm, lastType ▸ typed⟩

end Loop

variable {chain : Chain} {profile : Profile} {resolver : CellDepResolver}
  {provider : TransactionDependencyProvider} {builder : ChequeWithdrawBuilder} {tx : Transaction}

/-- What a successful withdraw build does: the guard that passed, the loop that ran, the two
scripts it remembered and their deps, the final check, and the transaction it returns. -/
theorem buildBase_eq_ok (built : buildBase chain profile resolver provider builder = ok tx) :
    ∃ totals chequeLockScript typeScript lockCellDep typeCellDep,
      builder.outPoints ≠ [] ∧
      builder.outPoints.foldlM (withdrawInput chain profile provider) ⟨[], none, none, 0, 0⟩ =
        ok totals ∧
      totals.lastLockScript = some chequeLockScript ∧ totals.lastTypeScript = some typeScript ∧
      resolver.resolve (ScriptId.ofScript chequeLockScript) = some lockCellDep ∧
      resolver.resolve (ScriptId.ofScript typeScript) = some typeCellDep ∧
      checkChequeLockArgs chain builder.senderLockScript chequeLockScript = ok () ∧
      tx = Transaction.build [lockCellDep, typeCellDep] totals.inputs
        [⟨UInt64.ofNat totals.capacity, builder.senderLockScript, some typeScript⟩]
        [leBytes 16 totals.amount] := by
  simp only [buildBase, bind_eq_ok, failIf_eq_ok, resolveCellDep_eq_ok, unwrap_eq_ok, pure_eq,
    ok.injEq, List.isEmpty_iff] at built
  obtain ⟨-, nonempty, totals, ran, chequeLockScript, rememberedLock, typeScript, rememberedType,
    lockCellDep, resolvedLock, typeCellDep, resolvedType, ⟨⟩, checked, rfl⟩ := built
  exact ⟨totals, chequeLockScript, typeScript, lockCellDep, typeCellDep, nonempty, ran,
    rememberedLock, rememberedType, resolvedLock, resolvedType, checked, rfl⟩

end ChequeWithdrawBuilder

namespace Sample

/-- Two cheque cells with the cheque lock and type `tagScript 2`, holding `first` and
`second`. -/
def withdrawCells (first second : Nat) : List (OutPoint × CellOutput × Bytes) :=
  [(tagOutPoint 11, ⟨162, chequeLock, some (tagScript 2 [])⟩, leBytes 16 first),
    (tagOutPoint 12, ⟨162, chequeLock, some (tagScript 2 [])⟩, leBytes 16 second)]

/-- The withdrawal of both cheques. -/
def withdraw : ChequeWithdrawBuilder := ⟨[tagOutPoint 11, tagOutPoint 12], senderLock⟩

/-- A resolver whose one dep group holds the code of every script. -/
def groupResolver : CellDepResolver := ⟨fun _ => some ⟨tagOutPoint 9, .depGroup⟩⟩

/-- One cheque cell with the cheque lock and type `tagScript 2`, whose data is 15 bytes. -/
def shortDataCells : List (OutPoint × CellOutput × Bytes) :=
  [(tagOutPoint 11, ⟨162, chequeLock, some (tagScript 2 [])⟩, List.replicate 15 1)]

/-- The withdrawal of that cheque. -/
def withdrawShort : ChequeWithdrawBuilder := ⟨[tagOutPoint 11], senderLock⟩

end Sample

section Withdraw

open ChequeWithdrawBuilder

variable {chain : Chain} {profile : Profile} {resolver : CellDepResolver}
  {provider : TransactionDependencyProvider} {builder : ChequeWithdrawBuilder} {tx : Transaction}

/-- A successful withdrawal's cell deps are the deps of the cheque cells' common lock and common
type script, in this order: a list of two, whatever the two deps are. -/
theorem ChequeWithdrawBuilder.buildBase_cellDeps_pair
    (built : buildBase chain profile resolver provider builder = ok tx) :
    ∃ chequeLockScript typeScript lockCellDep typeCellDep,
      (∀ outPoint ∈ builder.outPoints, ∃ cell, provider.getCell outPoint = .ok cell ∧
        cell.lock = chequeLockScript ∧ cell.type = some typeScript) ∧
      resolver.resolve (ScriptId.ofScript chequeLockScript) = some lockCellDep ∧
      resolver.resolve (ScriptId.ofScript typeScript) = some typeCellDep ∧
      tx.raw.cellDeps = [lockCellDep, typeCellDep] := by
  obtain ⟨totals, chequeLockScript, typeScript, lockCellDep, typeCellDep, -, ran,
    rememberedLock, rememberedType, resolvedLock, resolvedType, -, rfl⟩ := buildBase_eq_ok built
  refine ⟨chequeLockScript, typeScript, lockCellDep, typeCellDep, fun outPoint member => ?_,
    resolvedLock, resolvedType, rfl⟩
  obtain ⟨cell, -, found, -, -, scripts⟩ :=
    (withdrawInvariant_run ran).scripts rememberedLock rememberedType outPoint member
  exact ⟨cell, found, scripts⟩

/-- The sample: two cheques of one lock and one type script, each script's code in its own
cell. -/
theorem buildBase_cellDeps_pair_sample :
    ∃ tx, ChequeWithdrawBuilder.buildBase Sample.zeroHashChain .debug Sample.codeResolver
        (Sample.cellProvider (Sample.withdrawCells 3 4)) Sample.withdraw = ok tx ∧
      ∃ chequeLockScript typeScript lockCellDep typeCellDep,
        (∀ outPoint ∈ Sample.withdraw.outPoints, ∃ cell,
          (Sample.cellProvider (Sample.withdrawCells 3 4)).getCell outPoint = .ok cell ∧
            cell.lock = chequeLockScript ∧ cell.type = some typeScript) ∧
        Sample.codeResolver.resolve (ScriptId.ofScript chequeLockScript) = some lockCellDep ∧
        Sample.codeResolver.resolve (ScriptId.ofScript typeScript) = some typeCellDep ∧
        tx.raw.cellDeps = [lockCellDep, typeCellDep] :=
  have built : ChequeWithdrawBuilder.buildBase Sample.zeroHashChain .debug Sample.codeResolver
      (Sample.cellProvider (Sample.withdrawCells 3 4)) Sample.withdraw = ok _ := rfl
  ⟨_, built, ChequeWithdrawBuilder.buildBase_cellDeps_pair built⟩

/-- With a resolver that finds the lock and the type script in one dep group, the withdrawal
lists that dep group twice: its cell deps are a `vec!` of the two lookups, not a set. -/
theorem withdrawBuilder_duplicates_dep :
    ∃ tx, ChequeWithdrawBuilder.buildBase Sample.zeroHashChain .debug Sample.groupResolver
        (Sample.cellProvider (Sample.withdrawCells 100 200)) Sample.withdraw = ok tx ∧
      tx.raw.cellDeps = [⟨Sample.tagOutPoint 9, .depGroup⟩, ⟨Sample.tagOutPoint 9, .depGroup⟩] ∧
      ¬ tx.raw.cellDeps.Nodup :=
  ⟨_, rfl, rfl, by decide⟩

/-- A successful withdrawal consumes the cheque cells in the caller's order, each with the cheque
`since`, and returns one cell of the sender with the cheques' common type script, their total
capacity and their total amount as data. The outputs hold the exact sums reduced to `u128` and
`u64`; a debug build gets here only when the exact sums fit. -/
theorem ChequeWithdrawBuilder.buildBase_sender_gets_sum
    (built : buildBase chain profile resolver provider builder = ok tx) :
    tx.raw.inputs = builder.outPoints.map (CellInput.new · chain.chequeCellSince) ∧
      ∃ typeScript,
        (∀ outPoint ∈ builder.outPoints, ∃ cell, provider.getCell outPoint = .ok cell ∧
          cell.type = some typeScript) ∧
        tx.raw.outputs = [⟨UInt64.ofNat (provider.capacitySum builder.outPoints),
          builder.senderLockScript, some typeScript⟩] ∧
        tx.raw.outputsData = [leBytes 16 (provider.amountSum builder.outPoints)] ∧
        (profile = .debug → provider.amountSum builder.outPoints < 2 ^ 128 ∧
          provider.capacitySum builder.outPoints < 2 ^ 64) := by
  obtain ⟨totals, chequeLockScript, typeScript, _, _, -, ran, rememberedLock, rememberedType, -, -,
    -, rfl⟩ := buildBase_eq_ok built
  have invariant := withdrawInvariant_run ran
  obtain ⟨amountKept, capacityKept, exact⟩ := invariant.sums
  refine ⟨invariant.inputs, typeScript, fun outPoint member => ?_, ?_, ?_, exact⟩
  · obtain ⟨cell, -, foundCell, -, -, -, typed⟩ :=
      invariant.scripts rememberedLock rememberedType outPoint member
    exact ⟨cell, foundCell, typed⟩
  · rw [Transaction.build, capacityKept, uint64_ofNat_mod]
  · simp only [Transaction.build, amountKept]
    exact congrArg (· :: []) (leBytes_mod 16 _)

/-- The sample: a withdrawal of two cheques of 3 and 4. -/
theorem buildBase_sender_gets_sum_sample :
    ∃ tx, ChequeWithdrawBuilder.buildBase Sample.zeroHashChain .debug Sample.codeResolver
        (Sample.cellProvider (Sample.withdrawCells 3 4)) Sample.withdraw = ok tx ∧
      tx.raw.inputs =
          Sample.withdraw.outPoints.map (CellInput.new · Sample.zeroHashChain.chequeCellSince) ∧
        ∃ typeScript,
          (∀ outPoint ∈ Sample.withdraw.outPoints, ∃ cell,
            (Sample.cellProvider (Sample.withdrawCells 3 4)).getCell outPoint = .ok cell ∧
              cell.type = some typeScript) ∧
          tx.raw.outputs = [⟨UInt64.ofNat ((Sample.cellProvider (Sample.withdrawCells 3 4)).capacitySum
            Sample.withdraw.outPoints), Sample.withdraw.senderLockScript, some typeScript⟩] ∧
          tx.raw.outputsData = [leBytes 16 ((Sample.cellProvider (Sample.withdrawCells 3 4)).amountSum
            Sample.withdraw.outPoints)] ∧
          (Profile.debug = .debug →
            (Sample.cellProvider (Sample.withdrawCells 3 4)).amountSum Sample.withdraw.outPoints <
              2 ^ 128 ∧
            (Sample.cellProvider (Sample.withdrawCells 3 4)).capacitySum Sample.withdraw.outPoints <
              2 ^ 64) :=
  have built : ChequeWithdrawBuilder.buildBase Sample.zeroHashChain .debug Sample.codeResolver
      (Sample.cellProvider (Sample.withdrawCells 3 4)) Sample.withdraw = ok _ := rfl
  ⟨_, built, ChequeWithdrawBuilder.buildBase_sender_gets_sum built⟩

/-- In a release build the withdrawn amount wraps: two cheques of `2 ^ 127` give an output
holding 0, where a debug build panics. -/
theorem withdrawBuilder_release_wraps_amount :
    (∃ tx, ChequeWithdrawBuilder.buildBase Sample.zeroHashChain .release Sample.codeResolver
        (Sample.cellProvider (Sample.withdrawCells (2 ^ 127) (2 ^ 127))) Sample.withdraw = ok tx ∧
        tx.raw.outputsData = [leBytes 16 0]) ∧
      ChequeWithdrawBuilder.buildBase Sample.zeroHashChain .debug Sample.codeResolver
        (Sample.cellProvider (Sample.withdrawCells (2 ^ 127) (2 ^ 127))) Sample.withdraw = panic :=
  ⟨⟨_, rfl, rfl⟩, rfl⟩

/-- A withdrawal panics only at the copy of a cheque cell's data that is not 16 bytes, or, in a
debug build, when an exact sum does not fit: every other failure is an `Err`. -/
theorem ChequeWithdrawBuilder.buildBase_panics_only_on_short_data_or_overflow
    (panicked : buildBase chain profile resolver provider builder = panic) :
    (∃ outPoint ∈ builder.outPoints, ∃ data, provider.getCellData outPoint = .ok data ∧
        data.length ≠ 16) ∨
      profile = .debug ∧ (2 ^ 128 ≤ provider.amountSum builder.outPoints ∨
        2 ^ 64 ≤ provider.capacitySum builder.outPoints) := by
  simp only [buildBase, bind_eq_panic, failIf_ne_panic, unwrap_eq_panic, resolveCellDep_ne_panic,
    checkChequeLockArgs_ne_panic, failIf_eq_ok, unwrap_eq_ok, resolveCellDep_eq_ok, reduceCtorEq,
    false_or, and_false, exists_false, or_false, List.isEmpty_iff] at panicked
  obtain ⟨_, nonempty, loopPanicked | ⟨totals, ran, unset⟩⟩ := panicked
  · obtain ⟨done, outPoint, rest, middle, split, ranDone, stepped⟩ := foldlM_eq_panic loopPanicked
    obtain ⟨cell, data, foundCell, foundData, short | ⟨debug, over⟩⟩ :=
      withdrawInput_eq_panic stepped
    · exact .inl ⟨outPoint, by simp [split], data, foundData, short⟩
    · obtain ⟨amountKept, capacityKept, exact⟩ := (withdrawInvariant_run ranDone).sums
      obtain ⟨amountBound, capacityBound⟩ := exact debug
      rw [Nat.mod_eq_of_lt amountBound] at amountKept
      rw [Nat.mod_eq_of_lt capacityBound] at capacityKept
      have amountSplit : provider.amountSum builder.outPoints =
          provider.amountSum done + leValue data + provider.amountSum rest := by
        rw [split, List.append_cons, TransactionDependencyProvider.amountSum_append,
          TransactionDependencyProvider.amountSum_append_of_getCellData foundData]
      have capacitySplit : provider.capacitySum builder.outPoints =
          provider.capacitySum done + cell.capacity.toNat + provider.capacitySum rest := by
        rw [split, List.append_cons, TransactionDependencyProvider.capacitySum_append,
          TransactionDependencyProvider.capacitySum_append_of_getCell foundCell]
      exact .inr ⟨debug, by omega⟩
  · obtain ⟨outPoint, member⟩ := List.exists_mem_of_ne_nil _ nonempty
    obtain ⟨cell, -, typeScript, -, -, -, lastLock, -, lastType⟩ :=
      (withdrawInvariant_run ran).cells outPoint member
    simp [lastLock, lastType] at unset

/-- The sample: a release build of the withdrawal of a cheque whose data is 15 bytes. -/
theorem buildBase_panics_only_on_short_data_or_overflow_sample :
    ChequeWithdrawBuilder.buildBase Sample.zeroHashChain .release Sample.codeResolver
        (Sample.cellProvider Sample.shortDataCells) Sample.withdrawShort = panic ∧
      ((∃ outPoint ∈ Sample.withdrawShort.outPoints, ∃ data,
          (Sample.cellProvider Sample.shortDataCells).getCellData outPoint = .ok data ∧
            data.length ≠ 16) ∨
        Profile.release = .debug ∧
          (2 ^ 128 ≤ (Sample.cellProvider Sample.shortDataCells).amountSum
              Sample.withdrawShort.outPoints ∨
            2 ^ 64 ≤ (Sample.cellProvider Sample.shortDataCells).capacitySum
              Sample.withdrawShort.outPoints)) :=
  have panicked : ChequeWithdrawBuilder.buildBase Sample.zeroHashChain .release
      Sample.codeResolver (Sample.cellProvider Sample.shortDataCells) Sample.withdrawShort =
        panic := rfl
  ⟨panicked, ChequeWithdrawBuilder.buildBase_panics_only_on_short_data_or_overflow panicked⟩

/-- A cheque cell whose data is 15 bytes makes the withdrawal panic in either build, although the
exact sums fit: the data is copied into a 16-byte buffer before its length is checked. -/
theorem withdrawBuilder_short_data_panics :
    (Sample.cellProvider Sample.shortDataCells).amountSum Sample.withdrawShort.outPoints < 2 ^ 128 ∧
      (Sample.cellProvider Sample.shortDataCells).capacitySum Sample.withdrawShort.outPoints <
        2 ^ 64 ∧
      ∀ profile, ChequeWithdrawBuilder.buildBase Sample.zeroHashChain profile Sample.codeResolver
        (Sample.cellProvider Sample.shortDataCells) Sample.withdrawShort = panic :=
  ⟨by decide, by decide, fun profile => by cases profile <;> rfl⟩

end Withdraw

end CkbSdk
