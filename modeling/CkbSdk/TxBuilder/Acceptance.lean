import CkbSdk.TxBuilder.Cheque
import CkbSdk.TxBuilder.Transfer

/-!
# Which requests the builders accept

The inversion lemmas of each builder say what a successful build has checked. This module
closes the other direction: every request that meets those checks is built. For the two cheque
builders the checks are collected into one predicate, `Claimable` and `Withdrawable`, read off
the source's guards in order, and a build succeeds exactly on the requests that satisfy it; on
every other request it returns an error or, in a debug build, panics. For the transfer builder
the whole outcome is determined: it never panics, and it fails exactly at the first output
whose type script does not resolve, with that script's id in the error.

The completeness proofs run each loop forward with `Outcome.foldlM_progress`, carrying the loop
invariant together with the script remembered so far; the debug-build sums are bounded at each
prefix by the sums over all cells.
-/

namespace CkbSdk

open Outcome TxBuilder

/-! ## The claim builder -/

/-- The claims the builder accepts, read off its checks: at least one cheque input; a receiver
cell with a type script and 16 bytes of data, whose type and lock scripts resolve; cheque cells
with 16 bytes of data under one lock, which resolves, has 40 bytes of args and ends them with
the sender lock's hash prefix; and in a debug build, exact sums of the receiver's and the
cheques' amounts and of the cheques' capacities that fit `u128` and `u64`. -/
structure ChequeClaimBuilder.Claimable (chain : Chain) (profile : Profile)
    (resolver : CellDepResolver) (provider : TransactionDependencyProvider)
    (builder : ChequeClaimBuilder) : Prop where
  nonempty : builder.inputs ≠ []
  receiver : ∃ cell data typeScript,
    provider.getCell builder.receiverInput.previousOutput = .ok cell ∧
    provider.getCellData builder.receiverInput.previousOutput = .ok data ∧ data.length = 16 ∧
    cell.type = some typeScript ∧ (resolver.resolve (ScriptId.ofScript typeScript)).isSome ∧
    (resolver.resolve (ScriptId.ofScript cell.lock)).isSome
  cheques : ∃ chequeLockScript,
    (∀ input ∈ builder.inputs, ∃ cell data, provider.getCell input.previousOutput = .ok cell ∧
      provider.getCellData input.previousOutput = .ok data ∧ data.length = 16 ∧
      cell.lock = chequeLockScript) ∧
    (resolver.resolve (ScriptId.ofScript chequeLockScript)).isSome ∧
    chequeLockScript.args.length = 40 ∧
    (builder.senderLockScript.calcScriptHash chain).bytes.take 20 =
      (chequeLockScript.args.drop 20).take 20
  fits : profile = .debug →
    provider.amountSum (builder.receiverInput.previousOutput ::
      builder.inputs.map CellInput.previousOutput) < 2 ^ 128 ∧
    provider.capacitySum (builder.inputs.map CellInput.previousOutput) < 2 ^ 64

section Claim

open ChequeClaimBuilder

variable {chain : Chain} {profile : Profile} {resolver : CellDepResolver}
  {provider : TransactionDependencyProvider} {builder : ChequeClaimBuilder}

/-- The claim builder builds exactly the claimable requests. -/
theorem ChequeClaimBuilder.buildBase_succeeds_iff_claimable :
    (∃ tx, buildBase chain profile resolver provider builder = ok tx) ↔
      Claimable chain profile resolver provider builder := by
  constructor
  · rintro ⟨tx, built⟩
    obtain ⟨receiverCell, receiverData, receiverTypeScript, _, _, totals, chequeLockScript, _,
      nonempty, foundCell, foundData, typed, long, resolvedType, resolvedLock, ran, remembered,
      checked, added, -⟩ := buildBase_eq_ok built
    have invariant := claimInvariant_run List.nodup_nil.insert.insert ran
    refine ⟨nonempty, ⟨receiverCell, receiverData, receiverTypeScript, foundCell, foundData, long,
      typed, by simp [resolvedType], by simp [resolvedLock]⟩, ⟨chequeLockScript,
      invariant.lock remembered, claimRun_resolves nonempty ran remembered,
      checkChequeLockArgs_eq_ok.mp checked⟩, fun debug => ?_⟩
    obtain ⟨amountKept, -, exact⟩ := invariant.sums
    obtain ⟨amountBound, capacityBound⟩ := exact debug
    rw [amountKept, Nat.mod_eq_of_lt amountBound] at added
    rw [TransactionDependencyProvider.amountSum_cons_of_getCellData foundData]
    exact ⟨(Profile.add_eq_ok added).2 debug, capacityBound⟩
  · rintro ⟨nonempty, ⟨receiverCell, receiverData, receiverTypeScript, foundCell, foundData, long,
      typed, resolvesType, resolvesLock⟩, ⟨chequeLockScript, cells, resolves, checked⟩, fits⟩
    obtain ⟨receiverTypeCellDep, resolvedType⟩ := Option.isSome_iff_exists.mp resolvesType
    obtain ⟨receiverLockCellDep, resolvedLock⟩ := Option.isSome_iff_exists.mp resolvesLock
    rw [TransactionDependencyProvider.amountSum_cons_of_getCellData foundData] at fits
    obtain ⟨totals, ran, invariant⟩ := claimRun_progress
      (List.nodup_nil.insert.insert : (([] : List CellDep).insert receiverTypeCellDep
        |>.insert receiverLockCellDep).Nodup) typed cells resolves
      fun debug => ⟨by have := fits debug; omega, (fits debug).2⟩
    obtain ⟨input, member⟩ := List.exists_mem_of_ne_nil _ nonempty
    obtain ⟨cell, _, foundInput, -, -, remembered⟩ := invariant.cells input member
    obtain ⟨_, _, foundAgain, -, -, locked⟩ := cells input member
    rw [foundInput, Except.ok.injEq] at foundAgain
    obtain ⟨receiverOutputAmount, added⟩ : ∃ amount,
        (profile.add 128 (leValue receiverData) totals.amount : Outcome TxBuilderError Nat) =
          ok amount :=
      Profile.exists_add_eq_ok fun debug => by
        rw [invariant.sums.amount, Nat.mod_eq_of_lt (invariant.sums.exact debug).1]
        exact (fits debug).1
    refine ⟨Transaction.build totals.cellDeps (builder.inputs ++ [builder.receiverInput])
      [receiverCell, ⟨UInt64.ofNat totals.capacity, builder.senderLockScript, none⟩]
      [leBytes 16 receiverOutputAmount, []], ?_⟩
    simp only [buildBase, failIf_bind_eq_ok, bind_eq_ok, getCell_eq_ok, getCellData_eq_ok,
      okOr_eq_ok, readAmount_eq_ok, resolveCellDep_eq_ok, unwrap_eq_ok, pure_eq, ok.injEq,
      List.isEmpty_iff, ne_eq, not_not, failIf_eq_ok]
    exact ⟨(), nonempty, receiverCell, foundCell, receiverData, foundData, receiverTypeScript, typed,
      (), long, _, ⟨long, rfl⟩, receiverTypeCellDep, resolvedType, receiverLockCellDep,
      resolvedLock, totals, ran, chequeLockScript, by rw [remembered, foundAgain, locked], (),
      checkChequeLockArgs_eq_ok.mpr checked, receiverOutputAmount, added, rfl⟩

end Claim

/-! ## The withdraw builder -/

/-- The withdrawals the builder accepts, read off its checks: at least one out-point; cheque
cells with 16 bytes of data, one lock and one type script, both of which resolve, the lock with
40 bytes of args ending in the sender lock's hash prefix; and in a debug build, exact sums of
their amounts and capacities that fit `u128` and `u64`. -/
structure ChequeWithdrawBuilder.Withdrawable (chain : Chain) (profile : Profile)
    (resolver : CellDepResolver) (provider : TransactionDependencyProvider)
    (builder : ChequeWithdrawBuilder) : Prop where
  nonempty : builder.outPoints ≠ []
  cheques : ∃ chequeLockScript typeScript,
    (∀ outPoint ∈ builder.outPoints, ∃ cell data, provider.getCell outPoint = .ok cell ∧
      provider.getCellData outPoint = .ok data ∧ data.length = 16 ∧
      cell.lock = chequeLockScript ∧ cell.type = some typeScript) ∧
    (resolver.resolve (ScriptId.ofScript chequeLockScript)).isSome ∧
    (resolver.resolve (ScriptId.ofScript typeScript)).isSome ∧
    chequeLockScript.args.length = 40 ∧
    (builder.senderLockScript.calcScriptHash chain).bytes.take 20 =
      (chequeLockScript.args.drop 20).take 20
  fits : profile = .debug → provider.amountSum builder.outPoints < 2 ^ 128 ∧
    provider.capacitySum builder.outPoints < 2 ^ 64

section Withdraw

open ChequeWithdrawBuilder

variable {chain : Chain} {profile : Profile} {resolver : CellDepResolver}
  {provider : TransactionDependencyProvider} {builder : ChequeWithdrawBuilder}

/-- The withdraw builder builds exactly the withdrawable requests. -/
theorem ChequeWithdrawBuilder.buildBase_succeeds_iff_withdrawable :
    (∃ tx, buildBase chain profile resolver provider builder = ok tx) ↔
      Withdrawable chain profile resolver provider builder := by
  constructor
  · rintro ⟨tx, built⟩
    obtain ⟨totals, chequeLockScript, typeScript, _, _, nonempty, ran, rememberedLock,
      rememberedType, resolvedLock, resolvedType, checked, -⟩ := buildBase_eq_ok built
    have invariant := withdrawInvariant_run ran
    exact ⟨nonempty, ⟨chequeLockScript, typeScript,
      invariant.scripts rememberedLock rememberedType, by simp [resolvedLock],
      by simp [resolvedType], checkChequeLockArgs_eq_ok.mp checked⟩, invariant.sums.exact⟩
  · rintro ⟨nonempty, ⟨chequeLockScript, typeScript, cells, resolvesLock, resolvesType, checked⟩,
      fits⟩
    obtain ⟨lockCellDep, resolvedLock⟩ := Option.isSome_iff_exists.mp resolvesLock
    obtain ⟨typeCellDep, resolvedType⟩ := Option.isSome_iff_exists.mp resolvesType
    obtain ⟨totals, ran, invariant⟩ := withdrawRun_progress cells fits
    obtain ⟨outPoint, member⟩ := List.exists_mem_of_ne_nil _ nonempty
    obtain ⟨cell, _, rememberedType, foundCell, -, -, lastLock, typedAgain, lastType⟩ :=
      invariant.cells outPoint member
    obtain ⟨_, _, foundAgain, -, -, locked, typed⟩ := cells outPoint member
    rw [foundCell, Except.ok.injEq] at foundAgain
    subst foundAgain
    rw [typed, Option.some.injEq] at typedAgain
    refine ⟨Transaction.build [lockCellDep, typeCellDep] totals.inputs
      [⟨UInt64.ofNat totals.capacity, builder.senderLockScript, some typeScript⟩]
      [leBytes 16 totals.amount], ?_⟩
    simp only [buildBase, bind_eq_ok, failIf_eq_ok, resolveCellDep_eq_ok, unwrap_eq_ok, pure_eq,
      ok.injEq, List.isEmpty_iff]
    exact ⟨(), nonempty, totals, ran, chequeLockScript, by rw [lastLock, locked], typeScript,
      by rw [lastType, typedAgain], lockCellDep, resolvedLock, typeCellDep, resolvedType, (),
      checkChequeLockArgs_eq_ok.mpr checked, rfl⟩

end Withdraw

/-! ## The transfer builder -/

/-- The transfer builder never panics, and it fails exactly at the first output whose type
script does not resolve, with that script's id in the error. -/
theorem CapacityTransferBuilder.buildBase_fails_at_unresolved (resolver : CellDepResolver)
    (builder : CapacityTransferBuilder) :
    builder.buildBase resolver ≠ panic ∧ ∀ error, builder.buildBase resolver = err error ↔
      ∃ before output outputData after typeScript,
        builder.outputs = before ++ (output, outputData) :: after ∧
        (∀ entry ∈ before, resolvable resolver entry.1) ∧ output.type = some typeScript ∧
        resolver.resolve (ScriptId.ofScript typeScript) = none ∧
        error = .resolveCellDepFailed (ScriptId.ofScript typeScript) := by
  unfold buildBase
  refine ⟨?_, fun error => ?_⟩
  · rw [Ne, bind_eq_panic]
    simp [addOutputs_ne_panic]
  · simp only [bind_eq_err, pure_eq, reduceCtorEq, and_false, exists_false, or_false]
    exact addOutputs_eq_err

end CkbSdk
