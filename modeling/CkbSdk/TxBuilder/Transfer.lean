import CkbSdk.TxBuilder
import Mathlib.Data.List.Nodup

/-!
# The capacity transfer builder

`CapacityTransferBuilder` builds a transaction skeleton with the given outputs and no inputs,
and resolves the code dependency of every output's type script into a `HashSet`.

The main result says what a successful build returns: the outputs and their data in the given
order, and as cell deps exactly the resolved dependencies of the outputs' type scripts, each
once, whatever the resolver. The failure lemmas say where a build stops: at the first output
whose type script does not resolve, and nowhere else.
-/

namespace CkbSdk

open Outcome TxBuilder

/-- `CapacityTransferBuilder`: the outputs with their data. -/
structure CapacityTransferBuilder where
  outputs : List (CellOutput × Bytes)
deriving DecidableEq, Repr

/-- The variables the transfer loop updates. -/
structure TransferTotals where
  cellDeps : List CellDep
  outputs : List CellOutput
  outputsData : List Bytes
deriving DecidableEq, Repr

namespace CapacityTransferBuilder

/-- One iteration of the loop over `self.outputs`. -/
def addOutput (resolver : CellDepResolver) (totals : TransferTotals) (entry : CellOutput × Bytes) :
    Outcome TxBuilderError TransferTotals :=
  let outputs := totals.outputs ++ [entry.1]
  let outputsData := totals.outputsData ++ [entry.2]
  match entry.1.type with
  | some typeScript => do
    let cellDep ← resolveCellDep resolver typeScript
    pure ⟨totals.cellDeps.insert cellDep, outputs, outputsData⟩
  | none => pure ⟨totals.cellDeps, outputs, outputsData⟩

/-- `CapacityTransferBuilder::build_base`. -/
def buildBase (resolver : CellDepResolver) (builder : CapacityTransferBuilder) :
    Outcome TxBuilderError Transaction := do
  let totals ← builder.outputs.foldlM (addOutput resolver) ⟨[], [], []⟩
  pure (Transaction.build totals.cellDeps [] totals.outputs totals.outputsData)

/-- The dependencies the outputs so far need: those of their type scripts. -/
def Needs (resolver : CellDepResolver) (outputs : List CellOutput) (cellDep : CellDep) : Prop :=
  ∃ output ∈ outputs, ∃ typeScript, output.type = some typeScript ∧
    resolver.resolve (ScriptId.ofScript typeScript) = some cellDep

/-- What the loop keeps: the outputs and data so far, and as deps exactly what they need, once
each. -/
structure Invariant (resolver : CellDepResolver) (done : List (CellOutput × Bytes))
    (totals : TransferTotals) : Prop where
  outputs : totals.outputs = done.map Prod.fst
  outputsData : totals.outputsData = done.map Prod.snd
  distinct : totals.cellDeps.Nodup
  needed : ∀ cellDep, cellDep ∈ totals.cellDeps ↔ Needs resolver totals.outputs cellDep

/-- One iteration keeps the invariant. -/
theorem addOutput_invariant {resolver : CellDepResolver} {done : List (CellOutput × Bytes)}
    {totals next : TransferTotals} {entry : CellOutput × Bytes}
    (invariant : Invariant resolver done totals) (added : addOutput resolver totals entry = ok next) :
    Invariant resolver (done ++ [entry]) next := by
  obtain ⟨outputs, outputsData, distinct, needed⟩ := invariant
  have needsAppend : ∀ cellDep, Needs resolver (totals.outputs ++ [entry.1]) cellDep ↔
      Needs resolver totals.outputs cellDep ∨ ∃ typeScript, entry.1.type = some typeScript ∧
        resolver.resolve (ScriptId.ofScript typeScript) = some cellDep := by
    intro cellDep
    simp [Needs, or_and_right, exists_or]
  unfold addOutput at added
  split at added
  · next typeScript typed =>
    obtain ⟨cellDep, resolved, stored⟩ := bind_eq_ok.mp added
    cases stored
    rw [resolveCellDep_eq_ok] at resolved
    refine ⟨by simp [outputs], by simp [outputsData], distinct.insert, fun other => ?_⟩
    rw [needsAppend, List.mem_insert_iff, needed, typed]
    simp [resolved, eq_comm, or_comm]
  · next untyped =>
    cases added
    refine ⟨by simp [outputs], by simp [outputsData], distinct, fun other => ?_⟩
    rw [needsAppend, needed, untyped]
    simp

/-- A successful build has no inputs, the given outputs and data in order, and as cell deps
exactly the resolved dependencies of the outputs' type scripts, each once. -/
theorem buildBase_result {resolver : CellDepResolver} {builder : CapacityTransferBuilder}
    {tx : Transaction} (built : builder.buildBase resolver = ok tx) :
    tx.raw.inputs = [] ∧ tx.raw.outputs = builder.outputs.map Prod.fst ∧
      tx.raw.outputsData = builder.outputs.map Prod.snd ∧ tx.raw.cellDeps.Nodup ∧
      ∀ cellDep, cellDep ∈ tx.raw.cellDeps ↔ Needs resolver tx.raw.outputs cellDep := by
  obtain ⟨totals, ran, stored⟩ := bind_eq_ok.mp built
  cases stored
  obtain ⟨outputs, outputsData, distinct, needed⟩ :=
    foldlM_invariant (Invariant resolver) addOutput_invariant
      (show Invariant resolver [] ⟨[], [], []⟩ from
        ⟨rfl, rfl, List.nodup_nil, fun cellDep => by simp [Needs]⟩) ran
  exact ⟨rfl, by simpa using outputs, by simpa using outputsData, distinct, needed⟩

end CapacityTransferBuilder

namespace Sample

/-- A script with a code hash of one repeated byte and no args. -/
def byteScript (tag : UInt8) : Script :=
  ⟨⟨List.replicate 32 tag, List.length_replicate 32 tag⟩, .type, []⟩

/-- A transfer of two outputs under `byteScript 0`, the first with type script `byteScript 1`. -/
def transfer : CapacityTransferBuilder :=
  ⟨[(⟨100, byteScript 0, some (byteScript 1)⟩, [1]), (⟨200, byteScript 0, none⟩, [])]⟩

/-- A resolver with a code cell for every script, at output 0 of its code hash. -/
def transferResolver : CellDepResolver := ⟨fun scriptId => some ⟨⟨scriptId.codeHash, 0⟩, .code⟩⟩

end Sample

namespace CapacityTransferBuilder

/-- The sample: a transfer of two outputs, the first with a type script. -/
theorem buildBase_result_sample :
    ∃ tx, Sample.transfer.buildBase Sample.transferResolver = ok tx ∧
      tx.raw.inputs = [] ∧ tx.raw.outputs = Sample.transfer.outputs.map Prod.fst ∧
      tx.raw.outputsData = Sample.transfer.outputs.map Prod.snd ∧ tx.raw.cellDeps.Nodup ∧
      ∀ cellDep, cellDep ∈ tx.raw.cellDeps ↔ Needs Sample.transferResolver tx.raw.outputs cellDep :=
  have built : Sample.transfer.buildBase Sample.transferResolver = ok _ := rfl
  ⟨_, built, buildBase_result built⟩

/-- Whether the type script of an output, if it has one, has a known code dependency. -/
def resolvable (resolver : CellDepResolver) (output : CellOutput) : Bool :=
  match output.type with
  | some typeScript => (resolver.resolve (ScriptId.ofScript typeScript)).isSome
  | none => true

section Failure

variable {resolver : CellDepResolver}

/-- One iteration fails exactly on an output whose type script does not resolve, naming it. -/
theorem addOutput_eq_err {totals : TransferTotals} {entry : CellOutput × Bytes}
    {error : TxBuilderError} :
    addOutput resolver totals entry = err error ↔ ∃ typeScript, entry.1.type = some typeScript ∧
      resolver.resolve (ScriptId.ofScript typeScript) = none ∧
      error = .resolveCellDepFailed (ScriptId.ofScript typeScript) := by
  unfold addOutput resolveCellDep
  split
  · next typeScript typed =>
    cases resolved : resolver.resolve (ScriptId.ofScript typeScript) <;>
      simp [typed, resolved, eq_comm]
  · simp [*]

/-- One iteration succeeds exactly on a resolvable output. -/
theorem exists_addOutput_eq_ok {totals : TransferTotals} {entry : CellOutput × Bytes} :
    (∃ next, addOutput resolver totals entry = ok next) ↔ resolvable resolver entry.1 := by
  unfold addOutput resolveCellDep resolvable
  split
  · next typeScript typed =>
    cases resolved : resolver.resolve (ScriptId.ofScript typeScript) <;> simp [typed, resolved]
  · simp [*]

/-- Adding an output never panics. -/
@[simp] theorem addOutput_ne_panic {totals : TransferTotals} {entry : CellOutput × Bytes} :
    addOutput resolver totals entry ≠ panic := by
  unfold addOutput resolveCellDep
  split
  · next typeScript _ =>
    cases resolver.resolve (ScriptId.ofScript typeScript) <;> simp
  · simp

/-- The loop never panics. -/
theorem addOutputs_ne_panic :
    ∀ {outputs : List (CellOutput × Bytes)} {totals : TransferTotals},
      outputs.foldlM (addOutput resolver) totals ≠ panic
  | [], _ => by simp
  | entry :: outputs, totals => by
    rw [List.foldlM_cons, Ne, bind_eq_panic]
    simp [addOutputs_ne_panic]

/-- The loop fails exactly at the first output whose type script does not resolve. -/
theorem addOutputs_eq_err {error : TxBuilderError} :
    ∀ {outputs : List (CellOutput × Bytes)} {totals : TransferTotals},
      outputs.foldlM (addOutput resolver) totals = err error ↔
        ∃ before output outputData after typeScript,
          outputs = before ++ (output, outputData) :: after ∧
          (∀ entry ∈ before, resolvable resolver entry.1) ∧ output.type = some typeScript ∧
          resolver.resolve (ScriptId.ofScript typeScript) = none ∧
          error = .resolveCellDepFailed (ScriptId.ofScript typeScript)
  | [], _ => by simp
  | entry :: outputs, totals => by
    rw [List.foldlM_cons, bind_eq_err, addOutput_eq_err]
    constructor
    · rintro (⟨typeScript, typed, unresolved, rfl⟩ | ⟨next, stepped, rest⟩)
      · exact ⟨[], entry.1, entry.2, outputs, typeScript, rfl, nofun, typed, unresolved, rfl⟩
      · obtain ⟨before, output, outputData, after, typeScript, rfl, resolvedBefore, typed,
          unresolved, rfl⟩ := addOutputs_eq_err.mp rest
        exact ⟨entry :: before, output, outputData, after, typeScript, rfl,
          List.forall_mem_cons.mpr ⟨exists_addOutput_eq_ok.mp ⟨next, stepped⟩, resolvedBefore⟩,
          typed, unresolved, rfl⟩
    · rintro ⟨_ | ⟨first, before⟩, output, outputData, after, typeScript, split, resolvedBefore,
        typed, unresolved, rfl⟩
      · cases split
        exact .inl ⟨typeScript, typed, unresolved, rfl⟩
      · obtain ⟨rfl, rfl⟩ := List.cons.inj split
        obtain ⟨next, stepped⟩ :=
          exists_addOutput_eq_ok.mpr (resolvedBefore entry (List.mem_cons_self _ _))
        exact .inr ⟨next, stepped, addOutputs_eq_err.mpr ⟨before, output, outputData, after,
          typeScript, rfl, fun other member => resolvedBefore other (List.mem_cons_of_mem _ member),
          typed, unresolved, rfl⟩⟩

end Failure

end CapacityTransferBuilder

end CkbSdk
