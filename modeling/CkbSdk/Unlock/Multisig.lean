import CkbSdk.Unlock.Sighash
import CkbSdk.Unlock.Slots

/-!
# The multisig signer

A multisig lock is unlocked by a witness whose lock field is the config's witness data (a
four-byte header and the 20-byte addresses) followed by `threshold` 65-byte slots. Several
parties sign in turn, each with a wallet that holds keys for some of the configured addresses.
`Secp256k1MultisigSigner::sign_tx` computes the message with every slot zeroed, collects the
wallet's signatures for the addresses it holds, and places them into the lock field of witness
`i` with the slot walk of `Unlock.Slots`.

The abstract view of a run is a list of collected signatures: a party's turn adds the
signatures it does not find there, and fails when that goes past the threshold.
`signTx_slotLock_eq_ok` says that one call of the signer on a signed transaction is exactly such
a turn, and that the message never changes, because the digest reads the lock of witness `i`
only as zeros. Two results follow by induction over a run and by comparing two orders of two
parties: the layout of the lock field is kept and no signature is lost after any number of
turns (`signRun_slotState`), and two parties reach the same signatures in either order
(`signTx_comm`).

The witness data is compared with the documented layout through a decoder written from it,
`decodeWitnessData`: the two agree below 256 addresses, and at 256 the count byte wraps to 0.
`MultisigConfig::new_with` accepts exactly the configs with distinct addresses, a threshold they
reach and a `require_first_n` within it, and otherwise reports the first check that fails, with
the first repeated address for a duplicate (`MultisigConfig.newWith_eq_err`).
-/

namespace CkbSdk

open Outcome

/-- Modelled from the crate's dependency `ckb_fixed_hash` (not under `src/`): the `{:?}` text of
an `H160`, each byte as `{:#04x}`. -/
def H160.debug (address : H160) : String :=
  "H160 ( [ " ++ ", ".intercalate (address.bytes.map fun byte => "0x" ++ hexString [byte]) ++ " ] )"

/-- The `HashSet` loop of `new_with`: the first address that repeats one before it. -/
def firstDuplicate (seen : List H160) : List H160 → Option H160
  | [] => none
  | address :: rest => if address ∈ seen then some address else firstDuplicate (address :: seen) rest

/-- When the loop finds no repeat, the addresses are distinct and none was seen before. -/
theorem nodup_of_firstDuplicate {seen addresses : List H160}
    (unique : firstDuplicate seen addresses = none) :
    addresses.Nodup ∧ ∀ address ∈ addresses, address ∉ seen := by
  induction addresses generalizing seen with
  | nil => simp
  | cons address rest inductionHypothesis =>
    simp only [firstDuplicate] at unique
    split at unique
    · cases unique
    · next fresh =>
      obtain ⟨distinct, unseen⟩ := inductionHypothesis unique
      refine ⟨List.nodup_cons.mpr ⟨fun member => unseen address member (List.mem_cons_self _ _),
        distinct⟩, fun other member => ?_⟩
      rcases List.mem_cons.mp member with rfl | later
      · exact fresh
      · exact fun seenBefore => unseen other later (List.mem_cons_of_mem _ seenBefore)

/-- Distinct addresses, none seen before, make the loop find no repeat. -/
theorem firstDuplicate_eq_none {seen addresses : List H160} (distinct : addresses.Nodup)
    (unseen : ∀ address ∈ addresses, address ∉ seen) : firstDuplicate seen addresses = none := by
  induction addresses generalizing seen with
  | nil => rfl
  | cons address rest inductionHypothesis =>
    obtain ⟨fresh, restDistinct⟩ := List.nodup_cons.mp distinct
    rw [firstDuplicate, if_neg (unseen address (List.mem_cons_self _ _))]
    refine inductionHypothesis restDistinct fun other member seenOther => ?_
    rcases List.mem_cons.mp seenOther with rfl | seenBefore
    · exact fresh member
    · exact unseen other (List.mem_cons_of_mem _ member) seenBefore

/-- The loop reports `address` exactly when it is the first position that repeats an address seen
before, counting the ones seen before the loop. -/
theorem firstDuplicate_eq_some {address : H160} :
    ∀ {seen addresses : List H160}, firstDuplicate seen addresses = some address ↔
      ∃ before after, addresses = before ++ address :: after ∧
        (before.Nodup ∧ ∀ earlier ∈ before, earlier ∉ seen) ∧ (address ∈ seen ∨ address ∈ before)
  | _, [] => by simp [firstDuplicate]
  | seen, next :: rest => by
    rw [firstDuplicate]
    split
    · next repeated =>
      rw [Option.some.injEq]
      constructor
      · rintro rfl
        exact ⟨[], rest, rfl, ⟨List.nodup_nil, nofun⟩, .inl repeated⟩
      · rintro ⟨_ | ⟨first, before⟩, after, split, ⟨-, unseen⟩, found⟩
        · exact (List.cons.inj split).1
        · obtain ⟨rfl, -⟩ := List.cons.inj split
          exact absurd repeated (unseen _ (List.mem_cons_self _ _))
    · next fresh =>
      rw [firstDuplicate_eq_some]
      constructor
      · rintro ⟨before, after, rfl, ⟨distinct, unseen⟩, found⟩
        refine ⟨next :: before, after, rfl, ⟨List.nodup_cons.mpr ⟨fun member =>
          unseen next member (List.mem_cons_self _ _), distinct⟩, fun earlier member => ?_⟩, ?_⟩
        · rcases List.mem_cons.mp member with rfl | later
          · exact fresh
          · exact fun seenEarlier => unseen earlier later (List.mem_cons_of_mem _ seenEarlier)
        · rcases found with seenNow | inBefore
          · rcases List.mem_cons.mp seenNow with rfl | seenBefore
            · exact .inr (List.mem_cons_self _ _)
            · exact .inl seenBefore
          · exact .inr (List.mem_cons_of_mem _ inBefore)
      · rintro ⟨_ | ⟨first, before⟩, after, split, ⟨distinct, unseen⟩, found⟩
        · cases found with
          | inl seenBefore =>
            obtain ⟨rfl, -⟩ := List.cons.inj split
            exact absurd seenBefore fresh
          | inr none => cases none
        · obtain ⟨rfl, rfl⟩ := List.cons.inj split
          obtain ⟨notFirst, distinctRest⟩ := List.nodup_cons.mp distinct
          refine ⟨before, after, rfl, ⟨distinctRest, fun earlier member seenEarlier => ?_⟩, ?_⟩
          · rcases List.mem_cons.mp seenEarlier with rfl | seenBefore
            · exact notFirst member
            · exact unseen earlier (List.mem_cons_of_mem _ member) seenBefore
          · rcases found with seenBefore | inBefore
            · exact .inl (List.mem_cons_of_mem _ seenBefore)
            · rcases List.mem_cons.mp inBefore with rfl | later
              · exact .inl (List.mem_cons_self _ _)
              · exact .inr later

/-- From an empty set, the loop reports the first address that repeats an earlier one. -/
theorem firstDuplicate_nil_eq_some {address : H160} {addresses : List H160} :
    firstDuplicate [] addresses = some address ↔
      ∃ before after, addresses = before ++ address :: after ∧ before.Nodup ∧ address ∈ before := by
  simp [firstDuplicate_eq_some]

/-- `MultisigConfig`. Its fields are private and `new_with` is its only constructor, so every
value passes the three checks `new_with` makes; they are fields here. -/
structure MultisigConfig where
  sighashAddresses : List H160
  requireFirstN : UInt8
  threshold : UInt8
  distinct : sighashAddresses.Nodup
  threshold_le : threshold.toNat ≤ sighashAddresses.length
  requireFirstN_le : requireFirstN.toNat ≤ threshold.toNat

namespace MultisigConfig

/-- `MultisigConfig::new_with`. -/
def newWith (sighashAddresses : List H160) (requireFirstN threshold : UInt8) :
    Outcome SignError MultisigConfig :=
  match unique : firstDuplicate [] sighashAddresses with
  | some address => err (.invalidMultisigConfig ("Duplicated address: " ++ address.debug))
  | none =>
    if tooFew : sighashAddresses.length < threshold.toNat then
      err (.invalidMultisigConfig ("Invalid threshold " ++ toString threshold ++ " > " ++
        toString sighashAddresses.length))
    else if tooMany : threshold < requireFirstN then
      err (.invalidMultisigConfig ("Invalid require-first-n " ++ toString requireFirstN ++ " > " ++
        toString threshold))
    else ok ⟨sighashAddresses, requireFirstN, threshold, (nodup_of_firstDuplicate unique).1,
      Nat.le_of_not_lt tooFew, Nat.le_of_not_lt tooMany⟩

/-- Distinct addresses, a threshold they reach and a `require_first_n` within it make a config
holding them. -/
theorem newWith_of_valid {sighashAddresses : List H160} {requireFirstN threshold : UInt8}
    (distinct : sighashAddresses.Nodup) (reached : threshold.toNat ≤ sighashAddresses.length)
    (within : requireFirstN ≤ threshold) :
    ∃ config, newWith sighashAddresses requireFirstN threshold = ok config ∧
      config.sighashAddresses = sighashAddresses ∧ config.requireFirstN = requireFirstN ∧
      config.threshold = threshold := by
  unfold newWith
  split
  · next duplicated =>
    simp [firstDuplicate_eq_none distinct fun _ _ => List.not_mem_nil _] at duplicated
  · rw [dif_neg (Nat.not_lt.mpr reached), dif_neg (UInt8.not_lt.mpr within)]
    exact ⟨_, rfl, rfl, rfl, rfl⟩

/-- A config `new_with` returns passed its three checks and holds what it was given. -/
theorem of_newWith_eq_ok {sighashAddresses : List H160} {requireFirstN threshold : UInt8}
    {config : MultisigConfig} (built : newWith sighashAddresses requireFirstN threshold = ok config) :
    (sighashAddresses.Nodup ∧ threshold.toNat ≤ sighashAddresses.length ∧
      requireFirstN ≤ threshold) ∧
    config.sighashAddresses = sighashAddresses ∧ config.requireFirstN = requireFirstN ∧
      config.threshold = threshold := by
  unfold newWith at built
  split at built
  · cases built
  · next unique =>
    split at built
    · cases built
    · next tooFew =>
      split at built
      · cases built
      · next tooMany =>
        cases built
        exact ⟨⟨(nodup_of_firstDuplicate unique).1, Nat.le_of_not_lt tooFew,
          UInt8.not_lt.mp tooMany⟩, rfl, rfl, rfl⟩

/-- `new_with` returns `Ok` exactly for distinct addresses, a threshold they reach and a
`require_first_n` within the threshold, and the config it returns holds what it was given. -/
theorem newWith_ok_iff (sighashAddresses : List H160) (requireFirstN threshold : UInt8) :
    ((∃ config, newWith sighashAddresses requireFirstN threshold = ok config) ↔
      sighashAddresses.Nodup ∧ threshold.toNat ≤ sighashAddresses.length ∧
        requireFirstN ≤ threshold) ∧
    ∀ config, newWith sighashAddresses requireFirstN threshold = ok config →
      config.sighashAddresses = sighashAddresses ∧ config.requireFirstN = requireFirstN ∧
        config.threshold = threshold := by
  refine ⟨⟨fun ⟨_, built⟩ => (of_newWith_eq_ok built).1, fun ⟨distinct, reached, within⟩ => ?_⟩,
    fun _ built => (of_newWith_eq_ok built).2⟩
  obtain ⟨config, built, -⟩ := newWith_of_valid distinct reached within
  exact ⟨config, built⟩

/-- `new_with` fails exactly on an invalid config, reporting the first check it fails in the
source's order with the source's message: the first address that repeats an earlier one, then a
threshold past the address count, then a `require_first_n` past the threshold. -/
theorem newWith_eq_err (sighashAddresses : List H160)
    (requireFirstN threshold : UInt8) (error : SignError) :
    newWith sighashAddresses requireFirstN threshold = err error ↔
      (∃ before address after, sighashAddresses = before ++ address :: after ∧ before.Nodup ∧
        address ∈ before ∧
        error = .invalidMultisigConfig ("Duplicated address: " ++ address.debug)) ∨
      (sighashAddresses.Nodup ∧ sighashAddresses.length < threshold.toNat ∧
        error = .invalidMultisigConfig ("Invalid threshold " ++ toString threshold ++ " > " ++
          toString sighashAddresses.length)) ∨
      (sighashAddresses.Nodup ∧ threshold.toNat ≤ sighashAddresses.length ∧
        threshold < requireFirstN ∧
        error = .invalidMultisigConfig ("Invalid require-first-n " ++ toString requireFirstN ++
          " > " ++ toString threshold)) := by
  unfold newWith
  split
  · next address duplicated =>
    have repeated : ¬ sighashAddresses.Nodup := fun distinct => by
      simp [firstDuplicate_eq_none distinct fun _ _ => List.not_mem_nil _] at duplicated
    simp only [err.injEq, repeated, false_and, or_false]
    constructor
    · rintro rfl
      obtain ⟨before, after, split, distinct, found⟩ := firstDuplicate_nil_eq_some.mp duplicated
      exact ⟨before, address, after, split, distinct, found, rfl⟩
    · rintro ⟨before, other, after, split, distinct, found, rfl⟩
      rw [Option.some.inj (duplicated.symm.trans
        (firstDuplicate_nil_eq_some.mpr ⟨before, after, split, distinct, found⟩))]
  · next unique =>
    have distinct := (nodup_of_firstDuplicate unique).1
    have noneReported : ¬ ∃ before address after, sighashAddresses = before ++ address :: after ∧
        before.Nodup ∧ address ∈ before ∧
        error = .invalidMultisigConfig ("Duplicated address: " ++ address.debug) := by
      rintro ⟨before, address, after, split, distinct, found, -⟩
      exact nomatch unique.symm.trans
        (firstDuplicate_nil_eq_some.mpr ⟨before, after, split, distinct, found⟩)
    simp only [noneReported, distinct, true_and, false_or]
    split
    · next tooFew => simp [tooFew, Nat.not_le.mpr tooFew, eq_comm]
    · next tooFew =>
      split
      · next tooMany => simp [tooFew, tooMany, Nat.le_of_not_lt tooFew, eq_comm]
      · next tooMany => simp [tooFew, tooMany]

/-- `MultisigConfig::to_witness_data`: the reserved byte, `require_first_n`, the threshold, the
address count as a `u8`, and the addresses. -/
def toWitnessData (config : MultisigConfig) : Bytes :=
  [0, config.requireFirstN, config.threshold, UInt8.ofNat config.sighashAddresses.length] ++
    (config.sighashAddresses.map FixedBytes.bytes).flatten

/-- `zero_lock` of `sign_tx`: `vec![0u8; config_data.len() + 65 * threshold]` with the config data
copied over its start. -/
def zeroLock (config : MultisigConfig) : Bytes :=
  config.toWitnessData ++ List.replicate (65 * config.threshold.toNat) 0

/-- The lock field after signing: the config data, then the filled slots, then zero slots up to
the threshold. -/
def slotLock (config : MultisigConfig) (filled : List Bytes) : Bytes :=
  config.toWitnessData ++ (slotLayout config.threshold.toNat filled).flatten

/-- The zero lock is the config data and one 65-byte slot per signature of the threshold. -/
@[simp] theorem length_zeroLock (config : MultisigConfig) :
    config.zeroLock.length = config.toWitnessData.length + 65 * config.threshold.toNat := by
  simp [zeroLock]

/-- The zero lock is the lock with no slot filled. -/
theorem zeroLock_eq_slotLock (config : MultisigConfig) : config.zeroLock = config.slotLock [] := by
  have zeros : ∀ count : Nat, List.replicate (65 * count) (0 : UInt8) =
      (List.replicate count zeroSlot).flatten := by
    intro count
    induction count with
    | zero => rfl
    | succ count inductionHypothesis =>
      have appended : List.replicate (count + 1) zeroSlot =
          List.replicate count zeroSlot ++ [zeroSlot] := List.replicate_succ' count zeroSlot
      rw [Nat.mul_succ, List.replicate_add, inductionHypothesis, appended, List.flatten_append]
      simp [zeroSlot]
  simp [zeroLock, slotLock, slotLayout, zeros]

/-- A lock with filled slots of 65 bytes, within the threshold, is as long as the zero lock. -/
theorem length_slotLock (config : MultisigConfig) {filled : List Bytes}
    (whole : ∀ slot ∈ filled, slot.length = 65) (bounded : filled.length ≤ config.threshold.toNat) :
    (config.slotLock filled).length = config.toWitnessData.length + 65 * config.threshold.toNat := by
  rw [slotLock, List.length_append, length_flatten_slots (slotLayout_whole whole), slotLayout,
    List.length_append, List.length_replicate]
  congr 2
  omega

/-- The walk over a signed lock field, stated on the filled slots. -/
theorem placeSignatures_slotLock (config : MultisigConfig) {signatures filled : List Bytes}
    (signed : ∀ signature ∈ signatures, signature.length = 65 ∧ signature ≠ zeroSlot)
    (filledSlots : ∀ slot ∈ filled, slot.length = 65 ∧ slot ≠ zeroSlot)
    (bounded : filled.length ≤ config.threshold.toNat) :
    placeSignatures config.toWitnessData.length signatures (config.slotLock filled) =
      if (signatures.foldl addSignature filled).length ≤ config.threshold.toNat then
        ok (config.slotLock (signatures.foldl addSignature filled))
      else err .tooManySignatures :=
  placeSignatures_layout config.toWitnessData config.threshold.toNat signed filledSlots bounded

end MultisigConfig

/-! ## The witness data, read back by its documented layout -/

/-- `count` 20-byte addresses and nothing after them. -/
def readAddresses : Nat → Bytes → Option (List H160)
  | 0, bytes => if bytes = [] then some [] else none
  | count + 1, bytes =>
    if whole : 20 ≤ bytes.length then
      (⟨bytes.take 20, by rw [List.length_take]; omega⟩ :: ·) <$> readAddresses count (bytes.drop 20)
    else none

/-- The documented layout of multisig witness data: the reserved byte 0, `require_first_n`, the
threshold and the address count `n`, then exactly `n` 20-byte addresses. It follows the spec,
to be compared with `MultisigConfig.toWitnessData`. -/
def decodeWitnessData : Bytes → Option (List H160 × UInt8 × UInt8)
  | reserved :: requireFirstN :: threshold :: count :: addresses =>
    if reserved = 0 then (·, requireFirstN, threshold) <$> readAddresses count.toNat addresses
    else none
  | _ => none

/-- Addresses laid end to end take 20 bytes each. -/
theorem length_flatten_addresses (addresses : List H160) :
    (addresses.map FixedBytes.bytes).flatten.length = 20 * addresses.length := by
  induction addresses with
  | nil => rfl
  | cons address addresses inductionHypothesis =>
    simp only [List.map_cons, List.flatten_cons, List.length_append, address.size_eq,
      inductionHypothesis, List.length_cons]
    omega

/-- Addresses laid end to end read back as themselves. -/
theorem readAddresses_flatten (addresses : List H160) :
    readAddresses addresses.length (addresses.map FixedBytes.bytes).flatten = some addresses := by
  induction addresses with
  | nil => rfl
  | cons address addresses inductionHypothesis =>
    have whole : 20 ≤ (address.bytes ++ (addresses.map FixedBytes.bytes).flatten).length := by
      simp [address.size_eq]
    rw [List.length_cons, List.map_cons, List.flatten_cons, readAddresses, dif_pos whole,
      List.drop_left' address.size_eq, inductionHypothesis]
    exact congrArg some (congrArg (· :: addresses) (FixedBytes.ext (List.take_left' address.size_eq)))

/-- Below 256 addresses, the witness data decodes by the documented layout to the addresses,
`require_first_n` and the threshold. -/
theorem MultisigConfig.decodeWitnessData_toWitnessData (config : MultisigConfig)
    (few : config.sighashAddresses.length < 256) :
    decodeWitnessData config.toWitnessData =
      some (config.sighashAddresses, config.requireFirstN, config.threshold) := by
  simp only [MultisigConfig.toWitnessData, List.cons_append, List.nil_append, decodeWitnessData,
    if_true, UInt8.toNat_ofNat_of_lt few, readAddresses_flatten, Option.map_eq_map, Option.map_some']

/-- The sample: the witness data of two addresses, `require_first_n` 1 and threshold 2 decodes
back. -/
theorem decodeWitnessData_toWitnessData_sample :
    [(⟨List.replicate 20 1, rfl⟩ : H160), ⟨List.replicate 20 2, rfl⟩].length < 256 ∧
      decodeWitnessData (⟨[⟨List.replicate 20 1, rfl⟩, ⟨List.replicate 20 2, rfl⟩], 1, 2,
        by decide, by decide, by decide⟩ : MultisigConfig).toWitnessData =
          some ([⟨List.replicate 20 1, rfl⟩, ⟨List.replicate 20 2, rfl⟩], 1, 2) :=
  ⟨by decide, MultisigConfig.decodeWitnessData_toWitnessData _ (by decide)⟩

namespace Sample

/-- 256 distinct addresses: address `index` holds `index` in little-endian order. -/
def manyAddresses : List H160 :=
  (List.range 256).map fun index => ⟨leBytes 20 index, length_leBytes 20 index⟩

end Sample

/-- `new_with` accepts 256 distinct addresses, and the count byte of the witness data wraps to 0:
the data no longer decodes by the documented layout. -/
theorem multisig_witness_data_count_wraps :
    Sample.manyAddresses.length = 256 ∧
      ∃ config, MultisigConfig.newWith Sample.manyAddresses 0 1 = ok config ∧
        config.toWitnessData.take 4 = [0, 0, 1, 0] ∧ decodeWitnessData config.toWitnessData = none := by
  have count : Sample.manyAddresses.length = 256 := by simp [Sample.manyAddresses]
  have distinct : Sample.manyAddresses.Nodup := by
    refine (List.nodup_range 256).map_on fun first firstMember second secondMember same => ?_
    have wide : (256 : Nat) ≤ 256 ^ 20 := by decide
    exact leBytes_injective (lt_of_lt_of_le (List.mem_range.mp firstMember) wide)
      (lt_of_lt_of_le (List.mem_range.mp secondMember) wide) (congrArg FixedBytes.bytes same)
  obtain ⟨config, built, addresses, requireFirstN, threshold⟩ := MultisigConfig.newWith_of_valid
    distinct (show (1 : UInt8).toNat ≤ Sample.manyAddresses.length by rw [count]; decide)
    (show (0 : UInt8) ≤ 1 by decide)
  have nonempty : (Sample.manyAddresses.map FixedBytes.bytes).flatten ≠ [] :=
    List.ne_nil_of_length_pos (by rw [length_flatten_addresses, count]; decide)
  have data : config.toWitnessData =
      [0, 0, 1, UInt8.ofNat 256] ++ (Sample.manyAddresses.map FixedBytes.bytes).flatten := by
    rw [MultisigConfig.toWitnessData, addresses, requireFirstN, threshold, count]
  have wrapped : (UInt8.ofNat 256).toNat = 0 := rfl
  refine ⟨count, config, built, by rw [data]; rfl, ?_⟩
  simp only [data, List.cons_append, List.nil_append, decodeWitnessData, if_true, wrapped,
    readAddresses, nonempty, if_false, Option.map_eq_map, Option.map_none']

/-- A wallet whose every signature fills a slot: 65 bytes, and not all of them zero. -/
def Wallet.SignsSlots (wallet : Wallet) : Prop :=
  ∀ ownerId message tx provider signature, wallet.sign ownerId message tx provider = .ok signature →
    signature.length = 65 ∧ signature ≠ zeroSlot

/-- `Secp256k1MultisigSigner`: a wallet, a config, and the config's hash. -/
structure Secp256k1MultisigSigner where
  wallet : Wallet
  config : MultisigConfig
  configHash : Byte32

namespace Secp256k1MultisigSigner

/-- `Secp256k1MultisigSigner::new`. -/
def new (chain : Chain) (wallet : Wallet) (config : MultisigConfig) : Secp256k1MultisigSigner :=
  ⟨wallet, config, chain.blake2b256 config.toWitnessData⟩

/-- `Secp256k1MultisigSigner::match_args`: the args are the config hash's first 20 bytes, and the
wallet holds one of the configured addresses. -/
def matchArgs (signer : Secp256k1MultisigSigner) (args : Bytes) : Bool :=
  signer.configHash.bytes.take 20 == args &&
    signer.config.sighashAddresses.any fun address => signer.wallet.matchId address.bytes

/-- The signatures of the configured addresses the wallet holds, in config order, collected into
a `Result<Vec<_>, WalletError>`: the first wallet error ends the collection. -/
def signatures (signer : Secp256k1MultisigSigner) (message : Bytes) (tx : Transaction)
    (provider : TransactionDependencyProvider) : Outcome SignError (List Bytes) :=
  (signer.config.sighashAddresses.filter fun address => signer.wallet.matchId address.bytes).mapM
    fun address => ofExcept .wallet (signer.wallet.sign address.bytes message tx provider)

/-- `Secp256k1MultisigSigner::sign_tx`. -/
def signTx (chain : Chain) (signer : Secp256k1MultisigSigner) (tx : Transaction)
    (group : ScriptGroup) (provider : TransactionDependencyProvider) : Outcome SignError Transaction := do
  let witnessIndex ← group.firstInputIndex
  let witnesses := padWitnesses tx.witnesses witnessIndex
  let txNew := tx.setWitnesses witnesses
  let configData := signer.config.toWitnessData
  let zeroLock := signer.config.zeroLock
  let message ← generateMessage chain txNew group zeroLock
  let signatures ← signer.signatures message tx provider
  let currentWitness ← WitnessArgs.parseOrDefault (witnesses.getD witnessIndex [])
  let lockField := currentWitness.lock.getD zeroLock
  let lockField ← placeSignatures configData.length signatures lockField
  let currentWitness := currentWitness.withLock (some lockField)
  pure (tx.setWitnesses (witnesses.set witnessIndex currentWitness.asBytes))

variable {chain : Chain} {signer : Secp256k1MultisigSigner} {provider : TransactionDependencyProvider}

/-- Every collected signature is the wallet's signature of the message under a configured address
it holds. -/
theorem signatures_signed {message : Bytes} {tx : Transaction} {collected : List Bytes}
    (computed : signer.signatures message tx provider = ok collected) {signature : Bytes}
    (member : signature ∈ collected) :
    ∃ address ∈ signer.config.sighashAddresses, signer.wallet.matchId address.bytes ∧
      signer.wallet.sign address.bytes message tx provider = .ok signature := by
  obtain ⟨address, held, signedByWallet⟩ := mem_of_mapM_eq_ok computed member
  obtain ⟨configured, holds⟩ := List.mem_filter.mp held
  exact ⟨address, configured, holds, ofExcept_eq_ok.mp signedByWallet⟩

/-- A wallet that fills slots collects signatures that fill slots. -/
theorem signatures_slots (slotsSigned : signer.wallet.SignsSlots) {message : Bytes}
    {tx : Transaction} {collected : List Bytes}
    (computed : signer.signatures message tx provider = ok collected) :
    ∀ signature ∈ collected, signature.length = 65 ∧ signature ≠ zeroSlot := fun _ member =>
  have ⟨_, _, _, walletSigned⟩ := signatures_signed computed member
  slotsSigned _ _ _ _ _ walletSigned

/-- A deterministic wallet collects the same signatures whatever transaction it is shown. -/
theorem signatures_deterministic (deterministic : signer.wallet.Deterministic) (message : Bytes)
    (first second : Transaction) :
    signer.signatures message first provider = signer.signatures message second provider := by
  simp only [signatures, deterministic _ message first second provider]

/-- The call, with the group's first input fixed, as one chain of steps. -/
theorem signTx_eq {tx : Transaction} {group : ScriptGroup} {witnessIndex : Nat}
    (first : group.inputIndices.head? = some witnessIndex) :
    signer.signTx chain tx group provider =
      generateMessage chain (tx.setWitnesses (padWitnesses tx.witnesses witnessIndex)) group
          signer.config.zeroLock >>= fun message =>
        signer.signatures message tx provider >>= fun collected =>
          WitnessArgs.parseOrDefault (tx.witnesses.getD witnessIndex []) >>= fun current =>
            (fun lockField => tx.withWitness witnessIndex (current.withLock (some lockField))) <$>
              placeSignatures signer.config.toWitnessData.length collected
                (current.lock.getD signer.config.zeroLock) := by
  obtain ⟨later, indices⟩ := List.head?_eq_some_iff.mp first
  simp only [signTx, ScriptGroup.firstInputIndex, indices, ok_bind, pure_eq, bind_ok_eq_map,
    getD_padWitnesses, Transaction.withWitness]

/-- Signing commutes with overwriting a witness that is already there, below the input count and
outside the group: the call reads neither the witness nor its position. -/
theorem signTx_set_of_not_mem {tx : Transaction} {group : ScriptGroup}
    (deterministic : signer.wallet.Deterministic) {index : Nat} (outside : index ∉ group.inputIndices)
    (input : index < tx.raw.inputs.length) (present : index < tx.witnesses.length) (witness : Bytes) :
    signer.signTx chain (tx.setWitnesses (tx.witnesses.set index witness)) group provider =
      (fun signed => signed.setWitnesses (signed.witnesses.set index witness)) <$>
        signer.signTx chain tx group provider := by
  cases first : group.inputIndices.head? with
  | none =>
    have indices : group.inputIndices = [] := List.head?_eq_none_iff.mp first
    simp [signTx, ScriptGroup.firstInputIndex, indices]
  | some witnessIndex =>
    have apart : index ≠ witnessIndex := by
      rintro rfl
      exact outside (List.mem_of_mem_head? first)
    rw [signTx_eq first, signTx_eq first]
    simp only [Transaction.witnesses_setWitnesses, Transaction.setWitnesses_setWitnesses,
      padWitnesses_set present, generateMessage_set_of_not_mem outside input,
      signatures_deterministic deterministic _ (tx.setWitnesses _) tx, List.getD_eq_getElem?_getD,
      List.getElem?_set_ne apart, map_bind, Functor.map_map,
      Transaction.withWitness_set present apart]

/-- The multisig signer fails only with a wallet error, a witness `i` that does not parse, or
too many signatures. -/
theorem signTx_eq_err {tx : Transaction} {group : ScriptGroup} {error : SignError}
    (failed : signer.signTx chain tx group provider = err error) :
    (∃ walletError, error = .wallet walletError) ∨
      (∃ verification, error = .invalidWitnessArgs verification) ∨ error = .tooManySignatures := by
  cases first : group.inputIndices.head? with
  | none =>
    have indices : group.inputIndices = [] := List.head?_eq_none_iff.mp first
    simp [signTx, ScriptGroup.firstInputIndex, indices] at failed
  | some witnessIndex =>
    rw [signTx_eq first] at failed
    rcases bind_eq_err.mp failed with messageFailed | ⟨message, _, rest⟩
    · exact .inr (.inl (generateMessage_eq_err first (lt_length_padWitnesses _ _) messageFailed))
    · rcases bind_eq_err.mp rest with collectFailed | ⟨collected, _, rest⟩
      · obtain ⟨_, _, walletFailed⟩ := mapM_eq_err collectFailed
        obtain ⟨cause, _, rfl⟩ := ofExcept_eq_err.mp walletFailed
        exact .inl ⟨cause, rfl⟩
      · rcases bind_eq_err.mp rest with parseFailed | ⟨current, _, placeFailed⟩
        · exact .inr (.inl (WitnessArgs.parseOrDefault_eq_err parseFailed))
        · exact .inr (.inr (placeSignatures_eq_err (map_eq_err.mp placeFailed)))

/-- A successful call computed the message of the padded transaction. -/
theorem generateMessage_of_signTx {tx signed : Transaction} {group : ScriptGroup}
    {witnessIndex : Nat} (first : group.inputIndices.head? = some witnessIndex)
    (computed : signer.signTx chain tx group provider = ok signed) :
    ∃ message, generateMessage chain (tx.setWitnesses (padWitnesses tx.witnesses witnessIndex)) group
      signer.config.zeroLock = ok message := by
  rw [signTx_eq first] at computed
  obtain ⟨message, messaged, -⟩ := bind_eq_ok.mp computed
  exact ⟨message, messaged⟩

/-- A lock of the zero lock's length fits wherever the zero lock fits. -/
theorem fits_slotLock {config : MultisigConfig} {base : WitnessArgs}
    (fits : (base.withLock (some config.zeroLock)).asBytes.length < 2 ^ 32) {filled : List Bytes}
    (whole : ∀ slot ∈ filled, slot.length = 65) (bounded : filled.length ≤ config.threshold.toNat) :
    (base.withLock (some (config.slotLock filled))).asBytes.length < 2 ^ 32 := by
  have sameLength : (config.slotLock filled).length = config.zeroLock.length := by
    rw [config.length_slotLock whole bounded, MultisigConfig.length_zeroLock]
  rwa [base.length_withLock_congr sameLength]

section Turns

variable {tx : Transaction} {group : ScriptGroup} {witnessIndex : Nat} {base : WitnessArgs}

/-- A call on a transaction whose witness `i` is `base` under some lock: the message and the
signatures are those of the original transaction, and only the lock is walked. -/
theorem signTx_withWitness {lock : Bytes} (first : group.inputIndices.head? = some witnessIndex)
    (increasing : group.inputIndices.Sorted (· < ·)) (input : witnessIndex < tx.raw.inputs.length)
    (parsed : WitnessArgs.parseOrDefault (tx.witnesses.getD witnessIndex []) = ok base)
    (fits : (base.withLock (some lock)).asBytes.length < 2 ^ 32)
    (deterministic : signer.wallet.Deterministic) :
    signer.signTx chain (tx.withWitness witnessIndex (base.withLock (some lock))) group provider =
      generateMessage chain (tx.setWitnesses (padWitnesses tx.witnesses witnessIndex)) group
          signer.config.zeroLock >>= fun message =>
        signer.signatures message tx provider >>= fun collected =>
          (fun lockField => tx.withWitness witnessIndex (base.withLock (some lockField))) <$>
            placeSignatures signer.config.toWitnessData.length collected lock := by
  have sameSignatures : ∀ message, signer.signatures message
      (tx.withWitness witnessIndex (base.withLock (some lock))) provider =
        signer.signatures message tx provider :=
    fun message => signatures_deterministic deterministic message _ tx
  simp only [signTx_eq first, Transaction.padWitnesses_withWitness, Transaction.setWitnesses_self,
    generateMessage_withWitness first increasing input parsed fits, Transaction.getD_withWitness,
    WitnessArgs.parseOrDefault_asBytes fits, sameSignatures, ok_bind, WitnessArgs.withLock_lock,
    Option.getD_some, WitnessArgs.withLock_withLock, Transaction.withWitness_withWitness]

/-- On a witness without a lock, the call walks the zero lock; it is the call on the same
transaction with the zero lock written in. -/
theorem signTx_lockless (first : group.inputIndices.head? = some witnessIndex)
    (increasing : group.inputIndices.Sorted (· < ·)) (input : witnessIndex < tx.raw.inputs.length)
    (parsed : WitnessArgs.parseOrDefault (tx.witnesses.getD witnessIndex []) = ok base)
    (lockless : base.lock = none)
    (fits : (base.withLock (some signer.config.zeroLock)).asBytes.length < 2 ^ 32)
    (deterministic : signer.wallet.Deterministic) :
    signer.signTx chain tx group provider =
      signer.signTx chain (tx.withWitness witnessIndex (base.withLock (some signer.config.zeroLock)))
        group provider := by
  rw [signTx_withWitness first increasing input parsed fits deterministic, signTx_eq first]
  simp only [parsed, ok_bind, lockless, Option.getD_none]

/-- One party's turn on a signed transaction, in the abstract: the signatures its wallet collects
over the message are added to the filled slots, and the turn fails past the threshold. -/
theorem signTx_slotLock_eq_ok {config : MultisigConfig} (configured : signer.config = config)
    (deterministic : signer.wallet.Deterministic) (slotsSigned : signer.wallet.SignsSlots)
    (first : group.inputIndices.head? = some witnessIndex)
    (increasing : group.inputIndices.Sorted (· < ·)) (input : witnessIndex < tx.raw.inputs.length)
    (parsed : WitnessArgs.parseOrDefault (tx.witnesses.getD witnessIndex []) = ok base)
    (fits : (base.withLock (some config.zeroLock)).asBytes.length < 2 ^ 32) {message : Bytes}
    (messaged : generateMessage chain (tx.setWitnesses (padWitnesses tx.witnesses witnessIndex)) group
      config.zeroLock = ok message)
    {filled : List Bytes} (filledSlots : ∀ slot ∈ filled, slot.length = 65 ∧ slot ≠ zeroSlot)
    (bounded : filled.length ≤ config.threshold.toNat) {signed : Transaction} :
    signer.signTx chain (tx.withWitness witnessIndex (base.withLock (some (config.slotLock filled))))
        group provider = ok signed ↔
      ∃ collected, signer.signatures message tx provider = ok collected ∧
        (collected.foldl addSignature filled).length ≤ config.threshold.toNat ∧
        signed = tx.withWitness witnessIndex
          (base.withLock (some (config.slotLock (collected.foldl addSignature filled)))) := by
  subst configured
  rw [signTx_withWitness first increasing input parsed
    (fits_slotLock fits (fun slot member => (filledSlots slot member).1) bounded) deterministic,
    messaged, ok_bind]
  cases collecting : signer.signatures message tx provider with
  | ok collected =>
    rw [ok_bind, signer.config.placeSignatures_slotLock (signatures_slots slotsSigned collecting)
      filledSlots bounded]
    simp only [ok.injEq, exists_eq_left']
    split
    · next within => simp [within, @eq_comm _ signed]
    · next over => simp [over]
  | err error => simp
  | panic => simp

/-- One party's turn on a signed transaction, as one formula: the wallet's signatures over the
message are added to the filled slots, or the turn fails past the threshold. -/
theorem signTx_slotLock_eq {config : MultisigConfig} (configured : signer.config = config)
    (deterministic : signer.wallet.Deterministic) (slotsSigned : signer.wallet.SignsSlots)
    (first : group.inputIndices.head? = some witnessIndex)
    (increasing : group.inputIndices.Sorted (· < ·)) (input : witnessIndex < tx.raw.inputs.length)
    (parsed : WitnessArgs.parseOrDefault (tx.witnesses.getD witnessIndex []) = ok base)
    (fits : (base.withLock (some config.zeroLock)).asBytes.length < 2 ^ 32) {message : Bytes}
    (messaged : generateMessage chain (tx.setWitnesses (padWitnesses tx.witnesses witnessIndex)) group
      config.zeroLock = ok message)
    {filled : List Bytes} (filledSlots : ∀ slot ∈ filled, slot.length = 65 ∧ slot ≠ zeroSlot)
    (bounded : filled.length ≤ config.threshold.toNat) :
    signer.signTx chain (tx.withWitness witnessIndex (base.withLock (some (config.slotLock filled))))
        group provider =
      signer.signatures message tx provider >>= fun collected =>
        if (collected.foldl addSignature filled).length ≤ config.threshold.toNat then
          ok (tx.withWitness witnessIndex
            (base.withLock (some (config.slotLock (collected.foldl addSignature filled)))))
        else err .tooManySignatures := by
  subst configured
  rw [signTx_withWitness first increasing input parsed
    (fits_slotLock fits (fun slot member => (filledSlots slot member).1) bounded) deterministic,
    messaged, ok_bind]
  cases collecting : signer.signatures message tx provider with
  | ok collected =>
    rw [ok_bind, ok_bind, signer.config.placeSignatures_slotLock
      (signatures_slots slotsSigned collecting) filledSlots bounded]
    split <;> rfl
  | err error => rfl
  | panic => rfl

end Turns

/-- Signing a signed transaction again returns it unchanged, for a deterministic wallet that
never signs with a zero slot: the message and the signatures are the same, and every signature is
found where the first call put it. -/
theorem signTx_idempotent {tx signed : Transaction} {group : ScriptGroup}
    (wellFormed : group.WellFormed tx) (deterministic : signer.wallet.Deterministic)
    (nonzero : ∀ ownerId message tx provider signature,
      signer.wallet.sign ownerId message tx provider = .ok signature → signature ≠ zeroSlot)
    (sized : signed.Sized) (computed : signer.signTx chain tx group provider = ok signed) :
    signer.signTx chain signed group provider = ok signed := by
  obtain ⟨witnessIndex, first⟩ := Option.ne_none_iff_exists'.mp
    (mt List.head?_eq_none_iff.mp wellFormed.nonempty)
  rw [signTx_eq first] at computed
  obtain ⟨message, messaged, afterMessage⟩ := bind_eq_ok.mp computed
  obtain ⟨collected, collecting, afterCollecting⟩ := bind_eq_ok.mp afterMessage
  obtain ⟨current, parsed, placing⟩ := bind_eq_ok.mp afterCollecting
  obtain ⟨lockField, placed, rfl⟩ := map_eq_ok.mp placing
  have collectedNonzero : ∀ signature ∈ collected, signature ≠ zeroSlot := fun signature member =>
    have ⟨_, _, _, walletSigned⟩ := signatures_signed collecting member
    nonzero _ _ _ _ _ walletSigned
  rw [signTx_withWitness first wellFormed.increasing (wellFormed.first_input first) parsed
    sized.fits_withWitness deterministic, messaged, ok_bind, collecting, ok_bind,
    placeSignatures_idempotent collectedNonzero placed, map_ok]

end Secp256k1MultisigSigner

namespace Sample

/-- A two-of-two config over the addresses `0x0101..` and `0x0202..`. -/
def multisigConfig : MultisigConfig :=
  ⟨[⟨List.replicate 20 1, rfl⟩, ⟨List.replicate 20 2, rfl⟩], 0, 2, by decide, by decide, by decide⟩

/-- The party holding the address of bytes `index`, signing with 65 bytes of `index`. -/
def multisigParty (index : UInt8) : Secp256k1MultisigSigner :=
  Secp256k1MultisigSigner.new chain
    ⟨fun id => id == List.replicate 20 index, fun _ _ _ _ => .ok (List.replicate 65 index)⟩
    multisigConfig

end Sample

set_option maxRecDepth 4000 in
/-- The walk signs into a lock field whose header is not the config's, and panics on one whose
slot region is not whole slots: the sample party signs a witness whose lock is 44 bytes of sevens
and two zero slots, and panics on the config data followed by 10 zero bytes. -/
theorem multisig_signs_foreign_lock :
    List.replicate 44 7 ≠ Sample.multisigConfig.toWitnessData ∧
      (Sample.multisigParty 1).signTx Sample.chain
          (Sample.tx.withWitness 0 (WitnessArgs.empty.withLock
            (some (List.replicate 44 7 ++ zeroSlot ++ zeroSlot)))) Sample.group Sample.provider =
        ok (Sample.tx.withWitness 0 (WitnessArgs.empty.withLock
          (some (List.replicate 44 7 ++ List.replicate 65 1 ++ zeroSlot)))) ∧
      (Sample.multisigParty 1).signTx Sample.chain
          (Sample.tx.withWitness 0 (WitnessArgs.empty.withLock
            (some (Sample.multisigConfig.toWitnessData ++ List.replicate 10 0)))) Sample.group
          Sample.provider = panic :=
  ⟨by decide, rfl, rfl⟩

namespace Secp256k1MultisigSigner

variable {chain : Chain} {signer : Secp256k1MultisigSigner} {provider : TransactionDependencyProvider}
  {tx : Transaction} {group : ScriptGroup} {witnessIndex : Nat} {base : WitnessArgs}

/-- On a witness whose lock is a header as long as the config data, whole slots and a short
tail, the call walks the slots as `placeAllInSlots` does and never reads the header: a header of
any content is signed into, and a walk that reaches a non-empty tail panics. -/
theorem signTx_headerSlots {header tail : Bytes} {slots : List Bytes}
    (first : group.inputIndices.head? = some witnessIndex)
    (increasing : group.inputIndices.Sorted (· < ·)) (input : witnessIndex < tx.raw.inputs.length)
    (parsed : WitnessArgs.parseOrDefault (tx.witnesses.getD witnessIndex []) = ok base)
    (fits : (base.withLock (some (header ++ slots.flatten ++ tail))).asBytes.length < 2 ^ 32)
    (deterministic : signer.wallet.Deterministic)
    (headerLength : header.length = signer.config.toWitnessData.length)
    (whole : ∀ slot ∈ slots, slot.length = 65) (short : tail.length < 65) :
    signer.signTx chain
        (tx.withWitness witnessIndex (base.withLock (some (header ++ slots.flatten ++ tail))))
        group provider =
      generateMessage chain (tx.setWitnesses (padWitnesses tx.witnesses witnessIndex)) group
          signer.config.zeroLock >>= fun message =>
        signer.signatures message tx provider >>= fun collected =>
          (fun placed => tx.withWitness witnessIndex
              (base.withLock (some (header ++ placed.flatten ++ tail)))) <$>
            placeAllInSlots tail collected slots := by
  rw [signTx_withWitness first increasing input parsed fits deterministic, ← headerLength]
  simp only [placeSignatures_slots header tail short _ slots whole, Functor.map_map]

end Secp256k1MultisigSigner

set_option maxRecDepth 4000 in
/-- The sample: the party walks a lock of 44 bytes of sevens, which is not its config data, and
two zero slots. -/
theorem signTx_headerSlots_sample :
    (Sample.multisigParty 1).signTx Sample.chain
        (Sample.tx.withWitness 0 (WitnessArgs.empty.withLock
          (some (List.replicate 44 7 ++ [zeroSlot, zeroSlot].flatten ++ []))))
        Sample.group Sample.provider =
      generateMessage Sample.chain (Sample.tx.setWitnesses (padWitnesses Sample.tx.witnesses 0))
          Sample.group (Sample.multisigParty 1).config.zeroLock >>= fun message =>
        (Sample.multisigParty 1).signatures message Sample.tx Sample.provider >>= fun collected =>
          (fun placed => Sample.tx.withWitness 0
              (WitnessArgs.empty.withLock (some (List.replicate 44 7 ++ placed.flatten ++ [])))) <$>
            placeAllInSlots [] collected [zeroSlot, zeroSlot] :=
  Secp256k1MultisigSigner.signTx_headerSlots rfl (by decide) (by decide) rfl (by decide)
    (fun _ _ _ _ _ => rfl) rfl (by decide) (by decide)

end CkbSdk
