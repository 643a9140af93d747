import CkbSdk.Unlock.Message
import Mathlib.Data.List.Nodup
import Mathlib.Data.Finset.Card

/-!
# The multisig slot loop

`Secp256k1MultisigSigner::sign_tx` writes each signature into the lock field by walking its
65-byte slots after the config data. The walk stops at a slot that already holds the signature,
fills the first zero slot it meets, and fails with `TooManySignatures` when it walks off the end.

The loop is modelled at two levels. `fillSlot` follows the source byte by byte, with its
indices, slices and panics. `placeInSlots` walks a list of whole slots. `fillSlot_slots` says
the two agree on every lock field cut into a header, whole slots and a short tail, and every lock
field can be cut so (`exists_slots`).

Over the slot level, the layouts the signer produces (filled slots, then zero slots) are closed
under placement, and `addSignature` says what placement does to the filled slots: a signature
already present changes nothing, a new one is appended. Over a whole run this is the library's
`eraseDups` of the new signatures, and the loop fails exactly when the filled slots and the
signatures, counted as sets, exceed the threshold (`placeSignatures_slotLayout`). For signatures
that are not a zero slot, placing them twice is placing them once (`placeSignatures_idempotent`).
-/

namespace CkbSdk

open Outcome

/-- `[0u8; 65]`: an unused slot. -/
def zeroSlot : Bytes := List.replicate 65 0

/-- An empty slot is 65 bytes. -/
@[simp] theorem length_zeroSlot : zeroSlot.length = 65 := rfl

/-- The slot walk of `sign_tx` for one signature, from byte `idx` of the lock field:
`while idx < lock_field.len()` compare `lock_field[idx..idx + 65]` with the signature (stop), then
with `[0u8; 65]` (copy the signature in and stop), else `idx += 65`; after the loop,
`idx >= lock_field.len()` is `TooManySignatures`. A slice past the end, and a copy of a signature
that is not 65 bytes, panic. `fuel` bounds the iterations; `placeSignature` passes more than the
walk can use. -/
def fillSlot (signature lockField : Bytes) : (fuel idx : Nat) → Outcome SignError Bytes
  | 0, _ => panic
  | fuel + 1, idx =>
    if idx < lockField.length then
      if lockField.length < idx + 65 then panic
      else if (lockField.drop idx).take 65 = signature then ok lockField
      else if (lockField.drop idx).take 65 = zeroSlot then
        if signature.length = 65 then ok (lockField.take idx ++ signature ++ lockField.drop (idx + 65))
        else panic
      else fillSlot signature lockField fuel (idx + 65)
    else err .tooManySignatures

/-- One iteration of `for signature in signatures`: the walk starts after the config data. -/
def placeSignature (configDataLength : Nat) (lockField signature : Bytes) :
    Outcome SignError Bytes :=
  fillSlot signature lockField (lockField.length + 1) configDataLength

/-- The loop `for signature in signatures` of `sign_tx`. -/
def placeSignatures (configDataLength : Nat) (signatures : List Bytes) (lockField : Bytes) :
    Outcome SignError Bytes :=
  signatures.foldlM (placeSignature configDataLength) lockField

/-- The slot walk over whole slots. `tail` is what follows the last whole slot: a walk that
reaches a non-empty tail slices past the end and panics. -/
def placeInSlots (signature tail : Bytes) : List Bytes → Outcome SignError (List Bytes)
  | [] => if tail = [] then err .tooManySignatures else panic
  | slot :: slots =>
    if slot = signature then ok (slot :: slots)
    else if slot = zeroSlot then
      if signature.length = 65 then ok (signature :: slots) else panic
    else (slot :: ·) <$> placeInSlots signature tail slots

/-- The loop over the signatures, at the slot level. -/
def placeAllInSlots (tail : Bytes) (signatures slots : List Bytes) : Outcome SignError (List Bytes) :=
  signatures.foldlM (fun slots signature => placeInSlots signature tail slots) slots

/-- Placing no signature leaves the lock field. -/
@[simp] theorem placeSignatures_nil (configDataLength : Nat) (lockField : Bytes) :
    placeSignatures configDataLength [] lockField = ok lockField := rfl

/-- Signatures are placed one after another, each into the lock field the last one left. -/
@[simp] theorem placeSignatures_cons (configDataLength : Nat) (signature : Bytes)
    (signatures : List Bytes) (lockField : Bytes) :
    placeSignatures configDataLength (signature :: signatures) lockField =
      placeSignature configDataLength lockField signature >>=
        placeSignatures configDataLength signatures := rfl

/-- Placing no signature leaves the slots. -/
@[simp] theorem placeAllInSlots_nil (tail : Bytes) (slots : List Bytes) :
    placeAllInSlots tail [] slots = ok slots := rfl

/-- Signatures are placed into slots one after another. -/
@[simp] theorem placeAllInSlots_cons (tail signature : Bytes) (signatures slots : List Bytes) :
    placeAllInSlots tail (signature :: signatures) slots =
      placeInSlots signature tail slots >>= placeAllInSlots tail signatures := rfl

/-- The walk fails only with `TooManySignatures`; every other way out is a result or a panic. -/
theorem fillSlot_eq_err {signature lockField : Bytes} {error : SignError} :
    ∀ {fuel idx : Nat}, fillSlot signature lockField fuel idx = err error → error = .tooManySignatures
  | 0, _, failed => by cases failed
  | fuel + 1, idx, failed => by
    unfold fillSlot at failed
    split at failed
    · split at failed
      · cases failed
      · split at failed
        · cases failed
        · split at failed
          · split at failed <;> cases failed
          · exact fillSlot_eq_err failed
    · cases failed
      rfl

/-- The loop over the signatures fails only with `TooManySignatures`. -/
theorem placeSignatures_eq_err {configDataLength : Nat} {signatures : List Bytes} {lockField : Bytes}
    {error : SignError} (failed : placeSignatures configDataLength signatures lockField = err error) :
    error = .tooManySignatures := by
  obtain ⟨_, _, _, stepped⟩ := foldlM_eq_err failed
  exact fillSlot_eq_err stepped

section Refinement

/-- The 65 bytes at the start of a slot are the slot. -/
theorem take_drop_slot {header slot rest : Bytes} (whole : slot.length = 65) :
    ((header ++ slot ++ rest).drop header.length).take 65 = slot := by
  rw [List.append_assoc, List.drop_left, List.take_left' whole]

/-- Whole slots take 65 bytes each. -/
theorem length_flatten_slots {slots : List Bytes} (whole : ∀ slot ∈ slots, slot.length = 65) :
    slots.flatten.length = 65 * slots.length := by
  induction slots with
  | nil => rfl
  | cons slot slots inductionHypothesis =>
    simp only [List.flatten_cons, List.length_append, List.length_cons,
      whole slot (List.mem_cons_self _ _),
      inductionHypothesis (fun other member => whole other (List.mem_cons_of_mem _ member))]
    omega

/-- A walk that starts at or past the end of the lock field fails at once. -/
theorem fillSlot_of_le {signature lockField : Bytes} {fuel idx : Nat}
    (outside : lockField.length ≤ idx) :
    fillSlot signature lockField (fuel + 1) idx = err .tooManySignatures := by
  simp [fillSlot, Nat.not_lt.mpr outside]

/-- The byte-level walk refines the slot-level one: on a header followed by whole slots and a
tail shorter than a slot, with fuel for every slot, it returns what `placeInSlots` returns,
reassembled. -/
theorem fillSlot_slots (signature tail : Bytes) (slots : List Bytes)
    (whole : ∀ slot ∈ slots, slot.length = 65) (short : tail.length < 65) :
    ∀ (header : Bytes) (fuel : Nat), slots.length < fuel →
      fillSlot signature (header ++ slots.flatten ++ tail) fuel header.length =
        (fun slots => header ++ slots.flatten ++ tail) <$> placeInSlots signature tail slots := by
  induction slots with
  | nil =>
    intro header fuel enough
    obtain ⟨fuel, rfl⟩ := Nat.exists_eq_add_of_lt enough
    by_cases empty : tail = []
    · subst empty
      simp [fillSlot, placeInSlots]
    · have longer : 0 < tail.length := List.length_pos.mpr empty
      simp [fillSlot, placeInSlots, empty, longer, short]
  | cons slot slots inductionHypothesis =>
    intro header fuel enough
    obtain ⟨fuel, rfl⟩ := Nat.exists_eq_add_of_lt (Nat.zero_lt_of_lt enough)
    have slotLength := whole slot (List.mem_cons_self slot slots)
    have lockField : header ++ (slot :: slots).flatten ++ tail =
        header ++ slot ++ (slots.flatten ++ tail) := by simp
    have read : ((header ++ slot ++ (slots.flatten ++ tail)).drop header.length).take 65 = slot :=
      take_drop_slot slotLength
    have inside : header.length < (header ++ slot ++ (slots.flatten ++ tail)).length := by
      simp [slotLength]
    have fitsSlot : ¬ (header ++ slot ++ (slots.flatten ++ tail)).length < header.length + 65 := by
      simp [slotLength]
    rw [lockField]
    simp only [fillSlot, inside, fitsSlot, read, if_true, if_false, placeInSlots]
    by_cases found : slot = signature
    · simp [found]
    · by_cases empty : slot = zeroSlot
      · subst empty
        by_cases signed : signature.length = 65
        · have front : (header ++ zeroSlot ++ (slots.flatten ++ tail)).take header.length = header := by
            simp
          have back : (header ++ zeroSlot ++ (slots.flatten ++ tail)).drop (header.length + 65) =
              slots.flatten ++ tail := by
            rw [List.append_assoc, List.drop_append_eq_append_drop]
            simp
          simp [found, signed, front, back]
        · simp [found, signed]
      · have next := inductionHypothesis (fun slot member => whole slot (List.mem_cons_of_mem _ member))
          (header ++ slot) fuel (by simp only [List.length_cons] at enough; omega)
        simp only [List.length_append, slotLength, List.append_assoc] at next
        simp [found, empty, next, Functor.map_map]

/-- Every byte string is whole 65-byte slots followed by a tail shorter than a slot. -/
theorem exists_slots (body : Bytes) :
    ∃ (slots : List Bytes) (tail : Bytes), body = slots.flatten ++ tail ∧
      (∀ slot ∈ slots, slot.length = 65) ∧
      tail.length < 65 ∧ slots.length ≤ body.length := by
  by_cases short : body.length < 65
  · exact ⟨[], body, by simp, by simp, short, by simp⟩
  · obtain ⟨slots, tail, split, whole, tailShort, count⟩ := exists_slots (body.drop 65)
    refine ⟨body.take 65 :: slots, tail, ?_, ?_, tailShort, ?_⟩
    · rw [List.flatten_cons, List.append_assoc, ← split, List.take_append_drop]
    · intro slot member
      rcases List.mem_cons.mp member with rfl | later
      · simp only [List.length_take]
        omega
      · exact whole slot later
    · simp only [List.length_drop, List.length_cons] at count ⊢
      omega
termination_by body.length
decreasing_by
  simp only [List.length_drop]
  omega

end Refinement

section Placement

variable {signature tail : Bytes}

/-- A placement keeps the number of slots and keeps every slot whole. -/
theorem placeInSlots_whole {slots placed : List Bytes} (whole : ∀ slot ∈ slots, slot.length = 65)
    (computed : placeInSlots signature tail slots = ok placed) :
    placed.length = slots.length ∧ ∀ slot ∈ placed, slot.length = 65 := by
  induction slots generalizing placed with
  | nil =>
    simp only [placeInSlots] at computed
    split at computed <;> cases computed
  | cons slot slots inductionHypothesis =>
    have rest := fun other member => whole other (List.mem_cons_of_mem slot member)
    simp only [placeInSlots] at computed
    split at computed
    · cases computed
      exact ⟨rfl, whole⟩
    · split at computed
      · split at computed
        · cases computed
          exact ⟨rfl, fun other member => by
            rcases List.mem_cons.mp member with rfl | later
            · assumption
            · exact rest other later⟩
        · cases computed
      · obtain ⟨placedRest, inner, rfl⟩ := map_eq_ok.mp computed
        obtain ⟨count, wholeRest⟩ := inductionHypothesis rest inner
        exact ⟨by simp [count], fun other member => by
          rcases List.mem_cons.mp member with rfl | later
          · exact whole other (List.mem_cons_self other slots)
          · exact wholeRest other later⟩

/-- The loop over the signatures keeps the slots whole. -/
theorem placeAllInSlots_whole {signatures slots placed : List Bytes}
    (whole : ∀ slot ∈ slots, slot.length = 65)
    (computed : placeAllInSlots tail signatures slots = ok placed) :
    ∀ slot ∈ placed, slot.length = 65 := by
  induction signatures generalizing slots with
  | nil =>
    cases computed
    exact whole
  | cons signature signatures inductionHypothesis =>
    obtain ⟨middle, placedFirst, placedRest⟩ := bind_eq_ok.mp computed
    exact inductionHypothesis (placeInSlots_whole whole placedFirst).2 placedRest

end Placement

/-- The whole loop refines the slot-level loop on every lock field cut into a header of the
config data's length, whole slots and a short tail. -/
theorem placeSignatures_slots (header tail : Bytes) (short : tail.length < 65)
    (signatures : List Bytes) :
    ∀ slots : List Bytes, (∀ slot ∈ slots, slot.length = 65) →
      placeSignatures header.length signatures (header ++ slots.flatten ++ tail) =
        (fun slots => header ++ slots.flatten ++ tail) <$> placeAllInSlots tail signatures slots := by
  induction signatures with
  | nil => intro slots whole; rfl
  | cons signature signatures inductionHypothesis =>
    intro slots whole
    have enough : slots.length < (header ++ slots.flatten ++ tail).length + 1 := by
      simp only [List.length_append, length_flatten_slots whole]
      omega
    rw [placeSignatures_cons, placeSignature, fillSlot_slots signature tail slots whole short header _ enough,
      placeAllInSlots_cons, bind_map_left]
    cases placed : placeInSlots signature tail slots with
    | ok placedSlots =>
      exact inductionHypothesis placedSlots (placeInSlots_whole whole placed).2
    | err error => rfl
    | panic => rfl

section Layout

/-- The slot region the signer builds: the filled slots, then zero slots up to the threshold. -/
def slotLayout (threshold : Nat) (filled : List Bytes) : List Bytes :=
  filled ++ List.replicate (threshold - filled.length) zeroSlot

/-- What placing one signature does to the filled slots: nothing if it is there already, append
it otherwise. -/
def addSignature (filled : List Bytes) (signature : Bytes) : List Bytes :=
  if signature ∈ filled then filled else filled ++ [signature]

/-- Recording a signature adds it to those recorded before. -/
theorem mem_addSignature {filled : List Bytes} {signature slot : Bytes} :
    slot ∈ addSignature filled signature ↔ slot ∈ filled ∨ slot = signature := by
  unfold addSignature
  split
  · next present => exact ⟨.inl, fun member => member.elim id (· ▸ present)⟩
  · simp

/-- Placing a 65-byte signature that is not a zero slot into non-zero slots followed by zero
slots: it is found, or it takes the first zero slot, or there is none. -/
theorem placeInSlots_filled {signature : Bytes} (signed : signature.length = 65)
    (nonzero : signature ≠ zeroSlot) (zeros : Nat) (filled : List Bytes)
    (filledNonzero : ∀ slot ∈ filled, slot ≠ zeroSlot) :
    placeInSlots signature [] (filled ++ List.replicate zeros zeroSlot) =
      if signature ∈ filled then ok (filled ++ List.replicate zeros zeroSlot)
      else if zeros = 0 then err .tooManySignatures
      else ok (filled ++ signature :: List.replicate (zeros - 1) zeroSlot) := by
  induction filled with
  | nil =>
    cases zeros with
    | zero => rfl
    | succ zeros => simp [placeInSlots, nonzero.symm, signed]
  | cons slot filled inductionHypothesis =>
    have slotNonzero := filledNonzero slot (List.mem_cons_self slot filled)
    rw [List.cons_append, placeInSlots,
      inductionHypothesis fun other member => filledNonzero other (List.mem_cons_of_mem slot member)]
    by_cases found : slot = signature
    · simp [found]
    · by_cases inRest : signature ∈ filled
      · simp [found, slotNonzero, inRest]
      · by_cases full : zeros = 0 <;> simp [found, slotNonzero, inRest, full, Ne.symm found]

/-- Placement in the layout, stated on the filled slots: within the threshold it appends a new
signature; past it, it fails. -/
theorem placeInSlots_slotLayout {signature : Bytes} (signed : signature.length = 65)
    (nonzero : signature ≠ zeroSlot) {threshold : Nat} {filled : List Bytes}
    (filledNonzero : ∀ slot ∈ filled, slot ≠ zeroSlot) (bounded : filled.length ≤ threshold) :
    placeInSlots signature [] (slotLayout threshold filled) =
      if (addSignature filled signature).length ≤ threshold then
        ok (slotLayout threshold (addSignature filled signature))
      else err .tooManySignatures := by
  rw [slotLayout, placeInSlots_filled signed nonzero _ filled filledNonzero]
  by_cases present : signature ∈ filled
  · simp [addSignature, present, bounded, slotLayout]
  · by_cases full : threshold - filled.length = 0
    · have over : ¬ filled.length + 1 ≤ threshold := by omega
      simp [addSignature, present, full, over]
    · have within : filled.length + 1 ≤ threshold := by omega
      have zeros : threshold - (filled.length + 1) = threshold - filled.length - 1 := by omega
      simp [addSignature, present, full, within, slotLayout, zeros]

/-- Adding signatures never removes a filled slot. -/
theorem prefix_foldl_addSignature (signatures filled : List Bytes) :
    filled <+: signatures.foldl addSignature filled := by
  induction signatures generalizing filled with
  | nil => exact List.prefix_refl filled
  | cons signature signatures inductionHypothesis =>
    refine List.IsPrefix.trans ?_ (inductionHypothesis (addSignature filled signature))
    unfold addSignature
    split
    · exact List.prefix_refl filled
    · exact List.prefix_append filled [signature]

/-- The filled slots after adding signatures are the old ones and the added ones. -/
theorem mem_foldl_addSignature {signatures filled : List Bytes} {slot : Bytes} :
    slot ∈ signatures.foldl addSignature filled ↔ slot ∈ filled ∨ slot ∈ signatures := by
  induction signatures generalizing filled with
  | nil => simp
  | cons signature signatures inductionHypothesis =>
    rw [List.foldl_cons, inductionHypothesis, mem_addSignature, List.mem_cons, or_assoc]

/-- Adding signatures that fill slots to slots that are filled keeps every slot filled. -/
theorem slots_foldl_addSignature {signatures filled : List Bytes}
    (filledSlots : ∀ slot ∈ filled, slot.length = 65 ∧ slot ≠ zeroSlot)
    (signed : ∀ signature ∈ signatures, signature.length = 65 ∧ signature ≠ zeroSlot) :
    ∀ slot ∈ signatures.foldl addSignature filled, slot.length = 65 ∧ slot ≠ zeroSlot :=
  fun slot member => (mem_foldl_addSignature.mp member).elim (filledSlots slot) (signed slot)

/-- Adding signatures keeps the filled slots distinct. -/
theorem nodup_foldl_addSignature (signatures : List Bytes) {filled : List Bytes}
    (distinct : filled.Nodup) : (signatures.foldl addSignature filled).Nodup := by
  induction signatures generalizing filled with
  | nil => exact distinct
  | cons signature signatures inductionHypothesis =>
    apply inductionHypothesis
    unfold addSignature
    split
    · exact distinct
    · exact distinct.append (List.nodup_singleton signature) (by simpa)

/-- Signatures added in another order fill the same slots, up to order. -/
theorem perm_foldl_addSignature {signatures reordered : List Bytes}
    (permuted : signatures.Perm reordered) :
    (signatures.foldl addSignature []).Perm (reordered.foldl addSignature []) := by
  rw [List.perm_ext_iff_of_nodup (nodup_foldl_addSignature _ List.nodup_nil)
    (nodup_foldl_addSignature _ List.nodup_nil)]
  intro signature
  simp only [mem_foldl_addSignature, permuted.mem_iff]

/-- Two parties' signatures end in the same filled slots whichever adds first, up to order. -/
theorem perm_foldl_addSignature_append (first second : List Bytes) :
    ((first ++ second).foldl addSignature []).Perm ((second ++ first).foldl addSignature []) :=
  perm_foldl_addSignature List.perm_append_comm

/-- The loop over signatures in the layout: within the threshold it fills the slots
`addSignature` says, past it, it fails. -/
theorem placeAllInSlots_slotLayout (threshold : Nat) (signatures : List Bytes)
    (signed : ∀ signature ∈ signatures, signature.length = 65 ∧ signature ≠ zeroSlot) :
    ∀ filled : List Bytes, (∀ slot ∈ filled, slot ≠ zeroSlot) → filled.length ≤ threshold →
      placeAllInSlots [] signatures (slotLayout threshold filled) =
        if (signatures.foldl addSignature filled).length ≤ threshold then
          ok (slotLayout threshold (signatures.foldl addSignature filled))
        else err .tooManySignatures := by
  induction signatures with
  | nil => intro filled _ bounded; simp [bounded]
  | cons signature signatures inductionHypothesis =>
    intro filled filledNonzero bounded
    obtain ⟨length, nonzero⟩ := signed signature (List.mem_cons_self _ _)
    rw [placeAllInSlots_cons, placeInSlots_slotLayout length nonzero filledNonzero bounded,
      List.foldl_cons]
    split
    · next within =>
      refine inductionHypothesis (fun other member => signed other (List.mem_cons_of_mem _ member))
        _ (fun slot member => ?_) within
      rcases mem_addSignature.mp member with old | rfl
      · exact filledNonzero slot old
      · exact nonzero
    · next over =>
      have grows := (prefix_foldl_addSignature signatures (addSignature filled signature)).length_le
      simp only [err_bind]
      rw [if_neg (by omega)]

/-- The slots of the layout are whole when the filled ones are. -/
theorem slotLayout_whole {threshold : Nat} {filled : List Bytes}
    (whole : ∀ slot ∈ filled, slot.length = 65) :
    ∀ slot ∈ slotLayout threshold filled, slot.length = 65 := by
  intro slot member
  rcases List.mem_append.mp member with old | zero
  · exact whole slot old
  · rw [List.eq_of_mem_replicate zero, length_zeroSlot]

/-- The whole loop on a lock field made of a header and the layout: within the threshold it fills
the slots `addSignature` says, past it, it fails. -/
theorem placeSignatures_layout (header : Bytes) (threshold : Nat) {signatures filled : List Bytes}
    (signed : ∀ signature ∈ signatures, signature.length = 65 ∧ signature ≠ zeroSlot)
    (filledSlots : ∀ slot ∈ filled, slot.length = 65 ∧ slot ≠ zeroSlot)
    (bounded : filled.length ≤ threshold) :
    placeSignatures header.length signatures (header ++ (slotLayout threshold filled).flatten) =
      if (signatures.foldl addSignature filled).length ≤ threshold then
        ok (header ++ (slotLayout threshold (signatures.foldl addSignature filled)).flatten)
      else err .tooManySignatures := by
  have refined := placeSignatures_slots header [] (by decide) signatures (slotLayout threshold filled)
    (slotLayout_whole fun slot member => (filledSlots slot member).1)
  simp only [List.append_nil] at refined
  rw [refined, placeAllInSlots_slotLayout threshold signatures signed filled
    (fun slot member => (filledSlots slot member).2) bounded]
  split <;> rfl

/-- Adding to filled slots a signature that none of them holds adds it to the slots after them. -/
theorem addSignature_append {filled fresh : List Bytes} {signature : Bytes}
    (absent : signature ∉ filled) :
    addSignature (filled ++ fresh) signature = filled ++ addSignature fresh signature := by
  by_cases present : signature ∈ fresh <;> simp [addSignature, absent, present]

/-- Adding signatures to filled slots appends, after them, what adding the signatures they do not
hold appends to the empty ones. -/
theorem foldl_addSignature_append (filled signatures : List Bytes) :
    ∀ fresh : List Bytes, signatures.foldl addSignature (filled ++ fresh) =
      filled ++ (signatures.filter (· ∉ filled)).foldl addSignature fresh := by
  induction signatures with
  | nil => intro fresh; rfl
  | cons signature signatures inductionHypothesis =>
    intro fresh
    by_cases present : signature ∈ filled
    · have kept : addSignature (filled ++ fresh) signature = filled ++ fresh := by
        simp [addSignature, present]
      simp only [List.foldl_cons, List.filter_cons, present, kept, inductionHypothesis,
        not_true_eq_false, decide_False, Bool.false_eq_true, if_false]
    · simp only [List.foldl_cons, List.filter_cons, present, addSignature_append present,
        inductionHypothesis, not_false_eq_true, decide_True, if_true]

/-- The loop of the library's "eraseDups" adds each element as "addSignature" does, from the
elements it has kept so far. -/
theorem eraseDups_loop (signatures kept : List Bytes) :
    List.eraseDups.loop signatures kept = signatures.foldl addSignature kept.reverse := by
  induction signatures generalizing kept with
  | nil => rfl
  | cons signature signatures inductionHypothesis =>
    by_cases present : signature ∈ kept <;>
      simp [List.eraseDups.loop, present, addSignature, inductionHypothesis]

/-- "eraseDups", which keeps first occurrences, is adding to no filled slots. -/
theorem eraseDups_eq_foldl_addSignature (signatures : List Bytes) :
    signatures.eraseDups = signatures.foldl addSignature [] :=
  eraseDups_loop signatures []

/-- The filled slots after adding signatures are as many as the distinct filled slots and
signatures. -/
theorem card_union_eq_length_foldl_addSignature {filled : List Bytes} (distinct : filled.Nodup)
    (signatures : List Bytes) :
    (filled.toFinset ∪ signatures.toFinset).card = (signatures.foldl addSignature filled).length := by
  rw [← List.toFinset_card_of_nodup (nodup_foldl_addSignature signatures distinct)]
  congr 1
  ext slot
  simp [mem_foldl_addSignature]

/-- The slot loop of "sign_tx" on a lock field made of a header of the config data's length,
distinct filled slots and zero slots up to the threshold. It fails exactly when the filled slots
and the signatures are more than the threshold, counted as sets; otherwise it appends the
signatures not yet filled, each once in the order they first come, and keeps zero slots for the
rest of the threshold. -/
theorem placeSignatures_slotLayout (header : Bytes) (threshold : Nat) (filled signatures : List Bytes)
    (distinct : filled.Nodup) (filledSlots : ∀ slot ∈ filled, slot.length = 65 ∧ slot ≠ zeroSlot)
    (bounded : filled.length ≤ threshold)
    (signed : ∀ signature ∈ signatures, signature.length = 65 ∧ signature ≠ zeroSlot) :
    placeSignatures header.length signatures
        (header ++ (filled ++ List.replicate (threshold - filled.length) zeroSlot).flatten) =
      if threshold < (filled.toFinset ∪ signatures.toFinset).card then err .tooManySignatures
      else ok (header ++ (filled ++ (signatures.filter (· ∉ filled)).eraseDups ++
        List.replicate (threshold - (filled.toFinset ∪ signatures.toFinset).card) zeroSlot).flatten) := by
  have appended : signatures.foldl addSignature filled =
      filled ++ (signatures.filter (· ∉ filled)).eraseDups := by
    rw [eraseDups_eq_foldl_addSignature, ← foldl_addSignature_append, List.append_nil]
  rw [show filled ++ List.replicate (threshold - filled.length) zeroSlot = slotLayout threshold filled
      from rfl, placeSignatures_layout header threshold signed filledSlots bounded,
    card_union_eq_length_foldl_addSignature distinct, ← appended]
  by_cases over : threshold < (signatures.foldl addSignature filled).length
  · simp [over, Nat.not_le.mpr over]
  · simp [over, Nat.le_of_not_lt over, slotLayout]

/-- A two-slot lock field holding one signature: of three signatures, two of them the same new
one, the new one takes the zero slot. -/
theorem placeSignatures_slotLayout_sample :
    placeSignatures 1 [List.replicate 65 2, List.replicate 65 1, List.replicate 65 2]
        ([0] ++ List.replicate 65 1 ++ zeroSlot) =
      ok ([0] ++ List.replicate 65 1 ++ List.replicate 65 2) :=
  (placeSignatures_slotLayout [0] 2 [List.replicate 65 1]
    [List.replicate 65 2, List.replicate 65 1, List.replicate 65 2] (by decide) (by decide) (by decide)
    (by decide)).trans (by decide)

end Layout

section Idempotence

/-- The walk for `signature` stops without writing: it meets `signature` before any zero slot. -/
def Settled (signature : Bytes) : List Bytes → Prop
  | [] => False
  | slot :: slots => slot = signature ∨ (slot ≠ zeroSlot ∧ Settled signature slots)

/-- A settled signature leaves the slots as they are. -/
theorem placeInSlots_of_settled {signature tail : Bytes} {slots : List Bytes}
    (settled : Settled signature slots) : placeInSlots signature tail slots = ok slots := by
  induction slots with
  | nil => exact settled.elim
  | cons slot slots inductionHypothesis =>
    rw [placeInSlots]
    rcases settled with found | ⟨nonzero, later⟩
    · simp [found]
    · by_cases found : slot = signature
      · simp [found]
      · simp [found, nonzero, inductionHypothesis later]

/-- A placed signature is settled. -/
theorem settled_of_placeInSlots {signature tail : Bytes} {slots placed : List Bytes}
    (computed : placeInSlots signature tail slots = ok placed) : Settled signature placed := by
  induction slots generalizing placed with
  | nil =>
    simp only [placeInSlots] at computed
    split at computed <;> cases computed
  | cons slot slots inductionHypothesis =>
    simp only [placeInSlots] at computed
    split at computed
    · next found =>
      cases computed
      exact .inl found
    · split at computed
      · split at computed
        · cases computed
          exact .inl rfl
        · cases computed
      · next found empty =>
        obtain ⟨placedRest, inner, rfl⟩ := map_eq_ok.mp computed
        exact .inr ⟨empty, inductionHypothesis inner⟩

/-- Placing a signature keeps every other non-zero signature settled: the slot it writes was a
zero slot, which a settled signature's walk never reaches. -/
theorem settled_placeInSlots {signature tail other : Bytes} {slots placed : List Bytes}
    (otherNonzero : other ≠ zeroSlot) (computed : placeInSlots signature tail slots = ok placed)
    (settled : Settled other slots) : Settled other placed := by
  induction slots generalizing placed with
  | nil => exact settled.elim
  | cons slot slots inductionHypothesis =>
    simp only [placeInSlots] at computed
    split at computed
    · cases computed
      exact settled
    · split at computed
      · next empty =>
        rcases settled with found | ⟨nonzero, -⟩
        · exact absurd (found ▸ empty) otherNonzero
        · exact absurd empty nonzero
      · obtain ⟨placedRest, inner, rfl⟩ := map_eq_ok.mp computed
        rcases settled with found | ⟨nonzero, later⟩
        · exact .inl found
        · exact .inr ⟨nonzero, inductionHypothesis inner later⟩

/-- After the loop, every non-zero signature it placed is settled. -/
theorem settled_of_placeAllInSlots {tail : Bytes} {signatures slots placed : List Bytes}
    (nonzero : ∀ signature ∈ signatures, signature ≠ zeroSlot)
    (computed : placeAllInSlots tail signatures slots = ok placed) :
    ∀ signature ∈ signatures, Settled signature placed := by
  induction signatures generalizing slots with
  | nil => simp
  | cons signature signatures inductionHypothesis =>
    obtain ⟨middle, placedFirst, placedRest⟩ := bind_eq_ok.mp computed
    have later := inductionHypothesis (fun other member => nonzero other (List.mem_cons_of_mem _ member))
      placedRest
    have kept : ∀ (rest : List Bytes) (start : List Bytes),
        placeAllInSlots tail rest start = ok placed → (∀ other ∈ rest, other ≠ zeroSlot) →
          Settled signature start → Settled signature placed := by
      intro rest
      induction rest with
      | nil => intro start done _ settled; cases done; exact settled
      | cons next rest restHypothesis =>
        intro start done restNonzero settled
        obtain ⟨step, placedNext, placedLater⟩ := bind_eq_ok.mp done
        exact restHypothesis step placedLater
          (fun other member => restNonzero other (List.mem_cons_of_mem _ member))
          (settled_placeInSlots (nonzero signature (List.mem_cons_self _ _)) placedNext settled)
    intro other member
    rcases List.mem_cons.mp member with rfl | inRest
    · exact kept signatures middle placedRest
        (fun other member => nonzero other (List.mem_cons_of_mem _ member))
        (settled_of_placeInSlots placedFirst)
    · exact later other inRest

/-- Settled signatures leave the slots as they are. -/
theorem placeAllInSlots_of_settled {tail : Bytes} {signatures slots : List Bytes}
    (settled : ∀ signature ∈ signatures, Settled signature slots) :
    placeAllInSlots tail signatures slots = ok slots := by
  induction signatures with
  | nil => rfl
  | cons signature signatures inductionHypothesis =>
    rw [placeAllInSlots_cons, placeInSlots_of_settled (settled signature (List.mem_cons_self _ _)),
      ok_bind, inductionHypothesis fun other member => settled other (List.mem_cons_of_mem _ member)]

/-- Placing non-zero signatures into the lock field a second time leaves it as the first time
left it. -/
theorem placeSignatures_idempotent {configDataLength : Nat} {signatures : List Bytes}
    {lockField placed : Bytes} (nonzero : ∀ signature ∈ signatures, signature ≠ zeroSlot)
    (computed : placeSignatures configDataLength signatures lockField = ok placed) :
    placeSignatures configDataLength signatures placed = ok placed := by
  by_cases short : lockField.length ≤ configDataLength
  · cases signatures with
    | nil => cases computed; rfl
    | cons signature signatures =>
      simp [placeSignature, fillSlot_of_le short] at computed
  · obtain ⟨slots, tail, split, whole, tailShort, -⟩ := exists_slots (lockField.drop configDataLength)
    obtain ⟨header, rfl, rfl⟩ : ∃ header : Bytes, header.length = configDataLength ∧
        lockField = header ++ slots.flatten ++ tail :=
      ⟨lockField.take configDataLength, by simp only [List.length_take]; omega,
        by rw [List.append_assoc, ← split, List.take_append_drop]⟩
    rw [placeSignatures_slots header tail tailShort signatures slots whole] at computed
    obtain ⟨placedSlots, placedAll, rfl⟩ := map_eq_ok.mp computed
    rw [placeSignatures_slots header tail tailShort signatures placedSlots
      (placeAllInSlots_whole whole placedAll),
      placeAllInSlots_of_settled (settled_of_placeAllInSlots nonzero placedAll), map_ok]

end Idempotence

end CkbSdk
