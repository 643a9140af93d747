import Mathlib.Data.List.Basic
import Mathlib.Tactic.Ring

/-!
# Rust calls, byte strings and little-endian integers

A call into the crate returns `Ok`, returns `Err`, or panics. The three outcomes are kept
apart: a panic (an out-of-range slice, a failed `unwrap`, a debug-build overflow) is never an
error value a caller can observe, so a claim that a call "fails" and a claim that it "never
panics" are different statements.

Byte strings are lists of `u8`. Every integer the crate encodes or decodes in little-endian
order (molecule's `u32` headers, `u64` since and capacity, `u128` token amounts, the `u64`
length prefixes of the signing digest) goes through one pair of functions, `leBytes` and
`leValue`, whose laws are proved once here.
-/

namespace CkbSdk

/-- The result of a call: `Ok`, `Err`, or a panic that unwinds past every caller. -/
inductive Outcome (ε α : Type) where
  | ok (value : α)
  | err (error : ε)
  | panic
deriving DecidableEq, Repr

namespace Outcome

variable {ε ε' α β : Type}

/-- `?` and unwinding: an `Err` or a panic ends the computation. -/
def bind (outcome : Outcome ε α) (next : α → Outcome ε β) : Outcome ε β :=
  match outcome with
  | ok value => next value
  | err error => err error
  | panic => panic

/-- `Outcome` is a monad: `return` is `Ok`, and `?` is `bind`. -/
instance : Monad (Outcome ε) where
  pure := ok
  bind := bind

/-- `Err(e)` is the thrown error; a handler catches errors and lets panics through. -/
instance : MonadExceptOf ε (Outcome ε) where
  throw := err
  tryCatch outcome handler := match outcome with
    | err error => handler error
    | other => other

/-- The monad laws, so that the library's lemmas about `mapM` and `foldlM` apply. -/
instance : LawfulMonad (Outcome ε) :=
  LawfulMonad.mk' (Outcome ε) (fun outcome => by cases outcome <;> rfl) (fun _ _ => rfl)
    (fun outcome _ _ => by cases outcome <;> rfl)

/-- `return value` is `Ok(value)`. -/
@[simp] theorem pure_eq (value : α) : (pure value : Outcome ε α) = ok value := rfl

/-- Throwing is returning `Err`. -/
@[simp] theorem throw_eq (error : ε) : (throw error : Outcome ε α) = err error := rfl

/-- `?` on `Ok` continues with the value. -/
@[simp] theorem ok_bind (value : α) (next : α → Outcome ε β) : (ok value >>= next) = next value :=
  rfl

/-- `?` on `Err` returns that error. -/
@[simp] theorem err_bind (error : ε) (next : α → Outcome ε β) : (err error >>= next) = err error :=
  rfl

/-- Nothing runs after a panic. -/
@[simp] theorem panic_bind (next : α → Outcome ε β) : (panic >>= next) = panic := rfl

/-- Mapping an `Ok` maps its value. -/
@[simp] theorem map_ok (f : α → β) (value : α) : (f <$> (ok value : Outcome ε α)) = ok (f value) :=
  rfl

/-- Mapping an `Err` keeps the error. -/
@[simp] theorem map_err (f : α → β) (error : ε) : (f <$> (err error : Outcome ε α)) = err error :=
  rfl

/-- Mapping a panic is a panic. -/
@[simp] theorem map_panic (f : α → β) : (f <$> (panic : Outcome ε α)) = panic := rfl

/-- A mapped call succeeds exactly when the call does, with the mapped value. -/
theorem map_eq_ok {f : α → β} {outcome : Outcome ε α} {value : β} :
    f <$> outcome = ok value ↔ ∃ first, outcome = ok first ∧ f first = value := by
  cases outcome <;> simp

/-- A computation that ends by returning a function of the last value is a `map`. -/
@[simp] theorem bind_ok_eq_map (outcome : Outcome ε α) (f : α → β) :
    (outcome >>= fun value => ok (f value)) = f <$> outcome := by
  cases outcome <;> rfl

/-- A sequenced call succeeds exactly when its first part succeeds and the rest succeeds on
that value. Every inversion of a modelled function goes through this lemma. -/
theorem bind_eq_ok {outcome : Outcome ε α} {next : α → Outcome ε β} {value : β} :
    (outcome >>= next) = ok value ↔ ∃ first, outcome = ok first ∧ next first = ok value := by
  cases outcome <;> simp

/-- A sequenced call panics exactly when its first part panics, or succeeds and the rest
panics on that value. -/
theorem bind_eq_panic {outcome : Outcome ε α} {next : α → Outcome ε β} :
    (outcome >>= next) = panic ↔ outcome = panic ∨ ∃ first, outcome = ok first ∧ next first = panic := by
  cases outcome <;> simp

/-- `?` on a `Result` whose error converts into this call's error type. -/
def ofExcept (convert : ε' → ε) : Except ε' α → Outcome ε α
  | .ok value => ok value
  | .error error => err (convert error)

/-- `?` on `Ok` gives its value. -/
@[simp] theorem ofExcept_ok (convert : ε' → ε) (value : α) :
    ofExcept convert (.ok value) = ok value := rfl

/-- `?` on `Err` returns the converted error. -/
@[simp] theorem ofExcept_error (convert : ε' → ε) (error : ε') :
    (ofExcept convert (.error error) : Outcome ε α) = err (convert error) := rfl

/-- `?` on a `Result` gives a value exactly when the result is `Ok` of it. -/
@[simp] theorem ofExcept_eq_ok {convert : ε' → ε} {result : Except ε' α} {value : α} :
    ofExcept convert result = ok value ↔ result = .ok value := by
  cases result <;> simp

/-- `?` on a `Result` never panics. -/
@[simp] theorem ofExcept_ne_panic {convert : ε' → ε} {result : Except ε' α} :
    ofExcept convert result ≠ panic := by
  cases result <;> simp

/-- `option.unwrap()`: panics on `None`. -/
def unwrap : Option α → Outcome ε α
  | some value => ok value
  | none => panic

/-- `unwrap()` on `Some` gives its value. -/
@[simp] theorem unwrap_some (value : α) : (unwrap (some value) : Outcome ε α) = ok value := rfl

/-- `unwrap()` gives a value exactly when the option holds it. -/
@[simp] theorem unwrap_eq_ok {option : Option α} {value : α} :
    (unwrap option : Outcome ε α) = ok value ↔ option = some value := by
  cases option <;> simp [unwrap]

/-- `option.ok_or(error)?`: `None` becomes the given error. -/
def okOr (error : ε) : Option α → Outcome ε α
  | some value => ok value
  | none => err error

/-- `ok_or` on `Some` gives its value. -/
@[simp] theorem okOr_some (error : ε) (value : α) : okOr error (some value) = ok value := rfl

/-- `ok_or` on `None` returns the given error. -/
@[simp] theorem okOr_none (error : ε) : (okOr error none : Outcome ε α) = err error := rfl

/-- `ok_or` gives a value exactly when the option holds it. -/
@[simp] theorem okOr_eq_ok {error : ε} {option : Option α} {value : α} :
    okOr error option = ok value ↔ option = some value := by
  cases option <;> simp

/-- `ok_or` never panics. -/
@[simp] theorem okOr_ne_panic {error : ε} {option : Option α} : okOr error option ≠ panic := by
  cases option <;> simp

/-- `if condition { return Err(error); }`. -/
def failIf (condition : Prop) [Decidable condition] (error : ε) : Outcome ε Unit :=
  if condition then err error else ok ()

/-- A guard passes exactly when its condition is false. -/
@[simp] theorem failIf_eq_ok {condition : Prop} [Decidable condition] {error : ε} {value : Unit} :
    failIf condition error = ok value ↔ ¬ condition := by
  unfold failIf
  split <;> simp [*]

/-- A guard never panics. -/
@[simp] theorem failIf_ne_panic {condition : Prop} [Decidable condition] {error : ε} :
    failIf condition error ≠ panic := by
  unfold failIf
  split <;> simp

/-- `unwrap()` panics exactly on `None`. -/
@[simp] theorem unwrap_eq_panic {option : Option α} :
    (unwrap option : Outcome ε α) = panic ↔ option = none := by
  cases option <;> simp [unwrap]

/-- A guarded call succeeds exactly when the guard does not fire and the rest succeeds. -/
@[simp] theorem failIf_bind_eq_ok {condition : Prop} [Decidable condition] {error : ε}
    {next : Unit → Outcome ε β} {value : β} :
    (failIf condition error >>= next) = ok value ↔ ¬ condition ∧ next () = ok value := by
  unfold failIf
  split <;> simp [*]

/-- Every value a successful `mapM` returns is the value of the function at some element. -/
theorem mem_of_mapM_eq_ok {f : α → Outcome ε β} {items : List α} {values : List β}
    (computed : items.mapM f = ok values) {value : β} (member : value ∈ values) :
    ∃ item ∈ items, f item = ok value := by
  induction items generalizing values with
  | nil =>
    cases computed
    cases member
  | cons item items inductionHypothesis =>
    rw [List.mapM_cons] at computed
    obtain ⟨first, firstOk, restComputed⟩ := bind_eq_ok.mp computed
    obtain ⟨rest, restOk, collected⟩ := bind_eq_ok.mp restComputed
    cases collected
    rcases List.mem_cons.mp member with rfl | later
    · exact ⟨item, List.mem_cons_self item items, firstOk⟩
    · obtain ⟨other, inItems, otherOk⟩ := inductionHypothesis restOk later
      exact ⟨other, List.mem_cons_of_mem item inItems, otherOk⟩

/-- A sequenced call fails exactly when its first part fails, or succeeds and the rest fails. -/
theorem bind_eq_err {outcome : Outcome ε α} {next : α → Outcome ε β} {error : ε} :
    (outcome >>= next) = err error ↔ outcome = err error ∨ ∃ first, outcome = ok first ∧ next first = err error := by
  cases outcome <;> simp

/-- A mapped call fails exactly when the call does, with the same error. -/
@[simp] theorem map_eq_err {f : α → β} {outcome : Outcome ε α} {error : ε} :
    f <$> outcome = err error ↔ outcome = err error := by
  cases outcome <;> simp

/-- `?` on a `Result` fails exactly on an `Err` whose conversion is the error. -/
@[simp] theorem ofExcept_eq_err {convert : ε' → ε} {result : Except ε' α} {error : ε} :
    ofExcept convert result = err error ↔ ∃ cause, result = .error cause ∧ convert cause = error := by
  cases result <;> simp [ofExcept]

/-- A failing `mapM` failed at one of its items. -/
theorem mapM_eq_err {f : α → Outcome ε β} {error : ε} :
    ∀ {items : List α}, items.mapM f = err error → ∃ item ∈ items, f item = err error
  | [], failed => by
    rw [List.mapM_nil] at failed
    cases failed
  | item :: items, failed => by
    rw [List.mapM_cons] at failed
    rcases bind_eq_err.mp failed with first | ⟨value, _, rest⟩
    · exact ⟨item, List.mem_cons_self _ _, first⟩
    · rcases bind_eq_err.mp rest with later | ⟨_, _, returned⟩
      · obtain ⟨other, member, otherFailed⟩ := mapM_eq_err later
        exact ⟨other, List.mem_cons_of_mem _ member, otherFailed⟩
      · cases returned

/-- A failing loop failed at one of its iterations. -/
theorem foldlM_eq_err {step : β → α → Outcome ε β} {error : ε} :
    ∀ {items : List α} {state : β}, items.foldlM step state = err error →
      ∃ middle, ∃ item ∈ items, step middle item = err error
  | [], _, ran => by cases ran
  | item :: items, state, ran => by
    rcases bind_eq_err.mp ran with stepped | ⟨next, _, rest⟩
    · exact ⟨state, item, List.mem_cons_self _ _, stepped⟩
    · obtain ⟨middle, other, member, failed⟩ := foldlM_eq_err rest
      exact ⟨middle, other, List.mem_cons_of_mem _ member, failed⟩

/-- A successful `mapM` over one more item: the item's value, then the rest's. -/
theorem mapM_cons_eq_ok {f : α → Outcome ε β} {item : α} {items : List α} {values : List β} :
    (item :: items).mapM f = ok values ↔
      ∃ value rest, f item = ok value ∧ items.mapM f = ok rest ∧ values = value :: rest := by
  simp only [List.mapM_cons, bind_eq_ok, pure_eq, ok.injEq, exists_and_left, @eq_comm _ values]

/-- Over the same items in another order, a successful `mapM` succeeds with its values in that
order. -/
theorem mapM_perm {f : α → Outcome ε β} {items reordered : List α} (permuted : items.Perm reordered) :
    ∀ {values : List β}, items.mapM f = ok values →
      ∃ reorderedValues, reordered.mapM f = ok reorderedValues ∧ values.Perm reorderedValues := by
  induction permuted with
  | nil => exact fun mapped => ⟨_, mapped, List.Perm.refl _⟩
  | cons item _ inductionHypothesis =>
    intro values mapped
    obtain ⟨value, rest, first, restMapped, rfl⟩ := mapM_cons_eq_ok.mp mapped
    obtain ⟨reorderedRest, reorderedMapped, restPermuted⟩ := inductionHypothesis restMapped
    exact ⟨value :: reorderedRest, mapM_cons_eq_ok.mpr ⟨_, _, first, reorderedMapped, rfl⟩,
      restPermuted.cons value⟩
  | swap item other items =>
    intro values mapped
    obtain ⟨otherValue, rest, otherFirst, restMapped, rfl⟩ := mapM_cons_eq_ok.mp mapped
    obtain ⟨value, tail, itemFirst, tailMapped, rfl⟩ := mapM_cons_eq_ok.mp restMapped
    exact ⟨value :: otherValue :: tail, mapM_cons_eq_ok.mpr ⟨_, _, itemFirst,
      mapM_cons_eq_ok.mpr ⟨_, _, otherFirst, tailMapped, rfl⟩, rfl⟩, List.Perm.swap _ _ _⟩
  | trans _ _ firstHypothesis secondHypothesis =>
    intro values mapped
    obtain ⟨middle, middleMapped, firstPermuted⟩ := firstHypothesis mapped
    obtain ⟨last, lastMapped, secondPermuted⟩ := secondHypothesis middleMapped
    exact ⟨last, lastMapped, firstPermuted.trans secondPermuted⟩

/-- A loop keeps an invariant of the items done so far and its state when each iteration
does: the induction every `for` loop of the builders needs, done once. -/
theorem foldlM_invariant {step : β → α → Outcome ε β} (invariant : List α → β → Prop)
    (preserved : ∀ {done item state next}, invariant done state → step state item = ok next →
      invariant (done ++ [item]) next) :
    ∀ {items done : List α} {state final : β}, invariant done state →
      items.foldlM step state = ok final → invariant (done ++ items) final
  | [], done, state, final, holds, ran => by
    cases ran
    simpa using holds
  | item :: items, done, state, final, holds, ran => by
    obtain ⟨next, stepped, rest⟩ := bind_eq_ok.mp ran
    simpa using foldlM_invariant invariant preserved (preserved holds stepped) rest

/-- A loop runs to its end when each iteration can take its step from every state the invariant
allows after the items before it: the completeness counterpart of `foldlM_invariant`. -/
theorem foldlM_progress {step : β → α → Outcome ε β} (invariant : List α → β → Prop)
    {items : List α}
    (progress : ∀ {done item after state}, done ++ item :: after = items → invariant done state →
      ∃ next, step state item = ok next ∧ invariant (done ++ [item]) next) :
    ∀ {rest done : List α} {state : β}, done ++ rest = items → invariant done state →
      ∃ final, rest.foldlM step state = ok final ∧ invariant items final
  | [], done, state, split, holds => ⟨state, rfl, by rwa [← split, List.append_nil]⟩
  | item :: rest, done, state, split, holds => by
    obtain ⟨next, stepped, nextHolds⟩ := progress split holds
    obtain ⟨final, ran, finalHolds⟩ := foldlM_progress invariant progress
      (by rw [List.append_assoc, List.singleton_append, split]) nextHolds
    exact ⟨final, by rw [List.foldlM_cons, stepped, ok_bind, ran], finalHolds⟩

/-- A loop that panics ran its first iterations to some state, and the next iteration panicked
there. -/
theorem foldlM_eq_panic {step : β → α → Outcome ε β} :
    ∀ {items : List α} {state : β}, items.foldlM step state = panic →
      ∃ done item rest middle, items = done ++ item :: rest ∧ done.foldlM step state = ok middle ∧
        step middle item = panic
  | [], _, ran => by cases ran
  | item :: items, state, ran => by
    rcases bind_eq_panic.mp ran with stepped | ⟨next, stepped, rest⟩
    · exact ⟨[], item, items, state, rfl, rfl, stepped⟩
    · obtain ⟨done, failing, after, middle, split, ranDone, panicked⟩ := foldlM_eq_panic rest
      exact ⟨item :: done, failing, after, middle, by rw [split, List.cons_append],
        by rw [List.foldlM_cons, stepped, ok_bind, ranDone], panicked⟩

end Outcome

/-- Cargo's overflow checks: on in a debug build, off in a release build. -/
inductive Profile where
  | debug
  | release
deriving DecidableEq, Repr

/-- Rust's `+` and `+=` on a `u{bits}`: exact while the sum fits; past `2 ^ bits` a debug
build panics and a release build wraps. -/
def Profile.add {ε : Type} (profile : Profile) (bits first second : Nat) : Outcome ε Nat :=
  if first + second < 2 ^ bits then .ok (first + second)
  else match profile with
    | .debug => .panic
    | .release => .ok ((first + second) % 2 ^ bits)

/-- Only a debug build panics on a sum, and only on one past the width. -/
theorem Profile.add_eq_panic {ε : Type} {profile : Profile} {bits first second : Nat} :
    (profile.add bits first second : Outcome ε Nat) = .panic ↔
      profile = .debug ∧ 2 ^ bits ≤ first + second := by
  unfold Profile.add
  split
  · simp only [reduceCtorEq, false_iff, not_and, Nat.not_le]
    exact fun _ => ‹_›
  · cases profile <;> simp [Nat.le_of_not_lt ‹_›]

/-- Whatever the profile, a returned sum is the sum reduced to the width; a debug build returns
only exact sums. -/
theorem Profile.add_eq_ok {ε : Type} {profile : Profile} {bits first second sum : Nat}
    (added : (profile.add bits first second : Outcome ε Nat) = .ok sum) :
    sum = (first + second) % 2 ^ bits ∧ (profile = .debug → first + second < 2 ^ bits) := by
  unfold Profile.add at added
  split at added
  · cases added
    exact ⟨(Nat.mod_eq_of_lt ‹_›).symm, fun _ => ‹_›⟩
  · cases profile <;> cases added
    exact ⟨rfl, nofun⟩

/-- A sum returns whenever it fits or the build does not check overflow. -/
theorem Profile.exists_add_eq_ok {ε : Type} {profile : Profile} {bits first second : Nat}
    (fits : profile = .debug → first + second < 2 ^ bits) :
    ∃ sum, (profile.add bits first second : Outcome ε Nat) = .ok sum := by
  unfold Profile.add
  split
  · exact ⟨_, rfl⟩
  · cases profile
    · exact absurd (fits rfl) ‹_›
    · exact ⟨_, rfl⟩

/-- A byte string: `Vec<u8>`, `&[u8]`, `bytes::Bytes`, and the raw data of a packed `Bytes`. -/
abbrev Bytes := List UInt8

/-- `value` as `width` little-endian bytes, truncated to `width` bytes as `to_le_bytes` of an
`as` cast is. -/
def leBytes : Nat → Nat → Bytes
  | 0, _ => []
  | width + 1, value => UInt8.ofNat value :: leBytes width (value / 256)

/-- The little-endian value of a byte string: `from_le_bytes`, and molecule's
`unpack_number` on a four-byte prefix. -/
def leValue : Bytes → Nat
  | [] => 0
  | byte :: rest => byte.toNat + 256 * leValue rest

/-- `to_le_bytes` at width `w` gives `w` bytes. -/
@[simp] theorem length_leBytes (width value : Nat) : (leBytes width value).length = width := by
  induction width generalizing value with
  | zero => rfl
  | succ width inductionHypothesis => simp [leBytes, inductionHypothesis]

/-- Decoding an encoding gives the value back, reduced to the width. -/
@[simp] theorem leValue_leBytes (width value : Nat) :
    leValue (leBytes width value) = value % 256 ^ width := by
  induction width generalizing value with
  | zero => simp [leBytes, leValue, Nat.mod_one]
  | succ width inductionHypothesis =>
    have low : (UInt8.ofNat value).toNat = value % 256 := rfl
    rw [leBytes, leValue, inductionHypothesis, low, Nat.pow_succ', Nat.mod_mul]

/-- A string of `n` bytes holds a value below `256 ^ n`. -/
theorem leValue_lt (bytes : Bytes) : leValue bytes < 256 ^ bytes.length := by
  induction bytes with
  | nil => simp [leValue]
  | cons byte rest inductionHypothesis =>
    have byteBound : byte.toNat < 256 := byte.val.isLt
    simp only [leValue, List.length_cons, Nat.pow_succ']
    omega

/-- Every byte string is the encoding of its own value at its own width. -/
theorem leBytes_leValue (bytes : Bytes) : leBytes bytes.length (leValue bytes) = bytes := by
  induction bytes with
  | nil => rfl
  | cons byte rest inductionHypothesis =>
    have byteBound : byte.toNat < 256 := byte.val.isLt
    have lowByte : UInt8.ofNat (byte.toNat + 256 * leValue rest) = byte := by
      apply UInt8.eq_of_val_eq
      apply Fin.ext
      show (byte.toNat + 256 * leValue rest) % 256 = byte.toNat
      omega
    have highBytes : (byte.toNat + 256 * leValue rest) / 256 = leValue rest := by omega
    simp only [List.length_cons, leBytes, leValue, lowByte, highBytes, inductionHypothesis]

/-- Encoding at a width reduces the value to the width first: `as` casts and wrapping sums give
the same bytes as the exact value. -/
@[simp] theorem leBytes_mod (width value : Nat) :
    leBytes width (value % 256 ^ width) = leBytes width value := by
  rw [← leBytes_leValue (leBytes width value), leValue_leBytes, length_leBytes]

/-- `UInt64::from` an integer reduced to 64 bits is the cast of the integer itself. -/
@[simp] theorem uint64_ofNat_mod (value : Nat) : UInt64.ofNat (value % 2 ^ 64) = UInt64.ofNat value :=
  UInt64.eq_of_toBitVec_eq (BitVec.eq_of_toNat_eq (by simp [UInt64.ofNat]))

/-- Encodings of values below the width's range are equal only for equal values. -/
theorem leBytes_injective {width first second : Nat} (firstBound : first < 256 ^ width)
    (secondBound : second < 256 ^ width) (same : leBytes width first = leBytes width second) :
    first = second := by
  have decoded := congrArg leValue same
  rwa [leValue_leBytes, leValue_leBytes, Nat.mod_eq_of_lt firstBound,
    Nat.mod_eq_of_lt secondBound] at decoded

/-- A fixed-size byte array `[u8; size]`: molecule's `Byte32`, and `H160` and `H256`. Its
length is part of the value, so a 19-byte address cannot be built. -/
@[ext] structure FixedBytes (size : Nat) where
  bytes : Bytes
  size_eq : bytes.length = size
deriving DecidableEq, Repr

/-- 32-byte hashes: transaction hashes, code hashes, blake2b-256 digests. -/
abbrev Byte32 := FixedBytes 32

/-- 20-byte identifiers: the secp256k1 pubkey hashes of multisig addresses. -/
abbrev H160 := FixedBytes 20

/-- Lowercase hexadecimal digit of a value below 16. -/
def hexDigit (digit : Nat) : Char :=
  if digit < 10 then Char.ofNat (48 + digit) else Char.ofNat (87 + digit)

/-- Two lowercase hexadecimal digits per byte, as `{:02x}` and `faster_hex` print them. -/
def hexString (bytes : Bytes) : String :=
  String.join (bytes.map fun byte => String.mk [hexDigit (byte.toNat / 16), hexDigit (byte.toNat % 16)])

end CkbSdk
