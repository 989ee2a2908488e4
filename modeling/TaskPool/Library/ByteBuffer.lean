import Mathlib.Data.List.Basic
import Mathlib.Data.List.Range
import Mathlib.Tactic.Ring

/-!
# Fixed-size byte buffers and checked 16-bit words

A buffer of `n` bytes carries its length as a field, so no operation can change
it.  Slicing and copying are bounds-checked: an index out of range gives `none`,
and so does a 16-bit addition, subtraction or multiplication that leaves the
16-bit range.  Every write is described by one lemma about the byte found at
each address afterwards, and every read by the bytes it depends on.

Main results:

- Theorem `Buffer.byteAt_overwrite`: the bytes after a write are the written
  bytes inside the range and the old bytes outside it.
- Theorem `Buffer.slice_eq_window`: an in-range slice is the window of bytes at
  its addresses.
- Theorems `Buffer.u16At_putU16` and `Buffer.u16At_putU16_of_disjoint`: a
  little-endian word is read back where it was written, and every word that does
  not overlap it is unchanged.
-/

namespace TaskPool
namespace Library

/-! ## Checked 16-bit arithmetic -/

/-- Addition that fails when the sum does not fit in 16 bits. -/
def checkedAdd (a b : UInt16) : Option UInt16 :=
  if a.toNat + b.toNat < 65536 then some (a + b) else none

/-- Subtraction that fails below zero. -/
def checkedSub (a b : UInt16) : Option UInt16 :=
  if b.toNat ≤ a.toNat then some (a - b) else none

/-- Multiplication that fails when the product does not fit in 16 bits. -/
def checkedMul (a b : UInt16) : Option UInt16 :=
  if a.toNat * b.toNat < 65536 then some (a * b) else none

/-- An addition in range yields the word whose value is the sum. -/
theorem checkedAdd_eq_some {a b : UInt16} (h : a.toNat + b.toNat < 65536) :
    checkedAdd a b = some (UInt16.ofNat (a.toNat + b.toNat)) := by
  rw [checkedAdd, if_pos h, UInt16.ofNat_add, UInt16.ofNat_toNat, UInt16.ofNat_toNat]

/-- An increment that fits is the next number. -/
theorem toNat_of_checkedAdd_one {a b : UInt16} (h : checkedAdd a 1 = some b) :
    b.toNat = a.toNat + 1 := by
  have hone : (1 : UInt16).toNat = 1 := rfl
  rw [checkedAdd] at h
  split_ifs at h with hlt
  rw [Option.some_inj] at h
  rw [← h, UInt16.toNat_add, hone, Nat.mod_eq_of_lt (by rw [hone] at hlt; omega)]

/-- A subtraction in range yields the word whose value is the difference. -/
theorem checkedSub_eq_some {a b : UInt16} (h : b.toNat ≤ a.toNat) :
    checkedSub a b = some (UInt16.ofNat (a.toNat - b.toNat)) := by
  have hval : a - b = UInt16.ofNat (a.toNat - b.toNat) := by
    apply UInt16.toNat_inj.mp
    have ha := a.toNat_lt
    rw [UInt16.toNat_sub_of_le a b h, UInt16.toNat_ofNat_of_lt' (by simp [UInt16.size]; omega)]
  rw [checkedSub, if_pos h, hval]

/-- A multiplication in range yields the word whose value is the product. -/
theorem checkedMul_eq_some {a b : UInt16} (h : a.toNat * b.toNat < 65536) :
    checkedMul a b = some (UInt16.ofNat (a.toNat * b.toNat)) := by
  rw [checkedMul, if_pos h, UInt16.ofNat_mul, UInt16.ofNat_toNat, UInt16.ofNat_toNat]

/-- The value of a word built from a number below `2 ^ 16`. -/
theorem toNat_ofNat_u16 {k : Nat} (h : k < 65536) : (UInt16.ofNat k).toNat = k := by
  rw [UInt16.toNat_ofNat_of_lt' (by simpa [UInt16.size] using h)]

/-! ## Little-endian words -/

/-- The two bytes of a word, least significant first. -/
def toLeBytes (x : UInt16) : List UInt8 :=
  [UInt8.ofNat (x.toNat % 256), UInt8.ofNat (x.toNat / 256)]

/-- The word with the given low and high byte. -/
def fromLeBytes (low high : UInt8) : UInt16 :=
  UInt16.ofNat (low.toNat + 256 * high.toNat)

@[simp] theorem length_toLeBytes (x : UInt16) : (toLeBytes x).length = 2 :=
  rfl

/-- Decoding an encoded word recovers it. -/
theorem fromLeBytes_toLeBytes (x : UInt16) :
    fromLeBytes (UInt8.ofNat (x.toNat % 256)) (UInt8.ofNat (x.toNat / 256)) = x := by
  have hx := x.toNat_lt
  have hlow : (UInt8.ofNat (x.toNat % 256)).toNat = x.toNat % 256 :=
    UInt8.toNat_ofNat_of_lt' (by simp [UInt8.size]; omega)
  have hhigh : (UInt8.ofNat (x.toNat / 256)).toNat = x.toNat / 256 :=
    UInt8.toNat_ofNat_of_lt' (by simp [UInt8.size]; omega)
  rw [fromLeBytes, hlow, hhigh, Nat.mod_add_div, UInt16.ofNat_toNat]

/-- The value of a decoded word. -/
theorem toNat_fromLeBytes (low high : UInt8) :
    (fromLeBytes low high).toNat = low.toNat + 256 * high.toNat := by
  have hlow := low.toNat_lt
  have hhigh := high.toNat_lt
  exact toNat_ofNat_u16 (by omega)

/-- Encoding a decoded word recovers its bytes. -/
theorem toLeBytes_fromLeBytes (low high : UInt8) : toLeBytes (fromLeBytes low high) = [low, high] := by
  have hlow := low.toNat_lt
  have hmod : (low.toNat + 256 * high.toNat) % 256 = low.toNat := by omega
  have hdiv : (low.toNat + 256 * high.toNat) / 256 = high.toNat := by omega
  rw [toLeBytes, toNat_fromLeBytes, hmod, hdiv, UInt8.ofNat_toNat, UInt8.ofNat_toNat]

/-! ## Buffers -/

/-- A byte array of a fixed size. -/
structure Buffer (n : Nat) where
  bytes : List UInt8
  length_eq : bytes.length = n
deriving DecidableEq

namespace Buffer

variable {n : Nat}

/-- The byte at an address; addresses past the end read as zero. -/
def byteAt (b : Buffer n) (i : Nat) : UInt8 :=
  b.bytes.getD i 0

/-- The buffer whose byte at address `i` is `f i`. -/
def ofFn (n : Nat) (f : Nat → UInt8) : Buffer n where
  bytes := (List.range n).map f
  length_eq := by simp

/-- The all-zero buffer. -/
def zero (n : Nat) : Buffer n where
  bytes := List.replicate n 0
  length_eq := by simp

/-- The `len` bytes starting at address `lo`. -/
def window (b : Buffer n) (lo len : Nat) : List UInt8 :=
  (List.range len).map fun k => b.byteAt (lo + k)

/-- Replace the bytes from address `lo` on by `src`. -/
def overwrite (b : Buffer n) (lo : Nat) (src : List UInt8) (h : lo + src.length ≤ n) :
    Buffer n where
  bytes := b.bytes.take lo ++ src ++ b.bytes.drop (lo + src.length)
  length_eq := by
    have hlen := b.length_eq
    simp only [List.length_append, List.length_take, List.length_drop]
    omega

/-- The bytes at `lo, ..., hi - 1`; `none` when the range is not inside the buffer. -/
def slice (b : Buffer n) (lo hi : Nat) : Option (List UInt8) :=
  if lo ≤ hi ∧ hi ≤ n then some ((b.bytes.drop lo).take (hi - lo)) else none

/-- Copy `src` over the bytes at `lo, ..., hi - 1`; `none` when the range is not
inside the buffer or the lengths differ. -/
def copyFromSlice (b : Buffer n) (lo hi : Nat) (src : List UInt8) : Option (Buffer n) :=
  if h : lo ≤ hi ∧ hi ≤ n ∧ src.length = hi - lo then
    some (b.overwrite lo src (by omega))
  else none

/-- The little-endian word at an address. -/
def u16At (b : Buffer n) (off : Nat) : UInt16 :=
  fromLeBytes (b.byteAt off) (b.byteAt (off + 1))

/-- Store a word, little-endian, at an address inside the buffer. -/
def putU16 (b : Buffer n) (off : Nat) (x : UInt16) (h : off + 2 ≤ n) : Buffer n :=
  b.overwrite off (toLeBytes x) (by simpa using h)

/-- Bounds-checked form of `u16At`. -/
def getU16 (b : Buffer n) (off : Nat) : Option UInt16 :=
  if off + 2 ≤ n then some (b.u16At off) else none

/-- Bounds-checked form of `putU16`. -/
def setU16 (b : Buffer n) (off : Nat) (x : UInt16) : Option (Buffer n) :=
  if h : off + 2 ≤ n then some (b.putU16 off x h) else none

/-! ### Bytes determine a buffer -/

/-- Inside the buffer, a byte is the element of the list. -/
theorem byteAt_eq_getElem (b : Buffer n) {i : Nat} (h : i < b.bytes.length) :
    b.byteAt i = b.bytes[i] := by
  simp [byteAt, List.getD_eq_getElem?_getD, List.getElem?_eq_getElem h]

/-- Two buffers with the same byte at every address below the size are equal. -/
theorem ext_byteAt {a b : Buffer n} (h : ∀ i < n, a.byteAt i = b.byteAt i) : a = b := by
  cases a with
  | mk as ha =>
    cases b with
    | mk bs hb =>
      congr
      apply List.ext_getElem (ha.trans hb.symm)
      intro i hi hi'
      have hbyte := h i (by omega)
      rwa [byteAt_eq_getElem ⟨as, ha⟩ hi, byteAt_eq_getElem ⟨bs, hb⟩ hi'] at hbyte

@[simp] theorem byteAt_zero (i : Nat) : (zero n).byteAt i = 0 := by
  simp only [byteAt, zero, List.getD_eq_getElem?_getD, List.getElem?_replicate]
  split <;> rfl

/-- A buffer built from a function has its values as bytes. -/
theorem byteAt_ofFn (f : Nat → UInt8) {i : Nat} (h : i < n) :
    (ofFn n f).byteAt i = f i := by
  simp [byteAt, ofFn, List.getD_eq_getElem?_getD, List.getElem?_range h]

@[simp] theorem length_window (b : Buffer n) (lo len : Nat) :
    (b.window lo len).length = len := by
  simp [window]

/-- The elements of a window are the bytes behind its start. -/
theorem getElem_window (b : Buffer n) {lo len k : Nat} (h : k < (b.window lo len).length) :
    (b.window lo len)[k] = b.byteAt (lo + k) := by
  simp [window]

/-- A window depends only on the bytes at its own addresses. -/
theorem window_congr {a b : Buffer n} {lo len : Nat}
    (h : ∀ i, lo ≤ i → i < lo + len → a.byteAt i = b.byteAt i) :
    a.window lo len = b.window lo len := by
  apply List.map_congr_left
  intro k hk
  exact h (lo + k) (by omega) (by have := List.mem_range.mp hk; omega)

/-- Equal windows have equal bytes at every address they cover. -/
theorem byteAt_eq_of_window_eq {a b : Buffer n} {lo lo' len : Nat}
    (h : a.window lo len = b.window lo' len) {k : Nat} (hk : k < len) :
    a.byteAt (lo + k) = b.byteAt (lo' + k) := by
  have hbyte := congrArg (fun l => l[k]?) h
  simpa [window, List.getElem?_range hk] using hbyte

/-! ### Reads and writes -/

/-- The bytes after a write: the source inside the range, unchanged outside. -/
theorem byteAt_overwrite (b : Buffer n) (lo : Nat) (src : List UInt8)
    (h : lo + src.length ≤ n) (i : Nat) :
    (b.overwrite lo src h).byteAt i =
      if lo ≤ i ∧ i < lo + src.length then src.getD (i - lo) 0 else b.byteAt i := by
  have hlen := b.length_eq
  have hprefix : (b.bytes.take lo ++ src).length = lo + src.length := by
    simp only [List.length_append, List.length_take]
    omega
  have htake : (b.bytes.take lo).length = lo := by
    simp only [List.length_take]
    omega
  simp only [byteAt, overwrite, List.getD_eq_getElem?_getD]
  by_cases hi : i < lo + src.length
  · rw [List.getElem?_append_left (by omega)]
    by_cases hlo : lo ≤ i
    · rw [if_pos ⟨hlo, hi⟩, List.getElem?_append_right (by omega), htake]
    · rw [if_neg (by omega), List.getElem?_append_left (by omega),
        List.getElem?_take_of_lt (by omega)]
  · rw [if_neg (by omega), List.getElem?_append_right (by omega), hprefix, List.getElem?_drop]
    congr 2
    omega

/-- A write leaves every address outside its range unchanged. -/
theorem byteAt_overwrite_of_not_mem (b : Buffer n) {lo : Nat} {src : List UInt8}
    (h : lo + src.length ≤ n) {i : Nat} (hi : i < lo ∨ lo + src.length ≤ i) :
    (b.overwrite lo src h).byteAt i = b.byteAt i := by
  rw [byteAt_overwrite, if_neg (by omega)]

/-- The written bytes are read back. -/
theorem window_overwrite (b : Buffer n) (lo : Nat) (src : List UInt8)
    (h : lo + src.length ≤ n) : (b.overwrite lo src h).window lo src.length = src := by
  apply List.ext_getElem (by simp)
  intro k hk hk'
  rw [getElem_window, byteAt_overwrite, if_pos (by omega), Nat.add_sub_cancel_left,
    List.getD_eq_getElem?_getD, List.getElem?_eq_getElem hk', Option.getD_some]

/-- A slice within bounds is a window. -/
theorem slice_eq_window (b : Buffer n) {lo hi : Nat} (hlo : lo ≤ hi) (hhi : hi ≤ n) :
    b.slice lo hi = some (b.window lo (hi - lo)) := by
  have hlen := b.length_eq
  rw [slice, if_pos ⟨hlo, hhi⟩, Option.some_inj]
  apply List.ext_getElem
  · simp only [List.length_take, List.length_drop, length_window]
    omega
  · intro k hk hk'
    rw [length_window] at hk'
    rw [getElem_window, byteAt_eq_getElem _ (by omega), List.getElem_take, List.getElem_drop]

/-- An in-range copy succeeds, stores the source and touches nothing else. -/
theorem copyFromSlice_eq_some (b : Buffer n) {lo hi : Nat} (src : List UInt8)
    (hhi : hi ≤ n) (hsrc : lo + src.length = hi) :
    ∃ b', b.copyFromSlice lo hi src = some b' ∧ b'.window lo src.length = src ∧
      ∀ i, i < lo ∨ hi ≤ i → b'.byteAt i = b.byteAt i := by
  refine ⟨b.overwrite lo src (by omega), ?_, window_overwrite b lo src _, ?_⟩
  · rw [copyFromSlice, dif_pos (by omega)]
  · intro i hi
    exact byteAt_overwrite_of_not_mem b _ (by omega)

/-- Writing the bytes that are there already changes nothing. -/
theorem overwrite_eq_self (b : Buffer n) {lo : Nat} {src : List UInt8} (h : lo + src.length ≤ n)
    (hsrc : src = b.window lo src.length) : b.overwrite lo src h = b := by
  apply ext_byteAt
  intro i hi
  rw [byteAt_overwrite]
  split_ifs with hrange
  · rw [List.getD_eq_getElem?_getD, List.getElem?_eq_getElem (by omega), Option.getD_some,
      List.getElem_of_eq hsrc, getElem_window, Nat.add_sub_cancel' hrange.1]
  · rfl

/-- Copying a window onto itself changes nothing. -/
theorem copyFromSlice_window (b : Buffer n) {lo len : Nat} (h : lo + len ≤ n) :
    b.copyFromSlice lo (lo + len) (b.window lo len) = some b := by
  rw [copyFromSlice, dif_pos ⟨by omega, h, by rw [length_window]; omega⟩,
    b.overwrite_eq_self _ (by rw [length_window])]

/-- A copy that succeeds touches nothing outside its range. -/
theorem byteAt_of_copyFromSlice {b b' : Buffer n} {lo hi : Nat} {src : List UInt8}
    (h : b.copyFromSlice lo hi src = some b') {i : Nat} (hi' : i < lo ∨ hi ≤ i) :
    b'.byteAt i = b.byteAt i := by
  unfold copyFromSlice at h
  split at h
  · rename_i hrange
    rw [Option.some_inj] at h
    rw [← h]
    exact byteAt_overwrite_of_not_mem b _ (by omega)
  · cases h

/-- Nothing is copied behind the end of the buffer. -/
theorem le_of_copyFromSlice_eq_some {b b' : Buffer n} {lo hi : Nat} {src : List UInt8}
    (h : b.copyFromSlice lo hi src = some b') : hi ≤ n := by
  unfold copyFromSlice at h
  split at h
  · rename_i hrange
    exact hrange.2.1
  · cases h

/-! ### Words -/

/-- A word depends on its two bytes only. -/
theorem u16At_congr {a b : Buffer n} {off : Nat}
    (h : ∀ i, off ≤ i → i < off + 2 → a.byteAt i = b.byteAt i) :
    a.u16At off = b.u16At off := by
  rw [u16At, u16At, h off (by omega) (by omega), h (off + 1) (by omega) (by omega)]

/-- A stored word is read back. -/
@[simp] theorem u16At_putU16 (b : Buffer n) {off : Nat} (x : UInt16) (h : off + 2 ≤ n) :
    (b.putU16 off x h).u16At off = x := by
  have hlow : (b.putU16 off x h).byteAt off = UInt8.ofNat (x.toNat % 256) := by
    simp [putU16, byteAt_overwrite, toLeBytes]
  have hhigh : (b.putU16 off x h).byteAt (off + 1) = UInt8.ofNat (x.toNat / 256) := by
    simp [putU16, byteAt_overwrite, toLeBytes]
  rw [u16At, hlow, hhigh, fromLeBytes_toLeBytes]

/-- Storing a word changes no byte outside its two addresses. -/
theorem byteAt_putU16_of_not_mem (b : Buffer n) {off : Nat} (x : UInt16) (h : off + 2 ≤ n)
    {i : Nat} (hi : i < off ∨ off + 2 ≤ i) :
    (b.putU16 off x h).byteAt i = b.byteAt i :=
  byteAt_overwrite_of_not_mem b _ (by simpa using hi)

/-- Storing a word changes no word that does not overlap it. -/
theorem u16At_putU16_of_disjoint (b : Buffer n) {off off' : Nat} (x : UInt16)
    (h : off + 2 ≤ n) (hdisjoint : off' + 2 ≤ off ∨ off + 2 ≤ off') :
    (b.putU16 off x h).u16At off' = b.u16At off' := by
  apply u16At_congr
  intro i hi hi'
  exact byteAt_putU16_of_not_mem b x h (by omega)

/-- Storing the word that is there already changes nothing. -/
@[simp] theorem putU16_u16At (b : Buffer n) {off : Nat} (h : off + 2 ≤ n) :
    b.putU16 off (b.u16At off) h = b := by
  apply b.overwrite_eq_self
  rw [u16At, toLeBytes_fromLeBytes]
  rfl

/-- Reading a word within bounds succeeds. -/
theorem getU16_eq_some (b : Buffer n) {off : Nat} (h : off + 2 ≤ n) :
    b.getU16 off = some (b.u16At off) := by
  rw [getU16, if_pos h]

/-- Writing a word within bounds succeeds. -/
theorem setU16_eq_some (b : Buffer n) {off : Nat} (x : UInt16) (h : off + 2 ≤ n) :
    b.setU16 off x = some (b.putU16 off x h) := by
  rw [setU16, dif_pos h]

end Buffer

end Library
end TaskPool
