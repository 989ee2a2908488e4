import TaskPool.Library.ByteBuffer

/-!
# Files of blocks

A file is a list of bytes; behind its end it reads as zeros, and a write behind its
end fills the gap with zeros.  Block `k` of size `n` occupies the `n` addresses from
`k * n`.

Main results:

- Theorem `byteOf_writeAt`: the bytes after a write.
- Theorems `block_writeAt_self` and `block_writeAt_of_ne`: a write inside a block
  changes that block only.
- Theorem `readLoop_eq_block`: a block is read however the reads are split.
-/

namespace TaskPool
namespace Library

/-- The byte of a file at an address. -/
def byteOf (file : List UInt8) (i : Nat) : UInt8 := file.getD i 0

/-- Write bytes at an offset. -/
def writeAt (file : List UInt8) (offset : Nat) (bytes : List UInt8) : List UInt8 :=
  if bytes = [] then file
  else file.take offset ++ List.replicate (offset - file.length) 0 ++ bytes ++
    file.drop (offset + bytes.length)

/-- The block of `n` bytes with number `k`. -/
def block (n : Nat) (file : List UInt8) (k : Nat) : Buffer n :=
  Buffer.ofFn n fun i => byteOf file (k * n + i)

/-- Bytes behind the end of a file are zeros. -/
theorem byteOf_of_length_le {file : List UInt8} {i : Nat} (h : file.length ≤ i) :
    byteOf file i = 0 := by
  simp [byteOf, List.getD_eq_getElem?_getD, List.getElem?_eq_none h]

/-! ## Writes -/

/-- A write changes the bytes in its range, and no others. -/
theorem byteOf_writeAt (file : List UInt8) (offset : Nat) (bytes : List UInt8) (i : Nat) :
    byteOf (writeAt file offset bytes) i =
      if offset ≤ i ∧ i < offset + bytes.length then byteOf bytes (i - offset)
      else byteOf file i := by
  unfold writeAt
  by_cases hbytes : bytes = []
  · subst hbytes
    rw [if_pos rfl, if_neg (by simp)]
  · rw [if_neg hbytes]
    have hgap : (file.take offset ++ List.replicate (offset - file.length) (0 : UInt8)).length =
        offset := by
      simp only [List.length_append, List.length_take, List.length_replicate]
      omega
    simp only [byteOf, List.getD_eq_getElem?_getD]
    rcases Nat.lt_or_ge i offset with hi | hi
    · rw [if_neg (by omega), List.append_assoc, List.getElem?_append_left (by omega)]
      rcases Nat.lt_or_ge i file.length with hfile | hfile
      · rw [List.getElem?_append_left (by simp only [List.length_take]; omega),
          List.getElem?_take_of_lt hi]
      · rw [List.getElem?_append_right (by simp only [List.length_take]; omega),
          List.getElem?_eq_none hfile]
        simp only [List.getElem?_replicate]
        split <;> rfl
    · rcases Nat.lt_or_ge i (offset + bytes.length) with hend | hend
      · rw [if_pos ⟨hi, hend⟩, List.append_assoc, List.getElem?_append_right (by omega), hgap,
          List.getElem?_append_left (by omega)]
      · rw [if_neg (by omega), List.getElem?_append_right (by rw [List.length_append]; omega),
          List.getElem?_drop, List.length_append, hgap, Nat.add_sub_cancel' hend]

variable {n : Nat}

/-- The bytes of a block are those of the file, from the offset of the block on. -/
theorem byteAt_block (file : List UInt8) (k : Nat) {i : Nat} (h : i < n) :
    (block n file k).byteAt i = byteOf file (k * n + i) :=
  Buffer.byteAt_ofFn _ h

/-- A block reads what was written to it. -/
theorem block_writeAt_self (file : List UInt8) (k : Nat) (data : Buffer n) :
    block n (writeAt file (k * n) data.bytes) k = data := by
  have hlength := data.length_eq
  apply Buffer.ext_byteAt
  intro i hi
  rw [byteAt_block _ _ hi, byteOf_writeAt, if_pos (by omega), Nat.add_sub_cancel_left]
  rfl

/-- A write that stays inside a block changes no other block. -/
theorem block_writeAt_of_ne (file : List UInt8) {k l : Nat} (h : l ≠ k) {bytes : List UInt8}
    (hbytes : bytes.length ≤ n) :
    block n (writeAt file (k * n) bytes) l = block n file l := by
  apply Buffer.ext_byteAt
  intro i hi
  rw [byteAt_block _ _ hi, byteAt_block _ _ hi, byteOf_writeAt, if_neg]
  rintro ⟨hlow, hhigh⟩
  rcases Nat.lt_or_gt_of_ne h with hlt | hgt
  · have hmul : (l + 1) * n ≤ k * n := Nat.mul_le_mul_right n hlt
    rw [Nat.add_mul, Nat.one_mul] at hmul
    omega
  · have hmul : (k + 1) * n ≤ l * n := Nat.mul_le_mul_right n hgt
    rw [Nat.add_mul, Nat.one_mul] at hmul
    omega

/-! ## Reads -/

/-- The bytes one read returns: what it likes, at least one byte while bytes remain
and at most `requested` bytes. -/
def readChunk (file : List UInt8) (offset requested size : Nat) : List UInt8 :=
  (file.drop offset).take (min (max 1 size) requested)

/-- A read returns at most what was requested. -/
theorem length_readChunk_le (file : List UInt8) (offset requested size : Nat) :
    (readChunk file offset requested size).length ≤ requested := by
  simp only [readChunk, List.length_take]
  omega

/-- What a read returns are the bytes of the file at its offset. -/
theorem byteOf_readChunk {file : List UInt8} {offset requested size i : Nat}
    (h : i < (readChunk file offset requested size).length) :
    byteOf (readChunk file offset requested size) i = byteOf file (offset + i) := by
  simp only [readChunk, List.length_take] at h
  simp only [byteOf, readChunk, List.getD_eq_getElem?_getD]
  rw [List.getElem?_take_of_lt (by omega), List.getElem?_drop]

/-- Read until the buffer is full or a read returns nothing. -/
def readLoop (file : List UInt8) (offset : Nat) (sizes : Nat → Nat) (buf : Buffer n)
    (totalRead : Nat) : Buffer n :=
  if hlt : totalRead < n then
    if hchunk : readChunk file (offset + totalRead) (n - totalRead) (sizes totalRead) = [] then buf
    else
      readLoop file offset sizes
        (buf.overwrite totalRead
          (readChunk file (offset + totalRead) (n - totalRead) (sizes totalRead)) (by
          have hle := length_readChunk_le file (offset + totalRead) (n - totalRead)
            (sizes totalRead)
          omega))
        (totalRead +
          (readChunk file (offset + totalRead) (n - totalRead) (sizes totalRead)).length)
  else buf
termination_by n - totalRead
decreasing_by
  have hpos := List.length_pos_iff.mpr hchunk
  omega

/-- The buffer holds the first bytes of the block and zeros behind them. -/
def ReadSoFar (file : List UInt8) (k : Nat) (buf : Buffer n) (totalRead : Nat) : Prop :=
  ∀ i < n, buf.byteAt i = if i < totalRead then byteOf file (k * n + i) else 0

/-- From a buffer that is right so far, the loop fills in the rest of the block, however the
reads are split. -/
theorem readLoop_eq_of_readSoFar {file : List UInt8} {k : Nat} (sizes : Nat → Nat)
    {buf : Buffer n} {totalRead : Nat} (h : ReadSoFar file k buf totalRead) :
    readLoop file (k * n) sizes buf totalRead = block n file k := by
  induction hm : n - totalRead using Nat.strong_induction_on generalizing buf totalRead with
  | _ m ih =>
      unfold readLoop
      split_ifs with hlt hchunk
      · -- nothing remains behind the bytes read so far
        have hend : file.length ≤ k * n + totalRead := by
          rw [← List.drop_eq_nil_iff]
          rw [readChunk, List.take_eq_nil_iff] at hchunk
          rcases hchunk with hzero | hnil
          · omega
          · exact hnil
        apply Buffer.ext_byteAt
        intro i hi
        rw [h i hi, byteAt_block _ _ hi]
        split_ifs with hread
        · rfl
        · rw [byteOf_of_length_le (by omega)]
      · have hpos := List.length_pos_iff.mpr hchunk
        refine ih _ (by omega) ?_ rfl
        intro i hi
        rw [Buffer.byteAt_overwrite, h i hi]
        by_cases hold : i < totalRead
        · rw [if_neg (by omega), if_pos hold, if_pos (by omega)]
        by_cases hnew : i < totalRead +
            (readChunk file (k * n + totalRead) (n - totalRead) (sizes totalRead)).length
        · rw [if_pos (by omega), if_pos hnew]
          change byteOf _ (i - totalRead) = _
          rw [byteOf_readChunk (by omega), Nat.add_assoc, Nat.add_sub_cancel' (by omega)]
        · rw [if_neg (by omega), if_neg hold, if_neg hnew]
      · apply Buffer.ext_byteAt
        intro i hi
        rw [h i hi, byteAt_block _ _ hi, if_pos (by omega)]

/-- However the reads are split, the buffer ends up with the block. -/
theorem readLoop_eq_block (file : List UInt8) (k : Nat) (sizes : Nat → Nat) :
    readLoop file (k * n) sizes (Buffer.zero n) 0 = block n file k := by
  apply readLoop_eq_of_readSoFar
  intro i _
  rw [Buffer.byteAt_zero, if_neg (by omega)]

end Library
end TaskPool
