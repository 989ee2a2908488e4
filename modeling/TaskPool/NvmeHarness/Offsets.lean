import Mathlib.Tactic.NormNum.GCD
import TaskPool.Foundations.RowVsCol
import TaskPool.Library.Stride

/-!
# What the benchmark reads

The benchmark reads blocks of a file of four gibibytes, one after the other or with a
stride of 7919 blocks.  A computation returns `none` when the source panics: a division by
zero or, with overflow checks on, a product that leaves the range of `u64`.

Main results:

- Theorem `offset_eq_stride`: the two access patterns are strides through the blocks.
- Theorem `reads_cover_file`: in every window of as many operations as the prepared file
  has blocks, the benchmark reads every block once, and all of these reads succeed.
-/

namespace TaskPool
namespace NvmeHarness

open Foundations Library

/-- `FILE_SIZE`. -/
abbrev fileSize : Nat := 4 * 1024 * 1024 * 1024

/-- `AccessPattern`. -/
inductive AccessPattern where
  | sequential
  | random
deriving DecidableEq

/-- `a / b` on `u64`. -/
def divU64 (a b : Nat) : Option Nat := if b = 0 then none else some (a / b)

/-- `a % b` on `u64`. -/
def remU64 (a b : Nat) : Option Nat := if b = 0 then none else some (a % b)

/-- `a * b` on `u64`. -/
def mulU64 (overflow : Overflow) (a b : Nat) : Option Nat :=
  match overflow with
  | .wraps => some (a * b % 2 ^ 64)
  | .aborts => if a * b < 2 ^ 64 then some (a * b) else none

/-- The offset of an operation that jumps through the file. -/
def randomOffset (overflow : Overflow) (operation blockSize : Nat) : Option Nat := do
  let blocks ← divU64 fileSize blockSize
  let block ← remU64 (← mulU64 overflow operation 7919) blocks
  mulU64 overflow block blockSize

/-- The offset of an operation that goes through the file in order. -/
def sequentialOffset (overflow : Overflow) (operation blockSize : Nat) : Option Nat := do
  let blocks ← divU64 fileSize blockSize
  let block ← remU64 operation blocks
  mulU64 overflow block blockSize

/-- The offset at which an operation reads. -/
def offset (overflow : Overflow) (operation blockSize : Nat) :
    AccessPattern → Option Nat
  | .sequential => sequentialOffset overflow operation blockSize
  | .random => randomOffset overflow operation blockSize

/-- Why a block cannot be read. -/
inductive ReadError where
  | notFound
  | unexpectedEof
deriving DecidableEq

/-- Read a block of a file, which may be missing; the number of bytes read. -/
def readBlock (overflow : Overflow) (file : Option (List UInt8)) (operation blockSize : Nat)
    (pattern : AccessPattern) : Option (Except ReadError Nat) :=
  match file with
  | none => some (.error .notFound)
  | some bytes => do
    let start ← offset overflow operation blockSize pattern
    if start + blockSize ≤ bytes.length then return .ok blockSize
    else return .error .unexpectedEof

/-- `set_len`: cut a file off or fill it up with zeros. -/
def setLen (bytes : List UInt8) (length : Nat) : List UInt8 :=
  bytes.take length ++ List.replicate (length - bytes.length) 0

/-- Make the file large enough. -/
def prepareFile (file : Option (List UInt8)) : List UInt8 :=
  match file with
  | some bytes => if fileSize ≤ bytes.length then bytes else setLen bytes fileSize
  | none => setLen [] fileSize

/-! ## Strides through the blocks -/

/-- The distance of two successive operations in blocks. -/
def AccessPattern.stride : AccessPattern → Nat
  | .sequential => 1
  | .random => 7919

/-- A block size that divides the file has a power of two of blocks. -/
theorem coprime_stride {blockSize : Nat} (hsize : blockSize ∣ fileSize) (pattern : AccessPattern) :
    pattern.stride.Coprime (fileSize / blockSize) := by
  have hfile : pattern.stride.Coprime fileSize := by
    cases pattern <;> norm_num [AccessPattern.stride, fileSize]
  exact hfile.coprime_dvd_right (Nat.div_dvd_of_dvd hsize)

/-- A file has at least one block of every size that divides its own. -/
theorem blocks_pos {blockSize : Nat} (hsize : blockSize ∣ fileSize) :
    0 < fileSize / blockSize :=
  Nat.div_pos (Nat.le_of_dvd (by norm_num) hsize) (Nat.pos_of_dvd_of_pos hsize (by norm_num))

/-- A product that fits does not depend on the overflow mode. -/
theorem mulU64_eq_some {overflow : Overflow} {a b : Nat} (h : a * b < 2 ^ 64) :
    mulU64 overflow a b = some (a * b) := by
  cases overflow with
  | wraps => rw [mulU64, Nat.mod_eq_of_lt h]
  | aborts => rw [mulU64, if_pos h]

/-- Block numbers lie in the file. -/
theorem block_mul_lt {blockSize block : Nat} (hblock : block < fileSize / blockSize) :
    block * blockSize + blockSize ≤ fileSize := by
  calc block * blockSize + blockSize = (block + 1) * blockSize := (Nat.succ_mul ..).symm
    _ ≤ fileSize / blockSize * blockSize := Nat.mul_le_mul_right _ hblock
    _ ≤ fileSize := Nat.div_mul_le_self ..

/-- A product that wraps around leads to the same block: the number of blocks divides `2 ^ 64`. -/
theorem mulU64_bind_remU64 {blockSize : Nat} (hsize : blockSize ∣ fileSize) {overflow : Overflow}
    {a b : Nat} (hfits : overflow = .aborts → a * b < 2 ^ 64) :
    (mulU64 overflow a b).bind (remU64 · (fileSize / blockSize)) =
      some (a * b % (fileSize / blockSize)) := by
  have hpos := (blocks_pos hsize).ne'
  cases overflow with
  | wraps =>
      have hdvd : fileSize / blockSize ∣ 2 ^ 64 :=
        (Nat.div_dvd_of_dvd hsize).trans (by norm_num [fileSize])
      simp only [mulU64, Option.bind_some, remU64, if_neg hpos, Nat.mod_mod_of_dvd _ hdvd]
  | aborts =>
      rw [mulU64_eq_some (hfits rfl), Option.bind_some, remU64, if_neg hpos]

/-- An operation reads the block that its multiple of the stride leads to. -/
theorem offset_eq_stride {blockSize : Nat} (hsize : blockSize ∣ fileSize) {overflow : Overflow}
    {operation : Nat} {pattern : AccessPattern}
    (hfits : overflow = .aborts → operation * pattern.stride < 2 ^ 64) :
    offset overflow operation blockSize pattern =
      some (operation * pattern.stride % (fileSize / blockSize) * blockSize) := by
  have hblocks : divU64 fileSize blockSize = some (fileSize / blockSize) :=
    if_neg (Nat.pos_of_dvd_of_pos hsize (by norm_num)).ne'
  have hblock := Nat.mod_lt (operation * pattern.stride) (blocks_pos hsize)
  have hproduct : mulU64 overflow (operation * pattern.stride % (fileSize / blockSize)) blockSize =
      some (operation * pattern.stride % (fileSize / blockSize) * blockSize) := by
    refine mulU64_eq_some (lt_of_le_of_lt ?_ (by norm_num : fileSize < 2 ^ 64))
    exact (Nat.le_add_right ..).trans (block_mul_lt hblock)
  cases pattern with
  | sequential =>
      simp only [AccessPattern.stride, mul_one] at hproduct ⊢
      simp only [offset, sequentialOffset, hblocks, remU64, if_neg (blocks_pos hsize).ne',
        Option.bind_eq_bind, Option.bind_some, hproduct]
  | random =>
      have hrem := mulU64_bind_remU64 hsize hfits
      simp only [offset, randomOffset, hblocks, Option.bind_eq_bind, Option.bind_some]
      rw [← Option.bind_assoc, ← hproduct]
      exact congrArg (·.bind fun block => mulU64 overflow block blockSize) hrem

/-! ## Coverage -/

/-- A prepared file has at least the full size. -/
theorem length_prepareFile (file : Option (List UInt8)) :
    fileSize ≤ (prepareFile file).length := by
  cases file with
  | none => simp [prepareFile, setLen]
  | some bytes =>
      rw [prepareFile]
      split
      · assumption
      · simp [setLen]
        omega

/-- A read in a file that is large enough succeeds. -/
theorem readBlock_eq_ok {blockSize : Nat} (hsize : blockSize ∣ fileSize) {overflow : Overflow}
    {operation : Nat} {pattern : AccessPattern}
    (hfits : overflow = .aborts → operation * pattern.stride < 2 ^ 64) {bytes : List UInt8}
    (hbytes : fileSize ≤ bytes.length) :
    readBlock overflow (some bytes) operation blockSize pattern = some (.ok blockSize) := by
  have hblock := block_mul_lt (Nat.mod_lt (operation * pattern.stride) (blocks_pos hsize))
  simp only [readBlock, offset_eq_stride hsize hfits, Option.bind_eq_bind, Option.bind_some,
    if_pos (hblock.trans hbytes), Option.pure_def]

/-- In every window of as many operations as the file has blocks, each block of the prepared
file is read by one operation, and every read returns a whole block. -/
theorem reads_cover_file {blockSize : Nat} (hsize : blockSize ∣ fileSize) {overflow : Overflow}
    {pattern : AccessPattern} {start : Nat}
    (hfits : overflow = .aborts →
      (start + fileSize / blockSize) * pattern.stride ≤ 2 ^ 64)
    (file : Option (List UInt8)) :
    ((List.range' start (fileSize / blockSize)).map
        (offset overflow · blockSize pattern)).Perm
      ((List.range (fileSize / blockSize)).map fun block => some (block * blockSize)) ∧
    ∀ operation, start ≤ operation → operation < start + fileSize / blockSize →
      readBlock overflow (some (prepareFile file)) operation blockSize pattern =
        some (.ok blockSize) := by
  have hoperation : ∀ operation, operation < start + fileSize / blockSize →
      overflow = .aborts → operation * pattern.stride < 2 ^ 64 := by
    intro operation hlt haborts
    have hstride : 0 < pattern.stride := by cases pattern <;> decide
    exact lt_of_lt_of_le (Nat.mul_lt_mul_of_pos_right hlt hstride) (hfits haborts)
  constructor
  · have hmap : (List.range' start (fileSize / blockSize)).map
        (offset overflow · blockSize pattern) =
        ((List.range' start (fileSize / blockSize)).map
          fun operation => operation * pattern.stride % (fileSize / blockSize)).map
            fun block => some (block * blockSize) := by
      rw [List.map_map]
      refine List.map_congr_left fun operation hmem => ?_
      exact offset_eq_stride hsize (hoperation operation (List.mem_range'_1.mp hmem).2)
    rw [hmap]
    exact (map_stride_perm (coprime_stride hsize pattern) (blocks_pos hsize) start).map _
  · intro operation _ hlt
    exact readBlock_eq_ok hsize (hoperation operation hlt) (length_prepareFile file)

/-- The last block size of the benchmark, from operation 70000 on, on a file that does not
exist yet. -/
theorem reads_cover_file_random :
    ((List.range' 70000 65536).map (offset .aborts · 65536 .random)).Perm
      ((List.range 65536).map fun block => some (block * 65536)) ∧
    ∀ operation, 70000 ≤ operation → operation < 70000 + 65536 →
      readBlock .aborts (some (prepareFile none)) operation 65536 .random =
        some (.ok 65536) :=
  reads_cover_file (by norm_num : 65536 ∣ fileSize) (by norm_num [AccessPattern.stride]) none

end NvmeHarness
end TaskPool
