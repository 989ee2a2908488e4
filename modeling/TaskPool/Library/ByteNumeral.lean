import Mathlib.Data.Nat.Digits.Defs
import Mathlib.Data.List.Basic

/-!
# Numerals of bytes

A list of bytes is read as a numeral to the base 256, least significant byte first.  A
fixed number of bytes and the number they denote determine each other, so an encoder and
a decoder of a fixed width need one lemma each: the number behind the encoding, and the
number behind what is decoded.  A disjunction of words that do not overlap is their sum.

Main results:

- Theorem `numeral_inj`: bytes of one length are determined by their number.
- Theorems `lor_eq_add` and `lor_eq_add_of_lt`: how bytes that are shifted into place add up.
-/

namespace TaskPool
namespace Library

/-- The number that bytes denote, the first byte being the least significant. -/
def numeral (bytes : List UInt8) : Nat :=
  Nat.ofDigits 256 (bytes.map UInt8.toNat)

@[simp] theorem numeral_nil : numeral [] = 0 := rfl

@[simp] theorem numeral_cons (byte : UInt8) (bytes : List UInt8) :
    numeral (byte :: bytes) = byte.toNat + 256 * numeral bytes := rfl

/-- Every byte is a digit. -/
theorem lt_of_mem_digits {bytes : List UInt8} {digit : Nat}
    (h : digit ∈ bytes.map UInt8.toNat) : digit < 256 := by
  obtain ⟨byte, -, rfl⟩ := List.mem_map.mp h
  exact byte.toNat_lt

/-- Of the lists of one length, at most one denotes a given number. -/
theorem numeral_inj {xs ys : List UInt8} (hlength : xs.length = ys.length)
    (h : numeral xs = numeral ys) : xs = ys := by
  have hdigits : xs.map UInt8.toNat = ys.map UInt8.toNat :=
    Nat.ofDigits_inj_of_len_eq (b := 256) (by omega) (by simpa using hlength)
      (fun _ => lt_of_mem_digits) (fun _ => lt_of_mem_digits) h
  exact List.map_injective_iff.mpr (fun _ _ => UInt8.toNat_inj.mp) hdigits

/-- Low bits put behind bits that are shifted past them add up. -/
theorem lor_eq_add {a b k : Nat} (ha : 2 ^ k ∣ a) (hb : b < 2 ^ k) : a ||| b = a + b := by
  obtain ⟨m, rfl⟩ := ha
  exact (Nat.two_pow_add_eq_or_of_lt hb m).symm

/-- So they do in front of them. -/
theorem lor_eq_add_of_lt {a b k : Nat} (ha : a < 2 ^ k) (hb : 2 ^ k ∣ b) : a ||| b = a + b := by
  rw [Nat.or_comm, lor_eq_add hb ha, Nat.add_comm]

end Library
end TaskPool
