import TaskPool.Library.ByteNumeral

/-!
# Byte orders and the record codec

Words of 16 and 32 bits are written byte by byte in both byte orders and read back from
the front of a slice.  A record is its three fields one behind the other, little-endian.

Main results:

- Theorems `numeral_u16ToLeBytes`, `numeral_u32ToLeBytes` and their companions: the
  number behind every encoding and behind every decoded word.
- Theorem `record_codec_round_trips`: the codec and the byte orders on all inputs.
-/

namespace TaskPool
namespace Foundations

open Library

/-! ## Words -/

/-- The two bytes of a word, the lower one first. -/
def u16ToLeBytes (value : UInt16) : Vector UInt8 2 :=
  #v[(value &&& 0xff).toUInt8, ((value >>> 8) &&& 0xff).toUInt8]

/-- The two bytes of a word, the higher one first. -/
def u16ToBeBytes (value : UInt16) : Vector UInt8 2 :=
  #v[((value >>> 8) &&& 0xff).toUInt8, (value &&& 0xff).toUInt8]

/-- The four bytes of a word, the lowest one first. -/
def u32ToLeBytes (value : UInt32) : Vector UInt8 4 :=
  #v[(value &&& 0xff).toUInt8, ((value >>> 8) &&& 0xff).toUInt8,
    ((value >>> 16) &&& 0xff).toUInt8, ((value >>> 24) &&& 0xff).toUInt8]

/-- The four bytes of a word, the highest one first. -/
def u32ToBeBytes (value : UInt32) : Vector UInt8 4 :=
  #v[((value >>> 24) &&& 0xff).toUInt8, ((value >>> 16) &&& 0xff).toUInt8,
    ((value >>> 8) &&& 0xff).toUInt8, (value &&& 0xff).toUInt8]

/-- The word of the first two bytes, the lower one first. -/
def u16FromLeBytes (bytes : List UInt8) : Option UInt16 :=
  if h : bytes.length < 2 then none
  else some (bytes[0].toUInt16 ||| bytes[1].toUInt16 <<< 8)

/-- The word of the first two bytes, the higher one first. -/
def u16FromBeBytes (bytes : List UInt8) : Option UInt16 :=
  if h : bytes.length < 2 then none
  else some (bytes[0].toUInt16 <<< 8 ||| bytes[1].toUInt16)

/-- The word of the first four bytes, the lowest one first. -/
def u32FromLeBytes (bytes : List UInt8) : Option UInt32 :=
  if h : bytes.length < 4 then none
  else some (bytes[0].toUInt32 ||| (bytes[1].toUInt32 <<< 8) ||| (bytes[2].toUInt32 <<< 16) |||
    (bytes[3].toUInt32 <<< 24))

/-- The word of the first four bytes, the highest one first. -/
def u32FromBeBytes (bytes : List UInt8) : Option UInt32 :=
  if h : bytes.length < 4 then none
  else some ((bytes[0].toUInt32 <<< 24) ||| (bytes[1].toUInt32 <<< 16) |||
    (bytes[2].toUInt32 <<< 8) ||| bytes[3].toUInt32)

example : (u32ToLeBytes 0x12345678).toList = [0x78, 0x56, 0x34, 0x12] := by decide

/-! ### The numbers behind the encodings -/

/-- `0xff` keeps the lowest byte. -/
theorem and_mask (n : Nat) : n &&& 255 = n % 256 :=
  Nat.and_two_pow_sub_one_eq_mod n 8

/-- The little-endian bytes of a 16-bit word are its numeral to base 256. -/
theorem numeral_u16ToLeBytes (value : UInt16) :
    numeral (u16ToLeBytes value).toList = value.toNat := by
  have hvalue := value.toNat_lt
  simp [u16ToLeBytes, Nat.shiftRight_eq_div_pow, and_mask]
  omega

/-- The little-endian bytes of a 32-bit word are its numeral to base 256. -/
theorem numeral_u32ToLeBytes (value : UInt32) :
    numeral (u32ToLeBytes value).toList = value.toNat := by
  have hvalue := value.toNat_lt
  simp [u32ToLeBytes, Nat.shiftRight_eq_div_pow, and_mask]
  omega

/-- The big-endian bytes of a 16-bit word are the little-endian ones in reverse. -/
theorem u16ToBeBytes_eq_reverse (value : UInt16) :
    u16ToBeBytes value = (u16ToLeBytes value).reverse := by
  simp [u16ToBeBytes, u16ToLeBytes]

/-- The big-endian bytes of a 32-bit word are the little-endian ones in reverse. -/
theorem u32ToBeBytes_eq_reverse (value : UInt32) :
    u32ToBeBytes value = (u32ToLeBytes value).reverse := by
  simp [u32ToBeBytes, u32ToLeBytes]

/-! ### The numbers behind the decoded words -/

/-- Two little-endian bytes are read as their numeral, whatever follows them. -/
theorem toNat_u16FromLeBytes (b₀ b₁ : UInt8) (trailing : List UInt8) :
    (u16FromLeBytes (b₀ :: b₁ :: trailing)).map UInt16.toNat = some (numeral [b₀, b₁]) := by
  have h₀ := b₀.toNat_lt
  have h₁ := b₁.toNat_lt
  simp [u16FromLeBytes, Nat.shiftLeft_eq]
  rw [lor_eq_add_of_lt (k := 8) (by omega) (by omega)]
  omega

/-- Two big-endian bytes are read as the numeral of their reverse. -/
theorem toNat_u16FromBeBytes (b₀ b₁ : UInt8) (trailing : List UInt8) :
    (u16FromBeBytes (b₀ :: b₁ :: trailing)).map UInt16.toNat = some (numeral [b₁, b₀]) := by
  have h₀ := b₀.toNat_lt
  have h₁ := b₁.toNat_lt
  simp [u16FromBeBytes, Nat.shiftLeft_eq]
  rw [lor_eq_add (k := 8) (by omega) (by omega)]
  omega

/-- Four little-endian bytes are read as their numeral, whatever follows them. -/
theorem toNat_u32FromLeBytes (b₀ b₁ b₂ b₃ : UInt8) (trailing : List UInt8) :
    (u32FromLeBytes (b₀ :: b₁ :: b₂ :: b₃ :: trailing)).map UInt32.toNat =
      some (numeral [b₀, b₁, b₂, b₃]) := by
  have h₀ := b₀.toNat_lt
  have h₁ := b₁.toNat_lt
  have h₂ := b₂.toNat_lt
  have h₃ := b₃.toNat_lt
  have htwo : b₀.toNat ||| b₁.toNat * 256 = b₀.toNat + b₁.toNat * 256 :=
    lor_eq_add_of_lt (k := 8) (by omega) (by omega)
  have hthree : b₀.toNat + b₁.toNat * 256 ||| b₂.toNat * 65536 =
      b₀.toNat + b₁.toNat * 256 + b₂.toNat * 65536 :=
    lor_eq_add_of_lt (k := 16) (by omega) (by omega)
  simp [u32FromLeBytes, Nat.shiftLeft_eq]
  simp (disch := omega) only [Nat.mod_eq_of_lt]
  rw [htwo, hthree, lor_eq_add_of_lt (k := 24) (by omega) (by omega)]
  omega

/-- Four big-endian bytes are read as the numeral of their reverse. -/
theorem toNat_u32FromBeBytes (b₀ b₁ b₂ b₃ : UInt8) (trailing : List UInt8) :
    (u32FromBeBytes (b₀ :: b₁ :: b₂ :: b₃ :: trailing)).map UInt32.toNat =
      some (numeral [b₃, b₂, b₁, b₀]) := by
  have h₀ := b₀.toNat_lt
  have h₁ := b₁.toNat_lt
  have h₂ := b₂.toNat_lt
  have h₃ := b₃.toNat_lt
  have htwo : b₀.toNat * 16777216 ||| b₁.toNat * 65536 =
      b₀.toNat * 16777216 + b₁.toNat * 65536 :=
    lor_eq_add (k := 24) (by omega) (by omega)
  have hthree : b₀.toNat * 16777216 + b₁.toNat * 65536 ||| b₂.toNat * 256 =
      b₀.toNat * 16777216 + b₁.toNat * 65536 + b₂.toNat * 256 :=
    lor_eq_add (k := 16) (by omega) (by omega)
  simp [u32FromBeBytes, Nat.shiftLeft_eq]
  simp (disch := omega) only [Nat.mod_eq_of_lt]
  rw [htwo, hthree, lor_eq_add (k := 8) (by omega) (by omega)]
  omega

/-! ### Round trips of the words -/

/-- A decoded 16-bit word is known by its value. -/
theorem eq_some_of_toNat_u16 {decoded : Option UInt16} {value : UInt16}
    (h : decoded.map UInt16.toNat = some value.toNat) : decoded = some value :=
  Option.map_injective (fun _ _ => UInt16.toNat_inj.mp) h

/-- A decoded 32-bit word is known by its value. -/
theorem eq_some_of_toNat_u32 {decoded : Option UInt32} {value : UInt32}
    (h : decoded.map UInt32.toNat = some value.toNat) : decoded = some value :=
  Option.map_injective (fun _ _ => UInt32.toNat_inj.mp) h

/-- Two byte orders of one width with their decoders: the orders are the reverse of each
other, and each decoder reads the encoding off the front of a slice. -/
structure ByteOrders {α : Type} {width : Nat} (toLe toBe : α → Vector UInt8 width)
    (fromLe fromBe : List UInt8 → Option α) : Prop where
  be_eq_reverse : ∀ value, toBe value = (toLe value).reverse
  fromLe_toLe : ∀ value trailing, fromLe ((toLe value).toList ++ trailing) = some value
  fromBe_toBe : ∀ value trailing, fromBe ((toBe value).toList ++ trailing) = some value

/-- The four functions on 16-bit words are the two byte orders. -/
theorem byteOrders_u16 : ByteOrders u16ToLeBytes u16ToBeBytes u16FromLeBytes u16FromBeBytes where
  be_eq_reverse := u16ToBeBytes_eq_reverse
  fromLe_toLe := fun value trailing => eq_some_of_toNat_u16 <| by
    rw [← numeral_u16ToLeBytes value]
    exact toNat_u16FromLeBytes _ _ trailing
  fromBe_toBe := fun value trailing => eq_some_of_toNat_u16 <| by
    rw [← numeral_u16ToLeBytes value]
    exact toNat_u16FromBeBytes _ _ trailing

/-- The four functions on 32-bit words are the two byte orders. -/
theorem byteOrders_u32 : ByteOrders u32ToLeBytes u32ToBeBytes u32FromLeBytes u32FromBeBytes where
  be_eq_reverse := u32ToBeBytes_eq_reverse
  fromLe_toLe := fun value trailing => eq_some_of_toNat_u32 <| by
    rw [← numeral_u32ToLeBytes value]
    exact toNat_u32FromLeBytes _ _ _ _ trailing
  fromBe_toBe := fun value trailing => eq_some_of_toNat_u32 <| by
    rw [← numeral_u32ToLeBytes value]
    exact toNat_u32FromBeBytes _ _ _ _ trailing

/-! ## Records -/

/-- A record with a field of every width. -/
structure Record where
  id : UInt32
  flags : UInt16
  kind : UInt8
deriving DecidableEq, Repr

/-- The fields in little-endian bytes, one behind the other. -/
def serializeRecord (record : Record) : List UInt8 :=
  (u32ToLeBytes record.id).toList ++ (u16ToLeBytes record.flags).toList ++ [record.kind]

/-- The fields of the first seven bytes; `none` when there are fewer. -/
def deserializeRecord (bytes : List UInt8) : Option Record :=
  if h : bytes.length < 7 then none
  else do
    let id ← u32FromLeBytes (bytes.extract 0 4)
    let flags ← u16FromLeBytes (bytes.extract 4 6)
    let kind := bytes[6]
    return { id, flags, kind }

/-- Seven bytes in front are read as the three fields of a record. -/
theorem deserializeRecord_cons (b₀ b₁ b₂ b₃ b₄ b₅ b₆ : UInt8) (trailing : List UInt8) :
    ∃ id flags, deserializeRecord (b₀ :: b₁ :: b₂ :: b₃ :: b₄ :: b₅ :: b₆ :: trailing) =
        some ⟨id, flags, b₆⟩ ∧
      id.toNat = numeral [b₀, b₁, b₂, b₃] ∧ flags.toNat = numeral [b₄, b₅] := by
  obtain ⟨id, hid, hidValue⟩ := Option.map_eq_some_iff.mp (toNat_u32FromLeBytes b₀ b₁ b₂ b₃ [])
  obtain ⟨flags, hflags, hflagsValue⟩ := Option.map_eq_some_iff.mp (toNat_u16FromLeBytes b₄ b₅ [])
  refine ⟨id, flags, ?_, hidValue, hflagsValue⟩
  simp [deserializeRecord, hid, hflags]

/-- Fewer than seven bytes are no record. -/
theorem deserializeRecord_of_short {bytes : List UInt8} (h : bytes.length < 7) :
    deserializeRecord bytes = none := by
  rw [deserializeRecord, dif_pos h]

/-- What is decoded from a slice is encoded as the front of the slice. -/
theorem serializeRecord_of_deserializeRecord {bytes : List UInt8} (h : 7 ≤ bytes.length) :
    ∃ record, deserializeRecord bytes = some record ∧ serializeRecord record = bytes.take 7 := by
  rcases bytes with _ | ⟨b₀, _ | ⟨b₁, _ | ⟨b₂, _ | ⟨b₃, _ | ⟨b₄, _ | ⟨b₅, _ | ⟨b₆, trailing⟩⟩⟩⟩⟩⟩⟩
  iterate 7
    · simp at h
  obtain ⟨id, flags, hdecode, hid, hflags⟩ := deserializeRecord_cons b₀ b₁ b₂ b₃ b₄ b₅ b₆ trailing
  refine ⟨_, hdecode, ?_⟩
  have hidBytes : (u32ToLeBytes id).toList = [b₀, b₁, b₂, b₃] :=
    numeral_inj rfl ((numeral_u32ToLeBytes id).trans hid)
  have hflagsBytes : (u16ToLeBytes flags).toList = [b₄, b₅] :=
    numeral_inj rfl ((numeral_u16ToLeBytes flags).trans hflags)
  rw [serializeRecord, hidBytes, hflagsBytes]
  rfl

/-- Different records have different bytes. -/
theorem serializeRecord_injective : Function.Injective serializeRecord := by
  intro record other h
  obtain ⟨hfront, hkind⟩ := List.append_inj h (by simp)
  obtain ⟨hid, hflags⟩ := List.append_inj hfront (by simp)
  have hidEq : record.id = other.id := UInt32.toNat_inj.mp <| by
    rw [← numeral_u32ToLeBytes, hid, numeral_u32ToLeBytes]
  have hflagsEq : record.flags = other.flags := UInt16.toNat_inj.mp <| by
    rw [← numeral_u16ToLeBytes, hflags, numeral_u16ToLeBytes]
  have hkindEq : record.kind = other.kind := List.singleton_inj.mp hkind
  cases record
  cases other
  simp_all

@[simp] theorem length_serializeRecord (record : Record) :
    (serializeRecord record).length = 7 := by
  simp [serializeRecord]

/-- An encoded record is decoded again, whatever follows it: what is decoded has the same
encoding. -/
theorem deserializeRecord_serializeRecord (record : Record) (trailing : List UInt8) :
    deserializeRecord (serializeRecord record ++ trailing) = some record := by
  have hlength : 7 ≤ (serializeRecord record ++ trailing).length := by simp
  obtain ⟨decoded, hdecode, hencode⟩ := serializeRecord_of_deserializeRecord hlength
  rw [List.take_left' (length_serializeRecord record)] at hencode
  rw [hdecode, serializeRecord_injective hencode]

/-- A record is read back whatever follows it; exactly the slices of fewer than seven bytes
hold none, and the record read from any other slice is its first seven bytes; both byte
orders of both widths are read back and are the reverse of each other. -/
theorem record_codec_round_trips :
    (∀ record trailing, deserializeRecord (serializeRecord record ++ trailing) = some record) ∧
    (∀ bytes, deserializeRecord bytes = none ↔ bytes.length < 7) ∧
    (∀ bytes record, deserializeRecord bytes = some record →
      serializeRecord record = bytes.take 7) ∧
    ByteOrders u16ToLeBytes u16ToBeBytes u16FromLeBytes u16FromBeBytes ∧
    ByteOrders u32ToLeBytes u32ToBeBytes u32FromLeBytes u32FromBeBytes := by
  refine ⟨deserializeRecord_serializeRecord, fun bytes => ⟨fun hnone => ?_, ?_⟩, ?_,
    byteOrders_u16, byteOrders_u32⟩
  · by_contra hlong
    obtain ⟨record, hdecode, -⟩ :=
      serializeRecord_of_deserializeRecord (Nat.le_of_not_lt hlong)
    rw [hnone] at hdecode
    cases hdecode
  · exact deserializeRecord_of_short
  · intro bytes record hdecode
    by_cases hshort : bytes.length < 7
    · rw [deserializeRecord_of_short hshort] at hdecode
      cases hdecode
    · obtain ⟨decoded, hdecode', hencode⟩ :=
        serializeRecord_of_deserializeRecord (Nat.le_of_not_lt hshort)
      rw [hdecode', Option.some_inj] at hdecode
      rw [← hdecode, hencode]

end Foundations
end TaskPool
