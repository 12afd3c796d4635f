import Mathlib.Data.List.Basic

/-!
# The BLE attribute table

`uni_bt_service.gatt.h` is BTstack's attribute database for Bluepad32's BLE service, generated
from `uni_bt_service.gatt`: `profile_data` is a version byte, then one entry per attribute, then
a zero size that ends the table. Its header comment gives the layout of an entry: "size in
bytes (16), flags(16), handle (16), uuid (16/128), value(...)", each 16-bit field
little-endian. An entry's flags say how wide its type UUID is (`ATT_PROPERTY_UUID128`), and
its size says where the value ends. The header also defines, for the code that serves the
attributes, the handle range of each service and the handle of each characteristic's value.

`Attribute` carries, as fields, the two facts every entry must have: a type UUID as wide as
its flags say, and a size that fits its 16-bit field. The code that writes the table
(BTstack's `compile_gatt.py`) and the code that reads it (BTstack's attribute iterator) are
outside this source: `encodeAttDb` and `readAttDb` are modelled from the spec's "generated,
static binary table" and the header comment, and `readAttDb` is stricter than the iterator,
refusing an entry whose size is too short for its header or runs past the table.

The array holds 952 bytes; the comment after it says "total size 546 bytes".

Results:
1. `readAttDb_eq_some_iff`: reading a table gives a list of attributes exactly when the table
   is that list's encoding. Every list of attributes reads back as itself, and nothing but an
   encoding is accepted.
2. `profileData_layout`: `profile_data` reads as 55 attributes with handles 1 to 55, and its
   services, characteristic values and client configurations sit at the handles the header
   defines.
-/

namespace Bluepad32Arduino

/-! ## 16-bit fields -/

theorem uint8_toNat_ofNat (n : Nat) : (UInt8.ofNat n).toNat = n % 256 :=
  BitVec.toNat_ofNat n 8

theorem uint16_toNat_ofNat (n : Nat) : (UInt16.ofNat n).toNat = n % 65536 :=
  BitVec.toNat_ofNat n 16

/-- A 16-bit field as the table stores it: low byte first. -/
def le16Bytes (n : Nat) : List UInt8 := [UInt8.ofNat n, UInt8.ofNat (n / 256)]

/-- BTstack's `little_endian_read_16`: the 16-bit value of a low and a high byte. -/
def littleEndianRead16 (lo hi : UInt8) : UInt16 := UInt16.ofNat (lo.toNat + 256 * hi.toNat)

theorem toNat_littleEndianRead16_le16Bytes {n : Nat} (small : n < 65536) :
    (littleEndianRead16 (UInt8.ofNat n) (UInt8.ofNat (n / 256))).toNat = n := by
  simp only [littleEndianRead16, uint16_toNat_ofNat, uint8_toNat_ofNat]
  omega

@[simp] theorem littleEndianRead16_le16Bytes (v : UInt16) :
    littleEndianRead16 (UInt8.ofNat v.toNat) (UInt8.ofNat (v.toNat / 256)) = v :=
  UInt16.toNat.inj (toNat_littleEndianRead16_le16Bytes v.toNat_lt_size)

theorem toNat_littleEndianRead16_lt (lo hi : UInt8) : (littleEndianRead16 lo hi).toNat < 65536 :=
  (littleEndianRead16 lo hi).toNat_lt_size

@[simp] theorem le16Bytes_littleEndianRead16 (lo hi : UInt8) :
    le16Bytes (littleEndianRead16 lo hi).toNat = [lo, hi] := by
  have := lo.toNat_lt_size
  have := hi.toNat_lt_size
  simp only [UInt8.size] at *
  simp only [le16Bytes, littleEndianRead16, uint16_toNat_ofNat, List.cons.injEq, and_true]
  constructor <;> apply UInt8.toNat.inj <;> simp only [uint8_toNat_ofNat] <;> omega

/-! ## Entries -/

/-- BTstack's `ATT_PROPERTY_UUID128`: set in the flags of an attribute whose type is a
128-bit UUID (the values of the Bluepad32 characteristics, flags `0x0300`, `0x0302`,
`0x0308` and `0x030a` in the table). -/
def attPropertyUuid128 : UInt16 := 0x0200

/-- How many bytes the type UUID of an attribute with these flags takes. -/
def uuidWidth (flags : UInt16) : Nat := if flags &&& attPropertyUuid128 = 0 then 2 else 16

/-- One attribute of the table: its flags, its handle, its type UUID as the table stores it
(little-endian, 2 or 16 bytes) and its value. The size field is not stored: it is the length
of the entry, and it has to fit in 16 bits. -/
@[ext] structure Attribute where
  flags : UInt16
  handle : UInt16
  uuid : List UInt8
  value : List UInt8
  uuid_length : uuid.length = uuidWidth flags
  size_lt : 6 + uuid.length + value.length < 65536
deriving DecidableEq, Repr

/-- The size field of an attribute's entry: the entry's length in bytes. -/
def Attribute.size (a : Attribute) : Nat := 6 + a.uuid.length + a.value.length

/-- The entry of an attribute: size, flags and handle, then the type UUID and the value. -/
def encodeAttribute (a : Attribute) : List UInt8 :=
  le16Bytes a.size ++ le16Bytes a.flags.toNat ++ le16Bytes a.handle.toNat ++ a.uuid ++ a.value

/-- The entry at the head of `bytes`. Modelled from the spec: the code that walks the table,
BTstack's attribute iterator, is outside this source, so this reader follows the layout of the
header comment: size, flags and handle, a type UUID as wide as the flags say, and the value up
to the size, with the bytes after the entry returned with it. It is stricter than BTstack's
iterator, which takes whatever an entry's size says: it refuses an entry whose size does not
cover its header and UUID, or runs past the end of the bytes. -/
def readAttribute : List UInt8 → Option (Attribute × List UInt8)
  | s₀ :: s₁ :: f₀ :: f₁ :: h₀ :: h₁ :: rest =>
    let size := (littleEndianRead16 s₀ s₁).toNat
    let flags := littleEndianRead16 f₀ f₁
    if fits : uuidWidth flags + 6 ≤ size ∧ size ≤ rest.length + 6 then
      some (⟨flags, littleEndianRead16 h₀ h₁, rest.take (uuidWidth flags),
        (rest.take (size - 6)).drop (uuidWidth flags),
        by simp only [List.length_take]; omega,
        by
          have := toNat_littleEndianRead16_lt s₀ s₁
          simp only [List.length_take, List.length_drop]
          omega⟩,
        rest.drop (size - 6))
    else none
  | _ => none

theorem Attribute.size_ge (a : Attribute) : 8 ≤ a.size := by
  have width := a.uuid_length
  unfold uuidWidth at width
  unfold Attribute.size
  split at width <;> omega

theorem Attribute.size_sub (a : Attribute) : a.size - 6 = (a.uuid ++ a.value).length := by
  simp only [Attribute.size, List.length_append]
  omega

theorem length_encodeAttribute (a : Attribute) : (encodeAttribute a).length = a.size := by
  simp only [encodeAttribute, le16Bytes, List.length_append, List.length_cons, List.length_nil,
    Attribute.size]

/-- An attribute's entry reads back as the attribute, whatever follows it. -/
theorem readAttribute_encodeAttribute (a : Attribute) (rest : List UInt8) :
    readAttribute (encodeAttribute a ++ rest) = some (a, rest) := by
  have sizeRead := toNat_littleEndianRead16_le16Bytes (show a.size < 65536 from a.size_lt)
  have inside := a.size_sub
  have big := a.size_ge
  simp only [List.length_append] at inside
  simp only [encodeAttribute, le16Bytes, List.cons_append, List.nil_append, List.append_assoc,
    readAttribute, littleEndianRead16_le16Bytes, sizeRead, ← a.uuid_length]
  rw [dif_pos ⟨by omega, by simp only [List.length_append]; omega⟩]
  simp only [Option.some.injEq, Prod.mk.injEq]
  refine ⟨Attribute.ext rfl rfl (List.take_left _ _) ?_, ?_⟩
  · show ((a.uuid ++ (a.value ++ rest)).take (a.size - 6)).drop a.uuid.length = a.value
    rw [a.size_sub, ← List.append_assoc, List.take_left, List.drop_left]
  · rw [a.size_sub, ← List.append_assoc, List.drop_left]

/-- What the reader accepts is an attribute's entry followed by the rest. -/
theorem readAttribute_sound {bytes rest : List UInt8} {a : Attribute}
    (read : readAttribute bytes = some (a, rest)) : encodeAttribute a ++ rest = bytes := by
  match bytes, read with
  | s₀ :: s₁ :: f₀ :: f₁ :: h₀ :: h₁ :: rest', read =>
    simp only [readAttribute] at read
    split at read
    · next fits =>
      simp only [Option.some.injEq, Prod.mk.injEq] at read
      obtain ⟨rfl, rfl⟩ := read
      have small := toNat_littleEndianRead16_lt s₀ s₁
      obtain ⟨wide, within⟩ := fits
      simp only [encodeAttribute, Attribute.size, List.length_take, List.length_drop]
      rw [show 6 + min (uuidWidth (littleEndianRead16 f₀ f₁)) rest'.length +
          (min ((littleEndianRead16 s₀ s₁).toNat - 6) rest'.length -
            uuidWidth (littleEndianRead16 f₀ f₁)) = (littleEndianRead16 s₀ s₁).toNat by omega]
      simp only [le16Bytes_littleEndianRead16, List.cons_append, List.nil_append,
        List.append_assoc]
      rw [show rest'.take (uuidWidth (littleEndianRead16 f₀ f₁)) =
          (rest'.take ((littleEndianRead16 s₀ s₁).toNat - 6)).take
            (uuidWidth (littleEndianRead16 f₀ f₁)) by rw [List.take_take, min_eq_left (by omega)],
        ← List.append_assoc, List.take_append_drop, List.take_append_drop]
    · cases read

/-! ## Tables -/

/-- The format version `profile_data` starts with ("att db format version 1"). -/
def attDbVersion : UInt8 := 1

/-- A table laid out as `profile_data` is: the version, the entries in handle order, and a
zero size that ends them. Modelled from the spec: the generator that wrote `profile_data`,
BTstack's `compile_gatt.py`, is outside this source; this follows the header comment and the
array itself. -/
def encodeAttDb (attributes : List Attribute) : List UInt8 :=
  attDbVersion :: (attributes.flatMap encodeAttribute ++ [0, 0])

/-- Read entries until the zero size that ends the table, which must be its last two bytes;
`fuel` bounds the number of entries. -/
def readAttributes : Nat → List UInt8 → Option (List Attribute)
  | 0, bytes => if bytes = [0, 0] then some [] else none
  | fuel + 1, bytes =>
    if bytes = [0, 0] then some []
    else
      match readAttribute bytes with
      | some (a, rest) => (readAttributes fuel rest).map (a :: ·)
      | none => none

/-- Read a whole table: the version, then entries up to the end mark. Modelled from the spec:
BTstack reads the table outside this source, and this reader is as strict as `readAttribute`. An entry takes at least
eight bytes, so the table's length bounds the number of entries. -/
def readAttDb : List UInt8 → Option (List Attribute)
  | version :: rest => if version = attDbVersion then readAttributes rest.length rest else none
  | [] => none

theorem encodeAttribute_append_ne_end (a : Attribute) (rest : List UInt8) :
    encodeAttribute a ++ rest ≠ [0, 0] := fun same => by
  have lengths := congrArg List.length same
  simp only [List.length_append, length_encodeAttribute, List.length_cons, List.length_nil] at lengths
  have := a.size_ge
  omega

theorem readAttributes_encode (attributes : List Attribute) {fuel : Nat}
    (enough : attributes.length ≤ fuel) :
    readAttributes fuel (attributes.flatMap encodeAttribute ++ [0, 0]) = some attributes := by
  induction attributes generalizing fuel with
  | nil => cases fuel <;> rfl
  | cons a rest ih =>
    obtain ⟨fuel, rfl⟩ : ∃ f, fuel = f + 1 := ⟨fuel - 1, by simp at enough; omega⟩
    simp only [List.flatMap_cons, List.append_assoc, readAttributes,
      encodeAttribute_append_ne_end, if_false, readAttribute_encodeAttribute,
      ih (by simpa using enough), Option.map_some']

theorem readAttributes_sound {fuel : Nat} {bytes : List UInt8} {attributes : List Attribute}
    (read : readAttributes fuel bytes = some attributes) :
    attributes.flatMap encodeAttribute ++ [0, 0] = bytes := by
  induction fuel generalizing bytes attributes with
  | zero =>
    simp only [readAttributes] at read
    split at read <;> cases read
    simp_all
  | succ fuel ih =>
    simp only [readAttributes] at read
    split at read
    · cases read
      simp_all
    · split at read
      · next a rest found =>
        obtain ⟨rest', later, rfl⟩ := Option.map_eq_some'.mp read
        rw [List.flatMap_cons, List.append_assoc, ih later, readAttribute_sound found]
      · cases read

theorem length_le_flatMap_encodeAttribute (attributes : List Attribute) :
    attributes.length ≤ (attributes.flatMap encodeAttribute).length := by
  induction attributes with
  | nil => rfl
  | cons a rest ih =>
    simp only [List.flatMap_cons, List.length_append, length_encodeAttribute, List.length_cons]
    have := a.size_ge
    omega

/-- Reading a table gives a list of attributes exactly when the table is that list's encoding:
every list of attributes reads back as itself, and the reader accepts nothing else. -/
theorem readAttDb_eq_some_iff {bytes : List UInt8} {attributes : List Attribute} :
    readAttDb bytes = some attributes ↔ encodeAttDb attributes = bytes := by
  constructor
  · intro read
    match bytes, read with
    | version :: rest, read =>
      simp only [readAttDb] at read
      split at read
      · next current => rw [encodeAttDb, readAttributes_sound read, current]
      · cases read
  · rintro rfl
    simp only [encodeAttDb, readAttDb, if_true]
    exact readAttributes_encode attributes
      (by simpa using Nat.le_add_right_of_le (length_le_flatMap_encodeAttribute attributes))

/-! ## Services and characteristics -/

/-- The type of a primary service declaration, `0x2800`, as the table stores it. -/
def primaryServiceUuid : List UInt8 := [0x00, 0x28]

/-- The type of a characteristic declaration, `0x2803`. -/
def characteristicUuid : List UInt8 := [0x03, 0x28]

/-- The type of a client characteristic configuration descriptor, `0x2902`. -/
def clientCharacteristicConfigurationUuid : List UInt8 := [0x02, 0x29]

/-- The handle of the last attribute before the next service declaration, or `start` if
there is none. -/
def serviceEnd (start : UInt16) (rest : List Attribute) : UInt16 :=
  (((rest.takeWhile fun a => a.uuid ≠ primaryServiceUuid).getLast?).map (·.handle)).getD start

/-- The handle range of each service: from its declaration to the attribute before the next
declaration. -/
def serviceRanges : List Attribute → List (UInt16 × UInt16)
  | [] => []
  | a :: rest =>
    if a.uuid = primaryServiceUuid then (a.handle, serviceEnd a.handle rest) :: serviceRanges rest
    else serviceRanges rest

/-- The value handle each characteristic declaration names: bytes 1 and 2 of its value, after
the properties byte. -/
def characteristicValueHandles (attributes : List Attribute) : List UInt16 :=
  attributes.filterMap fun a =>
    if a.uuid = characteristicUuid then
      match a.value with
      | _ :: lo :: hi :: _ => some (littleEndianRead16 lo hi)
      | _ => none
    else none

/-- The handles of the client characteristic configuration descriptors. -/
def clientConfigurationHandles (attributes : List Attribute) : List UInt16 :=
  (attributes.filter fun a => a.uuid = clientCharacteristicConfigurationUuid).map (·.handle)

/-! ## The table of `uni_bt_service.gatt.h` -/

/-- The lines of `profile_data`, byte for byte, with the generator's comments. -/
def profileDataLines : List (List UInt8) := [
  -- ATT DB Version
  [1],
  -- 0x0001 PRIMARY_SERVICE-GAP_SERVICE
  [0x0a, 0x00, 0x02, 0x00, 0x01, 0x00, 0x00, 0x28, 0x00, 0x18],
  -- 0x0002 CHARACTERISTIC-GAP_DEVICE_NAME - READ
  [0x0d, 0x00, 0x02, 0x00, 0x02, 0x00, 0x03, 0x28, 0x02, 0x03, 0x00, 0x00, 0x2a],
  -- 0x0003 VALUE CHARACTERISTIC-GAP_DEVICE_NAME - READ -'Bluepad32'
  -- READ_ANYBODY
  [0x11, 0x00, 0x02, 0x00, 0x03, 0x00, 0x00, 0x2a, 0x42, 0x6c, 0x75, 0x65, 0x70, 0x61, 0x64, 0x33, 0x32],
  -- 0x0004 PRIMARY_SERVICE-GATT_SERVICE
  [0x0a, 0x00, 0x02, 0x00, 0x04, 0x00, 0x00, 0x28, 0x01, 0x18],
  -- 0x0005 CHARACTERISTIC-GATT_DATABASE_HASH - READ
  [0x0d, 0x00, 0x02, 0x00, 0x05, 0x00, 0x03, 0x28, 0x02, 0x06, 0x00, 0x2a, 0x2b],
  -- 0x0006 VALUE CHARACTERISTIC-GATT_DATABASE_HASH - READ -''
  -- READ_ANYBODY
  [0x18, 0x00, 0x02, 0x00, 0x06, 0x00, 0x2a, 0x2b, 0xff, 0x6d, 0x13, 0xfc, 0x16, 0x4f, 0xb3, 0xd3, 0x3f, 0x90, 0xbf, 0x11, 0x30, 0x5d, 0x19, 0x59],
  -- Bluepad32 Service
  -- 0x0007 PRIMARY_SERVICE-4627C4A4-AC00-46B9-B688-AFC5C1BF7F63
  [0x18, 0x00, 0x02, 0x00, 0x07, 0x00, 0x00, 0x28, 0x63, 0x7f, 0xbf, 0xc1, 0xc5, 0xaf, 0x88, 0xb6, 0xb9, 0x46, 0x00, 0xac, 0xa4, 0xc4, 0x27, 0x46],
  -- Bluepad32 Characteristics
  -- Bluepad32 version
  -- 0x0008 CHARACTERISTIC-4627C4A4-AC01-46B9-B688-AFC5C1BF7F63 - READ | DYNAMIC
  [0x1b, 0x00, 0x02, 0x00, 0x08, 0x00, 0x03, 0x28, 0x02, 0x09, 0x00, 0x63, 0x7f, 0xbf, 0xc1, 0xc5, 0xaf, 0x88, 0xb6, 0xb9, 0x46, 0x01, 0xac, 0xa4, 0xc4, 0x27, 0x46],
  -- 0x0009 VALUE CHARACTERISTIC-4627C4A4-AC01-46B9-B688-AFC5C1BF7F63 - READ | DYNAMIC
  -- READ_ANYBODY
  [0x16, 0x00, 0x02, 0x03, 0x09, 0x00, 0x63, 0x7f, 0xbf, 0xc1, 0xc5, 0xaf, 0x88, 0xb6, 0xb9, 0x46, 0x01, 0xac, 0xa4, 0xc4, 0x27, 0x46],
  -- Max supported connections
  -- 0x000a CHARACTERISTIC-4627C4A4-AC02-46B9-B688-AFC5C1BF7F63 - READ | DYNAMIC
  [0x1b, 0x00, 0x02, 0x00, 0x0a, 0x00, 0x03, 0x28, 0x02, 0x0b, 0x00, 0x63, 0x7f, 0xbf, 0xc1, 0xc5, 0xaf, 0x88, 0xb6, 0xb9, 0x46, 0x02, 0xac, 0xa4, 0xc4, 0x27, 0x46],
  -- 0x000b VALUE CHARACTERISTIC-4627C4A4-AC02-46B9-B688-AFC5C1BF7F63 - READ | DYNAMIC
  -- READ_ANYBODY
  [0x16, 0x00, 0x02, 0x03, 0x0b, 0x00, 0x63, 0x7f, 0xbf, 0xc1, 0xc5, 0xaf, 0x88, 0xb6, 0xb9, 0x46, 0x02, 0xac, 0xa4, 0xc4, 0x27, 0x46],
  -- Whether to enable BLE connections
  -- 0x000c CHARACTERISTIC-4627C4A4-AC03-46B9-B688-AFC5C1BF7F63 - READ | WRITE | DYNAMIC
  [0x1b, 0x00, 0x02, 0x00, 0x0c, 0x00, 0x03, 0x28, 0x0a, 0x0d, 0x00, 0x63, 0x7f, 0xbf, 0xc1, 0xc5, 0xaf, 0x88, 0xb6, 0xb9, 0x46, 0x03, 0xac, 0xa4, 0xc4, 0x27, 0x46],
  -- 0x000d VALUE CHARACTERISTIC-4627C4A4-AC03-46B9-B688-AFC5C1BF7F63 - READ | WRITE | DYNAMIC
  -- READ_ANYBODY, WRITE_ANYBODY
  [0x16, 0x00, 0x0a, 0x03, 0x0d, 0x00, 0x63, 0x7f, 0xbf, 0xc1, 0xc5, 0xaf, 0x88, 0xb6, 0xb9, 0x46, 0x03, 0xac, 0xa4, 0xc4, 0x27, 0x46],
  -- Scan for new connections
  -- 0x000e CHARACTERISTIC-4627C4A4-AC04-46B9-B688-AFC5C1BF7F63 - READ | WRITE | DYNAMIC
  [0x1b, 0x00, 0x02, 0x00, 0x0e, 0x00, 0x03, 0x28, 0x0a, 0x0f, 0x00, 0x63, 0x7f, 0xbf, 0xc1, 0xc5, 0xaf, 0x88, 0xb6, 0xb9, 0x46, 0x04, 0xac, 0xa4, 0xc4, 0x27, 0x46],
  -- 0x000f VALUE CHARACTERISTIC-4627C4A4-AC04-46B9-B688-AFC5C1BF7F63 - READ | WRITE | DYNAMIC
  -- READ_ANYBODY, WRITE_ANYBODY
  [0x16, 0x00, 0x0a, 0x03, 0x0f, 0x00, 0x63, 0x7f, 0xbf, 0xc1, 0xc5, 0xaf, 0x88, 0xb6, 0xb9, 0x46, 0x04, 0xac, 0xa4, 0xc4, 0x27, 0x46],
  -- List of connected devices. Returns all connected devices at once.
  -- 0x0010 CHARACTERISTIC-4627C4A4-AC05-46B9-B688-AFC5C1BF7F63 - READ | DYNAMIC
  [0x1b, 0x00, 0x02, 0x00, 0x10, 0x00, 0x03, 0x28, 0x02, 0x11, 0x00, 0x63, 0x7f, 0xbf, 0xc1, 0xc5, 0xaf, 0x88, 0xb6, 0xb9, 0x46, 0x05, 0xac, 0xa4, 0xc4, 0x27, 0x46],
  -- 0x0011 VALUE CHARACTERISTIC-4627C4A4-AC05-46B9-B688-AFC5C1BF7F63 - READ | DYNAMIC
  -- READ_ANYBODY
  [0x16, 0x00, 0x02, 0x03, 0x11, 0x00, 0x63, 0x7f, 0xbf, 0xc1, 0xc5, 0xaf, 0x88, 0xb6, 0xb9, 0x46, 0x05, 0xac, 0xa4, 0xc4, 0x27, 0x46],
  -- Notify all connected devices, only when there is a change, one at the time.
  -- Ideally it should be merged with the previous one, but don't know how to increase
  -- the MTU for the notify package.
  -- 0x0012 CHARACTERISTIC-4627C4A4-AC06-46B9-B688-AFC5C1BF7F63 - NOTIFY | DYNAMIC
  [0x1b, 0x00, 0x02, 0x00, 0x12, 0x00, 0x03, 0x28, 0x10, 0x13, 0x00, 0x63, 0x7f, 0xbf, 0xc1, 0xc5, 0xaf, 0x88, 0xb6, 0xb9, 0x46, 0x06, 0xac, 0xa4, 0xc4, 0x27, 0x46],
  -- 0x0013 VALUE CHARACTERISTIC-4627C4A4-AC06-46B9-B688-AFC5C1BF7F63 - NOTIFY | DYNAMIC
  -- 
  [0x16, 0x00, 0x00, 0x03, 0x13, 0x00, 0x63, 0x7f, 0xbf, 0xc1, 0xc5, 0xaf, 0x88, 0xb6, 0xb9, 0x46, 0x06, 0xac, 0xa4, 0xc4, 0x27, 0x46],
  -- 0x0014 CLIENT_CHARACTERISTIC_CONFIGURATION
  -- READ_ANYBODY, WRITE_ANYBODY
  [0x0a, 0x00, 0x0e, 0x01, 0x14, 0x00, 0x02, 0x29, 0x00, 0x00],
  -- Mappings: Nintendo or Xbox: A,B,X,Y vs B,A,Y,X
  -- 0x0015 CHARACTERISTIC-4627C4A4-AC07-46B9-B688-AFC5C1BF7F63 - READ | WRITE | DYNAMIC
  [0x1b, 0x00, 0x02, 0x00, 0x15, 0x00, 0x03, 0x28, 0x0a, 0x16, 0x00, 0x63, 0x7f, 0xbf, 0xc1, 0xc5, 0xaf, 0x88, 0xb6, 0xb9, 0x46, 0x07, 0xac, 0xa4, 0xc4, 0x27, 0x46],
  -- 0x0016 VALUE CHARACTERISTIC-4627C4A4-AC07-46B9-B688-AFC5C1BF7F63 - READ | WRITE | DYNAMIC
  -- READ_ANYBODY, WRITE_ANYBODY
  [0x16, 0x00, 0x0a, 0x03, 0x16, 0x00, 0x63, 0x7f, 0xbf, 0xc1, 0xc5, 0xaf, 0x88, 0xb6, 0xb9, 0x46, 0x07, 0xac, 0xa4, 0xc4, 0x27, 0x46],
  -- Whether to enable Allowlist in connections
  -- 0x0017 CHARACTERISTIC-4627C4A4-AC08-46B9-B688-AFC5C1BF7F63 - READ | WRITE | DYNAMIC
  [0x1b, 0x00, 0x02, 0x00, 0x17, 0x00, 0x03, 0x28, 0x0a, 0x18, 0x00, 0x63, 0x7f, 0xbf, 0xc1, 0xc5, 0xaf, 0x88, 0xb6, 0xb9, 0x46, 0x08, 0xac, 0xa4, 0xc4, 0x27, 0x46],
  -- 0x0018 VALUE CHARACTERISTIC-4627C4A4-AC08-46B9-B688-AFC5C1BF7F63 - READ | WRITE | DYNAMIC
  -- READ_ANYBODY, WRITE_ANYBODY
  [0x16, 0x00, 0x0a, 0x03, 0x18, 0x00, 0x63, 0x7f, 0xbf, 0xc1, 0xc5, 0xaf, 0x88, 0xb6, 0xb9, 0x46, 0x08, 0xac, 0xa4, 0xc4, 0x27, 0x46],
  -- List of addresses in the allowlist.
  -- 0x0019 CHARACTERISTIC-4627C4A4-AC09-46B9-B688-AFC5C1BF7F63 - READ | WRITE | DYNAMIC
  [0x1b, 0x00, 0x02, 0x00, 0x19, 0x00, 0x03, 0x28, 0x0a, 0x1a, 0x00, 0x63, 0x7f, 0xbf, 0xc1, 0xc5, 0xaf, 0x88, 0xb6, 0xb9, 0x46, 0x09, 0xac, 0xa4, 0xc4, 0x27, 0x46],
  -- 0x001a VALUE CHARACTERISTIC-4627C4A4-AC09-46B9-B688-AFC5C1BF7F63 - READ | WRITE | DYNAMIC
  -- READ_ANYBODY, WRITE_ANYBODY
  [0x16, 0x00, 0x0a, 0x03, 0x1a, 0x00, 0x63, 0x7f, 0xbf, 0xc1, 0xc5, 0xaf, 0x88, 0xb6, 0xb9, 0x46, 0x09, 0xac, 0xa4, 0xc4, 0x27, 0x46],
  -- Whether to enable Virtual Devices
  -- 0x001b CHARACTERISTIC-4627C4A4-AC0A-46B9-B688-AFC5C1BF7F63 - READ | WRITE | DYNAMIC
  [0x1b, 0x00, 0x02, 0x00, 0x1b, 0x00, 0x03, 0x28, 0x0a, 0x1c, 0x00, 0x63, 0x7f, 0xbf, 0xc1, 0xc5, 0xaf, 0x88, 0xb6, 0xb9, 0x46, 0x0a, 0xac, 0xa4, 0xc4, 0x27, 0x46],
  -- 0x001c VALUE CHARACTERISTIC-4627C4A4-AC0A-46B9-B688-AFC5C1BF7F63 - READ | WRITE | DYNAMIC
  -- READ_ANYBODY, WRITE_ANYBODY
  [0x16, 0x00, 0x0a, 0x03, 0x1c, 0x00, 0x63, 0x7f, 0xbf, 0xc1, 0xc5, 0xaf, 0x88, 0xb6, 0xb9, 0x46, 0x0a, 0xac, 0xa4, 0xc4, 0x27, 0x46],
  -- Disconnect a device
  -- 0x001d CHARACTERISTIC-4627C4A4-AC0B-46B9-B688-AFC5C1BF7F63 - WRITE | DYNAMIC
  [0x1b, 0x00, 0x02, 0x00, 0x1d, 0x00, 0x03, 0x28, 0x08, 0x1e, 0x00, 0x63, 0x7f, 0xbf, 0xc1, 0xc5, 0xaf, 0x88, 0xb6, 0xb9, 0x46, 0x0b, 0xac, 0xa4, 0xc4, 0x27, 0x46],
  -- 0x001e VALUE CHARACTERISTIC-4627C4A4-AC0B-46B9-B688-AFC5C1BF7F63 - WRITE | DYNAMIC
  -- WRITE_ANYBODY
  [0x16, 0x00, 0x08, 0x03, 0x1e, 0x00, 0x63, 0x7f, 0xbf, 0xc1, 0xc5, 0xaf, 0x88, 0xb6, 0xb9, 0x46, 0x0b, 0xac, 0xa4, 0xc4, 0x27, 0x46],
  -- Delete stored Bluetooth bond keys
  -- 0x001f CHARACTERISTIC-4627C4A4-AC0C-46B9-B688-AFC5C1BF7F63 - WRITE | DYNAMIC
  [0x1b, 0x00, 0x02, 0x00, 0x1f, 0x00, 0x03, 0x28, 0x08, 0x20, 0x00, 0x63, 0x7f, 0xbf, 0xc1, 0xc5, 0xaf, 0x88, 0xb6, 0xb9, 0x46, 0x0c, 0xac, 0xa4, 0xc4, 0x27, 0x46],
  -- 0x0020 VALUE CHARACTERISTIC-4627C4A4-AC0C-46B9-B688-AFC5C1BF7F63 - WRITE | DYNAMIC
  -- WRITE_ANYBODY
  [0x16, 0x00, 0x08, 0x03, 0x20, 0x00, 0x63, 0x7f, 0xbf, 0xc1, 0xc5, 0xaf, 0x88, 0xb6, 0xb9, 0x46, 0x0c, 0xac, 0xa4, 0xc4, 0x27, 0x46],
  -- add Battery Service
  -- #import <battery_service.gatt> -- BEGIN
  -- Specification Type org.bluetooth.service.battery_service
  -- Battery Service 180F
  -- 0x0021 PRIMARY_SERVICE-ORG_BLUETOOTH_SERVICE_BATTERY_SERVICE
  [0x0a, 0x00, 0x02, 0x00, 0x21, 0x00, 0x00, 0x28, 0x0f, 0x18],
  -- 0x0022 CHARACTERISTIC-ORG_BLUETOOTH_CHARACTERISTIC_BATTERY_LEVEL - DYNAMIC | READ | NOTIFY
  [0x0d, 0x00, 0x02, 0x00, 0x22, 0x00, 0x03, 0x28, 0x12, 0x23, 0x00, 0x19, 0x2a],
  -- 0x0023 VALUE CHARACTERISTIC-ORG_BLUETOOTH_CHARACTERISTIC_BATTERY_LEVEL - DYNAMIC | READ | NOTIFY
  -- READ_ANYBODY
  [0x08, 0x00, 0x02, 0x01, 0x23, 0x00, 0x19, 0x2a],
  -- 0x0024 CLIENT_CHARACTERISTIC_CONFIGURATION
  -- READ_ANYBODY, WRITE_ANYBODY
  [0x0a, 0x00, 0x0e, 0x01, 0x24, 0x00, 0x02, 0x29, 0x00, 0x00],
  -- #import <battery_service.gatt> -- END
  -- add Device ID Service
  -- #import <device_information_service.gatt> -- BEGIN
  -- Specification Type org.bluetooth.service.device_information
  -- Device Information 180A
  -- 0x0025 PRIMARY_SERVICE-ORG_BLUETOOTH_SERVICE_DEVICE_INFORMATION
  [0x0a, 0x00, 0x02, 0x00, 0x25, 0x00, 0x00, 0x28, 0x0a, 0x18],
  -- 0x0026 CHARACTERISTIC-ORG_BLUETOOTH_CHARACTERISTIC_MANUFACTURER_NAME_STRING - DYNAMIC | READ
  [0x0d, 0x00, 0x02, 0x00, 0x26, 0x00, 0x03, 0x28, 0x02, 0x27, 0x00, 0x29, 0x2a],
  -- 0x0027 VALUE CHARACTERISTIC-ORG_BLUETOOTH_CHARACTERISTIC_MANUFACTURER_NAME_STRING - DYNAMIC | READ
  -- READ_ANYBODY
  [0x08, 0x00, 0x02, 0x01, 0x27, 0x00, 0x29, 0x2a],
  -- 0x0028 CHARACTERISTIC-ORG_BLUETOOTH_CHARACTERISTIC_MODEL_NUMBER_STRING - DYNAMIC | READ
  [0x0d, 0x00, 0x02, 0x00, 0x28, 0x00, 0x03, 0x28, 0x02, 0x29, 0x00, 0x24, 0x2a],
  -- 0x0029 VALUE CHARACTERISTIC-ORG_BLUETOOTH_CHARACTERISTIC_MODEL_NUMBER_STRING - DYNAMIC | READ
  -- READ_ANYBODY
  [0x08, 0x00, 0x02, 0x01, 0x29, 0x00, 0x24, 0x2a],
  -- 0x002a CHARACTERISTIC-ORG_BLUETOOTH_CHARACTERISTIC_SERIAL_NUMBER_STRING - DYNAMIC | READ
  [0x0d, 0x00, 0x02, 0x00, 0x2a, 0x00, 0x03, 0x28, 0x02, 0x2b, 0x00, 0x25, 0x2a],
  -- 0x002b VALUE CHARACTERISTIC-ORG_BLUETOOTH_CHARACTERISTIC_SERIAL_NUMBER_STRING - DYNAMIC | READ
  -- READ_ANYBODY
  [0x08, 0x00, 0x02, 0x01, 0x2b, 0x00, 0x25, 0x2a],
  -- 0x002c CHARACTERISTIC-ORG_BLUETOOTH_CHARACTERISTIC_HARDWARE_REVISION_STRING - DYNAMIC | READ
  [0x0d, 0x00, 0x02, 0x00, 0x2c, 0x00, 0x03, 0x28, 0x02, 0x2d, 0x00, 0x27, 0x2a],
  -- 0x002d VALUE CHARACTERISTIC-ORG_BLUETOOTH_CHARACTERISTIC_HARDWARE_REVISION_STRING - DYNAMIC | READ
  -- READ_ANYBODY
  [0x08, 0x00, 0x02, 0x01, 0x2d, 0x00, 0x27, 0x2a],
  -- 0x002e CHARACTERISTIC-ORG_BLUETOOTH_CHARACTERISTIC_FIRMWARE_REVISION_STRING - DYNAMIC | READ
  [0x0d, 0x00, 0x02, 0x00, 0x2e, 0x00, 0x03, 0x28, 0x02, 0x2f, 0x00, 0x26, 0x2a],
  -- 0x002f VALUE CHARACTERISTIC-ORG_BLUETOOTH_CHARACTERISTIC_FIRMWARE_REVISION_STRING - DYNAMIC | READ
  -- READ_ANYBODY
  [0x08, 0x00, 0x02, 0x01, 0x2f, 0x00, 0x26, 0x2a],
  -- 0x0030 CHARACTERISTIC-ORG_BLUETOOTH_CHARACTERISTIC_SOFTWARE_REVISION_STRING - DYNAMIC | READ
  [0x0d, 0x00, 0x02, 0x00, 0x30, 0x00, 0x03, 0x28, 0x02, 0x31, 0x00, 0x28, 0x2a],
  -- 0x0031 VALUE CHARACTERISTIC-ORG_BLUETOOTH_CHARACTERISTIC_SOFTWARE_REVISION_STRING - DYNAMIC | READ
  -- READ_ANYBODY
  [0x08, 0x00, 0x02, 0x01, 0x31, 0x00, 0x28, 0x2a],
  -- 0x0032 CHARACTERISTIC-ORG_BLUETOOTH_CHARACTERISTIC_SYSTEM_ID - DYNAMIC | READ
  [0x0d, 0x00, 0x02, 0x00, 0x32, 0x00, 0x03, 0x28, 0x02, 0x33, 0x00, 0x23, 0x2a],
  -- 0x0033 VALUE CHARACTERISTIC-ORG_BLUETOOTH_CHARACTERISTIC_SYSTEM_ID - DYNAMIC | READ
  -- READ_ANYBODY
  [0x08, 0x00, 0x02, 0x01, 0x33, 0x00, 0x23, 0x2a],
  -- 0x0034 CHARACTERISTIC-ORG_BLUETOOTH_CHARACTERISTIC_IEEE_11073_20601_REGULATORY_CERTIFICATION_DATA_LIST - DYNAMIC | READ
  [0x0d, 0x00, 0x02, 0x00, 0x34, 0x00, 0x03, 0x28, 0x02, 0x35, 0x00, 0x2a, 0x2a],
  -- 0x0035 VALUE CHARACTERISTIC-ORG_BLUETOOTH_CHARACTERISTIC_IEEE_11073_20601_REGULATORY_CERTIFICATION_DATA_LIST - DYNAMIC | READ
  -- READ_ANYBODY
  [0x08, 0x00, 0x02, 0x01, 0x35, 0x00, 0x2a, 0x2a],
  -- 0x0036 CHARACTERISTIC-ORG_BLUETOOTH_CHARACTERISTIC_PNP_ID - DYNAMIC | READ
  [0x0d, 0x00, 0x02, 0x00, 0x36, 0x00, 0x03, 0x28, 0x02, 0x37, 0x00, 0x50, 0x2a],
  -- 0x0037 VALUE CHARACTERISTIC-ORG_BLUETOOTH_CHARACTERISTIC_PNP_ID - DYNAMIC | READ
  -- READ_ANYBODY
  [0x08, 0x00, 0x02, 0x01, 0x37, 0x00, 0x50, 0x2a],
  -- #import <device_information_service.gatt> -- END
  -- END
  [0x00, 0x00]
]

/-- `profile_data`. -/
def profileData : List UInt8 := profileDataLines.flatten

/-- The service ranges the header defines, `ATT_SERVICE_*_START_HANDLE` and `*_END_HANDLE` in
its order (each range is defined a second time with the suffix `_01`). -/
def attServiceHandleRanges : List (UInt16 × UInt16) :=
  [(0x0001, 0x0003), (0x0004, 0x0006), (0x0007, 0x0020), (0x0021, 0x0024), (0x0025, 0x0037)]

/-- The `ATT_CHARACTERISTIC_*_VALUE_HANDLE` constants of the header, in its order. -/
def attCharacteristicValueHandles : List UInt16 :=
  [0x0003, 0x0006, 0x0009, 0x000b, 0x000d, 0x000f, 0x0011, 0x0013, 0x0016, 0x0018, 0x001a,
   0x001c, 0x001e, 0x0020, 0x0023, 0x0027, 0x0029, 0x002b, 0x002d, 0x002f, 0x0031, 0x0033,
   0x0035, 0x0037]

/-- The `ATT_CHARACTERISTIC_*_CLIENT_CONFIGURATION_HANDLE` constants of the header. -/
def attClientConfigurationHandles : List UInt16 := [0x0014, 0x0024]

set_option maxRecDepth 4000 in
/-- `profile_data` reads as a table of 55 attributes, with handles 1 to 55 in order, whose
services, characteristic values and client configurations are where the header's constants
say. -/
theorem profileData_layout :
    (readAttDb profileData).map (fun attributes =>
      (attributes.map (·.handle.toNat), serviceRanges attributes,
        characteristicValueHandles attributes, clientConfigurationHandles attributes)) =
      some (List.range' 1 55, attServiceHandleRanges, attCharacteristicValueHandles,
        attClientConfigurationHandles) := by
  decide

end Bluepad32Arduino
