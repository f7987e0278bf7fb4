import RxLisk.Library.LittleEndian

/-!
# Fixed-width integers in memory

The library runs on little-endian hosts: the bytes of an integer, as an unsafe pointer reads them,
are its base-256 digits with the least significant first.  `BytePacker` returns them in either
order, and `bigEndian` conversions swap them.
-/

namespace RxLisk

/-- An unsigned integer type that occupies `size` bytes. -/
class MemoryLayout (T : Type) where
  size : ℕ
  word : T → ℕ
  ofWord : ℕ → T
  word_lt : ∀ value, word value < 256 ^ size
  ofWord_word : ∀ value, ofWord (word value) = value
  word_ofWord : ∀ number, number < 256 ^ size → word (ofWord number) = number

instance : MemoryLayout UInt32 where
  size := 4
  word := UInt32.toNat
  ofWord := UInt32.ofNat
  word_lt value := value.toNat_lt
  ofWord_word _ := UInt32.ofNat_toNat
  word_ofWord _ h := UInt32.toNat_ofNat_of_lt' h

instance : MemoryLayout UInt64 where
  size := 8
  word := UInt64.toNat
  ofWord := UInt64.ofNat
  word_lt value := value.toNat_lt
  ofWord_word _ := UInt64.ofNat_toNat
  word_ofWord _ h := UInt64.toNat_ofNat_of_lt' h

namespace MemoryLayout

variable {T : Type} [MemoryLayout T]

/-- The bytes of a value, from its lowest address on. -/
def bytes (value : T) : List UInt8 :=
  LittleEndian.encode (size T) (word value)

/-- The value read through a pointer to the given bytes. -/
def load (bytes : List UInt8) : T :=
  ofWord (LittleEndian.value (bytes.take (size T)))

/-- `bigEndian` and `init(bigEndian:)` on a little-endian host. -/
def byteSwapped (value : T) : T :=
  load (bytes value).reverse

@[simp]
theorem length_bytes (value : T) : (bytes value).length = size T :=
  LittleEndian.length_encode _ _

theorem word_load {memory : List UInt8} (h : memory.length = size T) :
    word (load memory : T) = LittleEndian.value memory := by
  have hlt := LittleEndian.value_lt memory
  rw [load, List.take_of_length_le h.le, word_ofWord _ (by rwa [← h])]

@[simp]
theorem load_bytes (value : T) : load (bytes value) = value := by
  have hword := word_load (length_bytes value)
  rw [← ofWord_word (load (bytes value) : T), hword, bytes,
    LittleEndian.value_encode_of_lt (word_lt value), ofWord_word]

theorem bytes_load {memory : List UInt8} (h : memory.length = size T) :
    bytes (load memory : T) = memory := by
  rw [bytes, word_load h, LittleEndian.encode_value_of_length h]

/-- Swapping reverses the bytes in memory. -/
theorem byteSwapped_load {memory : List UInt8} (h : memory.length = size T) :
    byteSwapped (load memory : T) = load memory.reverse := by
  rw [byteSwapped, bytes_load h]

end MemoryLayout

namespace BytePacker

inductive ByteOrder where
  | bigEndian
  | littleEndian
deriving DecidableEq

def pack {T : Type} [MemoryLayout T] (value : T) (byteOrder : ByteOrder) : List UInt8 :=
  if byteOrder = .littleEndian then MemoryLayout.bytes value
  else (MemoryLayout.bytes value).reverse

@[simp]
theorem length_pack {T : Type} [MemoryLayout T] (value : T) (byteOrder : ByteOrder) :
    (pack value byteOrder).length = MemoryLayout.size T := by
  cases byteOrder <;> simp [pack]

end BytePacker

end RxLisk
