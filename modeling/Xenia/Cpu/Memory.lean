import Mathlib.Logic.Function.Basic

/-!
# Guest memory and byte order

The guest is big-endian.  `ExecModule::Init` stores a guest word through a host
`uint32_t*`, after converting it with `XESWAP32BE`, which swaps the bytes on a
little-endian host and is the identity on a big-endian one.  On either host the bytes
that land in guest memory are the word's big-endian encoding.

## Main definitions

* `GuestMemory`: the guest address space `xe_memory_addr(memory_, 0)` points at
* `bytesLE`, `bytesBE`, `ofBytesLE`: a `uint32_t` and its bytes
* `xeswap32be host`: `XESWAP32BE` on a host of byte order `host`
* `GuestMemory.store32`: the host store `*slot = n`

## Main results

* `hostBytes_xeswap32be`: on every host, a store of `XESWAP32BE(n)` writes `bytesBE n`
* `GuestMemory.read_store32`, `GuestMemory.byte_store32_of_lt`: what a store writes, and
  that it writes nothing else
-/

namespace Xenia.Cpu

/-- The guest address space: one byte per address, from the base `xe_memory_addr(memory_, 0)`. -/
structure GuestMemory where
  byte : Nat → UInt8

/-- The byte order of the host, chosen by `XE_CPU_BIGENDIAN`. -/
inductive ByteOrder
  | little
  | big
  deriving DecidableEq, Repr

/-! ## Words and their bytes -/

/-- The four bytes of a `uint32_t`, least significant first. -/
def bytesLE (n : UInt32) : List UInt8 :=
  [n.toNat.toUInt8, (n.toNat / 256).toUInt8, (n.toNat / 65536).toUInt8,
    (n.toNat / 16777216).toUInt8]

/-- The big-endian encoding of a `uint32_t`, the guest's byte order. -/
def bytesBE (n : UInt32) : List UInt8 := (bytesLE n).reverse

/-- The `uint32_t` whose bytes, least significant first, are `b₀ b₁ b₂ b₃`. -/
def ofBytesLE (b₀ b₁ b₂ b₃ : UInt8) : UInt32 :=
  UInt32.ofNat (b₀.toNat + 256 * b₁.toNat + 65536 * b₂.toNat + 16777216 * b₃.toNat)

/-- `XESWAP32`: the word with its bytes reversed. -/
def xeswap32 (n : UInt32) : UInt32 :=
  match bytesLE n with
  | [b₀, b₁, b₂, b₃] => ofBytesLE b₃ b₂ b₁ b₀
  | _ => n

/-- `XESWAP32BE`: a guest word in host order, the identity on a big-endian host. -/
def xeswap32be : ByteOrder → UInt32 → UInt32
  | .little, n => xeswap32 n
  | .big, n => n

/-- The bytes, in address order, a host store of the word `n` writes. -/
def hostBytes : ByteOrder → UInt32 → List UInt8
  | .little, n => bytesLE n
  | .big, n => bytesBE n

theorem toUInt8_eq_of_mod {x : Nat} {b : UInt8} (h : x % 256 = b.toNat) : x.toUInt8 = b :=
  UInt8.toNat.inj (by rw [← h]; exact BitVec.toNat_ofNat ..)

/-- **Round trip.** The bytes of the word built from four bytes are those bytes. -/
theorem bytesLE_ofBytesLE (b₀ b₁ b₂ b₃ : UInt8) :
    bytesLE (ofBytesLE b₀ b₁ b₂ b₃) = [b₀, b₁, b₂, b₃] := by
  have h₀ := b₀.toNat_lt_size
  have h₁ := b₁.toNat_lt_size
  have h₂ := b₂.toNat_lt_size
  have h₃ := b₃.toNat_lt_size
  have hn : (ofBytesLE b₀ b₁ b₂ b₃).toNat =
      b₀.toNat + 256 * b₁.toNat + 65536 * b₂.toNat + 16777216 * b₃.toNat := by
    rw [ofBytesLE, UInt32.toNat, show ∀ x, (UInt32.ofNat x).toBitVec.toNat = x % 2 ^ 32 from
      fun x => BitVec.toNat_ofNat ..]
    simp only [UInt8.size] at *
    omega
  simp only [bytesLE, hn, List.cons.injEq, and_true]
  simp only [UInt8.size] at *
  exact ⟨toUInt8_eq_of_mod (by omega), toUInt8_eq_of_mod (by omega),
    toUInt8_eq_of_mod (by omega), toUInt8_eq_of_mod (by omega)⟩

theorem length_bytesLE (n : UInt32) : (bytesLE n).length = 4 := rfl

theorem bytesLE_xeswap32 (n : UInt32) : bytesLE (xeswap32 n) = bytesBE n := by
  simp only [xeswap32, bytesBE, bytesLE]
  rw [← bytesLE, bytesLE_ofBytesLE]
  rfl

/-- **`XESWAP32BE` is the guest byte order.** On every host, storing `XESWAP32BE(n)`
writes the big-endian encoding of `n`. -/
theorem hostBytes_xeswap32be (host : ByteOrder) (n : UInt32) :
    hostBytes host (xeswap32be host n) = bytesBE n := by
  cases host
  · exact bytesLE_xeswap32 n
  · rfl

theorem length_hostBytes (host : ByteOrder) (n : UInt32) : (hostBytes host n).length = 4 := by
  cases host <;> rfl

/-! ## Stores -/

namespace GuestMemory

/-- The bytes `bytes` written from address `addr` on. -/
def writeBytes (mem : GuestMemory) (addr : Nat) : List UInt8 → GuestMemory
  | [] => mem
  | b :: bs => writeBytes ⟨Function.update mem.byte addr b⟩ (addr + 1) bs

/-- `*(uint32_t*)(mem + addr) = n` on a host of byte order `host`. -/
def store32 (host : ByteOrder) (mem : GuestMemory) (addr : Nat) (n : UInt32) : GuestMemory :=
  mem.writeBytes addr (hostBytes host n)

/-- The `len` bytes from address `addr` on. -/
def read (mem : GuestMemory) (addr len : Nat) : List UInt8 :=
  (List.range len).map fun i => mem.byte (addr + i)

/-- A write changes no byte outside its range. -/
theorem byte_writeBytes_of_not_mem (mem : GuestMemory) (addr : Nat) (bytes : List UInt8)
    {a : Nat} (ha : a < addr ∨ addr + bytes.length ≤ a) :
    (mem.writeBytes addr bytes).byte a = mem.byte a := by
  induction bytes generalizing mem addr with
  | nil => rfl
  | cons b bs ih =>
    simp only [List.length_cons] at ha
    rw [writeBytes, ih _ _ (by omega)]
    exact Function.update_noteq (by omega) _ _

/-- The `i`-th byte of the range holds the `i`-th byte written. -/
theorem byte_writeBytes_add (mem : GuestMemory) (addr : Nat) (bytes : List UInt8) {i : Nat}
    (hi : i < bytes.length) : (mem.writeBytes addr bytes).byte (addr + i) = bytes[i] := by
  induction bytes generalizing mem addr i with
  | nil => simp at hi
  | cons b bs ih =>
    cases i with
    | zero =>
      rw [writeBytes, byte_writeBytes_of_not_mem _ _ _ (by omega)]
      simp
    | succ i =>
      rw [writeBytes, show addr + (i + 1) = addr + 1 + i by omega, ih _ _ (by simpa using hi)]
      simp

theorem read_writeBytes (mem : GuestMemory) (addr : Nat) (bytes : List UInt8) :
    (mem.writeBytes addr bytes).read addr bytes.length = bytes := by
  refine List.ext_get (by simp [read]) fun i h₁ h₂ => ?_
  simp only [read, List.get_eq_getElem, List.getElem_map, List.getElem_range]
  exact byte_writeBytes_add mem addr bytes h₂

/-- **The slot holds the guest word.** After a store of `XESWAP32BE(n)` its four bytes
are the big-endian encoding of `n`. -/
theorem read_store32 (host : ByteOrder) (mem : GuestMemory) (addr : Nat) (n : UInt32) :
    (mem.store32 host addr (xeswap32be host n)).read addr 4 = bytesBE n := by
  rw [store32, ← length_hostBytes host (xeswap32be host n), read_writeBytes,
    hostBytes_xeswap32be]

/-- **Frame.** A store changes no byte outside its four. -/
theorem byte_store32_of_lt (host : ByteOrder) (mem : GuestMemory) (addr : Nat) (n : UInt32)
    {a : Nat} (ha : a < addr ∨ addr + 4 ≤ a) : (mem.store32 host addr n).byte a = mem.byte a :=
  byte_writeBytes_of_not_mem _ _ _ (by rw [length_hostBytes]; exact ha)

/-- Reading four bytes sees only those four bytes. -/
theorem read_congr {mem mem' : GuestMemory} {addr : Nat}
    (h : ∀ i < 4, mem'.byte (addr + i) = mem.byte (addr + i)) :
    mem'.read addr 4 = mem.read addr 4 :=
  List.map_congr_left fun i hi => h i (List.mem_range.mp hi)

end GuestMemory

end Xenia.Cpu
