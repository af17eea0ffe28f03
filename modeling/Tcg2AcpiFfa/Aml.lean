import Tcg2AcpiFfa.Basic
import Mathlib.Data.Fin.Basic

/-!
# The AML encodings the driver patches

The `_PRS` templates are AML `DefBuffer` objects, `BufferOp PkgLength BufferSize ByteList`, as
the grammar in the comment of `UpdatePossibleResource` has it. This file decodes the three
length fields that the driver rewrites the way the AML and resource-descriptor rules read them,
with all of their bytes, so that the driver's own decoding and encoding, which look at the
lowest bytes only, can be compared against them.

It also collects the byte arithmetic the driver does with `&`, `|`, `>>` and `<<` on bytes
promoted to integers, each restated as division and remainder once.

## Main definitions

* `amlPkgLength` — a `PkgLength`: lead byte, then 0 to 3 follow bytes
* `amlInteger` — a `ByteConst`, `WordConst` or `DwordConst`
* `descriptorLength` — the 16-bit length of a large resource descriptor

## Main results

* `amlPkgLength_short`, `amlPkgLength_long` — the two forms
* `and_c0_eq_zero_iff`, `and_c0_shiftRight`, `and_0f`, `and_f0_or`, `and_ff0_shiftRight`
-/

namespace Tcg2AcpiFfa

/-! ### Constants of the source -/

/-- `AML_BYTE_PREFIX`. -/
def amlBytePrefix : UInt8 := 0x0A

/-- `AML_WORD_PREFIX`. -/
def amlWordPrefix : UInt8 := 0x0B

/-- `AML_DWORD_PREFIX`. -/
def amlDwordPrefix : UInt8 := 0x0C

/-- `AML_NOOP_OP`, the filler the driver stuffs into unused template bytes. -/
def amlNoopOp : UInt8 := 0xA3

/-- `ACPI_END_TAG_DESCRIPTOR`. -/
def acpiEndTagDescriptor : UInt8 := 0x79

/-! ### Decoding by the AML and resource rules -/

/-- The `PkgLength` whose lead byte is at `q`. Bits 7-6 of the lead byte count the follow bytes;
with none, the length is bits 5-0; otherwise it is bits 3-0, then each follow byte in turn,
little-endian. -/
def amlPkgLength (t : Buffer) (q : ℕ) : ℕ :=
  let lead := (t.getD q 0).toNat
  if lead / 64 = 0 then lead % 64 else lead % 16 + 16 * leAt t (q + 1) (lead / 64)

/-- Data bytes of an `Integer` after its prefix: `ByteConst`, `WordConst`, `DwordConst`. -/
def integerWidth (pre : UInt8) : ℕ :=
  if pre = amlBytePrefix then 1 else if pre = amlWordPrefix then 2
  else if pre = amlDwordPrefix then 4 else 0

/-- The `Integer` whose prefix byte is at `o`, over its full width. -/
def amlInteger (t : Buffer) (o : ℕ) : ℕ := leAt t (o + 1) (integerWidth (t.getD o 0))

/-- The little-endian 16-bit length at `d + 1` of the large resource descriptor at `d`. -/
def descriptorLength (t : Buffer) (d : ℕ) : ℕ := leAt t (d + 1) 2

theorem amlPkgLength_short {t : Buffer} {q : ℕ} (h : (t.getD q 0).toNat < 64) :
    amlPkgLength t q = (t.getD q 0).toNat := by
  simp only [amlPkgLength]
  rw [if_pos (Nat.div_eq_of_lt h), Nat.mod_eq_of_lt h]

theorem amlPkgLength_long {t : Buffer} {q : ℕ} (h : 64 ≤ (t.getD q 0).toNat) :
    amlPkgLength t q =
      (t.getD q 0).toNat % 16 + 16 * leAt t (q + 1) ((t.getD q 0).toNat / 64) := by
  simp only [amlPkgLength]
  rw [if_neg (by omega)]

/-! ### Byte arithmetic

The driver masks and shifts bytes after the usual promotion to `int`. Each identity below is
decided over the 256 byte values once, and used by name. -/

theorem toNat_toUInt8 (n : ℕ) : n.toUInt8.toNat = n % 256 := by
  simp [Nat.toUInt8, UInt8.ofNat, UInt8.toNat]

theorem toNat_lt_256 (x : UInt8) : x.toNat < 256 := x.toNat_lt_size

set_option maxRecDepth 2000 in
private theorem and_c0_table : ∀ x : Fin 256, (x.val &&& 0xC0 = 0 ↔ x.val < 64) ∧
    (x.val &&& 0xC0) >>> 6 = x.val / 64 ∧ x.val &&& 0xF0 = x.val / 16 * 16 ∧
    (x.val &&& 0xFF0) >>> 4 = x.val / 16 := by
  decide

set_option maxRecDepth 2000 in
private theorem or_low_table : ∀ a r : Fin 16, a.val * 16 ||| r.val = a.val * 16 + r.val := by
  decide

theorem and_c0_eq_zero_iff (x : UInt8) : x.toNat &&& 0xC0 = 0 ↔ x.toNat < 64 :=
  (and_c0_table ⟨x.toNat, x.toNat_lt_size⟩).1

theorem and_c0_shiftRight (x : UInt8) : (x.toNat &&& 0xC0) >>> 6 = x.toNat / 64 :=
  (and_c0_table ⟨x.toNat, x.toNat_lt_size⟩).2.1

theorem and_c0_shiftRight_le (x : UInt8) : (x.toNat &&& 0xC0) >>> 6 ≤ 3 := by
  rw [and_c0_shiftRight]; have := toNat_lt_256 x; omega

theorem and_0f (n : ℕ) : n &&& 0x0F = n % 16 := by
  simpa using Nat.and_pow_two_sub_one_eq_mod n 4

theorem and_f0_or (x : UInt8) {r : ℕ} (hr : r < 16) :
    (x.toNat &&& 0xF0) ||| r = x.toNat / 16 * 16 + r := by
  rw [(and_c0_table ⟨x.toNat, x.toNat_lt_size⟩).2.2.1]
  have hx : x.toNat / 16 < 16 := by have := toNat_lt_256 x; omega
  exact or_low_table ⟨_, hx⟩ ⟨r, hr⟩

theorem and_ff0_shiftRight {n : ℕ} (hn : n < 256) : (n &&& 0xFF0) >>> 4 = n / 16 :=
  (and_c0_table ⟨n, hn⟩).2.2.2

end Tcg2AcpiFfa
