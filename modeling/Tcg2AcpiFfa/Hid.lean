import Tcg2AcpiFfa.Aml

/-!
# `UpdateHID`: the TPM's `_HID`

`UpdateHID` asks the TPM for its manufacturer and its firmware version, builds the `_HID` string
in a 9-byte local `Hid`, and copies it over the first `"NNNN0000"` string of the table. A
manufacturer whose top byte is `0x00` or `0x20` gets a PNP ID of three vendor characters, padded
with `AML_NOOP_OP` to the width of the tag; any other gets an ACPI ID of four.

## Scope

The TPM is modelled by its two answers (`TpmCapability`). `AsciiSPrint` is modelled by the output
`BasePrintLib` documents for `"%02d%02d"`: each argument in decimal, padded with `0` to two
digits, cut to `BufferSize - 1` characters and ended with `NUL`. The `DEBUG` prints are left out:
they change nothing.

The scan tests offsets up to `Length - TPM_HID_PNP_SIZE`, but the tag with its `NUL` is nine
bytes long: at the last offset the compare reads the byte past the table (`hidEndSsdt`). The
vendor bytes are copied as they are, so a vendor ID that holds a `NUL` ends the `_HID` string
early (`nulVendorTpm`).

## Main definitions

* `TpmCapability`, `updateHid`
* `hidField` — the nine bytes the patch writes
* `WellFormedHid` — the nine bytes a `_HID` patch should leave

## Main results

* `updateHid_eq_some` — a run, taken apart once
* `updateHid_spec` — what a run leaves in the table
* `updateHid_not_error_iff` — when a run succeeds
* `updateHid_eq_none`, `updateHid_eq_none_iff` — exactly when a run faults: at the compare at
  the last offset of the scan
* `updateHid_isSome` — no access outside a table that does not end with the bare tag
-/

namespace Tcg2AcpiFfa

/-! ### Constants and the TPM -/

/-- `TPM_HID_TAG`, `"NNNN0000"`, without its `NUL`. -/
def tpmHidTag : List UInt8 := [0x4E, 0x4E, 0x4E, 0x4E, 0x30, 0x30, 0x30, 0x30]

/-- `TPM_HID_PNP_SIZE`. -/
def tpmHidPnpSize : ℕ := 8

/-- `TPM_HID_ACPI_SIZE`, also the size of the local `Hid`. -/
def tpmHidAcpiSize : ℕ := 9

/-- The answers of the two capability queries: the status each returns and the value it writes
through its `OUT` pointer. `*FirmwareVersion2` is only printed, and is left out. -/
structure TpmCapability where
  /-- The status of `Tpm2GetCapabilityManufactureID`. -/
  manufacturerIdStatus : EfiStatus
  /-- `ManufacturerID`: the vendor characters in memory order, lowest byte first. -/
  manufacturerId : UInt32
  /-- The status of `Tpm2GetCapabilityFirmwareVersion`. -/
  firmwareVersionStatus : EfiStatus
  /-- `FirmwareVersion1`. -/
  firmwareVersion1 : UInt32
  deriving DecidableEq

/-- The four bytes of a `UINT32` in memory, lowest first, as `CopyMem (Hid, &ManufacturerID, n)`
reads them. -/
def uint32Bytes (x : UInt32) : List UInt8 :=
  [x.toUInt8, (x >>> 8).toUInt8, (x >>> 16).toUInt8, (x >>> 24).toUInt8]

/-- `((ManufacturerID >> 24) == 0x00) || ((ManufacturerID >> 24) == 0x20)`: the vendor ID has
three characters, and the `_HID` is a PNP ID. -/
def isPnpId (m : UInt32) : Bool := m >>> 24 == 0x00 || m >>> 24 == 0x20

/-- How many vendor bytes `UpdateHID` copies: 3 for a PNP ID, 4 for an ACPI ID. -/
def hidVendorLength (m : UInt32) : ℕ := if isPnpId m then 3 else 4

/-! ### `AsciiSPrint` with `"%02d%02d"` -/

/-- The decimal digits of `v`, most significant first, by at most `fuel` divisions by ten; ten are
enough for any `UINT32`. -/
def decimalText : ℕ → ℕ → List UInt8
  | 0, _ => []
  | fuel + 1, v => (if v < 10 then [] else decimalText fuel (v / 10)) ++ [(0x30 + v % 10).toUInt8]

/-- `"%02d"`: the decimal digits, padded on the left with `0` to two. -/
def printDec02 (v : ℕ) : List UInt8 :=
  List.replicate (2 - (decimalText 10 v).length) 0x30 ++ decimalText 10 v

/-- `"%02d%02d"` applied to `(FirmwareVersion1 & 0xFFFF0000) >> 16` and
`FirmwareVersion1 & 0x0000FFFF`. -/
def firmwareVersionText (v1 : UInt32) : List UInt8 :=
  printDec02 ((v1 &&& 0xFFFF0000) >>> 16).toNat ++ printDec02 (v1 &&& 0x0000FFFF).toNat

/-- `AsciiSPrint (Buffer + dst, BufferSize, ...)` producing `text`: its first `BufferSize - 1`
characters, then `NUL`. -/
def asciiSPrint (b : Buffer) (dst bufferSize : ℕ) (text : List UInt8) : Option Buffer :=
  writeBytes b dst (text.take (bufferSize - 1) ++ [0])

/-! ### `UpdateHID` -/

/-- Offsets the scan tests: `DataPtr` runs from `(UINT8 *)(Table + 1)` while
`DataPtr <= (UINT8 *)Table + Table->Length - TPM_HID_PNP_SIZE`. -/
def hidScanCount (len : ℕ) : ℕ := len + 1 - (tpmHidPnpSize + acpiHeaderSize)

/-- `UpdateHID (Table)` with the TPM answering `tpm`: the status it returns and the table. -/
def updateHid (t : Buffer) (tpm : TpmCapability) : Option (EfiStatus × Buffer) :=
  let hid := List.replicate tpmHidAcpiSize 0
  if efiError tpm.manufacturerIdStatus then some (tpm.manufacturerIdStatus, t)
  else do
    let pnpHid := isPnpId tpm.manufacturerId
    let hid ← copyMem hid 0 ((uint32Bytes tpm.manufacturerId).take (if pnpHid then 3 else 4))
    if efiError tpm.firmwareVersionStatus then pure (tpm.firmwareVersionStatus, t)
    else do
      let text := firmwareVersionText tpm.firmwareVersion1
      let hid ← (if pnpHid then asciiSPrint hid 3 (tpmHidPnpSize - 3) text
        else asciiSPrint hid 4 (tpmHidAcpiSize - 4) text)
      let len ← tableLength t
      let hit ← scanFirst (fun p => (asciiStrCmp t p tpmHidTag).map (· == 0)) acpiHeaderSize
        (hidScanCount len)
      match hit with
      | none => pure (efiNotFound, t)
      | some p =>
        if pnpHid then do
          let t ← copyMem t p (hid.take tpmHidPnpSize)
          let t ← writeByte t (p + tpmHidPnpSize) amlNoopOp
          pure (tpm.firmwareVersionStatus, t)
        else do
          let t ← copyMem t p (hid.take tpmHidAcpiSize)
          pure (tpm.firmwareVersionStatus, t)

/-! ### The field it writes -/

/-- `Hid` after `ZeroMem`, the vendor `CopyMem` and `AsciiSPrint`: for a PNP ID, the `NUL` that
`AsciiSPrint` writes is followed by a zero that `ZeroMem` left. -/
def hidLocal (m v1 : UInt32) : Buffer :=
  (uint32Bytes m).take (hidVendorLength m) ++ (firmwareVersionText v1).take 4 ++ [0] ++
    if isPnpId m then [0] else []

/-- The nine bytes `UpdateHID` writes over the tag: the vendor bytes, four characters of
`"%02d%02d"`, `NUL`, and for a PNP ID one `AML_NOOP_OP`. -/
def hidField (m v1 : UInt32) : List UInt8 :=
  (uint32Bytes m).take (hidVendorLength m) ++ (firmwareVersionText v1).take 4 ++ [0] ++
    if isPnpId m then [amlNoopOp] else []

/-- An ASCII decimal digit. -/
def IsAsciiDigit (c : UInt8) : Prop := 0x30 ≤ c.toNat ∧ c.toNat ≤ 0x39

/-- The nine bytes at a `_HID` tag after the patch, as a well-formed AML string padded to the
width of the tag: the vendor characters of `m`, four decimal digits of the firmware version
`v1`, one `NUL` that ends the string, and for a PNP ID one `AML_NOOP_OP`. That the `NUL` ends the
string needs vendor characters that are not `NUL`. -/
structure WellFormedHid (m v1 : UInt32) (field : List UInt8) : Prop where
  /-- The field is as wide as the tag with its `NUL`. -/
  length_eq : field.length = 9
  /-- The vendor characters: the low 3 bytes of `m` for a PNP ID, all 4 otherwise. -/
  vendor : field.take (hidVendorLength m) = (uint32Bytes m).take (hidVendorLength m)
  /-- Then the first four characters of `"%02d%02d"` applied to the two halves of `v1`. -/
  version : (field.drop (hidVendorLength m)).take 4 = (firmwareVersionText v1).take 4
  /-- Those are four decimal digits. -/
  digits : ∀ c ∈ (field.drop (hidVendorLength m)).take 4, IsAsciiDigit c
  /-- Then `NUL`. -/
  nul : field[hidVendorLength m + 4]? = some 0
  /-- Which is the first `NUL` of the field when the vendor characters hold none. -/
  first_nul : 0 ∉ (uint32Bytes m).take (hidVendorLength m) →
    0 ∉ field.take (hidVendorLength m + 4)
  /-- For a PNP ID, the ninth byte is `AML_NOOP_OP`. -/
  noop : isPnpId m → field[8]? = some amlNoopOp

/-- `t'` is `t` with a well-formed `_HID` field at `p`, the first `"NNNN0000"` with its `NUL`
in the scan range of a table of header length `len`, and every other byte kept. -/
structure HidPatched (t t' : Buffer) (tpm : TpmCapability) (len p : ℕ) : Prop where
  /-- The first tag in the scan range. -/
  first : FirstOccurrence t (tpmHidTag ++ [0]) acpiHeaderSize (hidScanCount len) p
  /-- The table keeps its size. -/
  length_eq : t'.length = t.length
  /-- Only the nine bytes at `p` change. -/
  frame : ∀ i, i < p ∨ p + 9 ≤ i → t'[i]? = t[i]?
  /-- And they hold a well-formed field. -/
  field : WellFormedHid tpm.manufacturerId tpm.firmwareVersion1 ((t'.drop p).take 9)

/-- No `"NNNN0000"` with its `NUL` in the scan range of a table of header length `len`. -/
def NoHidTag (t : Buffer) (len : ℕ) : Prop :=
  ∀ q, acpiHeaderSize ≤ q → q < acpiHeaderSize + hidScanCount len → ¬ OccursAt t q (tpmHidTag ++ [0])

instance : DecidablePred IsAsciiDigit := fun _ => inferInstanceAs (Decidable (_ ∧ _))

theorem decimalText_digits : ∀ (fuel v : ℕ), ∀ c ∈ decimalText fuel v, IsAsciiDigit c
  | 0, _ => by simp [decimalText]
  | fuel + 1, v => by
    have hd : IsAsciiDigit (0x30 + v % 10).toUInt8 := by
      simp only [IsAsciiDigit, toNat_toUInt8]; omega
    intro c hc
    simp only [decimalText, List.mem_append, List.mem_singleton] at hc
    rcases hc with hc | rfl
    · split at hc
      · simp at hc
      · exact decimalText_digits fuel (v / 10) c hc
    · exact hd

theorem two_le_length_printDec02 (v : ℕ) : 2 ≤ (printDec02 v).length := by
  simp only [printDec02, List.length_append, List.length_replicate]
  omega

theorem printDec02_digits (v : ℕ) : ∀ c ∈ printDec02 v, IsAsciiDigit c := by
  intro c hc
  simp only [printDec02, List.mem_append, List.mem_replicate] at hc
  rcases hc with ⟨-, rfl⟩ | hc
  · decide
  · exact decimalText_digits 10 v c hc

theorem length_take_firmwareVersionText (v1 : UInt32) :
    ((firmwareVersionText v1).take 4).length = 4 := by
  have := two_le_length_printDec02 ((v1 &&& 0xFFFF0000) >>> 16).toNat
  have := two_le_length_printDec02 (v1 &&& 0x0000FFFF).toNat
  simp only [firmwareVersionText, List.length_take, List.length_append]
  omega

/-- `hidField` is the field a `_HID` patch should leave, but for the `NUL` that vendor bytes
may hold. -/
theorem wellFormedHid_hidField (m v1 : UInt32) : WellFormedHid m v1 (hidField m v1) := by
  obtain ⟨d0, d1, d2, d3, hD⟩ : ∃ d0 d1 d2 d3, (firmwareVersionText v1).take 4 = [d0, d1, d2, d3] :=
    match (firmwareVersionText v1).take 4, length_take_firmwareVersionText v1 with
    | [d0, d1, d2, d3], _ => ⟨d0, d1, d2, d3, rfl⟩
  have hdig : ∀ c ∈ [d0, d1, d2, d3], IsAsciiDigit c := fun c hc => by
    rw [← hD] at hc
    have hc' := List.mem_of_mem_take hc
    simp only [firmwareVersionText, List.mem_append] at hc'
    exact hc'.elim (printDec02_digits _ c) (printDec02_digits _ c)
  have hne : ∀ c ∈ [d0, d1, d2, d3], 0 ≠ c := fun c hc h => by
    simpa [← h, IsAsciiDigit] using hdig c hc
  simp only [List.mem_cons, List.mem_singleton, List.not_mem_nil, or_false, forall_eq_or_imp,
    forall_eq] at hdig hne
  unfold hidField
  rw [hD]
  cases hp : isPnpId m <;>
    exact ⟨by simp [hidVendorLength, hp, uint32Bytes], by simp [hidVendorLength, hp, uint32Bytes],
      by simp [hidVendorLength, hp, uint32Bytes, hD], by simpa [hidVendorLength, hp, uint32Bytes],
      by simp [hidVendorLength, hp, uint32Bytes], by simp_all [hidVendorLength, uint32Bytes],
      by simp [hidVendorLength, hp, uint32Bytes]⟩

/-! ### How `Hid` is built -/

theorem copyMem_hidVendor (m : UInt32) :
    copyMem (List.replicate tpmHidAcpiSize 0) 0
        ((uint32Bytes m).take (if isPnpId m then 3 else 4)) =
      some ((uint32Bytes m).take (hidVendorLength m) ++ List.replicate (9 - hidVendorLength m) 0) := by
  cases hp : isPnpId m <;> simp only [hidVendorLength, hp] <;> rfl

theorem asciiSPrint_hidVersion (m v1 : UInt32) :
    (if isPnpId m then
        asciiSPrint ((uint32Bytes m).take (hidVendorLength m) ++
          List.replicate (9 - hidVendorLength m) 0) 3 (tpmHidPnpSize - 3) (firmwareVersionText v1)
      else asciiSPrint ((uint32Bytes m).take (hidVendorLength m) ++
          List.replicate (9 - hidVendorLength m) 0) 4 (tpmHidAcpiSize - 4) (firmwareVersionText v1)) =
      some (hidLocal m v1) := by
  have hd := length_take_firmwareVersionText v1
  have hs : ∀ (k : ℕ), k ≤ 4 → k + ((firmwareVersionText v1).take 4 ++ [0]).length ≤
      ((uint32Bytes m).take k ++ List.replicate (9 - k) 0).length := fun k hk => by
    simp [hd, uint32Bytes]; omega
  cases hp : isPnpId m <;>
    simp only [hidLocal, hidVendorLength, hp, Bool.false_eq_true, eq_self_iff_true, if_true,
      if_false, asciiSPrint, tpmHidPnpSize, tpmHidAcpiSize, Nat.reduceSub]
  · rw [writeBytes_eq_splice (hs 4 le_rfl)]
    simp [uint32Bytes, hd]
  · rw [writeBytes_eq_splice (hs 3 (by omega))]
    simp [uint32Bytes, hd]

theorem length_hidLocal (m v1 : UInt32) : (hidLocal m v1).length = 9 := by
  have hd := length_take_firmwareVersionText v1
  cases hp : isPnpId m <;> simp [hidLocal, hidVendorLength, hp, uint32Bytes, hd]

/-- What the patch copies from `Hid`, with the `AML_NOOP_OP` of a PNP ID, is `hidField`. -/
theorem hidField_eq (m v1 : UInt32) : hidField m v1 = if isPnpId m then
    (hidLocal m v1).take tpmHidPnpSize ++ [amlNoopOp] else (hidLocal m v1).take tpmHidAcpiSize := by
  have hd := length_take_firmwareVersionText v1
  cases hp : isPnpId m <;> simp [hidField, hidLocal, hidVendorLength, hp, uint32Bytes,
    tpmHidPnpSize, tpmHidAcpiSize, List.take_append_eq_append_take, hd]

/-! ### Sample tables -/

/-- A TPM of vendor `"IBM "` and firmware version 1.2. -/
def sampleTpm : TpmCapability := ⟨efiSuccess, 0x204D4249, efiSuccess, 0x00010002⟩

/-- `Name (_HID, "NNNN0000")`. -/
def hidName : List UInt8 := [0x08, 0x5F, 0x48, 0x49, 0x44, 0x0D] ++ tpmHidTag ++ [0]

/-- A 51-byte table holding `hidName`. -/
def hidSsdt : Buffer := sampleHeader 51 ++ hidName

/-- A TPM whose vendor ID `"AB"` is padded with two `NUL`s. -/
def nulVendorTpm : TpmCapability := ⟨efiSuccess, 0x00004241, efiSuccess, 0x00010002⟩

/-- A 44-byte table that ends with `"NNNN0000"` and no `NUL`. -/
def hidEndSsdt : Buffer := sampleHeader 44 ++ tpmHidTag

/-! ### A run -/

section Run

variable {t t' : Buffer} {tpm : TpmCapability} {st : EfiStatus}

/-- **What `UpdateHID` can do.** It fails with the status of a failed capability query, or finds no
tag and returns `EFI_NOT_FOUND`, and leaves the table as it was; or it writes `hidField` over the
first tag and returns the status of the firmware-version query. -/
theorem updateHid_eq_some (h : updateHid t tpm = some (st, t')) :
    (efiError tpm.manufacturerIdStatus ∧ st = tpm.manufacturerIdStatus ∧ t' = t) ∨
    (¬ efiError tpm.manufacturerIdStatus ∧ efiError tpm.firmwareVersionStatus ∧
      st = tpm.firmwareVersionStatus ∧ t' = t) ∨
    (¬ efiError tpm.manufacturerIdStatus ∧ ¬ efiError tpm.firmwareVersionStatus ∧
      ∃ len, tableLength t = some len ∧
      ((∀ q, acpiHeaderSize ≤ q → q < acpiHeaderSize + hidScanCount len →
          ¬ OccursAt t q (tpmHidTag ++ [0])) ∧ st = efiNotFound ∧ t' = t ∨
        ∃ p, FirstOccurrence t (tpmHidTag ++ [0]) acpiHeaderSize (hidScanCount len) p ∧
          st = tpm.firmwareVersionStatus ∧
          t' = t.take p ++ hidField tpm.manufacturerId tpm.firmwareVersion1 ++ t.drop (p + 9))) := by
  unfold updateHid at h
  dsimp only at h
  split at h
  · cases h; exact .inl ⟨‹_›, rfl, rfl⟩
  rename_i hm
  obtain ⟨hid, hv, h⟩ := Option.bind_eq_some.1 h
  rw [copyMem_hidVendor] at hv
  cases hv
  split at h
  · cases h; exact .inr (.inl ⟨hm, ‹_›, rfl, rfl⟩)
  rename_i hf
  obtain ⟨hid, hv, h⟩ := Option.bind_eq_some.1 h
  rw [asciiSPrint_hidVersion] at hv
  cases hv
  obtain ⟨len, hlen, h⟩ := Option.bind_eq_some.1 h
  obtain ⟨hit, hs, h⟩ := Option.bind_eq_some.1 h
  have hnul : (0 : UInt8) ∉ tpmHidTag := by decide
  refine .inr (.inr ⟨hm, hf, len, hlen, ?_⟩)
  cases hit with
  | none =>
    cases h
    exact .inl ⟨not_occursAt_of_scanFirst (fun _ => asciiStrCmp_test_false hnul) hs, rfl, rfl⟩
  | some p =>
    have hfo := firstOccurrence_of_scanFirst (fun _ => asciiStrCmp_test_true hnul)
      (fun _ => asciiStrCmp_test_false hnul) hs
    have h9 : p + 9 ≤ t.length := by
      simpa [tpmHidTag] using hfo.2.2.1.add_length_le (by decide)
    -- both forms of the patch store `hidField` at `p`
    have hw : st = tpm.firmwareVersionStatus ∧
        writeBytes t p (hidField tpm.manufacturerId tpm.firmwareVersion1) = some t' := by
      dsimp only at h
      rw [hidField_eq]
      split at h
      · rename_i hp
        obtain ⟨t₁, h₁, h⟩ := Option.bind_eq_some.1 h
        obtain ⟨t₂, h₂, h⟩ := Option.bind_eq_some.1 h
        cases h
        rw [if_pos hp, writeBytes_append_right, ← copyMem, h₁, Option.some_bind,
          List.length_take_of_le (by rw [length_hidLocal]; decide), writeBytes_singleton]
        exact ⟨rfl, h₂⟩
      · rename_i hp
        obtain ⟨t₁, h₁, h⟩ := Option.bind_eq_some.1 h
        cases h
        rw [if_neg hp]
        exact ⟨rfl, h₁⟩
    obtain ⟨rfl, hw⟩ := hw
    rw [writeBytes_eq_splice (by rw [(wellFormedHid_hidField _ _).length_eq]; omega),
      (wellFormedHid_hidField _ _).length_eq] at hw
    exact .inr ⟨p, hfo, rfl, (Option.some.inj hw).symm⟩

/-- Writing `hidField` over the first tag is a `HidPatched` table. -/
theorem hidPatched_of_first {len p : ℕ}
    (hfo : FirstOccurrence t (tpmHidTag ++ [0]) acpiHeaderSize (hidScanCount len) p) :
    HidPatched t (t.take p ++ hidField tpm.manufacturerId tpm.firmwareVersion1 ++ t.drop (p + 9))
      tpm len p := by
  have hF := wellFormedHid_hidField tpm.manufacturerId tpm.firmwareVersion1
  have hl := hF.length_eq
  have h9 : p + 9 ≤ t.length := by
    simpa [tpmHidTag] using hfo.2.2.1.add_length_le (by decide)
  have hw : writeBytes t p (hidField tpm.manufacturerId tpm.firmwareVersion1) =
      some (t.take p ++ hidField tpm.manufacturerId tpm.firmwareVersion1 ++ t.drop (p + 9)) := by
    rw [writeBytes_eq_splice (by omega), hl]
  have htp : (t.take p).length = p := List.length_take_of_le (by omega)
  refine ⟨hfo, length_of_writeBytes hw, fun i hi => ?_, ?_⟩
  · rw [getElem?_of_writeBytes hw, if_neg (by omega)]
  · rwa [List.append_assoc, List.drop_append_eq_append_drop, htp, Nat.sub_self,
      List.drop_of_length_le (by omega), List.nil_append, List.drop_zero,
      List.take_append_of_le_length (by omega), List.take_of_length_le (by omega)]

/-- A run that returns no error patched the first tag. -/
theorem hidPatched_of_updateHid (h : updateHid t tpm = some (st, t')) (hst : ¬ efiError st) :
    ∃ len p, tableLength t = some len ∧ HidPatched t t' tpm len p := by
  rcases updateHid_eq_some h with ⟨hm, rfl, -⟩ | ⟨-, hf, rfl, -⟩ |
    ⟨-, -, len, hlen, ⟨-, rfl, -⟩ | ⟨p, hfo, -, rfl⟩⟩
  · exact absurd hm hst
  · exact absurd hf hst
  · exact absurd rfl hst
  · exact ⟨len, p, hlen, hidPatched_of_first hfo⟩

/-- **When `UpdateHID` succeeds.** Its status is not an error exactly when both capability
queries succeed and the scan range holds a tag. -/
theorem updateHid_not_error_iff (h : updateHid t tpm = some (st, t')) :
    ¬ efiError st ↔ ¬ efiError tpm.manufacturerIdStatus ∧ ¬ efiError tpm.firmwareVersionStatus ∧
      ∃ len q, tableLength t = some len ∧ acpiHeaderSize ≤ q ∧
        q < acpiHeaderSize + hidScanCount len ∧ OccursAt t q (tpmHidTag ++ [0]) := by
  rcases updateHid_eq_some h with ⟨hm, rfl, -⟩ | ⟨-, hf, rfl, -⟩ |
    ⟨hm, hf, len, hlen, ⟨hno, rfl, -⟩ | ⟨p, hfo, rfl, -⟩⟩
  · simp only [hm, not_true_eq_false, false_and]
  · simp only [hf, not_true_eq_false, false_and, and_false]
  · -- no tag: `EFI_NOT_FOUND`
    refine ⟨fun hne => absurd (by decide : efiError efiNotFound = true) hne, ?_⟩
    rintro ⟨-, -, len', q, hlen', h1, h2, ho⟩
    cases hlen.symm.trans hlen'
    exact absurd ho (hno q h1 h2)
  · exact ⟨fun _ => ⟨hm, hf, len, p, hlen, hfo.1, hfo.2.1, hfo.2.2.1⟩, fun _ => hf⟩

theorem hidSsdt_updateHid_not_error_iff :
    ∃ st t', updateHid hidSsdt sampleTpm = some (st, t') ∧
      (¬ efiError st ↔ ¬ efiError sampleTpm.manufacturerIdStatus ∧
        ¬ efiError sampleTpm.firmwareVersionStatus ∧
        ∃ len q, tableLength hidSsdt = some len ∧ acpiHeaderSize ≤ q ∧
          q < acpiHeaderSize + hidScanCount len ∧ OccursAt hidSsdt q (tpmHidTag ++ [0])) := by
  obtain ⟨⟨st, t'⟩, hr⟩ := Option.isSome_iff_exists.1
    (show (updateHid hidSsdt sampleTpm).isSome by decide)
  exact ⟨st, t', hr, updateHid_not_error_iff hr⟩

/-- The scan of `UpdateHID` runs to its end unless the table ends with the eight characters of the
tag at an offset the scan reaches: only the compare at the last offset can read past the table. -/
theorem hidScan_isSome_of_not_tail
    (htail : acpiHeaderSize + tpmHidPnpSize ≤ t.length →
      ¬ OccursAt t (t.length - tpmHidPnpSize) tpmHidTag) :
    (scanFirst (fun p => (asciiStrCmp t p tpmHidTag).map (· == 0)) acpiHeaderSize
      (hidScanCount t.length)).isSome := by
  have htag : tpmHidTag.length = 8 := rfl
  refine scanFirst_isSome fun q h1 h2 => ?_
  simp only [hidScanCount, tpmHidPnpSize, acpiHeaderSize] at h1 h2 htail
  rw [Option.isSome_map']
  rcases Nat.lt_or_ge (q + tpmHidTag.length) t.length with hq | hq
  · exact asciiStrCmp_isSome hq
  · refine asciiStrCmp_isSome_of_not_occursAt (by omega) ?_
    rw [show q = t.length - 8 by omega]
    exact htail (by omega)

/-- The scan faults at its last offset when the scan range holds no tag with its `NUL` and the
table ends, past the header, with the eight characters of the tag. -/
theorem hidScan_eq_none (hno : NoHidTag t t.length)
    (h44 : acpiHeaderSize + tpmHidPnpSize ≤ t.length)
    (htail : OccursAt t (t.length - tpmHidPnpSize) tpmHidTag) :
    scanFirst (fun p => (asciiStrCmp t p tpmHidTag).map (· == 0)) acpiHeaderSize
      (hidScanCount t.length) = none := by
  simp only [acpiHeaderSize, tpmHidPnpSize] at h44
  refine scanFirst_eq_none (q := t.length - tpmHidPnpSize) ?_ ?_ ?_ fun q h1 h2 => ?_
  · simp only [acpiHeaderSize, tpmHidPnpSize]
    omega
  · simp only [hidScanCount, acpiHeaderSize, tpmHidPnpSize]
    omega
  · rw [asciiStrCmp_eq_none_of_occursAt (by decide) htail
      (by simp only [tpmHidTag, tpmHidPnpSize, List.length]; omega)]
    rfl
  · -- below the last offset every compare stays inside the table and finds no tag
    have hq : q < acpiHeaderSize + hidScanCount t.length := by
      simp only [hidScanCount, acpiHeaderSize, tpmHidPnpSize] at h2 ⊢
      omega
    obtain ⟨x, hx⟩ := Option.isSome_iff_exists.1 (asciiStrCmp_isSome (b := t) (p := q)
      (s := tpmHidTag) (by simp only [tpmHidTag, tpmHidPnpSize, List.length] at h2 ⊢; omega))
    have hx0 : x ≠ 0 := by
      rintro rfl
      exact hno q h1 hq ((asciiStrCmp_eq_some_zero_iff (by decide)).1 hx)
    simp [hx, hx0]

/-- The scan stops, inside the table, at a tag with its `NUL` in the scan range. -/
theorem hidScan_isSome_of_tag {q : ℕ} (h1 : acpiHeaderSize ≤ q)
    (h2 : q < acpiHeaderSize + hidScanCount t.length) (ho : OccursAt t q (tpmHidTag ++ [0])) :
    (scanFirst (fun p => (asciiStrCmp t p tpmHidTag).map (· == 0)) acpiHeaderSize
      (hidScanCount t.length)).isSome := by
  have h9 : q + 9 ≤ t.length := by simpa [tpmHidTag] using ho.add_length_le (by decide)
  refine scanFirst_isSome_of_hit h1 h2 ?_ fun q' _ hq' => ?_
  · rw [(asciiStrCmp_eq_some_zero_iff (by decide)).2 ho]
    rfl
  · rw [Option.isSome_map']
    exact asciiStrCmp_isSome (by simp only [tpmHidTag, List.length]; omega)

/-- After its scan, `UpdateHID` stores only inside the tag it found. -/
theorem updateHid_isSome_of_scan (hlen : tableLength t = some t.length)
    (hscan : (scanFirst (fun p => (asciiStrCmp t p tpmHidTag).map (· == 0)) acpiHeaderSize
      (hidScanCount t.length)).isSome) : (updateHid t tpm).isSome := by
  obtain ⟨hit, hs⟩ := Option.isSome_iff_exists.1 hscan
  unfold updateHid
  dsimp only
  split
  · rfl
  rw [copyMem_hidVendor, Option.bind_eq_bind, Option.some_bind]
  split
  · rfl
  rw [asciiSPrint_hidVersion, Option.some_bind]
  simp only [Option.bind_eq_bind, hlen, hs, Option.some_bind]
  cases hit with
  | none => rfl
  | some p =>
    have hfo := firstOccurrence_of_scanFirst (fun _ => asciiStrCmp_test_true (by decide))
      (fun _ => asciiStrCmp_test_false (by decide)) hs
    have h9 : p + 9 ≤ t.length := by
      simpa [tpmHidTag] using hfo.2.2.1.add_length_le (by decide)
    have hl := length_hidLocal tpm.manufacturerId tpm.firmwareVersion1
    dsimp only
    split
    · exact isSome_writeBytes_bind (by simp [tpmHidPnpSize]; omega) fun t₁ ht₁ =>
        isSome_writeByte_bind (by simp only [tpmHidPnpSize]; omega) rfl
    · exact isSome_writeBytes_bind (by simp [tpmHidAcpiSize]; omega) fun _ _ => rfl

/-- **Where `UpdateHID` can fault.** On a table whose `Length` is its size, only when both
capability queries succeed, the scan range holds no tag with its `NUL`, and the table ends, past
the header, with the eight characters of the tag: the scan then reaches its last offset, where
the compare reads the byte after the table. -/
theorem updateHid_eq_none (hlen : tableLength t = some t.length) (h : updateHid t tpm = none) :
    ¬ efiError tpm.manufacturerIdStatus ∧ ¬ efiError tpm.firmwareVersionStatus ∧
      NoHidTag t t.length ∧ acpiHeaderSize + tpmHidPnpSize ≤ t.length ∧
      OccursAt t (t.length - tpmHidPnpSize) tpmHidTag := by
  have hne : ¬ (updateHid t tpm).isSome := by rw [h]; exact Bool.false_ne_true
  refine ⟨fun hm => hne ?_, fun hf => hne ?_, fun q h1 h2 ho => hne ?_,
    Classical.byContradiction fun htail => hne ?_⟩
  · -- a failed manufacturer query returns at once
    unfold updateHid
    rw [if_pos hm]
    rfl
  · -- so does a failed firmware-version query
    unfold updateHid
    dsimp only
    split
    · rfl
    rw [copyMem_hidVendor, Option.bind_eq_bind, Option.some_bind]
    rfl
  · exact updateHid_isSome_of_scan hlen (hidScan_isSome_of_tag h1 h2 ho)
  · exact updateHid_isSome_of_scan hlen (hidScan_isSome_of_not_tail fun h44 ht => htail ⟨h44, ht⟩)

/-- **Exactly where `UpdateHID` faults.** On a table whose `Length` is its size the conditions of
`updateHid_eq_none` are also enough: the run then reaches the compare at the last offset. -/
theorem updateHid_eq_none_iff (hlen : tableLength t = some t.length) :
    updateHid t tpm = none ↔ ¬ efiError tpm.manufacturerIdStatus ∧
      ¬ efiError tpm.firmwareVersionStatus ∧ NoHidTag t t.length ∧
      acpiHeaderSize + tpmHidPnpSize ≤ t.length ∧ OccursAt t (t.length - tpmHidPnpSize) tpmHidTag := by
  refine ⟨updateHid_eq_none hlen, fun ⟨hm, hf, hno, h44, htail⟩ => ?_⟩
  unfold updateHid
  dsimp only
  rw [if_neg hm, copyMem_hidVendor, Option.bind_eq_bind, Option.some_bind, if_neg hf,
    asciiSPrint_hidVersion, Option.some_bind]
  simp only [Option.bind_eq_bind, hlen, hidScan_eq_none hno h44 htail, Option.some_bind,
    Option.none_bind]

/-- On `hidEndSsdt` the compare at offset `Length - TPM_HID_PNP_SIZE = 36` matches the eight
characters and reads offset 44, past the table. -/
theorem hidEndSsdt_reads_past_end :
    tableLength hidEndSsdt = some hidEndSsdt.length ∧ updateHid hidEndSsdt sampleTpm = none := by
  decide

/-- **No access outside the table**, unless it ends with the tag and no `NUL`: the compare
at the last offset of the scan reads the byte after a match of the eight characters. -/
theorem updateHid_isSome (hlen : tableLength t = some t.length)
    (htail : ¬ OccursAt t (t.length - tpmHidPnpSize) tpmHidTag) : (updateHid t tpm).isSome :=
  Option.isSome_iff_ne_none.2 fun h => htail (updateHid_eq_none hlen h).2.2.2.2

theorem hidSsdt_isSome :
    tableLength hidSsdt = some hidSsdt.length ∧
      ¬ OccursAt hidSsdt (hidSsdt.length - tpmHidPnpSize) tpmHidTag ∧
      (updateHid hidSsdt sampleTpm).isSome := by
  have hlen : tableLength hidSsdt = some hidSsdt.length := by decide
  have htail : ¬ OccursAt hidSsdt (hidSsdt.length - tpmHidPnpSize) tpmHidTag := by decide
  exact ⟨hlen, htail, updateHid_isSome hlen htail⟩

/-- A `_HID` patch lies past the description header, so it keeps `Length` and the size. -/
theorem HidPatched.tableLength_eq {len p : ℕ} (hp : HidPatched t t' tpm len p) :
    tableLength t' = tableLength t ∧ t'.length = t.length :=
  ⟨EditedWithin.tableLength_eq ⟨hp.length_eq, hp.frame⟩ (le_trans (by decide) hp.first.1),
    hp.length_eq⟩

end Run

end Tcg2AcpiFfa
