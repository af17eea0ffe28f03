import Tcg2AcpiFfa.Publish

/-!
# `PublishTpm2` and the entry point

`PublishTpm2` fills in the driver's `TPM2` ACPI table, the global `mTpm2AcpiTemplate`, from the
platform's PCDs and installs it. It sets the revision, the platform class in the low half of
`Flags` (revision 4 and up) and the log area `Laml`, `Lasa`, and cuts `Length` back to the
revision 3 size when the revision is below 4 or the log area is not set. On a CRB interface it
selects the CRB-over-FF-A start method, points `AddressOfControlArea` into the TPM's registers,
writes the four FF-A parameters and the OEM fields, and installs the first `Length` bytes.
`InitializeTcgAcpiFfa`, the entry point, runs `PublishAcpiTable` and then `PublishTpm2` on a
platform whose TPM instance is a discrete TPM 2.0.

## Scope

The template is modelled by its fields (`Tpm2AcpiTableV4`) and by the bytes of its packed layout
(`Tpm2AcpiTableV4.toBytes`): `TpmMeasureAndLogData` and `InstallAcpiTable` read the first
`Header.Length` of them. The table signature, the revision and start method values and
`Tpm2PtpInterfaceCrb` are those of the `MdePkg` headers the source includes. The four stores
through `ControlArea` go to the TPM's memory-mapped registers, outside the driver; they are
recorded, not modelled as memory. `CompareGuid` on `PcdTpmInstanceGuid` is modelled by its
result. The `DEBUG` prints and the `ASSERT_EFI_ERROR`s, which the release build drops, are left
out, and so is the checksum `InstallAcpiTable` computes.

With a revision below 4, or a zero `Laml` or `Lasa`, the installed table stops before
`PlatformSpecificParameters`, so the FF-A parameters written just before are not installed
(`publishTpm2_installed_tail`).

## Main definitions

* `Tpm2AcpiTableV4`, `Tpm2AcpiTableV4.toBytes`, `mTpm2AcpiTemplate`
* `publishTpm2`, `Tpm2TablePublished`
* `initializeTcgAcpiFfa`

## Main results

* `publishTpm2_spec` — on the driver's template `PublishTpm2` runs, and satisfies
  `Tpm2TablePublished`: what it measures, the control area it sets up and what it installs
* `publishTpm2_installed_head` — the installed bytes up to the revision 3 size, each field with
  the PCD it comes from
* `publishTpm2_installed_tail` — the installed bytes after the revision 3 size
* `initializeTcgAcpiFfa_spec` — the whole driver
* `initializeTcgAcpiFfa_eq_none_iff` — the driver faults exactly at the two reads of `PublishFault`
-/

namespace Tcg2AcpiFfa

/-! ### The `TPM2` table -/

/-- `EFI_ACPI_5_0_TRUSTED_COMPUTING_PLATFORM_2_TABLE_SIGNATURE`, `SIGNATURE_32 ('T','P','M','2')`. -/
def efiAcpi50TrustedComputingPlatform2TableSignature : UInt32 := 0x324D5054

/-- `EFI_TPM2_ACPI_TABLE_REVISION_4`. -/
def efiTpm2AcpiTableRevision4 : UInt8 := 4

/-- `EFI_TPM2_ACPI_TABLE_REVISION`. -/
def efiTpm2AcpiTableRevision : UInt8 := efiTpm2AcpiTableRevision4

/-- `EFI_TPM2_ACPI_TABLE_START_METHOD_TIS`. -/
def efiTpm2AcpiTableStartMethodTis : UInt32 := 6

/-- `EFI_TPM2_ACPI_TABLE_START_METHOD_COMMAND_RESPONSE_BUFFER_INTERFACE_WITH_FFA`. -/
def efiTpm2AcpiTableStartMethodCommandResponseBufferInterfaceWithFfa : UInt32 := 15

/-- `Tpm2PtpInterfaceCrb`, of `TPM2_PTP_INTERFACE_TYPE`. -/
def tpm2PtpInterfaceCrb : UInt8 := 2

/-- `sizeof (EFI_TPM2_ACPI_TABLE)`: the header, `Flags`, `AddressOfControlArea`, `StartMethod`. -/
def sizeofEfiTpm2AcpiTable : ℕ := acpiHeaderSize + 4 + 8 + 4

/-- `sizeof (EFI_TPM2_ACPI_TABLE_V4)`: then `PlatformSpecificParameters`, `Laml`, `Lasa`. -/
def sizeofEfiTpm2AcpiTableV4 : ℕ := sizeofEfiTpm2AcpiTable + 12 + 4 + 8

/-- `EFI_ACPI_DESCRIPTION_HEADER`. -/
structure AcpiDescriptionHeader where
  signature : UInt32
  length : UInt32
  revision : UInt8
  checksum : UInt8
  oemId : List UInt8
  oemTableId : UInt64
  oemRevision : UInt32
  creatorId : UInt32
  creatorRevision : UInt32
  /-- `UINT8 OemId[6]`. -/
  oemId_length : oemId.length = 6
  deriving DecidableEq

/-- `EFI_TPM2_ACPI_TABLE_V4`, packed. -/
structure Tpm2AcpiTableV4 where
  header : AcpiDescriptionHeader
  flags : UInt32
  addressOfControlArea : UInt64
  startMethod : UInt32
  platformSpecificParameters : List UInt8
  laml : UInt32
  lasa : UInt64
  /-- `UINT8 PlatformSpecificParameters[12]`. -/
  platformSpecificParameters_length : platformSpecificParameters.length = 12
  deriving DecidableEq

/-- The bytes of a `UINT64`, little-endian. -/
def uint64Bytes (x : UInt64) : List UInt8 := uint32Bytes x.toUInt32 ++ uint32Bytes (x >>> 32).toUInt32

/-- The header's bytes, in the order of its fields. -/
def AcpiDescriptionHeader.toBytes (h : AcpiDescriptionHeader) : List UInt8 :=
  uint32Bytes h.signature ++ uint32Bytes h.length ++ [h.revision, h.checksum] ++ h.oemId ++
    uint64Bytes h.oemTableId ++ uint32Bytes h.oemRevision ++ uint32Bytes h.creatorId ++
    uint32Bytes h.creatorRevision

/-- The table's bytes, in the order of its fields, with no padding (`#pragma pack(1)`). -/
def Tpm2AcpiTableV4.toBytes (t : Tpm2AcpiTableV4) : List UInt8 :=
  t.header.toBytes ++ uint32Bytes t.flags ++ uint64Bytes t.addressOfControlArea ++
    uint32Bytes t.startMethod ++ t.platformSpecificParameters ++ uint32Bytes t.laml ++
    uint64Bytes t.lasa

/-- `(&mTpm2AcpiTemplate, mTpm2AcpiTemplate.Header.Length)`: the bytes a consumer of the table
reads, `none` when `Length` runs past the object. -/
def Tpm2AcpiTableV4.image (t : Tpm2AcpiTableV4) : Option Buffer :=
  if t.header.length.toNat ≤ sizeofEfiTpm2AcpiTableV4 then some (t.toBytes.take t.header.length.toNat)
  else none

/-- `mTpm2AcpiTemplate` as the compiler initializes it: the signature, `Length`, revision and TIS
start method, and zero everywhere else. -/
def mTpm2AcpiTemplate : Tpm2AcpiTableV4 where
  header :=
    { signature := efiAcpi50TrustedComputingPlatform2TableSignature
      length := sizeofEfiTpm2AcpiTableV4.toUInt32
      revision := efiTpm2AcpiTableRevision
      checksum := 0
      oemId := List.replicate 6 0
      oemTableId := 0
      oemRevision := 0
      creatorId := 0
      creatorRevision := 0
      oemId_length := rfl }
  flags := 0
  addressOfControlArea := 0
  startMethod := efiTpm2AcpiTableStartMethodTis
  platformSpecificParameters := List.replicate 12 0
  laml := 0
  lasa := 0
  platformSpecificParameters_length := rfl

theorem length_toBytes (t : Tpm2AcpiTableV4) : t.toBytes.length = sizeofEfiTpm2AcpiTableV4 := by
  simp only [Tpm2AcpiTableV4.toBytes, AcpiDescriptionHeader.toBytes, List.length_append,
    t.header.oemId_length, t.platformSpecificParameters_length]
  rfl

theorem length_header_toBytes (h : AcpiDescriptionHeader) : h.toBytes.length = acpiHeaderSize := by
  simp only [AcpiDescriptionHeader.toBytes, List.length_append, h.oemId_length]
  rfl

/-- The revision 3 part of the image: the header, `Flags`, `AddressOfControlArea`,
`StartMethod`. -/
theorem length_revision3_toBytes (t : Tpm2AcpiTableV4) :
    (t.header.toBytes ++ uint32Bytes t.flags ++ uint64Bytes t.addressOfControlArea ++
      uint32Bytes t.startMethod).length = sizeofEfiTpm2AcpiTable := by
  simp only [List.length_append, length_header_toBytes]
  rfl

/-- What lies after the revision 3 size: the parameters, `Laml` and `Lasa`. -/
theorem drop_take_toBytes (t : Tpm2AcpiTableV4) (n : ℕ) :
    (t.toBytes.take n).drop sizeofEfiTpm2AcpiTable =
      (t.platformSpecificParameters ++ uint32Bytes t.laml ++ uint64Bytes t.lasa).take
        (n - sizeofEfiTpm2AcpiTable) := by
  rw [List.drop_take, Tpm2AcpiTableV4.toBytes, List.append_assoc _ t.platformSpecificParameters,
    List.append_assoc _ (t.platformSpecificParameters ++ _), ← length_revision3_toBytes t,
    List.drop_left]

/-- What lies before the revision 3 size, when the image reaches it. -/
theorem take_take_toBytes (t : Tpm2AcpiTableV4) {n : ℕ} (hn : sizeofEfiTpm2AcpiTable ≤ n) :
    (t.toBytes.take n).take sizeofEfiTpm2AcpiTable = t.header.toBytes ++ uint32Bytes t.flags ++
      uint64Bytes t.addressOfControlArea ++ uint32Bytes t.startMethod := by
  rw [List.take_take, min_eq_left hn, Tpm2AcpiTableV4.toBytes,
    List.append_assoc _ t.platformSpecificParameters,
    List.append_assoc _ (t.platformSpecificParameters ++ _),
    List.take_left' (length_revision3_toBytes t)]

/-- A consumer of the table reads `Length` from the header's own bytes. -/
theorem tableLength_take_toBytes (t : Tpm2AcpiTableV4) {n : ℕ} (hn : 8 ≤ n) :
    tableLength (t.toBytes.take n) =
      tableLength (uint32Bytes t.header.signature ++ uint32Bytes t.header.length) := by
  have h8 : (uint32Bytes t.header.signature ++ uint32Bytes t.header.length).length = 8 := rfl
  rw [Tpm2AcpiTableV4.toBytes, AcpiDescriptionHeader.toBytes]
  simp only [List.append_assoc]
  rw [← List.append_assoc (uint32Bytes _), List.take_append_eq_append_take,
    List.take_of_length_le (by omega), tableLength_append (by omega)]

/-! ### `PublishTpm2` -/

/-- The PCDs `PublishTpm2` reads, and the status its `InstallAcpiTable` returns. -/
structure Tpm2Env where
  /-- `PcdGet8 (PcdTpm2AcpiTableRev)`. -/
  tpm2AcpiTableRev : UInt8
  /-- `PcdGet8 (PcdTpmPlatformClass)`. -/
  tpmPlatformClass : UInt8
  /-- `PcdGet32 (PcdTpm2AcpiTableLaml)`. -/
  tpm2AcpiTableLaml : UInt32
  /-- `PcdGet64 (PcdTpm2AcpiTableLasa)`. -/
  tpm2AcpiTableLasa : UInt64
  /-- `PcdGet8 (PcdActiveTpmInterfaceType)`. -/
  activeTpmInterfaceType : UInt8
  /-- `PcdGet64 (PcdTpmBaseAddress)`. -/
  tpmBaseAddress : UInt64
  /-- The six bytes of `PcdAcpiDefaultOemId`. -/
  acpiDefaultOemId : List UInt8
  /-- `PcdGet64 (PcdAcpiDefaultOemTableId)`. -/
  acpiDefaultOemTableId : UInt64
  /-- `PcdGet32 (PcdAcpiDefaultOemRevision)`. -/
  acpiDefaultOemRevision : UInt32
  /-- `PcdGet32 (PcdAcpiDefaultCreatorId)`. -/
  acpiDefaultCreatorId : UInt32
  /-- `PcdGet32 (PcdAcpiDefaultCreatorRevision)`. -/
  acpiDefaultCreatorRevision : UInt32
  /-- The status `InstallAcpiTable` returns. -/
  installStatus : EfiStatus
  /-- `CopyMem` takes `sizeof (OemId)` bytes from the PCD. -/
  acpiDefaultOemId_length : acpiDefaultOemId.length = 6
  deriving DecidableEq

/-- The stores through `ControlArea`: its address, then `CommandSize`, `ResponseSize`, `Command`
and `Response`. -/
structure ControlAreaWrite where
  controlArea : UInt64
  commandSize : UInt32
  responseSize : UInt32
  command : UInt64
  response : UInt64
  deriving DecidableEq

/-- What a run of `PublishTpm2` hands to the rest of the firmware, and what it returns. -/
structure Tpm2Result where
  /-- The bytes given to `TpmMeasureAndLogData`, if it is called. -/
  measured : Option Buffer
  /-- `mTpm2AcpiTemplate` after the call. -/
  template : Tpm2AcpiTableV4
  /-- The stores to the TPM's control area, if they are made. -/
  controlArea : Option ControlAreaWrite
  /-- The bytes given to `InstallAcpiTable`, if it is called. -/
  installed : Option Buffer
  /-- The status returned. -/
  status : EfiStatus
  deriving DecidableEq

/-- `PlatformSpecificParameters[0..3]` on a CRB interface: notifications not supported, a 4 KiB
uncached CRB, and the two bytes of the partition ID, high byte first. -/
def ffaParameters (ps : List UInt8) : List UInt8 := (((ps.set 0 0x00).set 1 0x00).set 2 0x80).set 3 0x02

theorem length_ffaParameters (ps : List UInt8) : (ffaParameters ps).length = ps.length := by
  simp [ffaParameters]

/-- The updates `PublishTpm2` makes before it looks at the interface type: the revision, the
platform class for revision 4 and up, the log area, and `Length` cut back to the revision 3 size
when the revision is below 4 or the log area is not set. -/
def updateTemplate (env : Tpm2Env) (t : Tpm2AcpiTableV4) : Tpm2AcpiTableV4 :=
  let t := { t with header.revision := env.tpm2AcpiTableRev }
  let t := if efiTpm2AcpiTableRevision4 ≤ t.header.revision then
      { t with flags := (t.flags &&& 0xFFFF0000) ||| env.tpmPlatformClass.toUInt32 }
    else t
  let t := { t with laml := env.tpm2AcpiTableLaml, lasa := env.tpm2AcpiTableLasa }
  if t.header.revision < efiTpm2AcpiTableRevision4 ∨ t.laml = 0 ∨ t.lasa = 0 then
    { t with header.length := sizeofEfiTpm2AcpiTable.toUInt32 }
  else t

/-- The updates of the CRB branch: the FF-A start method, the control area, the FF-A parameters
and the OEM fields. -/
def crbTemplate (env : Tpm2Env) (t : Tpm2AcpiTableV4) : Tpm2AcpiTableV4 :=
  { t with
    startMethod := efiTpm2AcpiTableStartMethodCommandResponseBufferInterfaceWithFfa
    addressOfControlArea := env.tpmBaseAddress + 0x40
    platformSpecificParameters := ffaParameters t.platformSpecificParameters
    platformSpecificParameters_length := by
      rw [length_ffaParameters, t.platformSpecificParameters_length]
    header :=
      { t.header with
        oemId := env.acpiDefaultOemId
        oemId_length := env.acpiDefaultOemId_length
        oemTableId := env.acpiDefaultOemTableId
        oemRevision := env.acpiDefaultOemRevision
        creatorId := env.acpiDefaultCreatorId
        creatorRevision := env.acpiDefaultCreatorRevision } }

/-- `PublishTpm2 ()`, on the template `t` it finds in `mTpm2AcpiTemplate`. -/
def publishTpm2 (skip : Bool) (env : Tpm2Env) (t : Tpm2AcpiTableV4) : Option Tpm2Result := do
  let measured ← (if skip then pure none else t.image.map some)
  let t := updateTemplate env t
  if env.activeTpmInterfaceType = tpm2PtpInterfaceCrb then
    let t := crbTemplate env t
    let controlArea : ControlAreaWrite := ⟨t.addressOfControlArea, 0xF80, 0xF80,
      env.tpmBaseAddress + 0x80, env.tpmBaseAddress + 0x80⟩
    let installed ← t.image
    pure ⟨measured, t, some controlArea, some installed, env.installStatus⟩
  else
    pure ⟨measured, t, none, none, efiUnsupported⟩

/-- A platform of revision 4 with its log area set and a CRB interface. -/
def sampleTpm2Env : Tpm2Env :=
  ⟨4, 0, 0x10000, 0x80000000, tpm2PtpInterfaceCrb, 0x10000000, [0x4F, 0x45, 0x4D, 0x49, 0x44, 0x20],
    0, 0, 0, 0, efiSuccess, rfl⟩

section Fields

variable (env : Tpm2Env) (t : Tpm2AcpiTableV4)

/-- The four updates of `updateTemplate` as one. -/
theorem updateTemplate_eq : updateTemplate env t =
    { t with
      header.revision := env.tpm2AcpiTableRev
      header.length := if env.tpm2AcpiTableRev < efiTpm2AcpiTableRevision4 ∨
          env.tpm2AcpiTableLaml = 0 ∨ env.tpm2AcpiTableLasa = 0 then sizeofEfiTpm2AcpiTable.toUInt32
        else t.header.length
      flags := if efiTpm2AcpiTableRevision4 ≤ env.tpm2AcpiTableRev then
          (t.flags &&& 0xFFFF0000) ||| env.tpmPlatformClass.toUInt32
        else t.flags
      laml := env.tpm2AcpiTableLaml
      lasa := env.tpm2AcpiTableLasa } := by
  unfold updateTemplate
  dsimp only
  split_ifs <;> rfl

@[simp] theorem updateTemplate_length : (updateTemplate env t).header.length =
    if env.tpm2AcpiTableRev < efiTpm2AcpiTableRevision4 ∨ env.tpm2AcpiTableLaml = 0 ∨
      env.tpm2AcpiTableLasa = 0 then sizeofEfiTpm2AcpiTable.toUInt32 else t.header.length := by
  rw [updateTemplate_eq]

@[simp] theorem updateTemplate_signature :
    (updateTemplate env t).header.signature = t.header.signature := by
  rw [updateTemplate_eq]

@[simp] theorem updateTemplate_platformSpecificParameters :
    (updateTemplate env t).platformSpecificParameters = t.platformSpecificParameters := by
  rw [updateTemplate_eq]

@[simp] theorem updateTemplate_laml : (updateTemplate env t).laml = env.tpm2AcpiTableLaml := by
  rw [updateTemplate_eq]

@[simp] theorem updateTemplate_lasa : (updateTemplate env t).lasa = env.tpm2AcpiTableLasa := by
  rw [updateTemplate_eq]

@[simp] theorem crbTemplate_length : (crbTemplate env t).header.length = t.header.length := rfl

@[simp] theorem crbTemplate_signature :
    (crbTemplate env t).header.signature = t.header.signature := rfl

@[simp] theorem crbTemplate_platformSpecificParameters :
    (crbTemplate env t).platformSpecificParameters = ffaParameters t.platformSpecificParameters :=
  rfl

@[simp] theorem crbTemplate_laml : (crbTemplate env t).laml = t.laml := rfl

@[simp] theorem crbTemplate_lasa : (crbTemplate env t).lasa = t.lasa := rfl

end Fields

/-! ### What `PublishTpm2` does to the driver's template -/

section Run

variable (skip : Bool) (env : Tpm2Env)

/-- The `Length` the updates leave: the revision 3 size when the revision is below 4 or the log
area is not set, and otherwise the size the template was initialized with. -/
theorem toNat_length_updateTemplate :
    (updateTemplate env mTpm2AcpiTemplate).header.length.toNat =
      if env.tpm2AcpiTableRev < efiTpm2AcpiTableRevision4 ∨ env.tpm2AcpiTableLaml = 0 ∨
        env.tpm2AcpiTableLasa = 0 then sizeofEfiTpm2AcpiTable else sizeofEfiTpm2AcpiTableV4 := by
  rw [updateTemplate_length]
  split <;> rfl

/-- The template's `Flags` start at zero, so the platform class is all of them. -/
theorem zero_and_or (m x : UInt32) : ((0 : UInt32) &&& m) ||| x = x := by
  cases m; cases x
  exact congrArg UInt32.mk ((congrArg (· ||| _) BitVec.zero_and).trans BitVec.zero_or)

/-- A run of `PublishTpm2` on the driver's template, computed. -/
theorem publishTpm2_eq : publishTpm2 skip env mTpm2AcpiTemplate =
    let measured := if skip then none else some mTpm2AcpiTemplate.toBytes
    let t := updateTemplate env mTpm2AcpiTemplate
    some (if env.activeTpmInterfaceType = tpm2PtpInterfaceCrb then
        ⟨measured, crbTemplate env t, some ⟨env.tpmBaseAddress + 0x40, 0xF80, 0xF80,
          env.tpmBaseAddress + 0x80, env.tpmBaseAddress + 0x80⟩,
          some ((crbTemplate env t).toBytes.take t.header.length.toNat), env.installStatus⟩
      else ⟨measured, t, none, none, efiUnsupported⟩) := by
  have hm : (if skip then pure none else mTpm2AcpiTemplate.image.map some : Option (Option Buffer)) =
      some (if skip then none else some mTpm2AcpiTemplate.toBytes) := by
    cases skip <;> rfl
  have hL := toNat_length_updateTemplate env
  unfold publishTpm2
  rw [hm, Option.bind_eq_bind, Option.some_bind]
  split
  · dsimp only
    rw [Tpm2AcpiTableV4.image, crbTemplate_length, if_pos (by rw [hL]; split <;> decide)]
    rfl
  · rfl

/-- What a run of `PublishTpm2` on the driver's template may have done. -/
structure Tpm2TablePublished (r : Tpm2Result) : Prop where
  /-- `TpmMeasureAndLogData` sees the whole template, before any update. -/
  measured : r.measured = if skip then none else some mTpm2AcpiTemplate.toBytes
  /-- Without a CRB interface nothing is stored or installed, and `EFI_UNSUPPORTED` is
  returned. -/
  unsupported : env.activeTpmInterfaceType ≠ tpm2PtpInterfaceCrb →
    r.controlArea = none ∧ r.installed = none ∧ r.status = efiUnsupported
  /-- With one, the control area at `PcdTpmBaseAddress + 0x40` gets command and response buffers
  of `0xF80` bytes, both at `PcdTpmBaseAddress + 0x80`. The first `Length` bytes of the template
  are installed, and the header's own `Length` says how many: the full size only for revision 4
  and up with the log area set. -/
  installed : env.activeTpmInterfaceType = tpm2PtpInterfaceCrb → r.status = env.installStatus ∧
    r.controlArea = some ⟨env.tpmBaseAddress + 0x40, 0xF80, 0xF80, env.tpmBaseAddress + 0x80,
      env.tpmBaseAddress + 0x80⟩ ∧ ∃ n, r.installed = some (r.template.toBytes.take n) ∧
      tableLength (r.template.toBytes.take n) = some n ∧
      n = if env.tpm2AcpiTableRev < efiTpm2AcpiTableRevision4 ∨ env.tpm2AcpiTableLaml = 0 ∨
        env.tpm2AcpiTableLasa = 0 then sizeofEfiTpm2AcpiTable else sizeofEfiTpm2AcpiTableV4

/-- **What `PublishTpm2` measures and installs.** On the driver's template it never reads past
the object, and its run satisfies `Tpm2TablePublished`. -/
theorem publishTpm2_spec :
    ∃ r, publishTpm2 skip env mTpm2AcpiTemplate = some r ∧ Tpm2TablePublished skip env r := by
  rw [publishTpm2_eq]
  refine ⟨_, rfl, ⟨by split <;> rfl, fun hc => by rw [if_neg hc]; exact ⟨rfl, rfl, rfl⟩,
    fun hc => ?_⟩⟩
  have hL := toNat_length_updateTemplate env
  rw [if_pos hc]
  refine ⟨rfl, rfl, _, rfl, ?_, hL⟩
  rw [tableLength_take_toBytes _ (by rw [hL]; split <;> decide), crbTemplate_signature,
    crbTemplate_length, updateTemplate_signature, hL, updateTemplate_length]
  split <;> decide

/-- **The installed bytes after the revision 3 size.** On a CRB interface, a table of revision 4
or more with `Laml` and `Lasa` both set ends with the FF-A parameters (the partition ID `0x8002`
after two zero bytes, then eight zero bytes), `Laml` and `Lasa`; any other stops at
`sizeof (EFI_TPM2_ACPI_TABLE)`, and the FF-A parameters are not installed. -/
theorem publishTpm2_installed_tail :
    ((publishTpm2 skip env mTpm2AcpiTemplate).bind Tpm2Result.installed).map
        (List.drop sizeofEfiTpm2AcpiTable) =
      if env.activeTpmInterfaceType = tpm2PtpInterfaceCrb then
        some (if env.tpm2AcpiTableRev < efiTpm2AcpiTableRevision4 ∨ env.tpm2AcpiTableLaml = 0 ∨
            env.tpm2AcpiTableLasa = 0 then []
          else [0x00, 0x00, 0x80, 0x02] ++ List.replicate 8 0 ++ uint32Bytes env.tpm2AcpiTableLaml ++
            uint64Bytes env.tpm2AcpiTableLasa)
      else none := by
  rw [publishTpm2_eq, Option.some_bind]
  split
  · rw [Option.map_some', drop_take_toBytes, toNat_length_updateTemplate]
    simp only [crbTemplate_platformSpecificParameters, crbTemplate_laml, crbTemplate_lasa,
      updateTemplate_platformSpecificParameters, updateTemplate_laml, updateTemplate_lasa]
    split
    · rfl
    · exact congrArg some (List.take_of_length_le (by simp [uint64Bytes, uint32Bytes]; decide))
  · rfl

/-- **The installed bytes up to the revision 3 size.** On a CRB interface the installed table
starts with the `TPM2` signature, the `Length` that says how much of it there is, the revision
from its PCD, a zero checksum (`InstallAcpiTable` computes it), the OEM and creator fields from
their PCDs, `Flags` holding the platform class for revision 4 and up (zero below), the control
area at `PcdTpmBaseAddress + 0x40` and the CRB-over-FF-A start method. -/
theorem publishTpm2_installed_head :
    ((publishTpm2 skip env mTpm2AcpiTemplate).bind Tpm2Result.installed).map
        (List.take sizeofEfiTpm2AcpiTable) =
      if env.activeTpmInterfaceType = tpm2PtpInterfaceCrb then
        some (uint32Bytes efiAcpi50TrustedComputingPlatform2TableSignature ++
          uint32Bytes (if env.tpm2AcpiTableRev < efiTpm2AcpiTableRevision4 ∨
              env.tpm2AcpiTableLaml = 0 ∨ env.tpm2AcpiTableLasa = 0 then
            sizeofEfiTpm2AcpiTable.toUInt32 else sizeofEfiTpm2AcpiTableV4.toUInt32) ++
          [env.tpm2AcpiTableRev, 0] ++ env.acpiDefaultOemId ++ uint64Bytes env.acpiDefaultOemTableId ++
          uint32Bytes env.acpiDefaultOemRevision ++ uint32Bytes env.acpiDefaultCreatorId ++
          uint32Bytes env.acpiDefaultCreatorRevision ++
          uint32Bytes (if efiTpm2AcpiTableRevision4 ≤ env.tpm2AcpiTableRev then
            env.tpmPlatformClass.toUInt32 else 0) ++
          uint64Bytes (env.tpmBaseAddress + 0x40) ++
          uint32Bytes efiTpm2AcpiTableStartMethodCommandResponseBufferInterfaceWithFfa)
      else none := by
  rw [publishTpm2_eq, Option.some_bind]
  split
  · rw [Option.map_some', take_take_toBytes _ (by rw [toNat_length_updateTemplate]; split <;> decide),
      updateTemplate_eq]
    simp only [mTpm2AcpiTemplate, zero_and_or]
    rfl
  · rfl

end Run

/-! ### The entry point -/

/-- What a run of the entry point did, and what it returns. -/
structure DriverResult where
  /-- The run of `PublishAcpiTable`, if it was called. -/
  acpiTable : Option PublishResult
  /-- The run of `PublishTpm2`, if it was called. -/
  tpm2 : Option Tpm2Result
  /-- The status returned. -/
  status : EfiStatus
  deriving DecidableEq

/-- `InitializeTcgAcpiFfa (ImageHandle, SystemTable)`. `isDtpm` is the result of `CompareGuid` on
`PcdTpmInstanceGuid` and `gEfiTpmDeviceInstanceTpm20DtpmGuid`, and `PublishTpm2` finds
`mTpm2AcpiTemplate` as the compiler initialized it. The statuses of both calls go only to
`ASSERT_EFI_ERROR`. -/
def initializeTcgAcpiFfa (isDtpm : Bool) (env : PublishEnv) (tpm2Env : Tpm2Env) :
    Option DriverResult :=
  if isDtpm then do
    let r ← publishAcpiTable env
    let r₂ ← publishTpm2 env.skipTcgSmmAcpiMeasurements tpm2Env mTpm2AcpiTemplate
    pure ⟨some r, some r₂, efiSuccess⟩
  else pure ⟨none, none, efiUnsupported⟩

/-- **The driver.** On a platform whose TPM instance is not a discrete TPM 2.0 the entry point
returns `EFI_UNSUPPORTED` and does nothing else. On one that is, it returns `EFI_SUCCESS` whatever
the two calls returned, after `PublishAcpiTable` has measured and installed as
`AcpiTablePublished` says and `PublishTpm2` as `Tpm2TablePublished` says. -/
theorem initializeTcgAcpiFfa_spec {isDtpm : Bool} {env : PublishEnv} {tpm2Env : Tpm2Env}
    {d : DriverResult} (h : initializeTcgAcpiFfa isDtpm env tpm2Env = some d) :
    (isDtpm = false → d = ⟨none, none, efiUnsupported⟩) ∧
      (isDtpm = true → d.status = efiSuccess ∧
        (∃ r, d.acpiTable = some r ∧ ∃ t₁ st t₂, AcpiTablePublished env t₁ st t₂ r) ∧
        ∃ r, d.tpm2 = some r ∧ Tpm2TablePublished env.skipTcgSmmAcpiMeasurements tpm2Env r) := by
  unfold initializeTcgAcpiFfa at h
  cases isDtpm with
  | false =>
    cases h
    exact ⟨fun _ => rfl, fun h => nomatch h⟩
  | true =>
    obtain ⟨r, h₁, h⟩ := Option.bind_eq_some.1 h
    obtain ⟨r₂, h₂, h⟩ := Option.bind_eq_some.1 h
    cases h
    obtain ⟨r₂', h₂', hp⟩ := publishTpm2_spec env.skipTcgSmmAcpiMeasurements tpm2Env
    obtain rfl := Option.some.inj (h₂'.symm.trans h₂)
    exact ⟨fun h => Bool.noConfusion h, fun _ => ⟨rfl, ⟨r, rfl, publishAcpiTable_spec h₁⟩, r₂', rfl, hp⟩⟩

set_option maxRecDepth 10000 in
theorem sampleDriver_initializeTcgAcpiFfa_spec :
    ∃ d, initializeTcgAcpiFfa true sampleEnv sampleTpm2Env = some d ∧
      (true = false → d = ⟨none, none, efiUnsupported⟩) ∧
      (true = true → d.status = efiSuccess ∧
        (∃ r, d.acpiTable = some r ∧ ∃ t₁ st t₂, AcpiTablePublished sampleEnv t₁ st t₂ r) ∧
        ∃ r, d.tpm2 = some r ∧
          Tpm2TablePublished sampleEnv.skipTcgSmmAcpiMeasurements sampleTpm2Env r) := by
  obtain ⟨d, hd⟩ := Option.isSome_iff_exists.1
    (show (initializeTcgAcpiFfa true sampleEnv sampleTpm2Env).isSome by decide)
  exact ⟨d, hd, initializeTcgAcpiFfa_spec hd⟩

/-- `sampleEnv` with a section that ends with the bare `_HID` tag. -/
def hidEndEnv : PublishEnv := { sampleEnv with table := hidEndSsdt }

/-- **Where the driver faults.** On a section whose `Length` is its size, the entry point faults
exactly on a discrete TPM 2.0 platform where `PublishAcpiTable` reaches one of the two reads past
the end that `PublishFault` names: `PublishTpm2` on the driver's template never faults. -/
theorem initializeTcgAcpiFfa_eq_none_iff {isDtpm : Bool} {env : PublishEnv} {tpm2Env : Tpm2Env}
    (hlen : tableLength env.table = some env.table.length) :
    initializeTcgAcpiFfa isDtpm env tpm2Env = none ↔ isDtpm = true ∧ PublishFault env := by
  rw [← publishAcpiTable_eq_none_iff hlen]
  unfold initializeTcgAcpiFfa
  cases isDtpm with
  | false => exact ⟨fun h => Option.noConfusion h, fun h => Bool.noConfusion h.1⟩
  | true =>
    rw [if_pos rfl]
    rcases hp : publishAcpiTable env with _ | r
    · exact ⟨fun _ => ⟨rfl, rfl⟩, fun _ => rfl⟩
    · rw [Option.bind_eq_bind, Option.some_bind, publishTpm2_eq]
      exact ⟨fun h => Option.noConfusion h, fun h => Option.noConfusion h.2⟩

set_option maxRecDepth 10000 in
theorem hidEndEnv_initializeTcgAcpiFfa_eq_none :
    (tableLength hidEndEnv.table = some hidEndEnv.table.length ∧
      initializeTcgAcpiFfa true hidEndEnv sampleTpm2Env = none ∧ PublishFault hidEndEnv) ∧
    (tableLength sampleEnv.table = some sampleEnv.table.length ∧
      initializeTcgAcpiFfa true sampleEnv sampleTpm2Env ≠ none ∧ ¬ PublishFault sampleEnv) := by
  have hlen : tableLength hidEndEnv.table = some hidEndEnv.table.length := by decide
  have hlen' : tableLength sampleEnv.table = some sampleEnv.table.length := by decide
  have h : initializeTcgAcpiFfa true hidEndEnv sampleTpm2Env = none := by decide
  have h' : initializeTcgAcpiFfa true sampleEnv sampleTpm2Env ≠ none := by decide
  exact ⟨⟨hlen, h, ((initializeTcgAcpiFfa_eq_none_iff hlen).1 h).2⟩,
    ⟨hlen', h', fun hf => h' ((initializeTcgAcpiFfa_eq_none_iff hlen').2 ⟨rfl, hf⟩)⟩⟩

end Tcg2AcpiFfa
