import Tcg2AcpiFfa.PossibleResourceBounds
import Tcg2AcpiFfa.Hid
import Tcg2AcpiFfa.PPVersion

/-!
# `PublishAcpiTable`: patch the TPM SSDT, then install it

`PublishAcpiTable` loads the TPM SSDT from the driver's firmware volume, measures it unless the
platform skips TCG ACPI measurements, and patches it in place: the physical presence interface
version (`UpdatePPVersion`), the `_HID` (`UpdateHID`) and, when the TPM has an interrupt, the
`_PRS` templates (`UpdatePossibleResource`). Only `UpdateHID` can stop it. The status of
`UpdatePPVersion` goes to an `ASSERT_EFI_ERROR`, which the release build drops, and the status
of `UpdatePossibleResource` is only printed, so the table is installed with whatever those two
left in it.

## Scope

What the function reads from outside the driver is one record, `PublishEnv`: the section
`GetSectionFromFv` returns, the PCDs, the TPM's answers and the status of `InstallAcpiTable`.
`GetSectionFromFv` and `LocateProtocol` are taken to succeed: their statuses go only to
`ASSERT_EFI_ERROR`, and after a failure `Table` is not defined. `TpmMeasureAndLogData` is
modelled by the bytes it is given. `IsShortFormPkgLength` is not read after
`UpdatePossibleResource` returns, and is dropped.

## Main definitions

* `PublishEnv`, `PublishResult`
* `patchPossibleResource` — the `_PRS` step with its two guards
* `publishAcpiTable`
* `AcpiTablePublished` — what a run measured, installed and returned, given the tables
  `UpdatePPVersion` and `UpdateHID` left
* `PublishFault` — the two reads past the end a run can make

## Main results

* `patchPossibleResource_edits` — the `_PRS` step rewrites at most the template it chose
* `publishAcpiTable_spec` — every run satisfies `AcpiTablePublished`: the table measured is the
  one loaded; an error of `UpdateHID` on the table `UpdatePPVersion` left is returned and nothing
  is installed; otherwise the loaded table is installed with its first `"$PV"` field, its first
  `_HID` field and one `_PRS` template rewritten, in that order
* `publishAcpiTable_eq_none_iff` — a run faults exactly at one of the reads of `PublishFault`
* `publishAcpiTable_keeps_header` — an installed table has the loaded size and header
-/

namespace Tcg2AcpiFfa

/-! ### The environment -/

/-- What `PublishAcpiTable` reads from outside the driver. -/
structure PublishEnv where
  /-- `Table`, the raw section `GetSectionFromFv` returns. -/
  table : Buffer
  /-- `FixedPcdGetBool (PcdSkipTcgSmmAcpiMeasurements)`. -/
  skipTcgSmmAcpiMeasurements : Bool
  /-- `PcdGetPtr (PcdTcgPhysicalPresenceInterfaceVer)`. -/
  ppVer : AsciiString
  /-- The TPM's answers to the two capability queries of `UpdateHID`. -/
  tpm : TpmCapability
  /-- `PcdGet32 (PcdTpm2CurrentIrqNum)`. -/
  currentIrqNum : UInt32
  /-- The bytes of `PcdTpm2PossibleIrqNumBuf`, `PcdGetSize` of them. -/
  possibleIrqNumBuf : List UInt8
  /-- The status `InstallAcpiTable` returns. -/
  installStatus : EfiStatus
  deriving DecidableEq

/-- What a run of `PublishAcpiTable` hands to the rest of the firmware, and what it returns. -/
structure PublishResult where
  /-- The bytes given to `TpmMeasureAndLogData`, if it is called. -/
  measured : Option Buffer
  /-- The table given to `InstallAcpiTable`, if it is called. -/
  installed : Option Buffer
  /-- The status returned. -/
  status : EfiStatus
  deriving DecidableEq

/-! ### `PublishAcpiTable` -/

/-- The `_PRS` step of `PublishAcpiTable`: `UpdatePossibleResource` runs, with
`IsShortFormPkgLength = FALSE`, only when the TPM has an interrupt and `PossibleIrqNumBufSize`
passes both checks; its status is only printed. -/
def patchPossibleResource (t : Buffer) (currentIrqNum : UInt32) (buf : List UInt8) :
    Option Buffer :=
  if currentIrqNum ≠ 0 then
    if h : buf.length ≤ maxPrsIntBufSize ∧ buf.length % 4 = 0 then
      (updatePossibleResource ⟨t, false⟩ ⟨buf, h.1, h.2⟩).map fun r => r.2.table
    else some t
  else some t

/-- `PublishAcpiTable ()`. -/
def publishAcpiTable (env : PublishEnv) : Option PublishResult := do
  let measured := if env.skipTcgSmmAcpiMeasurements then none else some env.table
  let (_, table) ← updatePPVersion env.table env.ppVer
  let (status, table) ← updateHid table env.tpm
  if efiError status then
    pure ⟨measured, none, status⟩
  else
    let table ← patchPossibleResource table env.currentIrqNum env.possibleIrqNumBuf
    pure ⟨measured, some table, env.installStatus⟩

/-- `t'` is `t`, or `t` with only the `_PRS` template that `UpdatePossibleResource` chooses for
the interrupts `buf` rewritten. -/
def PossibleResourceEdit (t t' : Buffer) (buf : List UInt8) : Prop :=
  t' = t ∨ ∃ irq : PossibleIrqBuf, ∃ len q n w orig f, irq.bytes = buf ∧
    tableLength t = some len ∧ ChosenTemplate t len irq q n w orig f ∧ EditedWithin t t' q orig

/-! ### A sample platform -/

/-- A platform whose SSDT holds only the `_HID`, with interrupt 1 and two possible interrupts. -/
def sampleEnv : PublishEnv := ⟨hidSsdt, false, sampleVersion, sampleTpm, 1, sampleIrq.bytes, efiSuccess⟩

/-! ### What a run does -/

section Run

variable {t t' : Buffer} {env : PublishEnv} {r : PublishResult}

/-- Whatever `UpdatePossibleResource` returns, and whether or not it runs, the `_PRS` step
rewrites at most the template it chose. -/
theorem patchPossibleResource_edits {irqNum : UInt32} {buf : List UInt8}
    (h : patchPossibleResource t irqNum buf = some t') : PossibleResourceEdit t t' buf := by
  unfold patchPossibleResource at h
  split at h
  · split at h
    · obtain ⟨⟨st, s'⟩, hr, rfl⟩ := Option.map_eq_some'.1 h
      rcases updatePossibleResource_edits hr with he | ⟨len, q, n, w, orig, hlen, hc, hl, hf⟩
      · exact .inl he
      · exact .inr ⟨_, len, q, n, w, orig, _, rfl, hlen, hc, hl, hf⟩
    · exact .inl (Option.some.inj h).symm
  · exact .inl (Option.some.inj h).symm

/-- What a run of `PublishAcpiTable` in `env` did, given the table `t₁` that `UpdatePPVersion`
left and the status `st` and table `t₂` that `UpdateHID` returned on it. The measurement, when
there is one, is of the table as loaded. `UpdateHID`'s status decides the rest: an error is
returned and nothing is installed; otherwise what the `_PRS` step leaves of `t₂` is installed and
the status is that of `InstallAcpiTable`. -/
structure AcpiTablePublished (env : PublishEnv) (t₁ : Buffer) (st : EfiStatus) (t₂ : Buffer)
    (r : PublishResult) : Prop where
  /-- `TpmMeasureAndLogData` sees the table before any patch. -/
  measured : r.measured = if env.skipTcgSmmAcpiMeasurements then none else some env.table
  /-- `UpdatePPVersion` left `t₁`, the loaded table with at most its first `"$PV"` field
  rewritten; its status is dropped. -/
  ppVersion : (∃ st₁, updatePPVersion env.table env.ppVer = some (st₁, t₁)) ∧
    PPVersionEdit env.table t₁
  /-- `UpdateHID` ran on `t₁`. -/
  hid : updateHid t₁ env.tpm = some (st, t₂)
  /-- An error of `UpdateHID` is returned, and nothing is installed. -/
  hid_error : efiError st → r.installed = none ∧ r.status = st
  /-- Otherwise `t₂` is `t₁` with its first `_HID` field patched, and the table the `_PRS` step
  leaves, with at most the chosen template rewritten, is installed. -/
  installed : ¬ efiError st → r.status = env.installStatus ∧
    (∃ len p, tableLength t₁ = some len ∧ HidPatched t₁ t₂ env.tpm len p) ∧
    ∃ t', patchPossibleResource t₂ env.currentIrqNum env.possibleIrqNumBuf = some t' ∧
      r.installed = some t' ∧ PossibleResourceEdit t₂ t' env.possibleIrqNumBuf

/-- **What `PublishAcpiTable` measures and installs.** -/
theorem publishAcpiTable_spec (h : publishAcpiTable env = some r) :
    ∃ t₁ st t₂, AcpiTablePublished env t₁ st t₂ r := by
  unfold publishAcpiTable at h
  obtain ⟨⟨st₁, t₁⟩, h₁, h⟩ := Option.bind_eq_some.1 h
  obtain ⟨⟨st, t₂⟩, h₂, h⟩ := Option.bind_eq_some.1 h
  have hpp : (∃ st₁', updatePPVersion env.table env.ppVer = some (st₁', t₁)) ∧
      PPVersionEdit env.table t₁ := ⟨⟨st₁, h₁⟩, updatePPVersion_edits h₁⟩
  dsimp only at h
  split at h
  · -- `UpdateHID` failed: its status is returned and nothing is installed
    cases h
    exact ⟨t₁, st, t₂, rfl, hpp, h₂, fun _ => ⟨rfl, rfl⟩, fun hne => absurd ‹_› hne⟩
  · obtain ⟨t₃, h₃, h⟩ := Option.bind_eq_some.1 h
    cases h
    exact ⟨t₁, st, t₂, rfl, hpp, h₂, fun he => absurd he ‹_›,
      fun hne => ⟨rfl, hidPatched_of_updateHid h₂ hne, t₃, h₃, rfl, patchPossibleResource_edits h₃⟩⟩

/-- An installed table went through the three patches. -/
theorem AcpiTablePublished.stages {t₁ t₂ : Buffer} {st : EfiStatus}
    (hp : AcpiTablePublished env t₁ st t₂ r) (hi : r.installed = some t') :
    PPVersionEdit env.table t₁ ∧ (∃ len p, tableLength t₁ = some len ∧ HidPatched t₁ t₂ env.tpm len p) ∧
      PossibleResourceEdit t₂ t' env.possibleIrqNumBuf := by
  by_cases hst : efiError st
  · rw [(hp.hid_error hst).1] at hi
    exact Option.noConfusion hi
  · obtain ⟨-, hhid, t'', -, hi', hprs⟩ := hp.installed hst
    obtain rfl := Option.some.inj (hi'.symm.trans hi)
    exact ⟨hp.ppVersion.2, hhid, hprs⟩

/-- The two reads past the end that `PublishAcpiTable` can make on a table whose `Length` is its
size. One is the `_HID` compare at the last offset, when both capability queries succeed and the
table `UpdatePPVersion` leaves has no tag with its `NUL` in the scan range and ends, past the
header, with the bare tag. The other is the `_PRS` step, run after `UpdateHID` succeeded, with an interrupt and a buffer
that passes both checks, when the template it chooses in the table `UpdateHID` left does not
fit. -/
def PublishFault (env : PublishEnv) : Prop :=
  ∃ st₁ t₁, updatePPVersion env.table env.ppVer = some (st₁, t₁) ∧
    ((¬ efiError env.tpm.manufacturerIdStatus ∧ ¬ efiError env.tpm.firmwareVersionStatus ∧
        NoHidTag t₁ t₁.length ∧ acpiHeaderSize + tpmHidPnpSize ≤ t₁.length ∧
        OccursAt t₁ (t₁.length - tpmHidPnpSize) tpmHidTag) ∨
      ∃ st₂ t₂, updateHid t₁ env.tpm = some (st₂, t₂) ∧ ¬ efiError st₂ ∧ env.currentIrqNum ≠ 0 ∧
        ∃ h : env.possibleIrqNumBuf.length ≤ maxPrsIntBufSize ∧
          env.possibleIrqNumBuf.length % 4 = 0,
          ¬ ChosenTemplateFits t₂ ⟨env.possibleIrqNumBuf, h.1, h.2⟩)

/-- The `_PRS` step faults only when it runs, where the template it chooses does not fit. -/
theorem patchPossibleResource_eq_none {irqNum : UInt32} {buf : List UInt8}
    (hlen : tableLength t = some t.length) (h : patchPossibleResource t irqNum buf = none) :
    irqNum ≠ 0 ∧ ∃ h : buf.length ≤ maxPrsIntBufSize ∧ buf.length % 4 = 0,
      ¬ ChosenTemplateFits t ⟨buf, h.1, h.2⟩ := by
  unfold patchPossibleResource at h
  split at h
  · split at h
    · rename_i hirq hbuf
      exact ⟨hirq, hbuf, not_chosenTemplateFits_of_eq_none hlen (Option.map_eq_none'.1 h)⟩
    · exact Option.noConfusion h
  · exact Option.noConfusion h

/-- **Where `PublishAcpiTable` can fault.** On a table whose `Length` is its size, only at one of
the two reads of `PublishFault`: `UpdatePPVersion` cannot fault there, and each patch keeps
`Length` and the size for the next step. -/
theorem publishFault_of_eq_none (hlen : tableLength env.table = some env.table.length)
    (h : publishAcpiTable env = none) : PublishFault env := by
  obtain ⟨st₁, t₁, h₁, he₁⟩ := updatePPVersion_run env.ppVer hlen
  have hlen₁ : tableLength t₁ = some t₁.length := by
    rw [he₁.tableLength_eq.1, he₁.tableLength_eq.2, hlen]
  refine ⟨st₁, t₁, h₁, ?_⟩
  rcases h₂ : updateHid t₁ env.tpm with _ | ⟨st₂, t₂⟩
  · exact .inl (updateHid_eq_none hlen₁ h₂)
  unfold publishAcpiTable at h
  rw [Option.bind_eq_bind, h₁, Option.some_bind] at h
  dsimp only at h
  rw [Option.bind_eq_bind, h₂, Option.some_bind] at h
  dsimp only at h
  split at h
  · exact Option.noConfusion h
  · -- `UpdateHID` succeeded, so the fault is in the `_PRS` step
    rename_i hst
    obtain ⟨len, p, -, hp⟩ := hidPatched_of_updateHid h₂ hst
    have hlen₂ : tableLength t₂ = some t₂.length := by
      rw [hp.tableLength_eq.1, hp.tableLength_eq.2, hlen₁]
    rcases hx : patchPossibleResource t₂ env.currentIrqNum env.possibleIrqNumBuf with _ | t₃
    · exact .inr ⟨st₂, t₂, rfl, hst, patchPossibleResource_eq_none hlen₂ hx⟩
    · rw [hx, Option.some_bind] at h
      exact Option.noConfusion h

/-- **Exactly where `PublishAcpiTable` faults.** On a table whose `Length` is its size, a run
faults if and only if it reaches one of the two reads of `PublishFault`. -/
theorem publishAcpiTable_eq_none_iff (hlen : tableLength env.table = some env.table.length) :
    publishAcpiTable env = none ↔ PublishFault env := by
  refine ⟨publishFault_of_eq_none hlen, ?_⟩
  rintro ⟨st₁, t₁, h₁, hfault⟩
  have hlen₁ : tableLength t₁ = some t₁.length := by
    have he₁ := updatePPVersion_edits h₁
    rw [he₁.tableLength_eq.1, he₁.tableLength_eq.2, hlen]
  unfold publishAcpiTable
  rw [Option.bind_eq_bind, h₁, Option.some_bind]
  dsimp only
  rcases hfault with hhid | ⟨st₂, t₂, h₂, hst, hirq, hbuf, hfit⟩
  · -- the `_HID` compare faults
    rw [Option.bind_eq_bind, (updateHid_eq_none_iff hlen₁).2 hhid, Option.none_bind]
  · -- `UpdateHID` succeeds and the `_PRS` step faults
    obtain ⟨len, p, -, hp⟩ := hidPatched_of_updateHid h₂ hst
    have hlen₂ : tableLength t₂ = some t₂.length := by
      rw [hp.tableLength_eq.1, hp.tableLength_eq.2, hlen₁]
    have hx : patchPossibleResource t₂ env.currentIrqNum env.possibleIrqNumBuf = none := by
      unfold patchPossibleResource
      rw [if_pos hirq, dif_pos hbuf, Option.map_eq_none']
      exact (updatePossibleResource_eq_none_iff hlen₂).2 hfit
    rw [Option.bind_eq_bind, h₂, Option.some_bind]
    dsimp only
    rw [if_neg hst, hx]
    rfl

/-- **The header and the size are published as loaded.** Every patch lies at or after the end
of the description header, so an installed table has the loaded table's size and its 36 header
bytes, `Length` and the stale `Checksum` included; `InstallAcpiTable` recomputes the checksum. -/
theorem publishAcpiTable_keeps_header {t' : Buffer} (h : publishAcpiTable env = some r)
    (hi : r.installed = some t') :
    t'.length = env.table.length ∧ ∀ i < acpiHeaderSize, t'[i]? = env.table[i]? := by
  -- a stage that edits at or after the header keeps both
  have keep : ∀ {a b : Buffer} {p w : ℕ}, acpiHeaderSize ≤ p → EditedWithin a b p w →
      b.length = a.length ∧ ∀ i < acpiHeaderSize, b[i]? = a[i]? :=
    fun hp he => ⟨he.length_eq, fun i hi => he.frame i (.inl (by omega))⟩
  obtain ⟨t₁, st, t₂, hpub⟩ := publishAcpiTable_spec h
  obtain ⟨hpp, ⟨len, p, -, hp⟩, hprs⟩ := hpub.stages hi
  have h₁ : t₁.length = env.table.length ∧ ∀ i < acpiHeaderSize, t₁[i]? = env.table[i]? := by
    rcases hpp with rfl | ⟨_, _, -, hfo, he⟩
    exacts [⟨rfl, fun _ _ => rfl⟩, keep hfo.1 he]
  have h₂ := keep hp.first.1 ⟨hp.length_eq, hp.frame⟩
  have h₃ : t'.length = t₂.length ∧ ∀ i < acpiHeaderSize, t'[i]? = t₂[i]? := by
    rcases hprs with rfl | ⟨_, _, _, _, _, _, _, -, -, hc, he⟩
    · exact ⟨rfl, fun _ _ => rfl⟩
    · obtain ⟨p₂, rfl, hp₂, -⟩ := hc.anchor
      exact keep (by omega) he
  exact ⟨h₃.1.trans (h₂.1.trans h₁.1), fun i hi => (h₃.2 i hi).trans ((h₂.2 i hi).trans (h₁.2 i hi))⟩

theorem sampleEnv_keeps_header :
    ∃ r t', publishAcpiTable sampleEnv = some r ∧ r.installed = some t' ∧
      t'.length = sampleEnv.table.length ∧ ∀ i < acpiHeaderSize, t'[i]? = sampleEnv.table[i]? := by
  obtain ⟨t', ht'⟩ := Option.isSome_iff_exists.1
    (show ((publishAcpiTable sampleEnv).bind PublishResult.installed).isSome by decide)
  obtain ⟨r, hr, hi⟩ := Option.bind_eq_some.1 ht'
  exact ⟨r, t', hr, hi, publishAcpiTable_keeps_header hr hi⟩

end Run

end Tcg2AcpiFfa
