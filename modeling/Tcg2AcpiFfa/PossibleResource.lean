import Tcg2AcpiFfa.Aml

/-!
# `UpdatePossibleResource`

The model of the function that rewrites the TPM device's `_PRS` resource templates in place,
statement by statement. Two scan loops look for the short-form template `RESS` and, when the
interrupts do not fit in it, the long-form template `RESL`; each loop ends by `return`, by
`break`, or by running out. Then come the check for `EFI_NOT_FOUND`, and the interrupt
descriptor, the End Tag and the `AML_NOOP_OP` fill.

A loop that runs out leaves its locals as they were and `DataPtr` where the test failed, so both
ways out of the loops end in the same three locals, `DataPtr`, `DataEndPtr` and `NewPkgLength`:
that is `LoopExit.brk`. Everything after the loops depends on those three alone.

The interrupt buffer carries the check that its only caller, `PublishAcpiTable`, makes before
the call: at most `MAX_PRS_INT_BUF_SIZE` bytes, a whole number of `UINT32`s. With it none of the
`UINT32` sums in the function wraps, so the model computes them in `ℕ`.

## Main definitions

* `PossibleIrqBuf` — `IrqBuffer` and `IrqBuffserSize`, as the caller guarantees them
* `ressBody`, `reslBody` — the bodies of the two scan loops
* `scanTemplates` — steps 1 and 2 of the source
* `patchDescriptor` — the `EFI_NOT_FOUND` check, then steps 3 to 5
* `updatePossibleResource`
-/

namespace Tcg2AcpiFfa

/-! ### Constants of the source -/

/-- `TPM_PRS_RESS`, the name `"RESS"` of the short-form template. -/
def tpmPrsRess : List UInt8 := [0x52, 0x45, 0x53, 0x53]

/-- `TPM_PRS_RESL`, the name `"RESL"` of the long-form template. -/
def tpmPrsResl : List UInt8 := [0x52, 0x45, 0x53, 0x4C]

/-- `TPM_PRS_RES_NAME_SIZE`. -/
def tpmPrsResNameSize : ℕ := 4

/-- `TPM_POS_RES_TEMPLATE_MIN_SIZE`: `BufferOp`, a one-byte `PkgLength`, a two-byte
`BufferSize`, `Memory32Fixed`, the interrupt descriptor header and the End Tag. -/
def tpmPosResTemplateMinSize : ℕ := 1 + 1 + 2 + 12 + 5 + 2

/-- `MAX_PRS_INT_BUF_SIZE`: fifteen interrupts. -/
def maxPrsIntBufSize : ℕ := 15 * 4

/-! ### Arguments and results -/

/-- `IrqBuffer` and `IrqBuffserSize` as `PublishAcpiTable` passes them, after its check. -/
structure PossibleIrqBuf where
  /-- The bytes of the `UINT32` interrupt numbers, little-endian. -/
  bytes : List UInt8
  /-- `PossibleIrqNumBufSize <= MAX_PRS_INT_BUF_SIZE`. -/
  size_le : bytes.length ≤ maxPrsIntBufSize
  /-- `(PossibleIrqNumBufSize % sizeof (UINT32)) == 0`. -/
  size_mod : bytes.length % 4 = 0

/-- `IrqBuffserSize`. -/
def PossibleIrqBuf.size (irq : PossibleIrqBuf) : ℕ := irq.bytes.length

theorem PossibleIrqBuf.size_le_sixty (irq : PossibleIrqBuf) : irq.size ≤ 60 := irq.size_le

/-- What `UpdatePossibleResource` writes: the table and `*IsShortFormPkgLength`. -/
structure PrsState where
  /-- The buffer `Table` points into. -/
  table : Buffer
  /-- `*IsShortFormPkgLength`. -/
  isShortFormPkgLength : Bool
  deriving DecidableEq

/-- How control leaves one of the two scan loops. -/
inductive LoopExit where
  /-- `return status` inside the body. -/
  | ret (status : EfiStatus)
  /-- `break`, or the loop test failing, with `DataPtr`, `DataEndPtr` and `NewPkgLength`. -/
  | brk (dataPtr dataEndPtr newPkgLength : ℕ)
  deriving DecidableEq

/-! ### The two loops -/

/-- The `Jump over BufferSize` step: how many bytes `BufferSize` takes, prefix included, or
`none` for a prefix the driver does not support. -/
def bufferSizeLength (pre : UInt8) : Option ℕ :=
  if pre = amlBytePrefix then some 2 else if pre = amlWordPrefix then some 3
  else if pre = amlDwordPrefix then some 5 else none

/-- `OriginalPkgLength` in the second loop, from the lead byte and the first follow byte only. -/
def longPkgLength (lead b1 : UInt8) : ℕ := (b1.toNat <<< 4) + (lead.toNat &&& 0x0F)

theorem longPkgLength_eq (lead b1 : UInt8) :
    longPkgLength lead b1 = b1.toNat * 16 + lead.toNat % 16 := by
  rw [longPkgLength, Nat.shiftLeft_eq, and_0f]

/-- The body of the first loop at an offset `p` holding `TPM_PRS_RESS`. -/
def ressBody (irq : PossibleIrqBuf) (s : PrsState) (p : ℕ) : Option (LoopExit × PrsState) := do
  let dataPtr := p + tpmPrsResNameSize + 1
  let lead ← s.table[dataPtr]?
  if lead.toNat &&& 0xC0 = 0 then
    let originalPkgLength := lead.toNat
    let dataEndPtr := dataPtr + originalPkgLength
    let pre ← s.table[dataPtr + 1]?
    match bufferSizeLength pre with
    | none => pure (.ret efiUnsupported, s)
    | some w =>
      let newPkgLength := 1 + w + (19 + irq.size)
      if newPkgLength > 63 then pure (.brk dataPtr dataEndPtr newPkgLength, s)
      else if newPkgLength > originalPkgLength then pure (.ret efiInvalidParameter, s)
      else do
        let t ← writeByte s.table dataPtr newPkgLength.toUInt8
        let t ← writeByte t (dataPtr + 2) (irq.size + 19).toUInt8
        pure (.brk dataPtr dataEndPtr newPkgLength, ⟨t, true⟩)
  else pure (.ret efiUnsupported, s)

/-- The body of the second loop at an offset `p` holding `TPM_PRS_RESL`. The third store reads
the lead byte back after the first has rewritten it. -/
def reslBody (irq : PossibleIrqBuf) (s : PrsState) (p : ℕ) : Option (LoopExit × PrsState) := do
  let dataPtr := p + tpmPrsResNameSize + 1
  let lead ← s.table[dataPtr]?
  if lead.toNat &&& 0xC0 ≠ 0 then
    let b1 ← s.table[dataPtr + 1]?
    let originalPkgLength := longPkgLength lead b1
    let dataEndPtr := dataPtr + originalPkgLength
    let newPkgLength := 1 + ((lead.toNat &&& 0xC0) >>> 6)
    let pre ← s.table[dataPtr + newPkgLength]?
    match bufferSizeLength pre with
    | none => pure (.ret efiUnsupported, s)
    | some w =>
      let newPkgLength := newPkgLength + w + (19 + irq.size)
      if newPkgLength > originalPkgLength then pure (.ret efiInvalidParameter, s)
      else do
        let t ← writeByte s.table dataPtr
          ((lead.toNat &&& 0xF0) ||| (newPkgLength &&& 0x0F)).toUInt8
        let t ← writeByte t (dataPtr + 1) ((newPkgLength &&& 0xFF0) >>> 4).toUInt8
        let lead' ← t[dataPtr]?
        let t ← writeByte t (dataPtr + 2 + ((lead'.toNat &&& 0xC0) >>> 6)) (irq.size + 19).toUInt8
        pure (.brk dataPtr dataEndPtr newPkgLength, ⟨t, false⟩)
  else pure (.ret efiUnsupported, s)

/-- Offsets the two loops test: `DataPtr` runs from `(UINT8 *)(Table + 1)` while
`DataPtr < (UINT8 *)Table + Table->Length - (TPM_PRS_RES_NAME_SIZE + TPM_POS_RES_TEMPLATE_MIN_SIZE)`. -/
def resourceScanCount (len : ℕ) : ℕ :=
  len - (tpmPrsResNameSize + tpmPosResTemplateMinSize) - acpiHeaderSize

/-- One of the two loops, entered with `DataEndPtr` and `NewPkgLength`: the body runs at the first
offset holding `tag`; when there is none, the loop leaves the locals as they were. -/
def resourceLoop (tag : List UInt8) (body : PrsState → ℕ → Option (LoopExit × PrsState))
    (s : PrsState) (len dataEndPtr newPkgLength : ℕ) : Option (LoopExit × PrsState) := do
  let hit ← scanFirst (fun p => (compareMem s.table p tag).map (· == 0)) acpiHeaderSize
    (resourceScanCount len)
  match hit with
  | some p => body s p
  | none => pure (.brk (acpiHeaderSize + resourceScanCount len) dataEndPtr newPkgLength, s)

/-- Steps 1 and 2 of the source: the `RESS` loop, entered with `DataEndPtr = NULL` and
`NewPkgLength = 0`; then, if it left `NewPkgLength` above 63, the `RESL` loop, which resets
`NewPkgLength` but not `DataEndPtr`. -/
def scanTemplates (irq : PossibleIrqBuf) (s : PrsState) (len : ℕ) :
    Option (LoopExit × PrsState) := do
  let (e, s) ← resourceLoop tpmPrsRess (ressBody irq) s len 0 0
  match e with
  | .brk _ dataEndPtr newPkgLength =>
    if newPkgLength > 63 then resourceLoop tpmPrsResl (reslBody irq) s len dataEndPtr 0
    else pure (e, s)
  | .ret _ => pure (e, s)

/-! ### After the loops -/

/-- Step 5, "stuff rest bytes to NOOP": `if (DataPtr < DataEndPtr) SetMem (DataPtr, DataEndPtr -
DataPtr, AML_NOOP_OP)`. -/
def stuffNoop (t : Buffer) (dataPtr dataEndPtr : ℕ) : Option Buffer :=
  if dataPtr < dataEndPtr then setMem t dataPtr (dataEndPtr - dataPtr) amlNoopOp else some t

/-- From the `EFI_NOT_FOUND` check to the end: step 3 moves `DataPtr` to the interrupt
descriptor and patches its length, its interrupt count and its interrupts; step 4 writes the
End Tag; step 5 fills the rest of the old template with `AML_NOOP_OP`. -/
def patchDescriptor (irq : PossibleIrqBuf) (s : PrsState)
    (len dataPtr dataEndPtr newPkgLength : ℕ) : Option (EfiStatus × PrsState) :=
  if dataPtr ≥ len - (tpmPrsResNameSize + tpmPosResTemplateMinSize) then some (efiNotFound, s)
  else do
    let d := dataPtr + (newPkgLength - (5 + irq.size + 2))
    let t ← writeByte s.table (d + 1) (2 + irq.size).toUInt8
    let t ← writeByte t (d + 4) (irq.size / 4).toUInt8
    let t ← copyMem t (d + 5) irq.bytes
    let e := d + 5 + irq.size
    let t ← writeByte t e acpiEndTagDescriptor
    let t ← writeByte t (e + 1) 0
    let t ← stuffNoop t (e + 2) dataEndPtr
    pure (efiSuccess, { s with table := t })

/-- `UpdatePossibleResource (Table, IrqBuffer, IrqBuffserSize, IsShortFormPkgLength)`. -/
def updatePossibleResource (s : PrsState) (irq : PossibleIrqBuf) :
    Option (EfiStatus × PrsState) := do
  let len ← tableLength s.table
  let (e, s) ← scanTemplates irq s len
  match e with
  | .ret status => pure (status, s)
  | .brk dataPtr dataEndPtr newPkgLength =>
    patchDescriptor irq s len dataPtr dataEndPtr newPkgLength

/-! ### What each part can do

One inversion lemma per part: every later proof takes a run apart with these, and none of
them unfolds the definitions again. -/

variable {irq : PossibleIrqBuf} {s s' : PrsState} {len dp de n p : ℕ} {st : EfiStatus}

theorem bufferSizeLength_eq_some {pre : UInt8} {w : ℕ} (h : bufferSizeLength pre = some w) :
    w = 1 + integerWidth pre ∧ 2 ≤ w ∧ w ≤ 5 := by
  unfold bufferSizeLength at h
  unfold integerWidth
  split_ifs at h ⊢ <;> cases h <;> simp_all [amlBytePrefix, amlWordPrefix, amlDwordPrefix]

/-- Why the body of the second loop returns: a short-form `PkgLength`, an unknown `BufferSize`
prefix, or a new length above the old one. -/
theorem reslBody_ret (h : reslBody irq s p = some (.ret st, s')) :
    s' = s ∧ ∃ lead, s.table[p + 5]? = some lead ∧
      (lead.toNat < 64 ∧ st = efiUnsupported ∨
        64 ≤ lead.toNat ∧ ∃ b1 pre, s.table[p + 6]? = some b1 ∧
          s.table[p + 6 + lead.toNat / 64]? = some pre ∧
          (bufferSizeLength pre = none ∧ st = efiUnsupported ∨
            ∃ w, bufferSizeLength pre = some w ∧
              longPkgLength lead b1 < 1 + lead.toNat / 64 + w + (19 + irq.size) ∧
              st = efiInvalidParameter)) := by
  unfold reslBody at h
  dsimp only at h
  obtain ⟨lead, hlead, h⟩ := Option.bind_eq_some.1 h
  split at h
  · rename_i h64
    have h64' : 64 ≤ lead.toNat := by
      by_contra h'; exact h64 ((and_c0_eq_zero_iff lead).2 (by omega))
    obtain ⟨b1, hb1, h⟩ := Option.bind_eq_some.1 h
    obtain ⟨pre, hpre, h⟩ := Option.bind_eq_some.1 h
    rw [and_c0_shiftRight] at hpre h
    rw [show p + tpmPrsResNameSize + 1 + (1 + lead.toNat / 64) = p + 6 + lead.toNat / 64
      by simp only [tpmPrsResNameSize]; omega] at hpre
    split at h
    · cases h; exact ⟨rfl, lead, hlead, .inr ⟨h64', b1, pre, hb1, hpre, .inl ⟨‹_›, rfl⟩⟩⟩
    · rename_i w hw
      split at h
      · cases h
        exact ⟨rfl, lead, hlead, .inr ⟨h64', b1, pre, hb1, hpre, .inr ⟨w, hw, by omega, rfl⟩⟩⟩
      · obtain ⟨t, -, h⟩ := Option.bind_eq_some.1 h
        obtain ⟨t', -, h⟩ := Option.bind_eq_some.1 h
        obtain ⟨l, -, h⟩ := Option.bind_eq_some.1 h
        obtain ⟨t'', -, h⟩ := Option.bind_eq_some.1 h
        cases h
  · cases h
    rename_i h64
    exact ⟨rfl, lead, hlead, .inl ⟨(and_c0_eq_zero_iff lead).1 (not_not.1 h64), rfl⟩⟩

theorem reslBody_brk (h : reslBody irq s p = some (.brk dp de n, s')) :
    ∃ lead b1 pre w, s.table[p + 5]? = some lead ∧ 64 ≤ lead.toNat ∧ s.table[p + 6]? = some b1 ∧
      s.table[p + 6 + lead.toNat / 64]? = some pre ∧ bufferSizeLength pre = some w ∧
      dp = p + 5 ∧ de = p + 5 + longPkgLength lead b1 ∧
      n = 1 + lead.toNat / 64 + w + (19 + irq.size) ∧ n ≤ longPkgLength lead b1 ∧
      s'.isShortFormPkgLength = false ∧ s'.table.length = s.table.length ∧
      ∀ i, s'.table[i]? = if p + 7 + lead.toNat / 64 = i then some (irq.size + 19).toUInt8
        else if p + 6 = i then some (n / 16).toUInt8
        else if p + 5 = i then some (lead.toNat / 16 * 16 + n % 16).toUInt8 else s.table[i]? := by
  unfold reslBody at h
  dsimp only at h
  obtain ⟨lead, hlead, h⟩ := Option.bind_eq_some.1 h
  split at h
  · rename_i h64
    obtain ⟨b1, hb1, h⟩ := Option.bind_eq_some.1 h
    obtain ⟨pre, hpre, h⟩ := Option.bind_eq_some.1 h
    rw [and_c0_shiftRight] at hpre h
    split at h
    · cases h
    · rename_i w hw
      split at h
      · cases h
      · obtain ⟨t, h1, h⟩ := Option.bind_eq_some.1 h
        obtain ⟨t', h2, h⟩ := Option.bind_eq_some.1 h
        obtain ⟨l, hl, h⟩ := Option.bind_eq_some.1 h
        obtain ⟨t'', h3, h⟩ := Option.bind_eq_some.1 h
        cases h
        have hlt : lead.toNat < 256 := lead.toNat_lt_size
        have hw5 := (bufferSizeLength_eq_some hw).2.2
        have hS := irq.size_le_sixty
        have hn : 1 + lead.toNat / 64 + w + (19 + irq.size) < 256 := by omega
        rw [and_0f, and_f0_or lead (Nat.mod_lt _ (by omega))] at h1
        rw [and_ff0_shiftRight hn] at h2
        rw [getElem?_of_writeByte h2, getElem?_of_writeByte h1, if_neg (by omega), if_pos rfl,
          Option.some.injEq] at hl
        subst hl
        rw [and_c0_shiftRight, toNat_toUInt8, Nat.mod_eq_of_lt (by omega),
          show (lead.toNat / 16 * 16 + (1 + lead.toNat / 64 + w + (19 + irq.size)) % 16) / 64 =
            lead.toNat / 64 by omega] at h3
        refine ⟨lead, b1, pre, w, hlead, ?_, hb1, ?_, hw, rfl, rfl, rfl, by omega, rfl, ?_,
          fun i => ?_⟩
        · by_contra h'; exact h64 ((and_c0_eq_zero_iff lead).2 (by omega))
        · rwa [show p + 6 + lead.toNat / 64 = p + tpmPrsResNameSize + 1 + (1 + lead.toNat / 64)
            by simp only [tpmPrsResNameSize]; omega]
        · rw [length_of_writeByte h3, length_of_writeByte h2, length_of_writeByte h1]
        · rw [getElem?_of_writeByte h3, getElem?_of_writeByte h2, getElem?_of_writeByte h1]
          rfl
  · cases h

/-- Why the body of the first loop returns: a long-form `PkgLength`, an unknown `BufferSize`
prefix, or a new length that fits the short form but not the old template. -/
theorem ressBody_ret (h : ressBody irq s p = some (.ret st, s')) :
    s' = s ∧ ∃ lead, s.table[p + 5]? = some lead ∧
      (64 ≤ lead.toNat ∧ st = efiUnsupported ∨
        lead.toNat < 64 ∧ ∃ pre, s.table[p + 6]? = some pre ∧
          (bufferSizeLength pre = none ∧ st = efiUnsupported ∨
            ∃ w, bufferSizeLength pre = some w ∧ 1 + w + (19 + irq.size) ≤ 63 ∧
              lead.toNat < 1 + w + (19 + irq.size) ∧ st = efiInvalidParameter)) := by
  unfold ressBody at h
  dsimp only at h
  obtain ⟨lead, hlead, h⟩ := Option.bind_eq_some.1 h
  split at h
  · rename_i h64
    have h64' := (and_c0_eq_zero_iff lead).1 h64
    obtain ⟨pre, hpre, h⟩ := Option.bind_eq_some.1 h
    split at h
    · cases h; exact ⟨rfl, lead, hlead, .inr ⟨h64', pre, hpre, .inl ⟨‹_›, rfl⟩⟩⟩
    · rename_i w hw
      split at h
      · cases h
      · split at h
        · cases h
          exact ⟨rfl, lead, hlead, .inr ⟨h64', pre, hpre, .inr ⟨w, hw, by omega, by omega, rfl⟩⟩⟩
        · obtain ⟨t, -, h⟩ := Option.bind_eq_some.1 h
          obtain ⟨t', -, h⟩ := Option.bind_eq_some.1 h
          cases h
  · cases h
    rename_i h64
    exact ⟨rfl, lead, hlead, .inl ⟨by
      by_contra h'; exact h64 ((and_c0_eq_zero_iff lead).2 (by omega)), rfl⟩⟩

theorem ressBody_brk (h : ressBody irq s p = some (.brk dp de n, s')) :
    ∃ lead pre w, s.table[p + 5]? = some lead ∧ lead.toNat < 64 ∧ s.table[p + 6]? = some pre ∧
      bufferSizeLength pre = some w ∧ dp = p + 5 ∧ de = p + 5 + lead.toNat ∧
      n = 1 + w + (19 + irq.size) ∧
      (63 < n ∧ s' = s ∨
        n ≤ lead.toNat ∧ n ≤ 63 ∧ s'.isShortFormPkgLength = true ∧
          s'.table.length = s.table.length ∧
          ∀ i, s'.table[i]? = if p + 7 = i then some (irq.size + 19).toUInt8
            else if p + 5 = i then some n.toUInt8 else s.table[i]?) := by
  unfold ressBody at h
  dsimp only at h
  obtain ⟨lead, hlead, h⟩ := Option.bind_eq_some.1 h
  split at h
  · rename_i h64
    obtain ⟨pre, hpre, h⟩ := Option.bind_eq_some.1 h
    split at h
    · cases h
    · rename_i w hw
      refine ⟨lead, pre, w, hlead, (and_c0_eq_zero_iff lead).1 h64, hpre, hw, ?_⟩
      split at h
      · cases h; exact ⟨rfl, rfl, rfl, .inl ⟨by omega, rfl⟩⟩
      · split at h
        · cases h
        · obtain ⟨t, h1, h⟩ := Option.bind_eq_some.1 h
          obtain ⟨t', h2, h⟩ := Option.bind_eq_some.1 h
          cases h
          refine ⟨rfl, rfl, rfl, .inr ⟨by omega, by omega, rfl, ?_, fun i => ?_⟩⟩
          · rw [length_of_writeByte h2, length_of_writeByte h1]
          · rw [getElem?_of_writeByte h2, getElem?_of_writeByte h1]
            rfl
  · cases h

theorem length_of_stuffNoop {t t' : Buffer} {f : ℕ} (h : stuffNoop t f de = some t') :
    t'.length = t.length := by
  unfold stuffNoop at h
  split at h
  · exact length_of_writeBytes h
  · cases h; rfl

theorem getElem?_of_stuffNoop {t t' : Buffer} {f : ℕ} (h : stuffNoop t f de = some t') (i : ℕ) :
    t'[i]? = if f ≤ i ∧ i < de then some amlNoopOp else t[i]? := by
  unfold stuffNoop at h
  split at h
  · rw [getElem?_of_writeBytes h, List.length_replicate, List.getElem?_replicate]
    by_cases hi : f ≤ i ∧ i < de
    · simp [hi, show i < f + (de - f) by omega, show i - f < de - f by omega]
    · rw [if_neg (by omega), if_neg hi]
  · cases h
    exact (if_neg (by omega)).symm

theorem patchDescriptor_success (h : patchDescriptor irq s len dp de n = some (efiSuccess, s')) :
    dp + (tpmPrsResNameSize + tpmPosResTemplateMinSize) < len ∧
      s'.isShortFormPkgLength = s.isShortFormPkgLength ∧ s'.table.length = s.table.length ∧
      ∀ i, s'.table[i]? =
        let d := dp + (n - (5 + irq.size + 2))
        if d + 5 + irq.size + 2 ≤ i ∧ i < de then some amlNoopOp
        else if d + 5 + irq.size + 1 = i then some 0
        else if d + 5 + irq.size = i then some acpiEndTagDescriptor
        else if d + 5 ≤ i ∧ i < d + 5 + irq.size then irq.bytes[i - (d + 5)]?
        else if d + 4 = i then some (irq.size / 4).toUInt8
        else if d + 1 = i then some (2 + irq.size).toUInt8
        else s.table[i]? := by
  unfold patchDescriptor at h
  split at h
  · simp [efiNotFound, efiSuccess] at h
  simp only [Option.bind_eq_bind, Option.bind_eq_some] at h
  obtain ⟨t1, h1, t2, h2, t3, h3, t4, h4, t5, h5, t6, h6, h⟩ := h
  cases h
  refine ⟨by omega, rfl, ?_, fun i => ?_⟩
  · rw [length_of_stuffNoop h6, length_of_writeByte h5, length_of_writeByte h4,
      length_of_writeBytes h3, length_of_writeByte h2, length_of_writeByte h1]
  · rw [getElem?_of_stuffNoop h6, getElem?_of_writeByte h5, getElem?_of_writeByte h4,
      getElem?_of_writeBytes h3, getElem?_of_writeByte h2, getElem?_of_writeByte h1]
    rfl

/-- The descriptor rewrite leaves every byte up to the descriptor's tag, and the high byte of its
length. -/
theorem patchDescriptor_keeps_low (h : patchDescriptor irq s len dp de n = some (efiSuccess, s'))
    {i : ℕ} (hi : i ≤ dp + (n - (5 + irq.size + 2)) ∨ i = dp + (n - (5 + irq.size + 2)) + 2) :
    s'.table[i]? = s.table[i]? := by
  rw [(patchDescriptor_success h).2.2.2 i]
  dsimp only
  rw [if_neg (by omega), if_neg (by omega), if_neg (by omega), if_neg (by omega),
    if_neg (by omega), if_neg (by omega)]

/-- The descriptor rewrite sets the low byte of the interrupt descriptor's length and keeps its
high byte. -/
theorem descriptorLength_of_patchDescriptor
    (h : patchDescriptor irq s len dp de n = some (efiSuccess, s')) :
    descriptorLength s'.table (dp + (n - (5 + irq.size + 2))) =
      2 + irq.size + 256 * (s.table.getD (dp + (n - (5 + irq.size + 2)) + 2) 0).toNat := by
  have hS := irq.size_le_sixty
  rw [descriptorLength, leAt, leAt, leAt,
    getD_eq_of_getElem?_eq (patchDescriptor_keeps_low h (.inr rfl))]
  simp (disch := omega) only [List.getD_eq_getElem?_getD, (patchDescriptor_success h).2.2.2,
    if_neg, if_pos, if_true, Option.getD_some, toNat_toUInt8, Nat.mod_eq_of_lt]
  omega

theorem patchDescriptor_not_success (h : patchDescriptor irq s len dp de n = some (st, s'))
    (hst : st ≠ efiSuccess) :
    st = efiNotFound ∧ s' = s ∧ len ≤ dp + (tpmPrsResNameSize + tpmPosResTemplateMinSize) := by
  unfold patchDescriptor at h
  split at h
  · cases h; exact ⟨rfl, rfl, by omega⟩
  simp only [Option.bind_eq_bind, Option.bind_eq_some] at h
  obtain ⟨t1, -, t2, -, t3, -, t4, -, t5, -, t6, -, h⟩ := h
  cases h
  exact absurd rfl hst

theorem resourceLoop_eq_some {tag : List UInt8} {body : PrsState → ℕ → Option (LoopExit × PrsState)}
    {r : LoopExit × PrsState} (h : resourceLoop tag body s len de n = some r) :
    (∃ p, FirstOccurrence s.table tag acpiHeaderSize (resourceScanCount len) p ∧ body s p = some r) ∨
      ((∀ q, acpiHeaderSize ≤ q → q < acpiHeaderSize + resourceScanCount len →
          ¬ OccursAt s.table q tag) ∧
        r = (.brk (acpiHeaderSize + resourceScanCount len) de n, s)) := by
  unfold resourceLoop at h
  obtain ⟨hit, hs, h⟩ := Option.bind_eq_some.1 h
  cases hit with
  | some p =>
    exact .inl ⟨p, firstOccurrence_of_scanFirst (fun _ => compareMem_test_true)
      (fun _ => compareMem_test_false) hs, h⟩
  | none =>
    exact .inr ⟨not_occursAt_of_scanFirst (fun _ => compareMem_test_false) hs, (Option.some.inj h).symm⟩

theorem scanTemplates_ret (h : scanTemplates irq s len = some (.ret st, s')) :
    s' = s ∧ (st = efiUnsupported ∨ st = efiInvalidParameter) := by
  unfold scanTemplates at h
  obtain ⟨⟨e, s₁⟩, h₁, h₂⟩ := Option.bind_eq_some.1 h
  cases e with
  | ret st₁ =>
    cases h₂
    rcases resourceLoop_eq_some h₁ with ⟨p, -, hb⟩ | ⟨-, hr⟩
    · obtain ⟨rfl, -, -, ⟨-, rfl⟩ | ⟨-, -, -, ⟨-, rfl⟩ | ⟨-, -, -, -, rfl⟩⟩⟩ := ressBody_ret hb
      exacts [⟨rfl, .inl rfl⟩, ⟨rfl, .inl rfl⟩, ⟨rfl, .inr rfl⟩]
    · cases hr
  | brk dp₁ de₁ n₁ =>
    dsimp only at h₂
    split at h₂
    · -- the first loop wrote nothing before the second one ran
      have hs₁ : s₁ = s := by
        rcases resourceLoop_eq_some h₁ with ⟨p, -, hb₁⟩ | ⟨-, hr₁⟩
        · obtain ⟨lead, pre, w, -, -, -, -, -, -, hn, hs⟩ := ressBody_brk hb₁
          rcases hs with ⟨-, h⟩ | ⟨-, h63, -⟩ <;> [exact h; omega]
        · cases hr₁; omega
      subst hs₁
      rcases resourceLoop_eq_some h₂ with ⟨p', -, hb⟩ | ⟨-, hr⟩
      · obtain ⟨rfl, -, -, ⟨-, rfl⟩ | ⟨-, -, -, -, -, ⟨-, rfl⟩ | ⟨-, -, -, rfl⟩⟩⟩ :=
          reslBody_ret hb
        exacts [⟨rfl, .inl rfl⟩, ⟨rfl, .inl rfl⟩, ⟨rfl, .inr rfl⟩]
      · cases hr
    · cases h₂

theorem scanTemplates_brk (h : scanTemplates irq s len = some (.brk dp de n, s')) :
    (s' = s ∧ dp = acpiHeaderSize + resourceScanCount len) ∨
    (∃ p, FirstOccurrence s.table tpmPrsRess acpiHeaderSize (resourceScanCount len) p ∧
      ressBody irq s p = some (.brk dp de n, s') ∧ n ≤ 63) ∨
    (∃ p dp₁ de₁ n₁ p', FirstOccurrence s.table tpmPrsRess acpiHeaderSize (resourceScanCount len) p ∧
      ressBody irq s p = some (.brk dp₁ de₁ n₁, s) ∧ 63 < n₁ ∧
      FirstOccurrence s.table tpmPrsResl acpiHeaderSize (resourceScanCount len) p' ∧
      reslBody irq s p' = some (.brk dp de n, s')) := by
  unfold scanTemplates at h
  obtain ⟨⟨e, s₁⟩, h₁, h₂⟩ := Option.bind_eq_some.1 h
  cases e with
  | ret st₁ => cases h₂
  | brk dp₁ de₁ n₁ =>
    dsimp only at h₂
    split at h₂
    · rename_i h63
      rcases resourceLoop_eq_some h₁ with ⟨p, hp, hb₁⟩ | ⟨-, hr₁⟩
      · obtain ⟨lead, pre, w, -, -, -, -, -, -, -, hs⟩ := ressBody_brk hb₁
        have hs₁ : s₁ = s := by rcases hs with ⟨-, h⟩ | ⟨-, h63', -⟩ <;> [exact h; omega]
        rw [hs₁] at hb₁ h₂
        rcases resourceLoop_eq_some h₂ with ⟨p', hp', hb⟩ | ⟨-, hr⟩
        · exact .inr (.inr ⟨p, dp₁, de₁, n₁, p', hp, hb₁, h63, hp', hb⟩)
        · cases hr; exact .inl ⟨rfl, rfl⟩
      · cases hr₁; omega
    · cases h₂
      rcases resourceLoop_eq_some h₁ with ⟨p, hp, hb₁⟩ | ⟨-, hr₁⟩
      · exact .inr (.inl ⟨p, hp, hb₁, by omega⟩)
      · cases hr₁; exact .inl ⟨rfl, rfl⟩

theorem updatePossibleResource_eq_some (h : updatePossibleResource s irq = some (st, s')) :
    ∃ len, tableLength s.table = some len ∧
      (scanTemplates irq s len = some (.ret st, s') ∨
        ∃ dp de n s₁, scanTemplates irq s len = some (.brk dp de n, s₁) ∧
          patchDescriptor irq s₁ len dp de n = some (st, s')) := by
  unfold updatePossibleResource at h
  obtain ⟨len, hlen, h⟩ := Option.bind_eq_some.1 h
  obtain ⟨⟨e, s₁⟩, h₁, h⟩ := Option.bind_eq_some.1 h
  refine ⟨len, hlen, ?_⟩
  cases e with
  | ret st₁ => cases h; exact .inl h₁
  | brk dp de n => exact .inr ⟨dp, de, n, s₁, h₁, h⟩

end Tcg2AcpiFfa
