import Tcg2AcpiFfa.PossibleResourceCorrect

/-!
# Where `UpdatePossibleResource` reads and writes

Every load and store of the model is checked against the buffer, and a computation that would
touch a byte outside it is `none`. So `(updatePossibleResource s irq).isSome` says that no offset
the driver reads or writes lies outside the table.

## Scope

The scans and the two loop bodies stay inside any table whose `Length` is its size: the scan
range stops `TPM_PRS_RES_NAME_SIZE + TPM_POS_RES_TEMPLATE_MIN_SIZE` bytes before the end, and
each body touches at most 11 bytes from its anchor. Steps 3 to 5 are different: they write up to
`DataEndPtr = q + OriginalPkgLength`, and that length is read from the table and never compared
with its end. `overlongRessSsdt` is a table where this runs past the end. So the bound asks of
the table one thing more, and only of the template the scans choose: that it ends inside the
table, by its own `PkgLength`, whenever steps 3 to 5 run on it.

## Main definitions

* `ChosenTemplateFits` — the template chosen for the interrupts ends inside the table

## Main results

* `ressBody_isSome`, `reslBody_isSome`, `scanTemplates_isSome` — the loops stay inside the table
* `patchDescriptor_isSome` — steps 3 to 5 stay inside it when the old template does
* `updatePossibleResource_isSome` — no access outside a table whose chosen template fits
* `updatePossibleResource_eq_none_iff` — a run faults exactly when the chosen template does not
  fit
-/

namespace Tcg2AcpiFfa

variable {irq : PossibleIrqBuf} {s : PrsState} {len p : ℕ}

/-! ### The loops -/

theorem ressBody_isSome (h : p + 8 ≤ s.table.length) : (ressBody irq s p).isSome := by
  unfold ressBody
  dsimp only
  simp only [tpmPrsResNameSize]
  refine isSome_getElem?_bind (by omega) ?_
  split
  · refine isSome_getElem?_bind (by omega) ?_
    split
    · rfl
    · split
      · rfl
      split
      · rfl
      exact isSome_writeByte_bind (by omega) (isSome_writeByte_bind (by simp; omega) rfl)
  · rfl

theorem reslBody_isSome (h : p + 11 ≤ s.table.length) : (reslBody irq s p).isSome := by
  unfold reslBody
  dsimp only
  simp only [tpmPrsResNameSize]
  refine isSome_getElem?_bind (by omega) ?_
  split
  · have := and_c0_shiftRight_le s.table[p + 4 + 1]
    refine isSome_getElem?_bind (by omega) (isSome_getElem?_bind (by omega) ?_)
    split
    · rfl
    · split
      · rfl
      refine isSome_writeByte_bind (by omega) (isSome_writeByte_bind (by simp; omega) ?_)
      -- the last store's offset depends on the lead byte read back, which has two top bits
      exact isSome_getElem?_bind (by simp; omega) (isSome_writeByte_bind
        (Nat.lt_of_le_of_lt (Nat.add_le_add_left (and_c0_shiftRight_le _) _) (by simp; omega)) rfl)
  · rfl

/-- A loop runs when every compare of the scan stays inside the table and the body runs at each
offset holding the tag. -/
theorem resourceLoop_isSome {tag : List UInt8} {body : PrsState → ℕ → Option (LoopExit × PrsState)}
    {de n : ℕ} (hr : ∀ p, acpiHeaderSize ≤ p → p < acpiHeaderSize + resourceScanCount len →
      p + tag.length ≤ s.table.length ∧ (OccursAt s.table p tag → (body s p).isSome)) :
    (resourceLoop tag body s len de n).isSome := by
  have hscan : (scanFirst (fun p => (compareMem s.table p tag).map (· == 0)) acpiHeaderSize
      (resourceScanCount len)).isSome :=
    scanFirst_isSome fun q h1 h2 => by simpa using compareMem_isSome (hr q h1 h2).1
  obtain ⟨hit, hs⟩ := Option.isSome_iff_exists.1 hscan
  unfold resourceLoop
  rw [Option.bind_eq_bind, hs, Option.some_bind]
  cases hit with
  | none => rfl
  | some p =>
    obtain ⟨h1, h2, ho, -⟩ :=
      firstOccurrence_of_scanFirst (fun _ => compareMem_test_true) (fun _ => compareMem_test_false) hs
    exact (hr p h1 h2).2 ho

/-- The two loops stay inside a table at least `Length` bytes long. -/
theorem scanTemplates_isSome (hL : len ≤ s.table.length) : (scanTemplates irq s len).isSome := by
  -- both tags have 4 bytes, and both bodies stay within 11 bytes of their anchor
  have hr : ∀ {tag : List UInt8} {body : PrsState → ℕ → Option (LoopExit × PrsState)},
      tag.length = 4 → (∀ p, p + 11 ≤ s.table.length → (body s p).isSome) →
      ∀ p, acpiHeaderSize ≤ p → p < acpiHeaderSize + resourceScanCount len →
        p + tag.length ≤ s.table.length ∧ (OccursAt s.table p tag → (body s p).isSome) :=
    fun htag hb p h1 h2 => by
      simp only [acpiHeaderSize, resourceScanCount, tpmPrsResNameSize, tpmPosResTemplateMinSize]
        at h1 h2
      exact ⟨by omega, fun _ => hb p (by omega)⟩
  have h₀ : (resourceLoop tpmPrsRess (ressBody irq) s len 0 0).isSome :=
    resourceLoop_isSome (hr rfl fun p hp => ressBody_isSome (by omega))
  obtain ⟨⟨e, s₁⟩, h₁⟩ := Option.isSome_iff_exists.1 h₀
  unfold scanTemplates
  rw [Option.bind_eq_bind, h₁, Option.some_bind]
  cases e with
  | ret => rfl
  | brk dp de n =>
    dsimp only
    split
    · -- the first loop broke at a `RESS` too short for the interrupts, and wrote nothing
      have hs₁ : s₁ = s := by
        rcases resourceLoop_eq_some h₁ with ⟨p, -, hb⟩ | ⟨-, hr₁⟩
        · obtain ⟨lead, pre, w, -, -, -, -, -, -, -, hs⟩ := ressBody_brk hb
          rcases hs with ⟨-, h⟩ | ⟨-, h63, -⟩ <;> [exact h; omega]
        · cases hr₁; omega
      subst hs₁
      exact resourceLoop_isSome (hr rfl fun p hp => reslBody_isSome hp)
    · rfl

/-! ### Steps 3 to 5 -/

/-- Steps 3 to 5 stay inside the table when the old template does: they write the interrupt
descriptor and the End Tag up to `DataPtr + NewPkgLength`, and fill up to `DataEndPtr`. They do
not run when `DataPtr` fails the `EFI_NOT_FOUND` check. -/
theorem patchDescriptor_isSome {dp de n : ℕ} (hn : 5 + irq.size + 2 ≤ n) (hde : dp + n ≤ de)
    (hL : dp + (tpmPrsResNameSize + tpmPosResTemplateMinSize) < len → de ≤ s.table.length) :
    (patchDescriptor irq s len dp de n).isSome := by
  unfold patchDescriptor
  split
  · rfl
  have hL := hL (by omega)
  dsimp only
  have hS : irq.bytes.length = irq.size := rfl
  refine isSome_writeByte_bind (by omega) (isSome_writeByte_bind (by simp; omega) ?_)
  rw [copyMem]
  refine isSome_writeBytes_bind (by simp; omega) fun t₃ hl₃ => ?_
  simp only [List.length_set] at hl₃
  refine isSome_writeByte_bind (by omega) (isSome_writeByte_bind (by simp; omega) ?_)
  unfold stuffNoop
  split
  · rw [setMem]
    exact isSome_writeBytes_bind (by simp; omega) fun _ _ => rfl
  · rfl

/-! ### The whole function -/

/-- The template the scans choose for `irq` ends inside the table, by its own `PkgLength`,
whenever steps 3 to 5 run on it: when that `PkgLength` holds the new one (otherwise the loops
return `EFI_BUFFER_TOO_SMALL`) and lies before the last
`TPM_PRS_RES_NAME_SIZE + TPM_POS_RES_TEMPLATE_MIN_SIZE` bytes (otherwise the `EFI_NOT_FOUND`
check fires). Other `RESS` and `RESL` names in the table are not constrained. -/
def ChosenTemplateFits (t : Buffer) (irq : PossibleIrqBuf) : Prop :=
  ∀ q n w orig f, ChosenTemplate t t.length irq q n w orig f → 1 + n + w + (19 + irq.size) ≤ orig →
    q + (tpmPrsResNameSize + tpmPosResTemplateMinSize) < t.length → q + orig ≤ t.length

/-- The chosen template follows its name in the scan range. -/
theorem ChosenTemplate.anchor {t : Buffer} {q n w orig : ℕ} {f : Bool}
    (hc : ChosenTemplate t len irq q n w orig f) :
    ∃ p, q = p + 5 ∧ acpiHeaderSize ≤ p ∧ p < acpiHeaderSize + resourceScanCount len ∧
      (OccursAt t p tpmPrsRess ∨ OccursAt t p tpmPrsResl) := by
  cases hc with
  | short hp => exact ⟨_, rfl, hp.1, hp.2.1, .inl hp.2.2.1⟩
  | long _ _ _ _ hp' => exact ⟨_, rfl, hp'.1, hp'.2.1, .inr hp'.2.2.1⟩

/-- **Where `UpdatePossibleResource` can fault.** On a table whose `Length` is its size, only
where the chosen template does not fit: the scans, the two loop bodies, the interrupt descriptor
and End Tag, and the `AML_NOOP_OP` fill up to `DataEndPtr` of a template that fits stay below
`Length`. -/
theorem not_chosenTemplateFits_of_eq_none {t : Buffer} {f : Bool}
    (hlen : tableLength t = some t.length) (h : updatePossibleResource ⟨t, f⟩ irq = none) :
    ¬ ChosenTemplateFits t irq := by
  intro hfit
  suffices hs : (updatePossibleResource ⟨t, f⟩ irq).isSome by rw [h] at hs; exact Bool.noConfusion hs
  unfold updatePossibleResource
  rw [Option.bind_eq_bind, hlen, Option.some_bind]
  have h₀ : (scanTemplates irq ⟨t, f⟩ t.length).isSome := scanTemplates_isSome le_rfl
  obtain ⟨⟨e, s₁⟩, h₁⟩ := Option.isSome_iff_exists.1 h₀
  rw [Option.bind_eq_bind, h₁, Option.some_bind]
  cases e with
  | ret => rfl
  | brk dp de n =>
    dsimp only
    rcases scanTemplates_brk_spec h₁ with ⟨-, rfl⟩ | ⟨k, w, orig, rfl, rfl, hle, hc, hh⟩
    · -- nothing found: `DataPtr` stops where the `EFI_NOT_FOUND` check fires
      unfold patchDescriptor
      rw [if_pos (by
        simp only [acpiHeaderSize, resourceScanCount, tpmPrsResNameSize, tpmPosResTemplateMinSize]
        omega)]
      rfl
    · refine patchDescriptor_isSome (by omega) (by omega) fun hq => ?_
      rw [hh.length_eq]
      exact hfit _ _ _ _ _ hc hle hq

/-- **No access outside the table.** On a table whose `Length` is its size and whose chosen
template fits, `UpdatePossibleResource` reads and writes only offsets below `Length`: the scans,
the two loop bodies, the interrupt descriptor and End Tag, and the `AML_NOOP_OP` fill up to
`DataEndPtr`. -/
theorem updatePossibleResource_isSome {t : Buffer} {f : Bool}
    (hlen : tableLength t = some t.length) (hfit : ChosenTemplateFits t irq) :
    (updatePossibleResource ⟨t, f⟩ irq).isSome :=
  Option.isSome_iff_ne_none.2 fun h => not_chosenTemplateFits_of_eq_none hlen h hfit

set_option maxRecDepth 10000 in
theorem sampleSsdt_isSome :
    tableLength sampleSsdt = some sampleSsdt.length ∧ ChosenTemplateFits sampleSsdt sampleIrq ∧
      (updatePossibleResource ⟨sampleSsdt, false⟩ sampleIrq).isSome := by
  have hlen : tableLength sampleSsdt = some sampleSsdt.length := by decide
  -- the first `RESS` follows the header, holds the two interrupts and ends at offset 75
  have h36 : FirstOccurrence sampleSsdt tpmPrsRess acpiHeaderSize
      (resourceScanCount sampleSsdt.length) 36 :=
    ⟨le_rfl, by decide, by decide, fun _ h1 h2 => absurd h2 (Nat.not_lt.2 h1)⟩
  have hfit : ChosenTemplateFits sampleSsdt sampleIrq := by
    intro q n w orig f hc _ _
    cases hc with
    | short hp => obtain rfl := hp.unique h36; decide
    | @long _ w₀ _ _ hp _ hw h63 =>
      obtain rfl := hp.unique h36
      obtain rfl : w₀ = 2 := Option.some.inj (hw.symm.trans (by decide))
      exact absurd h63 (by decide)
  exact ⟨hlen, hfit, updatePossibleResource_isSome hlen hfit⟩

/-! ### A template that does not fit -/

/-- `sampleRess` with its `PkgLength` raised to 63, the most the short form holds. -/
def overlongRess : List UInt8 :=
  tpmPrsRess ++ [0x11, 63, amlBytePrefix, 31] ++ sampleMemory32Fixed ++ sampleInterrupts 3 1 ++
    [acpiEndTagDescriptor, 0]

/-- A 75-byte table holding only `overlongRess`, whose `PkgLength` reaches offset 104. -/
def overlongRessSsdt : Buffer := sampleHeader 75 ++ overlongRess

set_option maxRecDepth 10000 in
/-- On `overlongRessSsdt` the `AML_NOOP_OP` fill runs from offset 71 towards `DataEndPtr = 104`
and stores past the end of the 75-byte table. -/
theorem overlongRessSsdt_stores_past_end :
    tableLength overlongRessSsdt = some overlongRessSsdt.length ∧
      updatePossibleResource ⟨overlongRessSsdt, false⟩ sampleIrq = none := by
  decide

/-! ### Exactly where a run faults -/

/-- A successful run of steps 3 to 5 has stored the byte before `DataEndPtr`: the `AML_NOOP_OP`
fill ends there, or, when there is no fill, the End Tag does. -/
theorem le_length_of_patchDescriptor {dp de n : ℕ}
    (h : patchDescriptor irq s len dp de n = some (efiSuccess, s')) (hn : 5 + irq.size + 2 ≤ n)
    (hde : dp + n ≤ de) : de ≤ s.table.length := by
  obtain ⟨-, -, hlen, hget⟩ := patchDescriptor_success h
  by_contra hlt
  have hnone : s'.table[de - 1]? = none := List.getElem?_eq_none (by omega)
  rw [hget] at hnone
  dsimp only at hnone
  rcases Nat.lt_or_ge (de - 1) (dp + n) with h1 | h1
  · rw [if_neg (by omega), if_pos (by omega)] at hnone
    exact Option.noConfusion hnone
  · rw [if_pos (by omega)] at hnone
    exact Option.noConfusion hnone

/-- **Exactly where `UpdatePossibleResource` faults.** On a table whose `Length` is its size, a run
faults if and only if the chosen template does not fit: steps 3 to 5 then store the byte before
`DataEndPtr`, past the end. So `ChosenTemplateFits` is the weakest condition that keeps every
access inside the table. -/
theorem updatePossibleResource_eq_none_iff {t : Buffer} {f : Bool}
    (hlen : tableLength t = some t.length) :
    updatePossibleResource ⟨t, f⟩ irq = none ↔ ¬ ChosenTemplateFits t irq := by
  refine ⟨not_chosenTemplateFits_of_eq_none hlen, fun hfit => ?_⟩
  simp only [ChosenTemplateFits, not_forall, not_le] at hfit
  obtain ⟨q, n, w, orig, f', hc, hle, hq, hend⟩ := hfit
  rcases hr : updatePossibleResource ⟨t, f⟩ irq with _ | ⟨st, s'⟩
  · rfl
  exfalso
  obtain ⟨len, hlen', hret | ⟨dp, de, n₁, s₁, hs, hd⟩⟩ := updatePossibleResource_eq_some hr
  · cases hlen.symm.trans hlen'
    exact LoopExit.noConfusion (scanTemplates_of_chosenTemplate hc hle hret)
  · cases hlen.symm.trans hlen'
    cases scanTemplates_of_chosenTemplate hc hle hs
    -- the template passes the `EFI_NOT_FOUND` check, so steps 3 to 5 ran and succeeded
    have hst : st = efiSuccess := by
      by_contra hst
      have := (patchDescriptor_not_success hd hst).2.2
      omega
    subst hst
    have hL : s₁.table.length = t.length := by
      rcases scanTemplates_brk_spec hs with ⟨rfl, -⟩ | ⟨_, _, _, -, -, -, -, hh⟩
      · rfl
      · exact hh.length_eq
    have := le_length_of_patchDescriptor hd (by omega) (by omega)
    omega

end Tcg2AcpiFfa
