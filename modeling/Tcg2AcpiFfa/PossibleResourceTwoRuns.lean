import Tcg2AcpiFfa.PossibleResourceBounds

/-!
# Two runs of `UpdatePossibleResource`

Two facts that compare runs of the `_PRS` patch. A run on its own output changes nothing, and
two runs with interrupt buffers of one size differ only in the interrupt numbers.

## A run on its own output

A successful `UpdatePossibleResource` leaves a table on which the same call, with the same
interrupts, succeeds again and changes nothing. The patched `_PRS` template is a fixed point of
the driver's rewrite: every store of the second run writes the byte that is already there, and
the `AML_NOOP_OP` fill is empty, because the template now ends right after its End Tag.

The proof runs the driver forward. The scans stop at the same first `RESS` (and `RESL`), since the
first run stores nothing below the chosen template's `PkgLength`. That template is chosen again,
now with `OriginalPkgLength = NewPkgLength`. The header stores of steps 1 and 2 and the descriptor
stores of steps 3 and 4 then find their values in place.

## The order of the two templates

When the first run patches the `RESL` template, the second run reads the first `RESS` again, and
the first run must not have written over it. The theorem asks that the first `RESS` of the scan
range come before its first `RESL`, in the order the SSDT declares the two names. Without it a
`RESL` template that holds the first `RESS` is filled with `AML_NOOP_OP`, and the second run looks
for another `RESS`.

## Runs with other interrupts

The driver reads the values in the interrupt buffer only to copy them (`CopyMem (DataPtr + 5,
IrqBuffer, IrqBuffserSize)`). The scans, the header stores, the `EFI_NOT_FOUND` check, the
descriptor's length and count, the End Tag and the fill read only the buffer's size. So two runs on
one table with buffers of one size return the same status and flag, and their tables agree outside
`S` consecutive bytes.

## Main results

* `resourceLoop_of_firstOccurrence` — a loop runs its body at the first occurrence of its tag
* `scanTemplates_eq_of_chosenTemplate` — the loops break at a chosen template that holds the new
  length, with its header patched: the converse of `scanTemplates_brk_spec`
* `ChosenTemplate.rerun` — a patched template is chosen again, with its new length as its old one
* `patchDescriptor_of_patchedTemplate` — steps 3 to 5 leave a patched template as it is
* `updatePossibleResource_idempotent` — a second run returns the patched table unchanged
* `scanTemplates_congr_size`, `patchDescriptor_congr_size` — the loops read only the size of the
  interrupt buffer, and steps 3 to 5 read its values only to copy them
* `updatePossibleResource_interrupts_only` — two runs with buffers of one size differ only in
  the interrupt numbers
-/

namespace Tcg2AcpiFfa

variable {irq : PossibleIrqBuf} {s s' : PrsState} {len p : ℕ}

/-! ### The scans -/

/-- A first occurrence depends only on the bytes before the end of the tag there. -/
theorem FirstOccurrence.of_agree {b b' : Buffer} {tag : List UInt8} {start count : ℕ}
    (hp : FirstOccurrence b tag start count p) (h : ∀ i < p + tag.length, b'[i]? = b[i]?) :
    FirstOccurrence b' tag start count p := by
  have hocc : ∀ {q}, q ≤ p → (OccursAt b' q tag ↔ OccursAt b q tag) := fun hq =>
    forall₂_congr fun i hi => by rw [h _ (by omega)]
  exact ⟨hp.1, hp.2.1, (hocc le_rfl).2 hp.2.2.1,
    fun q h1 h2 => by rw [hocc h2.le]; exact hp.2.2.2 q h1 h2⟩

/-- A loop whose tag occurs in the scan range runs its body at the first occurrence, whatever
the bytes after it hold. -/
theorem resourceLoop_of_firstOccurrence {tag : List UInt8}
    {body : PrsState → ℕ → Option (LoopExit × PrsState)} {de n : ℕ}
    (hp : FirstOccurrence s.table tag acpiHeaderSize (resourceScanCount len) p) :
    resourceLoop tag body s len de n = body s p := by
  have hscan : scanFirst (fun p => (compareMem s.table p tag).map (· == 0)) acpiHeaderSize
      (resourceScanCount len) = some (some p) := by
    refine scanFirst_eq_some_some_iff.2 ⟨hp.1, hp.2.1,
      by simp [compareMem_eq_some_zero_iff.2 hp.2.2.1], fun q h1 h2 => ?_⟩
    -- each compare before `p` stays inside the buffer, and finds a difference
    have hq : q + tag.length ≤ s.table.length := by
      rcases Nat.eq_zero_or_pos tag.length with h0 | h0
      · exact absurd (fun i hi => absurd hi (by omega)) (hp.2.2.2 q h1 h2)
      · have := hp.2.2.1.add_length_le h0; omega
    obtain ⟨x, hx⟩ := Option.isSome_iff_exists.1 (compareMem_isSome hq)
    have hx0 : x ≠ 0 := fun h0 => hp.2.2.2 q h1 h2 (compareMem_eq_some_zero_iff.1 (h0 ▸ hx))
    simp [hx, hx0]
  unfold resourceLoop
  rw [Option.bind_eq_bind, hscan, Option.some_bind]

/-- `RESS` and `RESL` begin alike but do not overlap when shifted: a `RESL` after a `RESS` starts
at least four bytes later. -/
theorem OccursAt.ress_add_four_le {t : Buffer} {p' : ℕ} (h : OccursAt t p tpmPrsRess)
    (h' : OccursAt t p' tpmPrsResl) (hlt : p < p') : p + 4 ≤ p' := by
  by_contra hne
  have hk := h (p' - p) (by simp only [tpmPrsRess, List.length_cons, List.length_nil]; omega)
  have h0 := h' 0 (by decide)
  rw [Nat.add_zero, ← Nat.add_sub_cancel' hlt.le, hk] at h0
  obtain h1 | h1 | h1 : p' - p = 1 ∨ p' - p = 2 ∨ p' - p = 3 := by omega
  all_goals rw [h1] at h0; exact absurd h0 (by decide)

/-! ### The loops on a chosen template -/

/-- A known `BufferSize` prefix was read inside the buffer: reading past the end gives `0`. -/
theorem lt_length_of_bufferSizeLength {t : Buffer} {i w : ℕ}
    (h : bufferSizeLength (t.getD i 0) = some w) : i < t.length := by
  by_contra hi
  rw [List.getD_eq_getElem?_getD, List.getElem?_eq_none (by omega)] at h
  cases h

theorem getElem?_eq_some_getD {t : Buffer} {i : ℕ} (h : i < t.length) :
    t[i]? = some (t.getD i 0) := by
  rw [List.getD_eq_getElem?_getD, List.getElem?_eq_getElem h]
  rfl

/-- At a `RESS` whose new length is above 63, the first loop breaks without a store. -/
theorem ressBody_eq_of_gt {lead pre : UInt8} {w : ℕ} (hlead : s.table[p + 5]? = some lead)
    (h64 : lead.toNat < 64) (hpre : s.table[p + 6]? = some pre) (hw : bufferSizeLength pre = some w)
    (h63 : 63 < 1 + w + (19 + irq.size)) :
    ressBody irq s p = some (.brk (p + 5) (p + 5 + lead.toNat) (1 + w + (19 + irq.size)), s) := by
  simp only [ressBody, tpmPrsResNameSize, show p + 4 + 1 = p + 5 from rfl,
    show p + 5 + 1 = p + 6 from rfl, hlead, hpre, hw, Option.bind_eq_bind, Option.some_bind,
    if_pos ((and_c0_eq_zero_iff lead).2 h64), if_pos h63]
  rfl

/-- **The loops on a chosen template.** When the old `PkgLength` of a chosen template holds the
new one, the two loops break there, with `DataEndPtr` at the end of the old template, the header
stores of steps 1.1 and 1.2 (or 2.1 and 2.2) made, and `*IsShortFormPkgLength` set. -/
theorem scanTemplates_eq_of_chosenTemplate {t : Buffer} {q n w orig : ℕ} {f g : Bool}
    (hc : ChosenTemplate t len irq q n w orig f) (hle : 1 + n + w + (19 + irq.size) ≤ orig)
    (hL : q + 6 ≤ t.length) :
    ∃ t₁, scanTemplates irq ⟨t, g⟩ len =
        some (.brk q (q + orig) (1 + n + w + (19 + irq.size)), ⟨t₁, f⟩) ∧
      HeaderPatched t t₁ irq q n w := by
  have hexit : ∀ {e s₁}, scanTemplates irq ⟨t, g⟩ len = some (e, s₁) →
      e = .brk q (q + orig) (1 + n + w + (19 + irq.size)) :=
    fun hs => scanTemplates_of_chosenTemplate hc hle hs
  cases hc with
  | @short p w hp h64 hw h63 =>
    obtain ⟨⟨e, s₁⟩, hb⟩ := Option.isSome_iff_exists.1
      (@ressBody_isSome irq ⟨t, g⟩ p (by dsimp only; omega))
    cases e with
    | ret st => have := ressBody_ret_of_known hb h64 hw; dsimp only at this; omega
    | brk dp de n₁ =>
      obtain ⟨rfl, rfl, rfl, -⟩ := ressBody_brk_of_known hb hw
      obtain ⟨-, -, -, -, -, -, -, -, -, -, ⟨h63', -⟩ | ⟨-, -, hshort, hlen₁, hpt⟩⟩ :=
        ressBody_brk hb
      · omega
      refine ⟨s₁.table, ?_, hlen₁, ?_, fun h => absurd h (by omega), ?_, fun i h1 _ h3 => ?_⟩
      · rw [scanTemplates, Option.bind_eq_bind,
          resourceLoop_of_firstOccurrence (s := ⟨t, g⟩) hp, hb, Option.some_bind]
        dsimp only
        rw [if_neg (by omega)]
        obtain ⟨t₁, f₁⟩ := s₁
        cases hshort
        simp
      · rw [hpt, if_neg (by omega), if_pos rfl]; simp
      · rw [hpt, if_pos rfl]
      · rw [hpt, if_neg (by omega), if_neg (by omega)]
  | @long p w₀ p' w hp h64 hw₀ h63 hp' h64' hw =>
    have h6 := lt_length_of_bufferSizeLength hw₀
    obtain ⟨⟨e, s₁⟩, hb⟩ := Option.isSome_iff_exists.1
      (@reslBody_isSome irq ⟨t, g⟩ p' (by dsimp only; omega))
    -- the first loop breaks at `p` without a store, and the second one runs at `p'`
    have hs : scanTemplates irq ⟨t, g⟩ len = some (e, s₁) := by
      rw [scanTemplates, Option.bind_eq_bind, resourceLoop_of_firstOccurrence (s := ⟨t, g⟩) hp,
        ressBody_eq_of_gt (s := ⟨t, g⟩) (getElem?_eq_some_getD (t := t) (by omega)) h64
          (getElem?_eq_some_getD h6) hw₀ h63, Option.some_bind]
      dsimp only
      rw [if_pos h63, resourceLoop_of_firstOccurrence (s := ⟨t, g⟩) hp', hb]
    obtain rfl := hexit hs
    obtain ⟨lead, -, -, -, hl, -, -, -, -, -, -, -, -, hlong, hlen₁, hpt⟩ := reslBody_brk hb
    have hk : 0 < lead.toNat / 64 := by rw [getD_of_getElem? hl] at h64'; omega
    refine ⟨s₁.table, by rw [hs]; obtain ⟨t₁, f₁⟩ := s₁; cases hlong; rfl, ?_⟩
    rw [getD_of_getElem? hl] at hpt ⊢
    refine ⟨hlen₁, ?_, fun _ => ?_, ?_, fun i h1 h2 h3 => ?_⟩
    · rw [hpt, if_neg (by omega), if_neg (by omega), if_pos rfl, if_neg (by omega),
        getD_of_getElem? hl]
    · rw [hpt, if_neg (by omega), if_pos rfl]
    · rw [hpt, if_pos (by omega)]
    · rw [hpt, if_neg (by omega), if_neg (h2 hk).symm, if_neg (by omega)]

/-! ### The patched template, chosen again -/

section Rerun

variable {t t₁ t' : Buffer} {q n w : ℕ} (hh : HeaderPatched t t₁ irq q n w)
  (hlow : ∀ i ≤ q + 2 + n, t'[i]? = t₁[i]?)
include hh hlow

/-- Below the `BufferSize` data, a table that agrees with the patched header holds the old bytes,
except for the `PkgLength` bytes the header stores rewrote. -/
theorem HeaderPatched.getElem?_low {i : ℕ} (hi : i ≤ q + 1 + n) (h0 : i ≠ q)
    (h1 : 0 < n → i ≠ q + 1) : t'[i]? = t[i]? :=
  (hlow i (by omega)).trans (hh.frame i h0 h1 (by omega))

/-- The lead byte of a patched `PkgLength`, read back: in the long form it keeps bits 7-6 of the
old one. -/
theorem HeaderPatched.lead_toNat (hn : 0 < n) :
    (t'.getD q 0).toNat = (t.getD q 0).toNat / 16 * 16 + (1 + n + w + (19 + irq.size)) % 16 := by
  have := toNat_lt_256 (t.getD q 0)
  rw [getD_of_getElem? ((hlow q (by omega)).trans hh.lead), if_neg (by omega), toNat_toUInt8,
    Nat.mod_eq_of_lt (by omega)]

/-- Patching a patched header again changes nothing: the lead byte, its follow byte and the
`BufferSize` byte already hold what the stores write. -/
theorem HeaderPatched.rerun_eq {t₂ : Buffer} (hh₂ : HeaderPatched t' t₂ irq q n w) : t₂ = t' := by
  refine List.ext_getElem? fun i => ?_
  by_cases h0 : i = q
  · subst h0
    rw [hh₂.lead, hlow i (by omega), hh.lead]
    rcases Nat.eq_zero_or_pos n with rfl | hn
    · rfl
    · rw [if_neg (by omega), if_neg (by omega), hh.lead_toNat hlow hn]
      congr 2
      omega
  by_cases h1 : 0 < n ∧ i = q + 1
  · rw [h1.2, hh₂.follow h1.1, hlow _ (by omega), hh.follow h1.1]
  by_cases h2 : i = q + 2 + n
  · rw [h2, hh₂.bufferSize, hlow _ le_rfl, hh.bufferSize]
  · exact hh₂.frame i h0 (fun hn h => h1 ⟨hn, h⟩) h2

/-- **The patched template is chosen again.** After a run that patched the template at `q`, the
same template is chosen, now with `OriginalPkgLength = NewPkgLength`: the run stores nothing
before `q` and keeps the `PkgLength` form and the `BufferSize` prefix. A patched `RESL` needs the
first `RESS` before it, so that the `RESS` header is kept too. -/
theorem ChosenTemplate.rerun {orig : ℕ} {f : Bool} (hc : ChosenTemplate t len irq q n w orig f)
    (hord : ∀ p p', FirstOccurrence t tpmPrsRess acpiHeaderSize (resourceScanCount len) p →
      FirstOccurrence t tpmPrsResl acpiHeaderSize (resourceScanCount len) p' → p < p') :
    ChosenTemplate t' len irq q n w (1 + n + w + (19 + irq.size)) f := by
  have hbelow : ∀ i < q, t'[i]? = t[i]? :=
    fun i hi => hh.getElem?_low hlow (by omega) (by omega) (fun _ => by omega)
  have hocc : ∀ {p₀ : ℕ}, p₀ + 5 ≤ q → ∀ i < p₀ + 4, t'[i]? = t[i]? :=
    fun hp₀ i hi => hbelow i (by omega)
  have hw5 := (bufferSizeLength_eq_some hc.facts.1).2.2
  have hS := irq.size_le_sixty
  cases hc with
  | @short p w hp h64 hw h63 =>
    have hq : (t'.getD (p + 5) 0).toNat = 1 + 0 + w + (19 + irq.size) := by
      rw [getD_of_getElem? ((hlow _ (by omega)).trans hh.lead), if_pos rfl, toNat_toUInt8,
        Nat.mod_eq_of_lt (by omega)]
    have := ChosenTemplate.short (hp.of_agree (hocc le_rfl)) (by omega)
      (by rwa [getD_eq_of_getElem?_eq (hh.getElem?_low hlow (i := p + 6) (by omega) (by omega)
        (fun _ => by omega))]) h63
    rwa [hq] at this
  | @long p w₀ p' w hp h64 hw₀ h63 hp' h64' hw =>
    have h4 := hp.2.2.1.ress_add_four_le hp'.2.2.1 (hord p p' hp hp')
    have hb := toNat_lt_256 (t.getD (p' + 5) 0)
    have hq := hh.lead_toNat hlow (by omega)
    have hq1 : (t'.getD (p' + 6) 0).toNat =
        (1 + (t.getD (p' + 5) 0).toNat / 64 + w + (19 + irq.size)) / 16 := by
      rw [getD_of_getElem? ((hlow _ (by omega)).trans (hh.follow (by omega))), toNat_toUInt8,
        Nat.mod_eq_of_lt (by omega)]
    have hdiv : (t'.getD (p' + 5) 0).toNat / 64 = (t.getD (p' + 5) 0).toNat / 64 := by omega
    have hlong : longPkgLength (t'.getD (p' + 5) 0) (t'.getD (p' + 6) 0) =
        1 + (t.getD (p' + 5) 0).toNat / 64 + w + (19 + irq.size) := by
      rw [longPkgLength_eq, hq1]; omega
    have := ChosenTemplate.long (hp.of_agree (hocc (by omega)))
      (by rwa [getD_eq_of_getElem?_eq (hbelow (p + 5) (by omega))])
      (by rwa [getD_eq_of_getElem?_eq (hbelow (p + 6) (by omega))]) h63
      (hp'.of_agree (hocc le_rfl)) (by omega)
      (by rwa [hdiv, getD_eq_of_getElem?_eq (hh.getElem?_low hlow (by omega) (by omega)
        (fun _ => by omega))])
    rwa [hlong, hdiv] at this

end Rerun

/-! ### Steps 3 to 5 on a patched template -/

/-- A store of the byte that is already there leaves the buffer as it was. -/
theorem writeByte_of_getElem? {b : Buffer} {i : ℕ} {v : UInt8} (h : b[i]? = some v) :
    writeByte b i v = some b := by
  have hi : i < b.length := by
    by_contra hc
    rw [List.getElem?_eq_none (by omega)] at h
    cases h
  rw [writeByte, if_pos hi]
  refine congrArg some (List.ext_getElem? fun j => ?_)
  rw [List.getElem?_set]
  split
  · subst_vars; exact h.symm
  · rfl

/-- A block store of the bytes that are already there leaves the buffer as it was. -/
theorem writeBytes_of_occursAt {b : Buffer} {i : ℕ} {vs : List UInt8} (h : OccursAt b i vs) :
    writeBytes b i vs = some b := by
  induction vs generalizing i with
  | nil => rfl
  | cons v vs ih =>
    obtain ⟨h0, h1⟩ := occursAt_cons.1 h
    rw [writeBytes, writeByte_of_getElem? h0, Option.some_bind, ih h1]

/-- A patched template ends inside the buffer: its End Tag checksum was stored there. -/
theorem PatchedTemplate.add_le_length {t₀ t : Buffer} {q n w orig : ℕ}
    (hpt : PatchedTemplate t₀ t irq q n w orig) : q + (1 + n + w + (19 + irq.size)) ≤ t.length := by
  have h := hpt.endTagChecksum
  by_contra hc
  rw [List.getElem?_eq_none (by omega)] at h
  cases h

/-- **Steps 3 to 5 on a patched template.** On a template that already holds the interrupt
descriptor and End Tag for `irq`, and whose `DataEndPtr` is right after them, the descriptor
stores write what is there and the `AML_NOOP_OP` fill is empty. -/
theorem patchDescriptor_of_patchedTemplate {t₀ t : Buffer} {q n w orig : ℕ} {f : Bool}
    (hpt : PatchedTemplate t₀ t irq q n w orig)
    (hb : q + (tpmPrsResNameSize + tpmPosResTemplateMinSize) < len) :
    patchDescriptor irq ⟨t, f⟩ len q (q + (1 + n + w + (19 + irq.size)))
      (1 + n + w + (19 + irq.size)) = some (efiSuccess, ⟨t, f⟩) := by
  have hL := hpt.add_le_length
  have hck : t[q + 1 + n + w + 12 + 5 + irq.size + 1]? = some 0 := by
    rw [show q + 1 + n + w + 12 + 5 + irq.size + 1 = q + 1 + n + w + 18 + irq.size by omega]
    exact hpt.endTagChecksum
  unfold patchDescriptor stuffNoop
  dsimp only
  rw [if_neg (by omega),
    show q + (1 + n + w + (19 + irq.size) - (5 + irq.size + 2)) = q + 1 + n + w + 12 by omega]
  simp only [Option.bind_eq_bind, copyMem,
    writeByte_of_getElem? (i := q + 1 + n + w + 12 + 1) hpt.descriptorLength,
    writeByte_of_getElem? (i := q + 1 + n + w + 12 + 4) hpt.interruptCount,
    writeBytes_of_occursAt (i := q + 1 + n + w + 12 + 5) hpt.interrupts,
    writeByte_of_getElem? (i := q + 1 + n + w + 12 + 5 + irq.size) hpt.endTag,
    writeByte_of_getElem? hck, Option.some_bind,
    if_neg (show ¬ q + 1 + n + w + 12 + 5 + irq.size + 2 < q + (1 + n + w + (19 + irq.size)) by
      omega)]
  rfl

/-! ### A second run -/

/-- **A second run changes nothing.** After a successful `UpdatePossibleResource`, the same call
on the patched table, with the same interrupts, succeeds again and returns the same table and
the same `*IsShortFormPkgLength`, whatever that flag held before. When the first run patched the
`RESL` template, the first `RESS` of the scan range must come before the first `RESL`. -/
theorem updatePossibleResource_idempotent {t : Buffer} {f g : Bool}
    (hlen : tableLength t = some len)
    (hord : ∀ p p', FirstOccurrence t tpmPrsRess acpiHeaderSize (resourceScanCount len) p →
      FirstOccurrence t tpmPrsResl acpiHeaderSize (resourceScanCount len) p' → p < p')
    (h : updatePossibleResource ⟨t, f⟩ irq = some (efiSuccess, s')) :
    updatePossibleResource ⟨s'.table, g⟩ irq = some (efiSuccess, s') := by
  obtain ⟨len₀, q, n, w, orig, t₁, hlen₀, hc, hle, hh, hd⟩ := updatePossibleResource_success_spec h
  obtain rfl : len = len₀ := Option.some.inj (hlen.symm.trans hlen₀)
  have hpt := patchedTemplate_of hh hc.two_le_w hle hd
  have hlow : ∀ i ≤ q + 2 + n, s'.table[i]? = t₁[i]? := fun i hi =>
    patchDescriptor_keeps_low hd (.inl (by omega))
  -- the same template is chosen, and its header stores find their bytes in place
  obtain ⟨t₂, hs, hh₂⟩ := scanTemplates_eq_of_chosenTemplate (g := g) (hc.rerun hh hlow hord)
    le_rfl (by have := hpt.add_le_length; omega)
  obtain rfl := hh.rerun_eq hlow hh₂
  -- `Length` lies below the template
  obtain ⟨p, rfl, h36, -⟩ := hc.anchor
  have hlen' : tableLength s'.table = some len := by
    rw [← hlen]
    exact EditedWithin.tableLength_eq ⟨hpt.length_eq, hpt.frame⟩ (by simp only [acpiHeaderSize] at h36; omega)
  rw [updatePossibleResource, Option.bind_eq_bind, hlen', Option.some_bind, Option.bind_eq_bind, hs,
    Option.some_bind]
  exact patchDescriptor_of_patchedTemplate hpt (patchDescriptor_success hd).1

set_option maxRecDepth 10000 in
/-- The sample table, patched for two interrupts, is patched again to itself. -/
theorem sampleSsdt_idempotent :
    tableLength sampleSsdt = some 164 ∧
      (∀ p p', FirstOccurrence sampleSsdt tpmPrsRess acpiHeaderSize (resourceScanCount 164) p →
        FirstOccurrence sampleSsdt tpmPrsResl acpiHeaderSize (resourceScanCount 164) p' →
          p < p') ∧
      ∃ s', updatePossibleResource ⟨sampleSsdt, false⟩ sampleIrq = some (efiSuccess, s') ∧
        updatePossibleResource ⟨s'.table, false⟩ sampleIrq = some (efiSuccess, s') := by
  obtain ⟨⟨st, s'⟩, hs, hst⟩ := Option.map_eq_some'.1 sampleSsdt_run
  cases hst
  have hlen : tableLength sampleSsdt = some 164 := by decide
  -- `RESS` is at the start of the scan range, and `RESL` is not
  have hord : ∀ p p', FirstOccurrence sampleSsdt tpmPrsRess acpiHeaderSize (resourceScanCount 164) p →
      FirstOccurrence sampleSsdt tpmPrsResl acpiHeaderSize (resourceScanCount 164) p' → p < p' :=
    fun p p' hp hp' => by
      have h1 : p ≤ 36 := by
        by_contra hc
        exact hp.2.2.2 36 le_rfl (by omega) (by decide)
      have h2 : p' ≠ 36 := by
        rintro rfl
        exact absurd hp'.2.2.1 (by decide)
      have := hp'.1
      simp only [acpiHeaderSize] at this
      omega
  exact ⟨hlen, hord, s', hs, updatePossibleResource_idempotent hlen hord hs⟩

/-! ### Runs with other interrupts -/

/-- The two loops read the interrupt buffer only through its size. -/
theorem scanTemplates_congr_size {irq' : PossibleIrqBuf} (hsz : irq.size = irq'.size) :
    scanTemplates irq = scanTemplates irq' := by
  have hress : ressBody irq = ressBody irq' := by
    funext s p
    simp only [ressBody, hsz]
  have hresl : reslBody irq = reslBody irq' := by
    funext s p
    simp only [reslBody, hsz]
  funext s len
  simp only [scanTemplates, hress, hresl]

/-- Steps 3 to 5 with two interrupt buffers of one size return the same status and flag, and
write the same bytes outside the `S` bytes of the interrupt numbers. -/
theorem patchDescriptor_congr_size {irq' : PossibleIrqBuf} {dp de n : ℕ} {s₁ s₂ : PrsState}
    {st st' : EfiStatus} (hsz : irq.size = irq'.size)
    (h : patchDescriptor irq s len dp de n = some (st, s₁))
    (h' : patchDescriptor irq' s len dp de n = some (st', s₂)) :
    st = st' ∧ s₁.isShortFormPkgLength = s₂.isShortFormPkgLength ∧
      ∀ i, i < dp + (n - (5 + irq.size + 2)) + 5 ∨
        dp + (n - (5 + irq.size + 2)) + 5 + irq.size ≤ i → s₁.table[i]? = s₂.table[i]? := by
  by_cases hst : st = efiSuccess
  · subst hst
    obtain ⟨hb, hf, -, hpt⟩ := patchDescriptor_success h
    obtain rfl : st' = efiSuccess := by
      by_contra hne
      have := (patchDescriptor_not_success h' hne).2.2
      omega
    obtain ⟨-, hf', -, hpt'⟩ := patchDescriptor_success h'
    refine ⟨rfl, hf.trans hf'.symm, fun i hi => ?_⟩
    -- the copy of the interrupt numbers is the one branch that reads the buffer's values
    have hD : ¬ (dp + (n - (5 + irq'.size + 2)) + 5 ≤ i ∧
        i < dp + (n - (5 + irq'.size + 2)) + 5 + irq'.size) := by
      rw [← hsz]; omega
    rw [hpt i, hpt' i]
    simp only [hsz, hD, if_false]
  · obtain ⟨rfl, rfl, hb⟩ := patchDescriptor_not_success h hst
    have hst' : st' ≠ efiSuccess := fun he => by
      subst he
      have := (patchDescriptor_success h').1
      omega
    obtain ⟨rfl, rfl, -⟩ := patchDescriptor_not_success h' hst'
    exact ⟨rfl, rfl, fun _ _ => rfl⟩

/-- **The interrupt numbers reach only the interrupt table.** Two runs of
`UpdatePossibleResource` on one table, with interrupt buffers of the same size, return the same
status and the same `*IsShortFormPkgLength`, and leave tables that agree at every byte outside
`S` consecutive bytes: the choice of template, the header and descriptor stores and the fill
depend on the size of the buffer, not on the interrupts it holds. -/
theorem updatePossibleResource_interrupts_only {t : Buffer} {f : Bool} {irq' : PossibleIrqBuf}
    {st st' : EfiStatus} {s₁ s₂ : PrsState} (hsz : irq.size = irq'.size)
    (h : updatePossibleResource ⟨t, f⟩ irq = some (st, s₁))
    (h' : updatePossibleResource ⟨t, f⟩ irq' = some (st', s₂)) :
    st = st' ∧ s₁.isShortFormPkgLength = s₂.isShortFormPkgLength ∧
      ∃ a, ∀ i, i < a ∨ a + irq.size ≤ i → s₁.table[i]? = s₂.table[i]? := by
  obtain ⟨len, hlen, hr⟩ := updatePossibleResource_eq_some h
  obtain ⟨len', hlen', hr'⟩ := updatePossibleResource_eq_some h'
  obtain rfl : len = len' := Option.some.inj (hlen.symm.trans hlen')
  -- both runs see the same loops
  rw [← scanTemplates_congr_size hsz] at hr'
  rcases hr with hs | ⟨dp, de, n, s₀, hs, hd⟩ <;> rcases hr' with hs' | ⟨dp', de', n', s₀', hs', hd'⟩
  · obtain ⟨rfl, rfl⟩ : st = st' ∧ s₁ = s₂ := by simpa using hs.symm.trans hs'
    exact ⟨rfl, rfl, 0, fun _ _ => rfl⟩
  · exact absurd (hs.symm.trans hs') (by simp)
  · exact absurd (hs.symm.trans hs') (by simp)
  · obtain ⟨⟨rfl, rfl, rfl⟩, rfl⟩ : (dp = dp' ∧ de = de' ∧ n = n') ∧ s₀ = s₀' := by
      simpa using hs.symm.trans hs'
    obtain ⟨h1, h2, h3⟩ := patchDescriptor_congr_size hsz hd hd'
    exact ⟨h1, h2, _, h3⟩

/-- Two interrupts, `0x42` and `0x43`: a buffer of the size of `sampleIrq`. -/
def otherIrq : PossibleIrqBuf := ⟨[0x42, 0, 0, 0, 0x43, 0, 0, 0], by decide, by decide⟩

set_option maxRecDepth 10000 in
/-- The sample table patched for two different pairs of interrupts. -/
theorem sampleSsdt_interrupts_only :
    sampleIrq.size = otherIrq.size ∧
      ∃ s₁ s₂, updatePossibleResource ⟨sampleSsdt, false⟩ sampleIrq = some (efiSuccess, s₁) ∧
        updatePossibleResource ⟨sampleSsdt, false⟩ otherIrq = some (efiSuccess, s₂) ∧
        s₁.isShortFormPkgLength = s₂.isShortFormPkgLength ∧
        ∃ a, ∀ i, i < a ∨ a + sampleIrq.size ≤ i → s₁.table[i]? = s₂.table[i]? := by
  obtain ⟨⟨st, s₁⟩, hs, hst⟩ := Option.map_eq_some'.1 sampleSsdt_run
  cases hst
  obtain ⟨⟨st', s₂⟩, hs', hst'⟩ := Option.map_eq_some'.1
    (show (updatePossibleResource ⟨sampleSsdt, false⟩ otherIrq).map Prod.fst = some efiSuccess by
      decide)
  cases hst'
  have hsz : sampleIrq.size = otherIrq.size := rfl
  exact ⟨hsz, s₁, s₂, hs, hs', (updatePossibleResource_interrupts_only hsz hs hs').2⟩

end Tcg2AcpiFfa
