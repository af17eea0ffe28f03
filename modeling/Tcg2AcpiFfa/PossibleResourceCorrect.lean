import Tcg2AcpiFfa.PossibleResource

/-!
# What `UpdatePossibleResource` leaves in the table

`UpdatePossibleResource` picks a template by its name and by how many interrupts it must hold,
rewrites the two length fields in front of it, and rebuilds the interrupt descriptor behind the
`Memory32Fixed` descriptor it keeps. This file states which template it picks
(`ChosenTemplate`), what it writes there (`PatchedTemplate`), how the rewritten length fields
decode by the AML rules (`DecodedLengths`), and what a failed call leaves behind. The
`EFI_NOT_FOUND` check comes after the loops have rewritten the template's header, so a failed
call does not always leave the table as it was.

## Main definitions

* `ChosenTemplate` — the first `RESS`, or the first `RESL` when `RESS` is too short
* `HeaderPatched`, `PatchedTemplate` — the template after the rewrite
* `DecodedLengths` — its length fields as the AML and resource rules read them

## Main results

* `scanTemplates_brk_spec` — what the two loops leave, taken apart once
* `updatePossibleResource_patches_chosen_template` — a successful run patches the chosen template
* `updatePossibleResource_length_fields` — how its length fields decode, with all of their bytes
* `updatePossibleResource_failure` — what a failed run leaves, and when it is not the old table
* `updatePossibleResource_success_iff` — exactly when a run succeeds
-/

namespace Tcg2AcpiFfa

variable {irq : PossibleIrqBuf} {s s' : PrsState} {len dp de n : ℕ} {st : EfiStatus}

/-! ### The template that is patched -/

/-- The template `UpdatePossibleResource` patches in a table of header length `len`: its
`PkgLength` at `q`, with `n` follow bytes, a `BufferSize` of `w` bytes (prefix included) and
`OriginalPkgLength` `orig`, together with what it leaves in `*IsShortFormPkgLength`. -/
inductive ChosenTemplate (t : Buffer) (len : ℕ) (irq : PossibleIrqBuf) :
    ℕ → ℕ → ℕ → ℕ → Bool → Prop
  /-- The first `RESS`, when its required length is at most 63. -/
  | short {p w : ℕ} :
      FirstOccurrence t tpmPrsRess acpiHeaderSize (resourceScanCount len) p →
      (t.getD (p + 5) 0).toNat < 64 → bufferSizeLength (t.getD (p + 6) 0) = some w →
      1 + w + (19 + irq.size) ≤ 63 →
      ChosenTemplate t len irq (p + 5) 0 w (t.getD (p + 5) 0).toNat true
  /-- The first `RESL`, when the first `RESS` would need more than 63. -/
  | long {p w p' w' : ℕ} :
      FirstOccurrence t tpmPrsRess acpiHeaderSize (resourceScanCount len) p →
      (t.getD (p + 5) 0).toNat < 64 → bufferSizeLength (t.getD (p + 6) 0) = some w →
      63 < 1 + w + (19 + irq.size) →
      FirstOccurrence t tpmPrsResl acpiHeaderSize (resourceScanCount len) p' →
      64 ≤ (t.getD (p' + 5) 0).toNat →
      bufferSizeLength (t.getD (p' + 6 + (t.getD (p' + 5) 0).toNat / 64) 0) = some w' →
      ChosenTemplate t len irq (p' + 5) ((t.getD (p' + 5) 0).toNat / 64) w'
        (longPkgLength (t.getD (p' + 5) 0) (t.getD (p' + 6) 0)) false

/-- The front of the template at `q` after steps 1.1 and 1.2, or 2.1 and 2.2: the new `PkgLength`
lead byte, its first follow byte in the long form, and the lowest `BufferSize` byte, with every
other byte as it was. -/
structure HeaderPatched (t t₁ : Buffer) (irq : PossibleIrqBuf) (q n w : ℕ) : Prop where
  /-- The buffer keeps its length. -/
  length_eq : t₁.length = t.length
  /-- The lead byte: `NewPkgLength`, or its low nibble under the old bits 7-4. -/
  lead : t₁[q]? = some (if n = 0 then 1 + n + w + (19 + irq.size)
    else (t.getD q 0).toNat / 16 * 16 + (1 + n + w + (19 + irq.size)) % 16).toUInt8
  /-- The first follow byte: bits 11-4 of `NewPkgLength`. -/
  follow : 0 < n → t₁[q + 1]? = some ((1 + n + w + (19 + irq.size)) / 16).toUInt8
  /-- The lowest `BufferSize` byte. -/
  bufferSize : t₁[q + 2 + n]? = some (irq.size + 19).toUInt8
  /-- Every other byte is kept. -/
  frame : ∀ i, i ≠ q → (0 < n → i ≠ q + 1) → i ≠ q + 2 + n → t₁[i]? = t[i]?

/-- The template at `q` of `t`, with `n` follow bytes, a `BufferSize` of `w` bytes and original
length `orig`, as a successful `UpdatePossibleResource` leaves it in `t'` for `irq`. -/
structure PatchedTemplate (t t' : Buffer) (irq : PossibleIrqBuf) (q n w orig : ℕ) : Prop where
  /-- The buffer keeps its length. -/
  length_eq : t'.length = t.length
  /-- `NewPkgLength` fits in the old template. -/
  size_le : 1 + n + w + (19 + irq.size) ≤ orig
  /-- Nothing outside `[q, q + OriginalPkgLength)` changes. -/
  frame : ∀ i, i < q ∨ q + orig ≤ i → t'[i]? = t[i]?
  /-- The 12 bytes of `Memory32Fixed` are kept. -/
  memory32Fixed : ∀ i < 12, t'[q + 1 + n + w + i]? = t[q + 1 + n + w + i]?
  /-- Byte 1 of the interrupt descriptor, the low length byte. -/
  descriptorLength : t'[q + 1 + n + w + 13]? = some (2 + irq.size).toUInt8
  /-- Byte 4 of the interrupt descriptor, the interrupt table length. -/
  interruptCount : t'[q + 1 + n + w + 16]? = some (irq.size / 4).toUInt8
  /-- The interrupt numbers, as the caller's buffer holds them. -/
  interrupts : ∀ i < irq.size, t'[q + 1 + n + w + 17 + i]? = irq.bytes[i]?
  /-- The End Tag right after them, with a zero checksum. -/
  endTag : t'[q + 1 + n + w + 17 + irq.size]? = some acpiEndTagDescriptor
  endTagChecksum : t'[q + 1 + n + w + 18 + irq.size]? = some 0
  /-- Every later byte of the old template is `AML_NOOP_OP`. -/
  noopFill : ∀ i, 1 + n + w + (19 + irq.size) ≤ i → i < orig → t'[q + i]? = some amlNoopOp

/-- The length fields of the template at `q`, as the AML and resource rules read them with all of
their bytes in `t'`: each is the value the driver meant, plus what the bytes it does not write
still hold in `t`. -/
structure DecodedLengths (t t' : Buffer) (irq : PossibleIrqBuf) (q n w orig : ℕ) : Prop where
  /-- The `PkgLength`: `NewPkgLength`, plus the follow bytes past the first. -/
  pkgLength : amlPkgLength t' q = 1 + n + w + (19 + irq.size) + 4096 * leAt t (q + 2) (n - 1)
  /-- The `BufferSize`: `19 + S`, plus its data bytes past the first. -/
  bufferSize : amlInteger t' (q + 1 + n) = 19 + irq.size + 256 * leAt t (q + 3 + n) (w - 2)
  /-- The interrupt descriptor's length: `2 + S`, plus its old high byte. -/
  interruptLength : descriptorLength t' (q + 1 + n + w + 12) =
    2 + irq.size + 256 * (t.getD (q + 1 + n + w + 14) 0).toNat
  /-- The driver's `OriginalPkgLength` misses the same follow bytes of the old `PkgLength`. -/
  originalPkgLength : orig + 4096 * leAt t (q + 2) (n - 1) = amlPkgLength t q

/-- What the choice of a template says about it, in the terms of `q`, `n` and `w`. -/
theorem ChosenTemplate.facts {t : Buffer} {q n w orig : ℕ} {f : Bool}
    (hc : ChosenTemplate t len irq q n w orig f) :
    bufferSizeLength (t.getD (q + 1 + n) 0) = some w ∧ n = (t.getD q 0).toNat / 64 ∧
      (n = 0 → 1 + n + w + (19 + irq.size) ≤ 63) ∧
      orig + 4096 * leAt t (q + 2) (n - 1) = amlPkgLength t q := by
  cases hc with
  | @short p w _ h64 hw h63 =>
    refine ⟨hw, (Nat.div_eq_of_lt h64).symm, fun _ => by omega, ?_⟩
    rw [amlPkgLength_short h64]; rfl
  | @long p w p' w' _ _ _ _ _ h64 hw' =>
    refine ⟨by rwa [show p' + 5 + 1 = p' + 6 by omega], rfl, fun h => by omega, ?_⟩
    rw [amlPkgLength_long h64, longPkgLength_eq,
      show (t.getD (p' + 5) 0).toNat / 64 = ((t.getD (p' + 5) 0).toNat / 64 - 1) + 1 by omega]
    simp only [leAt, Nat.add_sub_cancel, show p' + 5 + 1 + 1 = p' + 5 + 2 from rfl,
      show p' + 5 + 1 = p' + 6 from rfl]
    omega

theorem ChosenTemplate.two_le_w {t : Buffer} {q n w orig : ℕ} {f : Bool}
    (hc : ChosenTemplate t len irq q n w orig f) : 2 ≤ w :=
  (bufferSizeLength_eq_some hc.facts.1).2.1

/-! ### What the two loops leave -/

/-- The two loops either find nothing, and leave `DataPtr` at the end of the scan range and the
state as it was, or break at the chosen template with its header patched, `DataEndPtr` at the end
of the old template and `NewPkgLength` fitting in it. -/
theorem scanTemplates_brk_spec (h : scanTemplates irq s len = some (.brk dp de n, s')) :
    (s' = s ∧ dp = acpiHeaderSize + resourceScanCount len) ∨
    ∃ k w orig, de = dp + orig ∧ n = 1 + k + w + (19 + irq.size) ∧ n ≤ orig ∧
      ChosenTemplate s.table len irq dp k w orig s'.isShortFormPkgLength ∧
      HeaderPatched s.table s'.table irq dp k w := by
  rcases scanTemplates_brk h with h | ⟨p, hp, hb, hn⟩ | ⟨p, dp₁, de₁, n₁, p', hp, hb₁, h63, hp', hb⟩
  · exact .inl h
  · obtain ⟨lead, pre, w, hlead, h64, hpre, hw, rfl, rfl, rfl, hs⟩ := ressBody_brk hb
    rcases hs with ⟨h63, -⟩ | ⟨hle, h63, hshort, hlen₁, hpt⟩
    · omega
    refine .inr ⟨0, w, lead.toNat, rfl, by omega, hle, ?_, ?_⟩
    · rw [hshort]
      have := @ChosenTemplate.short s.table len irq p w hp (by rw [getD_of_getElem? hlead]; exact h64)
        (by rw [getD_of_getElem? hpre]; exact hw) (by omega)
      rwa [getD_of_getElem? hlead] at this
    · refine ⟨hlen₁, ?_, fun h => absurd h (by omega), ?_, fun i h1 _ h3 => ?_⟩
      · rw [hpt, if_neg (by omega), if_pos rfl]; simp
      · rw [hpt, if_pos rfl]
      · rw [hpt, if_neg (by omega), if_neg (by omega)]
  · obtain ⟨lead, pre, w, hlead, h64, hpre, hw, -, -, rfl, -⟩ := ressBody_brk hb₁
    obtain ⟨lead', b1, pre', w', hlead', h64', hb1, hpre', hw', rfl, rfl, rfl, hle, hlong, hlen₁, hpt⟩ :=
      reslBody_brk hb
    have hw5 := (bufferSizeLength_eq_some hw').2
    refine .inr ⟨lead'.toNat / 64, w', longPkgLength lead' b1, rfl, by omega, hle, ?_, ?_⟩
    · rw [hlong]
      have := @ChosenTemplate.long s.table len irq p w p' w' hp (by rw [getD_of_getElem? hlead]; exact h64)
        (by rw [getD_of_getElem? hpre]; exact hw) h63 hp' (by rw [getD_of_getElem? hlead']; exact h64')
        (by rw [getD_of_getElem? hlead', getD_of_getElem? hpre']; exact hw')
      rwa [getD_of_getElem? hlead', getD_of_getElem? hb1] at this
    · have hk : 0 < lead'.toNat / 64 := by omega
      refine ⟨hlen₁, ?_, fun _ => ?_, ?_, fun i h1 h2 h3 => ?_⟩
      · rw [hpt, if_neg (by omega), if_neg (by omega), if_pos rfl, if_neg (by omega),
          getD_of_getElem? hlead']
      · rw [hpt, if_neg (by omega), if_pos rfl]
      · rw [hpt, if_pos (by omega)]
      · rw [hpt, if_neg (by omega), if_neg (h2 hk).symm, if_neg (by omega)]

/-- At a `RESS` whose `PkgLength` is short and whose `BufferSize` prefix is known, the first loop
returns only when the new length fits the short form but not the old template. -/
theorem ressBody_ret_of_known {p w : ℕ} (hb : ressBody irq s p = some (.ret st, s'))
    (h64 : (s.table.getD (p + 5) 0).toNat < 64)
    (hw : bufferSizeLength (s.table.getD (p + 6) 0) = some w) :
    1 + w + (19 + irq.size) ≤ 63 ∧ (s.table.getD (p + 5) 0).toNat < 1 + w + (19 + irq.size) := by
  obtain ⟨-, lead, hl, ⟨h64', -⟩ | ⟨-, pre, hpre, ⟨hnone, -⟩ | ⟨w₁, hw₁, h63, hlt, -⟩⟩⟩ :=
    ressBody_ret hb
  · rw [getD_of_getElem? hl] at h64; omega
  · rw [getD_of_getElem? hpre, hnone] at hw; cases hw
  · rw [getD_of_getElem? hpre, hw₁] at hw; cases hw
    rw [getD_of_getElem? hl]; exact ⟨h63, hlt⟩

/-- At a `RESS` whose `BufferSize` prefix is known, the first loop breaks at the `PkgLength` with
the new length, and writes nothing when that length is above 63. -/
theorem ressBody_brk_of_known {p w dp de n : ℕ} (hb : ressBody irq s p = some (.brk dp de n, s'))
    (hw : bufferSizeLength (s.table.getD (p + 6) 0) = some w) :
    dp = p + 5 ∧ de = p + 5 + (s.table.getD (p + 5) 0).toNat ∧ n = 1 + w + (19 + irq.size) ∧
      (63 < n → s' = s) := by
  obtain ⟨lead, pre, w₁, hl, -, hpre, hw₁, rfl, rfl, rfl, hs⟩ := ressBody_brk hb
  rw [getD_of_getElem? hpre, hw₁] at hw; cases hw
  refine ⟨rfl, by rw [getD_of_getElem? hl], rfl, fun h63 => ?_⟩
  rcases hs with ⟨-, h⟩ | ⟨-, h63', -⟩ <;> [exact h; omega]

/-- A chosen template whose old `PkgLength` holds the new one is where the two loops break: the
first loop does not return at the first `RESS`, and the second one, if it runs, does not return
at the first `RESL`. -/
theorem scanTemplates_of_chosenTemplate {t : Buffer} {f f' : Bool} {q n w orig : ℕ} {e : LoopExit}
    (hc : ChosenTemplate t len irq q n w orig f') (hle : 1 + n + w + (19 + irq.size) ≤ orig)
    (hs : scanTemplates irq ⟨t, f⟩ len = some (e, s')) :
    e = .brk q (q + orig) (1 + n + w + (19 + irq.size)) := by
  unfold scanTemplates at hs
  obtain ⟨⟨e₁, s₁⟩, h₁, h₂⟩ := Option.bind_eq_some.1 hs
  have hress : ∀ {p}, FirstOccurrence t tpmPrsRess acpiHeaderSize (resourceScanCount len) p →
      ressBody irq ⟨t, f⟩ p = some (e₁, s₁) := fun hp => by
    rcases resourceLoop_eq_some h₁ with ⟨p₀, hp₀, hb⟩ | ⟨hno, -⟩
    · rwa [hp₀.unique hp] at hb
    · exact absurd hp.2.2.1 (hno _ hp.1 hp.2.1)
  cases hc with
  | @short p w hp h64 hw h63 =>
    cases e₁ with
    | ret st₁ =>
      have := ressBody_ret_of_known (hress hp) h64 hw
      dsimp only at this; omega
    | brk dp de n₁ =>
      obtain ⟨rfl, rfl, rfl, -⟩ := ressBody_brk_of_known (hress hp) hw
      dsimp only at h₂
      rw [if_neg (by omega)] at h₂
      cases h₂
      rfl
  | @long p w₀ p' w hp h64 hw₀ h63 hp' h64' hw =>
    cases e₁ with
    | ret st₁ =>
      have := ressBody_ret_of_known (hress hp) h64 hw₀
      dsimp only at this; omega
    | brk dp de n₁ =>
      -- the first loop breaks at `p` with a length above 63 and writes nothing
      obtain ⟨rfl, rfl, rfl, hs₁⟩ := ressBody_brk_of_known (hress hp) hw₀
      obtain rfl := hs₁ (by omega)
      dsimp only at h₂
      rw [if_pos (by omega)] at h₂
      rcases resourceLoop_eq_some h₂ with ⟨p₀, hp₀, hb⟩ | ⟨hno, -⟩
      · rw [hp₀.unique hp'] at hb
        cases e with
        | ret st =>
          obtain ⟨-, lead', hl', ⟨h64₂, -⟩ | ⟨-, b1, pre', hb1, hpre', ⟨hnone, -⟩ |
            ⟨w₂, hw₂, hlt, -⟩⟩⟩ := reslBody_ret hb
          · rw [getD_of_getElem? hl'] at h64'; omega
          · rw [getD_of_getElem? hl', getD_of_getElem? hpre', hnone] at hw; cases hw
          · rw [getD_of_getElem? hl', getD_of_getElem? hpre', hw₂] at hw; cases hw
            rw [getD_of_getElem? hl', getD_of_getElem? hb1] at hle; omega
        | brk dp de n =>
          obtain ⟨lead', b1, pre', w₂, hl', -, hb1, hpre', hw₂, rfl, rfl, rfl, -⟩ := reslBody_brk hb
          rw [getD_of_getElem? hl', getD_of_getElem? hpre', hw₂] at hw; cases hw
          simp only [getD_of_getElem? hl', getD_of_getElem? hb1]
      · exact absurd hp'.2.2.1 (hno _ hp'.1 hp'.2.1)

/-! ### Sample tables

A table in the shape of the TPM SSDT: the description header, then a `RESS` template holding three
interrupts in a buffer sized by a `ByteConst`, then a `RESL` template holding fifteen in a buffer
sized by a `WordConst`, behind a two-byte `PkgLength`. Then a table whose only template lies in
its last 27 bytes, and one whose `BufferSize` is a `WordConst` with a second byte. -/

/-- `Memory32Fixed (ReadWrite, 0xFED40000, 0x5000)`. -/
def sampleMemory32Fixed : List UInt8 :=
  [0x86, 0x09, 0x00, 0x01, 0x00, 0x00, 0xD4, 0xFE, 0x00, 0x50, 0x00, 0x00]

/-- An Extended Interrupt descriptor holding `k` interrupts, each numbered `v`. -/
def sampleInterrupts (k : ℕ) (v : UInt8) : List UInt8 :=
  [0x89, (2 + 4 * k).toUInt8, 0, 0x09, k.toUInt8] ++ (List.replicate k [v, 0, 0, 0]).flatten

/-- `Name (RESS, ResourceTemplate () {...})` with three interrupts: `PkgLength` 34. -/
def sampleRess : List UInt8 :=
  tpmPrsRess ++ [0x11, 34, amlBytePrefix, 31] ++ sampleMemory32Fixed ++ sampleInterrupts 3 1 ++
    [acpiEndTagDescriptor, 0]

/-- `Name (RESL, ResourceTemplate () {...})` with fifteen interrupts: `PkgLength` 84, long form. -/
def sampleResl : List UInt8 :=
  tpmPrsResl ++ [0x11, 0x44, 0x05, amlWordPrefix, 79, 0] ++ sampleMemory32Fixed ++
    sampleInterrupts 15 2 ++ [acpiEndTagDescriptor, 0]

/-- The whole table, 164 bytes, as its header says. -/
def sampleSsdt : Buffer := sampleHeader 164 ++ sampleRess ++ sampleResl

/-- Two interrupts, `0x40` and `0x41`. -/
def sampleIrq : PossibleIrqBuf := ⟨[0x40, 0, 0, 0, 0x41, 0, 0, 0], by decide, by decide⟩

/-- Fifteen interrupts, `0x40` to `0x4E`: too many for the `RESS` template of `sampleSsdt`. -/
def fifteenIrq : PossibleIrqBuf :=
  ⟨((List.range 15).map fun i => [(0x40 + i).toUInt8, 0, 0, 0]).flatten, by decide, by decide⟩

set_option maxRecDepth 10000 in
theorem sampleSsdt_run :
    (updatePossibleResource ⟨sampleSsdt, false⟩ sampleIrq).map Prod.fst = some efiSuccess := by
  decide

/-- A `RESS` template holding one interrupt, `PkgLength` 26. -/
def oneIrqRess : List UInt8 :=
  tpmPrsRess ++ [0x11, 26, amlBytePrefix, 23] ++ sampleMemory32Fixed ++ sampleInterrupts 1 1 ++
    [acpiEndTagDescriptor, 0]

/-- A 67-byte table that ends with `oneIrqRess`. -/
def endRessSsdt : Buffer := sampleHeader 67 ++ oneIrqRess

/-- No interrupts: a buffer of size 0, which the caller's check lets through. -/
def noIrq : PossibleIrqBuf := ⟨[], by decide, by decide⟩

/-- The `RESS` template of `sampleSsdt` with its buffer sized by the `WordConst` `0x011F`: AML
zero-fills a buffer past its initializer, so this is a well-formed template whose `BufferSize`
has a second byte. -/
def wideRess : List UInt8 :=
  tpmPrsRess ++ [0x11, 35, amlWordPrefix, 0x1F, 0x01] ++ sampleMemory32Fixed ++
    sampleInterrupts 3 1 ++ [acpiEndTagDescriptor, 0]

/-- A 76-byte table holding only `wideRess`. -/
def wideRessSsdt : Buffer := sampleHeader 76 ++ wideRess

/-! ### A successful run -/

theorem updatePossibleResource_success_spec
    (h : updatePossibleResource s irq = some (efiSuccess, s')) :
    ∃ len q n w orig t₁, tableLength s.table = some len ∧
      ChosenTemplate s.table len irq q n w orig s'.isShortFormPkgLength ∧
      1 + n + w + (19 + irq.size) ≤ orig ∧ HeaderPatched s.table t₁ irq q n w ∧
      patchDescriptor irq ⟨t₁, s'.isShortFormPkgLength⟩ len q (q + orig)
        (1 + n + w + (19 + irq.size)) = some (efiSuccess, s') := by
  obtain ⟨len, hlen, hret | ⟨dp, de, n, s₁, hs, hd⟩⟩ := updatePossibleResource_eq_some h
  · rcases (scanTemplates_ret hret).2 with h | h <;>
      simp [h, efiSuccess, efiUnsupported, efiInvalidParameter] at *
  obtain ⟨hlt, hflag, -⟩ := patchDescriptor_success hd
  rcases scanTemplates_brk_spec hs with ⟨-, rfl⟩ | ⟨k, w, orig, rfl, rfl, hle, hc, hh⟩
  · simp only [resourceScanCount, acpiHeaderSize, tpmPrsResNameSize, tpmPosResTemplateMinSize] at hlt
    omega
  · rw [← hflag] at hc
    exact ⟨len, dp, k, w, orig, s₁.table, hlen, hc, hle, hh, by rw [hflag]; exact hd⟩

/-! ### A failed run -/

/-- **What a failed `UpdatePossibleResource` leaves.** It fails with `EFI_UNSUPPORTED`,
`EFI_INVALID_PARAMETER` or `EFI_NOT_FOUND`, and the table and `*IsShortFormPkgLength` are as they
were, except when `EFI_NOT_FOUND` comes after a template was chosen whose `PkgLength` lies in the
last `TPM_PRS_RES_NAME_SIZE + TPM_POS_RES_TEMPLATE_MIN_SIZE` bytes of the table: the check
follows steps 1 and 2, so that template's header is then already rewritten. -/
theorem updatePossibleResource_failure {t : Buffer} {f : Bool}
    (h : updatePossibleResource ⟨t, f⟩ irq = some (st, s')) (hst : st ≠ efiSuccess) :
    (st = efiUnsupported ∨ st = efiInvalidParameter ∨ st = efiNotFound) ∧
      (s' = ⟨t, f⟩ ∨ st = efiNotFound ∧ ∃ len q n w orig, tableLength t = some len ∧
        ChosenTemplate t len irq q n w orig s'.isShortFormPkgLength ∧
        len ≤ q + (tpmPrsResNameSize + tpmPosResTemplateMinSize) ∧
        HeaderPatched t s'.table irq q n w) := by
  obtain ⟨len, hlen, hret | ⟨dp, de, n, s₁, hs, hd⟩⟩ := updatePossibleResource_eq_some h
  · obtain ⟨rfl, hst'⟩ := scanTemplates_ret hret
    exact ⟨hst'.elim .inl (.inr ∘ .inl), .inl rfl⟩
  · obtain ⟨rfl, rfl, hge⟩ := patchDescriptor_not_success hd hst
    refine ⟨.inr (.inr rfl), ?_⟩
    rcases scanTemplates_brk_spec hs with ⟨rfl, -⟩ | ⟨k, w, orig, rfl, rfl, -, hc, hh⟩
    · exact .inl rfl
    · exact .inr ⟨rfl, len, dp, k, w, orig, hlen, hc, hge, hh⟩

/-- On `endRessSsdt` the driver rewrites `PkgLength` to 22 and `BufferSize` to 19, sets
`*IsShortFormPkgLength`, and then returns `EFI_NOT_FOUND`, leaving the interrupt descriptor
and the End Tag behind the shortened package. -/
theorem endRessSsdt_not_found_after_header_patch :
    updatePossibleResource ⟨endRessSsdt, false⟩ noIrq =
      some (efiNotFound, ⟨(endRessSsdt.set 41 22).set 43 19, true⟩) := by
  decide

theorem endRessSsdt_failure :
    ∃ st s', updatePossibleResource ⟨endRessSsdt, false⟩ noIrq = some (st, s') ∧ st ≠ efiSuccess ∧
      (st = efiUnsupported ∨ st = efiInvalidParameter ∨ st = efiNotFound) ∧
      (s' = ⟨endRessSsdt, false⟩ ∨ st = efiNotFound ∧ ∃ len q n w orig,
        tableLength endRessSsdt = some len ∧
        ChosenTemplate endRessSsdt len noIrq q n w orig s'.isShortFormPkgLength ∧
        len ≤ q + (tpmPrsResNameSize + tpmPosResTemplateMinSize) ∧
        HeaderPatched endRessSsdt s'.table noIrq q n w) := by
  have hr : (updatePossibleResource ⟨endRessSsdt, false⟩ noIrq).map Prod.fst = some efiNotFound := by
    decide
  obtain ⟨⟨st, s'⟩, h, hst⟩ := Option.map_eq_some'.1 hr
  obtain rfl : st = efiNotFound := hst
  exact ⟨_, s', h, by decide, updatePossibleResource_failure h (by decide)⟩

theorem patchedTemplate_of {t t₁ : Buffer} {q n w orig : ℕ} {f : Bool}
    (hh : HeaderPatched t t₁ irq q n w) (hw : 2 ≤ w) (hle : 1 + n + w + (19 + irq.size) ≤ orig)
    (hd : patchDescriptor irq ⟨t₁, f⟩ len q (q + orig) (1 + n + w + (19 + irq.size)) =
      some (efiSuccess, s')) :
    PatchedTemplate t s'.table irq q n w orig := by
  obtain ⟨-, -, hlen, hpt⟩ := patchDescriptor_success hd
  have hd' : q + (1 + n + w + (19 + irq.size) - (5 + irq.size + 2)) = q + 1 + n + w + 12 := by
    omega
  simp only [hd'] at hpt
  have hfr : ∀ i, (i < q ∨ q + 1 + n + w ≤ i) → t₁[i]? = t[i]? := fun i hi =>
    hh.frame i (by omega) (fun _ => by omega) (by omega)
  refine ⟨hlen.trans hh.length_eq, hle, fun i hi => ?_, fun i hi => ?_, ?_, ?_, fun i hi => ?_, ?_, ?_,
    fun i h1 h2 => ?_⟩
  -- each field reads one branch of the pointwise description of the rewrite
  · rw [hpt, if_neg (by omega), if_neg (by omega), if_neg (by omega), if_neg (by omega),
      if_neg (by omega), if_neg (by omega), hfr i (by omega)]
  · rw [hpt, if_neg (by omega), if_neg (by omega), if_neg (by omega), if_neg (by omega),
      if_neg (by omega), if_neg (by omega), hfr _ (by omega)]
  · rw [hpt, if_neg (by omega), if_neg (by omega), if_neg (by omega), if_neg (by omega),
      if_neg (by omega), if_pos rfl]
  · rw [hpt, if_neg (by omega), if_neg (by omega), if_neg (by omega), if_neg (by omega),
      if_pos rfl]
  · rw [hpt, if_neg (by omega), if_neg (by omega), if_neg (by omega), if_pos (by omega)]
    congr 1; omega
  · rw [hpt, if_neg (by omega), if_neg (by omega), if_pos (by omega)]
  · rw [hpt, if_neg (by omega), if_pos (by omega)]
  · rw [hpt, if_pos (by omega)]

/-- Whatever it returns, `UpdatePossibleResource` leaves the table as it was, or changes it only
inside the template it chose. -/
theorem updatePossibleResource_edits {t : Buffer} {f : Bool}
    (h : updatePossibleResource ⟨t, f⟩ irq = some (st, s')) :
    s'.table = t ∨ ∃ len q n w orig, tableLength t = some len ∧
      ChosenTemplate t len irq q n w orig s'.isShortFormPkgLength ∧ s'.table.length = t.length ∧
      ∀ i, i < q ∨ q + orig ≤ i → s'.table[i]? = t[i]? := by
  obtain ⟨len, hlen, hret | ⟨dp, de, n, s₁, hs, hd⟩⟩ := updatePossibleResource_eq_some h
  · exact .inl (by rw [(scanTemplates_ret hret).1])
  rcases scanTemplates_brk_spec hs with ⟨rfl, rfl⟩ | ⟨k, w, orig, rfl, rfl, hle, hc, hh⟩
  · by_cases hst : st = efiSuccess
    · subst hst
      have := (patchDescriptor_success hd).1
      simp only [resourceScanCount, acpiHeaderSize, tpmPrsResNameSize, tpmPosResTemplateMinSize]
        at this
      omega
    · exact .inl (by rw [(patchDescriptor_not_success hd hst).2.1])
  · dsimp only at hlen hc hh
    by_cases hst : st = efiSuccess
    · subst hst
      have hflag := (patchDescriptor_success hd).2.1
      have hpt := patchedTemplate_of (f := s₁.isShortFormPkgLength) hh hc.two_le_w hle hd
      rw [← hflag] at hc
      exact .inr ⟨len, dp, k, w, orig, hlen, hc, hpt.length_eq, hpt.frame⟩
    · obtain ⟨-, rfl, -⟩ := patchDescriptor_not_success hd hst
      exact .inr ⟨len, dp, k, w, orig, hlen, hc, hh.length_eq,
        fun i hi => hh.frame i (by omega) (fun _ => by omega) (by omega)⟩

/-! ### Decoding the rewritten header -/

section Header

variable {t t₁ t' : Buffer} {q n w : ℕ} (hh : HeaderPatched t t₁ irq q n w)
include hh

theorem amlPkgLength_of_headerPatched (hlow : ∀ i, i ≤ q + 1 + n → t'[i]? = t₁[i]?)
    (hn : n = (t.getD q 0).toNat / 64) (h63 : n = 0 → 1 + n + w + (19 + irq.size) ≤ 63)
    (hw5 : w ≤ 5) :
    amlPkgLength t' q = 1 + n + w + (19 + irq.size) + 4096 * leAt t (q + 2) (n - 1) := by
  have hS := irq.size_le_sixty
  have hlead := (hlow q (by omega)).trans hh.lead
  rcases Nat.eq_zero_or_pos n with rfl | hpos
  · rw [if_pos rfl] at hlead
    have hv : (t'.getD q 0).toNat = 1 + 0 + w + (19 + irq.size) := by
      rw [getD_of_getElem? hlead, toNat_toUInt8, Nat.mod_eq_of_lt (by omega)]
    rw [amlPkgLength_short (by omega), hv]; rfl
  · rw [if_neg (by omega)] at hlead
    have := toNat_lt_256 (t.getD q 0)
    have hv : (t'.getD q 0).toNat =
        (t.getD q 0).toNat / 16 * 16 + (1 + n + w + (19 + irq.size)) % 16 := by
      rw [getD_of_getElem? hlead, toNat_toUInt8, Nat.mod_eq_of_lt (by omega)]
    have hf : (t'.getD (q + 1) 0).toNat = (1 + n + w + (19 + irq.size)) / 16 := by
      rw [getD_of_getElem? ((hlow _ (by omega)).trans (hh.follow hpos)), toNat_toUInt8,
        Nat.mod_eq_of_lt (by omega)]
    have hk : ((t.getD q 0).toNat / 16 * 16 + (1 + n + w + (19 + irq.size)) % 16) / 64 =
        (n - 1) + 1 := by omega
    have hL : leAt t' (q + 2) (n - 1) = leAt t (q + 2) (n - 1) := leAt_congr fun i h1 h2 =>
      (hlow i (by omega)).trans (hh.frame i (by omega) (fun _ => by omega) (by omega))
    rw [amlPkgLength_long (by omega), hv, hk, leAt, hf, show q + 1 + 1 = q + 2 from rfl, hL]
    omega

theorem amlInteger_of_headerPatched (hlow : ∀ i, i < q + 1 + n + w → t'[i]? = t₁[i]?)
    (hpre : bufferSizeLength (t.getD (q + 1 + n) 0) = some w) :
    amlInteger t' (q + 1 + n) = 19 + irq.size + 256 * leAt t (q + 3 + n) (w - 2) := by
  obtain ⟨hw, hw2, -⟩ := bufferSizeLength_eq_some hpre
  have hS := irq.size_le_sixty
  have hkeep : ∀ i, q + 2 ≤ i → i ≠ q + 2 + n → i < q + 1 + n + w → t'[i]? = t[i]? :=
    fun i h1 h2 h3 => (hlow i h3).trans (hh.frame i (by omega) (fun _ => by omega) h2)
  rw [amlInteger, getD_eq_of_getElem?_eq
      ((hlow _ (by omega)).trans (hh.frame _ (by omega) (fun _ => by omega) (by omega))),
    show integerWidth (t.getD (q + 1 + n) 0) = (w - 2) + 1 by omega, leAt,
    show q + 1 + n + 1 = q + 2 + n by omega,
    getD_of_getElem? ((hlow _ (by omega)).trans hh.bufferSize), toNat_toUInt8,
    Nat.mod_eq_of_lt (by omega), show q + 2 + n + 1 = q + 3 + n by omega,
    leAt_congr fun i h1 h2 => hkeep i (by omega) (by omega) (by omega)]
  omega

end Header

/-! ### The main result -/

/-- **A successful `UpdatePossibleResource` patches the template it chose, and only it.** It
picked the first `RESS` when `1 + w + 19 + S` bytes fit the short form, the first `RESL` otherwise,
and said which in `*IsShortFormPkgLength`; `NewPkgLength` fits `OriginalPkgLength`; the table
changed only inside the old template, where `Memory32Fixed` is kept and the interrupt descriptor,
the End Tag and the `AML_NOOP_OP` fill follow the new `PkgLength`. -/
theorem updatePossibleResource_patches_chosen_template {t : Buffer} {f : Bool}
    (h : updatePossibleResource ⟨t, f⟩ irq = some (efiSuccess, s')) :
    ∃ len q n w orig, tableLength t = some len ∧
      ChosenTemplate t len irq q n w orig s'.isShortFormPkgLength ∧
      PatchedTemplate t s'.table irq q n w orig := by
  obtain ⟨len, q, n, w, orig, t₁, hlen, hc, hle, hh, hd⟩ := updatePossibleResource_success_spec h
  exact ⟨len, q, n, w, orig, hlen, hc, patchedTemplate_of hh hc.two_le_w hle hd⟩

set_option maxRecDepth 10000 in
theorem sampleSsdt_patches_chosen_template :
    (∃ s', updatePossibleResource ⟨sampleSsdt, false⟩ sampleIrq = some (efiSuccess, s') ∧
      ∃ len q n w orig, tableLength sampleSsdt = some len ∧
        ChosenTemplate sampleSsdt len sampleIrq q n w orig s'.isShortFormPkgLength ∧
        PatchedTemplate sampleSsdt s'.table sampleIrq q n w orig) ∧
    (∃ s', updatePossibleResource ⟨sampleSsdt, false⟩ fifteenIrq = some (efiSuccess, s') ∧
      s'.isShortFormPkgLength = false ∧ ∃ len q n w orig, tableLength sampleSsdt = some len ∧
        ChosenTemplate sampleSsdt len fifteenIrq q n w orig s'.isShortFormPkgLength ∧
        PatchedTemplate sampleSsdt s'.table fifteenIrq q n w orig) := by
  obtain ⟨⟨st, s'⟩, hr, hst⟩ := Option.map_eq_some'.1 sampleSsdt_run
  obtain rfl : st = efiSuccess := hst
  -- fifteen interrupts take the long `RESL` path
  have hr₁₅ : (updatePossibleResource ⟨sampleSsdt, false⟩ fifteenIrq).map
      (fun r => (r.1, r.2.isShortFormPkgLength)) = some (efiSuccess, false) := by
    decide
  obtain ⟨⟨st₁₅, s₁₅⟩, hr₁₅, hst₁₅⟩ := Option.map_eq_some'.1 hr₁₅
  obtain ⟨rfl, hf⟩ := Prod.mk.inj hst₁₅
  exact ⟨⟨s', hr, updatePossibleResource_patches_chosen_template hr⟩,
    ⟨s₁₅, hr₁₅, hf, updatePossibleResource_patches_chosen_template hr₁₅⟩⟩

/-- **The rewritten length fields, decoded with all of their bytes.** The driver writes the
lowest byte of each field, and in the long form the low nibble and the first follow byte of the
`PkgLength`; the bytes above them keep what the template had. Each field therefore decodes to the
value the driver meant exactly when those bytes are zero, and the driver's own reading of the old
`PkgLength` misses the same bytes. -/
theorem updatePossibleResource_length_fields {t : Buffer} {f : Bool}
    (h : updatePossibleResource ⟨t, f⟩ irq = some (efiSuccess, s')) :
    ∃ len q n w orig, tableLength t = some len ∧
      ChosenTemplate t len irq q n w orig s'.isShortFormPkgLength ∧
      DecodedLengths t s'.table irq q n w orig := by
  obtain ⟨len, q, n, w, orig, t₁, hlen, hc, hle, hh, hd⟩ := updatePossibleResource_success_spec h
  dsimp only at hlen hc hh
  obtain ⟨hpre, hn, h63, horig⟩ := hc.facts
  have hw := bufferSizeLength_eq_some hpre
  have hd' : q + (1 + n + w + (19 + irq.size) - (5 + irq.size + 2)) = q + 1 + n + w + 12 := by
    omega
  have hlow : ∀ i, i ≤ q + 1 + n + w + 12 → s'.table[i]? = t₁[i]? :=
    fun i hi => patchDescriptor_keeps_low hd (.inl (by omega))
  have hdesc := descriptorLength_of_patchDescriptor hd
  rw [hd', show q + 1 + n + w + 12 + 2 = q + 1 + n + w + 14 from rfl,
    getD_eq_of_getElem?_eq (hh.frame _ (by omega) (fun _ => by omega) (by omega))] at hdesc
  exact ⟨len, q, n, w, orig, hlen, hc,
    ⟨amlPkgLength_of_headerPatched hh (fun i hi => hlow i (by omega)) hn h63 hw.2.2,
      amlInteger_of_headerPatched hh (fun i hi => hlow i (by omega)) hpre, hdesc, horig⟩⟩

/-- Steps 1.2 and 2.2 say they patch `BufferSize` to `19 + S`, and write only its lowest byte. On
`wideRessSsdt` the patch succeeds and the `BufferSize` it leaves decodes to `19 + S + 256 = 283`,
not 27: the second byte of the `WordConst` is still `0x01` (`DecodedLengths.bufferSize` in
general). -/
theorem wideRessSsdt_bufferSize_keeps_high_byte :
    (updatePossibleResource ⟨wideRessSsdt, false⟩ sampleIrq).map
      (fun r => (r.1, amlInteger r.2.table 42)) = some (efiSuccess, 19 + sampleIrq.size + 256) := by
  decide

end Tcg2AcpiFfa
