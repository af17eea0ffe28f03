import Mathlib.Data.List.Basic
import Mathlib.Data.Int.Defs

/-!
# Buffers, status codes and the library calls of the driver

The TPM SSDT is patched through a `UINT8 *` into the buffer that `GetSectionFromFv` returned.
Here a buffer is a list of bytes, and an access outside it, undefined behaviour in the source, is
`none`. A statement that a run touches only the table is then a statement that the run is not
`none` on a buffer exactly as long as the table.

`CopyMem`, `SetMem`, `CompareMem` and `AsciiStrCmp` are modelled byte by byte, with the reads
that their `BaseMemoryLib` and `BaseLib` loops make: both compares stop at the first byte that
differs, so which offsets they read depends on the contents.

## What is deliberately absent

Debug-only `ASSERT`s, among them the `AsciiStrSize` checks at the top of `AsciiStrCmp`: this is
the release build, in which an `ASSERT (FALSE)` before a `return` is just the `return`.

## Main definitions

* `EfiStatus`, `efiError` and the status codes the driver returns
* `writeByte`, `writeBytes` — checked stores; loads are `b[i]?`
* `copyMem`, `setMem`, `compareMem`, `asciiStrCmp`
* `scanFirst` — the driver's four `for (DataPtr = ...; ...; DataPtr += 1)` scans
* `leAt`, `tableLength` — little-endian fields, and `Table->Length`

## Main results

* `getElem?_of_writeBytes`, `length_of_writeBytes`, `writeBytes_isSome` — what a store does
* `compareMem_eq_some_zero_iff`, `asciiStrCmp_eq_some_zero_iff` — the compares, by meaning
* `scanFirst_eq_some_some_iff`, `scanFirst_eq_some_none_iff` — a scan finds the first hit
-/

namespace Tcg2AcpiFfa

/-! ### Status codes -/

/-- `EFI_STATUS`, a `UINTN`. On the 64-bit platforms the driver is built for, an error has bit
63 set. -/
abbrev EfiStatus := UInt64

/-- `EFI_ERROR (Status)`. -/
def efiError (s : EfiStatus) : Bool := 0x8000000000000000 ≤ s

/-- `EFI_SUCCESS`. -/
def efiSuccess : EfiStatus := 0

/-- `EFI_INVALID_PARAMETER`. -/
def efiInvalidParameter : EfiStatus := 0x8000000000000002

/-- `EFI_UNSUPPORTED`. -/
def efiUnsupported : EfiStatus := 0x8000000000000003

/-- `EFI_BUFFER_TOO_SMALL`, also `RETURN_BUFFER_TOO_SMALL`. -/
def efiBufferTooSmall : EfiStatus := 0x8000000000000005

/-- `EFI_NOT_FOUND`. -/
def efiNotFound : EfiStatus := 0x800000000000000E

/-! ### Stores -/

/-- The bytes a `UINT8 *` of the driver can reach. -/
abbrev Buffer := List UInt8

variable {b b' : Buffer} {i j p dst n : ℕ} {v : UInt8} {vs : List UInt8}

/-- `*(Ptr + i) = v`: `none` outside the buffer. -/
def writeByte (b : Buffer) (i : ℕ) (v : UInt8) : Option Buffer :=
  if i < b.length then some (b.set i v) else none

/-- Store `vs` at `dst`, `dst + 1`, ..., in that order. -/
def writeBytes (b : Buffer) (dst : ℕ) : List UInt8 → Option Buffer
  | [] => some b
  | v :: vs => (writeByte b dst v).bind fun b => writeBytes b (dst + 1) vs

/-- `CopyMem (Ptr + dst, Source, Length)`, `Source` holding the `Length` bytes `src`. -/
def copyMem (b : Buffer) (dst : ℕ) (src : List UInt8) : Option Buffer := writeBytes b dst src

/-- `SetMem (Ptr + dst, Length, Value)`. -/
def setMem (b : Buffer) (dst len : ℕ) (v : UInt8) : Option Buffer :=
  writeBytes b dst (List.replicate len v)

theorem writeByte_eq_some : writeByte b i v = some b' ↔ i < b.length ∧ b.set i v = b' := by
  unfold writeByte
  split <;> simp [*]

theorem length_of_writeByte (h : writeByte b i v = some b') : b'.length = b.length := by
  obtain ⟨-, rfl⟩ := writeByte_eq_some.1 h
  exact List.length_set ..

theorem getElem?_of_writeByte (h : writeByte b i v = some b') (j : ℕ) :
    b'[j]? = if i = j then some v else b[j]? := by
  obtain ⟨hi, rfl⟩ := writeByte_eq_some.1 h
  simp [List.getElem?_set, hi]

theorem length_of_writeBytes (h : writeBytes b dst vs = some b') : b'.length = b.length := by
  induction vs generalizing b dst with
  | nil => cases h; rfl
  | cons v vs ih =>
    obtain ⟨b₁, h₁, h₂⟩ := Option.bind_eq_some.1 h
    rw [ih h₂, length_of_writeByte h₁]

/-- **Read after a block store.** -/
theorem getElem?_of_writeBytes (h : writeBytes b dst vs = some b') (j : ℕ) :
    b'[j]? = if dst ≤ j ∧ j < dst + vs.length then vs[j - dst]? else b[j]? := by
  induction vs generalizing b dst with
  | nil => cases h; exact (if_neg (by simp only [List.length_nil, Nat.add_zero]; omega)).symm
  | cons v vs ih =>
    obtain ⟨b₁, h₁, h₂⟩ := Option.bind_eq_some.1 h
    rw [ih h₂, getElem?_of_writeByte h₁]
    rcases Nat.lt_or_ge j dst with hj | hj
    · simp [show ¬ dst + 1 ≤ j by omega, show dst ≠ j by omega, show ¬ dst ≤ j by omega]
    · obtain ⟨k, rfl⟩ := Nat.exists_eq_add_of_le hj
      cases k with
      | zero => simp
      | succ k =>
        simp only [show dst + (k + 1) - (dst + 1) = k by omega, show dst + (k + 1) - dst = k + 1
          by omega, show dst ≠ dst + (k + 1) by omega, List.getElem?_cons_succ, List.length_cons,
          if_false]
        congr 1
        simp only [eq_iff_iff]
        omega

/-- A store inside the buffer lets the rest of the computation run. -/
theorem isSome_writeByte_bind {α : Type} {f : Buffer → Option α} (h : i < b.length)
    (hf : (f (b.set i v)).isSome) : ((writeByte b i v).bind f).isSome := by
  rwa [writeByte, if_pos h, Option.some_bind]

/-- A load inside the buffer lets the rest of the computation run. -/
theorem isSome_getElem?_bind {α : Type} {f : UInt8 → Option α} (h : i < b.length)
    (hf : (f b[i]).isSome) : (b[i]?.bind f).isSome := by
  rwa [List.getElem?_eq_getElem h, Option.some_bind]

theorem writeBytes_isSome (h : dst + vs.length ≤ b.length) : (writeBytes b dst vs).isSome := by
  induction vs generalizing b dst with
  | nil => rfl
  | cons v vs ih =>
    simp only [List.length_cons] at h
    simp only [writeBytes, writeByte, show dst < b.length by omega, if_true, Option.some_bind]
    exact ih (by rw [List.length_set]; omega)

theorem isSome_writeBytes_bind {α : Type} {f : Buffer → Option α} (h : dst + vs.length ≤ b.length)
    (hf : ∀ b', b'.length = b.length → (f b').isSome) : ((writeBytes b dst vs).bind f).isSome := by
  obtain ⟨b', hb⟩ := Option.isSome_iff_exists.1 (writeBytes_isSome h)
  rw [hb, Option.some_bind]
  exact hf b' (length_of_writeBytes hb)

theorem writeBytes_singleton : writeBytes b dst [v] = writeByte b dst v := by
  simp [writeBytes]

/-- Storing `xs ++ ys` is storing `xs`, then `ys` right after it. -/
theorem writeBytes_append_right {xs ys : List UInt8} :
    writeBytes b dst (xs ++ ys) =
      (writeBytes b dst xs).bind fun b' => writeBytes b' (dst + xs.length) ys := by
  induction xs generalizing b dst with
  | nil => simp [writeBytes]
  | cons x xs ih =>
    rw [List.cons_append, writeBytes, writeBytes, Option.bind_assoc]
    congr 1
    funext b'
    rw [ih, List.length_cons, Nat.add_assoc, Nat.add_comm 1]

theorem writeBytes_append {a c : Buffer} (h : vs.length ≤ c.length) :
    writeBytes (a ++ c) a.length vs = some (a ++ vs ++ c.drop vs.length) := by
  induction vs generalizing a c with
  | nil => simp [writeBytes]
  | cons v vs ih =>
    obtain ⟨c0, cs, rfl⟩ : ∃ c0 cs, c = c0 :: cs :=
      List.exists_cons_of_length_pos (by simp at h; omega)
    simp only [List.length_cons] at h
    have h1 : writeByte (a ++ c0 :: cs) a.length v = some ((a ++ [v]) ++ cs) := by
      rw [writeByte, if_pos (by simp)]; simp
    have h2 := ih (a := a ++ [v]) (c := cs) (by omega)
    simp only [List.length_append, List.length_singleton] at h2
    simp only [writeBytes, h1, Option.some_bind, h2]
    simp

/-- A store of `vs` at `dst` splices it into the buffer. -/
theorem writeBytes_eq_splice (h : dst + vs.length ≤ b.length) :
    writeBytes b dst vs = some (b.take dst ++ vs ++ b.drop (dst + vs.length)) := by
  have hd : (b.take dst).length = dst := List.length_take_of_le (by omega)
  have hc : vs.length ≤ (b.drop dst).length := by simp; omega
  have := writeBytes_append (a := b.take dst) hc
  rw [List.take_append_drop, hd] at this
  rw [this, List.drop_drop, Nat.add_comm]

/-- `b'` is `b` with at most the `width` bytes from `p` rewritten. -/
structure EditedWithin (b b' : Buffer) (p width : ℕ) : Prop where
  /-- The buffer keeps its size. -/
  length_eq : b'.length = b.length
  /-- Every byte outside the window is kept. -/
  frame : ∀ j, j < p ∨ p + width ≤ j → b'[j]? = b[j]?

theorem editedWithin_of_writeBytes {width : ℕ} (h : writeBytes b dst vs = some b')
    (hw : vs.length ≤ width) : EditedWithin b b' dst width :=
  ⟨length_of_writeBytes h, fun j hj => by rw [getElem?_of_writeBytes h, if_neg (by omega)]⟩

theorem writeByte_eq_splice (h : i < b.length) :
    writeByte b i v = some (b.take i ++ [v] ++ b.drop (i + 1)) := by
  have h1 : i + [v].length ≤ b.length := by simpa using h
  simpa [writeBytes] using writeBytes_eq_splice h1

/-! ### Compares -/

/-- `tag` is stored in `b` at `p`. -/
def OccursAt (b : Buffer) (p : ℕ) (tag : List UInt8) : Prop :=
  ∀ i < tag.length, b[p + i]? = tag[i]?

instance (b : Buffer) (p : ℕ) (tag : List UInt8) : Decidable (OccursAt b p tag) :=
  inferInstanceAs (Decidable (∀ i < tag.length, _))

theorem occursAt_cons {c : UInt8} {cs : List UInt8} :
    OccursAt b p (c :: cs) ↔ b[p]? = some c ∧ OccursAt b (p + 1) cs := by
  constructor
  · intro h
    refine ⟨by simpa using h 0 (by simp), fun i hi => ?_⟩
    simpa [Nat.add_assoc, Nat.add_comm 1 i] using h (i + 1) (by simpa using hi)
  · rintro ⟨h0, h⟩ (_ | i) hi
    · simpa using h0
    · simpa [Nat.add_assoc, Nat.add_comm 1 i] using h i (by simpa using hi)

/-- The difference of two bytes, as the `INTN` the compares return. -/
def byteDiff (v c : UInt8) : ℤ := (v.toNat : ℤ) - c.toNat

theorem byteDiff_eq_zero {v c : UInt8} : byteDiff v c = 0 ↔ v = c := by
  refine ⟨fun h => UInt8.toNat.inj ?_, fun h => by simp [byteDiff, h]⟩
  simp only [byteDiff] at h
  omega

/-- `CompareMem (Ptr + p, tag, Length)`, `Length` the length of `tag`. The `BaseMemoryLib` loop
reads up to the first byte that differs, and returns the difference there. -/
def compareMem (b : Buffer) (p : ℕ) : List UInt8 → Option ℤ
  | [] => some 0
  | c :: cs => b[p]?.bind fun v => if v = c then compareMem b (p + 1) cs else some (byteDiff v c)

/-- `AsciiStrCmp (Ptr + p, s)` for a string `s` of non-`NUL` bytes. The `BaseLib` loop reads
`Ptr + p` up to the first byte that is `NUL` or differs from `s`, and returns the difference
there; past the end of `s` it compares with the terminating `NUL`. -/
def asciiStrCmp (b : Buffer) (p : ℕ) : List UInt8 → Option ℤ
  | [] => b[p]?.map fun v => byteDiff v 0
  | c :: cs => b[p]?.bind fun v =>
      if v ≠ 0 ∧ v = c then asciiStrCmp b (p + 1) cs else some (byteDiff v c)

theorem OccursAt.add_length_le {tag : List UInt8} (h : OccursAt b p tag) (hn : 0 < tag.length) :
    p + tag.length ≤ b.length := by
  have h1 := h (tag.length - 1) (by omega)
  by_contra hl
  rw [List.getElem?_eq_none (by omega), List.getElem?_eq_getElem (by omega)] at h1
  cases h1

theorem compareMem_eq_some_zero_iff {tag : List UInt8} :
    compareMem b p tag = some 0 ↔ OccursAt b p tag := by
  induction tag generalizing p with
  | nil => simp [compareMem, OccursAt]
  | cons c cs ih =>
    rw [occursAt_cons, ← ih]
    cases hb : b[p]? with
    | none => simp [compareMem, hb]
    | some v => by_cases hv : v = c <;> simp [compareMem, hb, hv, byteDiff_eq_zero]

theorem compareMem_isSome {tag : List UInt8} (h : p + tag.length ≤ b.length) :
    (compareMem b p tag).isSome := by
  induction tag generalizing p with
  | nil => rfl
  | cons c cs ih =>
    simp only [List.length_cons] at h
    simp only [compareMem, List.getElem?_eq_getElem (show p < b.length by omega),
      Option.some_bind]
    split
    · exact ih (by omega)
    · rfl

theorem asciiStrCmp_eq_some_zero_iff {s : List UInt8} (hs : 0 ∉ s) :
    asciiStrCmp b p s = some 0 ↔ OccursAt b p (s ++ [0]) := by
  induction s generalizing p with
  | nil => cases hb : b[p]? <;> simp [asciiStrCmp, OccursAt, hb, byteDiff_eq_zero]
  | cons c cs ih =>
    have hc : c ≠ 0 := fun h => hs (h ▸ List.mem_cons_self c cs)
    rw [List.cons_append, occursAt_cons, ← ih fun h => hs (List.mem_cons_of_mem c h)]
    cases hb : b[p]? with
    | none => simp [asciiStrCmp, hb]
    | some v =>
      by_cases hv : v = c
      · subst hv; simp [asciiStrCmp, hb, hc]
      · simp [asciiStrCmp, hb, hv, byteDiff_eq_zero]

theorem asciiStrCmp_isSome {s : List UInt8} (h : p + s.length < b.length) :
    (asciiStrCmp b p s).isSome := by
  induction s generalizing p with
  | nil => simp [asciiStrCmp, List.getElem?_eq_getElem (show p < b.length by simpa using h)]
  | cons c cs ih =>
    simp only [List.length_cons] at h
    simp only [asciiStrCmp, List.getElem?_eq_getElem (show p < b.length by omega),
      Option.some_bind]
    split
    · exact ih (by omega)
    · rfl

/-- A string `s` that is not stored at `p` stops the compare before the byte after it. -/
theorem asciiStrCmp_isSome_of_not_occursAt {s : List UInt8} (h : p + s.length ≤ b.length)
    (hn : ¬ OccursAt b p s) : (asciiStrCmp b p s).isSome := by
  induction s generalizing p with
  | nil => exact absurd (fun i hi => absurd hi (Nat.not_lt_zero i)) hn
  | cons c cs ih =>
    simp only [List.length_cons] at h
    simp only [asciiStrCmp, List.getElem?_eq_getElem (show p < b.length by omega),
      Option.some_bind]
    split
    · rename_i hc
      refine ih (by omega) fun ho => hn (occursAt_cons.2 ⟨?_, ho⟩)
      rw [List.getElem?_eq_getElem (show p < b.length by omega), hc.2]
    · rfl

/-- A string with no `NUL` that is stored at `p` right up to the end of the buffer: the compare
matches each character and reads the byte after the buffer. -/
theorem asciiStrCmp_eq_none_of_occursAt {s : List UInt8} (hs : 0 ∉ s) (ho : OccursAt b p s)
    (hend : b.length ≤ p + s.length) : asciiStrCmp b p s = none := by
  induction s generalizing p with
  | nil => simp [asciiStrCmp, List.getElem?_eq_none (show b.length ≤ p by simpa using hend)]
  | cons c cs ih =>
    obtain ⟨hc, ho⟩ := occursAt_cons.1 ho
    have hc0 : c ≠ 0 := fun h => hs (h ▸ List.mem_cons_self c cs)
    simp only [List.length_cons] at hend
    rw [asciiStrCmp, hc, Option.some_bind, if_pos ⟨hc0, rfl⟩]
    exact ih (fun h => hs (List.mem_cons_of_mem c h)) ho (by omega)

/-! ### Scans -/

/-- The driver's scans, `for (DataPtr = start; <n iterations>; DataPtr += 1)` around
`if (test (DataPtr)) { ... }`: the first offset whose test holds, or `none` when the loop runs
out. A test that faults ends the scan in `none`. -/
def scanFirst (test : ℕ → Option Bool) (start : ℕ) : ℕ → Option (Option ℕ)
  | 0 => some none
  | n + 1 => (test start).bind fun hit =>
      if hit then some (some start) else scanFirst test (start + 1) n

variable {test : ℕ → Option Bool} {start : ℕ}

theorem scanFirst_eq_some_some_iff :
    scanFirst test start n = some (some p) ↔
      start ≤ p ∧ p < start + n ∧ test p = some true ∧
        ∀ q, start ≤ q → q < p → test q = some false := by
  induction n generalizing start with
  | zero => simp [scanFirst]; omega
  | succ n ih =>
    cases ht : test start with
    | none =>
      simp only [scanFirst, ht, Option.none_bind, reduceCtorEq, false_iff]
      rintro ⟨h1, -, h3, h4⟩
      rcases Nat.eq_or_lt_of_le h1 with rfl | h
      · simp [ht] at h3
      · exact absurd (h4 start le_rfl h) (by simp [ht])
    | some hit =>
      cases hit with
      | true =>
        simp only [scanFirst, ht, Option.some_bind, if_true, Option.some.injEq]
        constructor
        · rintro rfl; exact ⟨le_rfl, by omega, ht, fun q h1 h2 => absurd h2 (by omega)⟩
        · rintro ⟨h1, -, -, h4⟩
          by_contra hne
          simpa [ht] using h4 start le_rfl (by omega)
      | false =>
        simp only [scanFirst, ht, Option.some_bind, Bool.false_eq_true, if_false, ih]
        constructor
        · rintro ⟨h1, h2, h3, h4⟩
          refine ⟨by omega, by omega, h3, fun q hq1 hq2 => ?_⟩
          rcases Nat.eq_or_lt_of_le hq1 with rfl | hq
          · exact ht
          · exact h4 q hq hq2
        · rintro ⟨h1, h2, h3, h4⟩
          have hp : start ≠ p := by rintro rfl; simp [ht] at h3
          exact ⟨by omega, by omega, h3, fun q hq1 hq2 => h4 q (by omega) hq2⟩

theorem scanFirst_eq_some_none_iff :
    scanFirst test start n = some none ↔ ∀ q, start ≤ q → q < start + n → test q = some false := by
  induction n generalizing start with
  | zero => simp [scanFirst]; intro q h1 h2; omega
  | succ n ih =>
    cases ht : test start with
    | none =>
      simp only [scanFirst, ht, Option.none_bind, reduceCtorEq, false_iff, not_forall]
      exact ⟨start, le_rfl, by omega, by simp [ht]⟩
    | some hit =>
      cases hit with
      | true =>
        simp only [scanFirst, ht, Option.some_bind, if_true, Option.some.injEq, reduceCtorEq,
          false_iff, not_forall]
        exact ⟨start, le_rfl, by omega, by simp [ht]⟩
      | false =>
        simp only [scanFirst, ht, Option.some_bind, Bool.false_eq_true, if_false, ih]
        constructor
        · intro h q hq1 hq2
          rcases Nat.eq_or_lt_of_le hq1 with rfl | hq
          · exact ht
          · exact h q hq (by omega)
        · exact fun h q hq1 hq2 => h q (by omega) (by omega)

theorem scanFirst_isSome (h : ∀ q, start ≤ q → q < start + n → (test q).isSome) :
    (scanFirst test start n).isSome := by
  induction n generalizing start with
  | zero => rfl
  | succ n ih =>
    obtain ⟨hit, ht⟩ := Option.isSome_iff_exists.1 (h start le_rfl (by omega))
    simp only [scanFirst, ht, Option.some_bind]
    split
    · rfl
    · exact ih fun q hq1 hq2 => h q (by omega) (by omega)

/-- A scan also runs when its tests run up to a hit: it stops there. -/
theorem scanFirst_isSome_of_hit {q : ℕ} (hq : start ≤ q) (hqn : q < start + n)
    (hit : test q = some true) (h : ∀ q', start ≤ q' → q' < q → (test q').isSome) :
    (scanFirst test start n).isSome := by
  induction n generalizing start with
  | zero => omega
  | succ n ih =>
    rcases Nat.eq_or_lt_of_le hq with rfl | hlt
    · simp only [scanFirst, hit, Option.some_bind, if_true]
      rfl
    · obtain ⟨b, ht⟩ := Option.isSome_iff_exists.1 (h start le_rfl hlt)
      simp only [scanFirst, ht, Option.some_bind]
      split
      · rfl
      · exact ih (by omega) (by omega) fun q' h1 h2 => h q' (by omega) h2

/-- A scan faults at a test that faults before any hit. -/
theorem scanFirst_eq_none {q : ℕ} (hq : start ≤ q) (hqn : q < start + n) (hf : test q = none)
    (h : ∀ q', start ≤ q' → q' < q → test q' = some false) : scanFirst test start n = none := by
  induction n generalizing start with
  | zero => omega
  | succ n ih =>
    rcases Nat.eq_or_lt_of_le hq with rfl | hlt
    · simp only [scanFirst, hf, Option.none_bind]
    · simp only [scanFirst, h start le_rfl hlt, Option.some_bind, Bool.false_eq_true, if_false]
      exact ih (by omega) (by omega) fun q' h1 h2 => h q' (by omega) h2

/-- `p` is the first offset of `[start, start + count)` at which `tag` occurs in `b`: where a
scan for `tag` stops. -/
def FirstOccurrence (b : Buffer) (tag : List UInt8) (start count p : ℕ) : Prop :=
  start ≤ p ∧ p < start + count ∧ OccursAt b p tag ∧
    ∀ q, start ≤ q → q < p → ¬ OccursAt b q tag

/-- There is one first occurrence. -/
theorem FirstOccurrence.unique {tag : List UInt8} {start count p' : ℕ}
    (h : FirstOccurrence b tag start count p) (h' : FirstOccurrence b tag start count p') :
    p = p' := by
  rcases Nat.lt_trichotomy p p' with hlt | heq | hgt
  · exact absurd h.2.2.1 (h'.2.2.2 p h.1 hlt)
  · exact heq
  · exact absurd h'.2.2.1 (h.2.2.2 p' h'.1 hgt)

/-- A scan whose test decides `OccursAt b · tag` stops at the first occurrence. -/
theorem firstOccurrence_of_scanFirst {tag : List UInt8}
    (htrue : ∀ q, test q = some true → OccursAt b q tag)
    (hfalse : ∀ q, test q = some false → ¬ OccursAt b q tag)
    (h : scanFirst test start n = some (some p)) : FirstOccurrence b tag start n p := by
  obtain ⟨h1, h2, h3, h4⟩ := scanFirst_eq_some_some_iff.1 h
  exact ⟨h1, h2, htrue p h3, fun q hq1 hq2 => hfalse q (h4 q hq1 hq2)⟩

/-- A scan whose test decides `OccursAt b · tag` runs out only when `tag` occurs nowhere. -/
theorem not_occursAt_of_scanFirst {tag : List UInt8}
    (hfalse : ∀ q, test q = some false → ¬ OccursAt b q tag)
    (h : scanFirst test start n = some none) :
    ∀ q, start ≤ q → q < start + n → ¬ OccursAt b q tag :=
  fun q hq1 hq2 => hfalse q (scanFirst_eq_some_none_iff.1 h q hq1 hq2)

theorem compareMem_test_true {tag : List UInt8}
    (h : (compareMem b p tag).map (· == 0) = some true) : OccursAt b p tag := by
  obtain ⟨x, hx, h0⟩ := Option.map_eq_some'.1 h
  exact compareMem_eq_some_zero_iff.1 (by simpa using hx.trans (congrArg some (beq_iff_eq.1 h0)))

theorem compareMem_test_false {tag : List UInt8}
    (h : (compareMem b p tag).map (· == 0) = some false) : ¬ OccursAt b p tag := by
  intro ho
  simp [compareMem_eq_some_zero_iff.2 ho] at h

theorem asciiStrCmp_test_true {s : List UInt8} (hs : 0 ∉ s)
    (h : (asciiStrCmp b p s).map (· == 0) = some true) : OccursAt b p (s ++ [0]) := by
  obtain ⟨x, hx, h0⟩ := Option.map_eq_some'.1 h
  exact (asciiStrCmp_eq_some_zero_iff hs).1 (by simpa using hx.trans (congrArg some (beq_iff_eq.1 h0)))

theorem asciiStrCmp_test_false {s : List UInt8} (hs : 0 ∉ s)
    (h : (asciiStrCmp b p s).map (· == 0) = some false) : ¬ OccursAt b p (s ++ [0]) := by
  intro ho
  simp [(asciiStrCmp_eq_some_zero_iff hs).2 ho] at h

/-! ### The table header -/

/-- `sizeof (EFI_ACPI_DESCRIPTION_HEADER)`: the scans start at `(UINT8 *)(Table + 1)`. -/
def acpiHeaderSize : ℕ := 36

/-- The little-endian value of the `k` bytes from `o` on, reading past the end as zero. -/
def leAt (t : Buffer) (o : ℕ) : ℕ → ℕ
  | 0 => 0
  | k + 1 => (t.getD o 0).toNat + 256 * leAt t (o + 1) k

/-- `Table->Length`, the `UINT32` at offset 4 of the description header; reading it faults on a
buffer too short to hold it. The driver reads it in every loop test, but nothing it stores lies
below offset 36, so one read gives the same value. -/
def tableLength (t : Buffer) : Option ℕ := if 8 ≤ t.length then some (leAt t 4 4) else none

/-- A description header of signature `"SSDT"` whose `Length` is `len`, below 256: the start of
the sample tables. -/
def sampleHeader (len : UInt8) : Buffer := [0x53, 0x53, 0x44, 0x54, len, 0, 0, 0] ++ List.replicate 28 0

theorem getD_of_getElem? {t : Buffer} {i : ℕ} {v : UInt8} (h : t[i]? = some v) :
    t.getD i 0 = v := by
  rw [List.getD_eq_getElem?_getD, h, Option.getD_some]

theorem getD_eq_of_getElem?_eq {t t' : Buffer} {i : ℕ} (h : t'[i]? = t[i]?) :
    t'.getD i 0 = t.getD i 0 := by
  simp only [List.getD_eq_getElem?_getD, h]

/-- Two buffers that agree on `[o, o + k)` read the same value there. -/
theorem leAt_congr {t₁ t₂ : Buffer} {o k : ℕ} (h : ∀ i, o ≤ i → i < o + k → t₁[i]? = t₂[i]?) :
    leAt t₁ o k = leAt t₂ o k := by
  induction k generalizing o with
  | zero => rfl
  | succ k ih =>
    simp only [leAt, List.getD_eq_getElem?_getD, h o le_rfl (by omega),
      ih (o := o + 1) fun i h1 h2 => h i (by omega) (by omega)]

/-- `Length` is read from the first eight bytes only. -/
theorem tableLength_append {a c : Buffer} (ha : 8 ≤ a.length) :
    tableLength (a ++ c) = tableLength a := by
  unfold tableLength
  rw [if_pos (by simp only [List.length_append]; omega), if_pos ha,
    leAt_congr fun _ _ h => List.getElem?_append_left (by omega)]

/-- An edit at or after offset 8 keeps `Table->Length`. -/
theorem EditedWithin.tableLength_eq {b b' : Buffer} {p width : ℕ} (he : EditedWithin b b' p width)
    (hp : 8 ≤ p) : tableLength b' = tableLength b := by
  unfold tableLength
  rw [he.length_eq, leAt_congr fun i _ hi => he.frame i (.inl (by omega))]

end Tcg2AcpiFfa
