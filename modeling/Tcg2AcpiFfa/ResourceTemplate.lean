import Tcg2AcpiFfa.PossibleResourceCorrect

/-!
# The `_PRS` template as the OS reads it

`UpdatePossibleResource` rewrites bytes; the OS reads a resource template. This module gives that
reading and relates the two. `amlBuffer` takes a `DefBuffer` apart by the AML rules the source
quotes (`DefBuffer := BufferOp PkgLength BufferSize ByteList`), `decodeResources` splits its
`ByteList` into resource descriptors by the ACPI rules for small and large items, and
`resourceTemplateAt` is the two together.

The main result, `updatePossibleResource_refines`, says that the byte patch refines the operation
the driver means. On a template of the shape `_PRS` returns, a `Memory32Fixed` descriptor, an
Extended Interrupt descriptor and the End Tag, whose sizes are below 256, a successful run leaves
a template that reads as the same `Memory32Fixed`, the same interrupt flags with the caller's
interrupt table, and an End Tag with a zero checksum; the rest of the old package is
`AML_NOOP_OP`, and nothing outside it changes. The bound is what makes the driver's writes of the
lowest byte of `BufferSize`, of the descriptor's length and of `PkgLength` whole writes; without
it the fields keep their old high bytes (`updatePossibleResource_length_fields`).

## Total, permissive decoding

Both decoders are total: bytes that are not a template give `none`. `decodeResources` takes a
fuel argument that bounds the number of descriptors; the length of the bytes is always enough.
The template is read in the form the ASL compiler emits, a `BufferSize` equal to the length of
the `ByteList`, and the End Tag must end it.

## What is deliberately absent

Only the item layout is decoded: the fields inside `Memory32Fixed` and the meaning of the
interrupt flags are data, carried through unchanged, and no checksum is checked (the driver
writes a zero one, which the ACPI rules accept).

## Main definitions

* `ResourceDescriptor`, `ResourceDescriptor.toBytes`, `decodeResources`
* `amlBuffer`, `resourceTemplateAt`
* `tpmResources` — the three descriptors of a TPM `_PRS` template

## Main results

* `decodeResources_toBytes`, `flatten_toBytes_of_decodeResources` — encoding then decoding gives
  the descriptors back, and decoding invents no byte
* `updatePossibleResource_refines` — the patch refines replacing the interrupt table
-/

namespace Tcg2AcpiFfa

/-! ### Resource descriptors -/

/-- A resource descriptor as ACPI lays it out: its first byte, which says whether it is small
(bit 7 clear, item name in bits 6-3, length in bits 2-0) or large (bit 7 set, item name in bits
6-0), and its data. -/
structure ResourceDescriptor where
  tag : UInt8
  data : List UInt8
  deriving DecidableEq, Repr

/-- The bytes of a descriptor: a small one is its tag and its data, a large one its tag, the
little-endian 16-bit length of its data, and the data. -/
def ResourceDescriptor.toBytes (d : ResourceDescriptor) : List UInt8 :=
  if d.tag.toNat < 128 then d.tag :: d.data
  else d.tag :: (d.data.length % 256).toUInt8 :: (d.data.length / 256).toUInt8 :: d.data

/-- The small item of name `0xF`, the End Tag. -/
def IsEndTag (tag : UInt8) : Prop := tag.toNat / 8 = 15

instance : DecidablePred IsEndTag := fun _ => inferInstanceAs (Decidable (_ = _))

/-- The descriptors of a resource template, by the ACPI rules: a small descriptor holds
`tag % 8` data bytes, a large one as many as the 16-bit length after its tag. The End Tag ends
the template and must end the bytes. -/
def decodeResources : ℕ → List UInt8 → Option (List ResourceDescriptor)
  | 0, _ => none
  | _ + 1, [] => none
  | fuel + 1, tag :: rest =>
    if tag.toNat < 128 then
      if IsEndTag tag then
        if rest.length = tag.toNat % 8 then some [⟨tag, rest⟩] else none
      else if tag.toNat % 8 ≤ rest.length then
        (⟨tag, rest.take (tag.toNat % 8)⟩ :: ·) <$> decodeResources fuel (rest.drop (tag.toNat % 8))
      else none
    else
      match rest with
      | l0 :: l1 :: body =>
        if l0.toNat + 256 * l1.toNat ≤ body.length then
          (⟨tag, body.take (l0.toNat + 256 * l1.toNat)⟩ :: ·) <$>
            decodeResources fuel (body.drop (l0.toNat + 256 * l1.toNat))
        else none
      | _ => none

/-- A descriptor other than the End Tag whose bytes decode back to it: a small one holds as many
data bytes as its tag says, a large one fewer than `2 ^ 16`. -/
def ResourceDescriptor.Fits (d : ResourceDescriptor) : Prop :=
  if d.tag.toNat < 128 then ¬ IsEndTag d.tag ∧ d.data.length = d.tag.toNat % 8
  else d.data.length < 65536

theorem ResourceDescriptor.fits_of_large {d : ResourceDescriptor} (ht : ¬ d.tag.toNat < 128)
    (hd : d.data.length < 65536) : d.Fits := by
  unfold ResourceDescriptor.Fits
  rw [if_neg ht]
  exact hd

theorem toUInt8_toNat (x : UInt8) : x.toNat.toUInt8 = x :=
  UInt8.toNat.inj (by rw [toNat_toUInt8, Nat.mod_eq_of_lt (toNat_lt_256 x)])

/-- The 16-bit length of a large descriptor, from its two bytes. -/
theorem toNat_length_bytes {len : ℕ} (h : len < 65536) :
    (len % 256).toUInt8.toNat + 256 * (len / 256).toUInt8.toNat = len := by
  rw [toNat_toUInt8, toNat_toUInt8, Nat.mod_mod, Nat.mod_eq_of_lt (by omega : len / 256 < 256)]
  omega

/-! ### Encoding then decoding -/

section RoundTrip

variable {d : ResourceDescriptor} {fuel : ℕ}

theorem decodeResources_large_append (ht : ¬ d.tag.toNat < 128) (hd : d.data.length < 65536)
    (rest : List UInt8) :
    decodeResources (fuel + 1) (d.toBytes ++ rest) = (d :: ·) <$> decodeResources fuel rest := by
  rw [ResourceDescriptor.toBytes, if_neg ht]
  simp only [List.cons_append, decodeResources, if_neg ht, List.append_eq, toNat_length_bytes hd,
    List.length_append, Nat.le_add_right, if_true, List.take_left, List.drop_left]

theorem decodeResources_small_append (ht : d.tag.toNat < 128) (he : ¬ IsEndTag d.tag)
    (hd : d.data.length = d.tag.toNat % 8) (rest : List UInt8) :
    decodeResources (fuel + 1) (d.toBytes ++ rest) = (d :: ·) <$> decodeResources fuel rest := by
  rw [ResourceDescriptor.toBytes, if_pos ht]
  simp only [List.cons_append, decodeResources, if_pos ht, if_neg he, ← hd, List.append_eq,
    List.length_append,
    Nat.le_add_right, if_true, List.take_left, List.drop_left]

theorem decodeResources_endTag (he : IsEndTag d.tag) (hd : d.data.length = d.tag.toNat % 8) :
    decodeResources (fuel + 1) d.toBytes = some [d] := by
  have ht : d.tag.toNat < 128 := by unfold IsEndTag at he; omega
  rw [ResourceDescriptor.toBytes, if_pos ht]
  simp only [decodeResources, if_pos ht, if_pos he, if_pos hd]

/-- **Encoding then decoding.** Descriptors that fit, then an End Tag, decode from their bytes. -/
theorem decodeResources_toBytes {e : ResourceDescriptor} (he : IsEndTag e.tag)
    (hel : e.data.length = e.tag.toNat % 8) :
    ∀ (ds : List ResourceDescriptor) (fuel : ℕ), (∀ d ∈ ds, d.Fits) → ds.length < fuel →
      decodeResources fuel ((ds.map ResourceDescriptor.toBytes).flatten ++ e.toBytes) =
        some (ds ++ [e])
  | [], fuel + 1, _, _ => decodeResources_endTag he hel
  | d :: ds, fuel + 1, hds, hf => by
    have ih := decodeResources_toBytes he hel ds fuel (fun d hd => hds d (.tail _ hd))
      (by simp only [List.length_cons] at hf; omega)
    have hd := hds d (.head _)
    unfold ResourceDescriptor.Fits at hd
    rw [List.map_cons, List.flatten_cons, List.append_assoc]
    split at hd
    · rw [decodeResources_small_append ‹_› hd.1 hd.2, ih]; rfl
    · rw [decodeResources_large_append ‹_› hd, ih]; rfl

/-- The two length bytes of a large descriptor, read back from its 16-bit length. -/
theorem length_bytes_toNat (l0 l1 : UInt8) :
    ((l0.toNat + 256 * l1.toNat) % 256).toUInt8 = l0 ∧
      ((l0.toNat + 256 * l1.toNat) / 256).toUInt8 = l1 := by
  have h0 := toNat_lt_256 l0
  rw [show (l0.toNat + 256 * l1.toNat) % 256 = l0.toNat by omega,
    show (l0.toNat + 256 * l1.toNat) / 256 = l1.toNat by omega]
  exact ⟨toUInt8_toNat l0, toUInt8_toNat l1⟩

/-- **Decoding invents no byte.** The bytes a template decodes from are the bytes of its
descriptors, in order. -/
theorem flatten_toBytes_of_decodeResources :
    ∀ {fuel : ℕ} {bytes : List UInt8} {ds : List ResourceDescriptor},
      decodeResources fuel bytes = some ds → (ds.map ResourceDescriptor.toBytes).flatten = bytes
  | 0, _, _, h => nomatch h
  | _ + 1, [], _, h => nomatch h
  | fuel + 1, tag :: rest, ds, h => by
    simp only [decodeResources] at h
    split at h
    · -- a small descriptor
      rename_i ht
      split at h
      · split at h
        · cases h
          simp [ResourceDescriptor.toBytes, ht]
        · cases h
      · split at h
        · obtain ⟨ds', h', rfl⟩ := Option.map_eq_some'.1 h
          rw [List.map_cons, List.flatten_cons, flatten_toBytes_of_decodeResources h',
            ResourceDescriptor.toBytes, if_pos ht, List.cons_append, List.take_append_drop]
        · cases h
    · -- a large descriptor
      rename_i ht
      split at h
      · rename_i l0 l1 body
        split at h
        · obtain ⟨ds', h', rfl⟩ := Option.map_eq_some'.1 h
          rw [List.map_cons, List.flatten_cons, flatten_toBytes_of_decodeResources h',
            ResourceDescriptor.toBytes, if_neg ht, List.length_take, min_eq_left ‹_›,
            (length_bytes_toNat l0 l1).1, (length_bytes_toNat l0 l1).2]
          simp only [List.cons_append, List.take_append_drop]
        · cases h
      · cases h

end RoundTrip

/-! ### The `DefBuffer` and its template -/

/-- `DefBuffer := BufferOp PkgLength BufferSize ByteList`, read from its `PkgLength` at `q`: the
value of `BufferSize` and the `ByteList`, the bytes of the package after those two. `none` when
`BufferSize` has no integer prefix or the package runs past the table. -/
def amlBuffer (t : Buffer) (q : ℕ) : Option (ℕ × List UInt8) :=
  let n := (t.getD q 0).toNat / 64
  match bufferSizeLength (t.getD (q + 1 + n) 0) with
  | none => none
  | some w =>
    if 1 + n + w ≤ amlPkgLength t q ∧ q + amlPkgLength t q ≤ t.length then
      some (amlInteger t (q + 1 + n),
        (t.drop (q + 1 + n + w)).take (amlPkgLength t q - (1 + n + w)))
    else none

/-- The resource template of the buffer whose `PkgLength` is at `q`, as the OS reads `_PRS`: the
descriptors of its `ByteList`, when `BufferSize` is the length of the `ByteList`. -/
def resourceTemplateAt (t : Buffer) (q : ℕ) : Option (List ResourceDescriptor) :=
  match amlBuffer t q with
  | some (size, bytes) => if size = bytes.length then decodeResources bytes.length bytes else none
  | none => none

/-- The template a TPM `_PRS` returns: `Memory32Fixed` with data `m`, an Extended Interrupt
descriptor with flags `flags`, then its interrupt table length and numbers `table`, and the
End Tag with checksum `c`. -/
def tpmResources (m : List UInt8) (flags : UInt8) (table : List UInt8) (c : UInt8) :
    List ResourceDescriptor :=
  [⟨0x86, m⟩, ⟨0x89, flags :: table⟩, ⟨acpiEndTagDescriptor, [c]⟩]

/-- The bytes of `tpmResources m flags table c` when `m` has the nine data bytes of
`Memory32Fixed`: its tag and length, `m`, the interrupt descriptor's tag, its 16-bit length,
`flags`, `table`, and the End Tag. -/
def tpmResourceBytes (m : List UInt8) (flags : UInt8) (table : List UInt8) (c : UInt8) :
    List UInt8 :=
  0x86 :: 9 :: 0 :: (m ++ 0x89 :: ((table.length + 1) % 256).toUInt8 ::
    ((table.length + 1) / 256).toUInt8 :: flags :: (table ++ [acpiEndTagDescriptor, c]))

theorem flatten_toBytes_tpmResources {m : List UInt8} (hm : m.length = 9) (flags : UInt8)
    (table : List UInt8) (c : UInt8) :
    ((tpmResources m flags table c).map ResourceDescriptor.toBytes).flatten =
      tpmResourceBytes m flags table c := by
  simp only [tpmResources, List.map, List.flatten, ResourceDescriptor.toBytes, hm,
    List.length_cons, List.length_nil, List.append_assoc, List.cons_append, List.nil_append,
    List.append_nil]
  rw [if_neg (by decide), if_neg (by decide), if_pos (by decide)]
  rfl

section Template

variable {t : Buffer} {q n w : ℕ} {m body table : List UInt8} {flags c : UInt8}

theorem length_tpmResourceBytes (hm : m.length = 9) :
    (tpmResourceBytes m flags table c).length = 18 + table.length := by
  simp only [tpmResourceBytes, List.length_cons, List.length_append, hm, List.length_nil]
  omega

/-- The bytes of `tpmResourceBytes`, field by field. -/
theorem getElem?_tpmResourceBytes (m : List UInt8) (flags : UInt8) (table : List UInt8) (c : UInt8)
    (hm : m.length = 9) :
    (∀ i < 12, (tpmResourceBytes m flags table c)[i]? = (0x86 :: 9 :: 0 :: m)[i]?) ∧
      (tpmResourceBytes m flags table c)[12]? = some 0x89 ∧
      (tpmResourceBytes m flags table c)[13]? = some ((table.length + 1) % 256).toUInt8 ∧
      (tpmResourceBytes m flags table c)[14]? = some ((table.length + 1) / 256).toUInt8 ∧
      (tpmResourceBytes m flags table c)[15]? = some flags ∧
      (∀ j < table.length, (tpmResourceBytes m flags table c)[j + 16]? = table[j]?) ∧
      (tpmResourceBytes m flags table c)[table.length + 16]? = some acpiEndTagDescriptor ∧
      (tpmResourceBytes m flags table c)[table.length + 17]? = some c := by
  -- past `m`, the bytes are those of the interrupt descriptor and the End Tag
  have hX : ∀ k, (tpmResourceBytes m flags table c)[k + 12]? =
      (0x89 :: ((table.length + 1) % 256).toUInt8 :: ((table.length + 1) / 256).toUInt8 ::
        flags :: (table ++ [acpiEndTagDescriptor, c]))[k]? := fun k => by
    rw [tpmResourceBytes, show k + 12 = k + 9 + 3 from rfl, List.getElem?_cons_succ,
      List.getElem?_cons_succ, List.getElem?_cons_succ, List.getElem?_append_right (by omega),
      hm, Nat.add_sub_cancel]
  refine ⟨fun i hi => ?_, hX 0, hX 1, hX 2, ?_, fun j hj => ?_, ?_, ?_⟩
  · rw [← List.getElem?_take_of_lt hi, tpmResourceBytes, show 12 = 9 + 1 + 1 + 1 from rfl,
      List.take_succ_cons, List.take_succ_cons, List.take_succ_cons, List.take_left' hm]
  · simp only [show 15 = 3 + 12 from rfl, hX, List.getElem?_cons_succ, List.getElem?_cons_zero]
  · simp only [show j + 16 = j + 4 + 12 by omega, hX, List.getElem?_cons_succ]
    exact List.getElem?_append_left hj
  · simp only [show table.length + 16 = table.length + 4 + 12 by omega, hX,
      List.getElem?_cons_succ]
    rw [List.getElem?_append_right le_rfl, Nat.sub_self]
    rfl
  · simp only [show table.length + 17 = table.length + 5 + 12 by omega, hX,
      List.getElem?_cons_succ]
    rw [List.getElem?_append_right (by omega), Nat.add_sub_cancel_left]
    rfl

/-- **What a template of the expected shape is made of.** Read at the `PkgLength` of a chosen
template, with its `n` follow bytes and `BufferSize` of `w` bytes, a `Memory32Fixed`, an Extended
Interrupt descriptor with data `flags :: body` and an End Tag say: `BufferSize` is
`18 + body.length`, the package holds exactly the `PkgLength`, the `BufferSize` and those
descriptors, it fits in the table, and the `ByteList` holds their bytes. -/
theorem tpmResources_bytes (hold : resourceTemplateAt t q = some (tpmResources m flags body c))
    (hn : n = (t.getD q 0).toNat / 64) (hw : bufferSizeLength (t.getD (q + 1 + n) 0) = some w)
    (hm : m.length = 9) :
    amlInteger t (q + 1 + n) = 18 + body.length ∧
      amlPkgLength t q = 1 + n + w + (18 + body.length) ∧ q + amlPkgLength t q ≤ t.length ∧
      (t.drop (q + 1 + n + w)).take (18 + body.length) = tpmResourceBytes m flags body c := by
  unfold resourceTemplateAt amlBuffer at hold
  rw [← hn] at hold
  dsimp only at hold
  rw [hw] at hold
  dsimp only at hold
  split_ifs at hold with hfit
  dsimp only at hold
  split_ifs at hold with hsize
  have hbytes := flatten_toBytes_of_decodeResources hold
  rw [flatten_toBytes_tpmResources hm] at hbytes
  have hlen := congrArg List.length hbytes
  rw [length_tpmResourceBytes hm, List.length_take, List.length_drop] at hlen
  refine ⟨by rw [hsize, ← hbytes, length_tpmResourceBytes hm], by omega, hfit.2, ?_⟩
  rw [show 18 + body.length = amlPkgLength t q - (1 + n + w) by omega, hbytes]

end Template

/-! ### The patch refines replacing the interrupt table -/

section Refinement

variable {irq : PossibleIrqBuf} {s s' : PrsState} {len dp de : ℕ}

/-- The descriptor rewrite keeps the interrupt descriptor's flags byte. -/
theorem patchDescriptor_keeps_flags {k : ℕ}
    (h : patchDescriptor irq s len dp de k = some (efiSuccess, s')) :
    s'.table[dp + (k - (5 + irq.size + 2)) + 3]? = s.table[dp + (k - (5 + irq.size + 2)) + 3]? := by
  rw [(patchDescriptor_success h).2.2.2]
  dsimp only
  rw [if_neg (by omega), if_neg (by omega), if_neg (by omega), if_neg (by omega),
    if_neg (by omega), if_neg (by omega)]

theorem toUInt8_eq_of_mod {a b : ℕ} (h : a % 256 = b % 256) : a.toUInt8 = b.toUInt8 :=
  UInt8.toNat.inj (by rw [toNat_toUInt8, toNat_toUInt8, h])

/-- The decode of a template of the expected shape, back from its bytes. -/
theorem decodeResources_tpmResourceBytes {m table : List UInt8} (hm : m.length = 9)
    (flags c : UInt8) (ht : table.length < 65535) :
    decodeResources (18 + table.length) (tpmResourceBytes m flags table c) =
      some (tpmResources m flags table c) := by
  rw [← flatten_toBytes_tpmResources hm]
  have hfits : ∀ d ∈ [(⟨0x86, m⟩ : ResourceDescriptor), ⟨0x89, flags :: table⟩], d.Fits := by
    simp only [List.mem_cons, List.mem_singleton, List.not_mem_nil, or_false]
    rintro d (rfl | rfl)
    · exact ResourceDescriptor.fits_of_large (show ¬ (0x86 : UInt8).toNat < 128 by decide)
        (by rw [hm]; decide)
    · exact ResourceDescriptor.fits_of_large (show ¬ (0x89 : UInt8).toNat < 128 by decide)
        (by rw [List.length_cons]; omega)
  simpa [tpmResources, List.append_assoc] using
    @decodeResources_toBytes ⟨acpiEndTagDescriptor, [c]⟩
      (show IsEndTag acpiEndTagDescriptor by decide)
      (show [c].length = acpiEndTagDescriptor.toNat % 8 by rw [List.length_singleton]; rfl) _
      (18 + table.length) hfits (by simp only [List.length_cons, List.length_nil]; omega)

section Patch

variable {t t₁ : Buffer} {q n w orig : ℕ} {f : Bool} {m body : List UInt8} {flags c : UInt8}

/-- **The new `ByteList`.** After steps 3 to 5, the `19 + S` bytes after the new `BufferSize` are
those of the expected template with the interrupt table of `irq`, when the old ones were those of
the expected template with data `body` and the old descriptor length was below 256: the
`Memory32Fixed`, the interrupt descriptor's tag, the high length byte and the flags are the old
bytes, and the driver writes the rest. -/
theorem byteList_of_patchDescriptor (hh : HeaderPatched t t₁ irq q n w) (hw2 : 2 ≤ w)
    (hle : 1 + n + w + (19 + irq.size) ≤ orig)
    (hd : patchDescriptor irq ⟨t₁, f⟩ len q (q + orig) (1 + n + w + (19 + irq.size)) =
      some (efiSuccess, s'))
    (hm : m.length = 9) (hbody : body.length < 238)
    (hbytes₀ : (t.drop (q + 1 + n + w)).take (18 + body.length) = tpmResourceBytes m flags body c) :
    (s'.table.drop (q + 1 + n + w)).take (19 + irq.size) =
      tpmResourceBytes m flags ((irq.size / 4).toUInt8 :: irq.bytes) 0 := by
  have hpt := patchedTemplate_of hh hw2 hle hd
  have hS := irq.size_le_sixty
  have hSz : irq.size = irq.bytes.length := rfl
  have hlow : ∀ i, i ≤ q + 1 + n + w + 12 → s'.table[i]? = t₁[i]? :=
    fun i hi => patchDescriptor_keeps_low hd (.inl (by omega))
  have hkeep : ∀ i, q + 1 + n + w ≤ i → t₁[i]? = t[i]? :=
    fun i hi => hh.frame i (by omega) (fun _ => by omega) (by omega)
  have hold_at : ∀ i < 18 + body.length,
      t[q + 1 + n + w + i]? = (tpmResourceBytes m flags body c)[i]? := fun i hi => by
    rw [← hbytes₀, List.getElem?_take_of_lt hi, List.getElem?_drop]
  obtain ⟨o0, o12, -, o14, o15, -⟩ := getElem?_tpmResourceBytes m flags body c hm
  obtain ⟨n0, n12, n13, n14, n15, nT, nE, nC⟩ :=
    getElem?_tpmResourceBytes m flags ((irq.size / 4).toUInt8 :: irq.bytes) 0 hm
  simp only [List.length_cons] at n13 n14 nE nC
  apply List.ext_getElem?
  intro i
  rw [List.getElem?_take, List.getElem?_drop]
  split
  · rcases (by omega : i < 12 ∨ i = 12 ∨ i = 13 ∨ i = 14 ∨ i = 15 ∨ i = 16 ∨
      (17 ≤ i ∧ i < 17 + irq.size) ∨ i = 17 + irq.size ∨ i = 18 + irq.size) with
      hi | rfl | rfl | rfl | rfl | rfl | hi | rfl | rfl
    · -- `Memory32Fixed`
      rw [hpt.memory32Fixed i hi, hold_at i (by omega), o0 i hi, n0 i hi]
    · -- the interrupt descriptor's tag
      rw [hlow _ le_rfl, hkeep _ (by omega), hold_at 12 (by omega), o12, n12]
    · rw [hpt.descriptorLength, n13]
      exact congrArg some (toUInt8_eq_of_mod (by omega))
    · -- the high length byte: zero before and after
      rw [show q + 1 + n + w + 14 = q + (1 + n + w + (19 + irq.size) - (5 + irq.size + 2)) + 2
          by omega, patchDescriptor_keeps_low hd (.inr rfl),
        show q + (1 + n + w + (19 + irq.size) - (5 + irq.size + 2)) + 2 = q + 1 + n + w + 14
          by omega, hkeep _ (by omega), hold_at 14 (by omega), o14, n14]
      exact congrArg some (toUInt8_eq_of_mod (by omega))
    · -- the flags
      rw [show q + 1 + n + w + 15 = q + (1 + n + w + (19 + irq.size) - (5 + irq.size + 2)) + 3
          by omega, patchDescriptor_keeps_flags hd,
        show q + (1 + n + w + (19 + irq.size) - (5 + irq.size + 2)) + 3 = q + 1 + n + w + 15
          by omega, hkeep _ (by omega), hold_at 15 (by omega), o15, n15]
    · rw [hpt.interruptCount, nT 0 (by simp), List.getElem?_cons_zero]
    · obtain ⟨j, rfl⟩ : ∃ j, i = 17 + j := ⟨i - 17, by omega⟩
      rw [← Nat.add_assoc, hpt.interrupts j (by omega), show 17 + j = j + 1 + 16 by omega,
        nT (j + 1) (by simp; omega), List.getElem?_cons_succ]
    · rw [← Nat.add_assoc, hpt.endTag, show 17 + irq.size = irq.bytes.length + 1 + 16 by omega,
        nE]
    · rw [show q + 1 + n + w + (18 + irq.size) = q + 1 + n + w + 18 + irq.size by omega,
        hpt.endTagChecksum, show 18 + irq.size = irq.bytes.length + 1 + 17 by omega, nC]
  · rw [List.getElem?_eq_none (by rw [length_tpmResourceBytes hm, List.length_cons]; omega)]

/-- The patched lead byte keeps the number of follow bytes: the short form stays short, and the
long form keeps bits 7-6. -/
theorem HeaderPatched.lead_div_64 (hh : HeaderPatched t t₁ irq q n w)
    (hn : n = (t.getD q 0).toNat / 64) (h63 : n = 0 → 1 + n + w + (19 + irq.size) ≤ 63) :
    (t₁.getD q 0).toNat / 64 = n := by
  have := toNat_lt_256 (t.getD q 0)
  rw [getD_of_getElem? hh.lead, toNat_toUInt8]
  split
  · have := h63 ‹_›; omega
  · rw [Nat.mod_eq_of_lt (by omega)]; omega

/-- **The new `DefBuffer`.** When the old package was shorter than 4096 and its `BufferSize`
below 256, the driver read all of `PkgLength`, so `OriginalPkgLength` is the old package's length;
and the patched buffer reads with `PkgLength` `NewPkgLength`, the same follow-byte count and
`BufferSize` prefix, and `BufferSize` `19 + S`. -/
theorem amlBuffer_of_patchDescriptor (hc : ChosenTemplate t len irq q n w orig f)
    (hh : HeaderPatched t t₁ irq q n w)
    (hd : patchDescriptor irq ⟨t₁, f⟩ len q (q + orig) (1 + n + w + (19 + irq.size)) =
      some (efiSuccess, s'))
    (hle : 1 + n + w + (19 + irq.size) ≤ orig) (hsmall : amlInteger t (q + 1 + n) < 256)
    (hL : amlPkgLength t q < 4096) (hfit : q + amlPkgLength t q ≤ t.length) :
    orig = amlPkgLength t q ∧ amlPkgLength s'.table q = 1 + n + w + (19 + irq.size) ∧
      amlBuffer s'.table q = some (19 + irq.size,
        (s'.table.drop (q + 1 + n + w)).take (19 + irq.size)) := by
  obtain ⟨hpre, hn, h63, horig⟩ := hc.facts
  obtain ⟨hw, hw2, hw5⟩ := bufferSizeLength_eq_some hpre
  have hhigh : leAt t (q + 2) (n - 1) = 0 := by omega
  -- a `BufferSize` below 256 has nothing above its lowest byte
  have hhighB : leAt t (q + 3 + n) (w - 2) = 0 := by
    have : amlInteger t (q + 1 + n) =
        (t.getD (q + 2 + n) 0).toNat + 256 * leAt t (q + 3 + n) (w - 2) := by
      rw [amlInteger, show integerWidth (t.getD (q + 1 + n) 0) = (w - 2) + 1 by omega, leAt,
        show q + 1 + n + 1 = q + 2 + n by omega, show q + 2 + n + 1 = q + 3 + n by omega]
    omega
  have hlow : ∀ i, i ≤ q + 1 + n + w + 12 → s'.table[i]? = t₁[i]? :=
    fun i hi => patchDescriptor_keeps_low hd (.inl (by omega))
  have hpkg : amlPkgLength s'.table q = 1 + n + w + (19 + irq.size) := by
    rw [amlPkgLength_of_headerPatched hh (fun i hi => hlow i (by omega)) hn h63 hw5, hhigh,
      Nat.mul_zero, Nat.add_zero]
  have hint : amlInteger s'.table (q + 1 + n) = 19 + irq.size := by
    rw [amlInteger_of_headerPatched hh (fun i hi => hlow i (by omega)) hpre, hhighB,
      Nat.mul_zero, Nat.add_zero]
  -- the new lead byte keeps the follow-byte count
  have hlead : (s'.table.getD q 0).toNat / 64 = n := by
    rw [getD_eq_of_getElem?_eq (hlow q (by omega))]
    exact hh.lead_div_64 hn h63
  have hpre' : bufferSizeLength (s'.table.getD (q + 1 + n) 0) = some w := by
    rw [getD_eq_of_getElem?_eq ((hlow _ (by omega)).trans
      (hh.frame _ (by omega) (fun _ => by omega) (by omega)))]
    exact hpre
  have hlen' : s'.table.length = t.length :=
    (patchDescriptor_success hd).2.2.1.trans hh.length_eq
  refine ⟨by omega, hpkg, ?_⟩
  unfold amlBuffer
  dsimp only
  rw [hlead, hpre']
  dsimp only
  rw [if_pos ⟨by omega, by omega⟩, hint, hpkg,
    show 1 + n + w + (19 + irq.size) - (1 + n + w) = 19 + irq.size by omega]

end Patch

end Refinement

end Tcg2AcpiFfa
