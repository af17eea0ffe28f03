import Tcg2AcpiFfa.Aml

/-!
# `UpdatePPVersion`: the physical presence interface version

`UpdatePPVersion` finds the first `"$PV"` string of the table and copies the platform's version
string `PPVer` over it with `AsciiStrCpyS`, whose destination size is
`PHYSICAL_PRESENCE_VERSION_SIZE`, the four bytes of the tag with its `NUL`.

## Scope

`AsciiStrCpyS` is modelled with the two checks of `BaseLib` that can fail here: a zero `DestMax`,
and a source of `DestMax` or more characters. Its null-pointer, `ASCII_RSIZE_MAX` and overlap
checks cannot fail: `PPVer` is a PCD string outside the table and `DestMax` is 4. It copies the
characters and the `NUL` and nothing more, so a version shorter than three characters leaves the
end of the tag behind its `NUL` (`ppSsdt_oneChar_version`).

## Main definitions

* `AsciiString` — a `NUL`-terminated string, by its characters
* `asciiStrCpyS`, `updatePPVersion`
* `PPVersionEdit` — the table, or the table with its first version field rewritten

## Main results

* `updatePPVersion_spec` — what a run leaves in the table
* `updatePPVersion_edits` — a run rewrites at most the four bytes of the first tag
* `updatePPVersion_isSome` — no access outside a table whose `Length` is its size
-/

namespace Tcg2AcpiFfa

/-! ### Constants and strings -/

/-- `PHYSICAL_PRESENCE_VERSION_TAG`, `"$PV"`, without its `NUL`. -/
def physicalPresenceVersionTag : List UInt8 := [0x24, 0x50, 0x56]

/-- `PHYSICAL_PRESENCE_VERSION_SIZE`. -/
def physicalPresenceVersionSize : ℕ := 4

/-- A `CHAR8 *` string, by its characters before the terminating `NUL`. -/
structure AsciiString where
  /-- The characters. -/
  chars : List UInt8
  /-- None of them is `NUL`. -/
  no_nul : 0 ∉ chars
  deriving DecidableEq

/-- `AsciiStrnLenS (String, MaxSize)`: the length of the string, or `MaxSize` when it has at least
that many characters. -/
def asciiStrnLenS (s : AsciiString) (maxSize : ℕ) : ℕ := min s.chars.length maxSize

/-- `AsciiStrCpyS (Destination, DestMax, Source)`, `Destination` at offset `dst` of the buffer:
`RETURN_INVALID_PARAMETER` for a zero `DestMax`, `RETURN_BUFFER_TOO_SMALL` when the source does
not fit with its `NUL`, and otherwise the characters and the `NUL` copied. -/
def asciiStrCpyS (b : Buffer) (dst destMax : ℕ) (src : AsciiString) :
    Option (EfiStatus × Buffer) :=
  if destMax = 0 then some (efiInvalidParameter, b)
  else if destMax ≤ asciiStrnLenS src destMax then some (efiBufferTooSmall, b)
  else do
    let b ← writeBytes b dst (src.chars ++ [0])
    pure (efiSuccess, b)

/-! ### `UpdatePPVersion` -/

/-- Offsets the scan tests: `DataPtr` runs from `(UINT8 *)(Table + 1)` while
`DataPtr <= (UINT8 *)Table + Table->Length - PHYSICAL_PRESENCE_VERSION_SIZE`. -/
def ppScanCount (len : ℕ) : ℕ := len + 1 - (physicalPresenceVersionSize + acpiHeaderSize)

/-- `UpdatePPVersion (Table, PPVer)`: the status it returns and the table. -/
def updatePPVersion (t : Buffer) (ppVer : AsciiString) : Option (EfiStatus × Buffer) := do
  let len ← tableLength t
  let hit ← scanFirst (fun p => (asciiStrCmp t p physicalPresenceVersionTag).map (· == 0))
    acpiHeaderSize (ppScanCount len)
  match hit with
  | none => pure (efiNotFound, t)
  | some p => asciiStrCpyS t p physicalPresenceVersionSize ppVer

/-- No `"$PV"` with its `NUL` in the scan range of a table of header length `len`. -/
def NoPPVersionTag (t : Buffer) (len : ℕ) : Prop :=
  ∀ q, acpiHeaderSize ≤ q → q < acpiHeaderSize + ppScanCount len →
    ¬ OccursAt t q (physicalPresenceVersionTag ++ [0])

/-- `t'` is `t`, or `t` with only the four bytes of its first `"$PV"` rewritten. -/
def PPVersionEdit (t t' : Buffer) : Prop :=
  t' = t ∨ ∃ len p, tableLength t = some len ∧
    FirstOccurrence t (physicalPresenceVersionTag ++ [0]) acpiHeaderSize (ppScanCount len) p ∧
    EditedWithin t t' p physicalPresenceVersionSize

/-! ### A sample table -/

/-- `Name (PPVS, "$PV")`. -/
def ppvsName : List UInt8 := [0x08, 0x50, 0x50, 0x56, 0x53, 0x0D] ++ physicalPresenceVersionTag ++ [0]

/-- A 46-byte table holding `ppvsName`. -/
def ppSsdt : Buffer := sampleHeader 46 ++ ppvsName

/-- The version `"1.3"`. -/
def sampleVersion : AsciiString := ⟨[0x31, 0x2E, 0x33], by decide⟩

/-- The version `"1"`. -/
def oneCharVersion : AsciiString := ⟨[0x31], by decide⟩

/-! ### What a run does -/

section Run

variable {t t' : Buffer} {ppVer : AsciiString} {st : EfiStatus}

/-- The copy refuses a zero `DestMax` and a source that does not fit with its `NUL`, and
otherwise writes the characters and the `NUL`. -/
theorem asciiStrCpyS_eq_some {dst destMax : ℕ}
    (h : asciiStrCpyS t dst destMax ppVer = some (st, t')) :
    destMax = 0 ∧ st = efiInvalidParameter ∧ t' = t ∨
      0 < destMax ∧ destMax ≤ ppVer.chars.length ∧ st = efiBufferTooSmall ∧ t' = t ∨
      ppVer.chars.length < destMax ∧ st = efiSuccess ∧
        writeBytes t dst (ppVer.chars ++ [0]) = some t' := by
  unfold asciiStrCpyS asciiStrnLenS at h
  split at h
  · cases h; exact .inl ⟨‹_›, rfl, rfl⟩
  split at h
  · cases h; exact .inr (.inl ⟨by omega, by omega, rfl, rfl⟩)
  obtain ⟨b, hb, h⟩ := Option.bind_eq_some.1 h
  cases h
  exact .inr (.inr ⟨by omega, rfl, hb⟩)

/-- Every run of `UpdatePPVersion`: either no tag in the scan range, or the first one, four bytes
inside the table, and the outcome of the copy there. -/
theorem updatePPVersion_eq_some (h : updatePPVersion t ppVer = some (st, t')) :
    ∃ len, tableLength t = some len ∧
      (NoPPVersionTag t len ∧ st = efiNotFound ∧ t' = t ∨
        ∃ p, FirstOccurrence t (physicalPresenceVersionTag ++ [0]) acpiHeaderSize
            (ppScanCount len) p ∧ p + physicalPresenceVersionSize ≤ t.length ∧
          (ppVer.chars.length < physicalPresenceVersionSize ∧ st = efiSuccess ∧
              writeBytes t p (ppVer.chars ++ [0]) = some t' ∨
            physicalPresenceVersionSize ≤ ppVer.chars.length ∧ st = efiBufferTooSmall ∧
              t' = t)) := by
  have hnul : (0 : UInt8) ∉ physicalPresenceVersionTag := by decide
  unfold updatePPVersion at h
  obtain ⟨len, hlen, h⟩ := Option.bind_eq_some.1 h
  obtain ⟨hit, hs, h⟩ := Option.bind_eq_some.1 h
  refine ⟨len, hlen, ?_⟩
  cases hit with
  | none =>
    cases h
    exact .inl ⟨not_occursAt_of_scanFirst (fun _ => asciiStrCmp_test_false hnul) hs, rfl, rfl⟩
  | some p =>
    have hfo := firstOccurrence_of_scanFirst (fun _ => asciiStrCmp_test_true hnul)
      (fun _ => asciiStrCmp_test_false hnul) hs
    have h4 : p + 4 ≤ t.length := by
      simpa [physicalPresenceVersionTag] using hfo.2.2.1.add_length_le (by decide)
    refine .inr ⟨p, hfo, h4, ?_⟩
    rcases asciiStrCpyS_eq_some h with ⟨h0, -⟩ | ⟨-, hl, rfl, rfl⟩ | ⟨hl, rfl, hw⟩
    · exact absurd h0 (by decide)
    · exact .inr ⟨hl, rfl, rfl⟩
    · exact .inl ⟨hl, rfl, hw⟩

/-- **What `UpdatePPVersion` leaves in the table.** With no `"$PV"` in the scan range it returns
`EFI_NOT_FOUND` and leaves the table as it was. Otherwise, at the first one, a version of at most
three characters is copied with its `NUL`, and the bytes of the tag after them are kept; a longer
version is refused with `EFI_BUFFER_TOO_SMALL` and the table is as it was. -/
theorem updatePPVersion_spec (h : updatePPVersion t ppVer = some (st, t')) :
    ∃ len, tableLength t = some len ∧
      (NoPPVersionTag t len ∧ st = efiNotFound ∧ t' = t ∨
        ∃ p, FirstOccurrence t (physicalPresenceVersionTag ++ [0]) acpiHeaderSize
            (ppScanCount len) p ∧
          (ppVer.chars.length < physicalPresenceVersionSize ∧ st = efiSuccess ∧
              t' = t.take p ++ ppVer.chars ++ [0] ++ t.drop (p + ppVer.chars.length + 1) ∨
            physicalPresenceVersionSize ≤ ppVer.chars.length ∧ st = efiBufferTooSmall ∧
              t' = t)) := by
  obtain ⟨len, hlen, hn | ⟨p, hfo, h4, ⟨hl, hst, hw⟩ | hbig⟩⟩ := updatePPVersion_eq_some h
  · exact ⟨len, hlen, .inl hn⟩
  · simp only [physicalPresenceVersionSize] at hl h4
    rw [writeBytes_eq_splice (by simp; omega), List.length_append, List.length_singleton,
      ← Nat.add_assoc, ← List.append_assoc] at hw
    exact ⟨len, hlen, .inr ⟨p, hfo, .inl ⟨hl, hst, (Option.some.inj hw).symm⟩⟩⟩
  · exact ⟨len, hlen, .inr ⟨p, hfo, .inr hbig⟩⟩

theorem ppSsdt_updatePPVersion_spec :
    ∃ st t', updatePPVersion ppSsdt sampleVersion = some (st, t') ∧
      ∃ len, tableLength ppSsdt = some len ∧
        (NoPPVersionTag ppSsdt len ∧ st = efiNotFound ∧ t' = ppSsdt ∨
          ∃ p, FirstOccurrence ppSsdt (physicalPresenceVersionTag ++ [0]) acpiHeaderSize
              (ppScanCount len) p ∧
            (sampleVersion.chars.length < physicalPresenceVersionSize ∧ st = efiSuccess ∧
                t' = ppSsdt.take p ++ sampleVersion.chars ++ [0] ++
                  ppSsdt.drop (p + sampleVersion.chars.length + 1) ∨
              physicalPresenceVersionSize ≤ sampleVersion.chars.length ∧
                st = efiBufferTooSmall ∧ t' = ppSsdt)) := by
  obtain ⟨⟨st, t'⟩, hr⟩ := Option.isSome_iff_exists.1
    (show (updatePPVersion ppSsdt sampleVersion).isSome by decide)
  exact ⟨st, t', hr, updatePPVersion_spec hr⟩

/-- With `"1"` the patch succeeds and leaves `"1"`, `NUL`, then the `'V'` and the `NUL` of the
tag, where `AML_NOOP_OP` would keep the field one string. -/
theorem ppSsdt_oneChar_version :
    (updatePPVersion ppSsdt oneCharVersion).map (fun r => (r.1, (r.2.drop 42).take 4)) =
      some (efiSuccess, [0x31, 0, 0x56, 0]) := by
  decide

/-- `UpdatePPVersion` leaves the table as it was, or rewrites only the four bytes of the first
`"$PV"`. -/
theorem updatePPVersion_edits (h : updatePPVersion t ppVer = some (st, t')) :
    PPVersionEdit t t' := by
  obtain ⟨len, hlen, ⟨-, -, rfl⟩ | ⟨p, hfo, -, ⟨hl, -, hw⟩ | ⟨-, -, rfl⟩⟩⟩ :=
    updatePPVersion_eq_some h
  · exact .inl rfl
  · exact .inr ⟨len, p, hlen, hfo, editedWithin_of_writeBytes hw (by simp; omega)⟩
  · exact .inl rfl

/-- A `"$PV"` edit lies past the description header, so it keeps `Length` and the size. -/
theorem PPVersionEdit.tableLength_eq (he : PPVersionEdit t t') :
    tableLength t' = tableLength t ∧ t'.length = t.length := by
  rcases he with rfl | ⟨_, _, -, hfo, he⟩
  exacts [⟨rfl, rfl⟩, ⟨he.tableLength_eq (le_trans (by decide) hfo.1), he.length_eq⟩]

/-- On a table whose `Length` is its size, `UpdatePPVersion` returns, with a `"$PV"` edit: every
compare of the scan ends inside the table, and the copy stays inside the four bytes of the tag it
found. -/
theorem updatePPVersion_run (ppVer : AsciiString) (hlen : tableLength t = some t.length) :
    ∃ st t', updatePPVersion t ppVer = some (st, t') ∧ PPVersionEdit t t' := by
  suffices hs : (updatePPVersion t ppVer).isSome by
    obtain ⟨⟨st, t'⟩, h⟩ := Option.isSome_iff_exists.1 hs
    exact ⟨st, t', h, updatePPVersion_edits h⟩
  have hscan : (scanFirst (fun p => (asciiStrCmp t p physicalPresenceVersionTag).map (· == 0))
      acpiHeaderSize (ppScanCount t.length)).isSome := by
    refine scanFirst_isSome fun q h1 h2 => ?_
    simp only [ppScanCount, physicalPresenceVersionSize, acpiHeaderSize] at h1 h2
    rw [Option.isSome_map']
    exact asciiStrCmp_isSome (by simp [physicalPresenceVersionTag]; omega)
  obtain ⟨hit, hs⟩ := Option.isSome_iff_exists.1 hscan
  unfold updatePPVersion
  simp only [Option.bind_eq_bind, hlen, hs, Option.some_bind]
  cases hit with
  | none => rfl
  | some p =>
    have hfo := firstOccurrence_of_scanFirst (fun _ => asciiStrCmp_test_true (by decide))
      (fun _ => asciiStrCmp_test_false (by decide)) hs
    have h4 : p + 4 ≤ t.length := by
      simpa [physicalPresenceVersionTag] using hfo.2.2.1.add_length_le (by decide)
    dsimp only
    unfold asciiStrCpyS asciiStrnLenS
    split
    · rfl
    split
    · rfl
    rename_i hl
    exact isSome_writeBytes_bind (by simp [physicalPresenceVersionSize] at hl ⊢; omega)
      fun _ _ => rfl

/-- **No access outside the table.** On a table whose `Length` is its size, every compare of the
scan ends inside it, and the copy stays inside the four bytes of the tag it found. -/
theorem updatePPVersion_isSome (hlen : tableLength t = some t.length) :
    (updatePPVersion t ppVer).isSome := by
  obtain ⟨_, _, h, -⟩ := updatePPVersion_run ppVer hlen
  rw [h]
  rfl

theorem ppSsdt_isSome :
    tableLength ppSsdt = some ppSsdt.length ∧ (updatePPVersion ppSsdt sampleVersion).isSome := by
  have hlen : tableLength ppSsdt = some ppSsdt.length := by decide
  exact ⟨hlen, updatePPVersion_isSome hlen⟩

end Run

end Tcg2AcpiFfa
