import LiveSwap.Proofs.VersionText
import Mathlib.Data.List.Forall2

/-!
# Writing a version

A version is written as the pieces `LibraryVersion.written`. When they are read again, the start of its
qualifier may be taken for a patch level.

* **`LibraryVersion.parse_display_iff`** — this happens to the ambiguous versions and to no others.
* **`LibraryVersion.display_eq_iff`** — a version that was read is written as it was read if its numerals
  were canonical.
* **`LibraryVersion.round_trips`** — both together, and that reading never yields an ambiguous version.
-/

namespace LiveSwap

open Text.Numeral (Spells IsNumeral Canonical write)

/-! ## Joining pieces -/

namespace Text

variable {sep : Char} {cs ds : List Char} {pieces : List (List Char)}

theorem joined_splitOn (sep : Char) (cs : List Char) : joined sep (cs.splitOn sep) = some cs := by
  cases h : cs.splitOn sep with
  | nil => exact absurd h (List.splitOn_ne_nil sep cs)
  | cons piece pieces => rw [joined_cons, ← h, List.intercalate_splitOn]

theorem intercalate_cons_splitOn (sep : Char) (piece cs : List Char) :
    [sep].intercalate (piece :: cs.splitOn sep) = piece ++ sep :: cs := by
  cases h : cs.splitOn sep with
  | nil => exact absurd h (List.splitOn_ne_nil sep cs)
  | cons front pieces =>
    rw [List.intercalate_cons_cons, ← h, List.intercalate_splitOn, List.append_assoc]
    rfl

theorem elim_splitOn_joined (h : ∀ piece ∈ pieces, sep ∉ piece) :
    (joined sep pieces).elim [] (List.splitOn sep) = pieces := by
  cases pieces with
  | nil => rfl
  | cons piece pieces => exact List.splitOn_intercalate sep h (List.cons_ne_nil piece pieces)

theorem splitOn_inj : cs.splitOn sep = ds.splitOn sep ↔ cs = ds := by
  constructor
  · intro h
    have hcs : [sep].intercalate (cs.splitOn sep) = cs := List.intercalate_splitOn sep
    rw [← hcs, h, List.intercalate_splitOn]
  · rintro rfl
    rfl

end Text

namespace LibraryVersion

variable {v : LibraryVersion} {raw : String} {pieces : List (List Char)}

/-! ## Writing -/

/-- The numbers of a version, in order. -/
def numbers (v : LibraryVersion) : List Int32 := v.major :: v.minor :: v.patch.toList

/-- The pieces of a qualifier. -/
def qualifierPieces (v : LibraryVersion) : List (List Char) :=
  v.qualifier.elim [] fun qualifier => qualifier.toList.splitOn '.'

/-- The pieces that a version is written as. -/
def written (v : LibraryVersion) : List (List Char) := v.numbers.map write ++ v.qualifierPieces

theorem joined_qualifierPieces (v : LibraryVersion) :
    (Text.joined '.' v.qualifierPieces).map .ofList = v.qualifier := by
  rw [qualifierPieces]
  cases v.qualifier with
  | none => rfl
  | some qualifier =>
    rw [Option.elim_some, Text.joined_splitOn, Option.map_some, String.ofList_toList]

theorem head?_qualifierPieces (v : LibraryVersion) : v.qualifierPieces.head? =
    v.qualifier.map fun qualifier => qualifier.toList.takeWhile (· ≠ '.') := by
  rw [qualifierPieces]
  cases v.qualifier with
  | none => rfl
  | some qualifier => exact Text.head?_splitOn '.' qualifier.toList

theorem displayChars_eq (v : LibraryVersion) : v.displayChars = ['.'].intercalate v.written := by
  rw [displayChars, written, numbers, qualifierPieces]
  cases v.patch <;> cases v.qualifier <;>
    simp [Text.intercalate_cons_splitOn, List.intercalate_cons_cons]

theorem dot_notMem_of_mem_written {piece : List Char} (h : piece ∈ v.written) : '.' ∉ piece := by
  rw [written, List.mem_append, List.mem_map] at h
  rcases h with ⟨n, -, rfl⟩ | h
  · exact (Text.Numeral.spells_write n).dot_notMem
  · rw [qualifierPieces] at h
    cases hq : v.qualifier with
    | none =>
      rw [hq] at h
      cases h
    | some qualifier =>
      rw [hq] at h
      exact Text.notMem_of_mem_splitOn h

/-- **A version is written as its pieces.** -/
theorem splitOn_display (v : LibraryVersion) : v.display.toList.splitOn '.' = v.written := by
  rw [display, String.toList_ofList, displayChars_eq]
  exact List.splitOn_intercalate '.' (fun _ => dot_notMem_of_mem_written)
    (List.append_ne_nil_of_left_ne_nil (List.cons_ne_nil _ _) _)

theorem parse_display_eq_ok_iff {w : LibraryVersion} : parse v.display = .ok w ↔ Composed v.written w := by
  rw [parse_eq_ok_iff, splitOn_display]

/-! ## Reading what was written -/

/-- The version has no patch level, and its qualifier starts with a numeral. -/
def Ambiguous (v : LibraryVersion) : Prop :=
  v.patch = none ∧ ∃ qualifier, v.qualifier = some qualifier ∧
    IsNumeral (qualifier.toList.takeWhile (· ≠ '.'))

theorem ambiguous_iff :
    v.Ambiguous ↔ v.patch = none ∧ ∃ third ∈ v.qualifierPieces.head?, IsNumeral third := by
  rw [Ambiguous, head?_qualifierPieces]
  simp only [Option.mem_def, Option.map_eq_some_iff]
  refine and_congr_right fun _ => ⟨?_, ?_⟩
  · rintro ⟨qualifier, hqualifier, hnumeral⟩
    exact ⟨_, ⟨qualifier, hqualifier, rfl⟩, hnumeral⟩
  · rintro ⟨_, ⟨qualifier, hqualifier, rfl⟩, hnumeral⟩
    exact ⟨qualifier, hqualifier, hnumeral⟩

/-- A version that is not ambiguous is made up of the pieces that it is written as. -/
theorem composed_written (h : ¬ v.Ambiguous) : Composed v.written v := by
  rw [ambiguous_iff] at h
  have hqualifier := v.joined_qualifierPieces
  have hmajor := Text.Numeral.spells_write v.major
  have hminor := Text.Numeral.spells_write v.minor
  -- a patch level is written after the minor component, else the qualifier follows at once
  cases hpatch : v.patch with
  | some patch =>
    have hcomposed := @Composed.patched _ _ _ v.qualifierPieces _ _ _ hmajor hminor
      (Text.Numeral.spells_write patch)
    rw [hqualifier, ← hpatch] at hcomposed
    rwa [written, numbers, hpatch]
  | none =>
    have hcomposed := @Composed.unpatched _ _ v.qualifierPieces _ _ hmajor hminor
      fun third hthird hnumeral => h ⟨hpatch, third, hthird, hnumeral⟩
    rw [hqualifier, ← hpatch] at hcomposed
    rwa [written, numbers, hpatch]

/-- The start of an ambiguous version's qualifier is taken for a patch level. -/
theorem Ambiguous.composed (h : v.Ambiguous) : ∃ w, w ≠ v ∧ Composed v.written w := by
  obtain ⟨hpatch, third, hthird, hnumeral⟩ := ambiguous_iff.mp h
  obtain ⟨patch, hspells⟩ := Text.Numeral.isNumeral_iff.mp hnumeral
  obtain ⟨rest, hrest⟩ := List.head?_eq_some_iff.mp hthird
  refine ⟨⟨v.major, v.minor, some patch, (Text.joined '.' rest).map .ofList⟩, ?_, ?_⟩
  · intro heq
    rw [← heq] at hpatch
    cases hpatch
  · rw [written, numbers, hpatch, hrest]
    exact .patched (Text.Numeral.spells_write v.major) (Text.Numeral.spells_write v.minor) hspells

/-- **Reading what was written** gives the version back unless it is ambiguous. -/
theorem parse_display_iff : parse v.display = .ok v ↔ ¬ v.Ambiguous := by
  constructor
  · intro h hambiguous
    obtain ⟨w, hne, hw⟩ := hambiguous.composed
    exact hne (Except.ok.inj ((parse_display_eq_ok_iff.mpr hw).symm.trans h))
  · exact fun h => parse_display_eq_ok_iff.mpr (composed_written h)

/-! ## Writing what was read -/

/-- The pieces of a text that were read as the numbers of the version. -/
def consumed (raw : String) (v : LibraryVersion) : List (List Char) :=
  (raw.toList.splitOn '.').take v.numbers.length

theorem qualifierPieces_eq {rest : List (List Char)} (hdots : ∀ piece ∈ rest, '.' ∉ piece)
    (h : v.qualifier = (Text.joined '.' rest).map .ofList) : v.qualifierPieces = rest := by
  rw [qualifierPieces, h, Option.elim_map]
  simp only [Function.comp_def, String.toList_ofList]
  exact Text.elim_splitOn_joined hdots

theorem Composed.split (h : Composed pieces v) (hdots : ∀ piece ∈ pieces, '.' ∉ piece) :
    ∃ numerals, pieces = numerals ++ v.qualifierPieces ∧
      List.Forall₂ (fun cs n => Spells cs n.toInt) numerals v.numbers := by
  cases h with
  | @patched first second third rest _ _ _ hmajor hminor hpatch =>
    refine ⟨[first, second, third], ?_, .cons hmajor (.cons hminor (.cons hpatch .nil))⟩
    rw [qualifierPieces_eq (fun piece (hp : piece ∈ rest) => hdots piece (by simp [hp])) rfl]
    rfl
  | @unpatched first second rest _ _ hmajor hminor _ =>
    refine ⟨[first, second], ?_, .cons hmajor (.cons hminor .nil)⟩
    rw [qualifierPieces_eq (fun piece (hp : piece ∈ rest) => hdots piece (by simp [hp])) rfl]
    rfl

theorem Composed.not_ambiguous (h : Composed pieces v) (hdots : ∀ piece ∈ pieces, '.' ∉ piece) :
    ¬ v.Ambiguous := by
  rw [ambiguous_iff]
  cases h with
  | patched _ _ _ => exact fun h => nomatch h.1
  | unpatched _ _ hrest =>
    rw [qualifierPieces_eq (fun piece hp => hdots piece (by simp [hp])) rfl]
    exact fun ⟨_, third, hthird, hnumeral⟩ => hrest third hthird hnumeral

theorem map_write_eq_iff {numerals : List (List Char)} {numbers : List Int32}
    (h : List.Forall₂ (fun cs n => Spells cs n.toInt) numerals numbers) :
    numbers.map write = numerals ↔ ∀ cs ∈ numerals, Canonical cs := by
  induction h with
  | nil => simp
  | cons hspells _ ih =>
    rw [List.map_cons, List.cons.injEq, Text.Numeral.write_eq_iff hspells, ih, List.forall_mem_cons]

/-- **A version is written as it was read** if its numerals were canonical. -/
theorem display_eq_iff (h : parse raw = .ok v) :
    v.display = raw ↔ ∀ cs ∈ consumed raw v, Canonical cs := by
  have hdots : ∀ piece ∈ raw.toList.splitOn '.', '.' ∉ piece := fun _ => Text.notMem_of_mem_splitOn
  obtain ⟨numerals, hpieces, hspells⟩ := (parse_eq_ok_iff.mp h).split hdots
  have hconsumed : consumed raw v = numerals := by
    rw [consumed, hpieces, ← List.Forall₂.length_eq hspells, List.take_left]
  calc v.display = raw
      ↔ v.display.toList.splitOn '.' = raw.toList.splitOn '.' := by
        rw [Text.splitOn_inj, String.toList_inj]
    _ ↔ v.numbers.map write = numerals := by
        rw [splitOn_display, hpieces, written, List.append_left_inj]
    _ ↔ ∀ cs ∈ consumed raw v, Canonical cs := by
        rw [hconsumed, map_write_eq_iff hspells]

/-- **Writing a version and reading it back.** Only ambiguous versions come back as another one, no
ambiguous version is ever read, and the text is reproduced if its numerals were canonical. -/
theorem round_trips (v : LibraryVersion) :
    (parse v.display = .ok v ↔ ¬ v.Ambiguous) ∧
    (v.Ambiguous → ∃ w, w ≠ v ∧ parse v.display = .ok w) ∧
    ∀ raw, parse raw = .ok v →
      parse v.display = .ok v ∧ (v.display = raw ↔ ∀ cs ∈ consumed raw v, Canonical cs) := by
  refine ⟨parse_display_iff, ?_, ?_⟩
  · intro h
    obtain ⟨w, hne, hw⟩ := h.composed
    exact ⟨w, hne, parse_display_eq_ok_iff.mpr hw⟩
  · intro raw h
    have hambiguous := (parse_eq_ok_iff.mp h).not_ambiguous fun _ => Text.notMem_of_mem_splitOn
    exact ⟨parse_display_iff.mpr hambiguous, display_eq_iff h⟩

/-- A leading zero is not written again, and a qualifier that starts with a numeral is misread. -/
theorem round_trips_leading_zero :
    parse "4.03.x.Final" = .ok ⟨4, 3, none, some "x.Final"⟩ ∧
    parse (display ⟨4, 3, none, some "x.Final"⟩) = .ok ⟨4, 3, none, some "x.Final"⟩ ∧
    display ⟨4, 3, none, some "x.Final"⟩ ≠ "4.03.x.Final" ∧
    ∃ w, w ≠ ⟨4, 3, none, some "11.x"⟩ ∧ parse (display ⟨4, 3, none, some "11.x"⟩) = .ok w := by
  have hparse : parse "4.03.x.Final" = .ok ⟨4, 3, none, some "x.Final"⟩ := by decide +kernel
  obtain ⟨hagain, hsame⟩ := (round_trips ⟨4, 3, none, some "x.Final"⟩).2.2 "4.03.x.Final" hparse
  refine ⟨hparse, hagain, ?_, ?_⟩
  · rw [Ne, hsame]
    intro hcanonical
    have hminor := (hcanonical "03".toList (by decide +kernel)).no_zeros ['3'] (Or.inl rfl)
    cases hminor
  · refine (round_trips ⟨4, 3, none, some "11.x"⟩).2.1 ⟨rfl, "11.x", rfl, ?_⟩
    exact Text.Numeral.isNumeral_iff.mpr ⟨11, Text.Numeral.read?_eq_some_iff.mp (by decide +kernel)⟩

end LibraryVersion

end LiveSwap
