import LiveSwap.Proofs.Cycle
import LiveSwap.Proofs.Numerals

/-!
# The text of a version

The pieces between the dots of a text make up a version: `LibraryVersion.Composed` says which one,
and `LibraryVersion.Reading` what becomes of a text whose pieces make up none.

* **`LibraryVersion.parse_eq_iff`** — every text is read as its pieces say.
* **`LibraryVersion.read_and_detected`** — what a text comes to as a version, and the capability and the
  one event that follow when a library reports it.
-/

namespace LiveSwap

open Text (cut)
open Text.Numeral (Spells IsNumeral)

/-! ## Pieces -/

namespace Text

variable {sep : Char} {cs front : List Char} {pieces : List (List Char)}

/-- Pieces put together again, if there are any. -/
def joined (sep : Char) : List (List Char) → Option (List Char)
  | [] => none
  | piece :: pieces => some ([sep].intercalate (piece :: pieces))

theorem joined_cons (sep : Char) (piece : List Char) (pieces : List (List Char)) :
    joined sep (piece :: pieces) = some ([sep].intercalate (piece :: pieces)) := rfl

theorem cut_intercalate (h : sep ∉ front) (pieces : List (List Char)) :
    cut sep ([sep].intercalate (front :: pieces)) = (front, joined sep pieces) := by
  cases pieces with
  | nil =>
    rw [List.intercalate_singleton]
    exact cut_of_not_mem h
  | cons piece pieces =>
    rw [List.intercalate_cons_cons, List.append_assoc]
    exact cut_append_cons h _

theorem notMem_of_mem_splitOn {piece : List Char} (h : piece ∈ cs.splitOn sep) : sep ∉ piece := by
  induction cs generalizing piece with
  | nil =>
    rw [List.splitOn_nil, List.mem_singleton] at h
    simp [h]
  | cons c cs ih =>
    rw [List.splitOn_cons_eq_if_modifyHead] at h
    -- a separator starts a new piece, and any other character goes to the first one
    by_cases hc : c = sep
    · rw [if_pos (beq_iff_eq.mpr hc), List.mem_cons] at h
      rcases h with rfl | h
      · exact List.not_mem_nil
      · exact ih h
    · rw [if_neg (by simpa using hc)] at h
      cases hpieces : cs.splitOn sep with
      | nil => exact absurd hpieces (List.splitOn_ne_nil sep cs)
      | cons front pieces =>
        rw [hpieces, List.modifyHead_cons, List.mem_cons] at h
        rcases h with rfl | h
        · have hfront := ih (hpieces ▸ List.mem_cons_self)
          simp [hfront, Ne.symm hc]
        · exact ih (hpieces ▸ List.mem_cons_of_mem _ h)

theorem head?_splitOn (sep : Char) (cs : List Char) :
    (cs.splitOn sep).head? = some (cs.takeWhile (· ≠ sep)) := by
  induction cs with
  | nil => rfl
  | cons c cs ih =>
    rw [List.splitOn_cons_eq_if_modifyHead]
    by_cases hc : c = sep
    · simp [hc]
    · simp [hc, ih]

theorem mem_iff_of_splitOn (h : cs.splitOn sep = front :: pieces) : sep ∈ cs ↔ pieces ≠ [] := by
  have hcs : [sep].intercalate (cs.splitOn sep) = cs := List.intercalate_splitOn sep
  rw [h] at hcs
  cases pieces with
  | nil =>
    have hfront : sep ∉ front := notMem_of_mem_splitOn (h ▸ List.mem_cons_self)
    rw [List.intercalate_singleton] at hcs
    simp [← hcs, hfront]
  | cons piece pieces =>
    rw [List.intercalate_cons_cons] at hcs
    simp [← hcs]

end Text

namespace LibraryVersion

/-! ## The version that pieces make up -/

/-- The pieces are those of the version: two numerals, a third one if there is a patch level, and the
qualifier. A third piece that is no numeral belongs to the qualifier. -/
inductive Composed : List (List Char) → LibraryVersion → Prop where
  | patched {first second third : List Char} {rest : List (List Char)} {major minor patch : Int32}
      (hmajor : Spells first major.toInt) (hminor : Spells second minor.toInt)
      (hpatch : Spells third patch.toInt) :
      Composed (first :: second :: third :: rest)
        ⟨major, minor, some patch, (Text.joined '.' rest).map .ofList⟩
  | unpatched {first second : List Char} {rest : List (List Char)} {major minor : Int32}
      (hmajor : Spells first major.toInt) (hminor : Spells second minor.toInt)
      (hrest : ∀ third ∈ rest.head?, ¬ IsNumeral third) :
      Composed (first :: second :: rest) ⟨major, minor, none, (Text.joined '.' rest).map .ofList⟩

/-- What becomes of a text with these pieces. -/
inductive Reading (raw : String) : List (List Char) → Except VersionError LibraryVersion → Prop where
  | badMajor {first : List Char} {rest : List (List Char)} (hmajor : ¬ IsNumeral first) :
      Reading raw (first :: rest) (.error (.nonNumeric raw .major (.ofList first)))
  | tooFew {first : List Char} (hmajor : IsNumeral first) :
      Reading raw [first] (.error (.tooFewComponents raw 1))
  | badMinor {first second : List Char} {rest : List (List Char)} (hmajor : IsNumeral first)
      (hminor : ¬ IsNumeral second) :
      Reading raw (first :: second :: rest) (.error (.nonNumeric raw .minor (.ofList second)))
  | version {pieces : List (List Char)} {v : LibraryVersion} (h : Composed pieces v) :
      Reading raw pieces (.ok v)

variable {raw : String} {pieces : List (List Char)} {v : LibraryVersion}

theorem exists_reading (raw : String) (h : pieces ≠ []) : ∃ r, Reading raw pieces r := by
  match pieces, h with
  | first :: rest, _ =>
    -- the cases of the format, one component after the other
    by_cases hfirst : IsNumeral first
    · match rest with
      | [] => exact ⟨_, .tooFew hfirst⟩
      | second :: rest =>
        by_cases hsecond : IsNumeral second
        · obtain ⟨major, hmajor⟩ := Text.Numeral.isNumeral_iff.mp hfirst
          obtain ⟨minor, hminor⟩ := Text.Numeral.isNumeral_iff.mp hsecond
          by_cases hthird : ∃ third ∈ rest.head?, IsNumeral third
          · obtain ⟨third, hhead, hthird⟩ := hthird
            obtain ⟨patch, hpatch⟩ := Text.Numeral.isNumeral_iff.mp hthird
            obtain ⟨rest, rfl⟩ := List.head?_eq_some_iff.mp hhead
            exact ⟨_, .version (.patched hmajor hminor hpatch)⟩
          · push Not at hthird
            exact ⟨_, .version (.unpatched hmajor hminor hthird)⟩
        · exact ⟨_, .badMinor hfirst hsecond⟩
    · exact ⟨_, .badMajor hfirst⟩

theorem Composed.numerals (h : Composed pieces v) : ∃ first second rest,
    pieces = first :: second :: rest ∧ Spells first v.major.toInt ∧ Spells second v.minor.toInt := by
  cases h with
  | patched hmajor hminor _ => exact ⟨_, _, _, rfl, hmajor, hminor⟩
  | unpatched hmajor hminor _ => exact ⟨_, _, _, rfl, hmajor, hminor⟩

theorem Composed.tail_eq {first second : List Char} {rest : List (List Char)}
    (hdots : ∀ piece ∈ rest, '.' ∉ piece) (h : Composed (first :: second :: rest) v) :
    tail (Text.joined '.' rest) = (v.patch, v.qualifier) := by
  cases h with
  | @patched _ _ third rest _ _ patch _ _ hpatch =>
    rw [Text.joined_cons, tail, Text.cut_intercalate (hdots third List.mem_cons_self),
      Text.Numeral.read?_eq_some_iff.mpr hpatch]
  | unpatched _ _ hrest =>
    cases rest with
    | nil => rfl
    | cons third rest =>
      rw [Text.joined_cons, tail, Text.cut_intercalate (hdots third List.mem_cons_self),
        Text.Numeral.read?_eq_none_iff.mpr (hrest third rfl)]
      rfl

theorem Reading.parse_eq {r : Except VersionError LibraryVersion} (h : Reading raw pieces r)
    (hdots : ∀ piece ∈ pieces, '.' ∉ piece) (hraw : raw.toList = ['.'].intercalate pieces) :
    parse raw = r := by
  rw [parse, hraw]
  -- each way to read the pieces goes with one path through the parser
  cases h with
  | @badMajor first rest hmajor =>
    rw [Text.cut_intercalate (hdots first List.mem_cons_self)]
    simp only [Text.Numeral.read?_eq_none_iff.mpr hmajor]
  | @tooFew first hmajor =>
    obtain ⟨major, hmajor⟩ := Text.Numeral.isNumeral_iff.mp hmajor
    rw [Text.cut_intercalate (hdots first List.mem_cons_self)]
    simp only [Text.Numeral.read?_eq_some_iff.mpr hmajor, Text.joined]
  | @badMinor first second rest hmajor hminor =>
    obtain ⟨major, hmajor⟩ := Text.Numeral.isNumeral_iff.mp hmajor
    rw [Text.cut_intercalate (hdots first List.mem_cons_self)]
    simp only [Text.Numeral.read?_eq_some_iff.mpr hmajor, Text.joined_cons,
      Text.cut_intercalate (hdots second (by simp)), Text.Numeral.read?_eq_none_iff.mpr hminor]
  | version h =>
    obtain ⟨first, second, rest, rfl, hmajor, hminor⟩ := h.numerals
    have htail := h.tail_eq fun piece hpiece => hdots piece (by simp [hpiece])
    rw [Text.cut_intercalate (hdots first List.mem_cons_self)]
    simp only [Text.Numeral.read?_eq_some_iff.mpr hmajor, Text.joined_cons,
      Text.cut_intercalate (hdots second (by simp)), Text.Numeral.read?_eq_some_iff.mpr hminor, htail]

/-- **Every text is read as its pieces say.** -/
theorem parse_eq_iff {r : Except VersionError LibraryVersion} :
    parse raw = r ↔ Reading raw (raw.toList.splitOn '.') r := by
  have hdots : ∀ piece ∈ raw.toList.splitOn '.', '.' ∉ piece := fun _ => Text.notMem_of_mem_splitOn
  have hraw : raw.toList = ['.'].intercalate (raw.toList.splitOn '.') := (List.intercalate_splitOn _).symm
  constructor
  · rintro rfl
    obtain ⟨r, hr⟩ := exists_reading raw (List.splitOn_ne_nil '.' raw.toList)
    rwa [hr.parse_eq hdots hraw]
  · exact fun h => h.parse_eq hdots hraw

theorem reading_ok_iff : Reading raw pieces (.ok v) ↔ Composed pieces v := by
  constructor
  · rintro (_ | _ | _ | h)
    exact h
  · exact .version

theorem parse_eq_ok_iff : parse raw = .ok v ↔ Composed (raw.toList.splitOn '.') v :=
  parse_eq_iff.trans reading_ok_iff

/-! ## What a text comes to -/

/-- What a text comes to as a version, by its first piece and the others. -/
structure Read (raw : String) (first : List Char) (rest : List (List Char)) : Prop where
  pieces : raw.toList.splitOn '.' = first :: rest
  isVersion_iff : (∃ v, parse raw = .ok v) ↔
    '.' ∈ raw.toList ∧ IsNumeral first ∧ ∃ second ∈ rest.head?, IsNumeral second
  version_iff : ∀ v, parse raw = .ok v ↔ Composed (first :: rest) v
  badMajor_iff : ∀ component, parse raw = .error (.nonNumeric raw .major component) ↔
    ¬ IsNumeral first ∧ component = .ofList first
  tooFew_iff : ∀ found, parse raw = .error (.tooFewComponents raw found) ↔
    IsNumeral first ∧ '.' ∉ raw.toList ∧ found = 1
  badMinor_iff : ∀ component, parse raw = .error (.nonNumeric raw .minor component) ↔
    IsNumeral first ∧ ∃ second ∈ rest.head?, ¬ IsNumeral second ∧ component = .ofList second
  /-- There are no other errors. -/
  error : ∀ e, parse raw = .error e →
    (∃ part component, e = .nonNumeric raw part component) ∨ ∃ found, e = .tooFewComponents raw found

theorem exists_read (raw : String) : ∃ first rest, Read raw first rest := by
  obtain ⟨first, rest, hpieces⟩ := List.exists_cons_of_ne_nil (List.splitOn_ne_nil '.' raw.toList)
  have hreading {r : Except VersionError LibraryVersion} : parse raw = r ↔ Reading raw (first :: rest) r :=
    hpieces ▸ parse_eq_iff
  have hdot := Text.mem_iff_of_splitOn hpieces
  -- every clause about the text is one about the reading of its pieces
  refine ⟨first, rest, hpieces, ?_, fun v => hreading.trans reading_ok_iff, ?_, ?_, ?_, ?_⟩
  · rw [hdot]
    constructor
    · rintro ⟨v, hv⟩
      obtain ⟨_, second, others, heq, hmajor, hminor⟩ := (reading_ok_iff.mp (hreading.mp hv)).numerals
      obtain ⟨rfl, rfl⟩ := List.cons.inj heq
      exact ⟨List.cons_ne_nil _ _, Text.Numeral.isNumeral_iff.mpr ⟨_, hmajor⟩, second, rfl,
        Text.Numeral.isNumeral_iff.mpr ⟨_, hminor⟩⟩
    · rintro ⟨-, hfirst, second, hhead, hsecond⟩
      obtain ⟨others, rfl⟩ := List.head?_eq_some_iff.mp hhead
      obtain ⟨r, hr⟩ := exists_reading raw (List.cons_ne_nil first (second :: others))
      cases hr with
      | badMajor hmajor => exact absurd hfirst hmajor
      | badMinor _ hminor => exact absurd hsecond hminor
      | version h => exact ⟨_, hreading.mpr (.version h)⟩
  · intro component
    rw [hreading]
    constructor
    · rintro (hmajor | _)
      exact ⟨hmajor, rfl⟩
    · rintro ⟨hmajor, rfl⟩
      exact .badMajor hmajor
  · intro found
    rw [hreading, hdot, not_not]
    constructor
    · rintro (_ | hmajor)
      exact ⟨hmajor, rfl, rfl⟩
    · rintro ⟨hmajor, rfl, rfl⟩
      exact .tooFew hmajor
  · intro component
    rw [hreading]
    constructor
    · rintro (_ | _ | ⟨hmajor, hminor⟩)
      exact ⟨hmajor, _, rfl, hminor, rfl⟩
    · rintro ⟨hmajor, second, hhead, hminor, rfl⟩
      obtain ⟨others, rfl⟩ := List.head?_eq_some_iff.mp hhead
      exact .badMinor hmajor hminor
  · intro e he
    cases hreading.mp he with
    | badMajor _ => exact Or.inl ⟨_, _, rfl⟩
    | tooFew _ => exact Or.inr ⟨_, rfl⟩
    | badMinor _ _ => exact Or.inl ⟨_, _, rfl⟩

/-! ## What a reported text comes to -/

/-- The capability and the event that follow when a library reports the text. -/
structure Detected (raw : String) (capability : Capability) (notice : Notice) : Prop where
  modern_iff : capability = .modern ↔ ∃ v, parse raw = .ok v ∧ 4 ≤ v.major.toInt ∧ 3 ≤ v.minor.toInt
  debug_iff : notice.event.level = .debug ↔ ∃ v, parse raw = .ok v
  warn_iff : notice.event.level = .warn ↔ ∃ e, parse raw = .error e
  of_version : ∀ v, parse raw = .ok v → notice = .versionDetected v capability
  of_error : ∀ e, parse raw = .error e → notice = .versionUnreadable raw e

theorem ofVersion_eq_modern_iff (v : LibraryVersion) :
    Capability.ofVersion v = .modern ↔ 4 ≤ v.major.toInt ∧ 3 ≤ v.minor.toInt := by
  have hmajor : (4 : Int32) ≤ v.major ↔ 4 ≤ v.major.toInt := Int32.le_iff_toInt_le
  have hminor : (3 : Int32) ≤ v.minor ↔ 3 ≤ v.minor.toInt := Int32.le_iff_toInt_le
  rw [Capability.ofVersion, ← hmajor, ← hminor]
  split
  case isTrue h => exact iff_of_true rfl h
  case isFalse h => exact iff_of_false nofun h

theorem runOn_judge {ι σ : Type} (raw : String) (s : Host ι σ) : ∃ capability notice,
    (Act.judge raw).runOn s = (.ok capability, s.addNotice notice) ∧ Detected raw capability notice := by
  rw [Act.judge]
  -- a text that cannot be read is judged as well, with the event of a failure
  cases h : parse raw with
  | ok version =>
    refine ⟨_, _, rfl, ?_, ?_, ?_, ?_, ?_⟩
    · simp [h, ofVersion_eq_modern_iff]
    · simp [h, Notice.event]
    · simp [h, Notice.event]
    · rintro v hv
      cases h.symm.trans hv
      rfl
    · rintro e he
      cases h.symm.trans he
  | error error =>
    refine ⟨_, _, rfl, ?_, ?_, ?_, ?_, ?_⟩
    · simp [h]
    · simp [h, Notice.event]
    · simp [h, Notice.event]
    · rintro v hv
      cases h.symm.trans hv
    · rintro e he
      cases h.symm.trans he
      rfl

/-- **What a text comes to**, as a version and when a library reports it. -/
theorem read_and_detected (raw : String) :
    (∃ first rest, Read raw first rest) ∧
    ∀ {ι σ : Type} {probe : Act ι σ String} {s s' : Host ι σ}, probe.runOn s = (.ok raw, s') →
      ∃ capability notice, (Act.detect probe).runOn s = (.ok capability, s'.addNotice notice) ∧
        Detected raw capability notice := by
  refine ⟨exists_read raw, ?_⟩
  intro ι σ probe s s' h
  have hdetect : (Act.detect probe).runOn s = (Act.judge raw).runOn s' := Effect.runOn_bind_ok h
  rw [hdetect]
  exact runOn_judge raw s'

/-- Signs and leading zeros do not matter, and an empty third piece belongs to the qualifier. -/
theorem read_and_detected_signed : ∃ capability notice,
    (Act.detect (pure "+4.03..Final" : Act Unit Unit String)).runOn (Host.start ()) =
      (.ok capability, (Host.start ()).addNotice notice) ∧
    capability = .modern ∧ notice = .versionDetected ⟨4, 3, none, some ".Final"⟩ .modern := by
  have hparse : parse "+4.03..Final" = .ok ⟨4, 3, none, some ".Final"⟩ := by decide +kernel
  obtain ⟨capability, notice, hrun, h⟩ :=
    (read_and_detected "+4.03..Final").2 (Effect.runOn_pure "+4.03..Final" (Host.start () : Host Unit Unit))
  have hmodern : capability = .modern := h.modern_iff.mpr ⟨_, hparse, by decide, by decide⟩
  exact ⟨capability, notice, hrun, hmodern, hmodern ▸ h.of_version _ hparse⟩

end LibraryVersion

end LiveSwap
