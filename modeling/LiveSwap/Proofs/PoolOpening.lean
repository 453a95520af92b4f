import LiveSwap.Proofs.PoolLibrary

/-!
# Opening a pool

The first pool of a resource is opened under the resource's name, while a modern rebuild of the same
parameters builds under `keyOf`, which is the URL if they carry a descriptor. A failure that was asked
for is found by its key, so the two can come to different things.

* **`Library.buildUnder_library_eq_iff`** — the key matters if a failure was asked for under one of two
  keys, and nowhere else.
* **`opening_agrees_iff`** — when opening a pool comes to what a modern rebuild would, and what makes
  either of the two fail.
-/

namespace LiveSwap.Pool

namespace Library

variable {l : Library} {params : Params} {key other : String}

/-- Builds from parameters under a key, without a configuration. -/
def buildUnder (l : Library) (key : String) (params : Params) : Except LibraryError Pool × Library :=
  match urlOf params with
  | .error e => (.error e, l)
  | .ok url => l.build key url params.properties .modern

theorem buildUnder_of_error {e : LibraryError} (h : urlOf params = .error e) (l : Library) (key : String) :
    l.buildUnder key params = (.error e, l) := by
  rw [buildUnder, h]

theorem buildUnder_of_mem {url : String} (h : urlOf params = .ok url) (hkey : key ∈ l.failing) :
    l.buildUnder key params = (.error (.unreachable url), { l with failing := l.failing.erase key }) := by
  rw [buildUnder, h]
  exact build_of_mem hkey url params.properties .modern

theorem buildUnder_of_notMem {url : String} (h : urlOf params = .ok url) (hkey : key ∉ l.failing) :
    l.buildUnder key params = (.ok (l.fresh url params.properties .modern), l.advance) := by
  rw [buildUnder, h]
  exact build_of_notMem hkey url params.properties .modern

theorem buildUnder_fails_iff :
    (∃ e, (l.buildUnder key params).1 = .error e) ↔
      (∃ e, urlOf params = .error e) ∨ key ∈ l.failing := by
  cases hurl : urlOf params with
  | error e => simp [buildUnder_of_error hurl]
  | ok url =>
    by_cases hkey : key ∈ l.failing
    · simp [buildUnder_of_mem hurl hkey, hkey]
    · simp [buildUnder_of_notMem hurl hkey, hkey]

/-- **The key matters** if a failure was asked for under one of the two. -/
theorem buildUnder_library_eq_iff : (l.buildUnder key params).2 = (l.buildUnder other params).2 ↔
    ∀ url, urlOf params = .ok url → other = key ∨ (key ∉ l.failing ∧ other ∉ l.failing) := by
  constructor
  · intro h url hurl
    by_contra hne
    rw [not_or, not_and_or, not_not, not_not] at hne
    obtain ⟨hne, hfailing⟩ := hne
    -- four cases, by the keys for which a failure is asked
    by_cases hkey : key ∈ l.failing <;> by_cases hother : other ∈ l.failing
    · -- each build uses up a failure of its own
      rw [buildUnder_of_mem hurl hkey, buildUnder_of_mem hurl hother] at h
      have hcount := congrArg (fun l : Library => l.failing.count key) h
      simp only [List.count_erase_self, List.count_erase_of_ne (Ne.symm hne)] at hcount
      have hpos := List.count_pos_iff.mpr hkey
      omega
    · -- only the other build uses up a serial
      rw [buildUnder_of_mem hurl hkey, buildUnder_of_notMem hurl hother] at h
      exact absurd (congrArg Library.nextSerial h) (Nat.ne_of_lt (Nat.lt_succ_self _))
    · rw [buildUnder_of_notMem hurl hkey, buildUnder_of_mem hurl hother] at h
      exact absurd (congrArg Library.nextSerial h) (Nat.ne_of_gt (Nat.lt_succ_self _))
    · exact hfailing.elim hkey hother
  · intro h
    cases hurl : urlOf params with
    | error e => rw [buildUnder_of_error hurl, buildUnder_of_error hurl]
    | ok url =>
      rcases h url hurl with rfl | ⟨hkey, hother⟩
      · rfl
      · rw [buildUnder_of_notMem hurl hkey, buildUnder_of_notMem hurl hother]

/-- Keys that do not matter lead to the same pool or the same error. -/
theorem buildUnder_eq_of_library_eq (h : (l.buildUnder key params).2 = (l.buildUnder other params).2) :
    l.buildUnder key params = l.buildUnder other params := by
  cases hurl : urlOf params with
  | error e => rw [buildUnder_of_error hurl, buildUnder_of_error hurl]
  | ok url =>
    rcases buildUnder_library_eq_iff.mp h url hurl with rfl | ⟨hkey, hother⟩
    · rfl
    · rw [buildUnder_of_notMem hurl hkey, buildUnder_of_notMem hurl hother]

theorem openPool_eq_buildUnder (l : Library) (params : Params) :
    l.openPool params = l.buildUnder params.name params := by
  obtain ⟨name, _ | d, properties⟩ := params
  · rfl
  · rfl

end Library

/-! ## On a host -/

variable {s : PoolHost} {params : Params} {current : Pool}

/-- Opens the first pool of a resource. -/
def opening (params : Params) : PoolAct (Except LibraryError Pool) := onLibrary (·.openPool params)

/-- Rebuilds a pool through the modern API. -/
def modernRebuild (params : Params) (current : Pool) : PoolAct (Except RebuildError Pool) :=
  (collaborators.strategies.select .modern).rebuild params current

/-- An error of the library as a modern rebuild reports it. -/
def blamed (params : Params) (built : Except LibraryError Pool) : Except RebuildError Pool :=
  built.mapError fun e => .construction params.name .modern e.message

theorem runOn_opening (params : Params) (s : PoolHost) : (opening params).runOn s =
    (.ok (s.library.buildUnder params.name params).1,
      { s with library := (s.library.buildUnder params.name params).2 }) := by
  rw [← Library.openPool_eq_buildUnder]
  rfl

theorem runOn_modernRebuild (params : Params) (current : Pool) (s : PoolHost) : ∃ notices,
    (modernRebuild params current).runOn s =
      (.ok (blamed params (s.library.buildUnder (keyOf params) params).1),
        { s with
          library := (s.library.buildUnder (keyOf params) params).2
          log := s.log ++ notices }) := by
  -- a rebuild is detached, so it is enough to follow its conduct
  suffices hconduct : ∃ notices, (modernRebuild params current).conduct s.library =
      ⟨.ok (blamed params (s.library.buildUnder (keyOf params) params).1),
        (s.library.buildUnder (keyOf params) params).2, notices⟩ by
    obtain ⟨notices, hconduct⟩ := hconduct
    have hd : (modernRebuild params current).Detached := collaborators_detached.select .modern params current
    exact ⟨notices, by rw [hd.runOn_eq, hconduct]; rfl⟩
  cases hurl : urlOf params with
  | error e =>
    rw [Library.buildUnder_of_error hurl]
    exact conduct_rebuild_of_error hurl .modern current s.library
  | ok url =>
    rw [Library.buildUnder, hurl]
    exact conduct_rebuild hurl .modern current s.library

/-- Opening a pool comes to what a modern rebuild does: the same pool or the same error, and the same
host but for the log. -/
def Agree (params : Params) (current : Pool) (s : PoolHost) : Prop :=
  ∃ built library notices,
    (opening params).runOn s = (.ok built, { s with library }) ∧
    (modernRebuild params current).runOn s =
      (.ok (blamed params built), { s with library, log := s.log ++ notices })

theorem agree_iff_library_eq : Agree params current s ↔
    (s.library.buildUnder params.name params).2 = (s.library.buildUnder (keyOf params) params).2 := by
  obtain ⟨notices, hrebuild⟩ := runOn_modernRebuild params current s
  constructor
  · rintro ⟨built, library, written, hopen, hagain⟩
    rw [runOn_opening] at hopen
    rw [hrebuild] at hagain
    have hleft := congrArg (fun r => r.2.library) hopen
    have hright := congrArg (fun r => r.2.library) hagain
    exact hleft.trans hright.symm
  · intro h
    refine ⟨_, _, notices, runOn_opening params s, ?_⟩
    rw [hrebuild, Library.buildUnder_eq_of_library_eq h]

/-- **When opening a pool comes to what a modern rebuild would**: where both use one key, and where no
failure was asked for under either of the two keys. Either of them fails if there is no URL, and if a
failure was asked for under its own key. -/
theorem opening_agrees_iff (s : PoolHost) (params : Params) (current : Pool) :
    (Agree params current s ↔ ∀ url, urlOf params = .ok url →
      keyOf params = params.name ∨
        (params.name ∉ s.library.failing ∧ keyOf params ∉ s.library.failing)) ∧
    ((∃ e, ((opening params).runOn s).1 = .ok (.error e)) ↔
      (∃ e, urlOf params = .error e) ∨ params.name ∈ s.library.failing) ∧
    ((∃ e, ((modernRebuild params current).runOn s).1 = .ok (.error e)) ↔
      (∃ e, urlOf params = .error e) ∨ keyOf params ∈ s.library.failing) := by
  obtain ⟨notices, hrebuild⟩ := runOn_modernRebuild params current s
  refine ⟨agree_iff_library_eq.trans Library.buildUnder_library_eq_iff, ?_, ?_⟩
  · rw [runOn_opening, ← Library.buildUnder_fails_iff]
    simp only [Except.ok.injEq]
  · rw [hrebuild, ← Library.buildUnder_fails_iff]
    cases (s.library.buildUnder (keyOf params) params).1 <;> simp [blamed, Except.mapError]

/-- The orders pool, described by its URL. -/
def ordersUnit : Params := .described "orders" ⟨unitType, .text "db://orders"⟩ .empty

/-- A failure that was asked for under the URL makes a rebuild fail, and opening the pool passes it by. -/
theorem opening_misses_unit_failure :
    let s : PoolHost := Host.start ((Library.start "4.3.0.Final").failNext "db://orders")
    let current : Pool := ⟨"db://orders", 0, .modern, defaultMax⟩
    ((opening ordersUnit).runOn s).1 = .ok (.ok current) ∧
    ((modernRebuild ordersUnit current).runOn s).1 =
      .ok (.error (.construction "orders" .modern "could not reach db://orders")) ∧
    ¬ Agree ordersUnit current s := by
  intro s current
  have hopen : ((opening ordersUnit).runOn s).1 = .ok (.ok current) := rfl
  have hrebuild : ((modernRebuild ordersUnit current).runOn s).1 =
      .ok (.error (.construction "orders" .modern "could not reach db://orders")) := rfl
  refine ⟨hopen, hrebuild, ?_⟩
  rintro ⟨built, library, notices, hbuilt, hagain⟩
  rw [hbuilt, Except.ok.injEq] at hopen
  subst hopen
  rw [hagain] at hrebuild
  cases hrebuild

end LiveSwap.Pool
