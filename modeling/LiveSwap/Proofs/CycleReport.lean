import LiveSwap.Proofs.Run
import Mathlib.Data.List.Nodup

/-!
# What a cycle reports

The report of a cycle, its log and the handles before and after it tell one story: every handle of
the registry was attempted once, in the order of creation, and stands in the one list of the report
that says what became of it.

* **`Report.partition`**, **`Report.sublist_of_filterMap`** — the lists of a report hold every verdict
  once and keep the order of the verdicts.
* **`Host.CycleReported`** — what holds between the hosts before and after a cycle, its report and
  its rebuilds.
* **`Behaviour.refreshAll_reported`** — every cycle with the standard strategies is reported so,
  unless the version probe itself panics.
-/

namespace LiveSwap

variable {ι σ β γ : Type}

/-! ## The lists of a report -/

namespace Report

variable (capability : Capability) (verdicts : List Verdict)

theorem recordAll_capability (r : Report) : (r.recordAll verdicts).capability = r.capability := by
  rw [recordAll_eq]

/-- Every name stands in one of the lists, as often as it has a verdict. -/
theorem partition :
    (((start capability).recordAll verdicts).refreshed ++
      ((start capability).recordAll verdicts).failed.map (·.1) ++
      ((start capability).recordAll verdicts).skipped).Perm (verdicts.map (·.1)) := by
  rw [recordAll_eq]
  show (verdicts.filterMap Verdict.swapped? ++ (verdicts.filterMap Verdict.failed?).map (·.1) ++
    verdicts.filterMap Verdict.skipped?).Perm _
  induction verdicts with
  | nil => exact .nil
  | cons verdict verdicts ih =>
    obtain ⟨name, outcome⟩ := verdict
    cases outcome with
    | swapped => exact ih.cons name
    | failed error =>
      -- the name stands behind the refreshed ones
      refine .trans ?_ (ih.cons name)
      show (_ ++ name :: _ ++ _).Perm _
      rw [List.append_assoc, List.append_assoc, List.cons_append]
      exact List.perm_middle
    | unregistered => exact List.perm_middle.trans (ih.cons name)

theorem sublist_of_filterMap {f : Verdict → Option String} (hf : ∀ v name, f v = some name → name = v.1) :
    (verdicts.filterMap f).Sublist (verdicts.map (·.1)) := by
  induction verdicts with
  | nil => exact .slnil
  | cons verdict verdicts ih =>
    cases h : f verdict with
    | none =>
      rw [List.filterMap_cons_none h]
      exact ih.cons _
    | some name =>
      rw [List.filterMap_cons_some h, hf verdict name h]
      exact ih.cons_cons _

theorem sublist_refreshed :
    ((start capability).recordAll verdicts).refreshed.Sublist (verdicts.map (·.1)) := by
  rw [recordAll_eq]
  apply sublist_of_filterMap
  intro v name h
  rw [Verdict.swapped?_eq_some_iff.mp h]

theorem sublist_skipped :
    ((start capability).recordAll verdicts).skipped.Sublist (verdicts.map (·.1)) := by
  rw [recordAll_eq]
  apply sublist_of_filterMap
  intro v name h
  rw [Verdict.skipped?_eq_some_iff.mp h]

theorem sublist_failed :
    (((start capability).recordAll verdicts).failed.map (·.1)).Sublist (verdicts.map (·.1)) := by
  rw [recordAll_eq]
  show ((verdicts.filterMap Verdict.failed?).map (·.1)).Sublist _
  rw [List.map_filterMap]
  apply sublist_of_filterMap
  intro v name h
  obtain ⟨entry, hentry, rfl⟩ := Option.map_eq_some_iff.mp h
  rw [Verdict.failed?_eq_some_iff.mp hentry]

theorem mem_filterMap_verdicts {α : Type} {f : Verdict → Option α} {g : α → Verdict}
    (hf : ∀ v a, f v = some a ↔ v = g a) (a : α) : a ∈ verdicts.filterMap f ↔ g a ∈ verdicts := by
  rw [List.mem_filterMap]
  constructor
  · rintro ⟨v, hmem, h⟩
    rwa [← (hf v a).mp h]
  · intro hmem
    exact ⟨g a, hmem, (hf _ a).mpr rfl⟩

theorem mem_refreshed {name : String} : name ∈ ((start capability).recordAll verdicts).refreshed ↔
    (name, .swapped) ∈ verdicts := by
  rw [recordAll_eq]
  exact mem_filterMap_verdicts verdicts (fun _ _ => Verdict.swapped?_eq_some_iff) name

theorem mem_skipped {name : String} : name ∈ ((start capability).recordAll verdicts).skipped ↔
    (name, .unregistered) ∈ verdicts := by
  rw [recordAll_eq]
  exact mem_filterMap_verdicts verdicts (fun _ _ => Verdict.skipped?_eq_some_iff) name

theorem mem_failed {name : String} {error : RebuildError} :
    (name, error) ∈ ((start capability).recordAll verdicts).failed ↔
      (name, .failed error) ∈ verdicts := by
  rw [recordAll_eq]
  exact mem_filterMap_verdicts verdicts (fun _ _ => Verdict.failed?_eq_some_iff) (name, error)

theorem mem_map_failed {name : String} :
    name ∈ ((start capability).recordAll verdicts).failed.map (·.1) ↔
      ∃ error, (name, .failed error) ∈ verdicts := by
  rw [List.mem_map]
  constructor
  · rintro ⟨⟨other, error⟩, hmem, rfl⟩
    exact ⟨error, (mem_failed capability verdicts).mp hmem⟩
  · rintro ⟨error, hmem⟩
    exact ⟨(name, error), (mem_failed capability verdicts).mpr hmem, rfl⟩

end Report

/-! ## What the standard strategies blame -/

/-- An error that a rebuild returns names the resource of its parameters and the strategy's own
capability. -/
def Strategy.Blames (strategy : Strategy ι σ) : Prop :=
  ∀ params current library error,
    ((strategy.rebuild params current).conduct library).answer = .ok (.error error) →
      ∃ cause, error = .construction params.name strategy.capability cause

/-- The error of a construction is its cause, put under a name and a capability. -/
theorem Act.conduct_mapError {act : Act ι σ (Except Cause ι)} (hd : act.Detached)
    {f : Cause → RebuildError} {library : σ} {error : RebuildError}
    (h : ((act >>= fun built => pure (built.mapError f)).conduct library).answer =
      .ok (.error error)) : ∃ cause, error = f cause := by
  rw [conduct_bind hd fun _ => .pure _, Conduct.andThen] at h
  rcases hanswer : (act.conduct library).answer with payload | (cause | fresh)
  · rw [hanswer] at h
    cases h
  · rw [hanswer] at h
    simp only [conduct_pure, Except.mapError, Except.ok.injEq, Except.error.injEq] at h
    exact ⟨cause, h.symm⟩
  · rw [hanswer] at h
    simp only [conduct_pure, Except.mapError, Except.ok.injEq, reduceCtorEq] at h

theorem Strategy.modern_blames {api : ModernApi ι σ β} (hd : api.Detached) :
    (Strategy.modern api).Blames := by
  intro params current library error h
  rw [Strategy.modern_rebuild] at h
  exact Act.conduct_mapError (hd.construct params) h

theorem Strategy.legacy_blames {api : LegacyApi ι σ γ} (hd : api.Detached) :
    (Strategy.legacy api).Blames := by
  intro params current library error h
  have hconstruct := (hd.construct params).bind
    (f := fun built => pure (built.mapError (RebuildError.construction params.name .legacy)))
      fun _ => .pure _
  rw [Strategy.legacy_rebuild, Act.conduct_bind (hd.tidy _ _) fun _ => hconstruct, Conduct.andThen] at h
  rcases hanswer : ((api.tidy params.name current).conduct library).answer with payload | _
  · rw [hanswer] at h
    cases h
  · rw [hanswer] at h
    exact Act.conduct_mapError (hd.construct params) h

theorem Behaviour.select_blames (library : Behaviour ι σ β γ) (capability : Capability) :
    (library.collaborators.strategies.select capability).Blames := by
  cases capability with
  | legacy => exact Strategy.legacy_blames library.legacyApi_detached
  | modern => exact Strategy.modern_blames library.modernApi_detached

/-! ## Between two hosts -/

/-- What holds between the hosts before and after a cycle over the first registry, the report of the
cycle and the rebuilds it made. -/
structure Host.CycleReported (s s' : Host ι σ) (report : Report) (attempts : List (Attempt ι)) :
    Prop where
  /-- Each list of the report is in the order of creation. -/
  refreshed_sublist : report.refreshed.Sublist (s.registry 0).names
  failed_sublist : (report.failed.map (·.1)).Sublist (s.registry 0).names
  skipped_sublist : report.skipped.Sublist (s.registry 0).names
  /-- Together the lists are the names of the registry, none of them twice. -/
  partition : (report.refreshed ++ report.failed.map (·.1) ++ report.skipped).Perm
    (s.registry 0).names
  nodup : (report.refreshed ++ report.failed.map (·.1) ++ report.skipped).Nodup
  skipped_iff : ∀ id ∈ (s.registry 0).handles,
    (s.handle id).name ∈ report.skipped ↔ (s.handle id).isRegistered = false
  refreshed_iff : ∀ id ∈ (s.registry 0).handles,
    (s.handle id).name ∈ report.refreshed ↔
      (s'.handle id).generation = (s.handle id).generation + 1
  /-- A rebuild that erred or panicked gave no instance. -/
  failed_iff : ∀ id ∈ (s.registry 0).handles,
    (s.handle id).name ∈ report.failed.map (·.1) ↔
      ∃ a ∈ attempts, a.params.name = (s.handle id).name ∧ a.built? = none
  /-- A failure leaves its handle as it was, and the error says which one and with what strategy. -/
  failed : ∀ id ∈ (s.registry 0).handles, ∀ error, ((s.handle id).name, error) ∈ report.failed →
    s'.handle id = s.handle id ∧ error.resource = (s.handle id).name ∧
      ∀ capability, error.capability? = some capability → capability = report.capability
  /-- Every registered handle is rebuilt once, in the order of creation, from what it held before
  the cycle. -/
  attempts_eq : attempts.map (fun a => (a.params, a.current)) =
    (s.registry 0).handles.filterMap fun id =>
      (s.handle id).installed.map fun i => (i.params, i.current)
  /-- Between its start and its end the log names every handle once, in the order of creation. -/
  log : ∃ detected during,
    s'.log = (s.log ++ detected) ++ .cycleStarted report.capability (s.registry 0).handles.length ::
      (during ++ [.cycleCompleted report.capability report.refreshed.length report.failed.length
        report.skipped.length]) ∧
      (∀ n ∈ detected, n.ofRefresh = false) ∧
      during.filterMap Notice.attempted? = (s.registry 0).names
  counts : report.refreshed.length + report.failed.length + report.skipped.length =
    (s.registry 0).handles.length
  lastReport : (s'.coordinator? 0).bind (·.lastReport) = some report

namespace Host.Visited

variable {ε : Type} {s s' : Host ι σ} {config : HotSwapConfig} {view : σ → List ε}
  {Step : Params → ι → Except Payload (Except RebuildError ι) → List ε → Prop}
  {visits : List (Visit ε)}

theorem map_verdicts (hv : s.Visited s' 0 view Step visits) (hs : s.Sound) :
    (s.verdicts visits).map (·.1) = (s.registry 0).names := by
  rw [← hs.map_handle_name, ← hv.handles, verdicts, List.map_map, List.map_map]
  rfl

theorem exists_visit (hv : s.Visited s' 0 view Step visits) {id : HandleId}
    (hid : id ∈ (s.registry 0).handles) : ∃ v ∈ visits, v.handle = id := by
  rw [← hv.handles] at hid
  exact List.mem_map.mp hid

theorem eq_of_name (hv : s.Visited s' 0 view Step visits) (hs : s.Founded config)
    {v w : Visit ε} (hvmem : v ∈ visits) (hwmem : w ∈ visits)
    (h : (s.handle v.handle).name = (s.handle w.handle).name) : v = w := by
  have hlt : ∀ u ∈ visits, u.handle < s.handles.length := by
    intro u hu
    have hmem : u.handle ∈ (s.registry 0).handles := hv.handles ▸ List.mem_map_of_mem hu
    rw [hs.listed] at hmem
    exact List.mem_range.mp hmem
  have hnodup : (visits.map (·.handle)).Nodup := hv.handles ▸ hs.sound.handles_nodup 0
  exact List.inj_on_of_nodup_map hnodup hvmem hwmem
    (hs.name_inj (hlt v hvmem) (hlt w hwmem) h)

theorem mem_verdicts (hv : s.Visited s' 0 view Step visits) (hs : s.Founded config) {v : Visit ε}
    (hvmem : v ∈ visits) (outcome : Outcome) :
    ((s.handle v.handle).name, outcome) ∈ s.verdicts visits ↔ v.outcome = outcome := by
  rw [verdicts, List.mem_map]
  constructor
  · rintro ⟨w, hwmem, hw⟩
    obtain ⟨hname, houtcome⟩ := Prod.mk.inj hw
    rw [← hv.eq_of_name hs hwmem hvmem hname, houtcome]
  · rintro rfl
    exact ⟨v, hvmem, rfl⟩

end Host.Visited

/-! ## Rebuilds and visits -/

section Attempts

variable {strategy : Strategy ι σ}

/-- What a visit adds to the chronicle: the rebuild of a registered handle from what it holds. -/
theorem Handle.Refreshed.map_attempts {h h' : Handle ι} {outcome : Outcome}
    {shown : List (Attempt ι)} (hr : h.Refreshed strategy.Attempted outcome h' shown) :
    shown.map (fun a => (a.params, a.current)) =
      (h.installed.map fun i => (i.params, i.current)).toList := by
  cases hr with
  | skipped hi => rw [hi]; rfl
  | swapped hi hstep => rw [hi, hstep.1]; rfl
  | failed hi hstep _ => rw [hi, hstep.1]; rfl

theorem map_attempts_flatten {s : Host ι σ} {visits : List (Visit (Attempt ι))}
    (h : ∀ v ∈ visits, v.shown.map (fun a => (a.params, a.current)) =
      ((s.handle v.handle).installed.map fun i => (i.params, i.current)).toList) :
    (visits.map (·.shown)).flatten.map (fun a => (a.params, a.current)) =
      (visits.map (·.handle)).filterMap fun id =>
        (s.handle id).installed.map fun i => (i.params, i.current) := by
  induction visits with
  | nil => rfl
  | cons v visits ih =>
    have hv := h v List.mem_cons_self
    have hrest := ih fun w hw => h w (List.mem_cons_of_mem v hw)
    rw [List.map_cons, List.flatten_cons, List.map_append, hv, hrest, List.map_cons,
      List.filterMap_cons]
    cases (s.handle v.handle).installed <;> rfl

theorem Handle.Refreshed.skipped_iff {ε : Type} {h h' : Handle ι} {outcome : Outcome}
    {shown : List ε} {Step : Params → ι → Except Payload (Except RebuildError ι) → List ε → Prop}
    (hr : h.Refreshed Step outcome h' shown) :
    outcome = .unregistered ↔ h.isRegistered = false := by
  cases hr with
  | skipped hi => simp [isRegistered, hi]
  | swapped hi _ => simp [isRegistered, hi]
  | failed hi _ _ => simp [isRegistered, hi]

theorem Handle.Refreshed.swapped_iff {ε : Type} {h h' : Handle ι} {outcome : Outcome}
    {shown : List ε} {Step : Params → ι → Except Payload (Except RebuildError ι) → List ε → Prop}
    (hr : h.Refreshed Step outcome h' shown) :
    outcome = .swapped ↔ h'.generation = h.generation + 1 := by
  cases hr with
  | skipped hi => simp
  | @swapped i fresh _ hi _ => simp [swap_of_installed hi]
  | failed hi _ _ => simp

theorem Handle.Refreshed.failed_iff {h h' : Handle ι} {outcome : Outcome} {shown : List (Attempt ι)}
    (hr : h.Refreshed strategy.Attempted outcome h' shown) :
    (∃ error, outcome = .failed error) ↔ ∃ a ∈ shown, a.built? = none := by
  cases hr with
  | skipped hi => simp
  | swapped hi hstep =>
    rw [hstep.1]
    simp [Attempt.built?]
  -- a rebuild that came to no instance is the only one on record
  | @failed i result error _ hi hstep hfailure =>
    rw [hstep.1]
    constructor
    · intro _
      exact ⟨_, List.mem_singleton_self _, built?_of_failure hfailure⟩
    · intro _
      exact ⟨error, rfl⟩

theorem Handle.Refreshed.attempt_name {h h' : Handle ι} {outcome : Outcome}
    {shown : List (Attempt ι)} (hr : h.Refreshed strategy.Attempted outcome h' shown)
    (hparams : ∀ i, h.installed = some i → i.params.name = h.name) {a : Attempt ι}
    (ha : a ∈ shown) : a.params.name = h.name := by
  cases hr with
  | skipped hi => cases ha
  | swapped hi hstep =>
    rw [hstep.1, List.mem_singleton] at ha
    rw [ha]
    exact hparams _ hi
  | failed hi hstep _ =>
    rw [hstep.1, List.mem_singleton] at ha
    rw [ha]
    exact hparams _ hi

/-- Among all rebuilds of a cycle, those under a handle's name are those of its visit. -/
theorem Host.Visited.exists_attempt_iff {τ : Type} {s s' : Host ι τ} {config : HotSwapConfig}
    {view : τ → List (Attempt ι)} {visits : List (Visit (Attempt ι))} {Given : Attempt ι → Prop}
    (hv : s.Visited s' 0 view strategy.Attempted visits) (hs : s.Founded config)
    {v : Visit (Attempt ι)} (hvmem : v ∈ visits) :
    (∃ a ∈ (visits.map (·.shown)).flatten, a.params.name = (s.handle v.handle).name ∧ Given a) ↔
      ∃ a ∈ v.shown, Given a := by
  have hname : ∀ w ∈ visits, ∀ a ∈ w.shown, a.params.name = (s.handle w.handle).name :=
    fun w hwmem a ha =>
      (hv.refreshed w hwmem).attempt_name (hs.sound.params_name w.handle) ha
  constructor
  · rintro ⟨a, ha, haname, hgiven⟩
    obtain ⟨shown, hshown, hashown⟩ := List.mem_flatten.mp ha
    obtain ⟨w, hwmem, rfl⟩ := List.mem_map.mp hshown
    -- names are distinct, so the rebuild belongs to the visit of this handle
    have hsame : w = v := by
      apply hv.eq_of_name hs hwmem hvmem
      rw [← hname w hwmem a hashown, haname]
    exact ⟨a, hsame ▸ hashown, hgiven⟩
  · rintro ⟨a, ha, hgiven⟩
    exact ⟨a, List.mem_flatten.mpr ⟨v.shown, List.mem_map_of_mem hvmem, ha⟩, hname v hvmem a ha,
      hgiven⟩

theorem Handle.Refreshed.of_failed {h h' : Handle ι} {error : RebuildError}
    {shown : List (Attempt ι)} (hblames : strategy.Blames)
    (hparams : ∀ i, h.installed = some i → i.params.name = h.name)
    (hr : h.Refreshed strategy.Attempted (.failed error) h' shown) :
    h' = h ∧ error.resource = h.name ∧
      ∀ capability, error.capability? = some capability → capability = strategy.capability := by
  cases hr with
  | @failed i result _ _ hi hstep hfailure =>
    refine ⟨rfl, ?_⟩
    obtain ⟨_, library, hanswer⟩ := hstep
    -- a panic has no capability; an error has that of the strategy
    rcases result with payload | (cause | fresh)
    · cases hfailure
      refine ⟨rfl, fun capability h => ?_⟩
      cases h
    · cases hfailure
      obtain ⟨cause, rfl⟩ := hblames _ _ _ _ hanswer
      refine ⟨hparams i hi, fun capability h => ?_⟩
      cases h
      rfl
    · cases hfailure

end Attempts

/-! ## Cycles -/

/-- The rebuilds of a cycle that starts on a host, as the strategies write them down. -/
def Behaviour.cycleAttempts (library : Behaviour ι σ β γ) (s : Host ι σ) : List (Attempt ι) :=
  ((library.collaborators.chronicled.refreshAll 0).runOn (s.withRecord [])).2.library.2

theorem Behaviour.settling_answer (library : Behaviour ι σ β γ) (config : HotSwapConfig)
    {start : σ} (hprobe : config.forced = none → ∃ raw, (library.version start).answer = .ok raw)
    (record : List (Attempt ι)) : ∃ capability,
      (library.collaborators.chronicled.settling config (start, record)).answer = .ok capability := by
  cases hforced : config.forced with
  | some forced =>
    rw [Collaborators.settling_of_forced _ hforced]
    exact ⟨forced, rfl⟩
  | none =>
    obtain ⟨raw, hraw⟩ := hprobe hforced
    have hd := library.collaborators_detached
    -- the chronicle does not show in what the probe answers
    have hasked : library.collaborators.chronicled.probe.conduct (start, record) = _ :=
      Act.conduct_recorded hd.probe _ (start, record)
    have hanswer : (library.collaborators.probe.conduct start).answer = .ok raw := by
      rw [Behaviour.collaborators, Call.conduct_act]
      exact hraw
    refine ⟨.ofReport raw, ?_⟩
    rw [(Collaborators.settling_of_ask hd.chronicled hforced _).1, hasked]
    show (library.collaborators.probe.conduct start).answer.map _ = _
    rw [hanswer]
    rfl

namespace Host

/-- **A cycle with a settled capability is reported.** -/
theorem cycle_reported {c : Collaborators ι σ} (hd : c.Detached) {capability : Capability}
    (hblames : (c.strategies.select capability).Blames) {t : Host ι (σ × List (Attempt ι))}
    {config : HotSwapConfig} (ht : t.Founded config) (hempty : t.library.2 = []) :
    t.CycleReported
      ((t.cycle c.chronicled 0 capability).2.keepReport 0 (t.cycle c.chronicled 0 capability).1)
      (t.cycle c.chronicled 0 capability).1 (t.cycle c.chronicled 0 capability).2.library.2 := by
  have hstrategy : (c.chronicled.strategies.select capability).Shows (·.2)
      (c.strategies.select capability).Attempted := by
    rw [c.select_chronicled]
    exact Strategy.chronicled_shows (hd.select capability)
  -- everything is read off the visits, one for each listed handle
  obtain ⟨visits, during, hv, hreport, hlog, hattempted⟩ :=
    t.cycle_visited hd.chronicled hstrategy ht.sound 0
  have hnames := hv.map_verdicts ht.sound
  have hattempts : (t.cycle c.chronicled 0 capability).2.library.2 =
      (visits.map (·.shown)).flatten := by
    have hshown := hv.shown
    rwa [hempty, List.nil_append] at hshown
  obtain ⟨k, hk, _, _⟩ := (ht.cycle c.chronicled capability).coordinator
  have hpartition := Report.partition capability (t.verdicts visits)
  have hnodup := ht.sound.names_nodup 0
  rw [hattempts, hreport]
  rw [hnames] at hpartition
  refine ⟨?_, ?_, ?_, hpartition, hpartition.nodup_iff.mpr hnodup, ?_, ?_, ?_, ?_, ?_, ?_, ?_, ?_⟩
  · rw [← hnames]
    exact Report.sublist_refreshed ..
  · rw [← hnames]
    exact Report.sublist_failed ..
  · rw [← hnames]
    exact Report.sublist_skipped ..
  · -- skipped: exactly the handles that were never registered
    intro id hid
    obtain ⟨v, hvmem, rfl⟩ := hv.exists_visit hid
    rw [Report.mem_skipped, hv.mem_verdicts ht hvmem]
    exact (hv.refreshed v hvmem).skipped_iff
  · -- refreshed: exactly those whose generation rose
    intro id hid
    obtain ⟨v, hvmem, rfl⟩ := hv.exists_visit hid
    rw [Report.mem_refreshed, hv.mem_verdicts ht hvmem]
    exact (hv.refreshed v hvmem).swapped_iff
  · -- failed: exactly those with a rebuild that gave no instance
    intro id hid
    obtain ⟨v, hvmem, rfl⟩ := hv.exists_visit hid
    rw [hv.exists_attempt_iff ht hvmem, ← (hv.refreshed v hvmem).failed_iff, Report.mem_map_failed]
    exact exists_congr fun error => hv.mem_verdicts ht hvmem (.failed error)
  · -- and what their failures leave and say
    intro id hid error hmem
    obtain ⟨v, hvmem, rfl⟩ := hv.exists_visit hid
    rw [Report.mem_failed, hv.mem_verdicts ht hvmem] at hmem
    have hrefreshed := hv.refreshed v hvmem
    rw [hmem] at hrefreshed
    obtain ⟨hsame, hresource, hcapability⟩ :=
      hrefreshed.of_failed hblames (ht.sound.params_name v.handle)
    refine ⟨hsame, hresource, fun given h => ?_⟩
    rw [hcapability given h, StrategySet.select_capability, Report.recordAll_capability]
    rfl
  · rw [← hv.handles]
    exact map_attempts_flatten fun v hvmem => (hv.refreshed v hvmem).map_attempts
  · refine ⟨[], during, ?_, by simp, ?_⟩
    · rw [List.append_nil, ← hreport]
      rw [hreport, Report.recordAll_capability, ← hreport]
      exact hlog
    · rw [hattempted, hnames]
  · -- the lists are as long as the registry, because together they are its names
    have hlength := hpartition.length_eq
    rw [List.length_append, List.length_append, List.length_map] at hlength
    rw [hlength, Registry.names, Registry.handles, List.length_map, List.length_map]
  · rw [coordinator?_keepReport, hk]
    rfl

/-- Whatever the library did before the cycle started makes no difference. -/
theorem CycleReported.of_after {α : Type} {s s' : Host ι σ} {d : Conduct σ α} {report : Report}
    {attempts : List (Attempt ι)} (h : (s.after d).CycleReported s' report attempts)
    (hsilent : ∀ n ∈ d.notices, n.ofRefresh = false) : s.CycleReported s' report attempts := by
  -- what settling wrote comes first, and belongs to no refresh
  obtain ⟨detected, during, hlog, hdetected, hduring⟩ := h.log
  have hlog' : s'.log = (s.log ++ (d.notices ++ detected)) ++
      .cycleStarted report.capability (s.registry 0).handles.length ::
        (during ++ [.cycleCompleted report.capability report.refreshed.length report.failed.length
          report.skipped.length]) := by
    rw [hlog, ← List.append_assoc s.log]
    rfl
  have hsilent' : ∀ n ∈ d.notices ++ detected, n.ofRefresh = false := by
    intro n hn
    rcases List.mem_append.mp hn with hn | hn
    · exact hsilent n hn
    · exact hdetected n hn
  exact ⟨h.refreshed_sublist, h.failed_sublist, h.skipped_sublist, h.partition, h.nodup,
    h.skipped_iff, h.refreshed_iff, h.failed_iff, h.failed, h.attempts_eq,
    ⟨d.notices ++ detected, during, hlog', hsilent', hduring⟩, h.counts, h.lastReport⟩

theorem CycleReported.erase {ε : Type} {s s' : Host ι (σ × List ε)} {report : Report}
    {attempts : List (Attempt ι)} (h : s.CycleReported s' report attempts) :
    s.erase.CycleReported s'.erase report attempts :=
  ⟨h.refreshed_sublist, h.failed_sublist, h.skipped_sublist, h.partition, h.nodup, h.skipped_iff,
    h.refreshed_iff, h.failed_iff, h.failed, h.attempts_eq, h.log, h.counts, h.lastReport⟩

end Host

namespace Behaviour

theorem refreshAll_reported_of_founded (library : Behaviour ι σ β γ) {config : HotSwapConfig}
    {s : Host ι σ} (hs : s.Founded config)
    (hprobe : config.forced = none → ∃ raw, (library.version s.library).answer = .ok raw) :
    ∃ report s', (library.collaborators.refreshAll 0).runOn s = (.ok (some report), s') ∧
      s.CycleReported s' report (library.cycleAttempts s) := by
  have hd := library.collaborators_detached
  have ht := hs.withRecord ([] : List (Attempt ι))
  obtain ⟨capability, hcapability⟩ := library.settling_answer config hprobe []
  obtain ⟨k, hk, hregistry, hconfig⟩ := ht.coordinator
  have hrun := Collaborators.runOn_refreshAll hd.chronicled ht.sound hk
  rw [hregistry, hconfig, show (s.withRecord []).library = (s.library, []) from rfl,
    hcapability] at hrun
  -- the cycle that keeps a chronicle does what the plain one does
  have hcovers := library.collaborators.covers_chronicled.refreshAll 0 (s.withRecord [])
  rw [Host.erase_withRecord, hrun] at hcovers
  refine ⟨_, _, hcovers, ?_⟩
  have hcycle := Host.cycle_reported hd (library.select_blames capability)
    (ht.after (library.collaborators.chronicled.settling config (s.library, [])))
    (Collaborators.settling_chronicled hd config (s.library, []))
  have hsilent := (hd.chronicled.capability config).silent (s.library, [])
  rw [cycleAttempts, hrun]
  exact (hcycle.of_after hsilent).erase

/-- **Every cycle is reported.** After any run, and however the library behaves, a cycle whose
version probe returns gives a report that agrees with the log and with every handle of the
registry. -/
theorem refreshAll_reported (library : Behaviour ι σ β γ) (config : HotSwapConfig) (start : σ)
    (ops : List (Operation ι σ))
    (hprobe : config.forced = none → ∃ raw,
      (library.version (library.run config start ops).host.library).answer = .ok raw) :
    ∃ report s', (library.collaborators.refreshAll 0).runOn (library.run config start ops).host =
        (.ok (some report), s') ∧
      (library.run config start ops).host.CycleReported s' report
        (library.cycleAttempts (library.run config start ops).host) :=
  library.refreshAll_reported_of_founded
    (Run.founded library.collaborators_detached config start ops) hprobe

/-- A cycle that asks for the version, with an exchange, a failure and a handle that was never
registered. -/
theorem refreshAll_reported_scripted :
    let config : HotSwapConfig := ⟨none, ⟨"Tick"⟩⟩
    let script := [.ok (.ok 8), .error .other]
    let ops := [.register 1 (.named "orders" .empty), .getOrCreate "spare",
      .register 2 (.named "users" .empty)]
    let s := ((Behaviour.scripted (ι := Nat)).run config script ops).host
    (config.forced = none → ∃ raw, (Behaviour.scripted.version s.library).answer = .ok raw) ∧
      ∃ report s', (Behaviour.scripted.collaborators.refreshAll 0).runOn s = (.ok (some report), s') ∧
        s.CycleReported s' report (Behaviour.scripted.cycleAttempts s) :=
  ⟨fun _ => ⟨_, rfl⟩, refreshAll_reported scripted _ _ _ fun _ => ⟨_, rfl⟩⟩

end Behaviour

end LiveSwap
