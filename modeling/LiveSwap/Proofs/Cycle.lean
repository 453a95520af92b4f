import LiveSwap.Proofs.Refresh

/-!
# What a cycle does

A coordinator's operations as functions of the host, for collaborators that are detached: first the
capability is settled, which may panic, and then everything that follows returns.

* **`Collaborators.runOn_refreshAll`** — a whole cycle is `Host.cycle`, and its report is kept.
* **`Collaborators.runOn_refresh`** — one handle by name is `Host.refreshHandle`, and no report is
  kept.
-/

namespace LiveSwap

variable {ι σ : Type}

/-! ## Settling the capability -/

/-- What becomes of a version string once the library has given it. -/
def Act.judge (raw : String) : Act ι σ Capability :=
  match LibraryVersion.parse raw with
  | .ok version => Act.log (.versionDetected version (.ofVersion version)) >>= fun _ =>
      pure (.ofVersion version)
  | .error error => Act.log (.versionUnreadable raw error) >>= fun _ => pure .legacy

theorem Act.judge_detached (raw : String) : (judge raw : Act ι σ Capability).Detached := by
  rw [judge]
  cases LibraryVersion.parse raw with
  | ok version => exact .bind (.log rfl) fun _ => .pure _
  | error error => exact .bind (.log rfl) fun _ => .pure _

/-- A version string always settles the capability, and the library is not asked again. -/
theorem Act.conduct_judge (raw : String) (library : σ) :
    ((judge raw : Act ι σ Capability).conduct library).answer = .ok (.ofReport raw) ∧
      ((judge raw : Act ι σ Capability).conduct library).library = library := by
  rw [judge, Capability.ofReport]
  cases LibraryVersion.parse raw with
  | ok version =>
    rw [conduct_bind (.log rfl) fun _ => .pure _]
    exact ⟨rfl, rfl⟩
  | error error =>
    rw [conduct_bind (.log rfl) fun _ => .pure _]
    exact ⟨rfl, rfl⟩

namespace Collaborators

theorem capability_of_forced (c : Collaborators ι σ) {config : HotSwapConfig} {forced : Capability}
    (h : config.forced = some forced) : c.capability config = pure forced := by
  rw [capability, h]

theorem capability_of_ask (c : Collaborators ι σ) {config : HotSwapConfig}
    (h : config.forced = none) : c.capability config = c.probe >>= Act.judge := by
  rw [capability, h]
  rfl

theorem Detached.capability {c : Collaborators ι σ} (hd : c.Detached) (config : HotSwapConfig) :
    (c.capability config).Detached := by
  cases h : config.forced with
  | some forced =>
    rw [c.capability_of_forced h]
    exact .pure forced
  | none =>
    rw [c.capability_of_ask h]
    exact hd.probe.bind Act.judge_detached

/-- What settling the capability comes to. -/
def settling (c : Collaborators ι σ) (config : HotSwapConfig) (library : σ) : Conduct σ Capability :=
  (c.capability config).conduct library

theorem runOn_capability_bind {α : Type} {c : Collaborators ι σ} (hd : c.Detached)
    (config : HotSwapConfig) (f : Capability → Act ι σ α) (s : Host ι σ) :
    (c.capability config >>= f).runOn s =
      match (c.settling config s.library).answer with
      | .error payload => (.error (.panic payload), s.after (c.settling config s.library))
      | .ok capability => (f capability).runOn (s.after (c.settling config s.library)) := by
  rw [(hd.capability config).runOn_bind, settling]
  cases ((c.capability config).conduct s.library).answer with
  | error payload => rfl
  | ok capability => rfl

theorem settling_of_forced (c : Collaborators ι σ) {config : HotSwapConfig} {forced : Capability}
    (h : config.forced = some forced) (library : σ) :
    c.settling config library = ⟨.ok forced, library, []⟩ := by
  rw [settling, c.capability_of_forced h, Act.conduct_pure]

/-- If none is forced the library is asked once, and its version decides; only the probe itself can
panic. -/
theorem settling_of_ask {c : Collaborators ι σ} (hd : c.Detached) {config : HotSwapConfig}
    (h : config.forced = none) (library : σ) :
    (c.settling config library).answer = (c.probe.conduct library).answer.map .ofReport ∧
      (c.settling config library).library = (c.probe.conduct library).library := by
  rw [settling, c.capability_of_ask h, Act.conduct_bind hd.probe Act.judge_detached, Conduct.andThen]
  cases (c.probe.conduct library).answer with
  | error payload => exact ⟨rfl, rfl⟩
  | ok raw => exact Act.conduct_judge raw _

end Collaborators

/-! ## The operations of a coordinator -/

namespace Host

/-- A cycle with a settled capability: its report, and the host afterwards. -/
def cycle (s : Host ι σ) (c : Collaborators ι σ) (registry : RegistryId) (capability : Capability) :
    Report × Host ι σ :=
  let ids := (s.registry registry).handles
  let (verdicts, s') := (s.addNotice (.cycleStarted capability ids.length)).refreshHandles
    (c.strategies.select capability) ids
  let report := (Report.start capability).recordAll verdicts
  (report, s'.addNotice (.cycleCompleted capability report.refreshed.length report.failed.length
    report.skipped.length))

/-- Keeps a report with its coordinator. -/
def keepReport (s : Host ι σ) (id : CoordinatorId) (report : Report) : Host ι σ :=
  { s with coordinators := s.coordinators.modify id fun k => { k with lastReport := some report } }

theorem coordinator?_keepReport (s : Host ι σ) (id : CoordinatorId) (report : Report) :
    (s.keepReport id report).coordinator? id =
      (s.coordinator? id).map fun k => { k with lastReport := some report } := by
  rw [coordinator?, coordinator?]
  exact List.getElem?_modify_eq ..

theorem Sound.after {α : Type} {s : Host ι σ} (hs : s.Sound) (c : Conduct σ α) : (s.after c).Sound :=
  hs.congr rfl rfl

theorem Sound.addNotice {s : Host ι σ} (hs : s.Sound) (n : Notice) : (s.addNotice n).Sound :=
  hs.congr rfl rfl

theorem cycle_frame (s : Host ι σ) (c : Collaborators ι σ) (registry : RegistryId)
    (capability : Capability) :
    (s.cycle c registry capability).2.handles.length = s.handles.length ∧
      (s.cycle c registry capability).2.registries = s.registries ∧
      (s.cycle c registry capability).2.coordinators = s.coordinators :=
  refreshHandles_frame (c.strategies.select capability)
    (s.addNotice (.cycleStarted capability (s.registry registry).handles.length))
    (s.registry registry).handles

theorem Sound.cycle {s : Host ι σ} (hs : s.Sound) (c : Collaborators ι σ) (registry : RegistryId)
    (capability : Capability) : (s.cycle c registry capability).2.Sound :=
  ((hs.addNotice _).refreshHandles _).addNotice _

end Host

namespace Collaborators

variable {c : Collaborators ι σ} {s : Host ι σ} {id : CoordinatorId} {k : Coordinator}

theorem runOn_cycle (hd : c.Detached) (hs : s.Sound) (registry : RegistryId)
    (config : HotSwapConfig) :
    (c.cycle registry config).runOn s =
      match (c.settling config s.library).answer with
      | .error payload => (.error (.panic payload), s.after (c.settling config s.library))
      | .ok capability =>
        (.ok ((s.after (c.settling config s.library)).cycle c registry capability).1,
          ((s.after (c.settling config s.library)).cycle c registry capability).2) := by
  rw [cycle, runOn_capability_bind hd]
  cases (c.settling config s.library).answer with
  | error payload => rfl
  | ok capability =>
    show (get >>= _ : Act ι σ Report).runOn (s.after (c.settling config s.library)) = _
    rw [Effect.runOn_get_bind]
    show (Act.log _ >>= _ : Act ι σ Report).runOn _ = _
    -- the loop always returns, so that the summary is written and the report handed over
    rw [Act.runOn_log_bind, Effect.runOn_bind_ok (runOn_refreshEach (hd.select capability)
      ((hs.after _).addNotice _) _ _)]
    rfl

/-- **A cycle of a coordinator.** If the version can be asked for, a report comes back whatever the
library does, and it is the coordinator's last one from then on. -/
theorem runOn_refreshAll (hd : c.Detached) (hs : s.Sound) (hk : s.coordinator? id = some k) :
    (c.refreshAll id).runOn s =
      match (c.settling k.config s.library).answer with
      | .error payload => (.error (.panic payload), s.after (c.settling k.config s.library))
      | .ok capability =>
        let (report, s') := (s.after (c.settling k.config s.library)).cycle c k.registry capability
        (.ok (some report), s'.keepReport id report) := by
  have hcycle := runOn_cycle hd hs k.registry k.config
  rw [refreshAll, Effect.runOn_get_bind, hk]
  show (c.cycle k.registry k.config >>= _ : Act ι σ (Option Report)).runOn s = _
  cases hanswer : (c.settling k.config s.library).answer with
  | error payload =>
    rw [hanswer] at hcycle
    exact Effect.runOn_bind_error hcycle
  | ok capability =>
    rw [hanswer] at hcycle
    rw [Effect.runOn_bind_ok hcycle]
    rfl

theorem runOn_refreshAll_of_settled (hd : c.Detached) (hs : s.Sound) (hk : s.coordinator? id = some k)
    {capability : Capability} (h : (c.settling k.config s.library).answer = .ok capability) :
    ∃ report t, (c.refreshAll id).runOn s = (.ok (some report), t.keepReport id report) ∧
      (s.after (c.settling k.config s.library)).cycle c k.registry capability = (report, t) := by
  rcases hcycle : (s.after (c.settling k.config s.library)).cycle c k.registry capability with ⟨report, t⟩
  refine ⟨report, t, ?_, rfl⟩
  simp only [runOn_refreshAll hd hs hk, h, hcycle]

/-- **Refreshing one name.** A name without a handle is not refreshed and the library is not asked;
otherwise one handle is refreshed with the strategy of the moment. -/
theorem runOn_refresh (hd : c.Detached) (hs : s.Sound) (hk : s.coordinator? id = some k)
    (name : String) :
    (c.refresh id name).runOn s =
      match (s.registry k.registry).lookup name with
      | none => (.ok none, s)
      | some handle =>
        match (c.settling k.config s.library).answer with
        | .error payload => (.error (.panic payload), s.after (c.settling k.config s.library))
        | .ok capability =>
          let (outcome, s') := (s.after (c.settling k.config s.library)).refreshHandle
            (c.strategies.select capability) handle
          (.ok (some outcome), s') := by
  rw [refresh, Effect.runOn_get_bind, hk]
  show (get >>= _ : Act ι σ (Option Outcome)).runOn s = _
  rw [Effect.runOn_get_bind]
  -- a name that is not listed is told apart before anything is asked
  cases (s.registry k.registry).lookup name with
  | none => rfl
  | some handle =>
    show (c.capability k.config >>= _ : Act ι σ (Option Outcome)).runOn s = _
    rw [runOn_capability_bind hd]
    cases (c.settling k.config s.library).answer with
    | error payload => rfl
    | ok capability =>
      show (some <$> Act.refreshWith handle (c.strategies.select capability)).runOn
        (s.after (c.settling k.config s.library)) = _
      rw [Effect.runOn_map, Act.runOn_refreshWith (hd.select capability) ((hs.after _).idle handle)]
      rfl

end Collaborators

/-! ## The log of a cycle -/

/-- The resource that a refresh reports on. -/
def Notice.attempted? : Notice → Option String
  | .unregisteredSkipped resource => some resource
  | .rebuilt resource _ _ => some resource
  | .rebuildFailed resource _ _ => some resource
  | _ => none

theorem Notice.attempted?_of_silent {n : Notice} (h : n.ofRefresh = false) : n.attempted? = none := by
  cases n <;> first | rfl | cases h

namespace Host

theorem filterMap_attempted?_rebuild {strategy : Strategy ι σ} (hd : strategy.Detached)
    (params : Params) (current : ι) (library : σ) :
    ((strategy.rebuild params current).conduct library).notices.filterMap Notice.attempted? = [] := by
  rw [List.filterMap_eq_nil_iff]
  intro n hn
  exact Notice.attempted?_of_silent ((hd params current).silent library n hn)

theorem refreshHandle_log {strategy : Strategy ι σ} (hd : strategy.Detached) (s : Host ι σ)
    (id : HandleId) : ∃ written, (s.refreshHandle strategy id).2.log = s.log ++ written ∧
      written.filterMap Notice.attempted? = [(s.handle id).name] := by
  rcases s.refreshHandle_cases strategy id with hi | ⟨i, fresh, hi, hanswer⟩ | ⟨i, error, hi, hfailure⟩
  · rw [refreshHandle_unregistered hi]
    exact ⟨[_], rfl, rfl⟩
  · rw [refreshHandle_swapped hi hanswer]
    refine ⟨_ ++ [_], List.append_assoc _ _ _, ?_⟩
    rw [List.filterMap_append, filterMap_attempted?_rebuild hd]
    rfl
  · rw [refreshHandle_failed hi hfailure]
    refine ⟨_ ++ [_], List.append_assoc _ _ _, ?_⟩
    rw [List.filterMap_append, filterMap_attempted?_rebuild hd]
    rfl

theorem refreshHandles_log {strategy : Strategy ι σ} (hd : strategy.Detached) (s : Host ι σ)
    (ids : List HandleId) : ∃ written, (s.refreshHandles strategy ids).2.log = s.log ++ written ∧
      written.filterMap Notice.attempted? = (s.refreshHandles strategy ids).1.map (·.1) := by
  induction ids generalizing s with
  | nil => exact ⟨[], (List.append_nil _).symm, rfl⟩
  | cons id ids ih =>
    obtain ⟨first, hfirst, hattempted⟩ := s.refreshHandle_log hd id
    obtain ⟨rest, hrest, hattempted'⟩ := ih (s.refreshHandle strategy id).2
    refine ⟨first ++ rest, ?_, ?_⟩
    · rw [refreshHandles_cons, hrest, hfirst, List.append_assoc]
    · rw [List.filterMap_append, hattempted, hattempted']
      rfl

end Host

/-! ## The course of a cycle -/

section Visits

variable {ε : Type} {c : Collaborators ι σ} {capability : Capability} {view : σ → List ε}
  {Step : Params → ι → Except Payload (Except RebuildError ι) → List ε → Prop}

/-- The visits of a cycle from one host to another: every listed handle has one, in order, on the
handle as it was when the cycle began. -/
structure Host.Visited (s s' : Host ι σ) (registry : RegistryId) (view : σ → List ε)
    (Step : Params → ι → Except Payload (Except RebuildError ι) → List ε → Prop)
    (visits : List (Visit ε)) : Prop where
  handles : visits.map (·.handle) = (s.registry registry).handles
  shown : view s'.library = view s.library ++ (visits.map (·.shown)).flatten
  refreshed : ∀ v ∈ visits,
    (s.handle v.handle).Refreshed Step v.outcome (s'.handle v.handle) v.shown

/-- The names with the outcomes of their visits. -/
def Host.verdicts (s : Host ι σ) (visits : List (Visit ε)) : List Verdict :=
  visits.map fun v => ((s.handle v.handle).name, v.outcome)

/-- **The course of a cycle.** Every listed handle is visited once, in order; the report files the
outcomes; and the log names the handles in the order of the visits, between a start and an end. -/
theorem Host.cycle_visited (hd : c.Detached)
    (hstrategy : (c.strategies.select capability).Shows view Step) {s : Host ι σ} (hs : s.Sound)
    (registry : RegistryId) : ∃ visits during,
      s.Visited (s.cycle c registry capability).2 registry view Step visits ∧
      (s.cycle c registry capability).1 = (Report.start capability).recordAll (s.verdicts visits) ∧
      (s.cycle c registry capability).2.log =
        s.log ++ .cycleStarted capability (s.registry registry).handles.length :: (during ++
          [.cycleCompleted capability (s.cycle c registry capability).1.refreshed.length
            (s.cycle c registry capability).1.failed.length
            (s.cycle c registry capability).1.skipped.length]) ∧
      during.filterMap Notice.attempted? = (s.verdicts visits).map (·.1) := by
  -- the visits begin on the host on which the start of the cycle is already written down
  obtain ⟨visits, hhandles, hverdicts, hview, hrefreshed⟩ :=
    (s.addNotice (.cycleStarted capability (s.registry registry).handles.length)).refreshHandles_visits
      hstrategy (hs.handles_nodup registry)
  obtain ⟨during, hlog, hattempted⟩ :=
    (s.addNotice (.cycleStarted capability (s.registry registry).handles.length)).refreshHandles_log
      (hd.select capability) (s.registry registry).handles
  refine ⟨visits, during, ⟨hhandles, hview, hrefreshed⟩, ?_, ?_, ?_⟩
  · show (Report.start capability).recordAll _ = _
    rw [hverdicts]
    rfl
  · show _ ++ _ = _
    rw [hlog]
    show (s.log ++ [_]) ++ during ++ [_] = _
    rw [List.append_assoc, List.append_assoc]
    rfl
  · rw [hattempted, hverdicts]
    rfl

end Visits

end LiveSwap
