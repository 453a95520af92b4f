import LiveSwap.Proofs.CallOrder
import LiveSwap.Proofs.CycleReport
import LiveSwap.Proofs.Reachable
import LiveSwap.Proofs.TickCourse

/-!
# Which panics get out

While a handle is rebuilt a panic of the library is caught: it becomes the outcome of the handle, which
stays as it was and goes on to serve. A panic of the version probe is not caught, but nothing has been
done by then.

* **`Raised`** — a rebuild panics exactly if one of its calls does.
* **`Host.Contained`** — what holds of the handles that were refreshed, however their rebuilds went;
  `Host.Usable` says what can be done with them afterwards.
* **`Host.Escaped`** — what holds if the probe panics.
* **`Behaviour.panics_contained`** — after any history a refresh is contained, or the probe has escaped.
-/

namespace LiveSwap

variable {ι σ α β γ : Type}

/-! ## Panics on record -/

/-- What a call panicked with. -/
def panicOf : Except Payload α → Option Payload
  | .ok _ => none
  | .error payload => some payload

theorem panicOf_eq_some_iff {answer : Except Payload α} {payload : Payload} :
    panicOf answer = some payload ↔ answer = .error payload := by
  cases answer <;> simp [panicOf]

def CallRecord.panic? : CallRecord ι β γ → Option Payload
  | .version answer => panicOf answer
  | .create _ _ answer => panicOf answer
  | .builder _ _ answer => panicOf answer
  | .build _ answer => panicOf answer
  | .deregister _ _ answer => panicOf answer
  | .newConfiguration answer => panicOf answer
  | .configureNamed _ _ _ answer => panicOf answer
  | .configureDescriptor _ _ _ answer => panicOf answer
  | .buildConfigured _ answer => panicOf answer

/-- What is made of the calls panics exactly with what one of them panicked with. -/
def Raised (answer : Except Payload α) (calls : List (CallRecord ι β γ)) : Prop :=
  ∀ payload, answer = .error payload ↔ ∃ call ∈ calls, call.panic? = some payload

theorem Raised.of_ok {a : α} {calls : List (CallRecord ι β γ)} (h : Raised (.ok a) calls)
    {call : CallRecord ι β γ} (hcall : call ∈ calls) : call.panic? = none := by
  cases hpanic : call.panic? with
  | none => rfl
  | some payload => cases (h payload).mpr ⟨call, hcall, hpanic⟩

theorem raised_nil (a : α) : Raised (.ok a) ([] : List (CallRecord ι β γ)) := by
  simp [Raised]

/-- A call of its own is all that a recorded action can panic with. -/
theorem Act.raised_recorded {act : Act ι σ α} (hd : act.Detached)
    {call : Except Payload α → CallRecord ι β γ} (hcall : ∀ answer, (call answer).panic? = panicOf answer) :
    (act.recorded fun answer => [call answer]).Writes Raised := by
  refine (Act.Writes.recorded hd _).mono ?_
  rintro answer shown rfl payload
  simp [hcall, panicOf_eq_some_iff]

/-- **A panic goes through**: whatever actions are put together, they panic exactly if one of their
calls does. -/
theorem Act.raised_closed : Act.Closed fun _ (act : Act ι (σ × List (CallRecord ι β γ)) _) =>
    act.Writes Raised where
  -- a value and a notice are made without a call
  pure a := by
    refine (Act.Writes.pure a).mono ?_
    rintro answer shown ⟨rfl, rfl⟩
    exact raised_nil a
  log hn := by
    refine (Act.Writes.log hn).mono ?_
    rintro answer shown ⟨rfl, rfl⟩
    exact raised_nil ()
  bind hx hf := by
    refine hx.bind hf (fun payload shown h raised => ?_) (fun a answer first rest hfirst hrest payload => ?_)
    -- the first part panics only with what one of its own calls panicked with
    · rw [← h raised]
      simp
    · -- the first part has returned, so that only a call of the second part can have panicked
      rw [hrest payload]
      constructor
      · rintro ⟨call, hcall, hpanic⟩
        exact ⟨call, List.mem_append_right _ hcall, hpanic⟩
      · rintro ⟨call, hcall, hpanic⟩
        rcases List.mem_append.mp hcall with hcall | hcall
        · rw [hfirst.of_ok hcall] at hpanic
          cases hpanic
        · exact ⟨call, hcall, hpanic⟩

theorem Strategy.modern_raises {api : ModernApi ι σ β} (h : api.Detached) (params : Params) (current : ι) :
    ((Strategy.modern api.recorded).rebuild params current :
      Act ι (σ × List (CallRecord ι β γ)) _).Writes Raised :=
  Strategy.modern_closed Act.raised_closed (ModernApi.construct_closed Act.raised_closed
    (fun _ _ => Act.raised_recorded (h.create _ _) fun _ => rfl)
    (fun _ _ => Act.raised_recorded (h.builder _ _) fun _ => rfl)
    (fun _ => Act.raised_recorded (h.build _) fun _ => rfl)) params current

theorem Strategy.legacy_raises {api : LegacyApi ι σ γ} (h : api.Detached) (params : Params) (current : ι) :
    ((Strategy.legacy api.recorded).rebuild params current :
      Act ι (σ × List (CallRecord ι β γ)) _).Writes Raised :=
  Strategy.legacy_closed Act.raised_closed (Act.raised_recorded (h.deregister _ _) fun _ => rfl)
    (LegacyApi.construct_closed Act.raised_closed (Act.raised_recorded h.newConfiguration fun _ => rfl)
      (fun _ _ _ => Act.raised_recorded (h.configureNamed _ _ _) fun _ => rfl)
      (fun _ _ _ => Act.raised_recorded (h.configureDescriptor _ _ _) fun _ => rfl)
      (fun _ => Act.raised_recorded (h.build _) fun _ => rfl) params)

/-! ## Rebuilds on record -/

/-- What holds of a rebuild, of its calls and of what they came to. -/
structure Capability.Ran (capability : Capability) (params : Params) (current : ι)
    (answer : Except Payload (Except RebuildError ι)) (calls : List (CallRecord ι β γ)) : Prop where
  block : capability.Block params current calls
  raised : Raised answer calls
  blamed : ∀ error, answer = .ok (.error error) → ∃ cause, error = .construction params.name capability cause

theorem Strategy.Shows.and {ε : Type} {strategy : Strategy ι σ} {view : σ → List ε}
    {Step Step' : Params → ι → Except Payload (Except RebuildError ι) → List ε → Prop}
    (h : strategy.Shows view Step) (h' : strategy.Shows view Step') :
    strategy.Shows view fun params current answer shown =>
      Step params current answer shown ∧ Step' params current answer shown := by
  intro params current library
  obtain ⟨shown, hview, hstep⟩ := h params current library
  obtain ⟨shown', hview', hstep'⟩ := h' params current library
  obtain rfl : shown = shown' := List.append_cancel_left (hview.symm.trans hview')
  exact ⟨shown, hview, hstep, hstep'⟩

theorem Strategy.Blames.shows {ε : Type} {strategy : Strategy ι σ} {view : σ → List ε}
    {Step : Params → ι → Except Payload (Except RebuildError ι) → List ε → Prop}
    (hblames : strategy.Blames) (h : strategy.Shows view Step) :
    strategy.Shows view fun params current answer shown => Step params current answer shown ∧
      ∀ error, answer = .ok (.error error) →
        ∃ cause, error = .construction params.name strategy.capability cause := by
  intro params current library
  obtain ⟨shown, hview, hstep⟩ := h params current library
  exact ⟨shown, hview, hstep, fun error => hblames params current library error⟩

namespace Behaviour

variable (library : Behaviour ι σ β γ)

theorem recorded_shows_ran (capability : Capability) :
    (library.recordedCollaborators.strategies.select capability).Shows (·.2) capability.Ran := by
  -- three views on one rebuild: its calls, what they raised, and what its error is put down to
  have hblames : (library.recordedCollaborators.strategies.select capability).Blames := by
    cases capability with
    | legacy => exact Strategy.legacy_blames library.legacyApi_detached.recorded
    | modern => exact Strategy.modern_blames library.modernApi_detached.recorded
  have hraises : (library.recordedCollaborators.strategies.select capability).Shows (·.2)
      fun _ _ answer shown => Raised answer shown := by
    cases capability with
    | legacy => exact fun params current => (Strategy.legacy_raises library.legacyApi_detached params current).shown
    | modern => exact fun params current => (Strategy.modern_raises library.modernApi_detached params current).shown
  refine (hblames.shows ((library.recorded_shows_block capability).and hraises)).mono ?_
  rintro params current answer shown ⟨⟨hblock, hraised⟩, hblamed⟩
  rw [StrategySet.select_capability] at hblamed
  exact ⟨hblock, hraised, hblamed⟩

theorem settling_recorded_ok {config : HotSwapConfig} (start : σ × List (CallRecord ι β γ))
    (hprobe : config.forced = none → ∃ raw, (library.version start.1).answer = .ok raw) :
    ∃ capability asked,
      (library.recordedCollaborators.settling config start).answer = .ok capability ∧
      (library.recordedCollaborators.settling config start).library.2 = start.2 ++ asked ∧
      ∀ call ∈ asked, call.generation = none := by
  cases hforced : config.forced with
  | some forced =>
    rw [Collaborators.settling_of_forced _ hforced]
    exact ⟨forced, [], rfl, (List.append_nil start.2).symm, by simp⟩
  | none =>
    obtain ⟨raw, hraw⟩ := hprobe hforced
    obtain ⟨hanswer, hrecord⟩ := library.settling_recorded hforced start.1 start.2
    rw [hraw] at hanswer hrecord
    refine ⟨.ofReport raw, [.version (.ok raw)], hanswer, hrecord, ?_⟩
    simp [CallRecord.generation]

end Behaviour

/-! ## Handles after a refresh -/

namespace Host

/-- What can be done with a handle that the coordinator refreshes. -/
structure Usable (s : Host ι σ) (k : CoordinatorId) (id : HandleId) : Prop where
  /-- Its proxies reach the installed instance. -/
  forwarded : ∀ i, (s.handle id).installed = some i → ∀ (α : Type) (operation : ι → Act ι σ α),
    (Act.forward ⟨id⟩ operation).runOn s = (operation i.current).runOn s
  /-- It can be refreshed, and where the library delivers it gets a fresh instance. -/
  refreshed : ∀ (c : Collaborators ι σ) coordinator capability, c.Detached →
    s.coordinator? k = some coordinator → id ∈ (s.registry coordinator.registry).handles →
    (c.settling coordinator.config s.library).answer = .ok capability →
    ∃ outcome s', (c.refresh k (s.handle id).name).runOn s = (.ok (some outcome), s') ∧
      (c.Delivers → (s.handle id).isRegistered → outcome = .swapped ∧
        (s'.handle id).generation = (s.handle id).generation + 1)

theorem Sound.lookup_of_mem {s : Host ι σ} (hs : s.Sound) {r : RegistryId} {id : HandleId}
    (hid : id ∈ (s.registry r).handles) : (s.registry r).lookup (s.handle id).name = some id := by
  obtain ⟨entry, hentry, rfl⟩ := List.mem_map.mp hid
  rw [(hs.entry r entry.1 entry.2 hentry).2, Registry.lookup_eq_some_iff (hs.names_nodup r)]
  exact hentry

/-- Between operations every handle can be used. -/
theorem Sound.usable {s : Host ι σ} (hs : s.Sound) (k : CoordinatorId) (id : HandleId) : s.Usable k id := by
  refine ⟨fun i hi α operation => Act.runOn_forward hi (hs.idle id) operation, ?_⟩
  intro c coordinator capability hd hk hid hcapability
  have hrun := Collaborators.runOn_refresh hd hs hk (s.handle id).name
  -- names are unique in a registry, so the name leads back to the handle
  simp only [hs.lookup_of_mem hid, hcapability] at hrun
  refine ⟨_, _, hrun, fun hdelivers hregistered => ?_⟩
  obtain ⟨shown, -, hrefreshed⟩ := (s.after (c.settling coordinator.config s.library)).refreshHandle_refreshed
    (hdelivers.shows capability) id
  obtain ⟨hswapped, -, hgeneration⟩ := hrefreshed.delivered hregistered
  exact ⟨hswapped, hgeneration⟩

/-- **What holds after a refresh** of the visited handles, whatever their rebuilds came to. -/
structure Contained (s s' : Host ι (σ × List (CallRecord ι β γ))) (k : CoordinatorId) (capability : Capability)
    (visits : List (Visit (CallRecord ι β γ))) : Prop where
  /-- The probe is called at most, and then the calls of the visits are made. -/
  recorded : ∃ asked, (∀ call ∈ asked, call.generation = none) ∧
    s'.library.2 = s.library.2 ++ asked ++ (visits.map (·.shown)).flatten
  block : ∀ v ∈ visits, s.BlockOf capability v.handle v.shown
  /-- A panic of any of its calls becomes the outcome of the visit, and nothing else does. -/
  panicked : ∀ v ∈ visits, ∀ text, v.outcome = .failed (.panicked (s.handle v.handle).name text) ↔
    ∃ call ∈ v.shown, ∃ payload, call.panic? = some payload ∧ payload.message = text
  unchanged : ∀ v ∈ visits, ∀ error, v.outcome = .failed error → s'.handle v.handle = s.handle v.handle
  usable : ∀ v ∈ visits, s'.erase.Usable k v.handle
  reachable : s'.erase.Reachable

/-- **What holds after the probe has panicked**: only its call has been made. -/
structure Escaped (s s' : Host ι (σ × List (CallRecord ι β γ))) (payload : Payload) : Prop where
  handles : s'.handles = s.handles
  registries : s'.registries = s.registries
  coordinators : s'.coordinators = s.coordinators
  recorded : s'.library.2 = s.library.2 ++ [.version (.error payload)]
  reachable : s'.erase.Reachable

end Host

theorem Handle.Refreshed.panicked_iff {capability : Capability} {h h' : Handle ι} {outcome : Outcome}
    {calls : List (CallRecord ι β γ)} (hr : h.Refreshed capability.Ran outcome h' calls) (text : String) :
    outcome = .failed (.panicked h.name text) ↔
      ∃ call ∈ calls, ∃ payload, call.panic? = some payload ∧ payload.message = text := by
  cases hr with
  | skipped hi => simp
  | swapped hi hran =>
    refine ⟨nofun, ?_⟩
    rintro ⟨call, hcall, payload, hpanic, -⟩
    -- an instance was given, so none of the calls panicked
    rw [hran.raised.of_ok hcall] at hpanic
    cases hpanic
  | @failed i result error _ hi hran hfailure =>
    rcases result with payload | (cause | fresh)
    · obtain rfl : RebuildError.panicked h.name payload.message = error := by simpa [rebuildFailure] using hfailure
      constructor
      · intro hsame
        obtain ⟨call, hcall, hpanic⟩ := (hran.raised payload).mp rfl
        exact ⟨call, hcall, payload, hpanic, by simpa using hsame⟩
      · rintro ⟨call, hcall, raised, hpanic, rfl⟩
        obtain rfl : payload = raised := Except.error.inj ((hran.raised raised).mpr ⟨call, hcall, hpanic⟩)
        rfl
    · -- a returned error is blamed on a cause, and is no panic
      obtain ⟨reason, rfl⟩ := hran.blamed cause rfl
      obtain rfl := Option.some.inj hfailure
      refine ⟨nofun, ?_⟩
      rintro ⟨call, hcall, payload, hpanic, -⟩
      rw [hran.raised.of_ok hcall] at hpanic
      cases hpanic
    · cases hfailure

theorem Handle.Refreshed.unchanged {ε : Type} {h h' : Handle ι} {error : RebuildError} {shown : List ε}
    {Step : Params → ι → Except Payload (Except RebuildError ι) → List ε → Prop}
    (hr : h.Refreshed Step (.failed error) h' shown) : h' = h := by
  cases hr
  rfl

theorem Handle.Refreshed.mono {ε : Type} {h h' : Handle ι} {outcome : Outcome} {shown : List ε}
    {Step Step' : Params → ι → Except Payload (Except RebuildError ι) → List ε → Prop}
    (hr : h.Refreshed Step outcome h' shown) (hstep : ∀ params current answer shown,
      Step params current answer shown → Step' params current answer shown) :
    h.Refreshed Step' outcome h' shown := by
  cases hr with
  | skipped hi => exact .skipped hi
  | swapped hi hshown => exact .swapped hi (hstep _ _ _ _ hshown)
  | failed hi hshown hfailure => exact .failed hi (hstep _ _ _ _ hshown) hfailure

theorem Host.contained_of_refreshed {s s' : Host ι (σ × List (CallRecord ι β γ))} {k : CoordinatorId}
    {capability : Capability} {visits : List (Visit (CallRecord ι β γ))}
    (hrecorded : ∃ asked, (∀ call ∈ asked, call.generation = none) ∧
      s'.library.2 = s.library.2 ++ asked ++ (visits.map (·.shown)).flatten)
    (hrefreshed : ∀ v ∈ visits,
      (s.handle v.handle).Refreshed capability.Ran v.outcome (s'.handle v.handle) v.shown)
    (hreachable : s'.erase.Reachable) : s.Contained s' k capability visits where
  recorded := hrecorded
  block v hv := blockOf_of_refreshed ((hrefreshed v hv).mono fun _ _ _ _ hran => hran.block)
  panicked v hv := (hrefreshed v hv).panicked_iff
  unchanged v hv error herror := by
    have hturn := hrefreshed v hv
    rw [herror] at hturn
    exact hturn.unchanged
  usable v _ := hreachable.sound.usable k v.handle
  reachable := hreachable

/-! ## Refreshes of a coordinator -/

namespace Behaviour

variable (library : Behaviour ι σ β γ) {s : Host ι σ} {k : CoordinatorId} {coordinator : Coordinator}

/-- What a coordinator does with calls on record leads to a host that it reaches without. -/
theorem reachable_refreshAll (hs : s.Reachable) (k : CoordinatorId) (record : List (CallRecord ι β γ)) :
    ((library.recordedCollaborators.refreshAll k).runOn (s.withRecord record)).2.erase.Reachable := by
  have hreachable := hs.refreshAll library.collaborators_detached k
  -- the record is only written, so without it the run is the same
  have hcovers := library.covers_recordedCollaborators.refreshAll k (s.withRecord record)
  rw [Host.erase_withRecord] at hcovers
  rwa [hcovers] at hreachable

theorem reachable_refresh (hs : s.Reachable) (k : CoordinatorId) (name : String)
    (record : List (CallRecord ι β γ)) :
    ((library.recordedCollaborators.refresh k name).runOn (s.withRecord record)).2.erase.Reachable := by
  have hreachable := hs.refresh library.collaborators_detached k name
  have hcovers := library.covers_recordedCollaborators.refresh k name (s.withRecord record)
  rw [Host.erase_withRecord] at hcovers
  rwa [hcovers] at hreachable

/-- A cycle that can be settled comes back, and its visits are contained. -/
theorem refreshAll_contained (hs : s.Reachable) (hk : s.coordinator? k = some coordinator)
    (hprobe : coordinator.config.forced = none → ∃ raw, (library.version s.library).answer = .ok raw)
    (record : List (CallRecord ι β γ)) : ∃ report t visits,
      (library.recordedCollaborators.refreshAll k).runOn (s.withRecord record) = (.ok (some report), t) ∧
      (s.withRecord record).Contained t k report.capability visits ∧
      visits.map (·.handle) = (s.registry coordinator.registry).handles ∧
      report = (Report.start report.capability).recordAll (s.verdicts visits) := by
  have hd := library.recordedCollaborators_detached
  have hsound := hs.sound.withRecord record
  obtain ⟨capability, asked, hanswer, hasked, hprobes⟩ :=
    library.settling_recorded_ok (s.withRecord record).library hprobe
  obtain ⟨report, t, hrun, hcycle⟩ := Collaborators.runOn_refreshAll_of_settled hd hsound hk hanswer
  have hreachable := library.reachable_refreshAll hs k record
  rw [hrun] at hreachable
  obtain ⟨visits, -, hvisited, hreport, -, -⟩ := Host.cycle_visited hd (library.recorded_shows_ran capability)
    (hsound.after (library.recordedCollaborators.settling coordinator.config (s.withRecord record).library))
    coordinator.registry
  rw [hcycle] at hvisited hreport
  have hcapability : report.capability = capability :=
    (congrArg Report.capability hreport).trans (Report.recordAll_capability ..)
  rw [← hcapability] at hvisited hreport
  -- keeping the report touches neither the handles nor the record
  refine ⟨report, t.keepReport k report, visits, hrun, ?_, hvisited.handles, hreport⟩
  refine Host.contained_of_refreshed ⟨asked, hprobes, ?_⟩ hvisited.refreshed hreachable
  exact hvisited.shown.trans (congrArg (· ++ _) hasked)

theorem refresh_contained (hs : s.Reachable) (hk : s.coordinator? k = some coordinator)
    (hprobe : coordinator.config.forced = none → ∃ raw, (library.version s.library).answer = .ok raw)
    (record : List (CallRecord ι β γ)) {name : String} {id : HandleId}
    (hname : (s.registry coordinator.registry).lookup name = some id) : ∃ t capability visit,
      (library.recordedCollaborators.refresh k name).runOn (s.withRecord record) = (.ok (some visit.outcome), t) ∧
      (s.withRecord record).Contained t k capability [visit] ∧ visit.handle = id := by
  have hd := library.recordedCollaborators_detached
  have hsound := hs.sound.withRecord record
  obtain ⟨capability, asked, hanswer, hasked, hprobes⟩ :=
    library.settling_recorded_ok (s.withRecord record).library hprobe
  have hlookup : ((s.withRecord record).registry coordinator.registry).lookup name = some id := hname
  have hrun := Collaborators.runOn_refresh hd hsound hk name
  simp only [hlookup, hanswer] at hrun
  -- what the run without the record reaches, the run with it reaches as well
  have hreachable := library.reachable_refresh hs k name record
  rw [hrun] at hreachable
  obtain ⟨shown, hshown, hrefreshed⟩ := Host.refreshHandle_refreshed (library.recorded_shows_ran capability)
    ((s.withRecord record).after
      (library.recordedCollaborators.settling coordinator.config (s.withRecord record).library)) id
  refine ⟨_, capability, ⟨id, _, shown⟩, hrun, Host.contained_of_refreshed ⟨asked, hprobes, ?_⟩ ?_ hreachable, rfl⟩
  -- the calls are those of settling, and then those of the one visit
  · rw [List.map_singleton, List.flatten_singleton]
    exact hshown.trans (congrArg (· ++ _) hasked)
  · rintro v hv
    obtain rfl := List.mem_singleton.mp hv
    exact hrefreshed

/-- **What the probe panics with** gets out, and nothing has been done by then. -/
theorem probe_escapes (hs : s.Reachable) (hk : s.coordinator? k = some coordinator)
    (hforced : coordinator.config.forced = none) {payload : Payload}
    (hprobe : (library.version s.library).answer = .error payload) (record : List (CallRecord ι β γ)) :
    (∃ t, (library.recordedCollaborators.refreshAll k).runOn (s.withRecord record) =
      (.error (.panic payload), t) ∧ (s.withRecord record).Escaped t payload) ∧
    ∀ name id, (s.registry coordinator.registry).lookup name = some id →
      ∃ t, (library.recordedCollaborators.refresh k name).runOn (s.withRecord record) =
        (.error (.panic payload), t) ∧ (s.withRecord record).Escaped t payload := by
  have hd := library.recordedCollaborators_detached
  have hsound := hs.sound.withRecord record
  obtain ⟨hanswer, hrecord⟩ := library.settling_recorded hforced s.library record
  rw [hprobe] at hanswer hrecord
  have hsettled : (library.recordedCollaborators.settling coordinator.config
    (s.withRecord record).library).answer = .error payload := hanswer
  refine ⟨?_, ?_⟩
  -- neither of them gets past settling, so nothing but the probe is on record
  · have hrun := Collaborators.runOn_refreshAll hd hsound hk
    simp only [hsettled] at hrun
    have hreachable := library.reachable_refreshAll hs k record
    rw [hrun] at hreachable
    exact ⟨_, hrun, rfl, rfl, rfl, hrecord, hreachable⟩
  · intro name id hname
    have hlookup : ((s.withRecord record).registry coordinator.registry).lookup name = some id := hname
    have hrun := Collaborators.runOn_refresh hd hsound hk name
    simp only [hlookup, hsettled] at hrun
    have hreachable := library.reachable_refresh hs k name record
    rw [hrun] at hreachable
    exact ⟨_, hrun, rfl, rfl, rfl, hrecord, hreachable⟩

/-- **Which panics get out.** However the library behaves, a coordinator that need not ask for the
version, or is answered, refreshes to the end, and a panic of a rebuild stays with its handle. If it asks
and the library panics, that panic gets out before anything is done. -/
theorem panics_contained (hs : s.Reachable) (hk : s.coordinator? k = some coordinator)
    (record : List (CallRecord ι β γ)) :
    ((coordinator.config.forced = none → ∃ raw, (library.version s.library).answer = .ok raw) →
      (∃ report t visits,
        (library.recordedCollaborators.refreshAll k).runOn (s.withRecord record) = (.ok (some report), t) ∧
        (s.withRecord record).Contained t k report.capability visits ∧
        visits.map (·.handle) = (s.registry coordinator.registry).handles ∧
        report = (Report.start report.capability).recordAll (s.verdicts visits)) ∧
      ∀ name id, (s.registry coordinator.registry).lookup name = some id → ∃ t capability visit,
        (library.recordedCollaborators.refresh k name).runOn (s.withRecord record) =
          (.ok (some visit.outcome), t) ∧
        (s.withRecord record).Contained t k capability [visit] ∧ visit.handle = id) ∧
    (∀ payload, coordinator.config.forced = none → (library.version s.library).answer = .error payload →
      (∃ t, (library.recordedCollaborators.refreshAll k).runOn (s.withRecord record) =
        (.error (.panic payload), t) ∧ (s.withRecord record).Escaped t payload) ∧
      ∀ name id, (s.registry coordinator.registry).lookup name = some id →
        ∃ t, (library.recordedCollaborators.refresh k name).runOn (s.withRecord record) =
          (.error (.panic payload), t) ∧ (s.withRecord record).Escaped t payload) ∧
    (∀ name, (s.registry coordinator.registry).lookup name = none →
      (library.recordedCollaborators.refresh k name).runOn (s.withRecord record) =
        (.ok none, s.withRecord record)) ∧
    -- and what holds with the calls on record holds without
    (library.collaborators.refreshAll k).runOn s =
      (((library.recordedCollaborators.refreshAll k).runOn (s.withRecord record)).1,
        ((library.recordedCollaborators.refreshAll k).runOn (s.withRecord record)).2.erase) ∧
    ∀ name, (library.collaborators.refresh k name).runOn s =
      (((library.recordedCollaborators.refresh k name).runOn (s.withRecord record)).1,
        ((library.recordedCollaborators.refresh k name).runOn (s.withRecord record)).2.erase) := by
  refine ⟨fun hprobe => ⟨?_, ?_⟩, ?_, ?_, ?_, ?_⟩
  · exact library.refreshAll_contained hs hk hprobe record
  · exact fun name id => library.refresh_contained hs hk hprobe record
  · exact fun payload hforced hprobe => library.probe_escapes hs hk hforced hprobe record
  · intro name hname
    have hlookup : ((s.withRecord record).registry coordinator.registry).lookup name = none := hname
    have hrun := Collaborators.runOn_refresh library.recordedCollaborators_detached
      (hs.sound.withRecord record) hk name
    simpa only [hlookup] using hrun
  · exact library.covers_recordedCollaborators.refreshAll k (s.withRecord record)
  · exact fun name => library.covers_recordedCollaborators.refresh k name (s.withRecord record)

/-- A library that panics whatever it is asked to build, and when it is asked for its version if its state
says so. -/
def brittle : Behaviour Nat Bool Unit Unit where
  version mute := ⟨if mute then .error (.text "no version") else .ok "4.3.0", mute, []⟩
  create _ _ mute := ⟨.error (.text "out of memory"), mute, []⟩
  builder _ _ mute := ⟨.error (.text "out of memory"), mute, []⟩
  buildWith _ mute := ⟨.error (.text "out of memory"), mute, []⟩
  deregister _ _ mute := ⟨.error (.text "out of memory"), mute, []⟩
  newConfiguration mute := ⟨.error (.text "out of memory"), mute, []⟩
  configureNamed _ _ _ mute := ⟨.error (.text "out of memory"), mute, []⟩
  configureDescriptor _ _ _ mute := ⟨.error (.text "out of memory"), mute, []⟩
  buildConfigured _ mute := ⟨.error (.text "out of memory"), mute, []⟩

/-- A host with one registered handle and a coordinator that asks for the version. -/
def brittleHost (mute : Bool) : Host Nat Bool :=
  ((Act.register 0 1 (.named "orders" .empty)).runOn
    ((Act.newCoordinator 0 ⟨none, ⟨"Tick"⟩⟩).runOn (Act.newRegistry.runOn (Host.start mute)).2).2).2

theorem reachable_brittleHost (mute : Bool) : (brittleHost mute).Reachable :=
  (((Host.Reachable.start mute).newRegistry).newCoordinator 0 _).register 0 1 _

/-- The rebuild panics, and the handle fails; or asking for the version panics already. -/
theorem panics_contained_brittle :
    (∃ report t visits, (brittle.recordedCollaborators.refreshAll 0).runOn ((brittleHost false).withRecord []) =
        (.ok (some report), t) ∧
      ((brittleHost false).withRecord []).Contained t 0 report.capability visits ∧
      visits.map (·.handle) = [0] ∧
      report.failed = [("orders", .panicked "orders" "out of memory")]) ∧
    (∃ t, (brittle.recordedCollaborators.refreshAll 0).runOn ((brittleHost true).withRecord []) =
        (.error (.panic (.text "no version")), t) ∧
      ((brittleHost true).withRecord []).Escaped t (.text "no version")) ∧
    (brittle.recordedCollaborators.refresh 0 "users").runOn ((brittleHost false).withRecord []) =
      (.ok none, (brittleHost false).withRecord []) := by
  have hk : ∀ mute, (brittleHost mute).coordinator? 0 = some ⟨0, ⟨none, ⟨"Tick"⟩⟩, none⟩ := fun _ => rfl
  have hasked := brittle.panics_contained (reachable_brittleHost false) (hk false) []
  have hmute := brittle.panics_contained (reachable_brittleHost true) (hk true) []
  refine ⟨?_, (hmute.2.1 _ rfl rfl).1, hasked.2.2.1 "users" rfl⟩
  obtain ⟨report, t, visits, hrun, hcontained, hhandles, -⟩ := (hasked.1 fun _ => ⟨_, rfl⟩).1
  refine ⟨report, t, visits, hrun, hcontained, hhandles, ?_⟩
  -- which handle is visited the theorem says; what the run reports is evaluated
  have hreport : ((brittle.recordedCollaborators.refreshAll 0).runOn ((brittleHost false).withRecord [])).1 =
      .ok (some ⟨.modern, [], [("orders", .panicked "orders" "out of memory")], []⟩) := by
    decide +kernel
  rw [hrun] at hreport
  obtain rfl := Option.some.inj (Except.ok.inj hreport)
  rfl

end Behaviour

end LiveSwap
