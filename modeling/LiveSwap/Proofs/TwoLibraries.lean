import LiveSwap.Proofs.Reachable
import Mathlib.Data.List.Forall2

/-!
# One cycle under two libraries

Two libraries answer rebuilds from the parameters and the installed instance alone, and alike except for one
name. A cycle from the same state under either of them then differs in nothing but that name, wherever its
handle stands in the registry and however its rebuild ends.

* **`Collaborators.Answers`** — what rebuilds come to, in whatever state the library is.
* **`Handle.Refreshed.agree`** — a handle that is rebuilt alike ends alike.
* **`Host.cycle_apart`** — two cycles, each handle with its counterpart.
* **`Behaviour.refreshAll_apart`** — the same of the coordinator's operation. The state is any sound one;
  every reachable state is (`Host.Reachable.sound`).
-/

namespace LiveSwap

variable {ι σ σ' β β' γ γ' ε ε' : Type}

/-- How a rebuild ends, by the capability, the parameters and the installed instance. -/
abbrev Answering (ι : Type) := Capability → Params → ι → Except Payload (Except RebuildError ι)

/-- What a rebuild comes to does not depend on the state of the library. -/
def Collaborators.Answers (c : Collaborators ι σ) (answering : Answering ι) : Prop :=
  ∀ capability params current library,
    (((c.strategies.select capability).rebuild params current).conduct library).answer =
      answering capability params current

/-- Two ways to answer that differ at most for one name. -/
def Answering.AlikeExcept (first second : Answering ι) (name : String) : Prop :=
  ∀ capability params current, params.name ≠ name →
    first capability params current = second capability params current

/-! ## Reports without a name -/

/-- The report as if there were no handle of that name. -/
def Report.without (r : Report) (name : String) : Report :=
  ⟨r.capability, r.refreshed.filter (· != name), r.failed.filter (·.1 != name),
    r.skipped.filter (· != name)⟩

theorem Report.without_record_self (r : Report) (name : String) (outcome : Outcome) :
    (r.record name outcome).without name = r.without name := by
  cases outcome with
  | swapped => simp [Report.without, Report.record]
  | failed error => simp [Report.without, Report.record]
  | unregistered => simp [Report.without, Report.record]

theorem Report.without_record_of_ne (r : Report) {name other : String} (h : other ≠ name)
    (outcome : Outcome) : (r.record other outcome).without name = (r.without name).record other outcome := by
  cases outcome with
  | swapped => simp [Report.without, Report.record, h]
  | failed error => simp [Report.without, Report.record, h]
  | unregistered => simp [Report.without, Report.record, h]

theorem Report.without_recordAll {name : String} {first second : List Verdict}
    (h : List.Forall₂ (fun v w => v.1 = w.1 ∧ (v.1 ≠ name → v.2 = w.2)) first second) {r r' : Report}
    (hr : r.without name = r'.without name) :
    (r.recordAll first).without name = (r'.recordAll second).without name := by
  induction h generalizing r r' with
  | nil => exact hr
  | @cons v w _ _ hvw _ ih =>
    obtain ⟨other, outcome⟩ := v
    obtain ⟨_, outcome'⟩ := w
    obtain ⟨rfl, halike⟩ := hvw
    rw [recordAll_cons, recordAll_cons]
    apply ih
    -- only outcomes of that name may differ, and they are not looked at
    by_cases hname : other = name
    · subst hname
      rw [without_record_self, without_record_self, hr]
    · obtain rfl : outcome = outcome' := halike hname
      rw [without_record_of_ne _ hname, without_record_of_ne _ hname, hr]

/-! ## Two refreshes of one handle -/

/-- **A handle that is rebuilt alike ends alike**, and so does one that is not rebuilt. -/
theorem Handle.Refreshed.agree
    {Step : Params → ι → Except Payload (Except RebuildError ι) → List ε → Prop}
    {Step' : Params → ι → Except Payload (Except RebuildError ι) → List ε' → Prop}
    {h first second : Handle ι} {outcome outcome' : Outcome} {shown : List ε} {shown' : List ε'}
    (hfirst : h.Refreshed Step outcome first shown) (hsecond : h.Refreshed Step' outcome' second shown')
    (halike : ∀ {i result result' shown shown'}, h.installed = some i →
      Step i.params i.current result shown → Step' i.params i.current result' shown' → result = result') :
    outcome = outcome' ∧ first = second := by
  cases hfirst with
  | skipped hi =>
    cases hsecond with
    | skipped _ => exact ⟨rfl, rfl⟩
    | swapped hi' _ => rw [hi] at hi'; cases hi'
    | failed hi' _ _ => rw [hi] at hi'; cases hi'
  | swapped hi hstep =>
    cases hsecond with
    | skipped hi' => rw [hi] at hi'; cases hi'
    | swapped hi' hstep' =>
      obtain rfl := Option.some.inj (hi.symm.trans hi')
      have hresult := halike hi hstep hstep'
      cases hresult
      exact ⟨rfl, rfl⟩
    | failed hi' hstep' hfailure =>
      obtain rfl := Option.some.inj (hi.symm.trans hi')
      -- the same result cannot be an instance and a failure
      rw [← halike hi hstep hstep'] at hfailure
      cases hfailure
  | failed hi hstep hfailure =>
    cases hsecond with
    | skipped hi' => rw [hi] at hi'; cases hi'
    | swapped hi' hstep' =>
      obtain rfl := Option.some.inj (hi.symm.trans hi')
      rw [halike hi hstep hstep'] at hfailure
      cases hfailure
    | failed hi' hstep' hfailure' =>
      obtain rfl := Option.some.inj (hi.symm.trans hi')
      rw [halike hi hstep hstep', hfailure'] at hfailure
      cases hfailure
      exact ⟨rfl, rfl⟩

/-! ## Two cycles -/

namespace Host

/-- The same host with another library behind it. -/
def serving (s : Host ι σ) (library : σ') : Host ι σ' :=
  ⟨s.handles, s.registries, s.coordinators, s.log, library⟩

theorem Sound.serving {s : Host ι σ} (hs : s.Sound) (library : σ') : (s.serving library).Sound :=
  ⟨hs.entry, hs.names_nodup, hs.idle, hs.params_name⟩

theorem cycle_handle_of_notMem (s : Host ι σ) (c : Collaborators ι σ) {registry : RegistryId}
    (capability : Capability) {id : HandleId} (h : id ∉ (s.registry registry).handles) :
    (s.cycle c registry capability).2.handle id = s.handle id :=
  refreshHandles_handle_of_notMem (s.addNotice _) h

variable {c : Collaborators ι σ} {c' : Collaborators ι σ'} {first second : Answering ι} {name : String}

/-- **Two cycles side by side.** Every handle has its turn in both. If it is not the one of the name that
the libraries differ on, it ends alike in both and is reported alike. -/
theorem cycle_apart (hd : c.Detached) (hd' : c'.Detached) (hfirst : c.Answers first)
    (hsecond : c'.Answers second) (halike : first.AlikeExcept second name) {s : Host ι σ}
    {s' : Host ι σ'} (hs : s.Sound) (hs' : s'.Sound) (hhandles : s'.handles = s.handles)
    (hregistries : s'.registries = s.registries) (registry : RegistryId) (capability : Capability) :
    (s.cycle c registry capability).1.without name = (s'.cycle c' registry capability).1.without name ∧
      ∀ id, (s.registry registry).lookup name ≠ some id →
        (s.cycle c registry capability).2.handle id = (s'.cycle c' registry capability).2.handle id := by
  have hhandle : ∀ id, s'.handle id = s.handle id := fun id => by rw [handle, handle, hhandles]
  have hregistry : s'.registry registry = s.registry registry := by
    rw [Host.registry, Host.registry, hregistries]
  -- what a rebuild showed is of no interest here, only how it ended
  have hshows : (c.strategies.select capability).Shows (fun _ => ([] : List Unit))
      fun params current result _ => result = first capability params current :=
    fun params current library => ⟨[], rfl, hfirst capability params current library⟩
  have hshows' : (c'.strategies.select capability).Shows (fun _ => ([] : List Unit))
      fun params current result _ => result = second capability params current :=
    fun params current library => ⟨[], rfl, hsecond capability params current library⟩
  obtain ⟨visits, -, hvisited, hreport, -, -⟩ := cycle_visited hd hshows hs registry
  obtain ⟨visits', -, hvisited', hreport', -, -⟩ := cycle_visited hd' hshows' hs' registry
  have hturns : visits.map (·.handle) = visits'.map (·.handle) := by
    rw [hvisited.handles, hvisited'.handles, hregistry]
  have hagree : ∀ v ∈ visits, ∀ w ∈ visits', v.handle = w.handle → (s.handle v.handle).name ≠ name →
      v.outcome = w.outcome ∧ (s.cycle c registry capability).2.handle v.handle =
        (s'.cycle c' registry capability).2.handle v.handle := by
    intro v hv w hw hsame hname
    have hw' := hvisited'.refreshed w hw
    rw [← hsame, hhandle] at hw'
    refine (hvisited.refreshed v hv).agree hw' fun {i} _ _ _ _ hi hresult hresult' => ?_
    rw [hresult, hresult']
    refine halike _ _ _ ?_
    rwa [hs.params_name _ i hi]
  refine ⟨?_, fun id hid => ?_⟩
  · rw [hreport, hreport']
    refine Report.without_recordAll ?_ rfl
    have hpaired : List.Forall₂ (fun v w : Visit Unit => v.handle = w.handle) visits visits' := by
      have hequal : List.Forall₂ (· = ·) (visits.map (·.handle)) (visits'.map (·.handle)) := by
        rw [hturns]
        exact List.forall₂_refl _
      exact List.forall₂_map_right_iff.mp (List.forall₂_map_left_iff.mp hequal)
    obtain ⟨hlength, hsame⟩ := List.forall₂_iff_zip.mp hpaired
    rw [verdicts, verdicts, List.forall₂_map_left_iff, List.forall₂_map_right_iff, List.forall₂_iff_zip]
    refine ⟨hlength, fun {v w} hvw => ?_⟩
    obtain ⟨hv, hw⟩ := List.of_mem_zip hvw
    refine ⟨?_, fun hname => (hagree v hv w hw (hsame hvw) hname).1⟩
    rw [hhandle, ← hsame hvw]
  · by_cases hlisted : id ∈ (s.registry registry).handles
    · obtain ⟨v, hv, rfl⟩ : ∃ v ∈ visits, v.handle = id := by
        rwa [← hvisited.handles, List.mem_map] at hlisted
      obtain ⟨w, hw, hsame⟩ : ∃ w ∈ visits', w.handle = v.handle := by
        rw [← List.mem_map, ← hturns]
        exact List.mem_map_of_mem hv
      refine (hagree v hv w hw hsame.symm fun hname => hid ?_).2
      -- a listed handle is found under its name
      obtain ⟨entry, hentry, hhandled⟩ := List.mem_map.mp hlisted
      rw [Registry.lookup_eq_some_iff (hs.names_nodup registry), ← hname, ← hhandled,
        (hs.entry registry entry.1 entry.2 hentry).2]
      exact hentry
    · rw [cycle_handle_of_notMem s c capability hlisted,
        cycle_handle_of_notMem s' c' capability (by rwa [hregistry]), hhandle]

end Host

/-! ## The coordinator's operation -/

namespace Behaviour

variable {first : Behaviour ι σ β γ} {second : Behaviour ι σ' β' γ'}

theorem settling_alike (config : HotSwapConfig) {library : σ} {library' : σ'}
    (hversion : config.forced = none → (first.version library).answer = (second.version library').answer) :
    (first.collaborators.settling config library).answer =
      (second.collaborators.settling config library').answer := by
  cases hforced : config.forced with
  | some forced =>
    rw [Collaborators.settling_of_forced _ hforced, Collaborators.settling_of_forced _ hforced]
  | none =>
    have hprobe : (first.collaborators.probe.conduct library).answer =
        (second.collaborators.probe.conduct library').answer := by
      rw [collaborators, collaborators, Call.conduct_act, Call.conduct_act]
      exact hversion hforced
    rw [(Collaborators.settling_of_ask first.collaborators_detached hforced _).1,
      (Collaborators.settling_of_ask second.collaborators_detached hforced _).1, hprobe]

/-- **A failing resource does not show in the others.** Two libraries report one version, and answer a
rebuild from the parameters and the installed instance alone, alike except for one name. Refreshing all from
the same state with one or the other leaves every other handle with the same instance, parameters and
generation, and the reports are the same but for that name. Only a panicking version probe ends it without a
report, and then it does so with both. -/
theorem refreshAll_apart {answering answering' : Answering ι} {name : String}
    (hfirst : first.collaborators.Answers answering) (hsecond : second.collaborators.Answers answering')
    (halike : answering.AlikeExcept answering' name) {s : Host ι σ} (hs : s.Sound) {id : CoordinatorId}
    {k : Coordinator} (hk : s.coordinator? id = some k) {library' : σ'}
    (hversion : k.config.forced = none →
      (first.version s.library).answer = (second.version library').answer) :
    let ended := (first.collaborators.refreshAll id).runOn s
    let ended' := (second.collaborators.refreshAll id).runOn (s.serving library')
    ((∃ report report', ended.1 = .ok (some report) ∧ ended'.1 = .ok (some report') ∧
        report.without name = report'.without name) ∨
      ∃ payload, k.config.forced = none ∧ (first.version s.library).answer = .error payload ∧
        ended.1 = .error (.panic payload) ∧ ended'.1 = .error (.panic payload)) ∧
    ∀ handle, (s.registry k.registry).lookup name ≠ some handle →
      ended.2.handle handle = ended'.2.handle handle := by
  intro ended ended'
  have hsettling := settling_alike k.config hversion
  have hended := Collaborators.runOn_refreshAll first.collaborators_detached hs hk
  have hended' := Collaborators.runOn_refreshAll second.collaborators_detached (hs.serving library') hk
  change ended = _ at hended
  change ended' = _ at hended'
  rw [show (s.serving library').library = library' from rfl, ← hsettling] at hended'
  -- both libraries settle the same capability, or neither gets past the probe
  cases hanswer : (first.collaborators.settling k.config s.library).answer with
  | error payload =>
    rw [hanswer] at hended hended'
    rw [hended, hended']
    refine ⟨.inr ⟨payload, ?_⟩, fun _ _ => rfl⟩
    cases hforced : k.config.forced with
    | some forced =>
      rw [Collaborators.settling_of_forced _ hforced] at hanswer
      cases hanswer
    | none =>
      rw [(Collaborators.settling_of_ask first.collaborators_detached hforced _).1, collaborators,
        Call.conduct_act] at hanswer
      refine ⟨rfl, ?_, rfl, rfl⟩
      show (first.version s.library).conduct.answer = _
      revert hanswer
      cases (first.version s.library).conduct.answer with
      | error _ =>
        intro hanswer
        cases hanswer
        rfl
      | ok raw =>
        intro hanswer
        cases hanswer
  | ok capability =>
    rw [hanswer] at hended hended'
    rw [hended, hended']
    obtain ⟨hreports, hhandles⟩ := Host.cycle_apart first.collaborators_detached
      second.collaborators_detached hfirst hsecond halike
      (hs.after (first.collaborators.settling k.config s.library))
      ((hs.serving library').after (second.collaborators.settling k.config library')) rfl rfl
      k.registry capability
    exact ⟨.inl ⟨_, _, rfl, rfl, hreports⟩, hhandles⟩

end Behaviour

/-! ## Libraries that go by the name -/

namespace Act

variable {α δ : Type}

/-- The action ends in the same way in whatever state the library is. -/
def Ends (act : Act ι σ α) (answer : Except Payload α) : Prop :=
  ∀ library, (act.conduct library).answer = answer

theorem Ends.call {call : Call σ α} {answer : Except Payload α} (h : ∀ library, (call library).answer = answer) :
    (call.act : Act ι σ α).Ends answer := by
  intro library
  rw [Call.conduct_act]
  exact h library

theorem Ends.bind {act : Act ι σ α} {next : α → Act ι σ δ} {a : α} {answer : Except Payload δ}
    (hd : act.Detached) (hnext : ∀ a, (next a).Detached) (h : act.Ends (.ok a))
    (ha : (next a).Ends answer) : (act >>= next).Ends answer := by
  intro library
  rw [conduct_bind hd hnext, Conduct.andThen, h library]
  exact ha _

theorem Ends.map {act : Act ι σ α} {answer : Except Payload α} (hd : act.Detached) (h : act.Ends answer)
    (f : α → δ) : (act >>= fun a => pure (f a)).Ends (answer.map f) := by
  intro library
  rw [conduct_bind hd fun _ => .pure _, Conduct.andThen, h library]
  cases answer with
  | error payload => rfl
  | ok a => rfl

end Act

namespace Behaviour

/-- A library that counts its calls and builds by the name alone. It knows no descriptors. -/
def byName (build : String → Except Payload (Except Cause Nat)) :
    Behaviour Nat Nat Unit (Option String) where
  version calls := ⟨.ok "4.3.0", calls + 1, []⟩
  create name _ calls := ⟨build name, calls + 1, []⟩
  builder _ _ calls := ⟨.ok (.error "no descriptors"), calls + 1, []⟩
  buildWith _ calls := ⟨.ok (.ok 0), calls + 1, []⟩
  deregister _ _ calls := ⟨.ok (.ok ()), calls + 1, []⟩
  newConfiguration calls := ⟨.ok (.ok none), calls + 1, []⟩
  configureNamed _ name _ calls := ⟨.ok (some name, .ok ()), calls + 1, []⟩
  configureDescriptor c _ _ calls := ⟨.ok (c, .error "no descriptors"), calls + 1, []⟩
  buildConfigured c calls := ⟨(c.map build).getD (.ok (.ok 0)), calls + 1, []⟩

/-- What its rebuilds come to. -/
def byNameAnswering (build : String → Except Payload (Except Cause Nat)) : Answering Nat :=
  fun capability params _ =>
    let built := match params.descriptor with
      | none => build params.name
      | some _ => .ok (.error "no descriptors")
    built.map (·.mapError (.construction params.name capability))

theorem byName_answers (build : String → Except Payload (Except Cause Nat)) :
    (byName build).collaborators.Answers (byNameAnswering build) := by
  intro capability ⟨name, descriptor, properties⟩ current
  have hmodern := (byName build).modernApi_detached
  have hlegacy := (byName build).legacyApi_detached
  -- each construction answers by the name, whatever the state of the library
  cases capability with
  | modern =>
    rw [show (byName build).collaborators.strategies.select .modern = .modern (byName build).modernApi from rfl,
      Strategy.modern_rebuild]
    refine Act.Ends.map (hmodern.construct _) ?_ _
    cases descriptor with
    | none => exact .bind (a := ()) (.log rfl) (fun _ => hmodern.create _ _) (fun _ => rfl) (.call fun _ => rfl)
    | some descriptor => exact fun _ => rfl
  | legacy =>
    rw [show (byName build).collaborators.strategies.select .legacy = .legacy (byName build).legacyApi from rfl,
      Strategy.legacy_rebuild]
    refine Act.Ends.bind (a := ()) (hlegacy.tidy _ _) (fun _ => (hlegacy.construct _).bind fun _ => .pure _)
      (fun _ => rfl) (.map (hlegacy.construct _) ?_ _)
    cases descriptor with
    | none =>
      refine .bind (a := .ok none) hlegacy.newConfiguration (fun made => ?_) (.call fun _ => rfl) ?_
      · cases made with
        | error cause => exact .pure _
        | ok c => exact (hlegacy.configure _ c).bind hlegacy.conclude
      · have hbuild : (((byName build).buildConfigured (some name)).act : Act Nat Nat _).Ends (build name) :=
          .call fun _ => rfl
        exact .bind (a := (some name, Except.ok ())) (hlegacy.configure _ none) hlegacy.conclude (fun _ => rfl) hbuild
    | some descriptor => exact fun _ => rfl

/-- Three handles; under one library the second one's rebuild panics, under the other it gives a new
instance. The handle after it does not notice. -/
theorem refreshAll_apart_byName :
    let panicking := byName fun name => if name = "users" then .error .other else .ok (.ok 7)
    let working := byName fun _ => .ok (.ok 7)
    let ops := [.register 1 (.named "orders" .empty), .register 2 (.named "users" .empty),
      .register 3 (.named "stock" .empty)]
    let s := (panicking.run ⟨none, ⟨"Tick"⟩⟩ 0 ops).host
    s.Sound ∧ s.coordinator? 0 = some ⟨0, ⟨none, ⟨"Tick"⟩⟩, none⟩ ∧
      (panicking.version s.library).answer = (working.version 5).answer ∧
      (s.registry 0).lookup "users" ≠ some 2 ∧
      ((panicking.collaborators.refreshAll 0).runOn s).2.handle 2 =
        ((working.collaborators.refreshAll 0).runOn (s.serving 5)).2.handle 2 := by
  intro panicking working ops s
  have hsound : s.Sound := (Run.founded panicking.collaborators_detached _ 0 ops).sound
  have hother : (s.registry 0).lookup "users" ≠ some 2 := by decide
  have halike : (byNameAnswering fun name => if name = "users" then .error .other else .ok (.ok 7)).AlikeExcept
      (byNameAnswering fun _ => .ok (.ok 7)) "users" := by
    -- they answer differently for the second name only
    intro capability params current hname
    simp only [byNameAnswering, if_neg hname]
  have hcoordinator : s.coordinator? 0 = some ⟨0, ⟨none, ⟨"Tick"⟩⟩, none⟩ := rfl
  have hversion : (panicking.version s.library).answer = (working.version 5).answer := rfl
  refine ⟨hsound, hcoordinator, hversion, hother, ?_⟩
  exact (refreshAll_apart (byName_answers _) (byName_answers _) halike hsound hcoordinator
    fun _ => hversion).2 2 hother

end Behaviour

end LiveSwap
