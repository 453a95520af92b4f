import LiveSwap.Proofs.CallOrder
import LiveSwap.Proofs.Reachable

/-!
# All at once and one by one

A cycle settles the capability once and refreshes every handle; refreshing each name of the registry settles
it anew before every handle. If it comes to the same capability every time, nothing else is different: the
library answers from its state apart from what the version probes leave in it, and so the two stay side by
side.

* **`Act.GoesBy`** — an action that goes by a part of the library's state alone.
* **`Collaborators.Singly`** — what refreshing one handle after the other comes to;
  **`Collaborators.runOn_refreshNames`** — it is what refreshing the names does.
* **`Collaborators.Singly.alike`** — beside a cycle on a host that is alike.
* **`Behaviour.refreshAll_one_by_one`** — the comparison, with the calls that were made. The host is any
  sound one; every reachable host is (`Host.Reachable.sound`).
-/

namespace LiveSwap

variable {ι σ τ ε α β γ : Type} {rest : σ → τ}

/-! ## Going by a part of the library's state -/

/-- The conduct as it shows in a part of the library's state. -/
def Conduct.through (c : Conduct σ α) (rest : σ → τ) : Conduct τ α :=
  ⟨c.answer, rest c.library, c.notices⟩

/-- What the action does, and what becomes of that part of the state, depends on that part alone. -/
structure Act.GoesBy (rest : σ → τ) (act : Act ι σ α) : Prop where
  detached : act.Detached
  through : ∀ {library library'}, rest library = rest library' →
    (act.conduct library).through rest = (act.conduct library').through rest

theorem Act.goesBy_closed (rest : σ → τ) : Act.Closed fun _ (act : Act ι σ _) => act.GoesBy rest := by
  refine ⟨fun a => ⟨.pure a, fun h => ?_⟩, fun hn => ⟨.log hn, fun h => ?_⟩, fun hx hf => ?_⟩
  · rw [Act.conduct_pure, Act.conduct_pure, Conduct.through, h]
    rfl
  · exact congrArg (fun part => Conduct.mk (.ok ()) part _) h
  · refine ⟨hx.detached.bind fun a => (hf a).detached, fun {library library'} h => ?_⟩
    rw [Act.conduct_bind hx.detached fun a => (hf a).detached,
      Act.conduct_bind hx.detached fun a => (hf a).detached]
    have hfirst := hx.through h
    revert hfirst
    rcases Act.conduct _ library with ⟨answer, left, notices⟩
    rcases Act.conduct _ library' with ⟨answer', left', notices'⟩
    intro hfirst
    obtain ⟨rfl, hleft, rfl⟩ : answer = answer' ∧ rest left = rest left' ∧ notices = notices' := by
      simpa [Conduct.through] using hfirst
    cases answer with
    | error payload => simp only [Conduct.andThen, Conduct.through, hleft]
    | ok a =>
      -- the second action starts on states that agree in that part again
      have hsecond := (hf a).through hleft
      rw [Conduct.through, Conduct.through, Conduct.mk.injEq] at hsecond
      obtain ⟨hanswer, hlibrary, hnotices⟩ := hsecond
      simp only [Conduct.andThen, Conduct.through, hanswer, hlibrary, hnotices]

/-- A call that goes by a part of the library's state. -/
structure Call.GoesBy (rest : σ → τ) (call : Call σ α) : Prop where
  reply : ∀ {library library'}, rest library = rest library' →
    (call library).answer = (call library').answer ∧
      rest (call library).library = rest (call library').library ∧
      (call library).events = (call library').events

theorem Call.GoesBy.act {call : Call σ α} (h : call.GoesBy rest) : (call.act : Act ι σ α).GoesBy rest := by
  refine ⟨call.detached, fun hsame => ?_⟩
  obtain ⟨hanswer, hlibrary, hevents⟩ := h.reply hsame
  rw [Call.conduct_act, Call.conduct_act]
  simp only [Conduct.through, Reply.conduct, hanswer, hlibrary, hevents]

/-- With a record beside it, the action goes by the same part and by any choice of what is on record. -/
theorem Act.GoesBy.recorded {act : Act ι σ α} (h : act.GoesBy rest) (write : Except Payload α → List ε)
    (keep : ε → Bool) :
    (act.recorded write).GoesBy fun library => (rest library.1, library.2.filter keep) := by
  refine ⟨h.detached.recorded write, fun hsame => ?_⟩
  obtain ⟨hrest, hrecord⟩ := Prod.mk.injEq .. ▸ hsame
  have hconduct := h.through hrest
  rw [Conduct.through, Conduct.through, Conduct.mk.injEq] at hconduct
  obtain ⟨hanswer, hlibrary, hnotices⟩ := hconduct
  rw [Act.conduct_recorded h.detached, Act.conduct_recorded h.detached]
  simp only [Conduct.through, Conduct.noted, hanswer, hlibrary, hnotices, List.filter_append, hrecord]

/-! ## Libraries that do not mind being asked for their version -/

/-- `rest` is the state apart from what version probes leave in it: a probe keeps it, and every other call
goes by it. -/
structure Behaviour.IgnoresProbes (library : Behaviour ι σ β γ) (rest : σ → τ) : Prop where
  version : ∀ start, rest (library.version start).library = rest start
  create : ∀ name properties, (library.create name properties).GoesBy rest
  builder : ∀ descriptor properties, (library.builder descriptor properties).GoesBy rest
  buildWith : ∀ builder, (library.buildWith builder).GoesBy rest
  deregister : ∀ name current, (library.deregister name current).GoesBy rest
  newConfiguration : library.newConfiguration.GoesBy rest
  configureNamed : ∀ c name properties, (library.configureNamed c name properties).GoesBy rest
  configureDescriptor : ∀ c descriptor properties,
    (library.configureDescriptor c descriptor properties).GoesBy rest
  buildConfigured : ∀ c, (library.buildConfigured c).GoesBy rest

/-- Settling the capability keeps that part of the state, and rebuilds go by it. -/
structure Collaborators.Steady (c : Collaborators ι σ) (config : HotSwapConfig) (rest : σ → τ) : Prop where
  probe : c.probe.Detached
  settling : ∀ library, rest (c.settling config library).library = rest library
  rebuild : ∀ capability params current,
    ((c.strategies.select capability).rebuild params current).GoesBy rest

namespace Collaborators

variable {c : Collaborators ι σ} {config : HotSwapConfig}

theorem Steady.detached (h : c.Steady config rest) : c.Detached :=
  ⟨h.probe, fun capability params current => (h.rebuild capability params current).detached⟩

/-- A probe that keeps that part of the state does no harm to it when the capability is settled. -/
theorem steady_of_probe (hprobe : c.probe.Detached)
    (hkeeps : ∀ library, rest (c.probe.conduct library).library = rest library)
    (hrebuild : ∀ capability params current,
      ((c.strategies.select capability).rebuild params current).GoesBy rest) : c.Steady config rest := by
  have hd : c.Detached := ⟨hprobe, fun capability params current => (hrebuild capability params current).detached⟩
  refine ⟨hprobe, fun library => ?_, hrebuild⟩
  cases hforced : config.forced with
  | some forced => rw [c.settling_of_forced hforced]
  | none => rw [(settling_of_ask hd hforced library).2, hkeeps]

/-- Where a capability is forced there is no probe, so nothing of the state is left out. -/
theorem Detached.steady (hd : c.Detached) {forced : Capability} (hforced : config.forced = some forced) :
    c.Steady config id where
  probe := hd.probe
  settling library := by rw [c.settling_of_forced hforced]
  rebuild capability params current := by
    refine ⟨hd.select capability params current, fun {library library'} hsame => ?_⟩
    rw [show library = library' from hsame]

end Collaborators

namespace Behaviour

variable {library : Behaviour ι σ β γ}

theorem IgnoresProbes.collaborators (h : library.IgnoresProbes rest) (config : HotSwapConfig) :
    library.collaborators.Steady config rest := by
  -- whatever an api is made of goes by that part, and so does what is composed of it
  have hP := Act.goesBy_closed (ι := ι) rest
  refine Collaborators.steady_of_probe (Call.detached _) (fun start => ?_) fun capability params current => ?_
  · rw [Behaviour.collaborators, Call.conduct_act]
    exact h.version start
  · cases capability with
    | modern =>
      exact Strategy.modern_closed hP (ModernApi.construct_closed hP (fun _ _ => (h.create _ _).act)
        (fun _ _ => (h.builder _ _).act) fun _ => (h.buildWith _).act) params current
    | legacy =>
      exact Strategy.legacy_closed hP (h.deregister _ _).act (LegacyApi.construct_closed hP
        h.newConfiguration.act (fun _ _ _ => (h.configureNamed _ _ _).act)
        (fun _ _ _ => (h.configureDescriptor _ _ _).act) (fun _ => (h.buildConfigured _).act) params)

/-- With the calls on record: the construction calls, that is, all but the probes. -/
theorem IgnoresProbes.recordedCollaborators (h : library.IgnoresProbes rest) (config : HotSwapConfig) :
    library.recordedCollaborators.Steady config fun state =>
      (rest state.1, state.2.filter (·.generation.isSome)) := by
  have hP := Act.goesBy_closed (ι := ι) fun state : σ × List (CallRecord ι β γ) =>
    (rest state.1, state.2.filter (·.generation.isSome))
  refine Collaborators.steady_of_probe ((Call.detached _).recorded _) (fun start => ?_)
    fun capability params current => ?_
  -- a probe adds a call that has no generation, which is filtered out
  · have hprobe : library.recordedCollaborators.probe.conduct start = _ :=
      Act.conduct_recorded (Call.detached library.version) _ start
    rw [hprobe, Call.conduct_act, Conduct.noted, List.filter_append]
    simp only [Reply.conduct, h.version]
    exact congrArg (Prod.mk _) (List.append_nil _)
  -- all other calls are on record in both, with the same answers
  · cases capability with
    | modern =>
      exact Strategy.modern_closed hP (ModernApi.construct_closed hP
        (fun _ _ => (h.create _ _).act.recorded _ _) (fun _ _ => (h.builder _ _).act.recorded _ _)
        fun _ => (h.buildWith _).act.recorded _ _) params current
    | legacy =>
      exact Strategy.legacy_closed hP ((h.deregister _ _).act.recorded _ _) (LegacyApi.construct_closed hP
        (h.newConfiguration.act.recorded _ _) (fun _ _ _ => (h.configureNamed _ _ _).act.recorded _ _)
        (fun _ _ _ => (h.configureDescriptor _ _ _).act.recorded _ _)
        (fun _ => (h.buildConfigured _).act.recorded _ _) params)

end Behaviour

/-! ## Hosts that are alike -/

namespace Host

/-- The same handles and registries, and libraries that agree apart from what probes left behind. -/
structure Alike (rest : σ → τ) (s t : Host ι σ) : Prop where
  handles : s.handles = t.handles
  registries : s.registries = t.registries
  library : rest s.library = rest t.library

variable {s t : Host ι σ} {strategy : Strategy ι σ}

theorem Alike.handle (h : s.Alike rest t) (id : HandleId) : s.handle id = t.handle id := by
  rw [Host.handle, Host.handle, h.handles]

/-- **A refresh on hosts that are alike** has the same outcome, writes the same notices and leaves them
alike. -/
theorem Alike.refreshHandle (h : s.Alike rest t)
    (hstrategy : ∀ params current, (strategy.rebuild params current).GoesBy rest) (id : HandleId) :
    (s.refreshHandle strategy id).1 = (t.refreshHandle strategy id).1 ∧
      (s.refreshHandle strategy id).2.Alike rest (t.refreshHandle strategy id).2 ∧
      ∃ block, (s.refreshHandle strategy id).2.log = s.log ++ block ∧
        (t.refreshHandle strategy id).2.log = t.log ++ block := by
  have hconduct : ∀ i : Installed ι,
      ((strategy.rebuild i.params i.current).conduct s.library).answer =
        ((strategy.rebuild i.params i.current).conduct t.library).answer ∧
      rest ((strategy.rebuild i.params i.current).conduct s.library).library =
        rest ((strategy.rebuild i.params i.current).conduct t.library).library ∧
      ((strategy.rebuild i.params i.current).conduct s.library).notices =
        ((strategy.rebuild i.params i.current).conduct t.library).notices := by
    intro i
    have hthrough := (hstrategy i.params i.current).through h.library
    rwa [Conduct.through, Conduct.through, Conduct.mk.injEq] at hthrough
  have hhandle := h.handle id
  -- one case for each way that a refresh can end: the rebuild answers alike, so both end the same way
  rcases s.refreshHandle_cases strategy id with hi | ⟨i, fresh, hi, hanswer⟩ | ⟨i, error, hi, hfailure⟩
  · rw [refreshHandle_unregistered hi, refreshHandle_unregistered (hhandle ▸ hi), ← hhandle]
    exact ⟨rfl, ⟨h.handles, h.registries, h.library⟩, _, rfl, rfl⟩
  · obtain ⟨hsame, hlibrary, hnotices⟩ := hconduct i
    rw [refreshHandle_swapped hi hanswer, refreshHandle_swapped (hhandle ▸ hi) (hsame ▸ hanswer), ← hhandle]
    refine ⟨rfl, ⟨congrArg (List.modify · id _) h.handles, h.registries, hlibrary⟩, _ ++ [_],
      List.append_assoc _ _ _, ?_⟩
    rw [hnotices]
    exact List.append_assoc _ _ _
  · obtain ⟨hsame, hlibrary, hnotices⟩ := hconduct i
    rw [refreshHandle_failed hi hfailure, refreshHandle_failed (hhandle ▸ hi) (hsame ▸ hhandle ▸ hfailure),
      ← hhandle]
    refine ⟨rfl, ⟨h.handles, h.registries, hlibrary⟩, _ ++ [_], List.append_assoc _ _ _, ?_⟩
    rw [hnotices]
    exact List.append_assoc _ _ _

theorem refreshHandles_names (strategy : Strategy ι σ) (s : Host ι σ) (ids : List HandleId) :
    (s.refreshHandles strategy ids).1.map (·.1) = ids.map fun id => (s.handle id).name := by
  induction ids generalizing s with
  | nil => rfl
  | cons id ids ih =>
    have hname : ∀ other, ((s.refreshHandle strategy id).2.handle other).name = (s.handle other).name := by
      intro other
      by_cases hother : other = id
      · rw [hother, refreshHandle_name]
      · rw [refreshHandle_handle_of_ne s strategy hother]
    rw [refreshHandles_cons, List.map_cons, List.map_cons, ih]
    simp only [hname]

end Host

/-! ## One handle after the other -/

namespace Collaborators

/-- Refreshes the names in order. -/
def refreshNames (c : Collaborators ι σ) (id : CoordinatorId) (names : List String) :
    Act ι σ (List (Option Outcome)) :=
  names.mapM (c.refresh id)

/-- Refreshing handles one after the other: before each of them the capability is settled, and it is the
same every time. -/
inductive Singly (c : Collaborators ι σ) (config : HotSwapConfig) (capability : Capability) :
    Host ι σ → List HandleId → List Outcome → Host ι σ → Prop where
  | nil (t : Host ι σ) : Singly c config capability t [] [] t
  | cons {t t' : Host ι σ} {id : HandleId} {ids : List HandleId} {outcomes : List Outcome}
      (hsettled : (c.settling config t.library).answer = .ok capability)
      (h : Singly c config capability ((t.after (c.settling config t.library)).refreshHandle
        (c.strategies.select capability) id).2 ids outcomes t') :
      Singly c config capability t (id :: ids) (((t.after (c.settling config t.library)).refreshHandle
        (c.strategies.select capability) id).1 :: outcomes) t'

variable {c : Collaborators ι σ} {id : CoordinatorId} {k : Coordinator} {config : HotSwapConfig}
  {capability : Capability} {t t' : Host ι σ} {ids : List HandleId} {outcomes : List Outcome}

theorem runOn_refreshNames_cons {name : String} {outcome : Option Outcome}
    (h : (c.refresh id name).runOn t = (.ok outcome, t')) (names : List String) :
    (c.refreshNames id (name :: names)).runOn t =
      (((c.refreshNames id names).runOn t').1.map (outcome :: ·), ((c.refreshNames id names).runOn t').2) := by
  rw [refreshNames, List.mapM_cons, Effect.runOn_bind_ok h, bind_pure_comp, Effect.runOn_map]
  rfl

/-- **Refreshing the names** refreshes their handles one after the other, as long as the same capability is
settled every time. -/
theorem runOn_refreshNames (hd : c.Detached) (hs : t.Sound) (hk : t.coordinator? id = some k)
    {entries : List (String × HandleId)} (hentries : entries ⊆ (t.registry k.registry).entries)
    (hsettled : ∀ n, (c.settling k.config
      ((c.refreshNames id ((entries.map (·.1)).take n)).runOn t).2.library).answer = .ok capability) :
    ∃ outcomes t', (c.refreshNames id (entries.map (·.1))).runOn t = (.ok (outcomes.map some), t') ∧
      c.Singly k.config capability t (entries.map (·.2)) outcomes t' := by
  induction entries generalizing t with
  | nil => exact ⟨[], t, rfl, .nil t⟩
  | cons entry entries ih =>
    obtain ⟨name, handle⟩ := entry
    have hfirst : (c.settling k.config t.library).answer = .ok capability := hsettled 0
    have hlookup : (t.registry k.registry).lookup name = some handle :=
      (Registry.lookup_eq_some_iff (hs.names_nodup _)).mpr (hentries (by simp))
    have hrefresh : (c.refresh id name).runOn t =
        (.ok (some ((t.after (c.settling k.config t.library)).refreshHandle
          (c.strategies.select capability) handle).1),
          ((t.after (c.settling k.config t.library)).refreshHandle (c.strategies.select capability) handle).2) := by
      rw [runOn_refresh hd hs hk, hlookup, hfirst]
    -- the next name is looked up in the same registry, by the same coordinator
    obtain ⟨-, hregistries, hcoordinators⟩ := (t.after (c.settling k.config t.library)).refreshHandle_frame
      (c.strategies.select capability) handle
    have hrest := ih (t := ((t.after (c.settling k.config t.library)).refreshHandle
      (c.strategies.select capability) handle).2) ((hs.after _).refreshHandle _ _)
      (by rw [Host.coordinator?, hcoordinators]; exact hk)
      (by rw [Host.registry, hregistries]; exact fun entry hentry => hentries (by simp [hentry]))
      fun n => by
        have hnext := hsettled (n + 1)
        rwa [List.map_cons, List.take_succ_cons, runOn_refreshNames_cons hrefresh] at hnext
    obtain ⟨outcomes, t', hrun, hsingly⟩ := hrest
    refine ⟨_ :: outcomes, t', ?_, .cons hfirst hsingly⟩
    rw [List.map_cons, runOn_refreshNames_cons hrefresh, hrun]
    rfl

namespace Singly

theorem length (h : c.Singly config capability t ids outcomes t') : outcomes.length = ids.length := by
  induction h with
  | nil t => rfl
  | cons _ _ ih => rw [List.length_cons, List.length_cons, ih]

theorem coordinators (h : c.Singly config capability t ids outcomes t') :
    t'.coordinators = t.coordinators := by
  induction h with
  | nil t => rfl
  | @cons t t' id _ _ _ _ ih =>
    rw [ih, ((t.after _).refreshHandle_frame (c.strategies.select capability) id).2.2]
    rfl

/-- **Beside a host that is alike**, on which the capability was settled once: the outcomes are the same, the
hosts stay alike, and handle by handle the same notices are written. Where the capability is settled anew,
the notices of that come first. -/
theorem alike (hc : c.Steady config rest) (h : c.Singly config capability t ids outcomes t')
    {s : Host ι σ} (halike : s.Alike rest t) :
    (s.refreshHandles (c.strategies.select capability) ids).1.map (·.2) = outcomes ∧
      (s.refreshHandles (c.strategies.select capability) ids).2.Alike rest t' ∧
      ∃ turns : List (List Notice × List Notice), turns.length = ids.length ∧
        (∀ turn ∈ turns, ∃ library, turn.1 = (c.settling config library).notices) ∧
        (s.refreshHandles (c.strategies.select capability) ids).2.log = s.log ++ (turns.map (·.2)).flatten ∧
        t'.log = t.log ++ (turns.map fun turn => turn.1 ++ turn.2).flatten := by
  induction h generalizing s with
  | nil t => exact ⟨rfl, halike, [], rfl, by simp, by simp [Host.refreshHandles], by simp⟩
  | @cons t t' id ids outcomes _ _ ih =>
    -- settling once more leaves nothing behind but a probe, and what follows is alike
    have hsettled : s.Alike rest (t.after (c.settling config t.library)) :=
      ⟨halike.handles, halike.registries, halike.library.trans (hc.settling t.library).symm⟩
    obtain ⟨houtcome, hnext, block, hlog, hlog'⟩ := hsettled.refreshHandle (hc.rebuild capability) id
    obtain ⟨houtcomes, hend, turns, hlength, hturns, hlogs, hlogs'⟩ := ih hnext
    rw [Host.refreshHandles_cons]
    refine ⟨?_, hend, ((c.settling config t.library).notices, block) :: turns, ?_, ?_, ?_, ?_⟩
    · rw [List.map_cons, houtcomes, houtcome]
    · rw [List.length_cons, List.length_cons, hlength]
    · intro turn hturn
      obtain rfl | hturn := List.mem_cons.mp hturn
      · exact ⟨t.library, rfl⟩
      · exact hturns turn hturn
    · rw [hlogs, hlog, List.map_cons, List.flatten_cons, List.append_assoc]
    · rw [hlogs', hlog', List.map_cons, List.flatten_cons, Host.after]
      simp only [List.append_assoc]

end Singly

/-- Refreshing all at once, beside refreshing the names one by one. -/
structure OneByOne (c : Collaborators ι σ) (rest : σ → τ) (s : Host ι σ) (id : CoordinatorId)
    (k : Coordinator) (report : Report) (outcomes : List Outcome) (all each : Host ι σ) : Prop where
  settled : (c.settling k.config s.library).answer = .ok report.capability
  /-- The outcomes are what the report lists, name by name. -/
  length : outcomes.length = (s.registry k.registry).names.length
  listed : report = (Report.start report.capability).recordAll ((s.registry k.registry).names.zip outcomes)
  /-- Every handle, with its instance, its parameters and its generation. -/
  alike : all.Alike rest each
  registries : each.registries = s.registries
  /-- Only the cycle keeps its report. -/
  lastReport : all.coordinators = (s.keepReport id report).coordinators
  coordinators : each.coordinators = s.coordinators
  /-- Name by name, the notices of settling the capability anew and those of the refresh. The cycle settles it
  once, and writes where it starts and where it ends. -/
  log : ∃ turns : List (List Notice × List Notice),
    turns.length = (s.registry k.registry).names.length ∧
    (∀ turn ∈ turns, ∃ library, turn.1 = (c.settling k.config library).notices) ∧
    each.log = s.log ++ (turns.map fun turn => turn.1 ++ turn.2).flatten ∧
    all.log = s.log ++ (c.settling k.config s.library).notices ++
      .cycleStarted report.capability (s.registry k.registry).names.length :: ((turns.map (·.2)).flatten ++
        [.cycleCompleted report.capability report.refreshed.length report.failed.length
          report.skipped.length])

theorem oneByOne {s : Host ι σ} (hs : s.Sound) (hk : s.coordinator? id = some k) (hc : c.Steady k.config rest)
    (hsettled : ∀ n, (c.settling k.config
      ((c.refreshNames id ((s.registry k.registry).names.take n)).runOn s).2.library).answer =
        .ok capability) :
    ∃ report outcomes all each, (c.refreshAll id).runOn s = (.ok (some report), all) ∧
      (c.refreshNames id (s.registry k.registry).names).runOn s = (.ok (outcomes.map some), each) ∧
      c.Singly k.config capability s (s.registry k.registry).handles outcomes each ∧
      report.capability = capability ∧ c.OneByOne rest s id k report outcomes all each := by
  have hfirst : (c.settling k.config s.library).answer = .ok capability := hsettled 0
  obtain ⟨outcomes, each, hnames, hsingly⟩ : ∃ (outcomes : List Outcome) (each : Host ι σ),
      (c.refreshNames id (s.registry k.registry).names).runOn s = (.ok (outcomes.map some), each) ∧
        c.Singly k.config capability s (s.registry k.registry).handles outcomes each :=
    runOn_refreshNames hc.detached hs hk (fun _ h => h) hsettled
  -- the cycle refreshes the same handles, after it has settled the capability and written that it starts
  have hstart : ((s.after (c.settling k.config s.library)).addNotice (.cycleStarted capability
      (s.registry k.registry).handles.length)).Alike rest s :=
    ⟨rfl, rfl, hc.settling s.library⟩
  obtain ⟨houtcomes, hend, turns, hlength, hturns, hlog, hlog'⟩ := hsingly.alike hc hstart
  have hall : (c.refreshAll id).runOn s =
      (.ok (some ((s.after (c.settling k.config s.library)).cycle c k.registry capability).1),
        ((s.after (c.settling k.config s.library)).cycle c k.registry capability).2.keepReport id
          ((s.after (c.settling k.config s.library)).cycle c k.registry capability).1) := by
    rw [runOn_refreshAll hc.detached hs hk, hfirst]
  have hverdicts : (((s.after (c.settling k.config s.library)).addNotice (.cycleStarted capability
      (s.registry k.registry).handles.length)).refreshHandles (c.strategies.select capability)
        (s.registry k.registry).handles).1 = (s.registry k.registry).names.zip outcomes := by
    refine List.zip_of_prod ?_ houtcomes
    exact (Host.refreshHandles_names _ _ _).trans (hs.map_handle_name k.registry)
  have hcount := (s.registry k.registry).length_handles
  have hreport : ((s.after (c.settling k.config s.library)).cycle c k.registry capability).1 =
      (Report.start capability).recordAll ((s.registry k.registry).names.zip outcomes) :=
    congrArg (Report.start capability).recordAll hverdicts
  have hcapability :
      ((s.after (c.settling k.config s.library)).cycle c k.registry capability).1.capability = capability := by
    rw [hreport, Report.recordAll_eq]
    rfl
  refine ⟨((s.after (c.settling k.config s.library)).cycle c k.registry capability).1, outcomes, _, each, hall,
    hnames, hsingly, hcapability, ?_⟩
  refine ⟨?_, ?_, ?_, ⟨hend.handles, hend.registries, hend.library⟩, ?_, ?_, hsingly.coordinators, turns, ?_,
    hturns, hlog', ?_⟩
  · rw [hcapability, hfirst]
  · rw [hsingly.length, hcount]
  · rw [hcapability, hreport]
  · rw [← hend.registries]
    exact (Host.refreshHandles_frame _ _ _).2.1
  · show (_ : List Coordinator).modify id _ = _
    rw [((s.after (c.settling k.config s.library)).cycle_frame c k.registry capability).2.2]
    rfl
  · rw [hlength, hcount]
  · rw [hcapability, ← hcount]
    refine (congrArg (· ++ [_]) hlog).trans ?_
    show (s.log ++ _ ++ [_]) ++ _ ++ [_] = _
    rw [List.append_assoc, List.append_assoc]
    rfl

theorem OneByOne.weaken {s all each : Host ι σ} {report : Report}
    (h : c.OneByOne (fun library => library) s id k report outcomes all each) (rest : σ → τ) :
    c.OneByOne rest s id k report outcomes all each :=
  { h with alike := ⟨h.alike.handles, h.alike.registries, congrArg rest h.alike.library⟩ }

theorem Covers.refreshNames {c' : Collaborators ι (σ × List ε)} (h : c'.Covers c) (id : CoordinatorId)
    (names : List String) : (c'.refreshNames id names).Covers (c.refreshNames id names) := by
  induction names with
  | nil => exact Act.covers_pure []
  | cons name names ih =>
    rw [Collaborators.refreshNames, Collaborators.refreshNames, List.mapM_cons, List.mapM_cons]
    exact (h.refresh id name).bind fun outcome => ih.bind fun outcomes => Act.covers_pure _

end Collaborators

/-! ## The calls -/

/-- How many of the calls ask for the version. -/
def probeCount (calls : List (CallRecord ι β γ)) : Nat := calls.countP (·.generation.isNone)

namespace Behaviour

variable {library : Behaviour ι σ β γ} {config : HotSwapConfig} {capability : Capability}

theorem probeCount_refreshHandle (s : Host ι (σ × List (CallRecord ι β γ))) (id : HandleId) :
    probeCount (s.refreshHandle (library.recordedCollaborators.strategies.select capability) id).2.library.2 =
      probeCount s.library.2 := by
  obtain ⟨shown, hshown, hrefreshed⟩ := s.refreshHandle_refreshed (library.recorded_shows_block capability) id
  have hblocks := List.Forall₂.cons (Host.blockOf_of_refreshed hrefreshed) .nil
  have hzero : probeCount shown = 0 := by
    refine List.countP_eq_zero.mpr fun call hcall => ?_
    rw [Host.generation_of_blocks hblocks call (by simpa using hcall)]
    exact Bool.false_ne_true
  rw [hshown, probeCount, List.countP_append]
  exact congrArg (probeCount s.library.2 + ·) hzero

theorem probeCount_refreshHandles (s : Host ι (σ × List (CallRecord ι β γ))) (ids : List HandleId) :
    probeCount (s.refreshHandles (library.recordedCollaborators.strategies.select capability) ids).2.library.2 =
      probeCount s.library.2 := by
  induction ids generalizing s with
  | nil => rfl
  | cons id ids ih => rw [Host.refreshHandles_cons, ih, probeCount_refreshHandle]

theorem probeCount_settling (state : σ × List (CallRecord ι β γ)) :
    probeCount (library.recordedCollaborators.settling config state).library.2 =
      probeCount state.2 + if config.forced.isNone then 1 else 0 := by
  cases hforced : config.forced with
  | some forced =>
    rw [Collaborators.settling_of_forced _ hforced]
    rfl
  | none =>
    rw [(library.settling_recorded hforced state.1 state.2).2, probeCount, List.countP_append]
    rfl

theorem probeCount_singly {s t : Host ι (σ × List (CallRecord ι β γ))} {ids : List HandleId}
    {outcomes : List Outcome} (h : library.recordedCollaborators.Singly config capability s ids outcomes t) :
    probeCount t.library.2 = probeCount s.library.2 + if config.forced.isNone then ids.length else 0 := by
  induction h with
  | nil t => simp
  | @cons s t id ids outcomes _ _ ih =>
    rw [ih, probeCount_refreshHandle, Host.after, probeCount_settling, List.length_cons]
    split <;> omega

/-- The calls that something does with a coordinator makes of the library. Recording them makes no difference
(`covers_recordedCollaborators`). -/
def callsOf (library : Behaviour ι σ β γ)
    (act : Collaborators ι (σ × List (CallRecord ι β γ)) → Act ι (σ × List (CallRecord ι β γ)) α)
    (s : Host ι σ) : List (CallRecord ι β γ) :=
  ((act library.recordedCollaborators).runOn (s.withRecord [])).2.library.2

theorem settling_of_version {start : σ} {raw : String}
    (h : config.forced = none → (library.version start).answer = .ok raw)
    (record : List (CallRecord ι β γ)) :
    (library.collaborators.settling config start).answer = .ok (config.forced.getD (.ofReport raw)) ∧
      (library.recordedCollaborators.settling config (start, record)).answer =
        .ok (config.forced.getD (.ofReport raw)) := by
  cases hforced : config.forced with
  | some forced =>
    rw [Collaborators.settling_of_forced _ hforced, Collaborators.settling_of_forced _ hforced]
    exact ⟨rfl, rfl⟩
  | none =>
    rw [(library.settling_recorded hforced start record).1,
      (Collaborators.settling_of_ask library.collaborators_detached hforced start).1, collaborators,
      Call.conduct_act, Reply.conduct, h hforced]
    exact ⟨rfl, rfl⟩

theorem settled_each {s : Host ι σ} {id : CoordinatorId} {config : HotSwapConfig} {names : List String}
    (hversion : config.forced = none → ∃ raw, ∀ n, (library.version
      ((library.collaborators.refreshNames id (names.take n)).runOn s).2.library).answer = .ok raw) :
    ∃ capability, (∀ n, (library.collaborators.settling config
        ((library.collaborators.refreshNames id (names.take n)).runOn s).2.library).answer = .ok capability) ∧
      ∀ n, (library.recordedCollaborators.settling config ((library.recordedCollaborators.refreshNames id
        (names.take n)).runOn (s.withRecord [])).2.library).answer = .ok capability := by
  obtain ⟨raw, hraw⟩ : ∃ raw, ∀ n, config.forced = none → (library.version
      ((library.collaborators.refreshNames id (names.take n)).runOn s).2.library).answer = .ok raw := by
    cases hforced : config.forced with
    | some forced => exact ⟨"", fun n h => by cases h⟩
    | none =>
      obtain ⟨raw, hraw⟩ := hversion hforced
      exact ⟨raw, fun n _ => hraw n⟩
  refine ⟨config.forced.getD (.ofReport raw), fun n => (settling_of_version (hraw n) []).1, fun n => ?_⟩
  -- with the calls on record, the library is in the same state at each of the moments
  have hcovers := library.covers_recordedCollaborators.refreshNames id (names.take n) (s.withRecord [])
  refine (settling_of_version (fun hforced => ?_) _).2
  rw [← hraw n hforced]
  exact congrArg (fun run => (library.version run.2.library).answer) hcovers.symm

/-- **All at once is one by one.** If a capability is forced, or the library gives one version string while the
calls run, then refreshing all does what refreshing every name of the registry in order does: every handle ends
with the same instance, parameters and generation, the library in the same state apart from what the probes left
in it, the outcomes are those of the report, and the construction calls are the same in the same order. Only the
last report, the probes and where the cycle starts and ends make a difference. Where a capability is forced there
are no probes, so the state of the library is the same altogether. -/
theorem refreshAll_one_by_one {s : Host ι σ} (hs : s.Sound) {id : CoordinatorId} {k : Coordinator}
    (hk : s.coordinator? id = some k) (hprobes : k.config.forced = none → library.IgnoresProbes rest)
    (hversion : k.config.forced = none → ∃ raw, ∀ n, (library.version ((library.collaborators.refreshNames id
      ((s.registry k.registry).names.take n)).runOn s).2.library).answer = .ok raw) :
    let names := (s.registry k.registry).names
    let calls := library.callsOf (·.refreshAll id) s
    let calls' := library.callsOf (·.refreshNames id names) s
    (∃ report outcomes all each, (library.collaborators.refreshAll id).runOn s = (.ok (some report), all) ∧
      (library.collaborators.refreshNames id names).runOn s = (.ok (outcomes.map some), each) ∧
      library.collaborators.OneByOne rest s id k report outcomes all each ∧
      (k.config.forced ≠ none → all.library = each.library)) ∧
    calls.filter (·.generation.isSome) = calls'.filter (·.generation.isSome) ∧
    probeCount calls = (if k.config.forced.isNone then 1 else 0) ∧
    probeCount calls' = if k.config.forced.isNone then names.length else 0 := by
  intro names calls calls'
  obtain ⟨capability, hsettled, hrecorded⟩ := settled_each hversion
  have hsound := hs.withRecord ([] : List (CallRecord ι β γ))
  have hcounts : ∀ each outcomes, library.recordedCollaborators.Singly k.config capability (s.withRecord [])
      (s.registry k.registry).handles outcomes each → calls' = each.library.2 →
      probeCount calls = (if k.config.forced.isNone then 1 else 0) ∧
        probeCount calls' = if k.config.forced.isNone then names.length else 0 := by
    intro each outcomes hsingly hcalls'
    constructor
    · show probeCount ((library.recordedCollaborators.refreshAll id).runOn (s.withRecord [])).2.library.2 = _
      have hfirst : (library.recordedCollaborators.settling k.config (s.withRecord []).library).answer = _ :=
        hrecorded 0
      rw [Collaborators.runOn_refreshAll library.recordedCollaborators_detached hsound hk, hfirst]
      refine (probeCount_refreshHandles _ _).trans ((probeCount_settling _).trans ?_)
      exact Nat.zero_add _
    · rw [hcalls', probeCount_singly hsingly]
      refine (Nat.zero_add _).trans ?_
      rw [Registry.length_handles]
  -- without probes nothing of the state is left out, with them what `rest` leaves out
  cases hforced : k.config.forced with
  | some forced =>
    obtain ⟨report, outcomes, all, each, hall, heach, -, -, hboth⟩ :=
      Collaborators.oneByOne hs hk (library.collaborators_detached.steady hforced) hsettled
    obtain ⟨_, outcomes', all', each', hall', heach', hsingly', -, hboth'⟩ :=
      Collaborators.oneByOne hsound hk (library.recordedCollaborators_detached.steady hforced) hrecorded
    have hcalls : calls = all'.library.2 := congrArg (fun run => run.2.library.2) hall'
    have hcalls' : calls' = each'.library.2 := congrArg (fun run => run.2.library.2) heach'
    have hsame : all'.library = each'.library := hboth'.alike.library
    refine ⟨⟨report, outcomes, all, each, hall, heach, hboth.weaken rest, fun _ => hboth.alike.library⟩, ?_, ?_⟩
    · rw [hcalls, hcalls', hsame]
    · rw [← hforced]
      exact hcounts each' outcomes' hsingly' hcalls'
  | none =>
    obtain ⟨report, outcomes, all, each, hall, heach, -, -, hboth⟩ :=
      Collaborators.oneByOne hs hk ((hprobes hforced).collaborators k.config) hsettled
    obtain ⟨_, outcomes', all', each', hall', heach', hsingly', -, hboth'⟩ :=
      Collaborators.oneByOne hsound hk ((hprobes hforced).recordedCollaborators k.config) hrecorded
    have hcalls : calls = all'.library.2 := congrArg (fun run => run.2.library.2) hall'
    have hcalls' : calls' = each'.library.2 := congrArg (fun run => run.2.library.2) heach'
    refine ⟨⟨report, outcomes, all, each, hall, heach, hboth, fun h => absurd rfl h⟩, ?_, ?_⟩
    · rw [hcalls, hcalls']
      exact congrArg Prod.snd hboth'.alike.library
    · rw [← hforced]
      exact hcounts each' outcomes' hsingly' hcalls'

/-- The same library, which also notes every time it is asked for its version. -/
def notingProbes (library : Behaviour ι σ β γ) : Behaviour ι (σ × List String) β γ where
  version start :=
    let reply := library.version start.1
    ⟨reply.answer, (reply.library, start.2 ++ reply.answer.toOption.toList), reply.events⟩
  create name properties := (library.create name properties).beside
  builder descriptor properties := (library.builder descriptor properties).beside
  buildWith builder := (library.buildWith builder).beside
  deregister name current := (library.deregister name current).beside
  newConfiguration := library.newConfiguration.beside
  configureNamed c name properties := (library.configureNamed c name properties).beside
  configureDescriptor c descriptor properties := (library.configureDescriptor c descriptor properties).beside
  buildConfigured c := (library.buildConfigured c).beside

/-- Such notes are all that its probes leave behind, if there was nothing before. -/
theorem notingProbes_ignoresProbes (h : ∀ start, (library.version start).library = start) :
    library.notingProbes.IgnoresProbes Prod.fst := by
  have hbeside : ∀ {δ : Type} (call : Call σ δ),
      (call.beside : Call (σ × List String) δ).GoesBy Prod.fst := by
    refine fun call => ⟨fun hsame => ?_⟩
    rw [Call.beside, Call.beside, hsame]
    exact ⟨rfl, rfl, rfl⟩
  exact ⟨fun start => h start.1, fun _ _ => hbeside _, fun _ _ => hbeside _, fun _ => hbeside _,
    fun _ _ => hbeside _, hbeside _, fun _ _ _ => hbeside _, fun _ _ _ => hbeside _, fun _ => hbeside _⟩

/-- Three names: an exchange, a handle that was never registered, and a panic. The cycle asks for the version
once, the names do three times; they build the same. With a capability forced nobody asks, and the libraries end
in the same state. -/
theorem refreshAll_one_by_one_scripted :
    let library := (Behaviour.scripted (ι := Nat)).notingProbes
    let ops := [.register 1 (.named "orders" .empty), .getOrCreate "spare",
      .register 2 (.named "users" .empty)]
    let names := ["orders", "spare", "users"]
    let host (forced : Option Capability) := (library.run ⟨forced, ⟨"Tick"⟩⟩ ([.ok (.ok 8), .error .other], []) ops).host
    let s := host none
    let t := host (some .modern)
    (library.IgnoresProbes Prod.fst ∧ s.Sound ∧ s.coordinator? 0 = some ⟨0, ⟨none, ⟨"Tick"⟩⟩, none⟩ ∧
      (∀ state, (library.version state).answer = .ok "4.3.0") ∧
      (library.callsOf (·.refreshAll 0) s).filter (·.generation.isSome) =
        (library.callsOf (·.refreshNames 0 names) s).filter (·.generation.isSome) ∧
      probeCount (library.callsOf (·.refreshAll 0) s) = 1 ∧
      probeCount (library.callsOf (·.refreshNames 0 names) s) = 3) ∧
    t.Sound ∧ t.coordinator? 0 = some ⟨0, ⟨some .modern, ⟨"Tick"⟩⟩, none⟩ ∧
      ((library.collaborators.refreshAll 0).runOn t).2.library =
        ((library.collaborators.refreshNames 0 names).runOn t).2.library := by
  intro library ops names host s t
  have hprobes : library.IgnoresProbes Prod.fst := notingProbes_ignoresProbes fun _ => rfl
  have hsound : ∀ forced, (host forced).Sound := fun forced =>
    (Run.founded library.collaborators_detached _ _ ops).sound
  have hcoordinator : s.coordinator? 0 = some ⟨0, ⟨none, ⟨"Tick"⟩⟩, none⟩ := rfl
  have hforced : t.coordinator? 0 = some ⟨0, ⟨some .modern, ⟨"Tick"⟩⟩, none⟩ := rfl
  have hversion : ∀ state, (library.version state).answer = .ok "4.3.0" := fun _ => rfl
  obtain ⟨-, hcalls, hone, hthree⟩ := refreshAll_one_by_one (hsound none) hcoordinator (fun _ => hprobes)
    fun _ => ⟨_, fun n => hversion _⟩
  -- with a capability forced the same theorem compares the whole state of the library
  have hset : (⟨some .modern, ⟨"Tick"⟩⟩ : HotSwapConfig).forced ≠ none := Option.some_ne_none _
  obtain ⟨⟨_, _, all, each, hall, heach, -, hlibrary⟩, -⟩ := refreshAll_one_by_one (hsound (some .modern)) hforced
    (fun hnone => (absurd hnone hset : library.IgnoresProbes Prod.fst)) (fun hnone => absurd hnone hset)
  refine ⟨⟨hprobes, hsound none, hcoordinator, hversion, hcalls, hone, hthree⟩, hsound _, hforced, ?_⟩
  rw [hall]
  exact (hlibrary hset).trans (congrArg (·.2.library) heach).symm

end Behaviour

end LiveSwap
