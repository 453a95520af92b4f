import LiveSwap.Proofs.ProxyChains
import Mathlib.Data.List.Induction

/-!
# Runs with proxies of proxies

A run creates registries, coordinators and handles, registers plain instances and proxies that were handed
out before, refreshes, and makes use of proxies, in any order. The library builds plain instances; while it
rebuilds a handle it may use the instance it is given, which may be a proxy, and it may register others.

* **`Act.Follows.keeps`** — such code keeps the order of registration, and neither waits for a lock nor
  runs round in a circle, also while the lock of the handle whose instance it was given is held.
* **`Strategy.Plain.refreshWith`** — so every refresh returns, and keeps the order.
* **`Session.Ordered.perform`**, **`Session.ordered_after`** — what one step of a run keeps, and what a run
  keeps.
* **`Session.forwarding_ends`** — every proxy that was handed out leads to a plain instance.
-/

namespace LiveSwap

variable {κ σ α β : Type}

/-! ## Code that registers, and code that follows what it is given -/

/-- What creates or registers handles. -/
inductive Registering (κ : Type) where
  | newRegistry
  | getOrCreate (r : RegistryId) (name : String)
  | register (r : RegistryId) (first : Resource κ) (params : Params)
  | registerOn (id : HandleId) (first : Resource κ) (params : Params)

/-- Only a resource that can be at hand is registered, and only on a handle that exists. The result is the
proxy that is handed out. -/
def Registering.act : Registering κ → Act (Resource κ) σ (Option Proxy)
  | .newRegistry => Act.newRegistry >>= fun _ => pure none
  | .getOrCreate r name => Act.getOrCreate r name >>= fun _ => pure none
  | .register r first params => do
    if (← get).issued first then Except.toOption <$> Act.register r first params else pure none
  | .registerOn id first params => do
    let s ← get
    if s.issued first = true ∧ id < s.handles.length then
      Except.toOption <$> Act.registerOn id first params
    else pure none

/-- Code that operates on the resource it was given, if any, and on no other proxy: besides it makes calls
on its own state, and it may create and register handles. -/
inductive Act.Follows (given : Option (Resource κ)) : {α : Type} → Act (Resource κ) σ α → Prop where
  | detached {α : Type} {act : Act (Resource κ) σ α} (h : act.Detached) : Follows given act
  | operate {α : Type} {r : Resource κ} {use : κ → Act (Resource κ) σ α} (hr : given = some r)
      (h : ∀ k, Follows given (use k)) : Follows given (Act.operate r use)
  | registering (step : Registering κ) : Follows given step.act
  | bind {α β : Type} {act : Act (Resource κ) σ α} {next : α → Act (Resource κ) σ β}
      (h : Follows given act) (hnext : ∀ a, Follows given (next a)) : Follows given (act >>= next)
  | attempt {α : Type} {act : Act (Resource κ) σ α} (h : Follows given act) :
      Follows given (Effect.attempt act)

theorem Act.Follows.of_none {act : Act (Resource κ) σ α} (h : act.Follows none)
    (given : Option (Resource κ)) : act.Follows given := by
  induction h with
  | detached h => exact .detached h
  | operate hr _ _ => cases hr
  | registering step => exact .registering step
  | bind _ _ ih ihnext => exact .bind ih ihnext
  | attempt _ ih => exact .attempt ih

/-! ## Plain libraries

What is built has to be plain, or a handle could come to hold a proxy of itself. That alone is not enough: the
library builds while the handle's reload lock is held, and code that forwarded through any proxy it can find
might come to that handle and wait for its own lock. So what builds may register and look around, but follows
no proxy; deregistering and rebuilding may follow the instance that they are given.
-/

/-- What builds gives a plain instance. -/
structure Act.BuildsPlain {ε : Type} (act : Act (Resource κ) σ (Except ε (Resource κ))) : Prop where
  plain : ∀ {s s' fresh}, act.runOn s = (.ok (.ok fresh), s') → ∃ k, fresh = .plain k

/-- A strategy that follows the installed instance at most, and builds plain ones. -/
structure Strategy.Plain (strategy : Strategy (Resource κ) σ) : Prop where
  follows : ∀ params current, (strategy.rebuild params current).Follows (some current)
  builds : ∀ params current, (strategy.rebuild params current).BuildsPlain

/-- The version probe is given nothing that it could follow. -/
structure Collaborators.Plain (c : Collaborators (Resource κ) σ) : Prop where
  probe : c.probe.Follows none
  select : ∀ capability, (c.strategies.select capability).Plain

/-- Every call of a rebuild follows no proxy, and the two that end one build plain instances. -/
structure ModernApi.Plain {γ : Type} (api : ModernApi (Resource κ) σ γ) : Prop where
  create : ∀ name properties, (api.create name properties).Follows none
  builder : ∀ descriptor properties, (api.builder descriptor properties).Follows none
  build : ∀ builder, (api.build builder).Follows none
  created : ∀ name properties, (api.create name properties).BuildsPlain
  built : ∀ builder, (api.build builder).BuildsPlain

/-- Deregistering may follow the instance that goes; the other calls follow no proxy. -/
structure LegacyApi.Plain {γ : Type} (api : LegacyApi (Resource κ) σ γ) : Prop where
  deregister : ∀ name current, (api.deregister name current).Follows (some current)
  newConfiguration : api.newConfiguration.Follows none
  configureNamed : ∀ c name properties, (api.configureNamed c name properties).Follows none
  configureDescriptor : ∀ c descriptor properties,
    (api.configureDescriptor c descriptor properties).Follows none
  build : ∀ c, (api.build c).Follows none
  built : ∀ c, (api.build c).BuildsPlain

namespace Act

theorem BuildsPlain.bind {ε : Type} {act : Act (Resource κ) σ α}
    {next : α → Act (Resource κ) σ (Except ε (Resource κ))} (h : ∀ a, (next a).BuildsPlain) :
    (act >>= next).BuildsPlain := by
  refine ⟨fun hrun => ?_⟩
  obtain ⟨a, t, -, hnext⟩ := Effect.runOn_bind_eq_ok_iff.mp hrun
  exact (h a).plain hnext

theorem BuildsPlain.mapError {ε ε' : Type} {act : Act (Resource κ) σ (Except ε (Resource κ))}
    (h : act.BuildsPlain) (f : ε → ε') :
    (act >>= fun built => pure (built.mapError f)).BuildsPlain := by
  refine ⟨fun hrun => ?_⟩
  obtain ⟨built, t, hact, hpure⟩ := Effect.runOn_bind_eq_ok_iff.mp hrun
  cases built with
  | error e => cases hpure
  | ok r =>
    cases hpure
    exact h.plain hact

theorem buildsPlain_error {ε : Type} (e : ε) :
    (pure (.error e) : Act (Resource κ) σ (Except ε (Resource κ))).BuildsPlain := by
  refine ⟨fun hrun => ?_⟩
  cases hrun

end Act

theorem Act.follows_closed (given : Option (Resource κ)) :
    Act.Closed fun _ (act : Act (Resource κ) σ _) => act.Follows given :=
  ⟨fun a => .detached (.pure a), fun hn => .detached (.log hn), .bind⟩

theorem Strategy.modern_plain {γ : Type} {api : ModernApi (Resource κ) σ γ} (h : api.Plain) :
    (Strategy.modern api).Plain := by
  -- the construction operates on nothing but what it makes
  have hfollows : ∀ params, (api.construct params).Follows none :=
    api.construct_closed (Act.follows_closed none) h.create h.builder h.build
  -- the current instance may be used, and only by what is not a construction
  refine ⟨fun params current => ?_, fun params current => ?_⟩
  · exact Strategy.modern_closed (Act.follows_closed (some current))
      (fun params => (hfollows params).of_none _) params current
  · rw [Strategy.modern_rebuild, ModernApi.construct]
    refine Act.BuildsPlain.mapError ?_ _
    cases params.descriptor with
    | none => exact .bind fun _ => h.created _ _
    | some descriptor =>
      refine .bind fun _ => .bind fun made => ?_
      cases made with
      | error cause => exact Act.buildsPlain_error cause
      | ok builder => exact h.built builder

theorem Strategy.legacy_plain {γ : Type} {api : LegacyApi (Resource κ) σ γ} (h : api.Plain) :
    (Strategy.legacy api).Plain := by
  -- as with the other strategy, the construction operates on nothing but what it makes
  have hfollows : ∀ params, (api.construct params).Follows none :=
    api.construct_closed (Act.follows_closed none) h.newConfiguration h.configureNamed
      h.configureDescriptor h.build
  refine ⟨fun params current => ?_, fun params current => ?_⟩
  -- deregistering is where the current instance may be used
  · exact Strategy.legacy_closed (Act.follows_closed (some current)) (h.deregister _ _)
      ((hfollows params).of_none _)
  · rw [Strategy.legacy_rebuild]
    refine .bind fun _ => Act.BuildsPlain.mapError (.bind fun made => ?_) _
    cases made with
    | error cause => exact Act.buildsPlain_error cause
    | ok c =>
      refine .bind fun configured => ?_
      rcases configured with ⟨c, cause | _⟩
      · exact Act.buildsPlain_error cause
      · exact h.built c

theorem StrategySet.ofApis_plain {γ δ : Type} {legacy : LegacyApi (Resource κ) σ γ}
    {modern : ModernApi (Resource κ) σ δ} (hl : legacy.Plain) (hm : modern.Plain)
    (capability : Capability) : ((StrategySet.ofApis legacy modern).select capability).Plain := by
  cases capability with
  | legacy => exact Strategy.legacy_plain hl
  | modern => exact Strategy.modern_plain hm

/-! ## The order of registration is kept -/

namespace Act

/-- The action comes to a longer order of registration. It returns, or a panic ends it: it does not wait,
and it does not go on for ever. -/
def Keeps (act : Act (Resource κ) σ α) (s : Host (Resource κ) σ) (order : List HandleId)
    (held : Option HandleId) : Prop :=
  ∃ order', order <+: order' ∧ (act.runOn s).2.Linked order' held ∧
    ∀ halt, (act.runOn s).1 = .error halt → ∃ payload, halt = .panic payload

variable {s s' : Host (Resource κ) σ} {order order' : List HandleId} {held : Option HandleId}

theorem Keeps.of_ok {act : Act (Resource κ) σ α} {a : α} (hrun : act.runOn s = (.ok a, s'))
    (hgrows : order <+: order') (hs' : s'.Linked order' held) : act.Keeps s order held := by
  refine ⟨order', hgrows, ?_, fun halt hhalt => ?_⟩
  · rwa [hrun]
  · rw [hrun] at hhalt
    cases hhalt

theorem Keeps.of_detached {act : Act (Resource κ) σ α} (h : act.Detached) (hs : s.Linked order held) :
    act.Keeps s order held := by
  refine ⟨order, List.prefix_rfl, ?_, fun halt hhalt => ?_⟩
  · rw [h.runOn_eq]
    exact hs.after _
  · rw [h.runOn_eq] at hhalt
    revert hhalt
    rcases act.conduct s.library with ⟨payload | a, library, notices⟩
    · intro hhalt
      cases hhalt
      exact ⟨payload, rfl⟩
    · intro hhalt
      cases hhalt

theorem Keeps.bind {act : Act (Resource κ) σ α} {next : α → Act (Resource κ) σ β}
    (h : act.Keeps s order held)
    (hnext : ∀ a s' order', order <+: order' → s'.Linked order' held → (next a).Keeps s' order' held) :
    (act >>= next).Keeps s order held := by
  obtain ⟨order', hgrows, hs', hhalts⟩ := h
  rw [Keeps, Effect.runOn_bind]
  rcases hrun : act.runOn s with ⟨halt | a, s'⟩
  · rw [hrun] at hs' hhalts
    refine ⟨order', hgrows, hs', fun other hother => ?_⟩
    cases hother
    exact hhalts halt rfl
  · rw [hrun] at hs'
    obtain ⟨order'', hgrows', hs'', hhalts'⟩ := hnext a s' order' hgrows hs'
    exact ⟨order'', hgrows.trans hgrows', hs'', hhalts'⟩

theorem Keeps.attempt {act : Act (Resource κ) σ α} (h : act.Keeps s order held) :
    ∃ result s' order', (Effect.attempt act).runOn s = (.ok result, s') ∧ order <+: order' ∧
      s'.Linked order' held ∧ ∀ a, result = .ok a → act.runOn s = (.ok a, s') := by
  obtain ⟨order', hgrows, hs', hhalts⟩ := h
  rw [Effect.runOn_attempt]
  rcases hrun : act.runOn s with ⟨halt | a, s'⟩
  · rw [hrun] at hs' hhalts
    obtain ⟨payload, rfl⟩ := hhalts halt rfl
    exact ⟨.error payload, s', order', rfl, hgrows, hs', fun a ha => by cases ha⟩
  · rw [hrun] at hs'
    exact ⟨.ok a, s', order', rfl, hgrows, hs', fun b hb => by cases hb; rfl⟩

end Act

namespace Host

variable {s : Host (Resource κ) σ} {order : List HandleId} {held : Option HandleId}

theorem Linked.newRegistry (h : s.Linked order held) :
    ({ s with registries := s.registries ++ [Registry.empty] } : Host (Resource κ) σ).Linked order held := by
  refine ⟨h.nodup, h.registered_iff, h.earlier, fun r id hid => h.listed r id ?_, h.locked⟩
  rw [← registry_concat_empty]
  exact hid

theorem Linked.registerOn (h : s.Linked order held) {id : HandleId} (hid : id < s.handles.length)
    {first : Resource κ} (hfirst : s.issued first = true) (params : Params) :
    ∃ result s' order', (Act.registerOn id first params).runOn s = (.ok result, s') ∧
      order <+: order' ∧ s'.Linked order' held ∧ ∀ p, result = .ok p → p.handle ∈ order' := by
  rw [Act.registerOn, Effect.runOn_modifyGet]
  cases hregister : s.registerOn id first params with
  | error e => exact ⟨.error e, s, order, rfl, List.prefix_rfl, h, fun p hp => by cases hp⟩
  | ok s' =>
    obtain ⟨hname, hnone, rfl⟩ := registerOn_eq_ok_iff.mp hregister
    refine ⟨.ok ⟨id⟩, _, order ++ [id], rfl, List.prefix_append .., ?_, fun p hp => ?_⟩
    · exact h.enroll hid hnone hfirst params
    · cases hp
      simp

end Host

/-- **Creating and registering** always returns, and only adds to the order. -/
theorem Registering.runOn_act (step : Registering κ) {s : Host (Resource κ) σ} {order : List HandleId}
    {held : Option HandleId} (hs : s.Linked order held) :
    ∃ p? s' order', step.act.runOn s = (.ok p?, s') ∧ order <+: order' ∧ s'.Linked order' held ∧
      ∀ p, p? = some p → p.handle ∈ order' := by
  have hnothing : ∀ p : Proxy, (none : Option Proxy) = some p → p.handle ∈ order := fun p hp => by cases hp
  cases step with
  | newRegistry => exact ⟨none, _, order, rfl, List.prefix_rfl, hs.newRegistry, hnothing⟩
  | getOrCreate r name =>
    refine ⟨none, _, order, ?_, List.prefix_rfl, (hs.enter r name).1, hnothing⟩
    exact Effect.runOn_bind_ok (Act.runOn_getOrCreate s r name)
  | register r first params =>
    rw [Registering.act, Effect.runOn_get_bind]
    split
    next hissued =>
      -- the handle is created first; that changes nothing about what is at hand
      obtain ⟨hentered, hlt⟩ := hs.enter r params.name
      have hissued' : (s.enter r params.name).2.issued first = true := by
        cases first with
        | plain k => rfl
        | proxy p => exact (hentered.registered_iff _).mpr ((hs.registered_iff _).mp hissued)
      obtain ⟨result, s', order', hrun, hgrows, hs', hproxy⟩ := hentered.registerOn hlt hissued' params
      have hregister : (Act.register r first params).runOn s = (.ok result, s') := by
        rw [Act.register, Effect.runOn_bind_ok (Act.runOn_getOrCreate s r params.name), hrun]
      refine ⟨result.toOption, s', order', ?_, hgrows, hs', fun p hp => hproxy p ?_⟩
      · rw [Effect.runOn_map, hregister]
        rfl
      · cases result with
        | error e => cases hp
        | ok q =>
          cases hp
          rfl
    next => exact ⟨none, s, order, rfl, List.prefix_rfl, hs, hnothing⟩
  | registerOn id first params =>
    rw [Registering.act, Effect.runOn_get_bind]
    split
    next hguard =>
      obtain ⟨result, s', order', hrun, hgrows, hs', hproxy⟩ := hs.registerOn hguard.2 hguard.1 params
      refine ⟨result.toOption, s', order', ?_, hgrows, hs', fun p hp => hproxy p ?_⟩
      · rw [Effect.runOn_map, hrun]
        rfl
      · cases result with
        | error e => cases hp
        | ok q =>
          cases hp
          rfl
    next => exact ⟨none, s, order, rfl, List.prefix_rfl, hs, hnothing⟩

/-- **Code that follows what it is given** keeps the order of registration and gets to its end, if what it
is given is clear of the lock that is held. -/
theorem Act.Follows.keeps {given : Option (Resource κ)} {act : Act (Resource κ) σ α}
    (h : act.Follows given) {s : Host (Resource κ) σ} {order : List HandleId} {held : Option HandleId}
    (hs : s.Linked order held) (hgiven : ∀ r, given = some r → Host.Clear order held r) :
    act.Keeps s order held := by
  induction h generalizing s order with
  | detached h => exact .of_detached h hs
  -- the way to a plain instance does not pass the lock that is held
  | operate hr _ ih =>
    obtain ⟨ids, k, hleads, hnodup, hidle, -⟩ := hs.leads_of_clear (hgiven _ hr)
    rw [Keeps, hleads.runOn_operate hnodup hidle]
    exact ih k hs hgiven
  | registering step =>
    obtain ⟨p?, s', order', hrun, hgrows, hs', -⟩ := step.runOn_act hs
    exact .of_ok hrun hgrows hs'
  | bind _ _ ih ihnext =>
    refine (ih hs hgiven).bind fun a s' order' hgrows hs' => ?_
    exact ihnext a hs' fun r hr => (hgiven r hr).mono hgrows
  | attempt _ ih =>
    obtain ⟨result, s', order', hrun, hgrows, hs', -⟩ := (ih hs hgiven).attempt
    exact .of_ok hrun hgrows hs'

/-! ## Refreshing -/

section Refreshing

variable {strategy : Strategy (Resource κ) σ} {s : Host (Resource κ) σ} {order : List HandleId}

theorem Act.settle_linked {id : HandleId} (hs : s.Linked order (some id)) (name : String)
    (capability : Capability) {rebuilt : Except Payload (Except RebuildError (Resource κ))}
    (hplain : ∀ fresh, rebuilt = .ok (.ok fresh) → ∃ k, fresh = .plain k) :
    ∃ outcome s', (settle id name capability rebuilt).runOn s = (.ok outcome, s') ∧
      s'.Linked order (some id) := by
  rcases rebuilt with payload | (error | fresh)
  · exact ⟨_, _, rfl, hs.addNotice _⟩
  · exact ⟨_, _, rfl, hs.addNotice _⟩
  · obtain ⟨k, rfl⟩ := hplain fresh rfl
    exact ⟨_, _, rfl, (hs.swap id k).addNotice _⟩

/-- **A refresh returns.** The rebuild runs under the handle's lock, and what it is given does not lead
back to that handle. -/
theorem Strategy.Plain.refreshWith (hstrategy : strategy.Plain) (hs : s.Linked order none)
    (id : HandleId) : ∃ outcome s' order', (Act.refreshWith id strategy).runOn s = (.ok outcome, s') ∧
      order <+: order' ∧ s'.Linked order' none := by
  have hidle : (s.handle id).reloading = false := by
    by_contra hlocked
    cases hs.locked id (by simpa using hlocked)
  -- inside, the lock of this handle is held, and its current instance is clear of it
  have hlocked := hs.lock id
  have hwork : ∃ outcome s' order',
      (Act.refreshLocked ((s.setLock id true).handle id) id strategy).runOn (s.setLock id true) =
        (.ok outcome, s') ∧ order <+: order' ∧ s'.Linked order' (some id) := by
    rw [Act.refreshLocked]
    cases hi : ((s.setLock id true).handle id).installed with
    | none => exact ⟨_, _, order, rfl, List.prefix_rfl, hlocked.addNotice _⟩
    | some i =>
      have hclear := hlocked.clear_current hi
      have hkeeps := (hstrategy.follows i.params i.current).keeps hlocked fun r hr => by
        cases hr
        exact hclear
      obtain ⟨rebuilt, t, order', hattempt, hgrows, ht, hok⟩ := hkeeps.attempt
      obtain ⟨outcome, s', hsettle, hs'⟩ := Act.settle_linked ht ((s.setLock id true).handle id).name
        strategy.capability fun fresh hfresh => (hstrategy.builds _ _).plain (hok _ hfresh)
      exact ⟨outcome, s', order', by rw [Effect.runOn_bind_ok hattempt, hsettle], hgrows, hs'⟩
  obtain ⟨outcome, s', order', hwork, hgrows, hs'⟩ := hwork
  refine ⟨outcome, s'.setLock id false, order', ?_, hgrows, hs'.unlock⟩
  rw [Act.refreshWith_eq, Effect.runOn_bind_ok (Act.runOn_acquire hidle), Effect.runOn_get_bind,
    Effect.runOn_bind_ok hwork]
  rfl

theorem Strategy.Plain.refreshEach (hstrategy : strategy.Plain) (hs : s.Linked order none)
    (ids : List HandleId) (report : Report) : ∃ report' s' order',
      (Collaborators.refreshEach strategy ids report).runOn s = (.ok report', s') ∧ order <+: order' ∧
        s'.Linked order' none := by
  induction ids generalizing s order report with
  | nil => exact ⟨report, s, order, rfl, List.prefix_rfl, hs⟩
  | cons id ids ih =>
    obtain ⟨outcome, t, order', hfirst, hgrows, ht⟩ := hstrategy.refreshWith hs id
    obtain ⟨report', s', order'', hrest, hgrows', hs'⟩ :=
      ih ht (report.record (t.handle id).name outcome)
    refine ⟨report', s', order'', ?_, hgrows.trans hgrows', hs'⟩
    rw [Collaborators.refreshEach, Effect.runOn_bind_ok hfirst, Effect.runOn_get_bind, hrest]

namespace Collaborators.Plain

variable {c : Collaborators (Resource κ) σ}

theorem capability (hc : c.Plain) (hs : s.Linked order none) (config : HotSwapConfig) :
    (c.capability config).Keeps s order none := by
  cases hforced : config.forced with
  | some forced =>
    rw [c.capability_of_forced hforced]
    exact .of_detached (.pure forced) hs
  | none =>
    rw [c.capability_of_ask hforced]
    refine (hc.probe.keeps hs fun r hr => by cases hr).bind fun raw s' order' _ hs' => ?_
    exact .of_detached (Act.judge_detached raw) hs'

/-- **Refreshing all** gets to its end, or ends with the panic of the version probe. -/
theorem refreshAll (hc : c.Plain) (hs : s.Linked order none) (id : CoordinatorId) :
    (c.refreshAll id).Keeps s order none := by
  rw [Act.Keeps, Collaborators.refreshAll, Effect.runOn_get_bind]
  cases s.coordinator? id with
  | none => exact ⟨order, List.prefix_rfl, hs, fun halt hhalt => by cases hhalt⟩
  | some k =>
    -- visits do not leave a lock behind, so each of them starts like the first one
    have hcycle : (c.cycle k.registry k.config).Keeps s order none := by
      refine (hc.capability hs k.config).bind fun capability t order' hgrows ht => ?_
      obtain ⟨report, t', order'', hrun, hgrows', ht'⟩ := (hc.select capability).refreshEach
        (ht.addNotice (.cycleStarted capability (t.registry k.registry).handles.length))
        (t.registry k.registry).handles (.start capability)
      have hdone := ht'.addNotice (.cycleCompleted capability report.refreshed.length
        report.failed.length report.skipped.length)
      refine .of_ok (a := report) ?_ hgrows' hdone
      rw [Effect.runOn_get_bind, Act.runOn_log_bind, Effect.runOn_bind_ok hrun]
      rfl
    refine hcycle.bind fun report t order' _ ht => ?_
    exact .of_ok (a := some report) rfl List.prefix_rfl (ht.congr rfl rfl)

theorem refresh (hc : c.Plain) (hs : s.Linked order none) (id : CoordinatorId) (name : String) :
    (c.refresh id name).Keeps s order none := by
  rw [Act.Keeps, Collaborators.refresh, Effect.runOn_get_bind]
  cases s.coordinator? id with
  | none => exact ⟨order, List.prefix_rfl, hs, fun halt hhalt => by cases hhalt⟩
  | some k =>
    rw [Effect.runOn_get_bind]
    cases (s.registry k.registry).lookup name with
    | none => exact ⟨order, List.prefix_rfl, hs, fun halt hhalt => by cases hhalt⟩
    | some handle =>
      -- the handle is found before the capability is settled, and is still there afterwards
      refine (hc.capability hs k.config).bind fun capability t order' _ ht => ?_
      obtain ⟨outcome, t', order'', hrun, hgrows', ht'⟩ := (hc.select capability).refreshWith ht handle
      refine .of_ok (a := some outcome) ?_ hgrows' ht'
      rw [Effect.runOn_map, hrun]
      rfl

end Collaborators.Plain

end Refreshing

/-! ## Runs -/

/-- What a program does with registries, coordinators and proxies. -/
inductive Wiring (κ σ : Type) where
  | registering (step : Registering κ)
  | newCoordinator (r : RegistryId) (config : HotSwapConfig)
  /-- Asks a handle for a proxy. -/
  | proxy (id : HandleId)
  | refresh (k : CoordinatorId) (name : String)
  | refreshAll (k : CoordinatorId)
  /-- Operates on the instance behind a proxy. -/
  | forward (p : Proxy) (use : κ → Act (Resource κ) σ Unit) (follows : ∀ k, (use k).Follows none)

/-- The step on the host; coordinator `k` works with `c k`. Only proxies that were handed out can be used. -/
def Wiring.act (c : CoordinatorId → Collaborators (Resource κ) σ) :
    Wiring κ σ → Act (Resource κ) σ (Option Proxy)
  | .registering step => step.act
  | .newCoordinator r config => Act.newCoordinator r config >>= fun _ => pure none
  | .proxy id => do pure ((← get).proxy? id)
  | .refresh k name => (c k).refresh k name >>= fun _ => pure none
  | .refreshAll k => (c k).refreshAll k >>= fun _ => pure none
  | .forward p use _ => do
    if (← get).issued (.proxy p) then Act.operate (.proxy p) use >>= fun _ => pure none else pure none

/-- A run: the host, the proxies that were handed out, and how steps ended that did not return. -/
structure Session (κ σ : Type) where
  host : Host (Resource κ) σ
  proxies : List Proxy
  halts : List Halt

namespace Session

variable {c : CoordinatorId → Collaborators (Resource κ) σ} {s : Session κ σ} {order : List HandleId}

def perform (c : CoordinatorId → Collaborators (Resource κ) σ) (s : Session κ σ) (step : Wiring κ σ) :
    Session κ σ :=
  match (step.act c).runOn s.host with
  | (.ok p?, host) => ⟨host, s.proxies ++ p?.toList, s.halts⟩
  | (.error halt, host) => ⟨host, s.proxies, s.halts ++ [halt]⟩

/-- The run of a program from a host without handles. -/
def after (c : CoordinatorId → Collaborators (Resource κ) σ) (library : σ) (steps : List (Wiring κ σ)) :
    Session κ σ :=
  steps.foldl (perform c) ⟨Host.start library, [], []⟩

theorem after_snoc (library : σ) (steps : List (Wiring κ σ)) (step : Wiring κ σ) :
    after c library (steps ++ [step]) = (after c library steps).perform c step :=
  List.foldl_append ..

/-- The handles in the order of registration, and the proxies are of handles in it. -/
structure Ordered (s : Session κ σ) (order : List HandleId) : Prop where
  linked : s.host.Linked order none
  issued : ∀ p ∈ s.proxies, p.handle ∈ order
  panics : ∀ halt ∈ s.halts, ∃ payload, halt = .panic payload

theorem Ordered.of_keeps (h : s.Ordered order) {step : Wiring κ σ}
    (hkeeps : (step.act c).Keeps s.host order none)
    (hproxy : ∀ p host order', (step.act c).runOn s.host = (.ok (some p), host) →
      order <+: order' → host.Linked order' none → p.handle ∈ order') :
    ∃ order', order <+: order' ∧ (s.perform c step).Ordered order' := by
  obtain ⟨order', hgrows, hlinked, hhalts⟩ := hkeeps
  have hissued : ∀ p ∈ s.proxies, p.handle ∈ order' := fun p hp => hgrows.subset (h.issued p hp)
  refine ⟨order', hgrows, ?_⟩
  rw [perform]
  -- a step that halts hands out no proxy
  rcases hrun : (step.act c).runOn s.host with ⟨halt | p?, host⟩
  · rw [hrun] at hlinked hhalts
    refine ⟨hlinked, hissued, fun other hother => ?_⟩
    obtain hold | hnew := List.mem_append.mp hother
    · exact h.panics other hold
    · rw [List.mem_singleton.mp hnew]
      exact hhalts halt rfl
  · rw [hrun] at hlinked
    refine ⟨hlinked, fun p hp => ?_, h.panics⟩
    obtain hold | hnew := List.mem_append.mp hp
    · exact hissued p hold
    · rw [Option.mem_toList] at hnew
      cases hnew
      exact hproxy p host order' hrun hgrows hlinked

/-- **One step** adds to the order of registration. -/
theorem Ordered.perform (hc : ∀ k, (c k).Plain) (h : s.Ordered order) (step : Wiring κ σ) :
    ∃ order', order <+: order' ∧ (s.perform c step).Ordered order' := by
  have hdiscarded : ∀ {γ : Type} (act : Act (Resource κ) σ γ), act.Keeps s.host order none →
      (act >>= fun _ => pure (none : Option Proxy)).Keeps s.host order none := by
    intro γ act hact
    exact hact.bind fun a s' order' _ hs' => .of_detached (.pure none) hs'
  have hnothing : ∀ {γ : Type} {act : Act (Resource κ) σ γ} {p : Proxy} {host : Host (Resource κ) σ},
      (act >>= fun _ => pure (none : Option Proxy)).runOn s.host ≠ (.ok (some p), host) := by
    intro γ act p host hrun
    obtain ⟨a, t, -, hpure⟩ := Effect.runOn_bind_eq_ok_iff.mp hrun
    cases hpure
  cases step with
  | registering step =>
    obtain ⟨p?, host, order', hrun, hgrows, hlinked, hproxy⟩ := step.runOn_act h.linked
    refine ⟨order', hgrows, ?_⟩
    have hstep : s.perform c (.registering step) = ⟨host, s.proxies ++ p?.toList, s.halts⟩ := by
      rw [Session.perform, Wiring.act, hrun]
    rw [hstep]
    refine ⟨hlinked, fun p hp => ?_, h.panics⟩
    obtain hold | hnew := List.mem_append.mp hp
    · exact hgrows.subset (h.issued p hold)
    · exact hproxy p (Option.mem_toList.mp hnew)
  | newCoordinator r config =>
    refine h.of_keeps (.of_ok (a := none) rfl List.prefix_rfl (h.linked.congr rfl rfl)) ?_
    intro p host order' hrun
    cases hrun
  | proxy id =>
    refine h.of_keeps (.of_ok (a := s.host.proxy? id) rfl List.prefix_rfl h.linked) ?_
    intro p host order' hrun hgrows _
    -- only a registered handle has a proxy
    have hp : s.host.proxy? id = some p := by
      have hresult := congrArg Prod.fst hrun
      injection hresult
    rw [Host.proxy?] at hp
    split at hp
    next hregistered =>
      cases hp
      exact hgrows.subset ((h.linked.registered_iff id).mp hregistered)
    next => cases hp
  | refresh k name =>
    exact h.of_keeps (hdiscarded _ ((hc k).refresh h.linked k name)) fun p host order' hrun =>
      absurd hrun hnothing
  | refreshAll k =>
    exact h.of_keeps (hdiscarded _ ((hc k).refreshAll h.linked k)) fun p host order' hrun =>
      absurd hrun hnothing
  | forward p use follows =>
    cases hissued : s.host.issued (.proxy p) with
    | false =>
      have hrun : (Wiring.act c (.forward p use follows)).runOn s.host = (.ok none, s.host) := by
        rw [Wiring.act, Effect.runOn_get_bind, hissued]
        rfl
      refine h.of_keeps (.of_ok hrun List.prefix_rfl h.linked) fun q host order' hq => ?_
      rw [hrun] at hq
      cases hq
    | true =>
      have hact : ∀ r, (Wiring.act c (.forward p use follows)).runOn s.host = r ↔
          (Act.operate (.proxy p) use >>= fun _ => pure none).runOn s.host = r := by
        intro r
        rw [Wiring.act, Effect.runOn_get_bind, hissued]
        rfl
      have hfollows : (Act.operate (.proxy p) use).Follows (some (.proxy p)) :=
        .operate rfl fun k => (follows k).of_none _
      have hkeeps : (Act.operate (.proxy p) use).Keeps s.host order none := by
        refine hfollows.keeps h.linked fun r hr => ?_
        cases hr
        exact h.linked.clear_of_issued hissued
      refine h.of_keeps ?_ fun q host order' hq => absurd ((hact _).mp hq) hnothing
      rw [Act.Keeps, (hact _).mpr rfl]
      exact hdiscarded _ hkeeps

/-- **After any steps** there is an order of registration, which goes on from the order at every earlier
moment of the run. -/
theorem ordered_after (hc : ∀ k, (c k).Plain) (library : σ) (steps : List (Wiring κ σ)) :
    ∃ order, (after c library steps).Ordered order ∧
      ∀ n, ∃ earlier, earlier <+: order ∧ (after c library (steps.take n)).Ordered earlier := by
  -- the induction is from the back, because a moment of the run is a prefix of its steps
  induction steps using List.reverseRecOn with
  | nil =>
    have hstart : (after c library []).Ordered [] := by
      refine ⟨Host.Linked.start library, fun p hp => ?_, fun halt hhalt => ?_⟩
      · cases hp
      · cases hhalt
    exact ⟨[], hstart, fun n => ⟨[], List.prefix_rfl, by rw [List.take_nil]; exact hstart⟩⟩
  | append_singleton steps step ih =>
    obtain ⟨order, hordered, hmoments⟩ := ih
    obtain ⟨order', hgrows, hordered'⟩ := hordered.perform hc step
    rw [← after_snoc] at hordered'
    refine ⟨order', hordered', fun n => ?_⟩
    by_cases hn : n ≤ steps.length
    · obtain ⟨earlier, hearlier, hmoment⟩ := hmoments n
      rw [List.take_append_of_le_length hn]
      exact ⟨earlier, hearlier.trans hgrows, hmoment⟩
    · rw [List.take_of_length_le (by rw [List.length_append, List.length_singleton]; omega)]
      exact ⟨order', List.prefix_rfl, hordered'⟩

/-- A proxy at a moment of the run: it leads to a plain instance and passes no handle twice. Operating on it
is operating on that instance, and so is operating on what the proxy's handle holds while that handle's
reload lock is held. -/
def Grounded (s : Session κ σ) (p : Proxy) : Prop :=
  ∃ i ids k, (s.host.handle p.handle).installed = some i ∧ s.host.Leads i.current ids k ∧
    (p.handle :: ids).Nodup ∧ ∀ {β : Type} (use : κ → Act (Resource κ) σ β),
      (Act.operate (.proxy p) use).runOn s.host = (use k).runOn s.host ∧
      (Act.operate i.current use).runOn (s.host.setLock p.handle true) =
        (use k).runOn (s.host.setLock p.handle true)

/-- At some moment of the run the one handle's instance was a proxy of the other. -/
def Pointed (c : CoordinatorId → Collaborators (Resource κ) σ) (library : σ) (steps : List (Wiring κ σ))
    (id other : HandleId) : Prop :=
  ∃ n i, ((after c library (steps.take n)).host.handle id).installed = some i ∧
    i.current = .proxy ⟨other⟩

theorem Ordered.grounded (h : s.Ordered order) {p : Proxy} (hp : p.handle ∈ order) : s.Grounded p := by
  obtain ⟨ids, k, hleads, hnodup, -⟩ := h.linked.leads hp
  cases hleads with
  | @proxy _ i _ _ hi hrest =>
    -- between steps no lock is held
    have hidle : ∀ id, (s.host.handle id).reloading = false := by
      intro id
      by_contra hlocked
      cases h.linked.locked id (by simpa using hlocked)
    obtain ⟨hfresh, hnodup'⟩ := List.nodup_cons.mp hnodup
    have hinstalled : ∀ id, ((s.host.setLock p.handle true).handle id).installed =
        (s.host.handle id).installed := Host.apply_handle_updateHandle Handle.installed rfl
    refine ⟨i, ids, k, hi, hrest, hnodup, fun use => ⟨?_, ?_⟩⟩
    · exact (Host.Leads.proxy hi hrest).runOn_operate hnodup (fun id _ => hidle id) use
    · -- the handle whose lock is held is not on the way
      refine (hrest.congr hinstalled).runOn_operate hnodup' (fun id hid => ?_) use
      have hne : id ≠ p.handle := fun heq => hfresh (heq ▸ hid)
      rw [Host.setLock, Host.handle_updateHandle_of_ne _ hne]
      exact hidle id

/-- **Forwarding ends.** However proxies are registered as instances of other handles, and whatever is
refreshed in between: at every moment each proxy that was handed out leads to a plain instance, also from
under the reload lock of its own handle. No step of the run waits or goes on for ever. And who follows a
proxy from one handle to the next, at whatever moments of the run, comes to no handle twice. -/
theorem forwarding_ends (hc : ∀ k, (c k).Plain) (library : σ) (steps : List (Wiring κ σ)) :
    let run := after c library steps
    (∀ p, p ∈ run.proxies ∨ run.host.proxy? p.handle = some p → run.Grounded p ∧
      ∀ ids, List.IsChain (Pointed c library steps) (p.handle :: ids) →
        (p.handle :: ids).Nodup ∧ (p.handle :: ids).length ≤ run.host.handles.length) ∧
    ∀ halt ∈ run.halts, ∃ payload, halt = .panic payload := by
  intro run
  obtain ⟨order, hordered, hmoments⟩ := ordered_after hc library steps
  refine ⟨fun p hp => ?_, hordered.panics⟩
  have hmem : p.handle ∈ order := by
    obtain hissued | hproxy := hp
    · exact hordered.issued p hissued
    · rw [Host.proxy?] at hproxy
      split at hproxy
      next hregistered => exact (hordered.linked.registered_iff _).mp hregistered
      next => cases hproxy
  refine ⟨hordered.grounded hmem, fun ids hchain => ?_⟩
  -- each step of the chain goes to an earlier place in the order
  have hearlier : ∀ id other, Pointed c library steps id other → order.idxOf other < order.idxOf id := by
    rintro id other ⟨n, i, hi, hcurrent⟩
    obtain ⟨earlier, hgrows, hmoment⟩ := hmoments n
    exact Host.idxOf_lt_of_prefix hgrows (hmoment.linked.earlier id i ⟨other⟩ hi hcurrent)
  have hsorted : (p.handle :: ids).Pairwise fun id other => order.idxOf other < order.idxOf id := by
    have : IsTrans HandleId fun id other => order.idxOf other < order.idxOf id :=
      ⟨fun a b c hab hbc => Nat.lt_trans hbc hab⟩
    exact List.isChain_iff_pairwise.mp (hchain.imp hearlier)
  have hnodup : (p.handle :: ids).Nodup := hsorted.imp fun hlt heq => by
    rw [heq] at hlt
    exact Nat.lt_irrefl _ hlt
  refine ⟨hnodup, Host.length_le_of_installed hnodup fun id hid => hordered.linked.installed_of_mem ?_⟩
  obtain rfl | hrest := List.mem_cons.mp hid
  · exact hmem
  · have hlt := (List.pairwise_cons.mp hsorted).1 id hrest
    have hlength : order.idxOf p.handle ≤ order.length := List.idxOf_le_length
    exact List.idxOf_lt_length_iff.mp (by omega)

end Session

/-! ## A library that reaches for what it removes -/

/-- Deregistering uses the instance that goes, and notes it. -/
def LegacyApi.removing : LegacyApi (Resource Nat) (List Nat) Unit where
  deregister _ current := Act.operate current fun k =>
    Call.act fun removed => ⟨.ok (.ok ()), removed ++ [k], []⟩
  newConfiguration := pure (.ok ())
  configureNamed _ _ _ := pure ((), .ok ())
  configureDescriptor _ _ _ := pure ((), .ok ())
  build _ := pure (.ok (.plain 7))

def ModernApi.sevens : ModernApi (Resource Nat) (List Nat) Unit where
  create _ _ := pure (.ok (.plain 7))
  builder _ _ := pure (.ok ())
  build _ := pure (.ok (.plain 7))

def Collaborators.removing : Collaborators (Resource Nat) (List Nat) :=
  ⟨pure "2.0.0", .ofApis .removing .sevens⟩

theorem Collaborators.removing_plain : Collaborators.removing.Plain := by
  have hseven : (pure (.ok (.plain 7)) : Act (Resource Nat) (List Nat) (Except Cause _)).BuildsPlain :=
    ⟨fun hrun => ⟨7, by cases hrun; rfl⟩⟩
  have hpure : ∀ {α : Type} (a : α), (pure a : Act (Resource Nat) (List Nat) α).Follows none :=
    fun a => .detached (.pure a)
  refine ⟨hpure _, StrategySet.ofApis_plain ?_ ?_⟩
  · exact ⟨fun name current => .operate rfl fun k => .detached (Call.detached _), hpure _,
      fun _ _ _ => hpure _, fun _ _ _ => hpure _, fun _ => hpure _, fun _ => hseven⟩
  · exact ⟨fun _ _ => hpure _, fun _ _ => hpure _, fun _ => hpure _, fun _ _ => hseven, fun _ => hseven⟩

/-- A proxy of a proxy in two registries; a refresh removes the plain instance at the end. -/
theorem Session.forwarding_ends_removing :
    let c := fun _ : CoordinatorId => Collaborators.removing
    let register (r : RegistryId) (first : Resource Nat) (name : String) : Wiring Nat (List Nat) :=
      .registering (.register r first (.named name .empty))
    let steps := [.registering .newRegistry, .registering .newRegistry,
      .newCoordinator 0 ⟨some .legacy, ⟨"Tick"⟩⟩, register 0 (.plain 1) "plain",
      register 1 (.proxy ⟨0⟩) "outer", register 0 (.proxy ⟨1⟩) "outermost", .refresh 0 "outermost"]
    (∀ k, (c k).Plain) ∧ (Session.after c [] steps).proxies = [⟨0⟩, ⟨1⟩, ⟨2⟩] ∧
      (Session.after c [] steps).host.library = [1] ∧ (Session.after c [] steps).Grounded ⟨1⟩ := by
  intro c register steps
  have hplain : ∀ k, (c k).Plain := fun _ => Collaborators.removing_plain
  -- the run is small enough to be evaluated
  have hproxies : (Session.after c [] steps).proxies = [⟨0⟩, ⟨1⟩, ⟨2⟩] := by decide
  refine ⟨hplain, hproxies, by decide, ((Session.forwarding_ends hplain [] steps).1 ⟨1⟩ (.inl ?_)).1⟩
  rw [hproxies]
  decide

end LiveSwap
