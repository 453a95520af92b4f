import LiveSwap.Cycle
import LiveSwap.Proofs.Effect

/-!
# Detached actions

A strategy builds and nothing else. `Act.Detached` says so of an action: on every host it does what
it would do on a host with the same library and no handles at all, it adds to the log but writes
none of the notices that belong to a refresh, and if it halts then by a panic. `Act.conduct` is what
it does, as a function of the library's state.

* **`Act.Detached.bind`**, **`Act.conduct_bind`** — detached actions compose, and so do their
  conducts.
* **`Strategy.modern_detached`**, **`Strategy.legacy_detached`** — the standard strategies are as
  detached as the library they call.
-/

namespace LiveSwap

variable {ι σ α β : Type}

/-- The notices of refreshes: how a handle fared, and where a cycle starts and ends. -/
def Notice.ofRefresh : Notice → Bool
  | .unregisteredSkipped _ | .rebuilt .. | .rebuildFailed .. | .cycleStarted .. | .cycleCompleted .. =>
    true
  | _ => false

/-! ## Conducts -/

/-- What an action of the library comes to: its result or its panic, the library afterwards, and
what it wrote to the log. -/
structure Conduct (σ α : Type) where
  answer : Except Payload α
  library : σ
  notices : List Notice

/-- The host after it: only the library and the log have moved on. -/
def Host.after (s : Host ι σ) (c : Conduct σ α) : Host ι σ :=
  { s with library := c.library, log := s.log ++ c.notices }

namespace Conduct

/-- The same on a whole host. -/
def onto (c : Conduct σ α) (s : Host ι σ) : Except Halt α × Host ι σ :=
  (c.answer.mapError .panic, s.after c)

/-- One conduct after another; a panic of the first one ends both. -/
def andThen (c : Conduct σ α) (next : α → σ → Conduct σ β) : Conduct σ β :=
  match c.answer with
  | .ok a =>
    let d := next a c.library
    ⟨d.answer, d.library, c.notices ++ d.notices⟩
  | .error payload => ⟨.error payload, c.library, c.notices⟩

end Conduct

/-- What a halt carries when it is a panic. -/
def Halt.payload : Halt → Payload
  | .panic payload => payload
  | _ => .other

namespace Act

/-- What an action does on a host that holds nothing but the library. -/
def conduct (act : Act ι σ α) (library : σ) : Conduct σ α :=
  let (result, s) := act.runOn (Host.start library)
  ⟨result.mapError Halt.payload, s.library, s.log⟩

/-- The action sees and changes nothing but the library, and writes no notice of a refresh. -/
structure Detached (act : Act ι σ α) : Prop where
  runOn_eq : ∀ s, act.runOn s = (act.conduct s.library).onto s
  silent : ∀ library, ∀ n ∈ (act.conduct library).notices, n.ofRefresh = false

theorem conduct_eq {act : Act ι σ α} {f : σ → Conduct σ α}
    (h : ∀ s, act.runOn s = (f s.library).onto s) (library : σ) : act.conduct library = f library := by
  rw [conduct, h (Host.start library)]
  show Conduct.mk (((f library).answer.mapError Halt.panic).mapError Halt.payload) (f library).library
    ([] ++ (f library).notices) = f library
  rw [List.nil_append]
  rcases f library with ⟨_ | _, _, _⟩ <;> rfl

theorem Detached.intro {act : Act ι σ α} (f : σ → Conduct σ α)
    (h : ∀ s, act.runOn s = (f s.library).onto s)
    (hsilent : ∀ library, ∀ n ∈ (f library).notices, n.ofRefresh = false) : act.Detached := by
  refine ⟨fun s => ?_, fun library => ?_⟩
  · rw [conduct_eq h, h]
  · rw [conduct_eq h]
    exact hsilent library

/-! ## Composition -/

theorem runOn_pure_eq_onto (a : α) (s : Host ι σ) :
    (pure a : Act ι σ α).runOn s = (⟨.ok a, s.library, []⟩ : Conduct σ α).onto s := by
  rw [Conduct.onto, Host.after, List.append_nil]
  rfl

theorem Detached.pure (a : α) : (Pure.pure a : Act ι σ α).Detached :=
  .intro (fun library => ⟨.ok a, library, []⟩) (runOn_pure_eq_onto a) (by simp)

@[simp] theorem conduct_pure (a : α) (library : σ) :
    (pure a : Act ι σ α).conduct library = ⟨.ok a, library, []⟩ :=
  conduct_eq (f := fun library => ⟨.ok a, library, []⟩) (runOn_pure_eq_onto a) library

theorem Detached.log {n : Notice} (h : n.ofRefresh = false) : (log n : Act ι σ Unit).Detached := by
  apply Detached.intro (fun library => ⟨.ok (), library, [n]⟩) (fun s => rfl)
  intro library m hm
  rw [List.mem_singleton.mp hm, h]

theorem runOn_log_bind (n : Notice) (f : Unit → Act ι σ β) (s : Host ι σ) :
    (log n >>= f).runOn s = (f ()).runOn (s.addNotice n) := rfl

theorem runOn_bind_eq_onto {x : Act ι σ α} {f : α → Act ι σ β} (hx : x.Detached)
    (hf : ∀ a, (f a).Detached) (s : Host ι σ) :
    (x >>= f).runOn s =
      ((x.conduct s.library).andThen fun a library => (f a).conduct library).onto s := by
  rw [Effect.runOn_bind, hx.runOn_eq]
  rcases x.conduct s.library with ⟨answer, library, notices⟩
  cases answer with
  | error payload => rfl
  | ok a =>
    -- what the second action writes goes behind what the first one wrote
    show (f a).runOn { s with library := library, log := s.log ++ notices } = _
    rw [(hf a).runOn_eq, Conduct.onto, Host.after, List.append_assoc]
    rfl

/-- Any action goes on where a detached one left off, on the same handles. -/
theorem Detached.runOn_bind {x : Act ι σ α} (hx : x.Detached) (f : α → Act ι σ β) (s : Host ι σ) :
    (x >>= f).runOn s =
      match (x.conduct s.library).answer with
      | .error payload => (.error (.panic payload), s.after (x.conduct s.library))
      | .ok a => (f a).runOn (s.after (x.conduct s.library)) := by
  rw [Effect.runOn_bind, hx.runOn_eq]
  rcases x.conduct s.library with ⟨_ | _, library, notices⟩
  · rfl
  · rfl

theorem Detached.runOn_attempt {act : Act ι σ α} (h : act.Detached) (s : Host ι σ) :
    (Effect.attempt act).runOn s =
      (.ok (act.conduct s.library).answer, s.after (act.conduct s.library)) := by
  rw [Effect.runOn_attempt, h.runOn_eq]
  rcases act.conduct s.library with ⟨_ | _, library, notices⟩
  · rfl
  · rfl

theorem Detached.bind {x : Act ι σ α} {f : α → Act ι σ β} (hx : x.Detached)
    (hf : ∀ a, (f a).Detached) : (x >>= f).Detached := by
  apply Detached.intro
    (fun library => (x.conduct library).andThen fun a library => (f a).conduct library)
    (runOn_bind_eq_onto hx hf)
  intro library n hn
  rcases hc : x.conduct library with ⟨answer, library', notices⟩
  have hnotices : ∀ m ∈ notices, m.ofRefresh = false := by
    -- the notices come from either part, and neither part reports on a refresh
    have := hx.silent library
    rwa [hc] at this
  rw [hc, Conduct.andThen] at hn
  cases answer with
  | error payload => exact hnotices n hn
  | ok a =>
    rcases List.mem_append.mp hn with hn | hn
    · exact hnotices n hn
    · exact (hf a).silent library' n hn

theorem conduct_bind {x : Act ι σ α} {f : α → Act ι σ β} (hx : x.Detached)
    (hf : ∀ a, (f a).Detached) (library : σ) :
    (x >>= f).conduct library =
      (x.conduct library).andThen fun a library => (f a).conduct library :=
  conduct_eq
    (f := fun library => (x.conduct library).andThen fun a library => (f a).conduct library)
    (runOn_bind_eq_onto hx hf) library

theorem Detached.map {x : Act ι σ α} (hx : x.Detached) (f : α → β) : (f <$> x).Detached := by
  rw [map_eq_pure_bind]
  exact hx.bind fun _ => .pure _

end Act

/-! ## Libraries and strategies -/

/-- A strategy whose rebuilds are detached. -/
def Strategy.Detached (strategy : Strategy ι σ) : Prop :=
  ∀ params current, (strategy.rebuild params current).Detached

structure ModernApi.Detached {γ : Type} (api : ModernApi ι σ γ) : Prop where
  create : ∀ name properties, (api.create name properties).Detached
  builder : ∀ descriptor properties, (api.builder descriptor properties).Detached
  build : ∀ builder, (api.build builder).Detached

structure LegacyApi.Detached {γ : Type} (api : LegacyApi ι σ γ) : Prop where
  deregister : ∀ name current, (api.deregister name current).Detached
  newConfiguration : api.newConfiguration.Detached
  configureNamed : ∀ c name properties, (api.configureNamed c name properties).Detached
  configureDescriptor : ∀ c descriptor properties,
    (api.configureDescriptor c descriptor properties).Detached
  build : ∀ c, (api.build c).Detached

/-- Collaborators that only answer: the probe and the rebuilds are detached. -/
structure Collaborators.Detached (c : Collaborators ι σ) : Prop where
  probe : c.probe.Detached
  select : ∀ capability, (c.strategies.select capability).Detached

/-! ## The stages of a rebuild

The standard strategies in named stages: what a construction comes to, with its cause when it fails,
is put under the resource's name and the capability at the very end. -/

/-- One call for parameters that only name the resource, a builder for those with a descriptor. -/
def ModernApi.construct {γ : Type} (api : ModernApi ι σ γ) (params : Params) :
    Act ι σ (Except Cause ι) :=
  match params.descriptor with
  | none => Act.log (.creatingFromName params.name) >>= fun _ =>
      api.create params.name params.properties
  | some descriptor => Act.log (.buildingFromDescriptor params.name descriptor.typeName) >>= fun _ =>
      api.builder descriptor params.properties >>= fun
        | .error cause => pure (.error cause)
        | .ok builder => api.build builder

namespace LegacyApi

variable {γ : Type}

/-- Deregisters an instance; a failure is only logged. -/
def tidy (api : LegacyApi ι σ γ) (name : String) (current : ι) : Act ι σ Unit :=
  api.deregister name current >>= fun
    | .error cause => Act.log (.deregistrationFailed name cause)
    | .ok () => pure ()

/-- Configures by the shape of the parameters. -/
def configure (api : LegacyApi ι σ γ) (params : Params) (c : γ) : Act ι σ (γ × Except Cause Unit) :=
  match params.descriptor with
  | some descriptor => Act.log (.configuringFromDescriptor params.name) >>= fun _ =>
      api.configureDescriptor c descriptor params.properties
  | none => Act.log (.configuringFromName params.name) >>= fun _ =>
      api.configureNamed c params.name params.properties

/-- Builds with a configuration object, unless configuring it failed. -/
def conclude (api : LegacyApi ι σ γ) : γ × Except Cause Unit → Act ι σ (Except Cause ι)
  | (_, .error cause) => pure (.error cause)
  | (c, .ok ()) => api.build c

/-- Builds through a fresh configuration object. -/
def construct (api : LegacyApi ι σ γ) (params : Params) : Act ι σ (Except Cause ι) :=
  api.newConfiguration >>= fun
    | .error cause => pure (.error cause)
    | .ok c => api.configure params c >>= api.conclude

end LegacyApi

theorem Strategy.modern_rebuild {γ : Type} (api : ModernApi ι σ γ) (params : Params) (current : ι) :
    (Strategy.modern api).rebuild params current = api.construct params >>= fun built =>
      pure (built.mapError (.construction params.name .modern)) := by
  simp only [Strategy.modern, ModernApi.construct]
  cases params.descriptor with
  | none => simp only [bind_assoc]
  | some descriptor =>
    -- both sides make the same calls in the same order, and agree on each answer
    simp only [bind_assoc]
    congr 1
    funext _
    congr 1
    funext primed
    cases primed <;> rfl

theorem Strategy.legacy_rebuild {γ : Type} (api : LegacyApi ι σ γ) (params : Params) (current : ι) :
    (Strategy.legacy api).rebuild params current = api.tidy params.name current >>= fun _ =>
      api.construct params >>= fun built =>
        pure (built.mapError (.construction params.name .legacy)) := by
  -- without a registry of its own, a library goes straight to the construction
  have hrest : (Strategy.legacy api.withoutDeregister).rebuild params current =
      api.construct params >>= fun built =>
        pure (built.mapError (.construction params.name .legacy)) := by
    simp only [Strategy.legacy, LegacyApi.withoutDeregister, LegacyApi.construct,
      LegacyApi.configure, bind_assoc, pure_bind]
    congr 1
    funext made
    cases made with
    | error cause => rfl
    | ok c =>
      cases params.descriptor
      all_goals
        simp only [bind_assoc]
        congr 1
        funext _
        congr 1
        funext configured
        rcases configured with ⟨c, cause | _⟩ <;> rfl
  rw [← hrest, LegacyApi.tidy, bind_assoc]
  simp only [Strategy.legacy, LegacyApi.withoutDeregister, pure_bind]
  congr 1
  funext deregistered
  cases deregistered with
  | error cause => rfl
  | ok _ => rfl

/-! ## The standard strategies -/

/-- A property of actions that passes from the calls of a library to the strategies that make them. -/
structure Act.Closed (P : ∀ α : Type, Act ι σ α → Prop) : Prop where
  pure : ∀ {α : Type} (a : α), P α (pure a)
  log : ∀ {n : Notice}, n.ofRefresh = false → P Unit (Act.log n)
  bind : ∀ {α β : Type} {x : Act ι σ α} {f : α → Act ι σ β}, P α x → (∀ a, P β (f a)) → P β (x >>= f)

section Closed

variable {γ : Type} {P : ∀ α : Type, Act ι σ α → Prop} (hP : Act.Closed P)

include hP

theorem ModernApi.construct_closed {api : ModernApi ι σ γ}
    (hcreate : ∀ name properties, P _ (api.create name properties))
    (hbuilder : ∀ descriptor properties, P _ (api.builder descriptor properties))
    (hbuild : ∀ builder, P _ (api.build builder)) (params : Params) : P _ (api.construct params) := by
  rw [ModernApi.construct]
  cases params.descriptor with
  | none => exact hP.bind (hP.log rfl) fun _ => hcreate _ _
  | some descriptor =>
    refine hP.bind (hP.log rfl) fun _ => hP.bind (hbuilder _ _) fun primed => ?_
    cases primed with
    | error cause => exact hP.pure _
    | ok builder => exact hbuild _

variable {api : LegacyApi ι σ γ}

theorem LegacyApi.tidy_closed {name : String} {current : ι}
    (hderegister : P _ (api.deregister name current)) : P _ (api.tidy name current) := by
  refine hP.bind hderegister fun deregistered => ?_
  cases deregistered with
  | error cause => exact hP.log rfl
  | ok _ => exact hP.pure _

theorem LegacyApi.configure_closed (hnamed : ∀ c name properties, P _ (api.configureNamed c name properties))
    (hdescriptor : ∀ c descriptor properties, P _ (api.configureDescriptor c descriptor properties))
    (params : Params) (c : γ) : P _ (api.configure params c) := by
  rw [LegacyApi.configure]
  cases params.descriptor with
  | some descriptor => exact hP.bind (hP.log rfl) fun _ => hdescriptor _ _ _
  | none => exact hP.bind (hP.log rfl) fun _ => hnamed _ _ _

theorem LegacyApi.conclude_closed (hbuild : ∀ c, P _ (api.build c)) (configured : γ × Except Cause Unit) :
    P _ (api.conclude configured) := by
  rcases configured with ⟨c, cause | _⟩
  · exact hP.pure _
  · exact hbuild c

theorem LegacyApi.construct_closed (hnew : P _ api.newConfiguration)
    (hnamed : ∀ c name properties, P _ (api.configureNamed c name properties))
    (hdescriptor : ∀ c descriptor properties, P _ (api.configureDescriptor c descriptor properties))
    (hbuild : ∀ c, P _ (api.build c)) (params : Params) : P _ (api.construct params) := by
  refine hP.bind hnew fun made => ?_
  cases made with
  | error cause => exact hP.pure _
  | ok c => exact hP.bind (api.configure_closed hP hnamed hdescriptor params c) (api.conclude_closed hP hbuild)

theorem Strategy.modern_closed {api : ModernApi ι σ γ}
    (hconstruct : ∀ params, P _ (api.construct params)) (params : Params) (current : ι) :
    P _ ((Strategy.modern api).rebuild params current) := by
  rw [Strategy.modern_rebuild]
  exact hP.bind (hconstruct params) fun _ => hP.pure _

theorem Strategy.legacy_closed {params : Params} {current : ι}
    (hderegister : P _ (api.deregister params.name current)) (hconstruct : P _ (api.construct params)) :
    P _ ((Strategy.legacy api).rebuild params current) := by
  rw [Strategy.legacy_rebuild]
  exact hP.bind (api.tidy_closed hP hderegister) fun _ => hP.bind hconstruct fun _ => hP.pure _

end Closed

theorem Act.detached_closed : Act.Closed fun _ (act : Act ι σ _) => act.Detached :=
  ⟨.pure, .log, .bind⟩

theorem ModernApi.Detached.construct {γ : Type} {api : ModernApi ι σ γ} (h : api.Detached)
    (params : Params) : (api.construct params).Detached :=
  api.construct_closed Act.detached_closed h.create h.builder h.build params

namespace LegacyApi.Detached

variable {γ : Type} {api : LegacyApi ι σ γ}

theorem tidy (h : api.Detached) (name : String) (current : ι) : (api.tidy name current).Detached :=
  api.tidy_closed Act.detached_closed (h.deregister name current)

theorem configure (h : api.Detached) (params : Params) (c : γ) : (api.configure params c).Detached :=
  api.configure_closed Act.detached_closed h.configureNamed h.configureDescriptor params c

theorem conclude (h : api.Detached) (configured : γ × Except Cause Unit) :
    (api.conclude configured).Detached :=
  api.conclude_closed Act.detached_closed h.build configured

theorem construct (h : api.Detached) (params : Params) : (api.construct params).Detached :=
  api.construct_closed Act.detached_closed h.newConfiguration h.configureNamed h.configureDescriptor
    h.build params

end LegacyApi.Detached

theorem Strategy.modern_detached {γ : Type} {api : ModernApi ι σ γ} (h : api.Detached) :
    (Strategy.modern api).Detached :=
  Strategy.modern_closed Act.detached_closed h.construct

/-- The legacy strategy is as detached as the configuration API it calls. -/
theorem Strategy.legacy_detached {γ : Type} {api : LegacyApi ι σ γ} (h : api.Detached) :
    (Strategy.legacy api).Detached :=
  fun params _ => Strategy.legacy_closed Act.detached_closed (h.deregister _ _) (h.construct params)

theorem StrategySet.ofApis_detached {γ δ : Type} {legacy : LegacyApi ι σ γ}
    {modern : ModernApi ι σ δ} (hl : legacy.Detached) (hm : modern.Detached)
    (capability : Capability) : ((StrategySet.ofApis legacy modern).select capability).Detached := by
  cases capability with
  | legacy => exact Strategy.legacy_detached hl
  | modern => exact Strategy.modern_detached hm

end LiveSwap
