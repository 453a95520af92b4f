import LiveSwap.Proofs.Run
import Mathlib.Data.List.Forall2

/-!
# Which calls a cycle makes

The calls a cycle makes of the library are written down by recording its construction APIs and its
version probe. Their order is a matter of rules: one block of calls for each registered handle,
shaped by the capability of the cycle, by the parameters captured in the handle, and by the first
call of the block that fails or panics.

* **`ModernBlock`**, **`LegacyBlock`** — the calls of one rebuild.
* **`Act.Writes.bind`** — what actions write comes in the order of the actions, up to the first
  panic.
* **`Strategy.modern_shows_block`**, **`Strategy.legacy_shows_block`** — a rebuild makes the calls of
  one block.
* **`Behaviour.refreshAll_calls`** — a cycle asks for the version unless a capability is forced, and
  then makes the blocks of the registered handles, in the order of creation.
-/

namespace LiveSwap

variable {ι σ ε α β γ : Type}

/-! ## Calls on record -/

/-- A call of the library with its arguments and what came of it. -/
inductive CallRecord (ι β γ : Type) where
  | version (answer : Except Payload String)
  | create (name : String) (properties : Properties) (answer : Except Payload (Except Cause ι))
  | builder (descriptor : Descriptor) (properties : Properties)
    (answer : Except Payload (Except Cause β))
  | build (builder : β) (answer : Except Payload (Except Cause ι))
  | deregister (name : String) (current : ι) (answer : Except Payload (Except Cause Unit))
  | newConfiguration (answer : Except Payload (Except Cause γ))
  | configureNamed (c : γ) (name : String) (properties : Properties)
    (answer : Except Payload (γ × Except Cause Unit))
  | configureDescriptor (c : γ) (descriptor : Descriptor) (properties : Properties)
    (answer : Except Payload (γ × Except Cause Unit))
  | buildConfigured (c : γ) (answer : Except Payload (Except Cause ι))

namespace CallRecord

/-- The construction API that the call belongs to; the version probe belongs to none. -/
def generation : CallRecord ι β γ → Option Capability
  | .version _ => none
  | .create .. | .builder .. | .build .. => some .modern
  | _ => some .legacy

/-- The configuring call that fits the shape of the parameters. -/
def configuring (params : Params) (c : γ) (answer : Except Payload (γ × Except Cause Unit)) :
    CallRecord ι β γ :=
  match params.descriptor with
  | some descriptor => .configureDescriptor c descriptor params.properties answer
  | none => .configureNamed c params.name params.properties answer

theorem generation_configuring (params : Params) (c : γ)
    (answer : Except Payload (γ × Except Cause Unit)) :
    (configuring params c answer : CallRecord ι β γ).generation = some .legacy := by
  rw [configuring]
  cases params.descriptor <;> rfl

end CallRecord

/-! ## Blocks -/

/-- The calls of a modern rebuild: one call for parameters that only name the resource; a builder
for those with a descriptor, and a build if there is a builder. -/
inductive ModernBlock (params : Params) : List (CallRecord ι β γ) → Prop where
  | created (hd : params.descriptor = none) (answer : Except Payload (Except Cause ι)) :
    ModernBlock params [.create params.name params.properties answer]
  | unprimed {descriptor : Descriptor} (hd : params.descriptor = some descriptor)
      (answer : Except Payload (Except Cause β)) (hanswer : ∀ b, answer ≠ .ok (.ok b)) :
    ModernBlock params [.builder descriptor params.properties answer]
  | built {descriptor : Descriptor} (hd : params.descriptor = some descriptor) (builder : β)
      (answer : Except Payload (Except Cause ι)) :
    ModernBlock params [.builder descriptor params.properties (.ok (.ok builder)),
      .build builder answer]

/-- The calls of a construction through a configuration object: each one follows if the one before
succeeded. -/
inductive ConfiguredBuild (params : Params) : List (CallRecord ι β γ) → Prop where
  | unmade (answer : Except Payload (Except Cause γ)) (hanswer : ∀ c, answer ≠ .ok (.ok c)) :
    ConfiguredBuild params [.newConfiguration answer]
  | unconfigured (c : γ) (answer : Except Payload (γ × Except Cause Unit))
      (hanswer : ∀ c', answer ≠ .ok (c', .ok ())) :
    ConfiguredBuild params [.newConfiguration (.ok (.ok c)), .configuring params c answer]
  | built (c c' : γ) (answer : Except Payload (Except Cause ι)) :
    ConfiguredBuild params [.newConfiguration (.ok (.ok c)),
      .configuring params c (.ok (c', .ok ())), .buildConfigured c' answer]

/-- The calls of a legacy rebuild: the installed instance is deregistered, and unless that panics the
construction follows, even if it fails. -/
inductive LegacyBlock (params : Params) (current : ι) : List (CallRecord ι β γ) → Prop where
  | stopped (payload : Payload) :
    LegacyBlock params current [.deregister params.name current (.error payload)]
  | deregistered (result : Except Cause Unit) {calls : List (CallRecord ι β γ)}
      (h : ConfiguredBuild params calls) :
    LegacyBlock params current (.deregister params.name current (.ok result) :: calls)

/-- The calls of a rebuild with the strategy of a capability. -/
def Capability.Block (capability : Capability) (params : Params) (current : ι)
    (calls : List (CallRecord ι β γ)) : Prop :=
  match capability with
  | .modern => ModernBlock params calls
  | .legacy => LegacyBlock params current calls

theorem Capability.Block.generation {capability : Capability} {params : Params} {current : ι}
    {calls : List (CallRecord ι β γ)} (h : capability.Block params current calls) :
    ∀ call ∈ calls, call.generation = some capability := by
  -- each way a block can end lists the calls it made
  cases capability with
  | modern =>
    intro call hcall
    cases h with
    | created hd answer =>
      rw [List.mem_singleton] at hcall
      rw [hcall]
      rfl
    | unprimed hd answer hanswer =>
      rw [List.mem_singleton] at hcall
      rw [hcall]
      rfl
    | built hd builder answer =>
      rw [List.mem_pair] at hcall
      rcases hcall with rfl | rfl <;> rfl
  | legacy =>
    -- what happens after deregistering is the same however that ended
    have hconfiguration : ∀ {calls : List (CallRecord ι β γ)}, ConfiguredBuild params calls →
        ∀ call ∈ calls, call.generation = some .legacy := by
      intro calls h call hcall
      cases h with
      | unmade answer hanswer =>
        rw [List.mem_singleton] at hcall
        rw [hcall]
        rfl
      | unconfigured c answer hanswer =>
        rw [List.mem_pair] at hcall
        rcases hcall with rfl | rfl
        · rfl
        · exact CallRecord.generation_configuring ..
      | built c c' answer =>
        rw [List.mem_cons, List.mem_pair] at hcall
        rcases hcall with rfl | rfl | rfl
        · rfl
        · exact CallRecord.generation_configuring ..
        · rfl
    intro call hcall
    cases h with
    | stopped payload =>
      rw [List.mem_singleton] at hcall
      rw [hcall]
      rfl
    | deregistered result h =>
      rcases List.mem_cons.mp hcall with rfl | hcall
      · rfl
      · exact hconfiguration h call hcall

/-! ## What actions write -/

namespace Act

/-- The action is detached, and what it adds to the record fits what came of it. -/
structure Writes (act : Act ι (σ × List ε) α) (P : Except Payload α → List ε → Prop) : Prop where
  detached : act.Detached
  shown : ∀ library, ∃ shown, (act.conduct library).library.2 = library.2 ++ shown ∧
    P (act.conduct library).answer shown

namespace Writes

variable {x : Act ι (σ × List ε) α} {P P' : Except Payload α → List ε → Prop}

theorem mono (hx : x.Writes P) (h : ∀ answer shown, P answer shown → P' answer shown) :
    x.Writes P' := by
  refine ⟨hx.detached, fun library => ?_⟩
  obtain ⟨shown, hshown, hp⟩ := hx.shown library
  exact ⟨shown, hshown, h _ _ hp⟩

theorem pure (a : α) : (Pure.pure a : Act ι (σ × List ε) α).Writes fun answer shown =>
    answer = .ok a ∧ shown = [] := by
  refine ⟨.pure a, fun library => ⟨[], ?_, ?_⟩⟩
  · rw [conduct_pure, List.append_nil]
  · rw [conduct_pure]
    exact ⟨rfl, rfl⟩

theorem log {n : Notice} (hn : n.ofRefresh = false) :
    (Act.log n : Act ι (σ × List ε) Unit).Writes fun answer shown =>
      answer = .ok () ∧ shown = [] :=
  ⟨.log hn, fun library => ⟨[], (List.append_nil library.2).symm, rfl, rfl⟩⟩

theorem recorded {act : Act ι σ α} (h : act.Detached) (write : Except Payload α → List ε) :
    (act.recorded write).Writes fun answer shown => shown = write answer := by
  refine ⟨h.recorded write, fun library => ⟨write (act.conduct library.1).answer, ?_, ?_⟩⟩
  · rw [conduct_recorded h]
    rfl
  · rw [conduct_recorded h]
    rfl

theorem bind {f : α → Act ι (σ × List ε) β} {Q : α → Except Payload β → List ε → Prop}
    {R : Except Payload β → List ε → Prop} (hx : x.Writes P) (hf : ∀ a, (f a).Writes (Q a))
    (hstop : ∀ payload shown, P (.error payload) shown → R (.error payload) shown)
    (hgo : ∀ a answer first rest, P (.ok a) first → Q a answer rest → R answer (first ++ rest)) :
    (x >>= f).Writes R := by
  refine ⟨hx.detached.bind fun a => (hf a).detached, fun library => ?_⟩
  rw [conduct_bind hx.detached fun a => (hf a).detached, Conduct.andThen]
  obtain ⟨first, hfirst, hp⟩ := hx.shown library
  rcases hanswer : (x.conduct library).answer with payload | a
  · -- a panic of the first action ends both
    rw [hanswer] at hp
    exact ⟨first, hfirst, hstop payload first hp⟩
  · rw [hanswer] at hp
    obtain ⟨rest, hrest, hq⟩ := (hf a).shown (x.conduct library).library
    refine ⟨first ++ rest, ?_, hgo a _ first rest hp hq⟩
    rw [hrest, hfirst, List.append_assoc]

theorem log_bind {n : Notice} (hn : n.ofRefresh = false) {f : Unit → Act ι (σ × List ε) α}
    (hf : (f ()).Writes P) : (Act.log n >>= f).Writes P := by
  refine (log hn).bind (Q := fun _ => P) (fun _ => hf) ?_ ?_
  · rintro payload shown ⟨h, _⟩
    cases h
  · rintro _ answer first rest ⟨_, rfl⟩ hq
    exact hq

/-- What is made of the result afterwards is not on record. -/
theorem bind_pure {g : α → β} {R : List ε → Prop} (hx : x.Writes fun _ shown => R shown) :
    (x >>= fun a => Pure.pure (g a)).Writes fun _ shown => R shown := by
  refine hx.bind (fun a => pure (g a)) (fun _ _ h => h) ?_
  rintro a answer first rest h ⟨_, rfl⟩
  rw [List.append_nil]
  exact h

end Writes

end Act

/-! ## Recorded libraries -/

/-- The factory and the builders, with every call on record. -/
def ModernApi.recorded (api : ModernApi ι σ β) : ModernApi ι (σ × List (CallRecord ι β γ)) β where
  create name properties :=
    (api.create name properties).recorded fun answer => [.create name properties answer]
  builder descriptor properties :=
    (api.builder descriptor properties).recorded fun answer => [.builder descriptor properties answer]
  build builder := (api.build builder).recorded fun answer => [.build builder answer]

/-- The configuration API, with every call on record. -/
def LegacyApi.recorded (api : LegacyApi ι σ γ) : LegacyApi ι (σ × List (CallRecord ι β γ)) γ where
  deregister name current :=
    (api.deregister name current).recorded fun answer => [.deregister name current answer]
  newConfiguration := api.newConfiguration.recorded fun answer => [.newConfiguration answer]
  configureNamed c name properties :=
    (api.configureNamed c name properties).recorded fun answer =>
      [.configureNamed c name properties answer]
  configureDescriptor c descriptor properties :=
    (api.configureDescriptor c descriptor properties).recorded fun answer =>
      [.configureDescriptor c descriptor properties answer]
  build c := (api.build c).recorded fun answer => [.buildConfigured c answer]

/-- The standard strategies and the probe of a library, with every call on record. -/
def Behaviour.recordedCollaborators (library : Behaviour ι σ β γ) :
    Collaborators ι (σ × List (CallRecord ι β γ)) :=
  ⟨library.version.act.recorded fun answer => [.version answer],
    .ofApis library.legacyApi.recorded library.modernApi.recorded⟩

/-! ## The calls of a rebuild -/

/-- The calls that follow once the library has answered the call for a builder. -/
inductive AfterPriming : Except Cause β → List (CallRecord ι β γ) → Prop where
  | failed (cause : Cause) : AfterPriming (.error cause) []
  | built (builder : β) (answer : Except Payload (Except Cause ι)) :
    AfterPriming (.ok builder) [.build builder answer]

theorem ModernApi.recorded_writes {api : ModernApi ι σ β} (h : api.Detached) (params : Params) :
    (api.recorded.construct params).Writes fun _ shown =>
      ModernBlock (ι := ι) (β := β) (γ := γ) params shown := by
  rw [construct]
  cases hd : params.descriptor with
  | none =>
    refine .log_bind rfl ((Act.Writes.recorded (h.create _ _) _).mono ?_)
    rintro answer shown rfl
    exact .created hd answer
  | some descriptor =>
    -- `AfterPriming` carries what is known of the builder to the calls behind it
    refine .log_bind rfl ((Act.Writes.recorded (h.builder _ _) _).bind
      (Q := fun primed _ shown => AfterPriming primed shown) ?_ ?_ ?_)
    · intro primed
      cases primed with
      | error cause =>
        refine (Act.Writes.pure _).mono ?_
        rintro answer shown ⟨_, rfl⟩
        exact .failed cause
      | ok builder =>
        refine (Act.Writes.recorded (h.build builder) _).mono ?_
        rintro answer shown rfl
        exact .built builder answer
    · rintro payload shown rfl
      refine .unprimed hd _ fun builder h => ?_
      cases h
    -- what both calls wrote is one of the shapes of a block
    · rintro primed answer first rest rfl hrest
      cases hrest with
      | failed cause =>
        refine .unprimed hd _ fun builder h => ?_
        cases h
      | built builder answer => exact .built hd builder answer

/-- The calls that follow once the library has answered the call that configures an object. -/
inductive AfterConfiguring : γ × Except Cause Unit → List (CallRecord ι β γ) → Prop where
  | failed (c : γ) (cause : Cause) : AfterConfiguring (c, .error cause) []
  | built (c : γ) (answer : Except Payload (Except Cause ι)) :
    AfterConfiguring (c, .ok ()) [.buildConfigured c answer]

/-- The calls that follow once the library has answered the call for a configuration object. -/
inductive AfterMaking (params : Params) : Except Cause γ → List (CallRecord ι β γ) → Prop where
  | failed (cause : Cause) : AfterMaking params (.error cause) []
  | unconfigured (c : γ) (answer : Except Payload (γ × Except Cause Unit))
      (hanswer : ∀ c', answer ≠ .ok (c', .ok ())) :
    AfterMaking params (.ok c) [.configuring params c answer]
  | built (c c' : γ) (answer : Except Payload (Except Cause ι)) :
    AfterMaking params (.ok c)
      [.configuring params c (.ok (c', .ok ())), .buildConfigured c' answer]

namespace LegacyApi

variable {api : LegacyApi ι σ γ}

theorem recorded_tidy_writes (h : api.Detached) (params : Params) (current : ι) :
    (api.recorded.tidy params.name current).Writes fun answer shown =>
      (∃ payload, answer = .error payload ∧
        shown = [(.deregister params.name current (.error payload) : CallRecord ι β γ)]) ∨
      (answer = .ok () ∧ ∃ result, shown = [.deregister params.name current (.ok result)]) := by
  refine (Act.Writes.recorded (h.deregister _ _) _).bind
    (Q := fun _ answer shown => answer = .ok () ∧ shown = []) ?_ ?_ ?_
  · intro result
    cases result with
    | error cause => exact .log rfl
    | ok _ => exact .pure ()
  · rintro payload shown rfl
    exact Or.inl ⟨payload, rfl, rfl⟩
  · rintro result answer first rest rfl ⟨hanswer, rfl⟩
    exact Or.inr ⟨hanswer, result, rfl⟩

theorem recorded_configure_writes (h : api.Detached) (params : Params) (c : γ) :
    (api.recorded.configure params c).Writes fun answer shown =>
      shown = [(.configuring params c answer : CallRecord ι β γ)] := by
  rw [configure]
  cases hd : params.descriptor with
  | none =>
    refine .log_bind rfl ((Act.Writes.recorded (h.configureNamed _ _ _) _).mono ?_)
    rintro answer shown rfl
    rw [CallRecord.configuring, hd]
  | some descriptor =>
    refine .log_bind rfl ((Act.Writes.recorded (h.configureDescriptor _ _ _) _).mono ?_)
    rintro answer shown rfl
    rw [CallRecord.configuring, hd]

theorem recorded_conclude_writes (h : api.Detached) (configured : γ × Except Cause Unit) :
    (api.recorded.conclude configured).Writes fun _ shown =>
      AfterConfiguring (ι := ι) (β := β) configured shown := by
  rcases configured with ⟨c, cause | _⟩
  · refine (Act.Writes.pure _).mono ?_
    rintro answer shown ⟨_, rfl⟩
    exact .failed c cause
  · refine (Act.Writes.recorded (h.build c) _).mono ?_
    rintro answer shown rfl
    exact .built c answer

/-- A construction through a configuration object makes its calls up to the first failure. -/
theorem recorded_construct_writes (h : api.Detached) (params : Params) :
    (api.recorded.construct params).Writes fun _ shown =>
      ConfiguredBuild (ι := ι) (β := β) (γ := γ) params shown := by
  -- one call after the other: each either ends the block or is followed by the next
  refine (Act.Writes.recorded h.newConfiguration _).bind
    (Q := fun made _ shown => AfterMaking params made shown) ?_ ?_ ?_
  · intro made
    cases made with
    | error cause =>
      refine (Act.Writes.pure _).mono ?_
      rintro answer shown ⟨_, rfl⟩
      exact .failed cause
    | ok c =>
      refine (recorded_configure_writes h params c).bind (recorded_conclude_writes h) ?_ ?_
      · rintro payload shown rfl
        exact .unconfigured c _ nofun
      · rintro configured answer first rest rfl hrest
        cases hrest with
        | failed c' cause => exact .unconfigured c _ nofun
        | built c' answer => exact .built c c' answer
  · rintro payload shown rfl
    exact .unmade _ nofun
  · rintro made answer first rest rfl hrest
    cases hrest with
    | failed cause => exact .unmade _ nofun
    | unconfigured c configured hanswer => exact .unconfigured c configured hanswer
    | built c c' answer => exact .built c c' answer

end LegacyApi

/-- The rebuilds of a strategy make the calls that `Block` allows. -/
theorem Act.Writes.shows {strategy : Strategy ι (σ × List ε)} (Block : Params → ι → List ε → Prop)
    (h : ∀ params current,
      (strategy.rebuild params current).Writes fun _ shown => Block params current shown) :
    strategy.Shows (·.2) fun params current _ shown => Block params current shown :=
  fun params current library => (h params current).shown library

theorem Strategy.modern_shows_block {api : ModernApi ι σ β} (h : api.Detached) :
    (Strategy.modern api.recorded).Shows (·.2) fun params _ _ shown =>
      ModernBlock (ι := ι) (β := β) (γ := γ) params shown := by
  refine Act.Writes.shows (fun params _ shown => ModernBlock params shown) ?_
  intro params current
  rw [modern_rebuild]
  exact (ModernApi.recorded_writes h params).bind_pure

theorem Strategy.legacy_shows_block {api : LegacyApi ι σ γ} (h : api.Detached) :
    (Strategy.legacy api.recorded).Shows (·.2) fun params current _ shown =>
      LegacyBlock (ι := ι) (β := β) (γ := γ) params current shown := by
  refine Act.Writes.shows (fun params current shown => LegacyBlock params current shown) ?_
  intro params current
  rw [legacy_rebuild]
  refine (LegacyApi.recorded_tidy_writes h params current).bind
    (fun _ => (LegacyApi.recorded_construct_writes h params).bind_pure) ?_ ?_
  · rintro payload shown (⟨_, hpayload, rfl⟩ | ⟨hok, _⟩)
    · -- a panic while deregistering ends the block
      cases hpayload
      exact .stopped payload
    · cases hok
  · rintro _ answer first rest (⟨_, hpayload, _⟩ | ⟨_, result, rfl⟩) hrest
    · cases hpayload
    · -- whatever deregistering returned, the construction follows
      exact .deregistered result hrest

/-! ## Recording makes no difference -/

theorem ModernApi.Detached.recorded {api : ModernApi ι σ β} (h : api.Detached) :
    (api.recorded : ModernApi ι (σ × List (CallRecord ι β γ)) β).Detached :=
  ⟨fun _ _ => (h.create _ _).recorded _, fun _ _ => (h.builder _ _).recorded _,
    fun _ => (h.build _).recorded _⟩

theorem LegacyApi.Detached.recorded {api : LegacyApi ι σ γ} (h : api.Detached) :
    (api.recorded : LegacyApi ι (σ × List (CallRecord ι β γ)) γ).Detached :=
  ⟨fun _ _ => (h.deregister _ _).recorded _, h.newConfiguration.recorded _,
    fun _ _ _ => (h.configureNamed _ _ _).recorded _,
    fun _ _ _ => (h.configureDescriptor _ _ _).recorded _, fun _ => (h.build _).recorded _⟩

theorem Strategy.modern_covers (api : ModernApi ι σ β) :
    (Strategy.modern (api.recorded : ModernApi ι (σ × List (CallRecord ι β γ)) β)).Covers
      (Strategy.modern api) := by
  refine ⟨rfl, fun params current => ?_⟩
  rw [modern_rebuild, modern_rebuild]
  refine Act.Covers.bind ?_ fun built => Act.covers_pure _
  rw [ModernApi.construct, ModernApi.construct]
  cases params.descriptor with
  | none => exact (Act.covers_log _).bind fun _ => Act.covers_recorded _ _
  | some descriptor =>
    refine (Act.covers_log _).bind fun _ => (Act.covers_recorded _ _).bind fun primed => ?_
    cases primed with
    | error cause => exact Act.covers_pure _
    | ok builder => exact Act.covers_recorded _ _

theorem Strategy.legacy_covers (api : LegacyApi ι σ γ) :
    (Strategy.legacy (api.recorded : LegacyApi ι (σ × List (CallRecord ι β γ)) γ)).Covers
      (Strategy.legacy api) := by
  refine ⟨rfl, fun params current => ?_⟩
  rw [legacy_rebuild, legacy_rebuild]
  -- step by step, each call is the recorded one of the same library
  refine Act.Covers.bind ?_ fun _ => Act.Covers.bind ?_ fun built => Act.covers_pure _
  · refine (Act.covers_recorded _ _).bind fun deregistered => ?_
    cases deregistered with
    | error cause => exact Act.covers_log _
    | ok _ => exact Act.covers_pure _
  · refine (Act.covers_recorded _ _).bind fun made => ?_
    cases made with
    | error cause => exact Act.covers_pure _
    | ok c =>
      refine Act.Covers.bind ?_ fun configured => ?_
      · rw [LegacyApi.configure, LegacyApi.configure]
        cases params.descriptor with
        | some descriptor => exact (Act.covers_log _).bind fun _ => Act.covers_recorded _ _
        | none => exact (Act.covers_log _).bind fun _ => Act.covers_recorded _ _
      · rcases configured with ⟨c, cause | _⟩
        · exact Act.covers_pure _
        · exact Act.covers_recorded _ _

namespace Behaviour

variable (library : Behaviour ι σ β γ)

theorem recordedCollaborators_detached : library.recordedCollaborators.Detached :=
  ⟨(Call.detached _).recorded _, StrategySet.ofApis_detached library.legacyApi_detached.recorded
    library.modernApi_detached.recorded⟩

/-- With its calls on record a library does what it does without. -/
theorem covers_recordedCollaborators :
    library.recordedCollaborators.Covers library.collaborators := by
  refine ⟨Act.covers_recorded _ _, fun capability => ?_⟩
  cases capability with
  | legacy => exact Strategy.legacy_covers library.legacyApi
  | modern => exact Strategy.modern_covers library.modernApi

theorem recorded_shows_block (capability : Capability) :
    (library.recordedCollaborators.strategies.select capability).Shows (·.2)
      fun params current _ shown => capability.Block params current shown := by
  cases capability with
  | legacy => exact Strategy.legacy_shows_block library.legacyApi_detached
  | modern => exact Strategy.modern_shows_block library.modernApi_detached

end Behaviour

/-! ## The calls of a cycle -/

namespace Host

/-- The block of a handle: none if it was never registered, or else one with the parameters it
captured and the instance installed when the cycle begins. -/
def BlockOf (s : Host ι σ) (capability : Capability) (id : HandleId)
    (calls : List (CallRecord ι β γ)) : Prop :=
  match (s.handle id).installed with
  | none => calls = []
  | some i => capability.Block i.params i.current calls

/-- The calls of a cycle over the first registry, with the capability that was settled: a probe that
panics ends the cycle; else one block follows the other, in the order of creation. -/
inductive CycleCalls (s : Host ι σ) (config : HotSwapConfig) :
    Option Capability → List (CallRecord ι β γ) → Prop where
  | unsettled (hforced : config.forced = none) (payload : Payload) :
    CycleCalls s config none [.version (.error payload)]
  | asked (hforced : config.forced = none) (raw : String) {blocks : List (List (CallRecord ι β γ))}
      (h : List.Forall₂ (s.BlockOf (.ofReport raw)) (s.registry 0).handles blocks) :
    CycleCalls s config (some (.ofReport raw)) (.version (.ok raw) :: blocks.flatten)
  | forced (capability : Capability) (hforced : config.forced = some capability)
      {blocks : List (List (CallRecord ι β γ))}
      (h : List.Forall₂ (s.BlockOf capability) (s.registry 0).handles blocks) :
    CycleCalls s config (some capability) blocks.flatten

theorem blockOf_of_refreshed {s : Host ι σ} {capability : Capability} {id : HandleId}
    {h' : Handle ι} {outcome : Outcome} {shown : List (CallRecord ι β γ)}
    (hr : (s.handle id).Refreshed
      (fun params current _ shown => capability.Block params current shown) outcome h' shown) :
    s.BlockOf capability id shown := by
  rw [BlockOf]
  cases hr with
  | skipped hi => rw [hi]
  | swapped hi hstep => rw [hi]; exact hstep
  | failed hi hstep _ => rw [hi]; exact hstep

theorem Visited.blocks {s s' : Host ι (σ × List (CallRecord ι β γ))} {capability : Capability}
    {visits : List (Visit (CallRecord ι β γ))}
    (hv : s.Visited s' 0 (·.2) (fun params current _ shown => capability.Block params current shown)
      visits) :
    List.Forall₂ (s.BlockOf capability) (s.registry 0).handles (visits.map (·.shown)) := by
  rw [← hv.handles, List.forall₂_map_left_iff, List.forall₂_map_right_iff, List.forall₂_same]
  exact fun v hvmem => blockOf_of_refreshed (hv.refreshed v hvmem)

theorem cycle_blocks (library : Behaviour ι σ β γ) (capability : Capability)
    {s : Host ι (σ × List (CallRecord ι β γ))} (hs : s.Sound) : ∃ blocks,
      List.Forall₂ (s.BlockOf capability) (s.registry 0).handles blocks ∧
        (s.cycle library.recordedCollaborators 0 capability).2.library.2 =
          s.library.2 ++ blocks.flatten := by
  obtain ⟨visits, _, hv, _⟩ := s.cycle_visited library.recordedCollaborators_detached
    (library.recorded_shows_block capability) hs 0
  exact ⟨visits.map (·.shown), hv.blocks, hv.shown⟩

/-- The blocks of a cycle stay within its generation. -/
theorem generation_of_blocks {s : Host ι σ} {capability : Capability} {ids : List HandleId}
    {blocks : List (List (CallRecord ι β γ))} (h : List.Forall₂ (s.BlockOf capability) ids blocks) :
    ∀ call ∈ blocks.flatten, call.generation = some capability := by
  induction h with
  | nil => simp
  | @cons id block ids blocks hblock _ ih =>
    intro call hcall
    rw [List.flatten_cons, List.mem_append] at hcall
    rcases hcall with hcall | hcall
    · rw [BlockOf] at hblock
      cases hi : (s.handle id).installed with
      | none =>
        -- a handle that was never registered makes no calls
        rw [hi] at hblock
        rw [show block = [] from hblock] at hcall
        cases hcall
      | some i =>
        rw [hi] at hblock
        exact Capability.Block.generation hblock call hcall
    · exact ih call hcall

theorem CycleCalls.generation {s : Host ι σ} {config : HotSwapConfig} {settled : Option Capability}
    {calls : List (CallRecord ι β γ)} (h : s.CycleCalls config settled calls) :
    ∀ call ∈ calls, call.generation = none ∨ call.generation = settled := by
  intro call hcall
  cases h with
  | unsettled hforced payload =>
    rw [List.mem_singleton] at hcall
    rw [hcall]
    exact Or.inl rfl
  | asked hforced raw h =>
    rcases List.mem_cons.mp hcall with rfl | hcall
    · exact Or.inl rfl
    · exact Or.inr (generation_of_blocks h call hcall)
  | forced capability hforced h => exact Or.inr (generation_of_blocks h call hcall)

end Host

namespace Behaviour

/-- The calls that a cycle makes, starting on a host. -/
def cycleCalls (library : Behaviour ι σ β γ) (s : Host ι σ) : List (CallRecord ι β γ) :=
  ((library.recordedCollaborators.refreshAll 0).runOn (s.withRecord [])).2.library.2

/-- What settling the capability puts on record: one call of the probe, unless one is forced. -/
theorem settling_recorded (library : Behaviour ι σ β γ) {config : HotSwapConfig}
    (hforced : config.forced = none) (start : σ) (record : List (CallRecord ι β γ)) :
    let settling := library.recordedCollaborators.settling config (start, record)
    settling.answer = (library.version start).answer.map .ofReport ∧
      settling.library.2 = record ++ [.version (library.version start).answer] := by
  -- the probe is one call, and its answer alone decides
  have hd := library.collaborators_detached
  have hasked : library.recordedCollaborators.probe.conduct (start, record) = _ :=
    Act.conduct_recorded hd.probe _ (start, record)
  have hprobe : library.collaborators.probe.conduct start = (library.version start).conduct :=
    Call.conduct_act _ start
  obtain ⟨hanswer, hlibrary⟩ := Collaborators.settling_of_ask
    library.recordedCollaborators_detached hforced (start, record)
  refine ⟨?_, ?_⟩
  · rw [hanswer, hasked, hprobe]
    rfl
  · rw [hlibrary, hasked, hprobe]
    rfl

theorem cycleCalls_of_settled (library : Behaviour ι σ β γ) {config : HotSwapConfig}
    {s : Host ι σ} (hs : s.Founded config) {capability : Capability}
    (h : (library.recordedCollaborators.settling config (s.library, [])).answer = .ok capability) :
    ∃ blocks, List.Forall₂ (s.BlockOf capability) (s.registry 0).handles blocks ∧
      library.cycleCalls s =
        (library.recordedCollaborators.settling config (s.library, [])).library.2 ++
          blocks.flatten := by
  have ht := hs.withRecord ([] : List (CallRecord ι β γ))
  obtain ⟨k, hk, hregistry, hconfig⟩ := ht.coordinator
  have hrun := Collaborators.runOn_refreshAll library.recordedCollaborators_detached ht.sound hk
  rw [hregistry, hconfig, show (s.withRecord []).library = (s.library, []) from rfl, h] at hrun
  obtain ⟨blocks, hblocks, hrecord⟩ := Host.cycle_blocks library capability (ht.sound.after
    (library.recordedCollaborators.settling config (s.library, [])))
  refine ⟨blocks, hblocks, ?_⟩
  rw [cycleCalls, hrun]
  exact hrecord

theorem cycleCalls_of_founded (library : Behaviour ι σ β γ) {config : HotSwapConfig}
    {s : Host ι σ} (hs : s.Founded config) :
    ∃ settled, s.CycleCalls config settled (library.cycleCalls s) := by
  -- a forced capability asks nobody; otherwise the first call on record is the probe
  cases hforced : config.forced with
  | some capability =>
    have hsettling := library.recordedCollaborators.settling_of_forced hforced (s.library, [])
    obtain ⟨blocks, hblocks, hcalls⟩ := library.cycleCalls_of_settled hs
      (congrArg Conduct.answer hsettling)
    rw [hcalls, hsettling]
    exact ⟨_, .forced capability hforced hblocks⟩
  | none =>
    obtain ⟨hanswer, hrecord⟩ := library.settling_recorded hforced s.library []
    rw [List.nil_append] at hrecord
    rcases hprobe : (library.version s.library).answer with payload | raw
    · -- the probe panics, and its call is all there is
      rw [hprobe] at hanswer hrecord
      have ht := hs.withRecord ([] : List (CallRecord ι β γ))
      obtain ⟨k, hk, hregistry, hconfig⟩ := ht.coordinator
      have hrun := Collaborators.runOn_refreshAll library.recordedCollaborators_detached ht.sound hk
      rw [hconfig, show (s.withRecord []).library = (s.library, []) from rfl, hanswer] at hrun
      rw [cycleCalls, hrun]
      refine ⟨none, ?_⟩
      show s.CycleCalls config none
        (library.recordedCollaborators.settling config (s.library, [])).library.2
      rw [hrecord]
      exact .unsettled hforced payload
    · rw [hprobe] at hanswer hrecord
      obtain ⟨blocks, hblocks, hcalls⟩ := library.cycleCalls_of_settled hs hanswer
      rw [hcalls, hrecord]
      exact ⟨_, .asked hforced raw hblocks⟩

/-- **The calls of a cycle.** After any run, and however the library behaves, a cycle asks for the
version once if no capability is forced, and then makes one block of calls for each registered
handle, in the order of creation; every block belongs to the capability that was settled. Writing
the calls down makes no difference to the cycle. -/
theorem refreshAll_calls (library : Behaviour ι σ β γ) (config : HotSwapConfig) (start : σ)
    (ops : List (Operation ι σ)) :
    (∃ settled,
      (library.run config start ops).host.CycleCalls config settled
        (library.cycleCalls (library.run config start ops).host) ∧
      ∀ call ∈ library.cycleCalls (library.run config start ops).host,
        call.generation = none ∨ call.generation = settled) ∧
    (library.collaborators.refreshAll 0).runOn (library.run config start ops).host =
      (((library.recordedCollaborators.refreshAll 0).runOn
          ((library.run config start ops).host.withRecord [])).1,
        ((library.recordedCollaborators.refreshAll 0).runOn
          ((library.run config start ops).host.withRecord [])).2.erase) := by
  refine ⟨?_, ?_⟩
  · obtain ⟨settled, hcalls⟩ := library.cycleCalls_of_founded
      (Run.founded library.collaborators_detached config start ops)
    exact ⟨settled, hcalls, hcalls.generation⟩
  · exact library.covers_recordedCollaborators.refreshAll 0
      ((library.run config start ops).host.withRecord [])

end Behaviour

end LiveSwap
