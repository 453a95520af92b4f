import LiveSwap.Proofs.Record
import LiveSwap.Proofs.Cycle

/-!
# Every way a library can behave

A `Behaviour` answers each call of the library's construction APIs from the library's own state. A
call may succeed, fail with a cause or panic, whatever the calls before it did; it may change the
library's state and write events of its own. It does not reach the handles it builds for.

* **`Behaviour.collaborators_detached`** — with any behaviour behind the standard strategies, the
  version probe and every rebuild are detached.
* **`Strategy.chronicled_shows`** — a chronicle of the rebuilds grows by one attempt a rebuild.
-/

namespace LiveSwap

variable {ι σ ε α β γ : Type}

/-! ## Calls -/

/-- What one call of the library comes to. -/
structure Reply (σ α : Type) where
  /-- What the call returns, or what it panics with. -/
  answer : Except Payload α
  library : σ
  events : List Event

/-- A call, answered from the library's state. -/
abbrev Call (σ α : Type) := σ → Reply σ α

namespace Reply

/-- What the reply is for the host the library serves. -/
def conduct (reply : Reply σ α) : Conduct σ α :=
  ⟨reply.answer, reply.library, reply.events.map .library⟩

end Reply

namespace Call

/-- Makes the call on behalf of a host. -/
def act (call : Call σ α) : Act ι σ α := do
  match ← modifyGet fun s => ((call s.library).answer, s.after (call s.library).conduct) with
  | .ok a => pure a
  | .error payload => throw (.panic payload)

theorem runOn_act (call : Call σ α) (s : Host ι σ) :
    call.act.runOn s = (call s.library).conduct.onto s := by
  rw [act, Effect.runOn_modifyGet_bind, Conduct.onto]
  show Effect.runOn (match (call s.library).answer with | .ok a => _ | .error payload => _) _ =
    ((call s.library).answer.mapError _, _)
  cases (call s.library).answer with
  | error payload => rfl
  | ok a => rfl

theorem conduct_act (call : Call σ α) (library : σ) :
    (call.act : Act ι σ α).conduct library = (call library).conduct :=
  Act.conduct_eq (f := fun library => (call library).conduct) call.runOn_act library

theorem detached (call : Call σ α) : (call.act : Act ι σ α).Detached := by
  refine .intro (fun library => (call library).conduct) call.runOn_act ?_
  intro library n hn
  obtain ⟨event, _, rfl⟩ := List.mem_map.mp hn
  rfl

/-- The same call where the library carries a record. -/
def beside (call : Call σ α) : Call (σ × List ε) α := fun library =>
  ⟨(call library.1).answer, ((call library.1).library, library.2), (call library.1).events⟩

theorem covers_beside (call : Call σ α) :
    ((call.beside : Call (σ × List ε) α).act : Act ι _ α).Covers call.act := by
  intro s
  rw [runOn_act, runOn_act]
  rfl

end Call

/-! ## Behaviours -/

/-- A library: how each call of its two construction APIs is answered, and its version string. `β`
is the type of its builders, `γ` that of its configuration objects. -/
structure Behaviour (ι σ β γ : Type) where
  version : Call σ String
  create : String → Properties → Call σ (Except Cause ι)
  builder : Descriptor → Properties → Call σ (Except Cause β)
  buildWith : β → Call σ (Except Cause ι)
  deregister : String → ι → Call σ (Except Cause Unit)
  newConfiguration : Call σ (Except Cause γ)
  configureNamed : γ → String → Properties → Call σ (γ × Except Cause Unit)
  configureDescriptor : γ → Descriptor → Properties → Call σ (γ × Except Cause Unit)
  buildConfigured : γ → Call σ (Except Cause ι)

namespace Behaviour

def modernApi (library : Behaviour ι σ β γ) : ModernApi ι σ β where
  create name properties := (library.create name properties).act
  builder descriptor properties := (library.builder descriptor properties).act
  build builder := (library.buildWith builder).act

def legacyApi (library : Behaviour ι σ β γ) : LegacyApi ι σ γ where
  deregister name current := (library.deregister name current).act
  newConfiguration := library.newConfiguration.act
  configureNamed c name properties := (library.configureNamed c name properties).act
  configureDescriptor c descriptor properties :=
    (library.configureDescriptor c descriptor properties).act
  build c := (library.buildConfigured c).act

/-- The standard strategies on the library. -/
def collaborators (library : Behaviour ι σ β γ) : Collaborators ι σ :=
  ⟨library.version.act, .ofApis library.legacyApi library.modernApi⟩

theorem modernApi_detached (library : Behaviour ι σ β γ) : library.modernApi.Detached :=
  ⟨fun _ _ => Call.detached _, fun _ _ => Call.detached _, fun _ => Call.detached _⟩

theorem legacyApi_detached (library : Behaviour ι σ β γ) : library.legacyApi.Detached :=
  ⟨fun _ _ => Call.detached _, Call.detached _, fun _ _ _ => Call.detached _,
    fun _ _ _ => Call.detached _, fun _ => Call.detached _⟩

/-- **A library only answers**, however it behaves. -/
theorem collaborators_detached (library : Behaviour ι σ β γ) : library.collaborators.Detached :=
  ⟨Call.detached _,
    StrategySet.ofApis_detached library.legacyApi_detached library.modernApi_detached⟩

/-- A library that goes by a script: each build gives what comes next. Deregistering and configuring
succeed. -/
def scripted : Behaviour ι (List (Except Payload (Except Cause ι))) Unit Unit where
  version script := ⟨.ok "4.3.0", script, []⟩
  create _ _ := next
  builder _ _ script := ⟨.ok (.ok ()), script, []⟩
  buildWith _ := next
  deregister _ _ script := ⟨.ok (.ok ()), script, []⟩
  newConfiguration script := ⟨.ok (.ok ()), script, []⟩
  configureNamed _ _ _ script := ⟨.ok ((), .ok ()), script, []⟩
  configureDescriptor _ _ _ script := ⟨.ok ((), .ok ()), script, []⟩
  buildConfigured _ := next
where
  next : Call (List (Except Payload (Except Cause ι))) (Except Cause ι)
    | [] => ⟨.ok (.error "the script is at its end"), [], []⟩
    | answer :: script => ⟨answer, script, []⟩

end Behaviour

/-! ## Chronicles -/

/-- One rebuild: what the strategy was given and what came of it. -/
structure Attempt (ι : Type) where
  params : Params
  /-- The instance installed when the rebuild began. -/
  current : ι
  result : Except Payload (Except RebuildError ι)

/-- The instance that the rebuild gave. -/
def Attempt.built? (attempt : Attempt ι) : Option ι :=
  match attempt.result with
  | .ok (.ok fresh) => some fresh
  | _ => none

theorem built?_of_failure {name : String} {params : Params} {current : ι}
    {result : Except Payload (Except RebuildError ι)} {error : RebuildError}
    (h : rebuildFailure name result = some error) :
    (Attempt.mk params current result).built? = none := by
  rcases result with payload | (cause | fresh)
  · rfl
  · rfl
  · cases h

/-- The strategy, with a chronicle of its rebuilds. -/
def Strategy.chronicled (strategy : Strategy ι σ) : Strategy ι (σ × List (Attempt ι)) where
  capability := strategy.capability
  rebuild params current :=
    (strategy.rebuild params current).recorded fun result => [⟨params, current, result⟩]

/-- The collaborators, with a chronicle of the rebuilds; what the probe says is not written down. -/
def Collaborators.chronicled (c : Collaborators ι σ) : Collaborators ι (σ × List (Attempt ι)) where
  probe := c.probe.recorded fun _ => []
  strategies := ⟨c.strategies.legacy.chronicled, c.strategies.modern.chronicled,
    c.strategies.legacy_capability, c.strategies.modern_capability⟩

theorem Collaborators.select_chronicled (c : Collaborators ι σ) (capability : Capability) :
    c.chronicled.strategies.select capability = (c.strategies.select capability).chronicled := by
  cases capability with
  | legacy => rfl
  | modern => rfl

theorem Collaborators.Detached.chronicled {c : Collaborators ι σ} (hd : c.Detached) :
    c.chronicled.Detached := by
  refine ⟨hd.probe.recorded _, fun capability params current => ?_⟩
  rw [c.select_chronicled]
  exact (hd.select capability params current).recorded _

theorem Collaborators.covers_chronicled (c : Collaborators ι σ) : c.chronicled.Covers c := by
  refine ⟨Act.covers_recorded _ _, fun capability => ?_⟩
  rw [c.select_chronicled]
  exact ⟨rfl, fun params current => Act.covers_recorded _ _⟩

theorem Collaborators.settling_chronicled {c : Collaborators ι σ} (hd : c.Detached)
    (config : HotSwapConfig) (library : σ × List (Attempt ι)) :
    (c.chronicled.settling config library).library.2 = library.2 := by
  cases h : config.forced with
  | some forced => rw [c.chronicled.settling_of_forced h]
  | none =>
    have hprobe : c.chronicled.probe.conduct library = _ := Act.conduct_recorded hd.probe _ library
    rw [(Collaborators.settling_of_ask hd.chronicled h library).2, hprobe]
    exact List.append_nil _

/-- What a rebuild adds to a chronicle: itself, with a result that the strategy gave. -/
def Strategy.Attempted (strategy : Strategy ι σ) (params : Params) (current : ι)
    (result : Except Payload (Except RebuildError ι)) (shown : List (Attempt ι)) : Prop :=
  shown = [⟨params, current, result⟩] ∧
    ∃ library, ((strategy.rebuild params current).conduct library).answer = result

/-- **One rebuild, one attempt.** -/
theorem Strategy.chronicled_shows {strategy : Strategy ι σ} (hd : strategy.Detached) :
    strategy.chronicled.Shows (·.2) strategy.Attempted := by
  intro params current library
  have hc : (strategy.chronicled.rebuild params current).conduct library = _ :=
    Act.conduct_recorded (hd params current) _ library
  rw [hc]
  exact ⟨_, rfl, rfl, library.1, rfl⟩

end LiveSwap
