import LiveSwap.Proofs.Behaviour
import Mathlib.Data.List.Induction

/-!
# Runs over one registry

A run starts from an empty registry with its coordinator and performs operations one after the
other; a panic that an operation ends with is caught, and the run goes on. The history keeps every
operation with its answer.

* **`Operation.runOn_act`** — what an operation answers and what it leaves behind, as a function of
  the host: `Host.perform`.
* **`Run.founded`** — after any operations the host is sound, its registry lists all handles in the
  order of their creation, and the coordinator is there.
* **`Run.covers`** — collaborators that keep a record lead to the same run.
-/

namespace LiveSwap

variable {ι σ ε : Type}

/-! ## Operations -/

/-- What can be done with a registry and its coordinator. -/
inductive Operation (ι σ : Type) where
  | getOrCreate (name : String)
  | register (first : ι) (params : Params)
  /-- Registers on a handle itself. -/
  | registerOn (id : HandleId) (first : ι) (params : Params)
  | refresh (name : String)
  | refreshAll
  /-- Makes use of the instance behind a handle's proxy. -/
  | forward (id : HandleId) (use : ι → Call σ Unit)

inductive Answer where
  | handle (id : HandleId)
  | registration (result : Except RegisterError Proxy)
  | outcome (outcome? : Option Outcome)
  | report (report? : Option Report)
  | forwarded
  /-- There is no such handle, or no proxy to it. -/
  | nothing
  deriving DecidableEq, Repr

/-- The operation on the registry and the coordinator that were created first. -/
def Operation.act (c : Collaborators ι σ) : Operation ι σ → Act ι σ Answer
  | .getOrCreate name => .handle <$> Act.getOrCreate 0 name
  | .register first params => .registration <$> Act.register 0 first params
  | .registerOn id first params => do
    if id < (← get).handles.length then .registration <$> Act.registerOn id first params
    else pure .nothing
  | .refresh name => .outcome <$> c.refresh 0 name
  | .refreshAll => .report <$> c.refreshAll 0
  | .forward id use => do
    match (← get).proxy? id with
    | none => pure .nothing
    | some proxy => do
      Act.forward proxy fun current => (use current).act
      pure .forwarded

/-! ## Founded hosts -/

/-- A host with one registry and its coordinator. -/
structure Host.Founded (s : Host ι σ) (config : HotSwapConfig) : Prop where
  sound : s.Sound
  registry : 0 < s.registries.length
  /-- All handles are listed, in the order of their creation. -/
  listed : (s.registry 0).handles = List.range s.handles.length
  coordinator : ∃ k, s.coordinator? 0 = some k ∧ k.registry = 0 ∧ k.config = config

namespace Host

variable {s s' : Host ι σ} {config : HotSwapConfig}

/-- A host with an empty registry and its coordinator. -/
def founded (config : HotSwapConfig) (library : σ) : Host ι σ :=
  ((do Act.newCoordinator (← Act.newRegistry) config : Act ι σ CoordinatorId).runOn
    (Host.start library)).2

theorem founded_eq (config : HotSwapConfig) (library : σ) :
    (founded config library : Host ι σ) =
      ⟨[], [Registry.empty], [⟨0, config, none⟩], [], library⟩ := rfl

theorem Founded.founded (config : HotSwapConfig) (library : σ) :
    (Host.founded config library : Host ι σ).Founded config := by
  rw [founded_eq]
  have hregistry : ∀ r, (Host.mk (ι := ι) [] [Registry.empty] [⟨0, config, none⟩] [] library).registry r
      = Registry.empty := by
    intro r
    cases r with
    | zero => rfl
    | succ r => rfl
  -- there are no handles, so there is nothing to check about them
  refine ⟨⟨?_, ?_, fun id => rfl, ?_⟩, Nat.one_pos, rfl, _, rfl, rfl, rfl⟩
  · intro r name id hmem
    rw [hregistry] at hmem
    cases hmem
  · intro r
    rw [hregistry]
    exact List.nodup_nil
  · intro id i hi
    cases hi

theorem Founded.find?_handle (hs : s.Founded config) {id : HandleId} (hid : id < s.handles.length) :
    s.find? 0 (s.handle id).name = some id := by
  have hmem : id ∈ (s.registry 0).handles := by
    rw [hs.listed]
    exact List.mem_range.mpr hid
  obtain ⟨entry, hentry, rfl⟩ := List.mem_map.mp hmem
  rw [find?, Registry.lookup_eq_some_iff (hs.sound.names_nodup 0),
    (hs.sound.entry 0 entry.1 entry.2 hentry).2]
  exact hentry

theorem Founded.name_inj (hs : s.Founded config) {id other : HandleId} (hid : id < s.handles.length)
    (hother : other < s.handles.length) (h : (s.handle id).name = (s.handle other).name) :
    id = other := by
  have hfind := hs.find?_handle hid
  rw [h, hs.find?_handle hother] at hfind
  exact (Option.some.inj hfind).symm

/-- Where nothing is created or listed, soundness is all there is to keep. -/
theorem Founded.of_frame (hs : s.Founded config) (hsound : s'.Sound)
    (hlength : s'.handles.length = s.handles.length) (hregistries : s'.registries = s.registries)
    (hcoordinators : s'.coordinators = s.coordinators) : s'.Founded config := by
  have hregistry : s'.registry 0 = s.registry 0 := by
    rw [Host.registry, Host.registry, hregistries]
  refine ⟨hsound, ?_, ?_, ?_⟩
  · rw [hregistries]
    exact hs.registry
  · rw [hregistry, hlength]
    exact hs.listed
  · rw [coordinator?, hcoordinators]
    exact hs.coordinator

theorem Founded.after {α : Type} (hs : s.Founded config) (c : Conduct σ α) :
    (s.after c).Founded config :=
  hs.of_frame (hs.sound.after c) rfl rfl rfl

theorem Founded.addNotice (hs : s.Founded config) (n : Notice) : (s.addNotice n).Founded config :=
  hs.of_frame (hs.sound.addNotice n) rfl rfl rfl

theorem Founded.enter (hs : s.Founded config) (name : String) :
    (s.enter 0 name).2.Founded config := by
  rw [Host.enter]
  cases hfind : s.find? 0 name with
  | some id => exact hs
  | none =>
    obtain ⟨k, hk, hregistry, hconfig⟩ := hs.coordinator
    -- one handle more, and it is the last one listed
    refine ⟨hs.sound.createHandle hfind, ?_, ?_, k, hk, hregistry, hconfig⟩
    · show 0 < (s.registries.modify 0 _).length
      rw [List.length_modify]
      exact hs.registry
    · -- the new handle is listed last
      rw [registry_createHandle_self hs.registry, Registry.handles_push, hs.listed,
        length_createHandle, List.range_succ]

theorem Founded.enter_lt (hs : s.Founded config) (name : String) :
    (s.enter 0 name).1 < (s.enter 0 name).2.handles.length := by
  rw [Host.enter]
  cases hfind : s.find? 0 name with
  | some id => exact (hs.sound.find? hfind).1
  | none =>
    show s.handles.length < (s.createHandle 0 name).handles.length
    rw [length_createHandle]
    exact Nat.lt_succ_self _

theorem Founded.enroll (hs : s.Founded config) {id : HandleId} {params : Params}
    (hname : params.name = (s.handle id).name) (first : ι) :
    (s.enroll id first params).Founded config :=
  hs.of_frame (hs.sound.enroll hname first) (length_enroll ..) rfl rfl

theorem Founded.refreshHandle (hs : s.Founded config) (strategy : Strategy ι σ) (id : HandleId) :
    (s.refreshHandle strategy id).2.Founded config := by
  obtain ⟨hlength, hregistries, hcoordinators⟩ := s.refreshHandle_frame strategy id
  exact hs.of_frame (hs.sound.refreshHandle strategy id) hlength hregistries hcoordinators

theorem Founded.cycle (hs : s.Founded config) (c : Collaborators ι σ) (capability : Capability) :
    (s.cycle c 0 capability).2.Founded config := by
  obtain ⟨hlength, hregistries, hcoordinators⟩ := s.cycle_frame c 0 capability
  exact hs.of_frame (hs.sound.cycle c 0 capability) hlength hregistries hcoordinators

theorem Founded.keepReport (hs : s.Founded config) (report : Report) :
    (s.keepReport 0 report).Founded config := by
  obtain ⟨k, hk, hregistry, hconfig⟩ := hs.coordinator
  refine ⟨hs.sound.congr rfl rfl, hs.registry, hs.listed,
    { k with lastReport := some report }, ?_, hregistry, hconfig⟩
  rw [coordinator?_keepReport, hk]
  rfl

end Host

/-! ## What an operation comes to -/

namespace Host

/-- The answer of a registration on a handle, and the host afterwards. -/
def answerRegistration (s : Host ι σ) (id : HandleId) (first : ι) (params : Params) :
    Except Halt Answer × Host ι σ :=
  match s.registerOn id first params with
  | .error e => (.ok (.registration (.error e)), s)
  | .ok s' => (.ok (.registration (.ok ⟨id⟩)), s')

/-- What an operation answers, and the host afterwards. -/
def perform (s : Host ι σ) (c : Collaborators ι σ) (config : HotSwapConfig) :
    Operation ι σ → Except Halt Answer × Host ι σ
  | .getOrCreate name => (.ok (.handle (s.enter 0 name).1), (s.enter 0 name).2)
  | .register first params =>
    (s.enter 0 params.name).2.answerRegistration (s.enter 0 params.name).1 first params
  | .registerOn id first params =>
    if id < s.handles.length then s.answerRegistration id first params else (.ok .nothing, s)
  | .refresh name =>
    match s.find? 0 name with
    | none => (.ok (.outcome none), s)
    | some id =>
      match (c.settling config s.library).answer with
      | .error payload => (.error (.panic payload), s.after (c.settling config s.library))
      | .ok capability =>
        let (outcome, s') := (s.after (c.settling config s.library)).refreshHandle
          (c.strategies.select capability) id
        (.ok (.outcome (some outcome)), s')
  | .refreshAll =>
    match (c.settling config s.library).answer with
    | .error payload => (.error (.panic payload), s.after (c.settling config s.library))
    | .ok capability =>
      let (report, s') := (s.after (c.settling config s.library)).cycle c 0 capability
      (.ok (.report (some report)), s'.keepReport 0 report)
  | .forward id use =>
    match (s.handle id).installed with
    | none => (.ok .nothing, s)
    | some i =>
      ((((use i.current) s.library).conduct.answer.mapError .panic).map fun _ => .forwarded,
        s.after ((use i.current) s.library).conduct)

end Host

namespace Act

theorem runOn_getOrCreate (s : Host ι σ) (r : RegistryId) (name : String) :
    (getOrCreate r name : Act ι σ HandleId).runOn s =
      (.ok (s.enter r name).1, (s.enter r name).2) := by
  rw [getOrCreate, Effect.runOn_get_bind, Host.enter]
  cases hfind : s.find? r name with
  | some id => rfl
  | none =>
    show (Except.ok (s.enter r name).1, (s.enter r name).2) = _
    rw [Host.enter, hfind]

theorem runOn_map_registerOn (s : Host ι σ) (id : HandleId) (first : ι) (params : Params) :
    (Answer.registration <$> registerOn id first params : Act ι σ Answer).runOn s =
      s.answerRegistration id first params := by
  rw [Effect.runOn_map, registerOn, Effect.runOn_modifyGet, Host.answerRegistration]
  cases s.registerOn id first params with
  | error e => rfl
  | ok s' => rfl

theorem runOn_forward {α : Type} {s : Host ι σ} {id : HandleId} {i : Installed ι}
    (hi : (s.handle id).installed = some i) (hidle : (s.handle id).reloading = false)
    (operation : ι → Act ι σ α) : (forward ⟨id⟩ operation).runOn s = (operation i.current).runOn s := by
  -- nobody is refreshing, so the barrier is passed at once
  have hbarrier : (barrier id : Act ι σ Unit).runOn s = (.ok (), s) := by
    rw [barrier, Effect.runOn_get_bind, hidle]
    rfl
  have hcurrent : (current id : Act ι σ (Option ι)).runOn s = (.ok (some i.current), s) := by
    rw [current, Effect.runOn_get_bind, hi]
    show (barrier id >>= _ : Act ι σ (Option ι)).runOn s = _
    rw [Effect.runOn_bind_ok hbarrier]
    show (Except.ok (s.handle id).current?, s) = _
    rw [Handle.current?, hi]
    rfl
  have hsnapshot : (snapshot ⟨id⟩ : Act ι σ ι).runOn s = (.ok i.current, s) := by
    rw [snapshot, Effect.runOn_bind_ok hcurrent]
    rfl
  rw [forward, Effect.runOn_bind_ok hsnapshot]

end Act

/-- **What an operation comes to.** -/
theorem Operation.runOn_act {c : Collaborators ι σ} (hd : c.Detached) {s : Host ι σ}
    {config : HotSwapConfig} (hs : s.Founded config) (op : Operation ι σ) :
    (op.act c).runOn s = s.perform c config op := by
  obtain ⟨k, hk, hregistry, hconfig⟩ := hs.coordinator
  cases op with
  | getOrCreate name =>
    rw [act, Effect.runOn_map, Act.runOn_getOrCreate]
    rfl
  | register first params =>
    rw [act, Act.register, map_bind, Effect.runOn_bind_ok (Act.runOn_getOrCreate s 0 params.name),
      Act.runOn_map_registerOn]
    rfl
  | registerOn id first params =>
    rw [act, Effect.runOn_get_bind, Host.perform]
    by_cases hid : id < s.handles.length
    · rw [if_pos hid, if_pos hid, Act.runOn_map_registerOn]
    · rw [if_neg hid, if_neg hid, Effect.runOn_pure]
  | refresh name =>
    rw [act, Effect.runOn_map, Collaborators.runOn_refresh hd hs.sound hk, hregistry, hconfig,
      Host.perform, Host.find?]
    cases (s.registry 0).lookup name with
    | none => rfl
    | some id =>
      show (Except.map _ (Prod.fst (match (c.settling config s.library).answer with
        | .error payload => _ | .ok capability => _)), _) =
          match (c.settling config s.library).answer with
          | .error payload => _ | .ok capability => _
      cases (c.settling config s.library).answer with
      | error payload => rfl
      | ok capability => rfl
  | refreshAll =>
    rw [act, Effect.runOn_map, Collaborators.runOn_refreshAll hd hs.sound hk, hregistry, hconfig,
      Host.perform]
    cases (c.settling config s.library).answer with
    | error payload => rfl
    | ok capability => rfl
  | forward id use =>
    rw [act, Effect.runOn_get_bind, Host.perform, Host.proxy?, Handle.isRegistered]
    cases hi : (s.handle id).installed with
    | none => rfl
    | some i =>
      -- no lock is held between operations, so the proxy does not wait
      show (Act.forward ⟨id⟩ _ >>= _ : Act ι σ Answer).runOn s = _
      rw [Effect.runOn_bind, Act.runOn_forward hi (hs.sound.idle id), Call.runOn_act, Conduct.onto]
      show _ = ((((use i.current) s.library).conduct.answer.mapError Halt.panic).map fun _ =>
        Answer.forwarded, s.after ((use i.current) s.library).conduct)
      cases ((use i.current) s.library).conduct.answer with
      | error payload => rfl
      | ok a => rfl

theorem Host.Founded.perform {s : Host ι σ} {config : HotSwapConfig} (hs : s.Founded config)
    (c : Collaborators ι σ) (op : Operation ι σ) : (s.perform c config op).2.Founded config := by
  -- every way to register comes down to the answer of one handle
  have hregistration : ∀ {t : Host ι σ}, t.Founded config → ∀ id first params,
      (t.answerRegistration id first params).2.Founded config := by
    intro t ht id first params
    rw [Host.answerRegistration]
    cases h : t.registerOn id first params with
    | error e => exact ht
    | ok t' =>
      obtain ⟨hname, _, rfl⟩ := Host.registerOn_eq_ok_iff.mp h
      exact ht.enroll hname first
  -- each operation keeps what its parts keep
  cases op with
  | getOrCreate name => exact hs.enter name
  | register first params => exact hregistration (hs.enter params.name) _ _ _
  | registerOn id first params =>
    rw [Host.perform]
    by_cases hid : id < s.handles.length
    · rw [if_pos hid]
      exact hregistration hs _ _ _
    · rw [if_neg hid]
      exact hs
  | refresh name =>
    rw [Host.perform]
    cases s.find? 0 name with
    | none => exact hs
    | some id =>
      cases (c.settling config s.library).answer with
      | error payload => exact hs.after _
      | ok capability => exact (hs.after _).refreshHandle _ _
  | refreshAll =>
    rw [Host.perform]
    cases (c.settling config s.library).answer with
    | error payload => exact hs.after _
    | ok capability => exact ((hs.after _).cycle c capability).keepReport _
  | forward id use =>
    rw [Host.perform]
    cases (s.handle id).installed with
    | none => exact hs
    | some i => exact hs.after _

/-! ## Runs -/

/-- An operation of the past, with its answer or the halt it ended in. -/
structure Past (ι σ : Type) where
  operation : Operation ι σ
  answer : Except Halt Answer

structure Run (ι σ : Type) where
  host : Host ι σ
  /-- What was done so far, oldest first. -/
  history : List (Past ι σ)

namespace Run

/-- Performs one more operation. -/
def step (c : Collaborators ι σ) (run : Run ι σ) (op : Operation ι σ) : Run ι σ :=
  let (answer, host) := (op.act c).runOn run.host
  ⟨host, run.history ++ [⟨op, answer⟩]⟩

/-- The run that performs the operations in order, starting with an empty registry. -/
def of (c : Collaborators ι σ) (config : HotSwapConfig) (library : σ) (ops : List (Operation ι σ)) :
    Run ι σ :=
  ops.foldl (step c) ⟨Host.founded config library, []⟩

variable {c : Collaborators ι σ} {config : HotSwapConfig} {library : σ}

theorem step_history (run : Run ι σ) (op : Operation ι σ) :
    (run.step c op).history = run.history ++ [⟨op, ((op.act c).runOn run.host).1⟩] := rfl

theorem step_host (run : Run ι σ) (op : Operation ι σ) :
    (run.step c op).host = ((op.act c).runOn run.host).2 := rfl

theorem of_snoc (ops : List (Operation ι σ)) (op : Operation ι σ) :
    of c config library (ops ++ [op]) = (of c config library ops).step c op := by
  rw [of, List.foldl_append]
  rfl

theorem history_append (ops later : List (Operation ι σ)) : ∃ more,
    (of c config library (ops ++ later)).history = (of c config library ops).history ++ more := by
  induction later using List.reverseRecOn with
  | nil => exact ⟨[], by rw [List.append_nil, List.append_nil]⟩
  | append_singleton later op ih =>
    obtain ⟨more, hmore⟩ := ih
    refine ⟨more ++ [⟨op, ((op.act c).runOn (of c config library (ops ++ later)).host).1⟩], ?_⟩
    rw [← List.append_assoc, of_snoc, step_history, hmore, List.append_assoc]

/-- **Every run is founded.** -/
theorem founded (hd : c.Detached) (config : HotSwapConfig) (library : σ)
    (ops : List (Operation ι σ)) : (of c config library ops).host.Founded config := by
  induction ops using List.reverseRecOn with
  | nil => exact .founded config library
  | append_singleton ops op ih =>
    rw [of_snoc, step_host, Operation.runOn_act hd ih]
    exact ih.perform c op

end Run

/-- A run with the standard strategies on a library that behaves in some way. -/
def Behaviour.run {β γ : Type} (library : Behaviour ι σ β γ) (config : HotSwapConfig) (start : σ)
    (ops : List (Operation ι σ)) : Run ι σ :=
  Run.of library.collaborators config start ops

/-! ## Runs with a record -/

/-- The same operation where the library carries a record. -/
def Operation.beside : Operation ι σ → Operation ι (σ × List ε)
  | .getOrCreate name => .getOrCreate name
  | .register first params => .register first params
  | .registerOn id first params => .registerOn id first params
  | .refresh name => .refresh name
  | .refreshAll => .refreshAll
  | .forward id use => .forward id fun current => (use current).beside

theorem Operation.covers {c' : Collaborators ι (σ × List ε)} {c : Collaborators ι σ}
    (h : c'.Covers c) (op : Operation ι σ) : (op.beside.act c').Covers (op.act c) := by
  cases op with
  | getOrCreate name => exact (Act.covers_getOrCreate 0 name).map _
  | register first params => exact (Act.covers_register 0 first params).map _
  | registerOn id first params =>
    -- the record does not show in which handles there are, so both sides decide alike
    refine Act.Covers.get_bind fun s => ?_
    show (if id < s.handles.length then _ else _ : Act ι (σ × List ε) Answer).Covers
      (if id < s.handles.length then _ else _)
    by_cases hid : id < s.handles.length
    · rw [if_pos hid, if_pos hid]
      exact (Act.covers_registerOn id first params).map _
    · rw [if_neg hid, if_neg hid]
      exact Act.covers_pure _
  | refresh name => exact (h.refresh 0 name).map _
  | refreshAll => exact (h.refreshAll 0).map _
  | forward id use =>
    refine Act.Covers.get_bind fun s => ?_
    rw [Host.proxy?, Host.proxy?, Host.handle_erase]
    by_cases hr : (s.handle id).isRegistered
    · rw [if_pos hr]
      exact (Act.covers_forward ⟨id⟩ fun current => (use current).covers_beside).bind fun _ =>
        Act.covers_pure _
    · rw [if_neg hr]
      exact Act.covers_pure _

theorem Host.Sound.withRecord {ε : Type} {s : Host ι σ} (hs : s.Sound) (record : List ε) :
    (s.withRecord record).Sound :=
  ⟨hs.entry, hs.names_nodup, hs.idle, hs.params_name⟩

theorem Host.Founded.withRecord {ε : Type} {s : Host ι σ} {config : HotSwapConfig}
    (hs : s.Founded config) (record : List ε) : (s.withRecord record).Founded config :=
  ⟨hs.sound.withRecord record, hs.registry, hs.listed, hs.coordinator⟩

/-- The same past where the library carries a record. -/
def Past.beside (past : Past ι σ) : Past ι (σ × List ε) := ⟨past.operation.beside, past.answer⟩

/-- **A run with a record** is the run without, operation by operation. -/
theorem Run.covers {c' : Collaborators ι (σ × List ε)} {c : Collaborators ι σ} (h : c'.Covers c)
    (config : HotSwapConfig) (library : σ) (ops : List (Operation ι σ)) :
    (Run.of c' config (library, []) (ops.map .beside)).host.erase = (Run.of c config library ops).host ∧
      (Run.of c' config (library, []) (ops.map .beside)).history =
        (Run.of c config library ops).history.map .beside := by
  induction ops using List.reverseRecOn with
  | nil => exact ⟨rfl, rfl⟩
  | append_singleton ops op ih =>
    obtain ⟨hhost, hhistory⟩ := ih
    -- so far the hosts differ in the record alone, and the last operation does not look at it
    rw [List.map_append, List.map_singleton, of_snoc, of_snoc, step_host, step_host, step_history,
      step_history, ← hhost, Operation.covers h op]
    refine ⟨rfl, ?_⟩
    rw [List.map_append, ← hhistory]
    rfl

/-- The rebuilds of a run, oldest first, as the strategies write them down. -/
def Behaviour.attempts {β γ : Type} (library : Behaviour ι σ β γ) (config : HotSwapConfig) (start : σ)
    (ops : List (Operation ι σ)) : List (Attempt ι) :=
  (Run.of library.collaborators.chronicled config (start, []) (ops.map .beside)).host.library.2

end LiveSwap
