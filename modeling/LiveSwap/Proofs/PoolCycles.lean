import LiveSwap.Proofs.PoolLibrary
import LiveSwap.Proofs.Run

/-!
# Cycles over pools

Pools are opened and registered, the library changes its version, and a coordinator runs cycles over
the pools, in any order and while nobody asks for a failure. What every cycle reports can be told
from these operations alone: `Standing` keeps the version and, for each registered pool, the
capabilities of the cycles it went through.

* **`Pooled.refreshHandle`** — a refresh fails exactly for the pools that are stuck: in a legacy
  cycle, after an earlier legacy cycle and a modern one after it.
* **`run_inStanding`** — after any operations the host is in the standing that they lead to.
* **`run_cycle_report`** — so a cycle is clean unless it is a legacy one that finds a stuck pool.
-/

namespace LiveSwap.Pool

/-! ## Operations -/

/-- What is done with the library and with the coordinator in front of it. -/
inductive PoolOperation where
  /-- Opens a pool and registers it. -/
  | register (params : Params)
  | setVersion (version : String)
  | refreshAll

/-- The operation on the registry and the coordinator that were created first. A pool that could not
be opened is not registered. -/
def PoolOperation.act : PoolOperation → PoolAct Unit
  | .register params => do
    match ← onLibrary (·.openPool params) with
    | .error _ => pure ()
    | .ok first => discard (Act.register 0 first params)
  | .setVersion version => onLibrary fun l => ((), l.setVersion version)
  | .refreshAll => discard (collaborators.refreshAll 0)

/-- The host after operations, starting with a fresh library and an empty registry. -/
def run (config : HotSwapConfig) (version : String) (ops : List PoolOperation) : PoolHost :=
  ops.foldl (fun s op => (op.act.runOn s).2) (Host.founded config (.start version))

theorem run_snoc (config : HotSwapConfig) (version : String) (ops : List PoolOperation)
    (op : PoolOperation) :
    run config version (ops ++ [op]) = (op.act.runOn (run config version ops)).2 := by
  rw [run, List.foldl_append]
  rfl

/-- The parameters that pools are opened with. -/
def offered (ops : List PoolOperation) : List Params :=
  ops.filterMap fun
    | .register params => some params
    | _ => none

theorem offered_append (ops later : List PoolOperation) :
    offered (ops ++ later) = offered ops ++ offered later :=
  List.filterMap_append

/-- Every pool can be opened, and no two share a key of the library. -/
structure Proper (ops : List PoolOperation) : Prop where
  valid : ∀ params ∈ offered ops, ∃ url, urlOf params = .ok url
  keys_nodup : ((offered ops).map keyOf).Nodup

theorem Proper.of_append {ops later : List PoolOperation} (h : Proper (ops ++ later)) :
    Proper ops := by
  obtain ⟨hvalid, hkeys⟩ := h
  rw [offered_append] at hvalid hkeys
  rw [List.map_append] at hkeys
  exact ⟨fun params hmem => hvalid params (List.mem_append_left _ hmem),
    (List.nodup_append.mp hkeys).1⟩

/-! ## The standing -/

/-- A registered pool: its parameters, and the capabilities of the cycles it went through. -/
structure Tenant where
  params : Params
  cycles : List Capability

namespace Tenant

/-- The pool after one more cycle. -/
def advance (t : Tenant) (capability : Capability) : Tenant :=
  { t with cycles := t.cycles ++ [capability] }

/-- The pool cannot be rebuilt: the library still knows a pool that was replaced by a modern
rebuild after a legacy one. -/
def Stuck (t : Tenant) (capability : Capability) : Prop :=
  capability = .legacy ∧ [.legacy, .modern].Sublist t.cycles

instance (t : Tenant) (capability : Capability) : Decidable (t.Stuck capability) :=
  inferInstanceAs (Decidable (_ ∧ _))

/-- Why a rebuild of the pool fails, if it does. -/
def refusal (t : Tenant) : RebuildError :=
  .construction t.params.name .legacy (LibraryError.keyTaken (keyOf t.params)).message

/-- What a cycle makes of the pool. -/
def verdict (t : Tenant) (capability : Capability) : Verdict :=
  (t.params.name, if t.Stuck capability then .failed t.refusal else .swapped)

end Tenant

structure Standing where
  version : String
  /-- The registered pools, in the order of their registration. -/
  tenants : List Tenant

namespace Standing

/-- The capability that the next cycle has. -/
def capability (standing : Standing) (config : HotSwapConfig) : Capability :=
  config.forced.getD (.ofReport standing.version)

/-- The standing after one more operation; a name is registered once. -/
def step (config : HotSwapConfig) (standing : Standing) : PoolOperation → Standing
  | .register params =>
    if params.name ∈ standing.tenants.map (·.params.name) then standing
    else { standing with tenants := standing.tenants ++ [⟨params, []⟩] }
  | .setVersion version => { standing with version }
  | .refreshAll =>
    { standing with tenants := standing.tenants.map (·.advance (standing.capability config)) }

/-- The standing after operations. -/
def of (config : HotSwapConfig) (version : String) (ops : List PoolOperation) : Standing :=
  ops.foldl (step config) ⟨version, []⟩

theorem of_snoc (config : HotSwapConfig) (version : String) (ops : List PoolOperation)
    (op : PoolOperation) : of config version (ops ++ [op]) = (of config version ops).step config op := by
  rw [of, List.foldl_append]
  rfl

/-- What a report says of the next cycle: who is rebuilt, who is refused, and that nobody is left
out. -/
structure Reported (standing : Standing) (config : HotSwapConfig) (report : Report) : Prop where
  capability : report.capability = standing.capability config
  refreshed : report.refreshed =
    (standing.tenants.filter fun t => ¬ t.Stuck (standing.capability config)).map (·.params.name)
  failed : report.failed =
    (standing.tenants.filter fun t => t.Stuck (standing.capability config)).map fun t =>
      (t.params.name, t.refusal)
  skipped : report.skipped = []
  /-- The cycle is clean unless it is a legacy one and some pool had a modern cycle after a legacy
  one. -/
  isClean_iff : report.isClean = true ↔ standing.capability config = .modern ∨
    ∀ t ∈ standing.tenants, ¬ [Capability.legacy, .modern].Sublist t.cycles

theorem filterMap_verdicts (tenants : List Tenant) (capability : Capability) :
    (tenants.map (·.verdict capability)).filterMap Verdict.swapped? =
        (tenants.filter fun t => ¬ t.Stuck capability).map (·.params.name) ∧
      (tenants.map (·.verdict capability)).filterMap Verdict.failed? =
        (tenants.filter fun t => t.Stuck capability).map (fun t => (t.params.name, t.refusal)) ∧
      (tenants.map (·.verdict capability)).filterMap Verdict.skipped? = [] := by
  induction tenants with
  | nil => exact ⟨rfl, rfl, rfl⟩
  | cons t tenants ih =>
    obtain ⟨hswapped, hfailed, hskipped⟩ := ih
    rw [List.map_cons]
    -- a tenant is either refused or refreshed, and never skipped
    by_cases h : t.Stuck capability
    · have hverdict : t.verdict capability = (t.params.name, .failed t.refusal) := by
        rw [Tenant.verdict, if_pos h]
      rw [hverdict, List.filter_cons_of_neg (by simpa using h), List.filter_cons_of_pos (by simpa using h)]
      exact ⟨hswapped, congrArg (List.cons _) hfailed, hskipped⟩
    · have hverdict : t.verdict capability = (t.params.name, .swapped) := by
        rw [Tenant.verdict, if_neg h]
      rw [hverdict, List.filter_cons_of_pos (by simpa using h), List.filter_cons_of_neg (by simpa using h)]
      exact ⟨congrArg (List.cons _) hswapped, hfailed, hskipped⟩

/-- The verdicts on the registered pools make up the report of the next cycle. -/
theorem reported_of_verdicts (standing : Standing) (config : HotSwapConfig) :
    standing.Reported config ((Report.start (standing.capability config)).recordAll
      (standing.tenants.map (·.verdict (standing.capability config)))) := by
  obtain ⟨hswapped, hfailed, hskipped⟩ :=
    filterMap_verdicts standing.tenants (standing.capability config)
  rw [Report.recordAll_eq, hswapped, hfailed, hskipped]
  refine ⟨rfl, rfl, rfl, rfl, ?_⟩
  show List.isEmpty ([] ++ List.map _ (standing.tenants.filter _)) = true ↔ _
  -- nothing failed: no tenant is stuck, and only a legacy cycle can find one stuck
  rw [List.nil_append, List.isEmpty_iff, List.map_eq_nil_iff, List.filter_eq_nil_iff]
  constructor
  · intro h
    cases hcapability : standing.capability config with
    | modern => exact Or.inl rfl
    | legacy =>
      right
      intro t ht hcycles
      exact h t ht (decide_eq_true ⟨hcapability, hcycles⟩)
  · rintro (hmodern | h) t ht hstuck
    · obtain ⟨hlegacy, _⟩ := of_decide_eq_true hstuck
      cases hmodern.symm.trans hlegacy
    · exact h t ht (of_decide_eq_true hstuck).2

end Standing

/-! ## One pool -/

/-- What holds of a registered pool and the instance that is installed for it. -/
structure Tenant.Served (t : Tenant) (l : Library) (current : Pool) : Prop where
  valid : ∃ url, urlOf t.params = .ok url
  serial_lt : current.serial < l.nextSerial
  tenure : l.tenure (keyOf t.params) current.serial = .after t.cycles
  own : ∀ key, l.holder? key = some current.serial → key = keyOf t.params

namespace Tenant.Served

variable {t : Tenant} {l l' : Library} {current : Pool}

/-- The library may do what it likes with the keys of others. -/
theorem mono (h : t.Served l current) (hserial : l.nextSerial ≤ l'.nextSerial)
    (hkey : l'.holder? (keyOf t.params) = l.holder? (keyOf t.params))
    (hown : ∀ key, l'.holder? key = some current.serial → l.holder? key = some current.serial) :
    t.Served l' current := by
  refine ⟨h.valid, Nat.lt_of_lt_of_le h.serial_lt hserial, ?_, fun key hholder =>
    h.own key (hown key hholder)⟩
  rw [Library.tenure, hkey]
  exact h.tenure

theorem of_rebuilt (h : t.Served l current) {key : String} (hr : l.Rebuilt l' key)
    (hkey : keyOf t.params ≠ key) : t.Served l' current := by
  apply h.mono (hr.nextSerial ▸ Nat.le_succ _)
  · rcases hr.holder? (keyOf t.params) with hsame | ⟨heq, _⟩
    · exact hsame
    · exact absurd heq hkey
  · intro other hholder
    rcases hr.holder? other with hsame | ⟨_, hfresh⟩
    · rw [← hsame, hholder]
    · -- the serial that was given out last is not the one of this pool
      rw [hfresh, Option.some.injEq] at hholder
      exact absurd hholder.symm (Nat.ne_of_lt h.serial_lt)

theorem stuck_iff (h : t.Served l current) (capability : Capability) : t.Stuck capability ↔
    capability = .legacy ∧ l.tenure (keyOf t.params) current.serial = .stale := by
  rw [h.tenure, Tenure.after_eq_stale_iff]
  rfl

theorem rebuild_of_stuck (h : t.Served l current) (hl : l.Sound) (hf : l.failing = [])
    {capability : Capability} (hstuck : t.Stuck capability) (url : String) :
    (l.rebuild capability (keyOf t.params) url t.params.properties current).1 =
        .error (.keyTaken (keyOf t.params)) ∧
      (t.advance capability).Served
        (l.rebuild capability (keyOf t.params) url t.params.properties current).2 current := by
  obtain ⟨rfl, hstale⟩ := (h.stuck_iff capability).mp hstuck
  obtain ⟨hresult, htenure⟩ := Library.rebuild_of_stale hl hf hstale url t.params.properties
  have hr := Library.rebuild_rebuilt hl hf .legacy url t.params.properties h.own
  refine ⟨hresult, h.valid, hr.nextSerial ▸ Nat.lt_succ_of_lt h.serial_lt, ?_, fun key hholder => ?_⟩
  · show _ = Tenure.after (t.cycles ++ [.legacy])
    rw [Tenure.after_snoc, ← h.tenure, hstale]
    exact htenure
  · rcases hr.holder? key with hsame | ⟨heq, _⟩
    · exact h.own key (hsame ▸ hholder)
    · exact heq

theorem rebuild_of_not_stuck (h : t.Served l current) (hl : l.Sound) (hf : l.failing = [])
    {capability : Capability} (hstuck : ¬ t.Stuck capability) (url : String) :
    ∃ fresh, (l.rebuild capability (keyOf t.params) url t.params.properties current).1 = .ok fresh ∧
      (t.advance capability).Served
        (l.rebuild capability (keyOf t.params) url t.params.properties current).2 fresh := by
  -- being stuck is a matter of the key alone, as the library sees it
  rw [h.stuck_iff] at hstuck
  obtain ⟨hresult, htenure⟩ :=
    Library.rebuild_of_not_stale hl hf hstuck url t.params.properties
  have hr := Library.rebuild_rebuilt hl hf capability url t.params.properties h.own
  refine ⟨_, hresult, h.valid, hr.nextSerial ▸ Nat.lt_succ_self _, ?_, fun key hholder => ?_⟩
  · show _ = Tenure.after (t.cycles ++ [capability])
    rw [Tenure.after_snoc, ← h.tenure]
    exact htenure
  · rcases hr.holder? key with hsame | ⟨heq, _⟩
    · -- before the rebuild nobody held a key under the fresh serial
      rw [hsame] at hholder
      exact absurd (hl.holder_lt key _ hholder) (Nat.lt_irrefl _)
    · exact heq

end Tenant.Served

/-! ## Hosts over pools -/

/-- Every handle of the host is registered for a pool; `tenant` tells which one, and in the library
nobody but these pools holds a key. -/
structure Pooled (s : PoolHost) (config : HotSwapConfig) (version : String)
    (tenant : HandleId → Tenant) : Prop where
  founded : s.Founded config
  sound : s.library.Sound
  failing : s.library.failing = []
  version_eq : s.library.version = version
  served : ∀ id < s.handles.length, ∃ current,
    (s.handle id).installed = some ⟨(tenant id).params, current⟩ ∧
      (tenant id).Served s.library current
  key_inj : ∀ id < s.handles.length, ∀ other < s.handles.length,
    keyOf (tenant id).params = keyOf (tenant other).params → id = other
  held : ∀ key serial, s.library.holder? key = some serial →
    ∃ id < s.handles.length, keyOf (tenant id).params = key

namespace Pooled

variable {s s' : PoolHost} {config : HotSwapConfig} {version : String} {tenant : HandleId → Tenant}

theorem founded_start (config : HotSwapConfig) (version : String) (tenant : HandleId → Tenant) :
    Pooled (Host.founded config (.start version)) config version tenant :=
  ⟨.founded config _, .start version, rfl, rfl, nofun, nofun, nofun⟩

theorem name_eq (h : Pooled s config version tenant) {id : HandleId} (hid : id < s.handles.length) :
    (s.handle id).name = (tenant id).params.name := by
  obtain ⟨current, hi, _⟩ := h.served id hid
  exact (h.founded.sound.params_name id _ hi).symm

/-- Notices and reports are nothing to the pools. -/
theorem of_frame (h : Pooled s config version tenant) (hfounded : s'.Founded config)
    (hhandles : s'.handles = s.handles) (hlibrary : s'.library = s.library) :
    Pooled s' config version tenant := by
  -- everything is about the handles and the library, which are the same
  have hhandle : ∀ id, s'.handle id = s.handle id := by
    intro id
    rw [Host.handle, Host.handle, hhandles]
  refine ⟨hfounded, ?_, ?_, ?_, ?_, ?_, ?_⟩
  · rw [hlibrary]
    exact h.sound
  · rw [hlibrary]
    exact h.failing
  · rw [hlibrary]
    exact h.version_eq
  · intro id hid
    rw [hhandle, hlibrary]
    exact h.served id (hhandles ▸ hid)
  · rw [hhandles]
    exact h.key_inj
  · rw [hhandles, hlibrary]
    exact h.held

theorem of_tenant (h : Pooled s config version tenant) {tenant' : HandleId → Tenant}
    (htenant : ∀ id < s.handles.length, tenant' id = tenant id) :
    Pooled s config version tenant' := by
  refine ⟨h.founded, h.sound, h.failing, h.version_eq, ?_, ?_, ?_⟩
  · intro id hid
    rw [htenant id hid]
    exact h.served id hid
  · intro id hid other hother
    rw [htenant id hid, htenant other hother]
    exact h.key_inj id hid other hother
  · intro key serial hholder
    obtain ⟨id, hid, hkey⟩ := h.held key serial hholder
    exact ⟨id, hid, by rw [htenant id hid, hkey]⟩

theorem of_library (h : Pooled s config version tenant) {l : Library} (hl : l.Sound)
    (hfailing : l.failing = []) (hserial : s.library.nextSerial ≤ l.nextSerial)
    (hholder : ∀ key, l.holder? key = s.library.holder? key) :
    Pooled { s with library := l } config l.version tenant := by
  refine ⟨h.founded.of_frame (h.founded.sound.congr rfl rfl) rfl rfl rfl, hl, hfailing, rfl, ?_,
    h.key_inj, ?_⟩
  · intro id hid
    obtain ⟨current, hi, hserved⟩ := h.served id hid
    exact ⟨current, hi, hserved.mono hserial (hholder _) fun key => (hholder key).symm.trans⟩
  · intro key serial hkey
    exact h.held key serial (hholder key ▸ hkey)

/-! ## Cycles -/

theorem of_rebuilt (h : Pooled s config version tenant) {id : HandleId}
    (hid : id < s.handles.length) {capability : Capability} (current : Pool)
    (hfounded : s'.Founded config) (hlength : s'.handles.length = s.handles.length)
    (hothers : ∀ other ≠ id, s'.handle other = s.handle other)
    (hr : s.library.Rebuilt s'.library (keyOf (tenant id).params))
    (hi : (s'.handle id).installed = some ⟨(tenant id).params, current⟩)
    (hserved : ((tenant id).advance capability).Served s'.library current) :
    Pooled s' config version (Function.update tenant id ((tenant id).advance capability)) := by
  -- the tenant keeps its parameters, so keys stay apart
  have hparams : ∀ other,
      (Function.update tenant id ((tenant id).advance capability) other).params =
        (tenant other).params := by
    intro other
    by_cases hother : other = id
    · rw [hother, Function.update_self]
      rfl
    · rw [Function.update_of_ne hother]
  refine ⟨hfounded, hr.sound, hr.failing.trans h.failing, hr.version.trans h.version_eq, ?_, ?_, ?_⟩
  · intro other hlt
    rw [hlength] at hlt
    by_cases hother : other = id
    · rw [hother, Function.update_self]
      exact ⟨current, hi, hserved⟩
    · obtain ⟨current', hi', hserved'⟩ := h.served other hlt
      rw [Function.update_of_ne hother, hothers other hother]
      refine ⟨current', hi', hserved'.of_rebuilt hr fun hkey => ?_⟩
      exact hother (h.key_inj other hlt id hid hkey)
  · intro first hfirst second hsecond hkey
    rw [hlength] at hfirst hsecond
    rw [hparams, hparams] at hkey
    exact h.key_inj first hfirst second hsecond hkey
  -- the key is held as before, or it is the rebuilt pool's own
  · intro key serial hholder
    rcases hr.holder? key with hsame | ⟨rfl, _⟩
    · obtain ⟨other, hlt, hkey⟩ := h.held key serial (hsame ▸ hholder)
      exact ⟨other, hlength ▸ hlt, by rw [hparams, hkey]⟩
    · exact ⟨id, hlength ▸ hid, by rw [hparams]⟩

/-- **Refreshing one pool.** It fails exactly if the pool is stuck. -/
theorem refreshHandle (h : Pooled s config version tenant) {id : HandleId}
    (hid : id < s.handles.length) (capability : Capability) :
    ((s.handle id).name,
        (s.refreshHandle (collaborators.strategies.select capability) id).1) =
        (tenant id).verdict capability ∧
      Pooled (s.refreshHandle (collaborators.strategies.select capability) id).2 config version
        (Function.update tenant id ((tenant id).advance capability)) := by
  obtain ⟨current, hi, hserved⟩ := h.served id hid
  obtain ⟨url, hurl⟩ := hserved.valid
  obtain ⟨notices, hconduct⟩ := conduct_rebuild hurl capability current s.library
  have hr := Library.rebuild_rebuilt h.sound h.failing capability url (tenant id).params.properties
    hserved.own
  have hfounded := h.founded.refreshHandle (collaborators.strategies.select capability) id
  have hlength := (s.refreshHandle_frame (collaborators.strategies.select capability) id).1
  have hothers := fun other (hother : other ≠ id) =>
    s.refreshHandle_handle_of_ne (collaborators.strategies.select capability) hother
  rw [h.name_eq hid, Tenant.verdict]
  by_cases hstuck : (tenant id).Stuck capability
  · -- the library refuses, and the handle keeps its pool
    obtain ⟨hresult, hserved'⟩ := hserved.rebuild_of_stuck h.sound h.failing hstuck url
    have hfailure : rebuildFailure (s.handle id).name
        (((collaborators.strategies.select capability).rebuild (tenant id).params current).conduct
          s.library).answer = some (tenant id).refusal := by
      rw [hconduct, hresult, hstuck.1]
      rfl
    rw [Host.refreshHandle_failed hi hfailure] at hfounded hlength hothers ⊢
    refine ⟨by rw [if_pos hstuck], h.of_rebuilt hid current hfounded hlength hothers ?_ hi ?_⟩
    · show s.library.Rebuilt (Act.conduct _ s.library).library _
      rw [hconduct]
      exact hr
    · show ((tenant id).advance capability).Served (Act.conduct _ s.library).library current
      rw [hconduct]
      exact hserved'
  · -- the handle takes the fresh pool
    obtain ⟨fresh, hresult, hserved'⟩ :=
      hserved.rebuild_of_not_stuck h.sound h.failing hstuck url
    have hanswer : (((collaborators.strategies.select capability).rebuild (tenant id).params
        current).conduct s.library).answer = .ok (.ok fresh) := by
      rw [hconduct, hresult]
      rfl
    rw [Host.refreshHandle_swapped hi hanswer] at hfounded hlength hothers ⊢
    refine ⟨by rw [if_neg hstuck], h.of_rebuilt hid fresh hfounded hlength hothers ?_ ?_ ?_⟩
    · show s.library.Rebuilt (Act.conduct _ s.library).library _
      rw [hconduct]
      exact hr
    · show ((s.updateHandle id (·.swap fresh)).handle id).installed = _
      rw [Host.handle_updateHandle_self hid, Handle.swap_of_installed hi]
    · show ((tenant id).advance capability).Served (Act.conduct _ s.library).library fresh
      rw [hconduct]
      exact hserved'

/-- **Refreshing several pools.** Each has its own verdict. -/
theorem refreshHandles (h : Pooled s config version tenant) (capability : Capability)
    {ids : List HandleId} (hnodup : ids.Nodup) (hids : ∀ id ∈ ids, id < s.handles.length) :
    (s.refreshHandles (collaborators.strategies.select capability) ids).1 =
        ids.map (fun id => (tenant id).verdict capability) ∧
      Pooled (s.refreshHandles (collaborators.strategies.select capability) ids).2 config version
        (fun id => if id ∈ ids then (tenant id).advance capability else tenant id) := by
  induction ids generalizing s tenant with
  | nil => exact ⟨rfl, h⟩
  | cons id ids ih =>
    obtain ⟨hid, hnodup'⟩ := List.nodup_cons.mp hnodup
    obtain ⟨hverdict, hpooled⟩ := h.refreshHandle (hids id List.mem_cons_self) capability
    have hlength := (s.refreshHandle_frame (collaborators.strategies.select capability) id).1
    obtain ⟨hverdicts, hpooled'⟩ := ih hpooled hnodup' fun other hother =>
      hlength ▸ hids other (List.mem_cons_of_mem id hother)
    rw [Host.refreshHandles_cons, hverdict, hverdicts]
    constructor
    · -- the other pools are judged as they were before the first one was refreshed
      refine congrArg (List.cons _) (List.map_congr_left fun other hother => ?_)
      rw [Function.update_of_ne (fun heq : other = id => hid (heq ▸ hother))]
    · apply hpooled'.of_tenant
      intro other _
      by_cases hother : other = id
      · rw [hother, if_pos List.mem_cons_self, if_neg hid, Function.update_self]
      · simp only [List.mem_cons, hother, false_or, Function.update_of_ne hother]

/-- **A cycle over pools** goes by the verdicts on them, in the order of registration. -/
theorem cycle (h : Pooled s config version tenant) (capability : Capability) :
    (s.cycle collaborators 0 capability).1 = (Report.start capability).recordAll
        (((List.range s.handles.length).map tenant).map (·.verdict capability)) ∧
      Pooled (s.cycle collaborators 0 capability).2 config version
        (fun id => (tenant id).advance capability) := by
  have hstart : Pooled (s.addNotice (.cycleStarted capability (s.registry 0).handles.length)) config
      version tenant := h.of_frame (h.founded.addNotice _) rfl rfl
  -- the notices around the visits change nothing
  have hlisted : ∀ id, id ∈ (s.registry 0).handles ↔ id < s.handles.length := by
    intro id
    rw [h.founded.listed, List.mem_range]
  obtain ⟨hverdicts, hpooled⟩ := hstart.refreshHandles capability
    (h.founded.sound.handles_nodup 0) fun id => (hlisted id).mp
  have hlength := (s.cycle_frame collaborators 0 capability).1
  constructor
  · show (Report.start capability).recordAll (Host.refreshHandles _ _ _).1 = _
    rw [hverdicts, h.founded.listed, List.map_map]
    rfl
  · refine (hpooled.of_tenant fun id hid => ?_).of_frame (h.founded.cycle _ _) rfl rfl
    exact (if_pos ((hlisted id).mpr (Nat.lt_of_lt_of_eq hid hlength))).symm

/-- **Every cycle over pools returns its report**, and all pools have one more cycle behind them. -/
theorem refreshAll (h : Pooled s config version tenant) {capability : Capability}
    (hcapability : config.forced.getD (.ofReport version) = capability) : ∃ s',
    (collaborators.refreshAll 0).runOn s = (.ok (some ((Report.start capability).recordAll
        (((List.range s.handles.length).map tenant).map (·.verdict capability)))), s') ∧
      s'.handles.length = s.handles.length ∧
      Pooled s' config version (fun id => (tenant id).advance capability) := by
  obtain ⟨k, hk, hregistry, hconfig⟩ := h.founded.coordinator
  obtain ⟨notices, hsettling⟩ := settling_eq config s.library
  rw [h.version_eq, hcapability] at hsettling
  have hrun := Collaborators.runOn_refreshAll collaborators_detached h.founded.sound hk
  rw [hregistry, hconfig, hsettling] at hrun
  -- asking for the version leaves the library as it was
  have hsettled : Pooled (s.after ⟨(.ok capability : Except Payload Capability), s.library, notices⟩)
      config version tenant := h.of_frame (h.founded.after _) rfl rfl
  obtain ⟨hreport, hpooled⟩ := hsettled.cycle capability
  exact ⟨_, hrun.trans (congrArg (fun report => (Except.ok (some report), _)) hreport),
    (Host.cycle_frame _ collaborators 0 capability).1,
    hpooled.of_frame (hpooled.founded.keepReport _) rfl rfl⟩

/-! ## Opening and registering -/

theorem register_host (h : Pooled s config version tenant) (first : Pool) (params : Params) :
    ((discard (Act.register 0 first params)).runOn s).2 =
      ((s.enter 0 params.name).2.answerRegistration (s.enter 0 params.name).1 first params).2 := by
  have hrun := Operation.runOn_act collaborators_detached h.founded (.register first params)
  rw [Operation.act, Effect.runOn_map] at hrun
  rw [Effect.runOn_discard]
  exact congrArg Prod.snd hrun

theorem register_of_found (h : Pooled s config version tenant) {params : Params} {id : HandleId}
    (hfind : s.find? 0 params.name = some id) (first : Pool) :
    ((discard (Act.register 0 first params)).runOn s).2 = s := by
  obtain ⟨current, hi, _⟩ := h.served id (h.founded.sound.find? hfind).1
  rw [h.register_host, Host.enter, hfind, Host.answerRegistration]
  cases hregister : s.registerOn id first params with
  | error e => rfl
  | ok s' =>
    obtain ⟨_, hnone, _⟩ := Host.registerOn_eq_ok_iff.mp hregister
    rw [hi] at hnone
    cases hnone

theorem register_of_new (h : Pooled s config version tenant) {params : Params}
    (hfind : s.find? 0 params.name = none) (first : Pool) :
    ((discard (Act.register 0 first params)).runOn s).2 =
      (s.createHandle 0 params.name).enroll s.handles.length first params := by
  have hcreated := s.handle_createHandle_self 0 params.name
  have hregister : (s.createHandle 0 params.name).registerOn s.handles.length first params =
      .ok ((s.createHandle 0 params.name).enroll s.handles.length first params) := by
    rw [Host.registerOn_eq_ok_iff, hcreated]
    exact ⟨rfl, rfl, rfl⟩
  rw [h.register_host, Host.enter, hfind, Host.answerRegistration, hregister]

/-- **A new pool** has no cycle behind it, and its key is free. -/
theorem enroll (h : Pooled s config version tenant) {params : Params} {first : Pool}
    (hfind : s.find? 0 params.name = none) (hvalid : ∃ url, urlOf params = .ok url)
    (hkey : ∀ id < s.handles.length, keyOf (tenant id).params ≠ keyOf params)
    (hserial : first.serial < s.library.nextSerial)
    (hunheld : ∀ key, s.library.holder? key ≠ some first.serial) :
    Pooled ((s.createHandle 0 params.name).enroll s.handles.length first params) config version
      (Function.update tenant s.handles.length ⟨params, []⟩) := by
  have hcreated : (s.createHandle 0 params.name).Founded config := by
    have hentered := h.founded.enter params.name
    rwa [Host.enter, hfind] at hentered
  have hself := s.handle_createHandle_self 0 params.name
  have hlength : ((s.createHandle 0 params.name).enroll s.handles.length first
      params).handles.length = s.handles.length + 1 := by
    rw [Host.length_enroll, Host.length_createHandle]
  have hold : ∀ id < s.handles.length, ((s.createHandle 0 params.name).enroll s.handles.length first
      params).handle id = s.handle id := by
    intro id hid
    exact (Host.handle_updateHandle_of_ne _ (Nat.ne_of_lt hid) _).trans
      (Host.handle_createHandle_of_lt hid)
  have hnew : (((s.createHandle 0 params.name).enroll s.handles.length first params).handle
      s.handles.length).installed = some ⟨params, first⟩ := by
    have hlt : s.handles.length < (s.createHandle 0 params.name).handles.length := by
      rw [Host.length_createHandle]
      exact Nat.lt_succ_self _
    exact congrArg Handle.installed (Host.handle_updateHandle_self hlt _)
  have hfree : s.library.holder? (keyOf params) = none := by
    cases hholder : s.library.holder? (keyOf params) with
    | none => rfl
    | some serial =>
      obtain ⟨id, hid, hheld⟩ := h.held _ _ hholder
      exact absurd hheld (hkey id hid)
  have htenant : ∀ id < s.handles.length,
      Function.update tenant s.handles.length ⟨params, []⟩ id = tenant id :=
    fun id hid => Function.update_of_ne (Nat.ne_of_lt hid) _ _
  have hlast : Function.update tenant s.handles.length ⟨params, []⟩ s.handles.length =
      ⟨params, []⟩ := Function.update_self ..
  refine ⟨hcreated.enroll (congrArg Handle.name hself).symm first, h.sound, h.failing, h.version_eq,
    ?_, ?_, ?_⟩
  · intro id hid
    rw [hlength] at hid
    -- a place is an old one or the new one
    rcases Nat.lt_succ_iff_lt_or_eq.mp hid with hid | rfl
    · rw [hold id hid, htenant id hid]
      exact h.served id hid
    · rw [hlast]
      refine ⟨first, hnew, hvalid, hserial, ?_, fun key hholder => absurd hholder (hunheld key)⟩
      show s.library.tenure _ _ = _
      rw [Library.tenure, hfree]
      rfl
  · intro id hid other hother hsame
    rw [hlength] at hid hother
    rcases Nat.lt_succ_iff_lt_or_eq.mp hid with hid | rfl
    · rw [htenant id hid] at hsame
      rcases Nat.lt_succ_iff_lt_or_eq.mp hother with hother | rfl
      · rw [htenant other hother] at hsame
        exact h.key_inj id hid other hother hsame
      · rw [hlast] at hsame
        exact absurd hsame (hkey id hid)
    · rw [hlast] at hsame
      rcases Nat.lt_succ_iff_lt_or_eq.mp hother with hother | rfl
      · rw [htenant other hother] at hsame
        exact absurd hsame.symm (hkey other hother)
      · rfl
  · intro key serial hholder
    obtain ⟨id, hid, hheld⟩ := h.held key serial hholder
    exact ⟨id, hlength ▸ Nat.lt_succ_of_lt hid, by rw [htenant id hid, hheld]⟩

end Pooled

/-! ## Runs -/

/-- The host is in a standing: its handles are registered for the pools of the standing, in order. -/
def InStanding (s : PoolHost) (config : HotSwapConfig) (standing : Standing) : Prop :=
  ∃ tenant, Pooled s config standing.version tenant ∧
    standing.tenants = (List.range s.handles.length).map tenant

namespace InStanding

variable {s : PoolHost} {config : HotSwapConfig} {standing : Standing}

theorem founded (config : HotSwapConfig) (version : String) :
    InStanding (Host.founded config (.start version)) config ⟨version, []⟩ :=
  ⟨fun _ => ⟨.named "" .empty, []⟩, .founded_start .., rfl⟩

theorem names_eq (h : InStanding s config standing) :
    (s.registry 0).names = standing.tenants.map (·.params.name) := by
  obtain ⟨tenant, hpooled, htenants⟩ := h
  rw [htenants, ← hpooled.founded.sound.map_handle_name, hpooled.founded.listed, List.map_map]
  apply List.map_congr_left
  intro id hid
  exact hpooled.name_eq (List.mem_range.mp hid)

theorem setVersion (h : InStanding s config standing) (version : String) :
    InStanding ((PoolOperation.setVersion version).act.runOn s).2 config
      (standing.step config (.setVersion version)) := by
  obtain ⟨tenant, hpooled, htenants⟩ := h
  exact ⟨tenant, hpooled.of_library (hpooled.sound.setVersion version) hpooled.failing
    (Nat.le_refl _) fun _ => rfl, htenants⟩

/-- **A cycle** gives the report that the standing tells, and leads to the next standing. -/
theorem refreshAll (h : InStanding s config standing) : ∃ report s',
    (collaborators.refreshAll 0).runOn s = (.ok (some report), s') ∧
      standing.Reported config report ∧ InStanding s' config (standing.step config .refreshAll) := by
  obtain ⟨tenant, hpooled, htenants⟩ := h
  obtain ⟨s', hrun, hlength, hpooled'⟩ :=
    hpooled.refreshAll (show _ = standing.capability config from rfl)
  rw [← htenants] at hrun
  refine ⟨_, s', hrun, standing.reported_of_verdicts config, _, hpooled', ?_⟩
  show standing.tenants.map _ = _
  rw [htenants, List.map_map, hlength]
  rfl

/-- **Opening and registering** adds a pool to the standing, unless the name is taken. -/
theorem register (h : InStanding s config standing) {params : Params}
    (hvalid : ∃ url, urlOf params = .ok url)
    (hkey : ∀ t ∈ standing.tenants, keyOf t.params ≠ keyOf params) :
    InStanding ((PoolOperation.register params).act.runOn s).2 config
      (standing.step config (.register params)) := by
  obtain ⟨tenant, hpooled, htenants⟩ := h
  obtain ⟨url, hurl⟩ := hvalid
  have hopen : (onLibrary (·.openPool params)).runOn s =
      (.ok (.ok (s.library.fresh url params.properties .modern)),
        { s with library := s.library.advance }) := by
    show (Except.ok (s.library.openPool params).1,
      ({ s with library := (s.library.openPool params).2 } : PoolHost)) = _
    rw [Library.openPool_eq hpooled.failing hurl]
  have hopened : Pooled { s with library := s.library.advance } config standing.version tenant := by
    rw [← hpooled.version_eq]
    exact hpooled.of_library hpooled.sound.advance hpooled.failing (Nat.le_succ _) fun _ => rfl
  -- the names of the standing are those of the handles
  have hmem : ∀ {t}, t ∈ standing.tenants ↔ ∃ id < s.handles.length, tenant id = t := by
    intro t
    simp only [htenants, List.mem_map, List.mem_range]
  rw [PoolOperation.act, Effect.runOn_bind_ok hopen]
  show InStanding ((discard (Act.register 0 _ params)).runOn _).2 config (if _ then _ else _)
  cases hfind : s.find? 0 params.name with
  | some id =>
    obtain ⟨hid, hname⟩ := hpooled.founded.sound.find? hfind
    have htaken : params.name ∈ standing.tenants.map (·.params.name) := by
      rw [← hname, hpooled.name_eq hid]
      exact List.mem_map_of_mem (hmem.mpr ⟨id, hid, rfl⟩)
    rw [hopened.register_of_found hfind, if_pos htaken]
    exact ⟨tenant, hopened, htenants⟩
  | none =>
    have hnew : params.name ∉ standing.tenants.map (·.params.name) := by
      intro htaken
      obtain ⟨t, ht, hname⟩ := List.mem_map.mp htaken
      obtain ⟨id, hid, rfl⟩ := hmem.mp ht
      have hfound := hpooled.founded.find?_handle hid
      rw [hpooled.name_eq hid, hname, hfind] at hfound
      cases hfound
    rw [hopened.register_of_new hfind, if_neg hnew]
    refine ⟨_, hopened.enroll hfind ⟨url, hurl⟩ ?_ (Nat.lt_succ_self _) ?_, ?_⟩
    · exact fun id hid => hkey _ (hmem.mpr ⟨id, hid, rfl⟩)
    · exact fun key hholder => absurd (hpooled.sound.holder_lt key _ hholder) (Nat.lt_irrefl _)
    · have hlast : ∀ n (t : Tenant), (List.range (n + 1)).map (Function.update tenant n t) =
          (List.range n).map tenant ++ [t] := by
        intro n t
        rw [List.range_succ, List.map_append, List.map_singleton, Function.update_self]
        congr 1
        apply List.map_congr_left
        intro id hid
        exact Function.update_of_ne (Nat.ne_of_lt (List.mem_range.mp hid)) _ _
      rw [Host.length_enroll, Host.length_createHandle, hlast, htenants]

end InStanding

theorem Standing.mem_offered (config : HotSwapConfig) (version : String) (ops : List PoolOperation) :
    ∀ t ∈ (Standing.of config version ops).tenants, t.params ∈ offered ops := by
  -- the induction is from the last operation, as the standing is
  induction ops using List.reverseRecOn with
  | nil => nofun
  | append_singleton ops op ih =>
    intro t ht
    rw [Standing.of_snoc] at ht
    rw [offered_append, List.mem_append]
    -- a registration takes over the parameters only if the name is new
    cases op with
    | setVersion version => exact Or.inl (ih t ht)
    | refreshAll =>
      obtain ⟨before, hbefore, rfl⟩ := List.mem_map.mp ht
      exact Or.inl (ih before hbefore)
    | register params =>
      rw [Standing.step] at ht
      split at ht
      · exact Or.inl (ih t ht)
      · rcases List.mem_append.mp ht with ht | ht
        · exact Or.inl (ih t ht)
        · rw [List.mem_singleton.mp ht]
          exact Or.inr (List.mem_singleton_self params)

/-- **Every run is in its standing.** -/
theorem run_inStanding (config : HotSwapConfig) (version : String) {ops : List PoolOperation}
    (h : Proper ops) : InStanding (run config version ops) config (.of config version ops) := by
  induction ops using List.reverseRecOn with
  | nil => exact .founded config version
  | append_singleton ops op ih =>
    rw [run_snoc, Standing.of_snoc]
    replace ih := ih h.of_append
    cases op with
    | setVersion version => exact ih.setVersion version
    | refreshAll =>
      obtain ⟨report, s', hrun, _, hstanding⟩ := ih.refreshAll
      rw [PoolOperation.act, Effect.runOn_discard, hrun]
      exact hstanding
    | register params =>
      obtain ⟨hvalid, hkeys⟩ := h
      rw [offered_append] at hvalid hkeys
      rw [List.map_append, List.nodup_append] at hkeys
      -- the key is new: all pools so far were opened under other keys
      apply ih.register (hvalid params (List.mem_append_right _ (List.mem_singleton_self params)))
      intro t ht
      exact hkeys.2.2 _ (List.mem_map_of_mem (Standing.mem_offered config version ops t ht)) _
        (List.mem_singleton_self _)

/-- **Whether a cycle over pools is clean.** Pools that can all be opened, under keys of their own,
are opened and registered while the library changes its version and cycles run. Then every cycle
returns its report, and the operations before it tell what it says of the registered pools: a modern
cycle rebuilds them all, and a legacy one refuses exactly those that had a modern cycle after an
earlier legacy one, because the library still holds their keys for pools that are long gone. It takes serials
that are never given out twice, as a counter of 64 bits gives them to the first 2^64 pools. -/
theorem run_cycle_report (config : HotSwapConfig) (version : String) {ops : List PoolOperation}
    (h : Proper ops) :
    ((run config version ops).registry 0).names =
        (Standing.of config version ops).tenants.map (·.params.name) ∧
      ∃ report s', (collaborators.refreshAll 0).runOn (run config version ops) =
          (.ok (some report), s') ∧
        (Standing.of config version ops).Reported config report := by
  have hstanding := run_inStanding config version h
  obtain ⟨report, s', hrun, hreported, _⟩ := hstanding.refreshAll
  exact ⟨hstanding.names_eq, report, s', hrun, hreported⟩

/-- A legacy cycle, an upgrade with its cycle, and a downgrade. -/
def upAndDown : List PoolOperation :=
  [.register (.named "orders" (.ofList [("url", .text "db://orders")])), .refreshAll,
    .setVersion "4.3.0.Final", .refreshAll, .setVersion "4.2.0.Final"]

theorem upAndDown_proper : Proper upAndDown := by
  refine ⟨fun params hmem => ?_, by decide⟩
  rw [List.mem_singleton.mp hmem]
  exact ⟨_, rfl⟩

/-- The cycle that follows refuses the pool under its own key. -/
theorem run_cycle_report_upAndDown : Proper upAndDown ∧ ∃ report s',
    (collaborators.refreshAll 0).runOn (run ⟨none, ⟨"Tick"⟩⟩ "4.2.0.Final" upAndDown) =
        (.ok (some report), s') ∧
      report.failed = [("orders", .construction "orders" .legacy
        "a pool keyed 'orders' is already registered")] := by
  obtain ⟨_, report, s', hrun, hreported⟩ :=
    run_cycle_report ⟨none, ⟨"Tick"⟩⟩ "4.2.0.Final" upAndDown_proper
  exact ⟨upAndDown_proper, report, s', hrun, hreported.failed.trans (by decide)⟩

/-- So it is not clean, although no failure was asked for. -/
theorem run_cycle_not_clean : Proper upAndDown ∧ ∃ report s',
    (collaborators.refreshAll 0).runOn (run ⟨none, ⟨"Tick"⟩⟩ "4.2.0.Final" upAndDown) =
      (.ok (some report), s') ∧ report.isClean = false := by
  obtain ⟨report, s', hrun, hreported, _⟩ :=
    (run_inStanding ⟨none, ⟨"Tick"⟩⟩ "4.2.0.Final" upAndDown_proper).refreshAll
  refine ⟨upAndDown_proper, report, s', hrun, ?_⟩
  rw [← Bool.not_eq_true, hreported.isClean_iff]
  decide

end LiveSwap.Pool
