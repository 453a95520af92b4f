import LiveSwap.Proofs.PoolOpening

/-!
# The serials of pools

Every call of the pool library comes to one operation on its state, `Call.op`, or is refused before.
`Library.Grown` says what operations make of a library together: its registry stays sound, and the pools
that it returned carry serials that grow in the order in which they were built.

* **`Library.Op.apply_cases`** — what one operation can do.
* **`Library.Grown.snoc`** — and what follows for those before it.
* **`runOn_runCalls`** — any calls in any order.
-/

namespace LiveSwap.Pool

namespace Library

/-! ## Operations -/

/-- What the library can be asked to do. -/
inductive Op where
  /-- A call that is refused without asking the library. -/
  | refuse
  | setVersion (version : String)
  | failNext (key : String)
  | deregister (pool : Pool)
  | checkout (pool : Pool)
  | build (key url : String) (ps : Properties) (builtBy : Capability)

namespace Op

/-- The pool that an operation returns, if it returns one, and the library afterwards. -/
def apply (l : Library) : Op → Option Pool × Library
  | refuse => (none, l)
  | setVersion version => (none, l.setVersion version)
  | failNext key => (none, l.failNext key)
  | deregister pool => (none, l.deregister pool)
  | checkout pool => (none, (l.checkout pool).2)
  | build key url ps builtBy =>
    let (built, l) := l.build key url ps builtBy
    (built.toOption, l)

def isBuild : Op → Bool
  | build .. => true
  | _ => false

theorem apply_build (l : Library) (key url : String) (ps : Properties) (builtBy : Capability) :
    (build key url ps builtBy).apply l =
      ((l.build key url ps builtBy).1.toOption, (l.build key url ps builtBy).2) := rfl

/-- Either nothing is returned, and a build that failed may have used up a serial, or a pool with the next
serial is. -/
theorem apply_cases {l : Library} (hl : l.Sound) (op : Op) :
    (op.apply l).2.Sound ∧
    (((op.apply l).1 = none ∧ l.nextSerial ≤ (op.apply l).2.nextSerial ∧
        (op.apply l).2.nextSerial ≤ l.nextSerial + if op.isBuild then 1 else 0) ∨
      ∃ pool, (op.apply l).1 = some pool ∧ pool.serial = l.nextSerial ∧
        (op.apply l).2.nextSerial = l.nextSerial + 1 ∧ op.isBuild = true) := by
  cases op with
  | refuse => exact ⟨hl, .inl ⟨rfl, Nat.le_refl _, Nat.le_refl _⟩⟩
  | setVersion version => exact ⟨hl.setVersion version, .inl ⟨rfl, Nat.le_refl _, Nat.le_refl _⟩⟩
  | failNext key => exact ⟨⟨hl.keys_nodup, hl.holder_lt⟩, .inl ⟨rfl, Nat.le_refl _, Nat.le_refl _⟩⟩
  | deregister pool => exact ⟨hl.deregister pool, .inl ⟨rfl, Nat.le_refl _, Nat.le_refl _⟩⟩
  | checkout pool => exact ⟨⟨hl.keys_nodup, hl.holder_lt⟩, .inl ⟨rfl, Nat.le_refl _, Nat.le_refl _⟩⟩
  | build key url ps builtBy =>
    rw [apply_build]
    by_cases hkey : key ∈ l.failing
    · rw [build_of_mem hkey]
      exact ⟨⟨hl.keys_nodup, hl.holder_lt⟩, .inl ⟨rfl, Nat.le_refl _, Nat.le_add_right ..⟩⟩
    · rw [build_of_notMem hkey]
      -- the serial is taken before the key is looked at
      cases builtBy with
      | modern => exact ⟨hl.advance, .inr ⟨_, rfl, rfl, rfl, rfl⟩⟩
      | legacy =>
        cases hholder : l.holder? key with
        | some holder => exact ⟨hl.advance, .inl ⟨rfl, Nat.le_succ _, Nat.le_refl _⟩⟩
        | none => exact ⟨hl.enroll hholder, .inr ⟨_, rfl, rfl, rfl, rfl⟩⟩

end Op

/-! ## Operations in a row -/

/-- What operations, so many builds among them, have made of a library that was started, and the pools that
they returned. -/
structure Grown (l : Library) (pools : List Pool) (builds : Nat) : Prop where
  sound : l.Sound
  ordered : pools.Pairwise (·.serial < ·.serial)
  lt_next : ∀ pool ∈ pools, pool.serial < l.nextSerial
  next_le : l.nextSerial ≤ builds

variable {l : Library} {pools : List Pool} {builds : Nat}

theorem Grown.start (version : String) : (Library.start version).Grown [] 0 :=
  ⟨.start version, .nil, nofun, Nat.le_refl _⟩

/-- **One more operation.** A pool that it returns has a larger serial than all before it. -/
theorem Grown.snoc (h : l.Grown pools builds) (op : Op) :
    (op.apply l).2.Grown (pools ++ (op.apply l).1.toList) (builds + if op.isBuild then 1 else 0) := by
  have hnext := h.next_le
  -- a pool that is returned has the next serial, and none that was returned before does
  obtain ⟨hsound, ⟨hnone, hle, hbuilds⟩ | ⟨pool, hsome, hserial, hsucc, hbuild⟩⟩ := op.apply_cases h.sound
  · rw [hnone, Option.toList_none, List.append_nil]
    exact ⟨hsound, h.ordered, fun pool hpool => Nat.lt_of_lt_of_le (h.lt_next pool hpool) hle, by omega⟩
  · rw [hsome, Option.toList_some, hbuild, if_pos rfl]
    refine ⟨hsound, ?_, ?_, by omega⟩
    · rw [List.pairwise_append]
      refine ⟨h.ordered, List.pairwise_singleton .., fun before hbefore last hlast => ?_⟩
      rw [List.mem_singleton.mp hlast, hserial]
      exact h.lt_next before hbefore
    · intro other hother
      rw [hsucc]
      rcases List.mem_append.mp hother with hold | hnew
      · exact Nat.lt_succ_of_lt (h.lt_next other hold)
      · rw [List.mem_singleton.mp hnew, hserial]
        exact Nat.lt_succ_self _

end Library

/-! ## Calls -/

theorem after_quiet (s : PoolHost) (l : Library) :
    s.after (⟨.ok (), l, []⟩ : Conduct Library Unit) = { s with library := l } := by
  rw [Host.after, List.append_nil]

theorem runOn_checkout (pool : Pool) (client : String) (s : PoolHost) : ∃ notices,
    (checkout pool client).runOn s = (.ok (s.library.checkout pool).1,
      s.after (⟨.ok (), (s.library.checkout pool).2, notices⟩ : Conduct Library Unit)) := by
  have hcheckout : (onLibrary (·.checkout pool)).runOn s = (.ok (s.library.checkout pool).1,
      { s with library := (s.library.checkout pool).2 }) := rfl
  rw [checkout, Effect.runOn_bind_ok hcheckout]
  cases (s.library.checkout pool).1 with
  | ok id => exact ⟨[_], rfl⟩
  | error e => exact ⟨[], by rw [after_quiet]; rfl⟩

/-- The calls of the library's API. A builder or a configuration object may be built with at any time. -/
inductive Call where
  | setVersion (version : String)
  | failNext (key : String)
  | openPool (params : Params)
  | create (name : String) (ps : Properties)
  | build (b : Builder)
  | configured (c : Configuration)
  | deregister (name : String) (pool : Pool)
  | checkout (pool : Pool) (client : String)

namespace Call

/-- Makes the call; the pool that it returns, if it returns one. -/
def act : Call → PoolAct (Option Pool)
  | setVersion version => do
    onLibrary fun l => ((), l.setVersion version)
    return none
  | failNext key => do
    onLibrary fun l => ((), l.failNext key)
    return none
  | openPool params => Except.toOption <$> onLibrary (·.openPool params)
  | create name ps => Except.toOption <$> Pool.create name ps
  | build b => Except.toOption <$> b.build
  | configured c => Except.toOption <$> c.build
  | deregister name pool => do
    Pool.deregister name pool
    return none
  | checkout pool client => do
    let _ ← Pool.checkout pool client
    return none

/-- What a call asks of the library. -/
def op : Call → Library.Op
  | setVersion version => .setVersion version
  | failNext key => .failNext key
  | openPool params =>
    match urlOf params with
    | .error _ => .refuse
    | .ok url => .build params.name url params.properties .modern
  | create name ps =>
    match propertyUrl ps with
    | .error _ => .refuse
    | .ok url => .build name url ps .modern
  | build b => .build b.url b.url b.properties .modern
  | configured c =>
    match c.key, c.url with
    | some key, some url => .build key url c.properties .legacy
    | _, _ => .refuse
  | deregister _ pool => .deregister pool
  | checkout pool _ => .checkout pool

/-- **A call is its operation**, and it may write to the log. -/
theorem runOn_act (call : Call) (s : PoolHost) : ∃ notices, call.act.runOn s =
    (.ok (call.op.apply s.library).1,
      s.after (⟨.ok (), (call.op.apply s.library).2, notices⟩ : Conduct Library Unit)) := by
  cases call with
  | setVersion version => exact ⟨[], by rw [after_quiet]; rfl⟩
  | failNext key => exact ⟨[], by rw [after_quiet]; rfl⟩
  | build b => exact ⟨[], by rw [after_quiet]; rfl⟩
  | deregister name pool => exact ⟨[_], rfl⟩
  | openPool params =>
    -- whatever becomes of the parameters, the call asks for what its operation says
    refine ⟨[], ?_⟩
    rw [after_quiet, act, op, Effect.runOn_map, onLibrary, Effect.runOn_modifyGet,
      Library.openPool_eq_buildUnder, Library.buildUnder]
    cases urlOf params <;> rfl
  | create name ps =>
    refine ⟨[], ?_⟩
    rw [after_quiet, act, op, Pool.create]
    cases propertyUrl ps <;> rfl
  | configured c =>
    refine ⟨[], ?_⟩
    rw [after_quiet, act, op, Configuration.build]
    cases c.key <;> cases c.url <;> rfl
  | checkout pool client =>
    obtain ⟨notices, hcheckout⟩ := runOn_checkout pool client s
    exact ⟨notices, by rw [act, Effect.runOn_bind_ok hcheckout]; rfl⟩

end Call

/-- Makes calls one after the other; the pools that they returned, in order. -/
def runCalls : List Call → PoolAct (List Pool)
  | [] => pure []
  | call :: calls => do
    let built ← call.act
    return built.toList ++ (← runCalls calls)

/-- **Any calls in any order.** They go through, and the library has grown by the pools they returned. -/
theorem runOn_runCalls {s : PoolHost} {before : List Pool} {builds : Nat} (calls : List Call)
    (h : s.library.Grown before builds) : ∃ pools s', (runCalls calls).runOn s = (.ok pools, s') ∧
      s'.library.Grown (before ++ pools) (builds + calls.countP fun call => call.op.isBuild) := by
  induction calls generalizing s before builds with
  | nil => exact ⟨[], s, rfl, by simpa using h⟩
  | cons call calls ih =>
    obtain ⟨notices, hcall⟩ := call.runOn_act s
    have hsnoc : (s.after (⟨.ok (), _, notices⟩ : Conduct Library Unit)).library.Grown _ _ := h.snoc call.op
    obtain ⟨pools, s', hcalls, hgrown⟩ := ih hsnoc
    refine ⟨(call.op.apply s.library).1.toList ++ pools, s', ?_, ?_⟩
    · rw [runCalls, Effect.runOn_bind_ok hcall, Effect.runOn_bind_ok hcalls, Effect.runOn_pure]
    · rw [← List.append_assoc, List.countP_cons, Nat.add_comm (List.countP _ _), ← Nat.add_assoc]
      exact hgrown

end LiveSwap.Pool
