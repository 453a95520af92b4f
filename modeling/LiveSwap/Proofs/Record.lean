import LiveSwap.Proofs.Conduct
import LiveSwap.Proxy

/-!
# Recording without disturbing

`Act.recorded` runs an action of the library on a library that carries a record as well, and writes
down what came of it. Nothing else changes: an action *covers* another one if it does the same and
differs at most in the record.

* **`Act.conduct_recorded`** — the conduct of a recorded action is that of the action, with a longer
  record.
* **`Act.Covers.bind`**, **`Act.Covers.get_bind`**, **`Act.Covers.attempt`** — actions that are put
  together in the same way from actions that cover each other cover each other.
* **`Collaborators.Covers.refreshAll`** — so a coordinator with recording collaborators does what it
  would do with the plain ones.
-/

namespace LiveSwap

variable {ι σ ε α β : Type}

/-! ## Libraries with a record -/

namespace Host

/-- The host without the record. -/
def erase (s : Host ι (σ × List ε)) : Host ι σ :=
  ⟨s.handles, s.registries, s.coordinators, s.log, s.library.1⟩

/-- The host with a record. -/
def withRecord (s : Host ι σ) (record : List ε) : Host ι (σ × List ε) :=
  ⟨s.handles, s.registries, s.coordinators, s.log, (s.library, record)⟩

@[simp] theorem erase_withRecord (s : Host ι σ) (record : List ε) :
    (s.withRecord record).erase = s := rfl

@[simp] theorem handle_erase (s : Host ι (σ × List ε)) (id : HandleId) :
    s.erase.handle id = s.handle id := rfl

@[simp] theorem registry_erase (s : Host ι (σ × List ε)) (id : RegistryId) :
    s.erase.registry id = s.registry id := rfl

@[simp] theorem find?_erase (s : Host ι (σ × List ε)) (r : RegistryId) (name : String) :
    s.erase.find? r name = s.find? r name := rfl

@[simp] theorem coordinator?_erase (s : Host ι (σ × List ε)) (id : CoordinatorId) :
    s.erase.coordinator? id = s.coordinator? id := rfl

end Host

/-- The conduct on a library with a record, which what came of it makes longer. -/
def Conduct.noted (c : Conduct σ α) (write : Except Payload α → List ε) (record : List ε) :
    Conduct (σ × List ε) α :=
  ⟨c.answer, (c.library, record ++ write c.answer), c.notices⟩

namespace Act

/-- What is written of a result: nothing if the action neither returned nor panicked. -/
def written (write : Except Payload α → List ε) : Except Halt α → List ε
  | .ok a => write (.ok a)
  | .error (.panic payload) => write (.error payload)
  | .error _ => []

/-- Runs an action of the library and writes down what came of it. -/
def recorded (write : Except Payload α → List ε) (act : Act ι σ α) : Act ι (σ × List ε) α := do
  match ← modifyGet fun s =>
      let (result, t) := act.runOn s.erase
      (result, t.withRecord (s.library.2 ++ written write result)) with
  | .ok a => pure a
  | .error halt => throw halt

theorem runOn_recorded (write : Except Payload α → List ε) (act : Act ι σ α)
    (s : Host ι (σ × List ε)) :
    (act.recorded write).runOn s = ((act.runOn s.erase).1,
      (act.runOn s.erase).2.withRecord (s.library.2 ++ written write (act.runOn s.erase).1)) := by
  rw [recorded, Effect.runOn_modifyGet_bind]
  rcases act.runOn s.erase with ⟨_ | _, t⟩
  · rfl
  · rfl

theorem runOn_recorded_eq_onto {act : Act ι σ α} (h : act.Detached)
    (write : Except Payload α → List ε) (s : Host ι (σ × List ε)) :
    (act.recorded write).runOn s =
      ((act.conduct s.library.1).noted write s.library.2).onto s := by
  rw [runOn_recorded, h.runOn_eq]
  show (((act.conduct s.library.1).onto s.erase).1, _) = _
  rw [show s.erase.library = s.library.1 from rfl]
  rcases act.conduct s.library.1 with ⟨_ | _, library, notices⟩
  · rfl
  · rfl

/-- **The conduct of a recorded action** is that of the action, and the record is longer by what was
written. -/
theorem conduct_recorded {act : Act ι σ α} (h : act.Detached) (write : Except Payload α → List ε)
    (library : σ × List ε) :
    (act.recorded write).conduct library = (act.conduct library.1).noted write library.2 :=
  conduct_eq (f := fun library => (act.conduct library.1).noted write library.2)
    (runOn_recorded_eq_onto h write) library

theorem Detached.recorded {act : Act ι σ α} (h : act.Detached)
    (write : Except Payload α → List ε) : (act.recorded write).Detached :=
  .intro (fun library => (act.conduct library.1).noted write library.2)
    (runOn_recorded_eq_onto h write) fun library => h.silent library.1

/-! ## Covering -/

/-- On a library with a record the first action does what the second one does without. -/
def Covers (x' : Act ι (σ × List ε) α) (x : Act ι σ α) : Prop :=
  ∀ s, x.runOn s.erase = ((x'.runOn s).1, (x'.runOn s).2.erase)

theorem covers_recorded (write : Except Payload α → List ε) (act : Act ι σ α) :
    (act.recorded write).Covers act := by
  intro s
  rw [runOn_recorded]
  rfl

theorem covers_pure (a : α) : (pure a : Act ι (σ × List ε) α).Covers (pure a : Act ι σ α) :=
  fun _ => rfl

theorem covers_throw (halt : Halt) :
    (throw halt : Act ι (σ × List ε) α).Covers (throw halt : Act ι σ α) :=
  fun _ => rfl

/-- A change of the host that takes no notice of the record. -/
theorem covers_modifyGet {f' : Host ι (σ × List ε) → α × Host ι (σ × List ε)}
    {f : Host ι σ → α × Host ι σ} (h : ∀ s, f s.erase = ((f' s).1, (f' s).2.erase)) :
    (modifyGet f' : Act ι (σ × List ε) α).Covers (modifyGet f : Act ι σ α) := by
  intro s
  rw [Effect.runOn_modifyGet, Effect.runOn_modifyGet, h]

theorem covers_modify {f' : Host ι (σ × List ε) → Host ι (σ × List ε)} {f : Host ι σ → Host ι σ}
    (h : ∀ s, f s.erase = (f' s).erase) :
    (modify f' : Act ι (σ × List ε) Unit).Covers (modify f : Act ι σ Unit) := by
  intro s
  rw [Effect.runOn_modify, Effect.runOn_modify, h]

theorem covers_log (n : Notice) : (log n : Act ι (σ × List ε) Unit).Covers (log n : Act ι σ Unit) :=
  covers_modify fun _ => rfl

namespace Covers

theorem bind {x' : Act ι (σ × List ε) α} {x : Act ι σ α} {f' : α → Act ι (σ × List ε) β}
    {f : α → Act ι σ β} (hx : x'.Covers x) (hf : ∀ a, (f' a).Covers (f a)) :
    (x' >>= f').Covers (x >>= f) := by
  intro s
  rw [Effect.runOn_bind, Effect.runOn_bind, hx s]
  rcases x'.runOn s with ⟨halt | a, t⟩
  · rfl
  · exact hf a t

theorem get_bind {f' : Host ι (σ × List ε) → Act ι (σ × List ε) β} {f : Host ι σ → Act ι σ β}
    (hf : ∀ s, (f' s).Covers (f s.erase)) : (get >>= f').Covers (get >>= f) := by
  intro s
  rw [Effect.runOn_get_bind, Effect.runOn_get_bind]
  exact hf s s

theorem map {x' : Act ι (σ × List ε) α} {x : Act ι σ α} (hx : x'.Covers x) (g : α → β) :
    (g <$> x').Covers (g <$> x) := by
  intro s
  rw [Effect.runOn_map, Effect.runOn_map, hx s]

theorem attempt {x' : Act ι (σ × List ε) α} {x : Act ι σ α} (hx : x'.Covers x) :
    Covers (Effect.attempt x') (Effect.attempt x) := by
  intro s
  rw [Effect.runOn_attempt, Effect.runOn_attempt, hx s]
  rcases x'.runOn s with ⟨halt | a, t⟩
  · cases halt <;> rfl
  · rfl

end Covers

/-! ## The actions of a host -/

theorem covers_barrier (id : HandleId) :
    (barrier id : Act ι (σ × List ε) Unit).Covers (barrier id : Act ι σ Unit) := by
  refine Covers.get_bind fun s => ?_
  show (if (s.handle id).reloading = true then _ else _ : Act ι (σ × List ε) Unit).Covers
    (if (s.handle id).reloading = true then _ else _)
  cases (s.handle id).reloading with
  | true => exact covers_throw _
  | false => exact covers_pure _

theorem covers_acquire (id : HandleId) :
    (acquire id : Act ι (σ × List ε) Unit).Covers (acquire id : Act ι σ Unit) :=
  (covers_barrier id).bind fun _ => covers_modify fun _ => rfl

theorem covers_release (id : HandleId) :
    (release id : Act ι (σ × List ε) Unit).Covers (release id : Act ι σ Unit) :=
  covers_modify fun _ => rfl

theorem covers_settle (id : HandleId) (name : String) (capability : Capability)
    (rebuilt : Except Payload (Except RebuildError ι)) :
    (settle id name capability rebuilt : Act ι (σ × List ε) Outcome).Covers
      (settle id name capability rebuilt : Act ι σ Outcome) := by
  rcases rebuilt with payload | (error | fresh)
  · exact (covers_log _).bind fun _ => covers_pure _
  · exact (covers_log _).bind fun _ => covers_pure _
  · refine Covers.bind ?_ fun _ => covers_pure _
    refine (covers_modify fun _ => rfl).bind fun _ => Covers.get_bind fun s => ?_
    exact covers_log _

theorem covers_getOrCreate (r : RegistryId) (name : String) :
    (getOrCreate r name : Act ι (σ × List ε) HandleId).Covers
      (getOrCreate r name : Act ι σ HandleId) := by
  refine Covers.get_bind fun s => ?_
  rw [Host.find?_erase]
  cases s.find? r name with
  | some id => exact covers_pure id
  | none =>
    refine covers_modifyGet fun t => ?_
    show t.erase.enter r name = ((t.enter r name).1, (t.enter r name).2.erase)
    rw [Host.enter, Host.enter, Host.find?_erase]
    cases t.find? r name with
    | some id => rfl
    | none => rfl

theorem covers_registerOn (id : HandleId) (first : ι) (params : Params) :
    (registerOn id first params : Act ι (σ × List ε) _).Covers
      (registerOn id first params : Act ι σ _) := by
  refine covers_modifyGet fun s => ?_
  simp only [Host.registerOn, Host.handle_erase]
  cases (s.handle id).register first params with
  | error e => rfl
  | ok h => rfl

theorem covers_register (r : RegistryId) (first : ι) (params : Params) :
    (register r first params : Act ι (σ × List ε) _).Covers (register r first params : Act ι σ _) :=
  (covers_getOrCreate r params.name).bind fun id => covers_registerOn id first params

theorem covers_current (id : HandleId) :
    (current id : Act ι (σ × List ε) _).Covers (current id : Act ι σ _) := by
  refine Covers.get_bind fun s => ?_
  rw [Host.handle_erase]
  cases (s.handle id).installed with
  | none => exact covers_pure _
  | some i => exact (covers_barrier id).bind fun _ => Covers.get_bind fun t => covers_pure _

theorem covers_forward (p : Proxy) {operation' : ι → Act ι (σ × List ε) α}
    {operation : ι → Act ι σ α} (h : ∀ i, (operation' i).Covers (operation i)) :
    (forward p operation').Covers (forward p operation) := by
  refine Covers.bind (Covers.bind (covers_current p.handle) fun installed => ?_) h
  cases installed with
  | none => exact covers_throw _
  | some i => exact covers_pure i

end Act

/-! ## Strategies and coordinators -/

/-- Strategies of one capability whose rebuilds cover each other. -/
structure Strategy.Covers (strategy' : Strategy ι (σ × List ε)) (strategy : Strategy ι σ) : Prop where
  capability : strategy'.capability = strategy.capability
  rebuild : ∀ params current,
    (strategy'.rebuild params current).Covers (strategy.rebuild params current)

structure Collaborators.Covers (c' : Collaborators ι (σ × List ε)) (c : Collaborators ι σ) : Prop where
  probe : c'.probe.Covers c.probe
  select : ∀ capability, (c'.strategies.select capability).Covers (c.strategies.select capability)

theorem Strategy.Covers.refreshWith {strategy' : Strategy ι (σ × List ε)} {strategy : Strategy ι σ}
    (h : strategy'.Covers strategy) (id : HandleId) :
    (Act.refreshWith id strategy').Covers (Act.refreshWith id strategy) := by
  refine (Act.covers_acquire id).bind fun _ => Act.Covers.get_bind fun s => ?_
  -- in each case the outcome is settled first, and then the lock is given back
  have hrelease : ∀ outcome, (Act.release id >>= fun _ => pure outcome :
      Act ι (σ × List ε) Outcome).Covers (Act.release id >>= fun _ => pure outcome) :=
    fun outcome => (Act.covers_release id).bind fun _ => Act.covers_pure outcome
  simp only [Host.handle_erase, h.capability]
  cases (s.handle id).installed with
  | none => exact (Act.covers_log _).bind fun _ => (Act.covers_pure _).bind hrelease
  | some i =>
    exact (h.rebuild i.params i.current).attempt.bind fun _ =>
      (Act.covers_settle id _ _ _).bind hrelease

namespace Collaborators.Covers

variable {c' : Collaborators ι (σ × List ε)} {c : Collaborators ι σ}

theorem capability (h : c'.Covers c) (config : HotSwapConfig) :
    (c'.capability config).Covers (c.capability config) := by
  rw [Collaborators.capability, Collaborators.capability]
  cases config.forced with
  | some forced => exact Act.covers_pure forced
  | none =>
    refine h.probe.bind fun raw => ?_
    cases LibraryVersion.parse raw with
    | ok version => exact (Act.covers_log _).bind fun _ => Act.covers_pure _
    | error error => exact (Act.covers_log _).bind fun _ => Act.covers_pure _

theorem refreshEach {strategy' : Strategy ι (σ × List ε)} {strategy : Strategy ι σ}
    (h : strategy'.Covers strategy) (ids : List HandleId) (report : Report) :
    (Collaborators.refreshEach strategy' ids report).Covers
      (Collaborators.refreshEach strategy ids report) := by
  induction ids generalizing report with
  | nil => exact Act.covers_pure report
  | cons id ids ih => exact (h.refreshWith id).bind fun _ => Act.Covers.get_bind fun _ => ih _

/-- **Refreshing one name** does not depend on the record. -/
theorem refresh (h : c'.Covers c) (id : CoordinatorId) (name : String) :
    (c'.refresh id name).Covers (c.refresh id name) := by
  -- the record shows neither in the coordinators nor in the registries, so both sides find the same handle
  refine Act.Covers.get_bind fun s => ?_
  rw [Host.coordinator?_erase]
  cases s.coordinator? id with
  | none => exact Act.covers_pure none
  | some k =>
    refine Act.Covers.get_bind fun t => ?_
    rw [Host.registry_erase]
    cases (t.registry k.registry).lookup name with
    | none => exact Act.covers_pure none
    | some handle =>
      exact (h.capability k.config).bind fun capability =>
        ((h.select capability).refreshWith handle).map some

/-- **Nor does a cycle.** -/
theorem refreshAll (h : c'.Covers c) (id : CoordinatorId) :
    (c'.refreshAll id).Covers (c.refreshAll id) := by
  refine Act.Covers.get_bind fun s => ?_
  rw [Host.coordinator?_erase]
  cases s.coordinator? id with
  | none => exact Act.covers_pure none
  | some k =>
    refine Act.Covers.bind ?_ fun report => (Act.covers_modify fun _ => rfl).bind fun _ =>
      Act.covers_pure _
    refine (h.capability k.config).bind fun capability => Act.Covers.get_bind fun t => ?_
    exact (Act.covers_log _).bind fun _ =>
      (refreshEach (h.select capability) _ _).bind fun report =>
        (Act.covers_log _).bind fun _ => Act.covers_pure report

end Collaborators.Covers

end LiveSwap
