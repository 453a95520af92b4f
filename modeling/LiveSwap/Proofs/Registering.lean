import LiveSwap.Proofs.Reachable
import LiveSwap.Proofs.RegistryRaces

/-!
# Registrations, accepted and refused

A registration under a name goes to the handle that the registry stores under that name, so the handle
never objects to the name: it is refused only if the handle already has an instance, and then nothing at
all happens. This holds on every host a program meets, also in the midst of refreshes, and whatever the
strategies and other callers have done to its registries by then.

* **`Host.Met`** — the hosts that a program meets, with the sections of concurrent callers in any order;
  `Act.Courteous` says of an action that it leads from such hosts to such hosts, and cycles do if their
  strategies do.
* **`Host.Orderly`** — what all these hosts have in common: registries are keyed by the names of their
  handles, and only registered handles count exchanges.
* **`Host.Registered`** — what an accepted registration leaves behind.
* **`Host.Met.register_decided`** — when a registration under a name is accepted, and when a handle refuses
  one that is brought to it directly.
-/

namespace LiveSwap

variable {ι σ α β : Type}

/-! ## Hosts at any moment -/

namespace Host

/-- The hosts that a program meets at any moment, also while a handle's lock is held: what happens to
registries and handles happens in one of these sections, whoever it is that goes through it. -/
inductive Met : Host ι σ → Prop where
  | start (library : σ) : Met (Host.start library)
  /-- Whatever leaves the handles and the registries alone. -/
  | beside {s s' : Host ι σ} (h : Met s) (hhandles : s'.handles = s.handles)
      (hregistries : s'.registries = s.registries) : Met s'
  | newRegistry {s : Host ι σ} (h : Met s) : Met (Act.newRegistry.runOn s).2
  | enter {s : Host ι σ} (h : Met s) (r : RegistryId) (name : String) : Met (s.enter r name).2
  | enroll {s s' : Host ι σ} (h : Met s) {id : HandleId} {first : ι} {params : Params}
      (hregister : s.registerOn id first params = .ok s') : Met s'
  | lock {s : Host ι σ} (h : Met s) (id : HandleId) (held : Bool) : Met (s.setLock id held)
  | swap {s : Host ι σ} (h : Met s) (id : HandleId) (fresh : ι) : Met (s.updateHandle id (·.swap fresh))

theorem Met.addNotice {s : Host ι σ} (h : s.Met) (n : Notice) : (s.addNotice n).Met := h.beside rfl rfl

end Host

/-- An action that is fit to be done on any such host. -/
def Act.Courteous (act : Act ι σ α) : Prop := ∀ s, s.Met → (act.runOn s).2.Met

namespace Act.Courteous

open Host (Met)

theorem bind {x : Act ι σ α} {f : α → Act ι σ β} (hx : x.Courteous) (hf : ∀ a, (f a).Courteous) :
    (x >>= f).Courteous := by
  intro s hs
  have hfirst := hx s hs
  rw [Effect.runOn_bind]
  rcases hrun : x.runOn s with ⟨halt | a, s'⟩
  · rwa [hrun] at hfirst
  · rw [hrun] at hfirst
    exact hf a s' hfirst

theorem pure (a : α) : (Pure.pure a : Act ι σ α).Courteous := fun _ hs => hs

theorem log (n : Notice) : (Act.log n : Act ι σ Unit).Courteous := fun _ hs => hs.addNotice n

theorem get_bind {f : Host ι σ → Act ι σ β} (hf : ∀ s, (f s).Courteous) : (get >>= f).Courteous :=
  fun s hs => hf s s hs

theorem attempt {act : Act ι σ α} (h : act.Courteous) :
    Act.Courteous (Effect.attempt act : Act ι σ (Except Payload α)) := by
  intro s hs
  have hdone := h s hs
  rw [Effect.runOn_attempt]
  rcases hrun : act.runOn s with ⟨(payload | _ | _) | a, s'⟩
  all_goals
    rw [hrun] at hdone
    exact hdone

theorem of_detached {act : Act ι σ α} (h : act.Detached) : act.Courteous := by
  intro s hs
  rw [h.runOn_eq]
  exact hs.beside rfl rfl

theorem getOrCreate (r : RegistryId) (name : String) :
    (Act.getOrCreate r name : Act ι σ HandleId).Courteous := by
  intro s hs
  rw [Act.runOn_getOrCreate]
  exact hs.enter r name

theorem registerOn (id : HandleId) (first : ι) (params : Params) :
    (Act.registerOn id first params : Act ι σ (Except RegisterError Proxy)).Courteous := by
  intro s hs
  rw [Act.registerOn, Effect.runOn_modifyGet]
  cases hregister : s.registerOn id first params with
  | error refusal => exact hs
  | ok s' => exact hs.enroll hregister

theorem register (r : RegistryId) (first : ι) (params : Params) :
    (Act.register r first params : Act ι σ (Except RegisterError Proxy)).Courteous :=
  (getOrCreate r params.name).bind fun id => registerOn id first params

/-! ### Refreshes -/

theorem barrier (id : HandleId) : (Act.barrier id : Act ι σ Unit).Courteous := by
  intro s hs
  rw [Act.barrier, Effect.runOn_get_bind]
  cases (s.handle id).reloading with
  | true => exact hs
  | false => exact hs

theorem acquire (id : HandleId) : (Act.acquire id : Act ι σ Unit).Courteous :=
  (barrier id).bind fun _ _ hs => hs.lock id true

theorem release (id : HandleId) : (Act.release id : Act ι σ Unit).Courteous := fun _ hs => hs.lock id false

theorem settle (id : HandleId) (name : String) (capability : Capability)
    (rebuilt : Except Payload (Except RebuildError ι)) :
    (Act.settle id name capability rebuilt : Act ι σ Outcome).Courteous := by
  have hfail : ∀ error, (Act.settle.fail name capability error : Act ι σ Outcome).Courteous :=
    fun error => (log _).bind fun _ => pure _
  rcases rebuilt with payload | (error | fresh)
  · exact hfail _
  · exact hfail _
  · -- the fresh instance is installed before its generation is read for the log
    have hswap : (modify fun s : Host ι σ => s.updateHandle id (·.swap fresh) : Act ι σ Unit).Courteous :=
      fun s hs => hs.swap id fresh
    exact (hswap.bind fun _ => get_bind fun _ => log _).bind fun _ => pure _

/-- Refreshing a handle, with a strategy that may use the host in turn. -/
theorem refreshWith {strategy : Strategy ι σ}
    (h : ∀ params current, (strategy.rebuild params current).Courteous) (id : HandleId) :
    (Act.refreshWith id strategy).Courteous := by
  rw [Act.refreshWith_eq]
  refine (acquire id).bind fun _ => get_bind fun s => ?_
  refine bind ?_ fun outcome => (release id).bind fun _ => pure outcome
  rw [Act.refreshLocked]
  cases (s.handle id).installed with
  | none => exact (log _).bind fun _ => pure _
  | some i => exact (attempt (h i.params i.current)).bind fun rebuilt => settle id _ _ rebuilt

variable {c : Collaborators ι σ} (hprobe : c.probe.Courteous)
  (hrebuild : ∀ capability params current,
    ((c.strategies.select capability).rebuild params current).Courteous)
include hprobe

theorem capability (config : HotSwapConfig) : (c.capability config).Courteous := by
  rw [Collaborators.capability]
  cases config.forced with
  | some forced => exact pure forced
  | none =>
    refine hprobe.bind fun raw => ?_
    cases LibraryVersion.parse raw with
    | ok version => exact (log _).bind fun _ => pure _
    | error error => exact (log _).bind fun _ => pure _

include hrebuild

theorem refresh (k : CoordinatorId) (name : String) : (c.refresh k name).Courteous := by
  refine get_bind fun s => ?_
  cases s.coordinator? k with
  | none => exact pure none
  | some coordinator =>
    refine get_bind fun s => ?_
    cases (s.registry coordinator.registry).lookup name with
    | none => exact pure none
    | some id =>
      refine (capability hprobe coordinator.config).bind fun capability => ?_
      exact (refreshWith (hrebuild capability) id).bind fun outcome => pure (some outcome)

theorem refreshAll (k : CoordinatorId) : (c.refreshAll k).Courteous := by
  have heach : ∀ capability ids report,
      (Collaborators.refreshEach (c.strategies.select capability) ids report).Courteous := by
    intro capability ids
    induction ids with
    | nil => exact fun report => pure report
    | cons id ids ih =>
      exact fun report => (refreshWith (hrebuild capability) id).bind fun _ => get_bind fun _ => ih _
  refine get_bind fun s => ?_
  cases s.coordinator? k with
  | none => exact pure none
  | some coordinator =>
    have hcycle : (c.cycle coordinator.registry coordinator.config).Courteous :=
      (capability hprobe coordinator.config).bind fun capability => get_bind fun _ => (log _).bind fun _ =>
        (heach capability _ _).bind fun _ => (log _).bind fun _ => pure _
    -- keeping the report concerns the coordinator alone
    exact hcycle.bind fun report => bind (fun s hs => hs.beside rfl rfl) fun _ => pure _

end Act.Courteous

/-- A host between two operations is one that a program meets. -/
theorem Host.Reachable.met {s : Host ι σ} (h : s.Reachable) : s.Met := by
  -- one case per operation; refreshes go by what their strategies may do to a host
  induction h with
  | start library => exact .start library
  | newRegistry _ ih => exact ih.newRegistry
  | newCoordinator _ r config ih => exact ih.beside rfl rfl
  | getOrCreate _ r name ih => exact Act.Courteous.getOrCreate r name _ ih
  | register _ r first params ih => exact Act.Courteous.register r first params _ ih
  | registerOn _ id first params ih => exact Act.Courteous.registerOn id first params _ ih
  | refresh _ hd k name ih =>
    exact Act.Courteous.refresh (.of_detached hd.probe)
      (fun capability params current => .of_detached (hd.select capability params current)) k name _ ih
  | refreshAll _ hd k ih =>
    exact Act.Courteous.refreshAll (.of_detached hd.probe)
      (fun capability params current => .of_detached (hd.select capability params current)) k _ ih
  | used _ use ih =>
    rw [use.runOn_act]
    exact ih.beside rfl rfl

/-! ## Orderly hosts -/

theorem Racing.Listed.frame {r : RegistryId} {s s' : Host ι σ} (h : Racing.Listed r s)
    (hregistries : s.registries.length ≤ s'.registries.length) (hregistry : s'.registry r = s.registry r)
    (hhandles : s.handles.length ≤ s'.handles.length)
    (hnames : ∀ id, id < s.handles.length → (s'.handle id).name = (s.handle id).name) :
    Racing.Listed r s' := by
  refine ⟨Nat.lt_of_lt_of_le h.exists_registry hregistries, hregistry ▸ h.names_nodup, ?_⟩
  intro name id hmem
  rw [hregistry] at hmem
  obtain ⟨hlt, hname⟩ := h.keyed name id hmem
  exact ⟨Nat.lt_of_lt_of_le hlt hhandles, (hnames id hlt).trans hname⟩

namespace Host

/-- Every registry stores handles under their own names and no name twice, and a handle that was never
registered has not counted any exchange. -/
structure Orderly (s : Host ι σ) : Prop where
  listed : ∀ r, r < s.registries.length → Racing.Listed r s
  uncounted : ∀ id, (s.handle id).installed = none → (s.handle id).generation = 0

theorem Orderly.start (library : σ) : (Host.start library : Host ι σ).Orderly :=
  ⟨nofun, fun _ _ => rfl⟩

theorem Orderly.congr {s s' : Host ι σ} (hs : s.Orderly) (hhandles : s'.handles = s.handles)
    (hregistries : s'.registries = s.registries) : s'.Orderly := by
  obtain ⟨handles, registries, coordinators, log, library⟩ := s
  obtain ⟨handles', registries', coordinators', log', library'⟩ := s'
  subst hhandles
  subst hregistries
  exact ⟨fun r hr => (hs.listed r hr).frame (Nat.le_refl _) rfl (Nat.le_refl _) fun _ _ => rfl, hs.uncounted⟩

theorem Orderly.newRegistry {s : Host ι σ} (hs : s.Orderly) :
    ((Act.newRegistry : Act ι σ RegistryId).runOn s).2.Orderly := by
  refine ⟨fun r hr => ?_, hs.uncounted⟩
  have hlength : ((Act.newRegistry : Act ι σ RegistryId).runOn s).2.registries.length =
      s.registries.length + 1 := List.length_append
  rw [hlength] at hr
  rcases Nat.lt_succ_iff_lt_or_eq.mp hr with hold | rfl
  · exact (hs.listed r hold).frame (by rw [hlength]; exact Nat.le_succ _) (s.registry_concat_empty r)
      (Nat.le_refl _) fun _ _ => rfl
  · exact .newRegistry s

/-- A handle's state and count do not depend on its name while it is empty. -/
theorem Orderly.createHandle {s : Host ι σ} (hs : s.Orderly) {r : RegistryId} {name : String}
    (hnew : s.find? r name = none) : (s.createHandle r name).Orderly := by
  -- an empty handle has nothing to count, so the new one fits in
  have hview : ∀ id, ((s.createHandle r name).handle id).installed = (s.handle id).installed ∧
      ((s.createHandle r name).handle id).generation = (s.handle id).generation :=
    fun id => ⟨apply_handle_createHandle Handle.installed (fun _ => rfl) s r name id,
      apply_handle_createHandle Handle.generation (fun _ => rfl) s r name id⟩
  refine ⟨fun other hother => ?_, fun id hid => ?_⟩
  · replace hother : other < s.registries.length := by simpa [Host.createHandle] using hother
    by_cases hr : other = r
    · subst hr
      exact (hs.listed other hother).createHandle hnew
    · exact (hs.listed other hother).frame (by simp [Host.createHandle])
        (s.registry_createHandle_of_ne hr name) (by simp)
        fun id hid => congrArg Handle.name (handle_createHandle_of_lt hid)
  · rw [(hview id).2]
    exact hs.uncounted id ((hview id).1 ▸ hid)

theorem Orderly.enter {s : Host ι σ} (hs : s.Orderly) (r : RegistryId) (name : String) :
    (s.enter r name).2.Orderly := by
  rw [Host.enter]
  cases hfind : s.find? r name with
  | some id => exact hs
  | none => exact hs.createHandle hfind

theorem Orderly.updateHandle {s : Host ι σ} (hs : s.Orderly) {id : HandleId} {f : Handle ι → Handle ι}
    (hname : (f (s.handle id)).name = (s.handle id).name)
    (huncounted : (f (s.handle id)).installed = none → (f (s.handle id)).generation = 0) :
    (s.updateHandle id f).Orderly := by
  refine ⟨fun r hr => ?_, fun other hother => ?_⟩
  -- the entry stays, because the name does
  · exact (hs.listed r hr).frame (Nat.le_refl _) rfl (by simp)
      fun other _ => apply_handle_updateHandle Handle.name hname other
  · by_cases hid : other = id ∧ id < s.handles.length
    · obtain ⟨rfl, hlt⟩ := hid
      rw [handle_updateHandle_self hlt] at hother ⊢
      exact huncounted hother
    · -- any other place holds what it held, or nothing
      have hsame : (s.updateHandle id f).handle other = s.handle other := by
        by_cases hother' : other = id
        · have hge : s.handles.length ≤ other := by
            subst hother'
            exact Nat.le_of_not_lt fun hlt => hid ⟨rfl, hlt⟩
          rw [handle_of_length_le (by simpa using hge), handle_of_length_le hge]
        · exact handle_updateHandle_of_ne s hother' f
      rw [hsame] at hother ⊢
      exact hs.uncounted other hother

/-- **Every host that a program meets is orderly.** -/
theorem orderly_of_met {s : Host ι σ} (h : s.Met) : s.Orderly := by
  -- only an exchange has to be looked at: it counts only where an instance was installed
  induction h with
  | start library => exact .start library
  | beside _ hhandles hregistries ih => exact ih.congr hhandles hregistries
  | newRegistry _ ih => exact ih.newRegistry
  | enter _ r name ih => exact ih.enter r name
  | enroll _ hregister ih =>
    obtain ⟨-, -, rfl⟩ := registerOn_eq_ok_iff.mp hregister
    exact Orderly.congr (ih.updateHandle rfl fun hnone => by cases hnone) rfl rfl
  | lock _ id held ih => exact ih.updateHandle rfl (ih.uncounted id)
  | @swap s _ id fresh ih =>
    refine ih.updateHandle (Handle.swap_name _ fresh) fun hnone => ?_
    cases hi : (s.handle id).installed with
    | none =>
      rw [Handle.swap, hi]
      exact ih.uncounted id hi
    | some i =>
      rw [Handle.swap_of_installed hi] at hnone
      cases hnone

end Host

/-! ## One registration -/

namespace Host

/-- The registry has a handle of the name, and it was registered. -/
def Taken (s : Host ι σ) (r : RegistryId) (name : String) : Prop :=
  ∃ id, s.find? r name = some id ∧ (s.handle id).isRegistered

/-- What an accepted registration leaves behind: the one handle of the name serves the instance, it is
listed last if it was not there before, and nothing else has changed. -/
structure Registered (s s' : Host ι σ) (r : RegistryId) (first : ι) (params : Params) (id : HandleId) :
    Prop where
  found : s'.find? r params.name = some id
  once : (s'.registry r).names.Nodup
  names : (s'.registry r).names =
    (s.registry r).names ++ if params.name ∈ (s.registry r).names then [] else [params.name]
  handles : (s'.registry r).handles =
    (s.registry r).handles ++ if params.name ∈ (s.registry r).names then [] else [id]
  name : (s'.handle id).name = params.name
  installed : (s'.handle id).installed = some ⟨params, first⟩
  generation : (s'.handle id).generation = 0
  /-- The proxy is at the instance at once, unless a refresh of the empty handle is just under way. -/
  serves : (s'.handle id).reloading = false → (Act.snapshot ⟨id⟩).runOn s' = (.ok first, s')
  others : ∀ other, other ≠ id → s'.handle other = s.handle other
  registries : ∀ other, other ≠ r → s'.registry other = s.registry other

theorem Orderly.entered {s : Host ι σ} (hs : s.Orderly) {r : RegistryId} (hr : r < s.registries.length)
    (name : String) : Racing.Listed r (s.enter r name).2 ∧
      (s.enter r name).2.find? r name = some (s.enter r name).1 ∧
      ((s.enter r name).2.registry r).entries = (s.registry r).entries ++
        (if name ∈ (s.registry r).names then [] else [(name, (s.enter r name).1)]) ∧
      (∀ other, other ≠ r → (s.enter r name).2.registry other = s.registry other) ∧
      ∀ other, other ≠ (s.enter r name).1 → (s.enter r name).2.handle other = s.handle other := by
  obtain ⟨hlisted, -, hfound⟩ := (hs.listed r hr).enter name
  refine ⟨hlisted, hfound, ?_⟩
  rw [Host.enter]
  -- a name that is listed leads to its handle; for a new one a handle is created and listed last
  cases hfind : s.find? r name with
  | some id =>
    have hmem : name ∈ (s.registry r).names := by
      by_contra hnot
      rw [find?, Registry.lookup_eq_none_iff.mpr hnot] at hfind
      cases hfind
    rw [if_pos hmem, List.append_nil]
    exact ⟨rfl, fun _ _ => rfl, fun _ _ => rfl⟩
  | none =>
    rw [if_neg (Registry.lookup_eq_none_iff.mp hfind), registry_createHandle_self hr]
    refine ⟨rfl, fun other hother => s.registry_createHandle_of_ne hother name, fun other hother => ?_⟩
    rcases Nat.lt_or_gt_of_ne hother with hlt | hgt
    · exact handle_createHandle_of_lt hlt
    · rw [handle_of_length_le (by rw [length_createHandle]; exact hgt), handle_of_length_le (Nat.le_of_lt hgt)]

theorem taken_iff_enter (s : Host ι σ) (r : RegistryId) (name : String) :
    s.Taken r name ↔ (((s.enter r name).2.handle (s.enter r name).1)).isRegistered = true := by
  rw [Taken, Host.enter]
  -- a handle that was just created holds nothing
  cases hfind : s.find? r name with
  | some id =>
    constructor
    · rintro ⟨other, hother, hregistered⟩
      rwa [Option.some.inj hother]
    · exact fun hregistered => ⟨id, rfl, hregistered⟩
  | none =>
    rw [handle_createHandle_self]
    constructor
    · rintro ⟨other, hother, -⟩
      cases hother
    · intro hregistered
      cases hregistered

/-! ## A registration on a handle -/

variable {s : Host ι σ} {id : HandleId} {params : Params}

theorem registerOn_foreign (h : params.name ≠ (s.handle id).name) (first : ι) :
    s.registerOn id first params = .error (.nameMismatch (s.handle id).name params.name) := by
  rw [registerOn, Handle.register, if_neg h]

theorem registerOn_registered (hname : params.name = (s.handle id).name)
    (hregistered : (s.handle id).isRegistered) (first : ι) :
    s.registerOn id first params = .error (.alreadyRegistered (s.handle id).name) := by
  obtain ⟨i, hi⟩ := Option.isSome_iff_exists.mp hregistered
  rw [registerOn, Handle.register, if_pos hname, hi]

theorem registerOn_empty (hname : params.name = (s.handle id).name)
    (hempty : ¬ (s.handle id).isRegistered) (first : ι) :
    s.registerOn id first params = .ok (s.enroll id first params) :=
  registerOn_eq_ok_iff.mpr ⟨hname, by simpa [Handle.isRegistered] using hempty, rfl⟩

/-- The host on which a handle has exchanged its instance for each of the others in turn. -/
def swapped (s : Host ι σ) (id : HandleId) (others : List ι) : Host ι σ :=
  others.foldl (fun t fresh => t.updateHandle id (·.swap fresh)) s

theorem swapped_handle (s : Host ι σ) (id : HandleId) (others : List ι) :
    ((s.swapped id others).handle id).name = (s.handle id).name ∧
      ((s.swapped id others).handle id).isRegistered = (s.handle id).isRegistered := by
  induction others generalizing s with
  | nil => exact ⟨rfl, rfl⟩
  | cons fresh others ih =>
    obtain ⟨hname, hregistered⟩ := ih (s.updateHandle id (·.swap fresh))
    -- an exchange keeps an instance where there was one, and brings none where there was none
    have hswap : ((s.handle id).swap fresh).isRegistered = (s.handle id).isRegistered := by
      rw [Handle.swap, Handle.isRegistered, Handle.isRegistered]
      split
      · rfl
      · next hi => rw [hi, Option.isSome_some, Option.isSome_some]
    refine ⟨hname.trans ?_, hregistered.trans ?_⟩
    · exact apply_handle_updateHandle Handle.name (Handle.swap_name _ fresh) id
    · exact apply_handle_updateHandle Handle.isRegistered hswap id

/-- How a handle answers a registration that is brought to it: the name is judged first, and a refusal
leaves the host as it is. -/
structure Answered (s s' : Host ι σ) (id : HandleId) (params : Params)
    (answer : Except RegisterError Proxy) : Prop where
  foreign : (∃ handle given, answer = .error (.nameMismatch handle given)) ↔ params.name ≠ (s.handle id).name
  already : (∃ name, answer = .error (.alreadyRegistered name)) ↔
    params.name = (s.handle id).name ∧ (s.handle id).isRegistered
  refused : ∀ error, answer = .error error → s' = s ∧
    (error = .nameMismatch (s.handle id).name params.name ∨ error = .alreadyRegistered (s.handle id).name)
  accepted : ∀ proxy, answer = .ok proxy → proxy = ⟨id⟩

theorem runOn_registerOn (s : Host ι σ) (id : HandleId) (first : ι) (params : Params) :
    ∃ answer s', (Act.registerOn id first params).runOn s = (.ok answer, s') ∧
      s.Answered s' id params answer := by
  rw [Act.registerOn, Effect.runOn_modifyGet]
  -- three answers: for a foreign name, for a handle that is taken, and for an empty one
  by_cases hname : params.name = (s.handle id).name
  · by_cases hregistered : (s.handle id).isRegistered
    · rw [registerOn_registered hname hregistered]
      refine ⟨_, _, rfl, iff_of_false ?_ (not_not_intro hname), ?_, ?_, fun _ h => by cases h⟩
      · rintro ⟨_, _, h⟩
        cases h
      · exact iff_of_true ⟨_, rfl⟩ ⟨hname, hregistered⟩
      · rintro error ⟨rfl⟩
        exact ⟨rfl, .inr rfl⟩
    · rw [registerOn_empty hname hregistered]
      refine ⟨_, _, rfl, iff_of_false ?_ (not_not_intro hname), iff_of_false ?_ fun h => hregistered h.2,
        fun _ h => (by cases h), ?_⟩
      · rintro ⟨_, _, h⟩
        cases h
      · rintro ⟨_, h⟩
        cases h
      · rintro proxy ⟨rfl⟩
        rfl
  · rw [registerOn_foreign hname]
    refine ⟨_, _, rfl, iff_of_true ⟨_, _, rfl⟩ hname, iff_of_false ?_ fun h => hname h.1, ?_,
      fun _ h => by cases h⟩
    · rintro ⟨_, h⟩
      cases h
    · rintro error ⟨rfl⟩
      exact ⟨rfl, .inl rfl⟩

/-! ## A registration under a name -/

theorem Orderly.registered (hs : s.Orderly) {r : RegistryId} (hr : r < s.registries.length) (first : ι)
    (hnew : ¬ s.Taken r params.name) :
    s.Registered ((s.enter r params.name).2.enroll (s.enter r params.name).1 first params) r first params
      (s.enter r params.name).1 := by
  obtain ⟨hlisted, hfound, hentries, hregistries, hothers⟩ := hs.entered hr params.name
  have hmem := hlisted.find?_eq_some_iff.mp hfound
  obtain ⟨hlt, hname⟩ := hlisted.keyed _ _ hmem
  have hempty : ((s.enter r params.name).2.handle (s.enter r params.name).1).installed = none := by
    simpa [taken_iff_enter, Handle.isRegistered] using hnew
  -- the handle takes the instance in its place; no other place and no registry is touched
  have hself : ((s.enter r params.name).2.enroll (s.enter r params.name).1 first params).handle
      (s.enter r params.name).1 =
        { (s.enter r params.name).2.handle (s.enter r params.name).1 with
          installed := some ⟨params, first⟩ } :=
    handle_updateHandle_self hlt _
  refine ⟨hfound, hlisted.names_nodup, ?_, ?_, ?_, ?_, ?_, ?_, ?_, hregistries⟩
  · show ((s.enter r params.name).2.registry r).names = _
    rw [Registry.names, hentries, List.map_append]
    split
    · rfl
    · rfl
  · show ((s.enter r params.name).2.registry r).handles = _
    rw [Registry.handles, hentries, List.map_append]
    split
    · rfl
    · rfl
  · rw [hself]
    exact hname
  · rw [hself]
  · rw [hself]
    exact (hs.enter r params.name).uncounted _ hempty
  · intro hidle
    have hforward := Act.runOn_forward (i := ⟨params, first⟩) (by rw [hself]) hidle
      (pure : ι → Act ι σ ι)
    rwa [Act.forward, bind_pure] at hforward
  · intro other hother
    exact (handle_updateHandle_of_ne _ hother _).trans (hothers other hother)

/-- **Registrations.** On every host that a program meets, a registration under a name is refused exactly if
the name's handle is registered already, and then nothing at all changes; it is never refused for its name.
A handle to which a registration is brought directly judges the name first, however often it has exchanged
its instance by then, and leaves everything as it is when it refuses. -/
theorem Met.register_decided (hs : s.Met) {r : RegistryId} (hr : r < s.registries.length) (first : ι)
    (params : Params) :
    (∃ answer s', (Act.register r first params).runOn s = (.ok answer, s') ∧
      (∀ handle given, answer ≠ .error (.nameMismatch handle given)) ∧
      (answer = .error (.alreadyRegistered params.name) ↔ s.Taken r params.name) ∧
      (∀ error, answer = .error error → error = .alreadyRegistered params.name ∧ s' = s) ∧
      (¬ s.Taken r params.name → ∃ id, answer = .ok ⟨id⟩ ∧ s.Registered s' r first params id)) ∧
    ∀ (t : Host ι σ) (id : HandleId) (others : List ι) (other : ι) (brought : Params),
      ∃ answer t', (Act.registerOn id other brought).runOn (t.swapped id others) = (.ok answer, t') ∧
        (t.swapped id others).Answered t' id brought answer ∧
        ((t.swapped id others).handle id).name = (t.handle id).name ∧
        ((t.swapped id others).handle id).isRegistered = (t.handle id).isRegistered := by
  obtain ⟨hlisted, hfound, -, -, -⟩ := (orderly_of_met hs).entered hr params.name
  have hname := (hlisted.keyed _ _ (hlisted.find?_eq_some_iff.mp hfound)).2
  refine ⟨?_, fun t id others other brought => ?_⟩
  · rw [Act.register, Effect.runOn_bind_ok (Act.runOn_getOrCreate s r params.name), Act.registerOn,
      Effect.runOn_modifyGet]
    by_cases htaken : s.Taken r params.name
    · -- the handle was there, so that looking it up has changed nothing either
      have hsame : (s.enter r params.name).2 = s := by
        obtain ⟨id, hfind, -⟩ := htaken
        rw [Host.enter, hfind]
      rw [registerOn_registered hname.symm ((s.taken_iff_enter r params.name).mp htaken), hname]
      refine ⟨_, _, rfl, fun _ _ h => (by cases h), iff_of_true rfl htaken, ?_, fun hnew => absurd htaken hnew⟩
      rintro error ⟨rfl⟩
      exact ⟨rfl, hsame⟩
    · rw [registerOn_empty hname.symm fun h => htaken ((s.taken_iff_enter r params.name).mpr h)]
      refine ⟨_, _, rfl, fun _ _ h => (by cases h), iff_of_false (fun h => by cases h) htaken,
        fun _ h => (by cases h), fun _ => ⟨_, rfl, ?_⟩⟩
      exact (orderly_of_met hs).registered hr first htaken
  · obtain ⟨answer, t', hrun, hanswered⟩ := (t.swapped id others).runOn_registerOn id other brought
    exact ⟨answer, t', hrun, hanswered, t.swapped_handle id others⟩

/-- A host with one handle, which has exchanged its instance once. -/
def exchanged : Host Nat Unit :=
  ((Act.register 0 1 (.named "orders" .empty)).runOn (Act.newRegistry.runOn (Host.start ())).2).2.updateHandle
    0 (·.swap 2)

theorem met_exchanged : exchanged.Met :=
  (((Reachable.start ()).newRegistry).register 0 1 (.named "orders" .empty)).met.swap 0 2

/-- The name is taken, another one is not, and the handle wants no parameters but its own. -/
theorem register_decided_exchanged :
    (Act.register 0 7 (.named "orders" .empty)).runOn exchanged =
        (.ok (.error (.alreadyRegistered "orders")), exchanged) ∧
      (∃ s', (Act.register 0 7 (.named "users" .empty)).runOn exchanged = (.ok (.ok ⟨1⟩), s') ∧
        exchanged.Registered s' 0 7 (.named "users" .empty) 1) ∧
      (Act.registerOn 0 7 (.named "users" .empty)).runOn (exchanged.swapped 0 [3, 4]) =
        (.ok (.error (.nameMismatch "orders" "users")), exchanged.swapped 0 [3, 4]) := by
  obtain ⟨⟨answer, s', hrun, -, hiff, hrefused, -⟩, hdirect⟩ :=
    met_exchanged.register_decided (r := 0) (by decide) 7 (.named "orders" .empty)
  obtain ⟨⟨answer', s'', hrun', -, -, -, haccepted⟩, -⟩ :=
    met_exchanged.register_decided (r := 0) (by decide) 7 (.named "users" .empty)
  refine ⟨?_, ?_, ?_⟩
  · obtain rfl := hiff.mpr ⟨0, rfl, rfl⟩
    rw [hrun, (hrefused _ rfl).2]
    rfl
  · obtain ⟨id, rfl, hregistered⟩ := haccepted (by rintro ⟨id, hfind, -⟩; cases hfind)
    -- the handle is the one that was created
    have hid : id = 1 := (Option.some.inj (hregistered.found.symm.trans
      (congrArg (fun run => run.2.find? 0 "users") hrun'.symm))).trans rfl
    subst hid
    exact ⟨s'', hrun', hregistered⟩
  · obtain ⟨answer, t', hrun, hanswered, -⟩ := hdirect exchanged 0 [3, 4] 7 (.named "users" .empty)
    obtain ⟨handle, given, rfl⟩ := hanswered.foreign.mpr (by decide)
    obtain ⟨rfl, h | h⟩ := hanswered.refused _ rfl
    · rw [hrun, h]
      rfl
    · cases h

end Host

end LiveSwap
