import LiveSwap.Proofs.Conduct
import LiveSwap.Proofs.Host

/-!
# What a refresh does

With a detached strategy a refresh always returns, and what it leaves behind is a function of the
host it started on: `Host.refreshHandle` for one handle, `Host.refreshHandles` for several, one
after the other.

* **`Act.runOn_refreshWith`** — refreshing a handle whose lock is free is `Host.refreshHandle`: the
  lock is taken and given back, a panic of the rebuild is caught, and only a rebuild that returned
  an instance touches the handle.
* **`Collaborators.runOn_refreshEach`** — the loop of a cycle is `Host.refreshHandles`, and it files
  every outcome under the handle's name.
* **`Host.refreshHandle_refreshed`**, **`Host.refreshHandles_visits`** — a refresh changes at most
  its own handle, that one only by exchanging the instance, and several refreshes do not get in
  each other's way.
-/

namespace LiveSwap

variable {ι σ : Type}

/-! ## One handle -/

/-- Why a rebuild gave no instance. -/
def rebuildFailure (name : String) : Except Payload (Except RebuildError ι) → Option RebuildError
  | .ok (.ok _) => none
  | .ok (.error error) => some error
  | .error payload => some (.panicked name payload.message)

namespace Host

/-- The outcome of refreshing a handle, and the host afterwards. -/
def refreshHandle (s : Host ι σ) (strategy : Strategy ι σ) (id : HandleId) : Outcome × Host ι σ :=
  let h := s.handle id
  match h.installed with
  | none => (.unregistered, s.addNotice (.unregisteredSkipped h.name))
  | some i =>
    let c := (strategy.rebuild i.params i.current).conduct s.library
    let failed (error : RebuildError) :=
      (.failed error, (s.after c).addNotice (.rebuildFailed h.name strategy.capability error))
    match c.answer with
    | .ok (.ok fresh) =>
      (.swapped, ((s.after c).updateHandle id (·.swap fresh)).addNotice
        (.rebuilt h.name strategy.capability (h.generation + 1)))
    | .ok (.error error) => failed error
    | .error payload => failed (.panicked h.name payload.message)

theorem refreshHandle_unregistered {s : Host ι σ} {id : HandleId}
    (h : (s.handle id).installed = none) (strategy : Strategy ι σ) :
    s.refreshHandle strategy id =
      (.unregistered, s.addNotice (.unregisteredSkipped (s.handle id).name)) := by
  rw [refreshHandle, h]

theorem refreshHandle_swapped {s : Host ι σ} {strategy : Strategy ι σ} {id : HandleId}
    {i : Installed ι} {fresh : ι} (h : (s.handle id).installed = some i)
    (hc : ((strategy.rebuild i.params i.current).conduct s.library).answer = .ok (.ok fresh)) :
    s.refreshHandle strategy id = (.swapped,
      ((s.after ((strategy.rebuild i.params i.current).conduct s.library)).updateHandle id
        (·.swap fresh)).addNotice
          (.rebuilt (s.handle id).name strategy.capability ((s.handle id).generation + 1))) := by
  simp only [refreshHandle, h, hc]

theorem refreshHandle_failed {s : Host ι σ} {strategy : Strategy ι σ} {id : HandleId}
    {i : Installed ι} {error : RebuildError} (h : (s.handle id).installed = some i)
    (hc : rebuildFailure (s.handle id).name
      ((strategy.rebuild i.params i.current).conduct s.library).answer = some error) :
    s.refreshHandle strategy id = (.failed error,
      (s.after ((strategy.rebuild i.params i.current).conduct s.library)).addNotice
        (.rebuildFailed (s.handle id).name strategy.capability error)) := by
  simp only [refreshHandle, h]
  rcases hanswer : ((strategy.rebuild i.params i.current).conduct s.library).answer with
    payload | (cause | fresh)
  · rw [hanswer] at hc
    cases hc
    rfl
  · rw [hanswer] at hc
    cases hc
    rfl
  · rw [hanswer] at hc
    cases hc

/-- The three ways a refresh can go. -/
theorem refreshHandle_cases (s : Host ι σ) (strategy : Strategy ι σ) (id : HandleId) :
    ((s.handle id).installed = none) ∨
    (∃ i fresh, (s.handle id).installed = some i ∧
      ((strategy.rebuild i.params i.current).conduct s.library).answer = .ok (.ok fresh)) ∨
    (∃ i error, (s.handle id).installed = some i ∧
      rebuildFailure (s.handle id).name
        ((strategy.rebuild i.params i.current).conduct s.library).answer = some error) := by
  cases hi : (s.handle id).installed with
  | none => exact Or.inl rfl
  | some i =>
    right
    rcases hanswer : ((strategy.rebuild i.params i.current).conduct s.library).answer with
      payload | (cause | fresh)
    · exact Or.inr ⟨i, _, rfl, by rw [hanswer]; rfl⟩
    · exact Or.inr ⟨i, _, rfl, by rw [hanswer]; rfl⟩
    · exact Or.inl ⟨i, fresh, rfl, hanswer⟩

end Host

/-! ## What stays as it was -/

/-- A change of a handle that leaves its name, its lock and its parameters alone. -/
structure Handle.Steady (f : Handle ι → Handle ι) : Prop where
  name : ∀ h, (f h).name = h.name
  reloading : ∀ h, (f h).reloading = h.reloading
  params? : ∀ h, (f h).params? = h.params?

theorem Handle.Steady.id : Handle.Steady (fun h : Handle ι => h) :=
  ⟨fun _ => rfl, fun _ => rfl, fun _ => rfl⟩

theorem Handle.Steady.swap (fresh : ι) : Handle.Steady (·.swap fresh) :=
  ⟨fun h => h.swap_name fresh, fun h => h.swap_reloading fresh, fun h => h.swap_params? fresh⟩

namespace Host

/-- A refresh leaves behind what a rebuild did to the library, a steady change of its handle and a
notice. -/
theorem refreshHandle_steady (s : Host ι σ) (strategy : Strategy ι σ) (id : HandleId) :
    ∃ (f : Handle ι → Handle ι) (c : Conduct σ (Except RebuildError ι)) (n : Notice),
      Handle.Steady f ∧
        (s.refreshHandle strategy id).2 = ((s.after c).updateHandle id f).addNotice n := by
  have hsame : ∀ t : Host ι σ, t.updateHandle id (fun h => h) = t :=
    fun _ => updateHandle_eq_self rfl
  rcases s.refreshHandle_cases strategy id with
    hi | ⟨i, fresh, hi, hanswer⟩ | ⟨i, error, hi, hfailure⟩
  · -- no rebuild at all is one that does nothing
    have hafter : s.after (⟨.error .other, s.library, []⟩ : Conduct σ (Except RebuildError ι)) = s := by
      rw [after, List.append_nil]
    refine ⟨fun h => h, ⟨.error .other, s.library, []⟩, .unregisteredSkipped (s.handle id).name,
      .id, ?_⟩
    rw [refreshHandle_unregistered hi, hsame, hafter]
  · rw [refreshHandle_swapped hi hanswer]
    exact ⟨_, _, _, .swap fresh, rfl⟩
  · refine ⟨fun h => h, (strategy.rebuild i.params i.current).conduct s.library,
      .rebuildFailed (s.handle id).name strategy.capability error, .id, ?_⟩
    rw [refreshHandle_failed hi hfailure, hsame]

theorem refreshHandle_frame (s : Host ι σ) (strategy : Strategy ι σ) (id : HandleId) :
    (s.refreshHandle strategy id).2.handles.length = s.handles.length ∧
      (s.refreshHandle strategy id).2.registries = s.registries ∧
      (s.refreshHandle strategy id).2.coordinators = s.coordinators := by
  obtain ⟨f, c, n, _, hhost⟩ := s.refreshHandle_steady strategy id
  rw [hhost]
  exact ⟨List.length_modify .., rfl, rfl⟩

theorem refreshHandle_handle_of_ne (s : Host ι σ) (strategy : Strategy ι σ) {id other : HandleId}
    (h : other ≠ id) : (s.refreshHandle strategy id).2.handle other = s.handle other := by
  obtain ⟨f, c, n, _, hhost⟩ := s.refreshHandle_steady strategy id
  rw [hhost]
  exact handle_updateHandle_of_ne _ h _

theorem refreshHandle_name (s : Host ι σ) (strategy : Strategy ι σ) (id : HandleId) :
    ((s.refreshHandle strategy id).2.handle id).name = (s.handle id).name := by
  obtain ⟨f, c, n, hf, hhost⟩ := s.refreshHandle_steady strategy id
  rw [hhost]
  exact apply_handle_updateHandle Handle.name (hf.name _) id

theorem refreshHandle_reloading (s : Host ι σ) (strategy : Strategy ι σ) (id other : HandleId) :
    ((s.refreshHandle strategy id).2.handle other).reloading = (s.handle other).reloading := by
  obtain ⟨f, c, n, hf, hhost⟩ := s.refreshHandle_steady strategy id
  rw [hhost]
  exact apply_handle_updateHandle Handle.reloading (hf.reloading _) other

theorem Sound.refreshHandle {s : Host ι σ} (hs : s.Sound) (strategy : Strategy ι σ) (id : HandleId) :
    (s.refreshHandle strategy id).2.Sound := by
  obtain ⟨f, c, n, hf, hhost⟩ := s.refreshHandle_steady strategy id
  rw [hhost]
  refine Sound.congr (s := s.updateHandle id f) (hs.updateHandle (hf.name _) (hf.reloading _) ?_)
    rfl rfl
  intro i hi
  -- the handle held the same parameters before
  have hparams : (s.handle id).params? = some i.params := by
    rw [← hf.params?, Handle.params?, hi]
    rfl
  obtain ⟨j, hj, hsame⟩ := Option.map_eq_some_iff.mp hparams
  rw [← hsame]
  exact hs.params_name id j hj

end Host

/-! ## The lock around it -/

namespace Host

/-- The host with a handle's reload lock taken or free. -/
def setLock (s : Host ι σ) (id : HandleId) (held : Bool) : Host ι σ :=
  s.updateHandle id fun h => { h with reloading := held }

theorem setLock_setLock (s : Host ι σ) (id : HandleId) (first second : Bool) :
    (s.setLock id first).setLock id second = s.setLock id second :=
  updateHandle_updateHandle ..

theorem setLock_eq_self {s : Host ι σ} {id : HandleId} {held : Bool}
    (h : (s.handle id).reloading = held) : s.setLock id held = s := by
  apply updateHandle_eq_self
  rw [← h]

theorem updateHandle_swap_setLock (s : Host ι σ) (id : HandleId) (held : Bool) (fresh : ι) :
    (s.setLock id held).updateHandle id (·.swap fresh) =
      (s.updateHandle id (·.swap fresh)).setLock id held := by
  rw [setLock, setLock, updateHandle_updateHandle, updateHandle_updateHandle]
  apply updateHandle_congr
  show ({ s.handle id with reloading := held } : Handle ι).swap fresh =
    { (s.handle id).swap fresh with reloading := held }
  rw [Handle.swap, Handle.swap]
  cases (s.handle id).installed <;> rfl

theorem setLock_handle (s : Host ι σ) (id : HandleId) (held : Bool) :
    ((s.setLock id held).handle id).name = (s.handle id).name ∧
      ((s.setLock id held).handle id).installed = (s.handle id).installed ∧
      ((s.setLock id held).handle id).generation = (s.handle id).generation :=
  ⟨apply_handle_updateHandle Handle.name rfl id,
    apply_handle_updateHandle Handle.installed rfl id,
    apply_handle_updateHandle Handle.generation rfl id⟩

end Host

namespace Act

theorem runOn_acquire {s : Host ι σ} {id : HandleId} (hidle : (s.handle id).reloading = false) :
    (acquire id : Act ι σ Unit).runOn s = (.ok (), s.setLock id true) := by
  have hbarrier : (barrier id : Act ι σ Unit).runOn s = (.ok (), s) := by
    rw [barrier, Effect.runOn_get_bind, hidle]
    rfl
  rw [acquire, Effect.runOn_bind_ok hbarrier]
  rfl

theorem runOn_release (s : Host ι σ) (id : HandleId) :
    (release id : Act ι σ Unit).runOn s = (.ok (), s.setLock id false) := rfl

theorem runOn_settle {s : Host ι σ} {id : HandleId} {i : Installed ι}
    (hi : (s.handle id).installed = some i) (capability : Capability)
    (rebuilt : Except Payload (Except RebuildError ι)) :
    (settle id (s.handle id).name capability rebuilt).runOn (s.setLock id true) =
      match rebuilt with
      | .ok (.ok fresh) => (.ok .swapped, ((s.updateHandle id (·.swap fresh)).addNotice
          (.rebuilt (s.handle id).name capability ((s.handle id).generation + 1))).setLock id true)
      | .ok (.error error) => (.ok (.failed error),
          (s.addNotice (.rebuildFailed (s.handle id).name capability error)).setLock id true)
      | .error payload => (.ok (.failed (.panicked (s.handle id).name payload.message)),
          (s.addNotice (.rebuildFailed (s.handle id).name capability
            (.panicked (s.handle id).name payload.message))).setLock id true) := by
  rcases rebuilt with payload | (error | fresh)
  · rfl
  · rfl
  · -- the notice is written after the exchange, with the name and the count of that moment
    have hafter := Host.setLock_handle (s.updateHandle id (·.swap fresh)) id true
    have hswapped := Host.handle_updateHandle_self (Host.lt_of_installed hi) (·.swap fresh)
    have hname : (((s.updateHandle id (·.swap fresh)).setLock id true).handle id).name =
        (s.handle id).name := by
      rw [hafter.1, hswapped, Handle.swap_name]
    have hgeneration : (((s.updateHandle id (·.swap fresh)).setLock id true).handle id).generation =
        (s.handle id).generation + 1 := by
      rw [hafter.2.2, hswapped, Handle.swap_of_installed hi]
    show (_, ((s.setLock id true).updateHandle id (·.swap fresh)).addNotice (.rebuilt
      (((s.setLock id true).updateHandle id (·.swap fresh)).handle id).name capability
      (((s.setLock id true).updateHandle id (·.swap fresh)).handle id).generation)) = _
    rw [Host.updateHandle_swap_setLock, hname, hgeneration]
    rfl

/-- What happens between taking the lock and giving it back. -/
def refreshLocked (h : Handle ι) (id : HandleId) (strategy : Strategy ι σ) : Act ι σ Outcome :=
  match h.installed with
  | none => log (.unregisteredSkipped h.name) >>= fun _ => pure .unregistered
  | some i => Effect.attempt (strategy.rebuild i.params i.current) >>=
      settle id h.name strategy.capability

theorem refreshWith_eq (id : HandleId) (strategy : Strategy ι σ) :
    refreshWith id strategy = acquire id >>= fun _ => get >>= fun s =>
      refreshLocked (s.handle id) id strategy >>= fun outcome => release id >>= fun _ =>
        pure outcome := by
  simp only [refreshWith, refreshLocked]
  congr 1
  funext _
  congr 1
  funext s
  cases (s.handle id).installed with
  | none => simp only [bind_assoc, pure_bind]
  | some i => simp only [bind_assoc]

/-- With the lock held, a refresh comes to what it would come to without one. -/
theorem runOn_refreshLocked {strategy : Strategy ι σ} (hd : strategy.Detached) {s : Host ι σ}
    {id : HandleId} {h : Handle ι} (hname : h.name = (s.handle id).name)
    (hinstalled : h.installed = (s.handle id).installed) :
    (refreshLocked h id strategy).runOn (s.setLock id true) =
      (.ok (s.refreshHandle strategy id).1, (s.refreshHandle strategy id).2.setLock id true) := by
  rw [refreshLocked, hname, hinstalled]
  cases hi : (s.handle id).installed with
  | none =>
    rw [Host.refreshHandle_unregistered hi]
    rfl
  | some i =>
    -- the rebuild changes nothing but the library, so the lock stays held around it
    have hattempt : (Effect.attempt (strategy.rebuild i.params i.current)).runOn (s.setLock id true) =
        (.ok ((strategy.rebuild i.params i.current).conduct s.library).answer,
          (s.after ((strategy.rebuild i.params i.current).conduct s.library)).setLock id true) :=
      (hd i.params i.current).runOn_attempt (s.setLock id true)
    rw [Effect.runOn_bind_ok hattempt]
    have hsettle := runOn_settle
      (s := s.after ((strategy.rebuild i.params i.current).conduct s.library)) hi
      strategy.capability ((strategy.rebuild i.params i.current).conduct s.library).answer
    refine Eq.trans hsettle ?_
    simp only [Host.refreshHandle, hi]
    rcases ((strategy.rebuild i.params i.current).conduct s.library).answer with
      payload | (error | fresh)
    · rfl
    · rfl
    · rfl

/-- **A refresh with a detached strategy.** It returns whatever the rebuild does, a panic included,
and comes to exactly what `Host.refreshHandle` says. -/
theorem runOn_refreshWith {strategy : Strategy ι σ} (hd : strategy.Detached) {s : Host ι σ}
    {id : HandleId} (hidle : (s.handle id).reloading = false) :
    (refreshWith id strategy).runOn s =
      (.ok (s.refreshHandle strategy id).1, (s.refreshHandle strategy id).2) := by
  obtain ⟨hname, hinstalled, _⟩ := s.setLock_handle id true
  rw [refreshWith_eq, Effect.runOn_bind_ok (runOn_acquire hidle), Effect.runOn_get_bind,
    Effect.runOn_bind_ok (runOn_refreshLocked hd hname hinstalled),
    Effect.runOn_bind_ok (runOn_release _ id), Effect.runOn_pure, Host.setLock_setLock,
    Host.setLock_eq_self]
  rw [Host.refreshHandle_reloading, hidle]

end Act

/-! ## What a refresh makes of its handle -/

section Visits

variable {ε : Type}

/-- Every rebuild of the strategy adds to what `view` shows of the library; `Step` says what it
adds, given the parameters, the installed instance and what became of the rebuild. -/
def Strategy.Shows (strategy : Strategy ι σ) (view : σ → List ε)
    (Step : Params → ι → Except Payload (Except RebuildError ι) → List ε → Prop) : Prop :=
  ∀ params current library, ∃ shown,
    view ((strategy.rebuild params current).conduct library).library = view library ++ shown ∧
      Step params current ((strategy.rebuild params current).conduct library).answer shown

theorem Strategy.Shows.mono {strategy : Strategy ι σ} {view : σ → List ε}
    {Step Step' : Params → ι → Except Payload (Except RebuildError ι) → List ε → Prop}
    (h : strategy.Shows view Step)
    (hstep : ∀ params current result shown, Step params current result shown →
      Step' params current result shown) : strategy.Shows view Step' := by
  intro params current library
  obtain ⟨shown, hview, hshown⟩ := h params current library
  exact ⟨shown, hview, hstep _ _ _ _ hshown⟩

/-- The outcome of refreshing a handle, the handle afterwards, and what the rebuild showed: nothing
is rebuilt for an empty handle, and only a rebuild that gave an instance changes the handle. -/
inductive Handle.Refreshed
    (Step : Params → ι → Except Payload (Except RebuildError ι) → List ε → Prop) (h : Handle ι) :
    Outcome → Handle ι → List ε → Prop where
  | skipped (hi : h.installed = none) : Refreshed Step h .unregistered h []
  | swapped {i : Installed ι} {fresh : ι} {shown : List ε} (hi : h.installed = some i)
      (hstep : Step i.params i.current (.ok (.ok fresh)) shown) :
      Refreshed Step h .swapped (h.swap fresh) shown
  | failed {i : Installed ι} {result : Except Payload (Except RebuildError ι)} {error : RebuildError}
      {shown : List ε} (hi : h.installed = some i) (hstep : Step i.params i.current result shown)
      (hfailure : rebuildFailure h.name result = some error) :
      Refreshed Step h (.failed error) h shown

variable {strategy : Strategy ι σ} {view : σ → List ε}
  {Step : Params → ι → Except Payload (Except RebuildError ι) → List ε → Prop}

namespace Host

/-- A refresh makes of its handle what the rebuild's result says. -/
theorem refreshHandle_refreshed (hstrategy : strategy.Shows view Step) (s : Host ι σ)
    (id : HandleId) : ∃ shown,
      view (s.refreshHandle strategy id).2.library = view s.library ++ shown ∧
        (s.handle id).Refreshed Step (s.refreshHandle strategy id).1
          ((s.refreshHandle strategy id).2.handle id) shown := by
  -- the three ways that a refresh can end, each with what the rebuild shows
  rcases s.refreshHandle_cases strategy id with hi | ⟨i, fresh, hi, hanswer⟩ | ⟨i, error, hi, hfailure⟩
  · rw [refreshHandle_unregistered hi]
    exact ⟨[], (List.append_nil _).symm, .skipped hi⟩
  · rw [refreshHandle_swapped hi hanswer]
    obtain ⟨shown, hview, hstep⟩ := hstrategy i.params i.current s.library
    rw [hanswer] at hstep
    refine ⟨shown, hview, ?_⟩
    have hswapped : ((s.updateHandle id (·.swap fresh)).handle id) = (s.handle id).swap fresh :=
      handle_updateHandle_self (lt_of_installed hi) _
    show (s.handle id).Refreshed Step .swapped ((s.updateHandle id (·.swap fresh)).handle id) shown
    rw [hswapped]
    exact .swapped hi hstep
  · rw [refreshHandle_failed hi hfailure]
    obtain ⟨shown, hview, hstep⟩ := hstrategy i.params i.current s.library
    exact ⟨shown, hview, .failed hi hstep hfailure⟩

end Host

/-! ## Several handles -/

/-- A handle's name and what became of the handle. -/
abbrev Verdict := String × Outcome

namespace Host

/-- Refreshing handles one after the other: each name with its outcome, and the host afterwards. -/
def refreshHandles (strategy : Strategy ι σ) (s : Host ι σ) :
    List HandleId → List Verdict × Host ι σ
  | [] => ([], s)
  | id :: ids =>
    let (outcome, s') := s.refreshHandle strategy id
    let (verdicts, s'') := refreshHandles strategy s' ids
    (((s.handle id).name, outcome) :: verdicts, s'')

theorem refreshHandles_cons (s : Host ι σ) (id : HandleId) (ids : List HandleId) :
    s.refreshHandles strategy (id :: ids) =
      (((s.handle id).name, (s.refreshHandle strategy id).1) ::
        ((s.refreshHandle strategy id).2.refreshHandles strategy ids).1,
        ((s.refreshHandle strategy id).2.refreshHandles strategy ids).2) := rfl

theorem refreshHandles_frame (strategy : Strategy ι σ) (s : Host ι σ) (ids : List HandleId) :
    (s.refreshHandles strategy ids).2.handles.length = s.handles.length ∧
      (s.refreshHandles strategy ids).2.registries = s.registries ∧
      (s.refreshHandles strategy ids).2.coordinators = s.coordinators := by
  induction ids generalizing s with
  | nil => exact ⟨rfl, rfl, rfl⟩
  | cons id ids ih =>
    obtain ⟨hlength, hregistries, hcoordinators⟩ := s.refreshHandle_frame strategy id
    obtain ⟨hlength', hregistries', hcoordinators'⟩ := ih (s.refreshHandle strategy id).2
    exact ⟨hlength'.trans hlength, hregistries'.trans hregistries,
      hcoordinators'.trans hcoordinators⟩

theorem refreshHandles_handle_of_notMem (s : Host ι σ) {ids : List HandleId} {other : HandleId}
    (h : other ∉ ids) : (s.refreshHandles strategy ids).2.handle other = s.handle other := by
  induction ids generalizing s with
  | nil => rfl
  | cons id ids ih =>
    rw [List.mem_cons, not_or] at h
    rw [refreshHandles_cons, ih _ h.2, refreshHandle_handle_of_ne s strategy h.1]

theorem Sound.refreshHandles {s : Host ι σ} (hs : s.Sound) (ids : List HandleId) :
    (s.refreshHandles strategy ids).2.Sound := by
  induction ids generalizing s with
  | nil => exact hs
  | cons id ids ih => exact ih (hs.refreshHandle strategy id)

end Host

/-- One handle's turn in a cycle. -/
structure Visit (ε : Type) where
  handle : HandleId
  outcome : Outcome
  /-- What the rebuild showed. -/
  shown : List ε

namespace Host

/-- **Refreshing several handles.** Each has its turn once and in order, on the handle as it was
before the first of them: what came of the turns before makes no difference. -/
theorem refreshHandles_visits (hstrategy : strategy.Shows view Step) (s : Host ι σ)
    {ids : List HandleId} (hnodup : ids.Nodup) : ∃ visits : List (Visit ε),
      visits.map (·.handle) = ids ∧
        (s.refreshHandles strategy ids).1 =
          visits.map (fun v => ((s.handle v.handle).name, v.outcome)) ∧
        view (s.refreshHandles strategy ids).2.library =
          view s.library ++ (visits.map (·.shown)).flatten ∧
        ∀ v ∈ visits, (s.handle v.handle).Refreshed Step v.outcome
          ((s.refreshHandles strategy ids).2.handle v.handle) v.shown := by
  induction ids generalizing s with
  | nil => exact ⟨[], rfl, rfl, (List.append_nil _).symm, by simp⟩
  | cons id ids ih =>
    obtain ⟨hid, hids⟩ := List.nodup_cons.mp hnodup
    obtain ⟨shown, hview, hrefreshed⟩ := s.refreshHandle_refreshed hstrategy id
    obtain ⟨visits, hhandles, hverdicts, hviews, hvisits⟩ := ih (s.refreshHandle strategy id).2 hids
    -- the first turn leaves the handles of the other turns as they were
    have hsame : ∀ v ∈ visits,
        (s.refreshHandle strategy id).2.handle v.handle = s.handle v.handle := by
      intro v hv
      apply refreshHandle_handle_of_ne
      rintro rfl
      exact hid (hhandles ▸ List.mem_map_of_mem hv)
    refine ⟨⟨id, (s.refreshHandle strategy id).1, shown⟩ :: visits, ?_, ?_, ?_, ?_⟩
    · rw [List.map_cons, hhandles]
    · have hnames : visits.map (fun v =>
          (((s.refreshHandle strategy id).2.handle v.handle).name, v.outcome)) =
          visits.map (fun v => ((s.handle v.handle).name, v.outcome)) := by
        apply List.map_congr_left
        intro v hv
        rw [hsame v hv]
      exact congrArg (List.cons _) (hverdicts.trans hnames)
    · rw [refreshHandles_cons, hviews, hview, List.map_cons, List.flatten_cons, List.append_assoc]
    · intro v hv
      rw [refreshHandles_cons]
      rcases List.mem_cons.mp hv with rfl | hv
      · -- and the turns after leave the first handle alone
        rw [refreshHandles_handle_of_notMem _ hid]
        exact hrefreshed
      · rw [← hsame v hv]
        exact hvisits v hv

end Host

end Visits

/-! ## The loop of a cycle -/

namespace Verdict

/-- The name, if its handle serves a fresh instance. -/
def swapped? : Verdict → Option String
  | (name, .swapped) => some name
  | _ => none

/-- The name with its error, if its rebuild failed. -/
def failed? : Verdict → Option (String × RebuildError)
  | (name, .failed error) => some (name, error)
  | _ => none

/-- The name, if its handle was never registered. -/
def skipped? : Verdict → Option String
  | (name, .unregistered) => some name
  | _ => none

theorem swapped?_eq_some_iff {v : Verdict} {name : String} :
    v.swapped? = some name ↔ v = (name, .swapped) := by
  obtain ⟨other, outcome⟩ := v
  cases outcome <;> simp [swapped?]

theorem failed?_eq_some_iff {v : Verdict} {entry : String × RebuildError} :
    v.failed? = some entry ↔ v = (entry.1, .failed entry.2) := by
  obtain ⟨other, outcome⟩ := v
  obtain ⟨name, error⟩ := entry
  cases outcome <;> simp [failed?]

theorem skipped?_eq_some_iff {v : Verdict} {name : String} :
    v.skipped? = some name ↔ v = (name, .unregistered) := by
  obtain ⟨other, outcome⟩ := v
  cases outcome <;> simp [skipped?]

end Verdict

theorem Verdict.count_swapped (verdicts : List Verdict) (name : String) :
    (verdicts.filterMap Verdict.swapped?).count name = verdicts.count (name, .swapped) := by
  induction verdicts with
  | nil => rfl
  | cons verdict verdicts ih =>
    obtain ⟨other, outcome⟩ := verdict
    rw [List.filterMap_cons, List.count_cons, ← ih]
    -- only one of the outcomes is listed
    cases outcome with
    | swapped =>
      show List.count name (other :: verdicts.filterMap Verdict.swapped?) = _
      rw [List.count_cons]
      simp
    | failed error => simp [Verdict.swapped?]
    | unregistered => simp [Verdict.swapped?]

/-- Files outcomes one after the other. -/
def Report.recordAll (r : Report) (verdicts : List Verdict) : Report :=
  verdicts.foldl (fun r verdict => r.record verdict.1 verdict.2) r

theorem Report.recordAll_cons (r : Report) (name : String) (outcome : Outcome)
    (verdicts : List Verdict) :
    r.recordAll ((name, outcome) :: verdicts) = (r.record name outcome).recordAll verdicts := rfl

theorem Report.recordAll_eq (r : Report) (verdicts : List Verdict) :
    r.recordAll verdicts =
      ⟨r.capability, r.refreshed ++ verdicts.filterMap Verdict.swapped?,
        r.failed ++ verdicts.filterMap Verdict.failed?,
        r.skipped ++ verdicts.filterMap Verdict.skipped?⟩ := by
  induction verdicts generalizing r with
  | nil => simp [recordAll]
  | cons verdict verdicts ih =>
    obtain ⟨name, outcome⟩ := verdict
    rw [recordAll_cons, ih]
    cases outcome <;>
      simp [record, List.filterMap_cons, Verdict.swapped?, Verdict.failed?, Verdict.skipped?]

/-- **The loop of a cycle.** It always returns: the report with every outcome filed in order. -/
theorem Collaborators.runOn_refreshEach {strategy : Strategy ι σ} (hd : strategy.Detached)
    {s : Host ι σ} (hs : s.Sound) (ids : List HandleId) (report : Report) :
    (Collaborators.refreshEach strategy ids report).runOn s =
      (.ok (report.recordAll (s.refreshHandles strategy ids).1),
        (s.refreshHandles strategy ids).2) := by
  induction ids generalizing s report with
  | nil => rfl
  | cons id ids ih =>
    -- the name is read after the refresh, which leaves it as it was
    have hname : ((s.refreshHandle strategy id).2.handle id).name = (s.handle id).name :=
      s.refreshHandle_name strategy id
    rw [refreshEach, Effect.runOn_bind_ok (Act.runOn_refreshWith hd (hs.idle id)),
      Effect.runOn_get_bind, ih (hs.refreshHandle strategy id), hname]
    rfl

end LiveSwap
