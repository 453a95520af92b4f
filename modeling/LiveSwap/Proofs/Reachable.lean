import LiveSwap.Proofs.Run

/-!
# Reachable hosts

A program gets from a host without handles to others by creating registries, coordinators and handles, by
registering, by refreshing, and by using instances; each of its coordinators may work with another library.
Every host it gets to is sound: `Host.Reachable.sound`.
-/

namespace LiveSwap

variable {ι σ : Type}

namespace Host

/-- The hosts between the operations of a program. -/
inductive Reachable : Host ι σ → Prop where
  | start (library : σ) : Reachable (Host.start library)
  | newRegistry {s : Host ι σ} (h : Reachable s) : Reachable (Act.newRegistry.runOn s).2
  | newCoordinator {s : Host ι σ} (h : Reachable s) (r : RegistryId) (config : HotSwapConfig) :
      Reachable ((Act.newCoordinator r config).runOn s).2
  | getOrCreate {s : Host ι σ} (h : Reachable s) (r : RegistryId) (name : String) :
      Reachable ((Act.getOrCreate r name).runOn s).2
  | register {s : Host ι σ} (h : Reachable s) (r : RegistryId) (first : ι) (params : Params) :
      Reachable ((Act.register r first params).runOn s).2
  | registerOn {s : Host ι σ} (h : Reachable s) (id : HandleId) (first : ι) (params : Params) :
      Reachable ((Act.registerOn id first params).runOn s).2
  | refresh {s : Host ι σ} (h : Reachable s) {c : Collaborators ι σ} (hd : c.Detached)
      (k : CoordinatorId) (name : String) : Reachable ((c.refresh k name).runOn s).2
  | refreshAll {s : Host ι σ} (h : Reachable s) {c : Collaborators ι σ} (hd : c.Detached)
      (k : CoordinatorId) : Reachable ((c.refreshAll k).runOn s).2
  /-- Whatever an instance does when it is used. -/
  | used {s : Host ι σ} (h : Reachable s) (use : Call σ Unit) : Reachable (use.act.runOn s).2

variable {s : Host ι σ}

theorem Sound.start (library : σ) : (Host.start library : Host ι σ).Sound := by
  refine ⟨fun r name id hentry => ?_, fun r => List.nodup_nil, fun id => rfl, fun id i hi => ?_⟩
  · cases hentry
  · cases hi

theorem Sound.newRegistry (hs : s.Sound) : ((Act.newRegistry : Act ι σ RegistryId).runOn s).2.Sound := by
  have hregistry : ∀ r, ((Act.newRegistry : Act ι σ RegistryId).runOn s).2.registry r = s.registry r :=
    s.registry_concat_empty
  refine ⟨fun r name id hentry => ?_, fun r => ?_, hs.idle, hs.params_name⟩
  · rw [hregistry] at hentry
    exact hs.entry r name id hentry
  · rw [hregistry]
    exact hs.names_nodup r

theorem Sound.enter (hs : s.Sound) (r : RegistryId) (name : String) : (s.enter r name).2.Sound := by
  rw [Host.enter]
  cases hfind : s.find? r name with
  | some id => exact hs
  | none => exact hs.createHandle hfind

theorem Sound.registerOn (hs : s.Sound) (id : HandleId) (first : ι) (params : Params) :
    ((Act.registerOn id first params).runOn s).2.Sound := by
  rw [Act.registerOn, Effect.runOn_modifyGet]
  cases hregister : s.registerOn id first params with
  | error e => exact hs
  | ok s' =>
    obtain ⟨hname, -, rfl⟩ := registerOn_eq_ok_iff.mp hregister
    exact hs.enroll hname first

theorem Sound.refresh (hs : s.Sound) {c : Collaborators ι σ} (hd : c.Detached) (id : CoordinatorId)
    (name : String) : ((c.refresh id name).runOn s).2.Sound := by
  -- whichever way the refresh ends, the host was changed by settling and one handle's refresh at most
  cases hk : s.coordinator? id with
  | none =>
    rw [Collaborators.refresh, Effect.runOn_get_bind, hk]
    exact hs
  | some k =>
    rw [Collaborators.runOn_refresh hd hs hk]
    cases (s.registry k.registry).lookup name with
    | none => exact hs
    | some handle =>
      cases (c.settling k.config s.library).answer with
      | error payload => exact hs.after _
      | ok capability => exact (hs.after _).refreshHandle _ _

theorem Sound.refreshAll (hs : s.Sound) {c : Collaborators ι σ} (hd : c.Detached) (id : CoordinatorId) :
    ((c.refreshAll id).runOn s).2.Sound := by
  cases hk : s.coordinator? id with
  | none =>
    rw [Collaborators.refreshAll, Effect.runOn_get_bind, hk]
    exact hs
  | some k =>
    rw [Collaborators.runOn_refreshAll hd hs hk]
    cases (c.settling k.config s.library).answer with
    | error payload => exact hs.after _
    | ok capability => exact ((hs.after _).cycle c _ capability).congr rfl rfl

/-- **Every reachable host is sound.** -/
theorem Reachable.sound (h : s.Reachable) : s.Sound := by
  -- one case per operation, each by what that operation keeps
  induction h with
  | start library => exact .start library
  | newRegistry _ ih => exact ih.newRegistry
  | newCoordinator _ r config ih => exact ih.congr rfl rfl
  | getOrCreate _ r name ih =>
    rw [Act.runOn_getOrCreate]
    exact ih.enter r name
  | register _ r first params ih =>
    rw [Act.register, Effect.runOn_bind_ok (Act.runOn_getOrCreate _ r params.name)]
    exact (ih.enter r params.name).registerOn _ first params
  | registerOn _ id first params ih => exact ih.registerOn id first params
  | refresh _ hd k name ih => exact ih.refresh hd k name
  | refreshAll _ hd k ih => exact ih.refreshAll hd k
  | used _ use ih =>
    rw [use.runOn_act]
    exact ih.after _

end Host

end LiveSwap
