import LiveSwap.Proofs.PoolRaces
import LiveSwap.Proofs.Reachable

/-!
# Programs that use pools

A program calls the pool library, registers pools that it has in hand, refreshes handles one by one and in
cycles, and lets workers do their rounds at any point. All that it does is made of the moves of `Races.Move`.

* **`Refreshing`** — what every way to refresh keeps to because a refresh of one handle does.
* **`Races.Achieves`** — a thread that nobody interrupts gets from one host to another by such moves.
* **`Service.Ongoing.perform`** — whatever a program does, it and its workers make such moves.
* **`serials_grow`** — serials grow, for calls in a row, for threads in any order and for such programs.
-/

namespace LiveSwap.Pool

namespace Library

/-- The library after operations. -/
def after (l : Library) (ops : List Op) : Library := ops.foldl (fun l op => (op.apply l).2) l

theorem after_append (l : Library) (ops more : List Op) : l.after (ops ++ more) = (l.after ops).after more :=
  List.foldl_append

end Library

/-! ## Rebuilding -/

/-- What a legacy rebuild asks of the library first: it gives up the current pool. -/
def tidyOps (capability : Capability) (current : Pool) : List Library.Op :=
  match capability with
  | .modern => []
  | .legacy => [.deregister current]

/-- The build that a rebuild asks for. -/
def buildOp (params : Params) (url : String) (capability : Capability) : Library.Op :=
  .build (keyOf params) url params.properties capability

/-- What a rebuild asks of the library; without a URL there is nothing to build. -/
def rebuildOps (params : Params) (capability : Capability) (current : Pool) : List Library.Op :=
  tidyOps capability current ++ match urlOf params with
    | .ok url => [buildOp params url capability]
    | .error _ => []

theorem after_tidyOps (capability : Capability) (current : Pool) (l : Library) :
    l.after (tidyOps capability current) = l.tidied capability current := by
  cases capability <;> rfl

/-- **What a rebuild comes to**: its operations, and a fresh pool if the last one of them returns it. -/
theorem conduct_rebuild_ops (params : Params) (capability : Capability) (current : Pool) (l : Library) :
    ∃ notices,
      (∃ (url : String) (fresh : Pool), urlOf params = .ok url ∧
        ((l.after (tidyOps capability current)).build (keyOf params) url params.properties capability).1 =
          .ok fresh ∧
        ((collaborators.strategies.select capability).rebuild params current).conduct l =
          ⟨.ok (.ok fresh), l.after (rebuildOps params capability current), notices⟩) ∨
      ∃ error, ((collaborators.strategies.select capability).rebuild params current).conduct l =
        ⟨.ok (.error error), l.after (rebuildOps params capability current), notices⟩ := by
  unfold rebuildOps
  -- without a URL nothing is built, but a legacy rebuild has given up the current pool by then
  cases hurl : urlOf params with
  | error e =>
    obtain ⟨notices, hconduct⟩ := conduct_rebuild_of_error hurl capability current l
    refine ⟨notices, .inr ⟨.construction params.name capability e.message, ?_⟩⟩
    rw [hconduct, List.append_nil, after_tidyOps]
  | ok url =>
    obtain ⟨notices, hconduct⟩ := conduct_rebuild hurl capability current l
    rw [Library.rebuild_eq_build, ← after_tidyOps] at hconduct
    refine ⟨notices, ?_⟩
    rw [hconduct, Library.after_append]
    cases hbuilt : ((l.after (tidyOps capability current)).build (keyOf params) url params.properties
        capability).1 with
    | error e => exact .inr ⟨.construction params.name capability e.message, rfl⟩
    | ok fresh => exact .inl ⟨url, fresh, rfl, hbuilt, rfl⟩

/-! ## Refreshing -/

/-- What may hold between a host and what becomes of it when handles are refreshed: it suffices that every
refresh of one handle keeps to it. -/
structure Refreshing (R : PoolHost → PoolHost → Prop) : Prop where
  same : ∀ {s s' : PoolHost}, s'.handle = s.handle → s'.library = s.library → R s s'
  trans : ∀ {s s' s'' : PoolHost}, R s s' → R s' s'' → R s s''
  handle : ∀ {s : PoolHost}, s.Sound → ∀ (id : HandleId) (capability : Capability),
    R s (s.refreshHandle (collaborators.strategies.select capability) id).2

namespace Refreshing

variable {R : PoolHost → PoolHost → Prop} {s : PoolHost}

theorem handles (hR : Refreshing R) (hs : s.Sound) (capability : Capability) (ids : List HandleId) :
    R s (s.refreshHandles (collaborators.strategies.select capability) ids).2 := by
  induction ids generalizing s with
  | nil => exact hR.same rfl rfl
  | cons id ids ih => exact hR.trans (hR.handle hs id capability) (ih (hs.refreshHandle _ id))

theorem refreshWith (hR : Refreshing R) (hs : s.Sound) (id : HandleId) (capability : Capability) :
    R s ((Act.refreshWith id (collaborators.strategies.select capability)).runOn s).2 := by
  rw [Act.runOn_refreshWith (collaborators_detached.select capability) (hs.idle id)]
  exact hR.handle hs id capability

theorem settling (hR : Refreshing R) (config : HotSwapConfig) (s : PoolHost) :
    R s (s.after (collaborators.settling config s.library)) := by
  obtain ⟨notices, hsettling⟩ := settling_eq config s.library
  exact hR.same rfl (by rw [hsettling]; rfl)

theorem refresh (hR : Refreshing R) (hs : s.Sound) (k : CoordinatorId) (name : String) :
    R s ((collaborators.refresh k name).runOn s).2 := by
  -- the refresh may find no coordinator, no handle or no capability, and otherwise goes on to the handle
  cases hk : s.coordinator? k with
  | none =>
    rw [Collaborators.refresh, Effect.runOn_get_bind, hk]
    exact hR.same rfl rfl
  | some coordinator =>
    have hsettled := hR.settling coordinator.config s
    rw [Collaborators.runOn_refresh collaborators_detached hs hk]
    cases (s.registry coordinator.registry).lookup name with
    | none => exact hR.same rfl rfl
    | some id =>
      cases (collaborators.settling coordinator.config s.library).answer with
      | error payload => exact hsettled
      | ok capability => exact hR.trans hsettled (hR.handle (hs.after _) id capability)

theorem cycle (hR : Refreshing R) (hs : s.Sound) (registry : RegistryId) (capability : Capability) :
    R s (s.cycle collaborators registry capability).2 := by
  have hstarted : R s (s.addNotice (.cycleStarted capability (s.registry registry).handles.length)) :=
    hR.same rfl rfl
  have hrefreshed := hR.trans hstarted (hR.handles (hs.addNotice _) capability (s.registry registry).handles)
  exact hR.trans hrefreshed (hR.same rfl rfl)

theorem refreshAll (hR : Refreshing R) (hs : s.Sound) (k : CoordinatorId) :
    R s ((collaborators.refreshAll k).runOn s).2 := by
  cases hk : s.coordinator? k with
  | none =>
    rw [Collaborators.refreshAll, Effect.runOn_get_bind, hk]
    exact hR.same rfl rfl
  | some coordinator =>
    have hsettled := hR.settling coordinator.config s
    rw [Collaborators.runOn_refreshAll collaborators_detached hs hk]
    -- the cycle comes after settling, and its report is kept at the end
    cases (collaborators.settling coordinator.config s.library).answer with
    | error payload => exact hsettled
    | ok capability =>
      have hcycle := hR.cycle (hs.after (collaborators.settling coordinator.config s.library))
        coordinator.registry capability
      exact hR.trans hsettled (hR.trans hcycle (hR.same rfl rfl))

end Refreshing

namespace Races

open Interleaving (Turn Turns)

/-! ## What one thread achieves -/

section Goes

variable {τ : Type} [DecidableEq τ] {t : τ} {others : τ → Stage} {now next last : Stage}
  {site site' site'' : Site}

/-- A thread that nobody interrupts goes from one stage to another. -/
def Goes (t : τ) (others : τ → Stage) (now : Stage) (site : Site) (next : Stage) (site' : Site) : Prop :=
  ∃ history, Turns Move ⟨site, Function.update others t now⟩ history
    ⟨site', Function.update others t next⟩

theorem Goes.refl : Goes t others now site now site := ⟨[], .nil⟩

theorem Goes.move {event : Event} (h : Move now site event next site') :
    Goes t others now site next site' :=
  ⟨[(t, event)], .cons (Turn.alone t others h) .nil⟩

theorem Goes.trans (h : Goes t others now site next site') (h' : Goes t others next site' last site'') :
    Goes t others now site last site'' := by
  obtain ⟨history, hturns⟩ := h
  obtain ⟨history', hturns'⟩ := h'
  exact ⟨history ++ history', hturns.append hturns'⟩

theorem Goes.operate (t : τ) (others : τ → Stage) (now : Stage) (ops : List Library.Op) (site : Site) :
    ∃ more, Goes t others now site now
      { site with library := site.library.after ops, pools := site.pools ++ more } := by
  induction ops generalizing site with
  | nil => exact ⟨[], by rw [List.append_nil]; exact .refl⟩
  | cons op ops ih =>
    obtain ⟨more, hgoes⟩ := ih (site.operate op)
    refine ⟨(op.apply site.library).1.toList ++ more, ?_⟩
    rw [← List.append_assoc]
    exact (Goes.move (.operate op)).trans hgoes

section Refresh

variable {id : HandleId} (t : τ) (others : τ → Stage) (hregistered : (site.handles id).isRegistered)
  (hfree : (site.handles id).reloading = false) {ops : List Library.Op}

include hregistered hfree

theorem Goes.rebuild (ops : List Library.Op) : ∃ more, Goes t others .idle site (.rebuilding id)
    ⟨Function.update site.handles id (site.handles id).lock, site.library.after ops, site.pools ++ more⟩ := by
  obtain ⟨more, hops⟩ := Goes.operate t others (.rebuilding id) ops (site.setHandle id (site.handles id).lock)
  exact ⟨more, (Goes.move (.start hregistered hfree)).trans hops⟩

/-- **A refresh that ends with a fresh pool**, with the operations before the one that returned it. -/
theorem Goes.swap {op : Library.Op} {fresh : Pool}
    (hfresh : (op.apply (site.library.after ops)).1 = some fresh) : ∃ more, Goes t others .idle site .idle
      ⟨Function.update site.handles id ((site.handles id).swap fresh), (op.apply (site.library.after ops)).2,
        site.pools ++ more⟩ := by
  obtain ⟨more, hrebuild⟩ := Goes.rebuild t others hregistered hfree ops
  have hbuild := hrebuild.trans (.move (.build op hfresh))
  have hgoes := (hbuild.trans (.move .install)).trans (.move .finish)
  refine ⟨more ++ [fresh], ?_⟩
  simpa [Site.setHandle, Site.operate, hfresh, Handle.unlock_swap_lock _ _ hfree] using hgoes

/-- **A refresh that comes to nothing.** -/
theorem Goes.fail (ops : List Library.Op) : ∃ more, Goes t others .idle site .idle
    ⟨site.handles, site.library.after ops, site.pools ++ more⟩ := by
  obtain ⟨more, hrebuild⟩ := Goes.rebuild t others hregistered hfree ops
  have hgoes := (hrebuild.trans (.move .fail)).trans (.move .finish)
  refine ⟨more, ?_⟩
  simpa [Site.setHandle, Handle.unlock_lock _ hfree] using hgoes

end Refresh

end Goes

/-- What threads see of a host. -/
def siteOf (s : PoolHost) (pools : List Pool) : Site := ⟨s.handle, s.library, pools⟩

/-- An idle thread that nobody interrupts gets from one host to the other, with these pools in hand. -/
def Achieves (hand : List Pool) (s s' : PoolHost) : Prop :=
  ∀ (τ : Type) [DecidableEq τ] (t : τ) (others : τ → Stage) (pools : List Pool), hand ⊆ pools →
    ∃ more, Goes t others .idle (siteOf s pools) .idle (siteOf s' (pools ++ more))

variable {hand : List Pool} {s s' s'' : PoolHost} {id : HandleId}

/-- Threads see nothing but handles and the library. -/
theorem Achieves.of_same (hhandle : s'.handle = s.handle) (hlibrary : s'.library = s.library) :
    Achieves hand s s' := by
  intro τ _ t others pools _
  refine ⟨[], ?_⟩
  rw [siteOf, siteOf, hhandle, hlibrary, List.append_nil]
  exact .refl

theorem Achieves.trans (h : Achieves hand s s') (h' : Achieves hand s' s'') : Achieves hand s s'' := by
  intro τ _ t others pools hpools
  obtain ⟨more, hgoes⟩ := h τ t others pools hpools
  obtain ⟨more', hgoes'⟩ := h' τ t others (pools ++ more) (List.subset_append_of_subset_left _ hpools)
  rw [List.append_assoc] at hgoes'
  exact ⟨more ++ more', hgoes.trans hgoes'⟩

theorem Achieves.move (event : Event)
    (h : ∀ pools, hand ⊆ pools → Move .idle (siteOf s pools) event .idle (siteOf s' pools)) :
    Achieves hand s s' := by
  intro τ _ t others pools hpools
  refine ⟨[], ?_⟩
  rw [List.append_nil]
  exact .move (h pools hpools)

theorem handle_updateHandle (hid : id < s.handles.length) (f : Handle Pool → Handle Pool) :
    (s.updateHandle id f).handle = Function.update s.handle id (f (s.handle id)) := by
  funext other
  by_cases hother : other = id
  · rw [hother, Function.update_self, Host.handle_updateHandle_self hid]
  · rw [Function.update_of_ne hother, Host.handle_updateHandle_of_ne s hother]

theorem achieves_enter (s : PoolHost) (r : RegistryId) (name : String) :
    Achieves hand s (s.enter r name).2 := by
  rw [Host.enter]
  cases s.find? r name with
  | some id => exact .of_same rfl rfl
  | none =>
    have hcreate : (s.createHandle r name).handle =
        Function.update s.handle s.handles.length (Handle.create name) := by
      -- the host looks the same to the threads at every other place
      funext other
      obtain hlt | rfl | hgt := Nat.lt_trichotomy other s.handles.length
      · rw [Host.handle_createHandle_of_lt hlt, Function.update_of_ne (Nat.ne_of_lt hlt)]
      · rw [Host.handle_createHandle_self, Function.update_self]
      · rw [Function.update_of_ne (Nat.ne_of_gt hgt), Host.handle_of_length_le (Nat.le_of_lt hgt),
          Host.handle_of_length_le (by rw [Host.length_createHandle]; exact hgt)]
    refine .move (.created s.handles.length name) fun pools _ => ?_
    rw [siteOf, siteOf, hcreate]
    exact .create name (Host.handle_of_length_le (Nat.le_refl _))

theorem achieves_registerOn {first : Pool} (hfirst : first ∈ hand) (s : PoolHost) (id : HandleId)
    (params : Params) : Achieves hand s ((Act.registerOn id first params).runOn s).2 := by
  rw [Act.registerOn, Effect.runOn_modifyGet]
  cases hregister : s.registerOn id first params with
  | error e => exact .of_same rfl rfl
  | ok s' =>
    obtain ⟨hname, hnone, rfl⟩ := Host.registerOn_eq_ok_iff.mp hregister
    rcases Nat.lt_or_ge id s.handles.length with hid | hid
    · refine .move (.registered id first) fun pools hpools => ?_
      show Move .idle (siteOf s pools) _ .idle
        ⟨(s.updateHandle id fun h => { h with installed := some ⟨params, first⟩ }).handle, s.library, pools⟩
      rw [handle_updateHandle hid]
      exact .register (hpools hfirst) (Handle.register_eq_ok_iff.mpr ⟨hname, hnone, rfl⟩)
    · -- there is no such place, and nothing changes
      have hsame : s.handles.modify id (fun h => { h with installed := some ⟨params, first⟩ }) = s.handles :=
        List.modify_eq_self hid
      exact .of_same (by simp only [Host.enroll, Host.addNotice, Host.updateHandle, hsame]; rfl) rfl

theorem achieves_register {first : Pool} (hfirst : first ∈ hand) (s : PoolHost) (r : RegistryId)
    (params : Params) : Achieves hand s ((Act.register r first params).runOn s).2 := by
  rw [Act.register, Effect.runOn_bind_ok (Act.runOn_getOrCreate s r params.name)]
  exact (achieves_enter s r params.name).trans (achieves_registerOn hfirst _ _ params)

/-! ## Refreshing -/

/-- **A refresh of a handle**, with the strategy of either capability. -/
theorem achieves_refreshHandle (hfree : (s.handle id).reloading = false) (capability : Capability) :
    Achieves hand s (s.refreshHandle (collaborators.strategies.select capability) id).2 := by
  cases hi : (s.handle id).installed with
  | none =>
    rw [Host.refreshHandle_unregistered hi]
    exact .of_same rfl rfl
  | some i =>
    intro τ _ t others pools _
    -- the program is one of the threads, and this is its turn
    have hregistered : ((siteOf s pools).handles id).isRegistered :=
      Handle.isRegistered_of_current? _ (by rw [siteOf, Handle.current?, hi]; rfl)
    obtain ⟨notices, ⟨url, fresh, hurl, hbuilt, hconduct⟩ | ⟨error, hconduct⟩⟩ :=
      conduct_rebuild_ops i.params capability i.current s.library
    -- the operations of the rebuild are those before the build, and the build
    · have hfresh : ((buildOp i.params url capability).apply
          (s.library.after (tidyOps capability i.current))).1 = some fresh := by
        rw [buildOp, Library.Op.apply_build, hbuilt]
        rfl
      have hops : s.library.after (rebuildOps i.params capability i.current) =
          ((buildOp i.params url capability).apply (s.library.after (tidyOps capability i.current))).2 := by
        rw [rebuildOps, hurl, Library.after_append]
        rfl
      obtain ⟨more, hgoes⟩ := Goes.swap t others hregistered hfree hfresh
      refine ⟨more, ?_⟩
      rw [Host.refreshHandle_swapped hi (by rw [hconduct]), hconduct, hops]
      show Goes t others .idle (siteOf s pools) .idle
        ⟨(s.updateHandle id (·.swap fresh)).handle, _, pools ++ more⟩
      rw [handle_updateHandle (Host.lt_of_installed hi)]
      exact hgoes
    · obtain ⟨more, hgoes⟩ := Goes.fail t others hregistered hfree (rebuildOps i.params capability i.current)
      refine ⟨more, ?_⟩
      rw [Host.refreshHandle_failed hi (by rw [hconduct]; rfl), hconduct]
      exact hgoes

theorem refreshing_achieves (hand : List Pool) : Refreshing (Achieves hand) where
  same := Achieves.of_same
  trans := Achieves.trans
  handle hs id capability := achieves_refreshHandle (hs.idle id) capability

end Races

/-! ## Workers -/

/-- Together workers have seen a serial go back only if one of them has. -/
theorem WorkerSummary.regressions_join {summaries : List WorkerSummary}
    (h : ∀ summary ∈ summaries, summary.regressions = 0) : (join summaries).regressions = 0 := by
  have hfold : ∀ seen : WorkerSummary, seen.regressions = 0 → (summaries.foldl merge seen).regressions = 0 := by
    induction summaries with
    | nil => exact fun seen hseen => hseen
    | cons summary summaries ih =>
      intro seen hseen
      rw [List.forall_mem_cons] at h
      refine ih h.2 (seen.merge summary) ?_
      rw [merge, hseen, h.1]
  exact hfold empty rfl

/-- **A round** of a worker whose handle is registered and not being refreshed. -/
theorem Employed.runOn_round {s : PoolHost} {e : Employed} {i : Installed Pool}
    (hi : (s.handle e.proxy.handle).installed = some i)
    (hidle : (s.handle e.proxy.handle).reloading = false) : ∃ notices, e.round.runOn s =
      (.ok { e with worker := (e.worker.see i.current.serial).count (s.library.checkout i.current).1 },
        s.after (⟨.ok (), (s.library.checkout i.current).2, notices⟩ : Conduct Library Unit)) := by
  obtain ⟨notices, hcheckout⟩ := runOn_checkout i.current e.client s
  obtain ⟨more, hworker⟩ : ∃ more, (e.worker.round e.proxy e.client).runOn s =
      (.ok ((e.worker.see i.current.serial).count (s.library.checkout i.current).1),
        s.after (⟨.ok (), (s.library.checkout i.current).2, notices ++ more⟩ : Conduct Library Unit)) := by
    have hforward : (e.worker.round e.proxy e.client).runOn s = _ := Act.runOn_forward hi hidle _
    rw [hforward, Effect.runOn_bind_ok hcheckout]
    cases (s.library.checkout i.current).1 with
    | ok connection => exact ⟨[], by rw [List.append_nil]; rfl⟩
    | error error => exact ⟨[_], by simp only [Host.after, ← List.append_assoc]; rfl⟩
  exact ⟨notices ++ more, by rw [Employed.round, Effect.runOn_bind_ok hworker, Effect.runOn_pure]⟩

/-! ## Programs -/

/-- A program that uses pools. -/
structure Service where
  host : PoolHost
  /-- The pools that it has in hand. -/
  hand : List Pool
  workers : List Employed

/-- What a program can do. Pools that it has in hand and workers go by their places. -/
inductive Deed where
  | call (call : Call)
  | newRegistry
  | newCoordinator (r : RegistryId) (config : HotSwapConfig)
  | getOrCreate (r : RegistryId) (name : String)
  | register (r : RegistryId) (place : Nat) (params : Params)
  | registerOn (id : HandleId) (place : Nat) (params : Params)
  /-- Takes the instance of a handle in hand. -/
  | take (id : HandleId)
  | refreshWith (id : HandleId) (capability : Capability)
  | refresh (c : CoordinatorId) (name : String)
  | refreshAll (c : CoordinatorId)
  | hire (id : HandleId) (client : String)
  /-- A worker does a round. -/
  | work (place : Nat)

namespace Service

def start (version : String) : Service := ⟨Host.start (Library.start version), [], []⟩

variable {α : Type}

/-- The program after an action on the host. -/
def afterwards (p : Service) (act : PoolAct α) : Service := { p with host := (act.runOn p.host).2 }

def perform (p : Service) : Deed → Service
  | .call call =>
    match call.act.runOn p.host with
    | (.ok built, host) => { p with host, hand := p.hand ++ built.toList }
    | (.error _, host) => { p with host }
  | .newRegistry => p.afterwards Act.newRegistry
  | .newCoordinator r config => p.afterwards (Act.newCoordinator r config)
  | .getOrCreate r name => p.afterwards (Act.getOrCreate r name)
  | .register r place params =>
    match p.hand[place]? with
    | none => p
    | some first => p.afterwards (Act.register r first params)
  | .registerOn id place params =>
    match p.hand[place]? with
    | none => p
    | some first => p.afterwards (Act.registerOn id first params)
  | .take id => { p with hand := p.hand ++ (p.host.handle id).current?.toList }
  | .refreshWith id capability => p.afterwards (Act.refreshWith id (collaborators.strategies.select capability))
  | .refresh c name => p.afterwards (collaborators.refresh c name)
  | .refreshAll c => p.afterwards (collaborators.refreshAll c)
  | .hire id client =>
    match p.host.proxy? id with
    | none => p
    | some proxy => { p with workers := p.workers ++ [⟨proxy, client, .start⟩] }
  | .work place =>
    match p.workers[place]? with
    | none => p
    | some e =>
      match e.round.runOn p.host with
      | (.ok e, host) => { p with host, workers := p.workers.set place e }
      | (.error _, host) => { p with host, workers := p.workers.eraseIdx place }

def run (p : Service) (deeds : List Deed) : Service := deeds.foldl perform p

/-! ## What programs come to -/

open Interleaving (Turn Turns)
open Races (Achieves Goes Move Scene Stage siteOf)

/-- Where the threads are: the program itself is one of them, and so is every worker. -/
def stages (workers : List Employed) : Option Nat → Stage
  | none => .idle
  | some place =>
    match workers[place]? with
    | none => .idle
    | some e => .working e.proxy.handle e.worker

theorem stages_of_getElem? {workers : List Employed} {place : Nat} {e : Employed}
    (hplace : workers[place]? = some e) : stages workers (some place) = .working e.proxy.handle e.worker := by
  rw [stages, hplace]

theorem stages_concat (workers : List Employed) (e : Employed) : stages (workers ++ [e]) =
    Function.update (stages workers) (some workers.length) (.working e.proxy.handle e.worker) := by
  -- a new worker gets the place behind the others, where nobody was
  funext t
  by_cases ht : t = some workers.length
  · rw [ht, Function.update_self, stages_of_getElem? List.getElem?_concat_length]
  · rw [Function.update_of_ne ht]
    cases t with
    | none => rfl
    | some place =>
      rw [stages, stages]
      rcases Nat.lt_trichotomy place workers.length with hlt | heq | hgt
      · rw [List.getElem?_append_left hlt]
      · exact absurd (congrArg some heq) ht
      · rw [List.getElem?_append_right (Nat.le_of_lt hgt), List.getElem?_eq_none (Nat.le_of_lt hgt),
          List.getElem?_eq_none (Nat.sub_pos_of_lt hgt)]

theorem stages_set {workers : List Employed} {place : Nat} (hplace : place < workers.length) (e : Employed) :
    stages (workers.set place e) =
      Function.update (stages workers) (some place) (.working e.proxy.handle e.worker) := by
  funext t
  by_cases ht : t = some place
  · rw [ht, Function.update_self, stages_of_getElem? (List.getElem?_set_self hplace)]
  · rw [Function.update_of_ne ht]
    cases t with
    | none => rfl
    | some other =>
      have hne : place ≠ other := fun heq => ht (congrArg some heq.symm)
      rw [stages, stages, List.getElem?_set_ne hne]

/-- The program and its workers have come to where they are from the start, move by move. -/
structure Ongoing (version : String) (history : Races.History (Option Nat)) (p : Service) : Prop where
  sound : p.host.Sound
  turns : ∃ pools, p.hand ⊆ pools ∧
    Turns Move (Scene.start version) history ⟨siteOf p.host pools, stages p.workers⟩

variable {version : String} {history : Races.History (Option Nat)} {p : Service}

theorem Ongoing.start (version : String) : Ongoing version [] (start version) where
  sound := .start _
  turns := by
    refine ⟨[], List.Subset.refl _, ?_⟩
    have hstages : stages [] = fun _ => .idle := by
      funext t
      cases t <;> rfl
    show Turns Move (Scene.start version) [] ⟨_, stages []⟩
    rw [hstages]
    exact .nil

theorem turns_goes {site site' : Races.Site} {workers : List Employed} {next : Stage}
    (hturns : Turns Move (Scene.start version) history ⟨site, stages workers⟩) (t : Option Nat)
    (hgoes : Goes t (stages workers) (stages workers t) site next site') : ∃ more,
      Turns Move (Scene.start version) (history ++ more) ⟨site', Function.update (stages workers) t next⟩ := by
  obtain ⟨more, hmore⟩ := hgoes
  rw [Function.update_eq_self] at hmore
  exact ⟨more, hturns.append hmore⟩

theorem Ongoing.goes {host : PoolHost} {hand : List Pool} (h : Ongoing version history p) (hsound : host.Sound)
    (hgoes : ∀ pools, p.hand ⊆ pools → ∃ more, hand ⊆ pools ++ more ∧
      Goes none (stages p.workers) .idle (siteOf p.host pools) .idle (siteOf host (pools ++ more))) :
    ∃ more, Ongoing version (history ++ more) { p with host, hand } := by
  obtain ⟨pools, hhand, hturns⟩ := h.turns
  obtain ⟨built, hhand', hgoes⟩ := hgoes pools hhand
  obtain ⟨more, hmore⟩ := turns_goes hturns none hgoes
  have hidle : Function.update (stages p.workers) none .idle = stages p.workers :=
    Function.update_eq_self none (stages p.workers)
  rw [hidle] at hmore
  exact ⟨more, hsound, _, hhand', hmore⟩

theorem Ongoing.afterwards {act : PoolAct α} (h : Ongoing version history p)
    (hsound : (act.runOn p.host).2.Sound) (hachieves : Achieves p.hand p.host (act.runOn p.host).2) :
    ∃ more, Ongoing version (history ++ more) (p.afterwards act) := by
  refine h.goes hsound fun pools hhand => ?_
  obtain ⟨more, hgoes⟩ := hachieves (Option Nat) none (stages p.workers) pools hhand
  exact ⟨more, List.subset_append_of_subset_left _ hhand, hgoes⟩

theorem Ongoing.call (h : Ongoing version history p) (call : Call) :
    ∃ more, Ongoing version (history ++ more) (p.perform (.call call)) := by
  obtain ⟨notices, hcall⟩ := call.runOn_act p.host
  rw [Service.perform, hcall]
  refine h.goes (h.sound.after _) fun pools hhand => ⟨(call.op.apply p.host.library).1.toList, ?_, ?_⟩
  · exact List.append_subset.mpr ⟨List.subset_append_of_subset_left _ hhand, List.subset_append_right ..⟩
  · exact .move (.operate call.op)

theorem Ongoing.take (h : Ongoing version history p) (id : HandleId) :
    Ongoing version history (p.perform (.take id)) := by
  obtain ⟨pools, hhand, hturns⟩ := h.turns
  refine ⟨h.sound, pools, List.append_subset.mpr ⟨hhand, fun pool hpool => ?_⟩, hturns⟩
  have hserved := (Races.kept hturns).served
  rw [Option.mem_toList] at hpool
  exact hserved.known id pool (List.mem_of_getLast? ((hserved.current id).symm.trans hpool))

theorem Ongoing.hire {id : HandleId} (h : Ongoing version history p)
    (hregistered : (p.host.handle id).isRegistered) (client : String) : ∃ more,
      Ongoing version (history ++ more) { p with workers := p.workers ++ [⟨⟨id⟩, client, .start⟩] } := by
  obtain ⟨pools, hhand, hturns⟩ := h.turns
  have hidle : stages p.workers (some p.workers.length) = .idle := by
    rw [stages, List.getElem?_eq_none (Nat.le_refl _)]
  obtain ⟨more, hmore⟩ := turns_goes hturns (some p.workers.length)
    (by rw [hidle]; exact .move (.hire hregistered))
  refine ⟨more, h.sound, pools, hhand, ?_⟩
  show Turns Move _ _ ⟨_, stages (p.workers ++ [⟨⟨id⟩, client, .start⟩])⟩
  rw [stages_concat]
  exact hmore

theorem Ongoing.work {place : Nat} {e : Employed} (h : Ongoing version history p)
    (hplace : p.workers[place]? = some e) : ∃ e' host, e.round.runOn p.host = (.ok e', host) ∧
      ∃ more, Ongoing version (history ++ more) { p with host, workers := p.workers.set place e' } := by
  obtain ⟨pools, hhand, hturns⟩ := h.turns
  have hstage := stages_of_getElem? hplace
  obtain ⟨hregistered, -⟩ := (Races.growing hturns).workers (some place) e.proxy.handle e.worker
    (congrArg Stage.worker? hstage)
  -- the handle of a worker is registered, so there is a pool to look at
  obtain ⟨i, hi, hpool⟩ := Handle.exists_installed _ hregistered
  obtain ⟨notices, hround⟩ := Employed.runOn_round hi (h.sound.idle _)
  have hgoes : Goes (some place) (stages p.workers) (.working e.proxy.handle e.worker) (siteOf p.host pools)
      _ _ := (Goes.move (.sample hpool)).trans (.move .checkout)
  obtain ⟨more, hmore⟩ := turns_goes hturns (some place) (by rw [hstage]; exact hgoes)
  refine ⟨_, _, hround, more, h.sound.after _, pools ++ [], List.subset_append_of_subset_left _ hhand, ?_⟩
  show Turns Move _ _ ⟨_, stages (p.workers.set place _)⟩
  rw [stages_set (List.getElem?_eq_some_iff.mp hplace).1]
  exact hmore

/-- **Whatever a program does**, its threads make moves. -/
theorem Ongoing.perform (h : Ongoing version history p) (deed : Deed) :
    ∃ more, Ongoing version (history ++ more) (p.perform deed) := by
  have hstays : ∃ more, Ongoing version (history ++ more) p := ⟨[], by rwa [List.append_nil]⟩
  have hdetached := collaborators_detached
  -- a deed that needs an instance in hand does nothing without one
  cases deed with
  | call call => exact h.call call
  | newRegistry => exact h.afterwards h.sound.newRegistry (.of_same rfl rfl)
  | newCoordinator r config => exact h.afterwards (h.sound.congr rfl rfl) (.of_same rfl rfl)
  | getOrCreate r name =>
    refine h.afterwards ?_ ?_
    · rw [Act.runOn_getOrCreate]
      exact h.sound.enter r name
    · rw [Act.runOn_getOrCreate]
      exact Races.achieves_enter _ r name
  | register r place params =>
    rw [Service.perform]
    cases hfirst : p.hand[place]? with
    | none => exact hstays
    | some first =>
      refine h.afterwards ?_ (Races.achieves_register (List.mem_of_getElem? hfirst) _ r params)
      rw [Act.register, Effect.runOn_bind_ok (Act.runOn_getOrCreate _ r params.name)]
      exact (h.sound.enter r params.name).registerOn _ first params
  | registerOn id place params =>
    rw [Service.perform]
    cases hfirst : p.hand[place]? with
    | none => exact hstays
    | some first =>
      have hachieves := Races.achieves_registerOn (List.mem_of_getElem? hfirst) p.host id params
      exact h.afterwards (h.sound.registerOn id first params) hachieves
  | take id => exact ⟨[], by rw [List.append_nil]; exact h.take id⟩
  -- refreshes of all kinds go by the same lemma
  | refreshWith id capability =>
    refine h.afterwards ?_ ((Races.refreshing_achieves p.hand).refreshWith h.sound id capability)
    rw [Act.runOn_refreshWith (hdetached.select capability) (h.sound.idle id)]
    exact h.sound.refreshHandle _ id
  | refresh c name =>
    have hachieves := (Races.refreshing_achieves p.hand).refresh h.sound c name
    exact h.afterwards (h.sound.refresh hdetached c name) hachieves
  | refreshAll c =>
    have hachieves := (Races.refreshing_achieves p.hand).refreshAll h.sound c
    exact h.afterwards (h.sound.refreshAll hdetached c) hachieves
  | hire id client =>
    rw [Service.perform, Host.proxy?]
    by_cases hregistered : (p.host.handle id).isRegistered
    · rw [if_pos hregistered]
      exact h.hire hregistered client
    · rw [if_neg hregistered]
      exact hstays
  | work place =>
    rw [Service.perform]
    cases hplace : p.workers[place]? with
    | none => exact hstays
    | some e =>
      obtain ⟨e', host, hround, hmore⟩ := h.work hplace
      simp only [hround]
      exact hmore

theorem Ongoing.run (h : Ongoing version history p) (deeds : List Deed) :
    ∃ more, Ongoing version (history ++ more) (p.run deeds) := by
  induction deeds generalizing history p with
  | nil => exact ⟨[], by rw [List.append_nil]; exact h⟩
  | cons deed deeds ih =>
    obtain ⟨more, hperform⟩ := h.perform deed
    obtain ⟨more', hrun⟩ := ih hperform
    rw [List.append_assoc] at hrun
    exact ⟨more ++ more', hrun⟩

theorem Ongoing.regressions_observed (h : Ongoing version history p) :
    (observed p.workers).regressions = 0 := by
  obtain ⟨pools, -, hturns⟩ := h.turns
  refine WorkerSummary.regressions_join fun summary hsummary => ?_
  obtain ⟨e, he, rfl⟩ := List.mem_map.mp hsummary
  obtain ⟨place, hplace⟩ := List.mem_iff_getElem?.mp he
  exact ((Races.growing hturns).workers (some place) _ _ (congrArg Stage.worker? (stages_of_getElem? hplace))).2

end Service

/-! ## Serials -/

open Interleaving (Turns)

/-- **Serials grow.** Whatever calls the library gets, it registers no key twice and the pools that it returns
carry serials that grow, as small as the number of builds allows. Threads that use it and its pools in any
order install ever larger serials in a handle, and workers never see one go back. So it is for the programs that
are written with the calls of this library. With a counter of 64 bits it is so for the first 2^64 builds. -/
theorem serials_grow (version : String) :
    (∀ calls : List Call, ∃ pools s,
      (runCalls calls).runOn (Host.start (Library.start version)) = (.ok pools, s) ∧
      (s.library.registered.map (·.1)).Nodup ∧
      pools.Pairwise (·.serial < ·.serial) ∧
      ∀ pool ∈ pools, pool.serial < calls.countP fun call => call.op.isBuild) ∧
    (∀ (τ : Type) [DecidableEq τ] (history : Races.History τ) (s : Races.Scene τ),
      Turns Races.Move (Races.Scene.start version) history s → Races.Growing history s) ∧
    ∀ deeds more : List Deed,
      let before := (Service.start version).run deeds
      let after := before.run more
      (after.host.library.registered.map (·.1)).Nodup ∧
      (∀ id, Races.Advances (before.host.handle id) (after.host.handle id)) ∧
      (observed after.workers).regressions = 0 := by
  refine ⟨fun calls => ?_, fun τ _ history s hturns => Races.growing hturns, fun deeds more => ?_⟩
  · obtain ⟨pools, s, hcalls, hgrown⟩ := runOn_runCalls (s := Host.start (Library.start version)) calls
      (.start version)
    rw [List.nil_append, Nat.zero_add] at hgrown
    refine ⟨pools, s, hcalls, hgrown.sound.keys_nodup, hgrown.ordered, fun pool hpool => ?_⟩
    exact Nat.lt_of_lt_of_le (hgrown.lt_next pool hpool) hgrown.next_le
  · obtain ⟨history, hbefore⟩ := (Service.Ongoing.start version).run deeds
    obtain ⟨history', hafter⟩ := hbefore.run more
    obtain ⟨pools, -, hturns⟩ := hbefore.turns
    obtain ⟨pools', -, hturns'⟩ := hafter.turns
    exact ⟨(Races.growing hturns').keys_nodup, Races.advances hturns hturns', hafter.regressions_observed⟩

/-- The orders pool, built for the so-many-th time. -/
def ordersPool (serial : Nat) : Pool := ⟨"db://orders", serial, .modern, defaultMax⟩

/-- A worker reads the orders pool while it is rebuilt, and once more when it has been exchanged. -/
def ordersRace : Races.History Bool :=
  let build : Library.Op := .build "db://orders" "db://orders" .empty .modern
  [(false, .operated build), (false, .created 0 "orders"), (false, .registered 0 (ordersPool 0)), (true, .hired 0),
    (false, .began 0), (true, .sampled 0 (ordersPool 0)), (false, .operated build),
    (true, .operated (.checkout (ordersPool 0))), (false, .installed 0 (ordersPool 1)),
    (true, .sampled 0 (ordersPool 1))]

theorem ordersRace_turns : ∃ s, Turns Races.Move (Races.Scene.start "4.3.0") ordersRace s := by
  have hregister : (Handle.create "orders").register (ordersPool 0) ordersUnit = .ok _ :=
    Handle.register_eq_ok_iff.mpr ⟨rfl, rfl, rfl⟩
  exact ⟨_, .cons (.mk (.operate _)) <| .cons (.mk (.create _ rfl)) <|
    .cons (.mk (.register (List.mem_singleton.mpr rfl) hregister)) <| .cons (.mk (.hire rfl)) <|
    .cons (.mk (.start rfl rfl)) <| .cons (.mk (.sample rfl)) <| .cons (.mk (.build _ rfl)) <|
    .cons (.mk .checkout) <| .cons (.mk .install) <| .cons (.mk (.sample rfl)) .nil⟩

theorem serials_grow_orders :
    (∃ s, Turns Races.Move (Races.Scene.start "4.3.0") ordersRace s ∧
      Races.served 0 ordersRace = [ordersPool 0, ordersPool 1] ∧ Races.Growing ordersRace s) ∧
    let before := (Service.start "4.3.0").run
      [.call (.openPool ordersUnit), .newRegistry, .register 0 0 ordersUnit, .hire 0 "client", .work 0]
    let after := before.run [.refreshWith 0 .modern, .work 0]
    (before.host.handle 0).current? = some (ordersPool 0) ∧
      (after.host.handle 0).current? = some (ordersPool 1) ∧
      (observed after.workers).serials = [0, 1] ∧ (observed after.workers).regressions = 0 := by
  obtain ⟨-, hthreads, hprograms⟩ := serials_grow "4.3.0"
  obtain ⟨s, hturns⟩ := ordersRace_turns
  refine ⟨⟨s, hturns, rfl, hthreads Bool ordersRace s hturns⟩, rfl, rfl, rfl, ?_⟩
  exact (hprograms _ _).2.2

end LiveSwap.Pool
