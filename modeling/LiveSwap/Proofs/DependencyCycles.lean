import LiveSwap.Proofs.DependencyGraph
import LiveSwap.Proofs.Lifecycle

/-!
# Which queues can be ordered

A queue can be ordered if all that its plugins depend on is queued and no plugin depends on itself,
be it through others. Otherwise the server panics, and names either what is missing or the plugins of a
cycle.

* **`Order.Visits`** — the visits that the walk over the queue makes.
* **`Order.OnPath`** — at every visit the path is a chain of edges that leads to the visited place, and
  the places that are not free are those on the path.
* **`Order.OnPath.exists_cycle`** — a visit that comes back to the path finds a cycle.
* **`ServerAct.finish_sorted`** — when the queue is ordered, what comes of it, and which panic it is
  otherwise.
* **`ServerAct.circular_cycle`** — the plugins that are named depend on each other in a circle.
-/

namespace LiveSwap

namespace Order

/-! ## The visits of a walk -/

/-- The visits that the walk over the queue makes: of the places of the queue in turn, and during the
visit of a place that is free, of its targets in turn. -/
inductive Visits (queue : List PluginInfo) : List Nat → List Nat → List Nat → Nat → Prop where
  | root {order before after : List Nat} {place : Nat}
      (hcut : List.range queue.length = before ++ place :: after)
      (hwalk : visitAll queue (List.range queue.length) [] [] before = .ok order) :
      Visits queue (List.range queue.length) [] order place
  | target {free path order order' before after : List Nat} {place target : Nat}
      (hvisit : Visits queue free path order place) (hnew : place ∉ order) (hfree : place ∈ free)
      (hcut : targets queue place = before ++ target :: after)
      (hwalk : visitAll queue (free.erase place) (path ++ [place]) order before = .ok order') :
      Visits queue (free.erase place) (path ++ [place]) order' target

/-- A visit of a place whose own visit has not ended. -/
structure ComesBack (queue : List PluginInfo) (free path order : List Nat) (place : Nat) : Prop where
  visits : Visits queue free path order place
  unplaced : place ∉ order
  unfree : place ∉ free

/-- A walk that fails fails at one of its places, after it has got past those before it. -/
theorem exists_of_visitAll_error {queue : List PluginInfo} {free path order places cycle : List Nat}
    (h : visitAll queue free path order places = .error cycle) :
    ∃ before place after order', places = before ++ place :: after ∧
      visitAll queue free path order before = .ok order' ∧
      visit queue free path order' place = .error cycle := by
  induction places generalizing order with
  | nil => cases visitAll_nil.symm.trans h
  | cons first rest ih =>
    obtain hfirst | ⟨middle, hfirst, hrest⟩ := visitAll_cons_eq_error_iff.mp h
    · exact ⟨[], first, rest, order, rfl, visitAll_nil, hfirst⟩
    · obtain ⟨before, place, after, order', rfl, hbefore, hplace⟩ := ih hrest
      exact ⟨first :: before, place, after, order', rfl, visitAll_cons_eq_ok_iff.mpr ⟨middle, hfirst, hbefore⟩,
        hplace⟩

/-- **A walk that fails** has come back to a place, and reports its path from there on. -/
theorem Visits.comesBack {queue : List PluginInfo} {free path order cycle : List Nat} {place : Nat}
    (h : Visits queue free path order place) (herror : visit queue free path order place = .error cycle) :
    ∃ free' path' order' place', ComesBack queue free' path' order' place' ∧
      cycle = path'.drop ((path'.idxOf? place').getD 0) := by
  -- the walk goes down until it meets a place whose visit has not ended
  obtain ⟨hnew, ⟨hfree, hwalk⟩ | ⟨hunfree, rfl⟩⟩ := visit_eq_error_iff.mp herror
  · -- one of the targets fails, and fewer places are free there
    obtain ⟨before, target, after, order', hcut, hbefore, htarget⟩ := exists_of_visitAll_error hwalk
    exact (Visits.target h hnew hfree hcut hbefore).comesBack htarget
  · exact ⟨free, path, order, place, ⟨h, hnew, hunfree⟩, rfl⟩
termination_by free.length
decreasing_by
  have := List.length_pos_of_mem hfree
  rw [List.length_erase_of_mem hfree]
  omega

theorem exists_comesBack {queue : List PluginInfo} {cycle : List Nat} (h : places queue = .error cycle) :
    ∃ free path order place, ComesBack queue free path order place ∧
      cycle = path.drop ((path.idxOf? place).getD 0) := by
  obtain ⟨before, place, after, order, hcut, hwalk, herror⟩ := exists_of_visitAll_error h
  exact (Visits.root hcut hwalk).comesBack herror

/-! ## The path of a visit -/

/-- The path is a chain of edges that leads to the place, and holds the places that are not free. -/
structure OnPath (queue : List PluginInfo) (free path : List Nat) (place : Nat) : Prop where
  linked : (path ++ [place]).IsChain (DependsOn queue)
  nodup : path.Nodup
  free_nodup : free.Nodup
  mem_free_iff : ∀ other < queue.length, other ∈ free ↔ other ∉ path
  lt : place < queue.length

theorem OnPath.root {queue : List PluginInfo} {place : Nat} (hlt : place < queue.length) :
    OnPath queue (List.range queue.length) [] place where
  linked := by simp
  nodup := List.nodup_nil
  free_nodup := List.nodup_range
  mem_free_iff := by simp
  lt := hlt

theorem OnPath.target {queue : List PluginInfo} {free path : List Nat} {place target : Nat}
    (h : OnPath queue free path place) (hfree : place ∈ free) (hedge : DependsOn queue place target) :
    OnPath queue (free.erase place) (path ++ [place]) target where
  linked := by
    -- one edge is put on at the end of the chain
    rw [List.append_assoc, List.singleton_append, List.isChain_append_cons_cons]
    exact ⟨h.linked, hedge, List.isChain_singleton target⟩
  nodup := by
    have hnew := (h.mem_free_iff place h.lt).mp hfree
    rw [← List.concat_eq_append]
    exact h.nodup.concat hnew
  free_nodup := h.free_nodup.erase place
  mem_free_iff other hother := by
    rw [h.free_nodup.mem_erase_iff, h.mem_free_iff other hother]
    simp [and_comm]
  lt := hedge.target_lt

/-- **At every visit** the path is a chain of edges that leads to the place. -/
theorem Visits.onPath {queue : List PluginInfo} {free path order : List Nat} {place : Nat}
    (h : Visits queue free path order place) : OnPath queue free path place := by
  induction h with
  | root hcut =>
    refine .root (List.mem_range.mp ?_)
    rw [hcut]
    exact List.mem_append_right _ List.mem_cons_self
  | target _ _ hfree hcut _ ih =>
    refine ih.target hfree (mem_targets_iff.mp ?_)
    rw [hcut]
    exact List.mem_append_right _ List.mem_cons_self

/-- **A visit that comes back** finds the place on the path, and from there on the path is a cycle. -/
theorem OnPath.exists_cycle {queue : List PluginInfo} {free path : List Nat} {place : Nat}
    (h : OnPath queue free path place) (hunfree : place ∉ free) :
    ∃ start, path.idxOf? place = some start ∧ IsCycle queue (path.drop start) := by
  -- a place that is not free and was not finished is on the path
  have hmem : place ∈ path := by
    by_contra hnew
    exact hunfree ((h.mem_free_iff place h.lt).mpr hnew)
  obtain ⟨before, after, rfl, hfirst⟩ := List.eq_append_cons_of_mem hmem
  refine ⟨before.length, ?_, ?_⟩
  · rw [List.idxOf?_eq_some_iff]
    refine ⟨by simp, by simp, fun earlier hearlier hsame => hfirst ?_⟩
    rw [List.getElem_append_left hearlier] at hsame
    exact hsame ▸ List.getElem_mem hearlier
  · -- the edge that closes the cycle is the one that leads from the path to the place
    have hlinked : ((place :: after) ++ [place]).IsChain (DependsOn queue) := by
      have hwhole := h.linked
      rw [List.append_assoc] at hwhole
      exact hwhole.right_of_append
    obtain ⟨hcycle, _, hcloses⟩ := List.isChain_append.mp hlinked
    rw [List.drop_left]
    exact ⟨List.cons_ne_nil _ _, h.nodup.of_append_right, hcycle, hcloses⟩

theorem isCycle_of_places_error {queue : List PluginInfo} {cycle : List Nat}
    (h : places queue = .error cycle) : IsCycle queue cycle := by
  obtain ⟨free, path, order, place, hback, rfl⟩ := exists_comesBack h
  obtain ⟨start, hstart, hcycle⟩ := hback.visits.onPath.exists_cycle hback.unfree
  rwa [hstart, Option.getD_some]

/-! ## Orders and errors -/

section Queue

variable {queue : List PluginInfo} {built : List PluginId}

/-- **The plugins that are named as a circle** are those of a cycle. -/
theorem exists_cycle_of_circular {names : List String}
    (h : dependencyOrder queue built = .error (.circular names)) :
    ∃ cycle, IsCycle queue cycle ∧ Names queue names cycle := by
  obtain hmissing | ⟨-, cycle, hplaces, hnames⟩ := dependencyOrder_eq_error_iff.mp h
  · -- what is missing is reported with another error
    obtain ⟨info, -, id, -, -, hother⟩ := missing?_eq_some hmissing
    cases hother
  · obtain rfl := OrderError.circular.inj hnames
    have hcycle := isCycle_of_places_error hplaces
    exact ⟨cycle, hcycle, names_filterMap fun place => hcycle.lt_length⟩

theorem closed_and_acyclic {order : List Nat} (h : dependencyOrder queue [] = .ok order) :
    Closed queue ∧ Acyclic queue := by
  obtain ⟨hmissing, hplaces⟩ := dependencyOrder_eq_ok_iff.mp h
  obtain ⟨hlayered, hall⟩ := places_layered hplaces
  exact ⟨closed_of_missing?_eq_none hmissing, hlayered.acyclic hall⟩

/-- **What is not queued** is reported, whatever cycles there are. -/
theorem missing_of_not_closed {error : OrderError} (hopen : ¬ Closed queue)
    (h : dependencyOrder queue [] = .error error) : ∃ info ∈ queue, ∃ id ∈ info.dependencies,
      (∀ other ∈ queue, other.id ≠ id) ∧ error = .missing info.name id := by
  obtain hmissing | ⟨hnone, -⟩ := dependencyOrder_eq_error_iff.mp h
  · exact missing?_eq_some hmissing
  · exact absurd (closed_of_missing?_eq_none hnone) hopen

theorem circular_of_closed {error : OrderError} (hclosed : Closed queue)
    (h : dependencyOrder queue built = .error error) : ∃ names, error = .circular names := by
  obtain hmissing | ⟨-, cycle, -, rfl⟩ := dependencyOrder_eq_error_iff.mp h
  · obtain ⟨info, hinfo, id, hid, hnever, -⟩ := missing?_eq_some hmissing
    obtain ⟨other, hother, hsame⟩ := hclosed info hinfo id hid
    exact absurd hsame (hnever other hother)
  · exact ⟨_, rfl⟩

end Queue

end Order

/-! ## Taking the queue of a server -/

variable {κ : Type} {β : κ → Type} {ω : Type}

/-- A server that has not started to build, and has built nothing. -/
structure Hosting.Unstarted (h : Hosting κ β ω) : Prop where
  state : h.server.state = .notStarted
  built : h.server.built = []

/-- **What comes of a queue** when it is taken to be built. -/
structure Sorted (pending : List (Plugin κ β ω)) (result : Except Halt (List (Plugin κ β ω))) : Prop where
  returns_iff : (∃ plugins, result = .ok plugins) ↔
    Order.Closed (pending.map (·.info)) ∧ Order.Acyclic (pending.map (·.info))
  /-- What is missing is reported first. -/
  missing : ¬ Order.Closed (pending.map (·.info)) →
    ∃ plugin ∈ pending, ∃ id ∈ plugin.info.dependencies, (∀ other ∈ pending, other.info.id ≠ id) ∧
      result = .error (.panic (.text (OrderError.missing plugin.info.name id).message))
  circular : Order.Closed (pending.map (·.info)) → ¬ Order.Acyclic (pending.map (·.info)) →
    ∃ names, result = .error (.panic (.text (OrderError.circular names).message))
  /-- All plugins are in the order, and each of them follows the first plugin of every id that it
  depends on. -/
  ordered : ∀ plugins, result = .ok plugins → plugins.Perm pending ∧
    ∃ order, order.Perm (List.range pending.length) ∧ plugins = order.filterMap (pending[·]?) ∧
      ∀ before place after, order = before ++ place :: after →
        ∀ target, Order.DependsOn (pending.map (·.info)) place target → target ∈ before

namespace ServerAct

theorem takeQueue_eq (h : Hosting κ β ω) : (takeQueue.runOn h).1 =
    match dependencyOrder (h.server.pending.map (·.info)) (h.server.built.map (·.info.id)) with
    | .error error => .error (.panic (.text error.message))
    | .ok order => .ok (order.filterMap (h.server.pending[·]?)) := by
  rw [runOn_takeQueue, Server.inOrder]
  cases dependencyOrder (h.server.pending.map (·.info)) (h.server.built.map (·.info.id)) <;> rfl

theorem dependencyOrder_of_takeQueue {h : Hosting κ β ω} {halt : Halt}
    (herror : (takeQueue.runOn h).1 = .error halt) :
    ∃ error, dependencyOrder (h.server.pending.map (·.info)) (h.server.built.map (·.info.id)) =
      .error error ∧ halt = .panic (.text error.message) := by
  rw [takeQueue_eq] at herror
  cases horder : dependencyOrder (h.server.pending.map (·.info)) (h.server.built.map (·.info.id)) with
  | error error =>
    rw [horder] at herror
    exact ⟨error, rfl, (Except.error.inj herror).symm⟩
  | ok order =>
    rw [horder] at herror
    cases herror

/-- Whatever is wrong with the queue, finishing panics with it. -/
theorem finish_of_takeQueue {call : Plugin κ β ω → Phase → ServerAct κ β ω Unit} {rounds : Nat}
    {h : Hosting κ β ω} (hstate : h.server.state = .notStarted) {halt : Halt}
    (herror : (takeQueue.runOn h).1 = .error halt) :
    (finish call rounds).runOn h = (.error halt, h.update (·.unqueued)) := by
  obtain ⟨error, horder, rfl⟩ := dependencyOrder_of_takeQueue herror
  rw [runOn_finish, if_pos hstate, Server.inOrder, horder]
  rfl

theorem sorted_takeQueue {h : Hosting κ β ω} (hunstarted : h.Unstarted) :
    Sorted h.server.pending (takeQueue.runOn h).1 := by
  rw [takeQueue_eq, hunstarted.built, List.map_nil]
  cases horder : dependencyOrder (h.server.pending.map (·.info)) [] with
  | ok order =>
    obtain ⟨hclosed, hacyclic⟩ := Order.closed_and_acyclic horder
    refine ⟨⟨fun _ => ⟨hclosed, hacyclic⟩, fun _ => ⟨_, rfl⟩⟩, fun hopen => absurd hclosed hopen,
      fun _ hround => absurd hacyclic hround, ?_⟩
    intro plugins hplugins
    obtain rfl := Except.ok.inj hplugins
    have hperm := perm_of_dependencyOrder horder
    rw [List.length_map] at hperm
    refine ⟨perm_filterMap_of_dependencyOrder (List.length_map _).symm horder, order, hperm, rfl, ?_⟩
    intro before place after hcut target hedge
    -- a place is put in the order only after its targets
    have hlayered := (Order.places_layered (dependencyOrder_eq_ok_iff.mp horder).2).1
    exact hlayered.targets_before hcut target (Order.mem_targets_iff.mpr hedge)
  | error error =>
    refine ⟨⟨?_, ?_⟩, ?_, ?_, ?_⟩
    · rintro ⟨plugins, hplugins⟩
      cases hplugins
    · -- something is missing, or there is a cycle
      rintro ⟨hclosed, hacyclic⟩
      obtain ⟨names, rfl⟩ := Order.circular_of_closed hclosed horder
      obtain ⟨cycle, hcycle, -⟩ := Order.exists_cycle_of_circular horder
      exact absurd hacyclic hcycle.not_acyclic
    · intro hopen
      obtain ⟨info, hinfo, id, hid, hnever, rfl⟩ := Order.missing_of_not_closed hopen horder
      obtain ⟨plugin, hplugin, rfl⟩ := List.mem_map.mp hinfo
      exact ⟨plugin, hplugin, id, hid, fun other hother => hnever _ (List.mem_map_of_mem hother), rfl⟩
    · intro hclosed _
      obtain ⟨names, rfl⟩ := Order.circular_of_closed hclosed horder
      exact ⟨names, rfl⟩
    · intro plugins hplugins
      cases hplugins

variable [DecidableEq κ]

theorem unstarted_after {depth : Nat} {outside : ω} {earlier : List (Script κ β ω)}
    (hstate : (Hosting.after depth ⟨Server.empty, outside⟩ earlier).server.state = .notStarted) :
    (Hosting.after depth ⟨Server.empty, outside⟩ earlier).Unstarted :=
  ⟨hstate, Hosting.built_of_notStarted hstate⟩

/-- **A queue is ordered exactly if it can be**: nothing that its plugins depend on is missing, and none
of them depends on itself. Otherwise finishing panics with what is wrong before it calls anybody. -/
theorem finish_sorted :
    (∀ h : Hosting κ β ω, h.Unstarted → Sorted h.server.pending (takeQueue.runOn h).1 ∧
      ∀ halt, (takeQueue.runOn h).1 = .error halt → ∀ depth,
        (run depth (.finish .done)).runOn h = (.error halt, h.update (·.unqueued))) ∧
    ∀ (depth : Nat) (outside : ω) (earlier : List (Script κ β ω)),
      (Hosting.after depth ⟨Server.empty, outside⟩ earlier).server.state = .notStarted →
        (Hosting.after depth ⟨Server.empty, outside⟩ earlier).Unstarted := by
  refine ⟨fun h hunstarted => ⟨sorted_takeQueue hunstarted, ?_⟩, fun _ _ _ => unstarted_after⟩
  intro halt herror depth
  exact Effect.runOn_bind_error (finish_of_takeQueue hunstarted.state herror)

/-- **The plugins that are named** when nothing is missing but the queue cannot be ordered depend on
each other in a circle. -/
theorem circular_cycle :
    (∀ queue built names, dependencyOrder queue built = .error (.circular names) →
      ∃ cycle, Order.IsCycle queue cycle ∧ Order.Names queue names cycle) ∧
    (∀ queue free path order place, Order.ComesBack queue free path order place →
      ∃ start, path.idxOf? place = some start ∧ Order.IsCycle queue (path.drop start) ∧
        Order.visit queue free path order place = .error (path.drop start)) ∧
    ∀ h : Hosting κ β ω, h.server.state = .notStarted → Order.Closed (h.server.pending.map (·.info)) →
      ∀ halt, (takeQueue.runOn h).1 = .error halt →
        (∀ depth, (run depth (.finish .done)).runOn h = (.error halt, h.update (·.unqueued))) ∧
        ∃ names cycle, halt = .panic (.text (OrderError.circular names).message) ∧
          Order.IsCycle (h.server.pending.map (·.info)) cycle ∧
          Order.Names (h.server.pending.map (·.info)) names cycle := by
  refine ⟨fun queue built names => Order.exists_cycle_of_circular, ?_, ?_⟩
  · intro queue free path order place hback
    obtain ⟨start, hstart, hcycle⟩ := hback.visits.onPath.exists_cycle hback.unfree
    refine ⟨start, hstart, hcycle, ?_⟩
    exact Order.visit_eq_error_iff.mpr ⟨hback.unplaced, .inr ⟨hback.unfree, by rw [hstart, Option.getD_some]⟩⟩
  · intro h hstate hclosed halt herror
    refine ⟨fun depth => Effect.runOn_bind_error (finish_of_takeQueue hstate herror), ?_⟩
    obtain ⟨error, horder, rfl⟩ := dependencyOrder_of_takeQueue herror
    obtain ⟨names, rfl⟩ := Order.circular_of_closed hclosed horder
    obtain ⟨cycle, hcycle, hnames⟩ := Order.exists_cycle_of_circular horder
    exact ⟨names, cycle, rfl, hcycle, hnames⟩

end ServerAct

/-! ## A queue that is entered from outside its cycle -/

namespace Sample

/-- It leads to the two that depend on each other. -/
def leadIn : Plugin Empty (fun _ => Unit) Unit := plugin "host::LeadIn" [⟨"host::First"⟩] .done

def first : Plugin Empty (fun _ => Unit) Unit := plugin "host::First" [⟨"host::Second"⟩] .done

def second : Plugin Empty (fun _ => Unit) Unit := plugin "host::Second" [⟨"host::First"⟩] .done

def roundabout : Hosting Empty (fun _ => Unit) Unit :=
  Hosting.after 3 ⟨Server.empty, ()⟩ [.add leadIn .done, .add first .done, .add second .done]

theorem targets_roundabout : Order.targets [leadIn.info, first.info, second.info] 0 = [] ++ 1 :: [] ∧
    Order.targets [leadIn.info, first.info, second.info] 1 = [] ++ 2 :: [] ∧
    Order.targets [leadIn.info, first.info, second.info] 2 = [] ++ 1 :: [] := by
  decide

theorem comesBack_roundabout :
    Order.ComesBack [leadIn.info, first.info, second.info] [] [0, 1, 2] [] 1 := by
  have hwalk : ∀ free path, Order.visitAll [leadIn.info, first.info, second.info] free path [] [] =
      .ok [] := fun _ _ => Order.visitAll_nil
  have hrange : List.range 3 = [] ++ 0 :: [1, 2] := rfl
  have hleadIn : Order.Visits [leadIn.info, first.info, second.info] [0, 1, 2] [] [] 0 :=
    .root hrange (hwalk _ _)
  have hfirst := hleadIn.target (by decide) (by decide) targets_roundabout.1 (hwalk _ _)
  have hsecond := hfirst.target (by decide) (by decide) targets_roundabout.2.1 (hwalk _ _)
  exact ⟨hsecond.target (by decide) (by decide) targets_roundabout.2.2 (hwalk _ _), by decide, by decide⟩

theorem closed_roundabout : Order.Closed (roundabout.server.pending.map (·.info)) := by
  show ∀ info ∈ [leadIn.info, first.info, second.info], ∀ id ∈ info.dependencies,
    ∃ other ∈ [leadIn.info, first.info, second.info], other.id = id
  decide

theorem dependencyOrder_roundabout : dependencyOrder [leadIn.info, first.info, second.info] [] =
    .error (.circular ["host::First", "host::Second"]) := by
  simp [dependencyOrder, Order.missing?, Order.places, Order.visitAll, Order.visit, Order.targets,
    Order.firstOf, leadIn, first, second, plugin, Plugin.info, List.range, List.range.loop,
    List.findIdx?_cons, List.idxOf?_cons]

theorem takeQueue_roundabout : (ServerAct.takeQueue.runOn roundabout).1 =
    .error (.panic (.text (OrderError.circular ["host::First", "host::Second"]).message)) := by
  rw [ServerAct.takeQueue_eq]
  show (match dependencyOrder [leadIn.info, first.info, second.info] [] with
    | .error error => .error (.panic (.text error.message))
    | .ok order => .ok _ : Except Halt _) = _
  rw [dependencyOrder_roundabout]

end Sample

/-- Nothing is missing there, and two plugins depend on each other. -/
theorem finish_sorted_roundabout :
    Sorted Sample.roundabout.server.pending (ServerAct.takeQueue.runOn Sample.roundabout).1 ∧
      (ServerAct.run 3 (.finish .done)).runOn Sample.roundabout =
        (.error (.panic (.text (OrderError.circular ["host::First", "host::Second"]).message)),
          Sample.roundabout.update (·.unqueued)) := by
  have hunstarted : Sample.roundabout.Unstarted := ServerAct.finish_sorted.2 3 () _ rfl
  obtain ⟨hsorted, hpanics⟩ := ServerAct.finish_sorted.1 Sample.roundabout hunstarted
  exact ⟨hsorted, hpanics _ Sample.takeQueue_roundabout 3⟩

/-- The plugin that leads to the circle is not named. -/
theorem circular_cycle_roundabout :
    (∃ start, List.idxOf? 1 [0, 1, 2] = some start ∧
      Order.IsCycle [Sample.leadIn.info, Sample.first.info, Sample.second.info] ([0, 1, 2].drop start)) ∧
    (∃ cycle, Order.IsCycle [Sample.leadIn.info, Sample.first.info, Sample.second.info] cycle ∧
      Order.Names [Sample.leadIn.info, Sample.first.info, Sample.second.info]
        ["host::First", "host::Second"] cycle) ∧
    (ServerAct.run 3 (.finish .done)).runOn Sample.roundabout =
      (.error (.panic (.text (OrderError.circular ["host::First", "host::Second"]).message)),
        Sample.roundabout.update (·.unqueued)) := by
  obtain ⟨hnamed, hback, hfinish⟩ := ServerAct.circular_cycle (κ := Empty) (β := fun _ => Unit) (ω := Unit)
  obtain ⟨start, hstart, hcycle, -⟩ := hback _ _ _ _ _ Sample.comesBack_roundabout
  refine ⟨⟨start, hstart, hcycle⟩, hnamed _ _ _ Sample.dependencyOrder_roundabout, ?_⟩
  exact (hfinish Sample.roundabout rfl Sample.closed_roundabout _ Sample.takeQueue_roundabout).1 3

end LiveSwap
