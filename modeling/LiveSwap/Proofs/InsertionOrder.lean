import LiveSwap.Proofs.DependencyCycles

/-!
# Ties keep the order of the queue

A plugin is built before one that was queued earlier only where a dependency pulls it forward.

* **`Order.visit_reaches`**, **`Order.visitAll_reaches`** — a walk places nothing but what the places
  that it visits depend on, be it through others, and these places themselves.
* **`Order.overtakes`** — who overtakes a plugin is a dependency of it, or of one that was queued before it.
* **`ServerAct.takeQueue_ties`** — so it is in the queue of a server; and a queue in which every plugin
  follows what it depends on is built as it is.
-/

namespace LiveSwap

namespace Order

variable {queue : List PluginInfo}

/-! ## What a walk places -/

mutual

/-- **A visit places** what its place depends on, and the place. -/
theorem visit_reaches (queue : List PluginInfo) (free path order : List Nat) (place : Nat)
    {order' : List Nat} (h : visit queue free path order place = .ok order') {other : Nat}
    (hother : other ∈ order') :
    other ∈ order ∨ Relation.ReflTransGen (DependsOn queue) place other := by
  obtain ⟨-, rfl⟩ | ⟨-, hfree, walked, hwalk, rfl⟩ := visit_eq_ok_iff.mp h
  · exact .inl hother
  · rcases List.mem_append.mp hother with hwalked | hlast
    · obtain hold | ⟨target, htarget, hreach⟩ := visitAll_reaches queue (free.erase place)
        (path ++ [place]) order (targets queue place) hwalk hwalked
      · exact .inl hold
      · exact .inr (hreach.head (mem_targets_iff.mp htarget))
    · obtain rfl := List.mem_singleton.mp hlast
      exact .inr .refl
termination_by (free.length, 0)
decreasing_by
  have := List.length_pos_of_mem hfree
  rw [List.length_erase_of_mem hfree]
  exact Prod.Lex.left _ _ (by omega)

theorem visitAll_reaches (queue : List PluginInfo) (free path order places : List Nat)
    {order' : List Nat} (h : visitAll queue free path order places = .ok order') {other : Nat}
    (hother : other ∈ order') :
    other ∈ order ∨ ∃ place ∈ places, Relation.ReflTransGen (DependsOn queue) place other := by
  cases places with
  | nil =>
    obtain rfl : order = order' := Except.ok.inj (visitAll_nil.symm.trans h)
    exact .inl hother
  | cons first rest =>
    obtain ⟨middle, hvisit, hwalk⟩ := visitAll_cons_eq_ok_iff.mp h
    obtain hmiddle | ⟨place, hplace, hreach⟩ := visitAll_reaches queue free path middle rest hwalk hother
    · obtain hold | hreach := visit_reaches queue free path order first hvisit hmiddle
      · exact .inl hold
      · exact .inr ⟨first, List.mem_cons_self, hreach⟩
    · exact .inr ⟨place, .tail _ hplace, hreach⟩
termination_by (free.length, places.length + 1)

end

/-- A walk can be halted between two of its places. -/
theorem exists_of_visitAll_append {free path order order'' before after : List Nat}
    (h : visitAll queue free path order (before ++ after) = .ok order'') :
    ∃ order', visitAll queue free path order before = .ok order' ∧
      visitAll queue free path order' after = .ok order'' := by
  induction before generalizing order with
  | nil => exact ⟨order, visitAll_nil, h⟩
  | cons place before ih =>
    obtain ⟨middle, hvisit, hwalk⟩ := visitAll_cons_eq_ok_iff.mp h
    obtain ⟨order', hbefore, hafter⟩ := ih hwalk
    exact ⟨order', visitAll_cons_eq_ok_iff.mpr ⟨middle, hvisit, hbefore⟩, hafter⟩

/-! ## Who overtakes -/

theorem mem_of_sublist_append {first rest : List Nat} {a b : Nat} (hnodup : (first ++ rest).Nodup)
    (hpair : [a, b].Sublist (first ++ rest)) (hb : b ∈ first) : a ∈ first := by
  obtain ⟨before, after, hcut, hbefore, hafter⟩ := List.sublist_append_iff.mp hpair
  cases before with
  | nil =>
    have hrest : b ∈ rest := hafter.subset (by rw [← List.nil_append after, ← hcut]; simp)
    exact absurd hrest (List.disjoint_of_nodup_append hnodup hb)
  | cons head tail =>
    obtain rfl : a = head := (List.cons.inj hcut).1
    exact hbefore.subset List.mem_cons_self

/-- **Who overtakes a place** is something that it depends on, or that an earlier place depends on. -/
theorem overtakes {order : List Nat} (h : places queue = .ok order) {earlier later : Nat}
    (hlt : earlier < later) (hovertakes : [later, earlier].Sublist order) :
    ∃ place ≤ earlier, Relation.TransGen (DependsOn queue) place later := by
  obtain ⟨hlayered, hall⟩ := places_layered h
  have hearlier : earlier < queue.length :=
    List.mem_range.mp (hall.mem_iff.mp (hovertakes.subset (by simp)))
  -- the walk is halted when it is done with the earlier place
  have hcut : List.range queue.length = List.range (earlier + 1) ++
      (List.range (queue.length - (earlier + 1))).map (earlier + 1 + ·) := by
    rw [← List.range_add, Nat.add_sub_of_le hearlier]
  have hwalk : visitAll queue (List.range queue.length) [] [] (List.range (earlier + 1) ++
      (List.range (queue.length - (earlier + 1))).map (earlier + 1 + ·)) = .ok order := by
    rw [← hcut]
    exact h
  obtain ⟨middle, hbefore, hafter⟩ := exists_of_visitAll_append hwalk
  obtain ⟨hgrown, hplaced⟩ := visitAll_layered queue _ [] [] _ List.nodup_range .nil hbefore
  obtain ⟨hgrown', -⟩ := visitAll_layered queue _ [] middle _ List.nodup_range hgrown.layered hafter
  obtain ⟨more, rfl⟩ := hgrown'.appended
  have hmiddle : earlier ∈ middle := hplaced earlier (List.mem_range.mpr (Nat.lt_succ_self _))
  have hlater : later ∈ middle := mem_of_sublist_append hlayered.nodup hovertakes hmiddle
  obtain hnone | ⟨place, hplace, hreach⟩ := visitAll_reaches queue _ [] [] _ hbefore hlater
  · cases hnone
  · have hle : place ≤ earlier := Nat.le_of_lt_succ (List.mem_range.mp hplace)
    -- it is another place than the later one, so at least one edge leads there
    obtain hsame | htrans := Relation.reflTransGen_iff_eq_or_transGen.mp hreach
    · omega
    · exact ⟨place, hle, htrans⟩

/-- Where every place follows the places that it depends on, nobody overtakes. -/
theorem places_eq_range {order : List Nat} (h : places queue = .ok order)
    (hfollows : ∀ place target, DependsOn queue place target → target < place) :
    order = List.range queue.length := by
  obtain ⟨hlayered, hall⟩ := places_layered h
  have hbefore : ∀ place target, Relation.TransGen (DependsOn queue) place target → target < place := by
    intro place target hreach
    induction hreach with
    | single hedge => exact hfollows _ _ hedge
    | tail _ hedge ih => exact (hfollows _ _ hedge).trans ih
  have hsorted : order.Pairwise (· < ·) := by
    rw [List.pairwise_iff_forall_sublist]
    -- a pair the wrong way round would come from a dependency on something queued later
    intro first second hpair
    by_contra hle
    have hne : first ≠ second := by
      have := hlayered.nodup.sublist hpair
      simpa using this
    obtain ⟨place, hplace, hreach⟩ := overtakes h (by omega) hpair
    have := hbefore _ _ hreach
    omega
  exact hall.eq_of_pairwise (fun _ _ _ _ _ _ => by omega) hsorted List.pairwise_lt_range

end Order

/-! ## Taking the queue of a server -/

variable {κ : Type} {β : κ → Type} {ω : Type}

/-- **Ties keep the order of the queue**: a plugin overtakes one that was queued earlier only if that one,
or one queued before it, depends on it. -/
theorem ServerAct.takeQueue_ties {h h' : Hosting κ β ω} {plugins : List (Plugin κ β ω)}
    (hrun : takeQueue.runOn h = (.ok plugins, h')) :
    ∃ order, dependencyOrder (h.server.pending.map (·.info)) (h.server.built.map (·.info.id)) = .ok order ∧
      plugins = order.filterMap (h.server.pending[·]?) ∧
      (∀ earlier later, earlier < later → [later, earlier].Sublist order → ∃ place ≤ earlier,
        Relation.TransGen (Order.DependsOn (h.server.pending.map (·.info))) place later) ∧
      ((∀ place target, Order.DependsOn (h.server.pending.map (·.info)) place target → target < place) →
        order = List.range h.server.pending.length ∧ plugins = h.server.pending) := by
  have htaken := takeQueue_eq h
  rw [hrun] at htaken
  cases horder : dependencyOrder (h.server.pending.map (·.info)) (h.server.built.map (·.info.id)) with
  | error error =>
    rw [horder] at htaken
    cases htaken
  | ok order =>
    rw [horder] at htaken
    obtain rfl := Except.ok.inj htaken
    have hplaces := (dependencyOrder_eq_ok_iff.mp horder).2
    refine ⟨order, rfl, rfl, fun earlier later => Order.overtakes hplaces, ?_⟩
    -- in an increasing order of all places nothing is moved
    intro hfollows
    have hrange := Order.places_eq_range hplaces hfollows
    rw [List.length_map] at hrange
    exact ⟨hrange, by rw [hrange, filterMap_getElem?_range]⟩

namespace Sample

def eager : Plugin Empty (fun _ => Unit) Unit := plugin "host::Eager" [base.info.id] .done

def idle : Plugin Empty (fun _ => Unit) Unit := plugin "host::Idle" [] .done

/-- The last plugin of the queue is a dependency of the first one. -/
def overtaken : Hosting Empty (fun _ => Unit) Unit :=
  Hosting.after 3 ⟨Server.empty, ()⟩ [.add eager .done, .add idle .done, .add base .done]

theorem dependencyOrder_overtaken : dependencyOrder [eager.info, idle.info, base.info] [] = .ok [2, 0, 1] := by
  simp [dependencyOrder, Order.missing?, Order.places, Order.visitAll, Order.visit, Order.targets,
    Order.firstOf, eager, idle, base, plugin, Plugin.info, List.range, List.range.loop, List.findIdx?_cons,
    List.findSome?_cons]

theorem takeQueue_overtaken : ServerAct.takeQueue.runOn overtaken =
    (.ok [base, eager, idle], overtaken.update (·.unqueued)) := by
  have hqueue : overtaken.server.inOrder = .ok [base, eager, idle] := by
    show (dependencyOrder [eager.info, idle.info, base.info] []).map _ = _
    rw [dependencyOrder_overtaken]
    rfl
  rw [ServerAct.runOn_takeQueue, hqueue]

end Sample

/-- The idle plugin is overtaken, and the plugin queued before it depends on the one that overtakes. -/
theorem ServerAct.takeQueue_ties_overtaken : ServerAct.takeQueue.runOn Sample.overtaken =
      (.ok [Sample.base, Sample.eager, Sample.idle], Sample.overtaken.update (·.unqueued)) ∧
    ∃ place ≤ 1, Relation.TransGen
      (Order.DependsOn [Sample.eager.info, Sample.idle.info, Sample.base.info]) place 2 := by
  refine ⟨Sample.takeQueue_overtaken, ?_⟩
  obtain ⟨order, horder, -, hovertakes, -⟩ := takeQueue_ties Sample.takeQueue_overtaken
  obtain rfl : order = [2, 0, 1] := Except.ok.inj (horder.symm.trans Sample.dependencyOrder_overtaken)
  exact hovertakes 1 2 (by omega) (by decide)

end LiveSwap
