import LiveSwap.Proofs.DependencyOrder
import Mathlib.Data.List.Chain
import Mathlib.Logic.Relation

/-!
# The graph of dependencies

The places of a queue are the nodes of a graph: an edge leads from every plugin to the first queued
plugin of each id that it depends on. The walk over the queue is a walk along these edges.

* **`Order.DependsOn`** — the edges; `Order.mem_targets_iff` says that the walk follows them.
* **`Order.Layered.reaches_before`** — in a layered order all that a place depends on, also through
  others, comes before it, so a complete layered order leaves no room for a way round.
* **`Order.IsCycle`** — a way round that meets no place twice; `Order.IsCycle.not_acyclic`.
-/

namespace LiveSwap

namespace Order

variable {queue : List PluginInfo}

/-! ## First plugins -/

/-- The place holds the first queued plugin of the id. -/
structure IsFirst (queue : List PluginInfo) (id : PluginId) (place : Nat) : Prop where
  holds : ∃ info, queue[place]? = some info ∧ info.id = id
  first : ∀ earlier < place, ∀ info, queue[earlier]? = some info → info.id ≠ id

theorem firstOf_eq_some_iff {id : PluginId} {place : Nat} :
    firstOf queue id = some place ↔ IsFirst queue id place := by
  -- both say that no earlier place has the id; they differ in how a place is looked up
  rw [firstOf, List.findIdx?_eq_some_iff_getElem]
  constructor
  · rintro ⟨hlt, hid, hfirst⟩
    refine ⟨⟨queue[place], List.getElem?_eq_getElem hlt, by simpa using hid⟩, ?_⟩
    intro earlier hearlier info hinfo
    obtain ⟨_, rfl⟩ := List.getElem?_eq_some_iff.mp hinfo
    simpa using hfirst earlier hearlier
  · rintro ⟨⟨info, hinfo, hid⟩, hfirst⟩
    obtain ⟨hlt, rfl⟩ := List.getElem?_eq_some_iff.mp hinfo
    refine ⟨hlt, by simpa using hid, ?_⟩
    intro earlier hearlier
    simpa using hfirst earlier hearlier _ (List.getElem?_eq_getElem (hearlier.trans hlt))

theorem firstOf_eq_none_iff {id : PluginId} :
    firstOf queue id = none ↔ ∀ info ∈ queue, info.id ≠ id := by
  simp [firstOf]

theorem IsFirst.lt {id : PluginId} {place : Nat} (h : IsFirst queue id place) : place < queue.length := by
  obtain ⟨info, hinfo, -⟩ := h.holds
  exact (List.getElem?_eq_some_iff.mp hinfo).1

/-! ## Edges -/

/-- The plugin at the first place depends on an id whose first queued plugin is at the second place. -/
def DependsOn (queue : List PluginInfo) (place target : Nat) : Prop :=
  ∃ info, queue[place]? = some info ∧ ∃ id ∈ info.dependencies, IsFirst queue id target

theorem mem_targets_iff {place target : Nat} :
    target ∈ targets queue place ↔ DependsOn queue place target := by
  rw [targets, DependsOn]
  cases queue[place]? with
  | none => simp
  | some info => simp [firstOf_eq_some_iff]

theorem DependsOn.source_lt {place target : Nat} (h : DependsOn queue place target) :
    place < queue.length := by
  obtain ⟨info, hinfo, -⟩ := h
  exact (List.getElem?_eq_some_iff.mp hinfo).1

theorem DependsOn.target_lt {place target : Nat} (h : DependsOn queue place target) :
    target < queue.length := by
  obtain ⟨_, _, _, _, hfirst⟩ := h
  exact hfirst.lt

/-- No plugin depends on itself, be it through others. -/
def Acyclic (queue : List PluginInfo) : Prop :=
  ∀ place, ¬ Relation.TransGen (DependsOn queue) place place

/-! ## Missing dependencies -/

/-- Every dependency of a queued plugin is queued. -/
def Closed (queue : List PluginInfo) : Prop :=
  ∀ info ∈ queue, ∀ id ∈ info.dependencies, ∃ other ∈ queue, other.id = id

theorem closed_of_missing?_eq_none (h : missing? queue [] = none) : Closed queue := by
  intro info hinfo id hid
  obtain ⟨place, hfirst⟩ | hbuilt := dependency_of_missing?_eq_none h hinfo hid
  · obtain ⟨other, hother, hsame⟩ := firstOf_eq_some hfirst
    exact ⟨other, List.mem_of_getElem? hother, hsame⟩
  · cases hbuilt

theorem missing?_eq_some {built : List PluginId} {error : OrderError}
    (h : missing? queue built = some error) : ∃ info ∈ queue, ∃ id ∈ info.dependencies,
      (∀ other ∈ queue, other.id ≠ id) ∧ error = .missing info.name id := by
  obtain ⟨info, hinfo, hfound⟩ := List.exists_of_findSome?_eq_some h
  obtain ⟨id, hid, rfl⟩ := Option.map_eq_some_iff.mp hfound
  have hnone := List.find?_some hid
  rw [Bool.and_eq_true, Option.isNone_iff_eq_none] at hnone
  exact ⟨info, hinfo, id, List.mem_of_find?_eq_some hid, firstOf_eq_none_iff.mp hnone.1, rfl⟩

/-! ## Layered orders -/

/-- **Whatever a place depends on**, be it through others, comes before it. -/
theorem Layered.reaches_before {order : List Nat} (h : Layered queue order) {place target : Nat}
    (hreach : Relation.TransGen (DependsOn queue) place target) {before after : List Nat}
    (hcut : order = before ++ place :: after) : target ∈ before := by
  -- along the chain: what it has reached comes before the place, and the next edge leads further back
  induction hreach with
  | single hedge => exact h.targets_before hcut _ (mem_targets_iff.mpr hedge)
  | @tail between target _ hedge ih =>
    -- the order can be cut earlier, at the place the last edge starts from
    obtain ⟨first, last, rfl⟩ := List.append_of_mem ih
    have hcut' : order = first ++ between :: (last ++ place :: after) := by
      rw [hcut, List.append_assoc, List.cons_append]
    exact List.mem_append_left _ (h.targets_before hcut' _ (mem_targets_iff.mpr hedge))

/-- An order of the whole queue leaves no way round. -/
theorem Layered.acyclic {order : List Nat} (h : Layered queue order)
    (hall : order.Perm (List.range queue.length)) : Acyclic queue := by
  intro place hround
  -- a place on a way round would come before itself
  have hlt : place < queue.length := by
    obtain ⟨next, hedge, -⟩ := Relation.TransGen.head'_iff.mp hround
    exact hedge.source_lt
  obtain ⟨before, after, hcut⟩ := List.append_of_mem (hall.mem_iff.mpr (List.mem_range.mpr hlt))
  have hbefore := h.reaches_before hround hcut
  have hnodup := h.nodup
  rw [hcut] at hnodup
  exact List.disjoint_of_nodup_append hnodup hbefore List.mem_cons_self

/-! ## Cycles -/

/-- A way round: places none of which is met twice, each of which depends on the next one, and the last
one on the first. -/
structure IsCycle (queue : List PluginInfo) (cycle : List Nat) : Prop where
  nonempty : cycle ≠ []
  nodup : cycle.Nodup
  linked : cycle.IsChain (DependsOn queue)
  closes : ∀ last ∈ cycle.getLast?, ∀ first ∈ cycle.head?, DependsOn queue last first

theorem IsCycle.not_acyclic {cycle : List Nat} (h : IsCycle queue cycle) : ¬ Acyclic queue := by
  intro hacyclic
  -- along the chain from the first place to the last one, and back to the first
  have hround := List.relationReflTransGen_of_exists_isChain cycle h.linked h.nonempty
  have hlast := h.closes _ (List.getLast?_eq_some_getLast h.nonempty) _ (List.head?_eq_some_head h.nonempty)
  exact hacyclic _ (Relation.TransGen.tail' hround hlast)

/-- The names of the plugins at the places. -/
def Names (queue : List PluginInfo) (names : List String) (places : List Nat) : Prop :=
  List.Forall₂ (fun name place => ∃ info, queue[place]? = some info ∧ info.name = name) names places

theorem names_filterMap {places : List Nat} (h : ∀ place ∈ places, place < queue.length) :
    Names queue (places.filterMap fun place => (queue[place]?).map (·.name)) places := by
  induction places with
  | nil => exact .nil
  | cons place places ih =>
    have hlt := h place List.mem_cons_self
    have hinfo := List.getElem?_eq_getElem hlt
    rw [List.filterMap_cons_some (b := queue[place].name) (by rw [hinfo]; rfl)]
    exact .cons ⟨_, hinfo, rfl⟩ (ih fun other hother => h other (.tail _ hother))

theorem IsCycle.lt_length {cycle : List Nat} (h : IsCycle queue cycle) {place : Nat}
    (hplace : place ∈ cycle) : place < queue.length := by
  obtain ⟨before, after, rfl⟩ := List.append_of_mem hplace
  cases after with
  | nil =>
    -- the last place depends on the first one
    obtain ⟨first, hfirst⟩ : ∃ first, first ∈ (before ++ [place]).head? := by
      cases before <;> exact ⟨_, rfl⟩
    exact (h.closes place (by simp) first hfirst).source_lt
  | cons next after =>
    exact (List.isChain_append_cons_cons.mp h.linked).2.1.source_lt

end Order

end LiveSwap
