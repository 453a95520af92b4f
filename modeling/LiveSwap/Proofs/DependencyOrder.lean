import LiveSwap.Server.Order
import Mathlib.Data.List.Basic
import Mathlib.Data.List.Nodup
import Mathlib.Data.List.Perm.Basic

/-!
# Dependency orders

The walk over the queue yields an order in which every place follows the places it has to follow.

* **`Order.Layered`** — such an order, as it grows: a place may come last once all its targets are
  there.
* **`Order.visit_eq_ok_iff`**, **`Order.visit_eq_error_iff`** — what a visit comes to.
* **`Order.visit_layered`**, **`Order.visitAll_layered`** — a walk that finds no cycle makes a
  layered order longer, by places that were free.
* **`perm_of_dependencyOrder`** — a queue that can be ordered is ordered completely: every place
  occurs, and none twice.
* **`dependency_before`** — in that order every dependency of a plugin is met by a plugin placed
  before it, or was met by one that was built earlier.
-/

namespace LiveSwap

namespace Order

/-! ## Layered orders -/

/-- An order that grew at its end, each place after the places it has to follow. -/
inductive Layered (queue : List PluginInfo) : List Nat → Prop where
  | nil : Layered queue []
  | snoc {order : List Nat} {place : Nat} (horder : Layered queue order) (hnew : place ∉ order)
      (htargets : ∀ target ∈ targets queue place, target ∈ order) : Layered queue (order ++ [place])

variable {queue : List PluginInfo}

theorem Layered.nodup {order : List Nat} (h : Layered queue order) : order.Nodup := by
  induction h with
  | nil => exact List.nodup_nil
  | snoc _ hnew _ ih =>
    rw [List.nodup_append]
    refine ⟨ih, List.nodup_singleton _, ?_⟩
    intro a ha b hb hab
    rw [List.mem_singleton] at hb
    subst hb hab
    exact hnew ha

/-- Wherever an order is cut, the targets of the place that follows are in the first part. -/
theorem Layered.targets_before {order : List Nat} (h : Layered queue order) :
    ∀ {before after : List Nat} {place : Nat}, order = before ++ place :: after →
      ∀ target ∈ targets queue place, target ∈ before := by
  -- the induction is on the order, from its end
  induction h with
  | nil =>
    intro before after place hcut
    simp at hcut
  | @snoc order last _ hnew htargets ih =>
    intro before after place hcut
    rcases List.eq_nil_or_concat after with rfl | ⟨rest, final, rfl⟩
    · -- the place is the one that came last
      obtain ⟨rfl, hlast⟩ := List.append_inj' hcut rfl
      obtain rfl : last = place := by simpa using hlast
      exact htargets
    · -- it was there before
      have hsplit : order ++ [last] = (before ++ place :: rest) ++ [final] := by simpa using hcut
      obtain ⟨horder, _⟩ := List.append_inj' hsplit rfl
      exact ih horder

/-- What a walk makes of an order: it stays layered, and grows by places that were free. -/
structure Grown (queue : List PluginInfo) (free order order' : List Nat) : Prop where
  layered : Layered queue order'
  appended : order <+: order'
  mem : ∀ place ∈ order', place ∈ order ∨ place ∈ free

theorem Grown.refl {free order : List Nat} (h : Layered queue order) : Grown queue free order order :=
  ⟨h, List.prefix_refl _, fun _ => Or.inl⟩

theorem Grown.trans {free order middle order' : List Nat} (h : Grown queue free order middle)
    (h' : Grown queue free middle order') : Grown queue free order order' := by
  refine ⟨h'.layered, h.appended.trans h'.appended, ?_⟩
  intro place hplace
  rcases h'.mem place hplace with hmiddle | hfree
  · exact h.mem place hmiddle
  · exact Or.inr hfree

/-! ## The walk -/

section Walk

variable {free path order order' cycle : List Nat} {place : Nat} {places : List Nat}

/-- A visit has nothing to do, or places everything that the place has to follow and then the place. -/
theorem visit_eq_ok_iff : visit queue free path order place = .ok order' ↔
    (place ∈ order ∧ order' = order) ∨ (place ∉ order ∧ place ∈ free ∧ ∃ walked,
      visitAll queue (free.erase place) (path ++ [place]) order (targets queue place) = .ok walked ∧
        order' = walked ++ [place]) := by
  rw [visit]
  by_cases hplaced : place ∈ order
  · simp [hplaced, eq_comm]
  · by_cases hfree : place ∈ free
    · cases visitAll queue (free.erase place) (path ++ [place]) order (targets queue place) with
      | error cycle => simp [hplaced, hfree]
      | ok walked => simp [hplaced, hfree, eq_comm]
    · simp [hplaced, hfree]

theorem visit_eq_error_iff : visit queue free path order place = .error cycle ↔ place ∉ order ∧
    ((place ∈ free ∧
      visitAll queue (free.erase place) (path ++ [place]) order (targets queue place) = .error cycle) ∨
    (place ∉ free ∧ cycle = path.drop ((path.idxOf? place).getD 0))) := by
  rw [visit]
  by_cases hplaced : place ∈ order
  · simp [hplaced]
  · by_cases hfree : place ∈ free
    · cases visitAll queue (free.erase place) (path ++ [place]) order (targets queue place) with
      | error cycle => simp [hplaced, hfree]
      | ok walked => simp [hplaced, hfree]
    · simp [hplaced, hfree, eq_comm]

@[simp] theorem visitAll_nil : visitAll queue free path order [] = .ok order := by
  rw [visitAll]

theorem visitAll_cons_eq_ok_iff : visitAll queue free path order (place :: places) = .ok order' ↔
    ∃ middle, visit queue free path order place = .ok middle ∧
      visitAll queue free path middle places = .ok order' := by
  rw [visitAll]
  cases visit queue free path order place <;> simp

theorem visitAll_cons_eq_error_iff : visitAll queue free path order (place :: places) = .error cycle ↔
    visit queue free path order place = .error cycle ∨ ∃ middle,
      visit queue free path order place = .ok middle ∧ visitAll queue free path middle places = .error cycle := by
  rw [visitAll]
  cases visit queue free path order place <;> simp

end Walk

mutual

/-- **A visit that finds no cycle** places what it visits. -/
theorem visit_layered (queue : List PluginInfo) (free path order : List Nat) (place : Nat)
    {order' : List Nat} (hfree : free.Nodup) (horder : Layered queue order)
    (h : visit queue free path order place = .ok order') :
    Grown queue free order order' ∧ place ∈ order' := by
  obtain ⟨hplaced, rfl⟩ | ⟨hnew, hmem, walked, hwalk, rfl⟩ := visit_eq_ok_iff.mp h
  · exact ⟨.refl horder, hplaced⟩
  · obtain ⟨hgrown, htargets⟩ := visitAll_layered queue (free.erase place) (path ++ [place]) order
      (targets queue place) (hfree.erase place) horder hwalk
    -- the place itself was not free on the way, so the walk did not place it
    have hunplaced : place ∉ walked := by
      intro hwalked
      rcases hgrown.mem place hwalked with hold | hother
      · exact hnew hold
      · exact hfree.not_mem_erase hother
    refine ⟨⟨.snoc hgrown.layered hunplaced htargets, hgrown.appended.trans (List.prefix_append _ _), ?_⟩,
      List.mem_append_right _ (List.mem_singleton_self place)⟩
    intro other hother
    rcases List.mem_append.mp hother with hwalked | hlast
    · exact (hgrown.mem other hwalked).imp_right List.mem_of_mem_erase
    · rw [List.mem_singleton] at hlast
      exact Or.inr (hlast ▸ hmem)
termination_by (free.length, 0)
decreasing_by
  have := List.length_pos_of_mem hmem
  rw [List.length_erase_of_mem hmem]
  exact Prod.Lex.left _ _ (by omega)

theorem visitAll_layered (queue : List PluginInfo) (free path order places : List Nat)
    {order' : List Nat} (hfree : free.Nodup) (horder : Layered queue order)
    (h : visitAll queue free path order places = .ok order') :
    Grown queue free order order' ∧ ∀ place ∈ places, place ∈ order' := by
  cases places with
  | nil =>
    obtain rfl : order = order' := Except.ok.inj (visitAll_nil.symm.trans h)
    exact ⟨.refl horder, by simp⟩
  | cons first rest =>
    -- the first place is visited, and the walk goes on from the order that this has left
    obtain ⟨middle, hvisit, hwalk⟩ := visitAll_cons_eq_ok_iff.mp h
    obtain ⟨hgrown, hfirst⟩ := visit_layered queue free path order first hfree horder hvisit
    obtain ⟨hgrown', hrest⟩ := visitAll_layered queue free path middle rest hfree hgrown.layered hwalk
    refine ⟨hgrown.trans hgrown', ?_⟩
    intro place hplace
    rcases List.mem_cons.mp hplace with rfl | hplace
    · exact hgrown'.appended.subset hfirst
    · exact hrest place hplace
termination_by (free.length, places.length + 1)

end

theorem places_layered {order : List Nat} (h : places queue = .ok order) :
    Layered queue order ∧ order.Perm (List.range queue.length) := by
  obtain ⟨hgrown, hall⟩ := visitAll_layered queue _ [] [] _ List.nodup_range .nil h
  refine ⟨hgrown.layered, ?_⟩
  rw [List.perm_ext_iff_of_nodup hgrown.layered.nodup List.nodup_range]
  intro place
  constructor
  · intro hplace
    rcases hgrown.mem place hplace with hnone | hfree
    · cases hnone
    · exact hfree
  · exact hall place

/-! ## Dependencies -/

theorem firstOf_eq_some {id : PluginId} {place : Nat} (h : firstOf queue id = some place) :
    ∃ info, queue[place]? = some info ∧ info.id = id := by
  obtain ⟨hlt, hid, _⟩ := List.findIdx?_eq_some_iff_getElem.mp h
  exact ⟨queue[place], List.getElem?_eq_getElem hlt, by simpa using hid⟩

theorem dependency_of_missing?_eq_none {built : List PluginId} (h : missing? queue built = none)
    {info : PluginInfo} (hinfo : info ∈ queue) {id : PluginId} (hid : id ∈ info.dependencies) :
    (∃ place, firstOf queue id = some place) ∨ id ∈ built := by
  have hnone := List.findSome?_eq_none_iff.mp h info hinfo
  have hfound := List.find?_eq_none.mp (Option.map_eq_none_iff.mp hnone) id hid
  simp only [Bool.and_eq_true, Bool.not_eq_true', not_and, Bool.not_eq_false,
    List.contains_iff_mem] at hfound
  by_cases hqueued : (firstOf queue id).isNone
  · exact Or.inr (hfound hqueued)
  · left
    cases hfirst : firstOf queue id with
    | none => simp [hfirst] at hqueued
    | some place => exact ⟨place, rfl⟩

end Order

/-! ## Ordered queues -/

variable {queue : List PluginInfo} {built : List PluginId} {order : List Nat}

/-- A queue is ordered if nothing is missing and the walk over it finds no cycle. -/
theorem dependencyOrder_eq_ok_iff : dependencyOrder queue built = .ok order ↔
    Order.missing? queue built = none ∧ Order.places queue = .ok order := by
  rw [dependencyOrder]
  cases hmissing : Order.missing? queue built with
  | some error => simp
  | none =>
    cases hplaces : Order.places queue with
    | error cycle => simp
    | ok places => simp

theorem dependencyOrder_eq_error_iff {error : OrderError} : dependencyOrder queue built = .error error ↔
    Order.missing? queue built = some error ∨ (Order.missing? queue built = none ∧
      ∃ cycle, Order.places queue = .error cycle ∧
        error = .circular (cycle.filterMap fun place => (queue[place]?).map (·.name))) := by
  rw [dependencyOrder]
  cases hmissing : Order.missing? queue built with
  | some error => simp
  | none =>
    cases hplaces : Order.places queue with
    | error cycle => simp [eq_comm]
    | ok places => simp

/-- **Every place of the queue is placed, once.** -/
theorem perm_of_dependencyOrder (h : dependencyOrder queue built = .ok order) :
    order.Perm (List.range queue.length) :=
  (Order.places_layered (dependencyOrder_eq_ok_iff.mp h).2).2

theorem filterMap_getElem?_range {α : Type} (xs : List α) :
    (List.range xs.length).filterMap (xs[·]?) = xs := by
  have hsome : (List.range xs.length).map (xs[·]?) = xs.map some := by
    refine List.ext_getElem (by simp) fun place hrange _ => ?_
    have hlt : place < xs.length := by simpa using hrange
    simp [hlt]
  simpa [List.filterMap_map, Function.comp_def] using congrArg (List.filterMap id) hsome

theorem perm_filterMap_of_dependencyOrder {α : Type} {xs : List α} (hlength : xs.length = queue.length)
    (h : dependencyOrder queue built = .ok order) : (order.filterMap (xs[·]?)).Perm xs := by
  have hperm := (perm_of_dependencyOrder h).filterMap (xs[·]?)
  rwa [← hlength, filterMap_getElem?_range] at hperm

/-- **Every dependency comes first**: of each plugin id that a placed plugin depends on, a plugin is
placed before it, unless one was built earlier. -/
theorem dependency_before (h : dependencyOrder queue built = .ok order) {before after : List Nat}
    {place : Nat} (hcut : order = before ++ place :: after) {info : PluginInfo}
    (hinfo : queue[place]? = some info) {id : PluginId} (hid : id ∈ info.dependencies) :
    (∃ earlier ∈ before, ∃ other, queue[earlier]? = some other ∧ other.id = id) ∨ id ∈ built := by
  obtain ⟨hmissing, hplaces⟩ := dependencyOrder_eq_ok_iff.mp h
  rcases Order.dependency_of_missing?_eq_none hmissing (List.mem_of_getElem? hinfo) hid with
    ⟨earlier, hfirst⟩ | hbuilt
  · left
    have htarget : earlier ∈ Order.targets queue place := by
      rw [Order.targets, hinfo]
      exact List.mem_filterMap.mpr ⟨id, hid, hfirst⟩
    exact ⟨earlier, (Order.places_layered hplaces).1.targets_before hcut earlier htarget,
      Order.firstOf_eq_some hfirst⟩
  · exact Or.inr hbuilt

/-! ## Independent plugins -/

/-- A walk over places that have nothing to follow takes them as they come. -/
theorem Order.visitAll_of_independent (hnone : ∀ place, targets queue place = []) {places : List Nat}
    (hnodup : places.Nodup) {free path order : List Nat} (hfree : ∀ place ∈ places, place ∈ free)
    (hnew : ∀ place ∈ places, place ∉ order) :
    visitAll queue free path order places = .ok (order ++ places) := by
  induction places generalizing order with
  | nil => rw [visitAll, List.append_nil]
  | cons place places ih =>
    obtain ⟨hplace, hnodup'⟩ := List.nodup_cons.mp hnodup
    -- a place without targets is put behind the others at once
    have hvisit : visit queue free path order place = .ok (order ++ [place]) := by
      rw [visit, if_neg (hnew place List.mem_cons_self), if_pos (hfree place List.mem_cons_self), hnone place,
        visitAll]
    rw [visitAll, hvisit]
    refine (ih hnodup' (fun other hother => hfree other (.tail _ hother)) fun other hother => ?_).trans ?_
    · rw [List.mem_append, List.mem_singleton, not_or]
      refine ⟨hnew other (.tail _ hother), ?_⟩
      rintro rfl
      exact hplace hother
    · rw [List.append_assoc]
      rfl

/-- Plugins without dependencies are built in the order in which they were queued. -/
theorem dependencyOrder_of_independent (h : ∀ info ∈ queue, info.dependencies = []) :
    dependencyOrder queue built = .ok (List.range queue.length) := by
  -- without dependencies there is nothing to follow and nothing to miss
  have htargets : ∀ place, Order.targets queue place = [] := by
    intro place
    rw [Order.targets]
    cases hinfo : queue[place]? with
    | none => rfl
    | some info => simp [h info (List.mem_of_getElem? hinfo)]
  have hmissing : Order.missing? queue built = none := by
    rw [Order.missing?, List.findSome?_eq_none_iff]
    intro info hinfo
    simp [h info hinfo]
  refine dependencyOrder_eq_ok_iff.mpr ⟨hmissing, ?_⟩
  exact Order.visitAll_of_independent htargets List.nodup_range (fun _ => id) fun _ _ => List.not_mem_nil

end LiveSwap
