import LiveSwap.Proofs.Admission

/-!
# Dependencies between plugins

What a plugin depends on is built before it, if the plugin waits in the queue; a plugin that is added
while the server is finished is built at once unless it is refused, and nobody asks what it depends on. So it
is as well where plugins catch what others panic with.

* **`finish_dependencies`** — both, for every history; and a queue that no order satisfies makes the
  server panic before it calls anybody.
* **`finish_ignores_dependencies`** — a plugin that is built although nobody has added what it depends
  on.
-/

namespace LiveSwap

open Journal

namespace Journal

theorem Numbered.info_unique {place number : Nat} {entries : Journal} (h : Numbered place entries)
    {info info' : PluginInfo} (hinfo : .offered number info ∈ entries)
    (hinfo' : .offered number info' ∈ entries) : info = info' := by
  have hmem : ∀ {entries : Journal} {info : PluginInfo}, .offered number info ∈ entries →
      number ∈ offered entries := fun hentry => List.mem_filterMap.mpr ⟨_, hentry, rfl⟩
  induction entries generalizing place with
  | nil => cases hinfo
  | cons entry entries ih =>
    cases entry with
    | offered other info₀ =>
      obtain ⟨rfl, hrest⟩ := h
      simp only [List.mem_cons, Entry.offered.injEq] at hinfo hinfo'
      obtain ⟨rfl, rfl⟩ | hlater := hinfo
      · obtain ⟨_, rfl⟩ | hlater' := hinfo'
        · rfl
        · -- later offers have larger numbers
          have := hrest.offered_bounds _ (hmem hlater')
          omega
      · obtain ⟨rfl, rfl⟩ | hlater' := hinfo'
        · have := hrest.offered_bounds _ (hmem hlater)
          omega
        · exact ih hrest hlater hlater'
    | _ =>
      refine ih h ?_ ?_
      · simpa using hinfo
      · simpa using hinfo'

/-- Who was offered before the server was finished, and is built, waited in the queue. -/
theorem Completes.mem_queue {before whole past since builds readies : Journal} {queue : List Nat}
    (h : Completes before whole past since queue builds readies) {number : Nat} {info : PluginInfo}
    (hoffered : .offered number info ∈ before) (hcalled : number ∈ called .build whole) :
    number ∈ queue := by
  have hbefore := h.quiet.numbered.offered_bounds number (List.mem_filterMap.mpr ⟨_, hoffered, rfl⟩)
  -- whoever is added later has a number that no earlier offer has
  obtain hqueue | hbuilds | hreadies := h.called_cases hcalled
  · exact hqueue
  · have := h.built.numbered.offered_bounds number (h.built.offered_of_added hbuilds)
    omega
  · have := h.readied.blocks.numbered.offered_bounds number (h.readied.blocks.offered_of_added hreadies)
    omega

/-- **Whoever is added while the server is finished** is called to build at once, unless the addition is
refused. -/
theorem Completes.begun_iff_open {before whole past since builds readies : Journal} {queue : List Nat}
    (h : Completes before whole past since queue builds readies) (hjudged : whole.Judged) {number : Nat}
    {info : PluginInfo} (hoffered : .offered number info ∈ whole) (hnew : .offered number info ∉ before) :
    [.offered number info, .called number .build] <:+: whole ↔ ¬Closes (whole.take number) info := by
  have hplace := getElem?_offered hjudged.numbered hoffered
  have hdecided := hjudged.decided number info hplace
  rw [← begun_iff hjudged.numbered, ← not_congr hdecided.refused, not_not]
  refine ⟨.inr, fun hadmitted => hadmitted.resolve_left fun hqueued => ?_⟩
  -- the server has started to build, so whoever is accepted was called before
  have hlater : before.length ≤ number := by
    by_contra hlt
    have hwhole : whole = before ++ (.finishing :: (builds ++ readies) ++ [.finished]) := by simp [h.whole_eq]
    rw [hwhole, List.getElem?_append_left (by omega)] at hplace
    exact hnew (List.mem_of_getElem? hplace)
  have hearlier : ∀ other ∈ accepted before, other < number := by
    intro other hother
    have := h.quiet.numbered.offered_bounds other (h.quiet.sublist.subset hother)
    omega
  have haccepted : number ∈ accepted whole := mem_accepted.mpr (List.mem_of_getElem? hqueued.2)
  have hkept : ¬before.Lost number := by
    intro hlost
    exact absurd (hearlier number (mem_accepted.mpr (hlost.subset List.mem_cons_self))) (Nat.lt_irrefl _)
  have hcalled : number ∈ called .build whole :=
    h.perm_called.mem_iff.mpr (List.mem_append_left _ (h.returned_of_accepted haccepted hkept))
  have hunqueued : number ∉ queue := by
    intro hqueue
    have hsince := h.perm.mem_iff.mp hqueue
    exact absurd (hearlier number (by simp [h.before_eq, hsince])) (Nat.lt_irrefl _)
  obtain ⟨other, hpart⟩ := h.offer_of_called hcalled hunqueued
  have hbegun := ((begun_iff hjudged.numbered).mpr hpart).2
  rw [hqueued.2] at hbegun
  simp at hbegun

end Journal

/-! ## What plugins may rely on -/

/-- Every plugin follows the plugins that it depends on. -/
def InDependencyOrder {κ : Type} {β : κ → Type} {ω : Type} (queue : List (Plugin κ β ω)) : Prop :=
  ∀ before plugin after, queue = before ++ plugin :: after →
    ∀ id ∈ plugin.info.dependencies, ∃ other ∈ before, other.info.id = id

/-- **What plugins may rely on** while a server is finished, where `before` is its journal up to then and
`whole` its journal after that. -/
structure Journal.Dependable (before whole : Journal) : Prop where
  /-- Before a plugin of the queue is called to build, one of every id that it depends on was built. -/
  queued : ∀ number info, .offered number info ∈ before → number ∈ called .build whole →
    ∀ id ∈ info.dependencies, ∃ other otherInfo, .offered other otherInfo ∈ before ∧ otherInfo.id = id ∧
      [.returned other .build, .called number .build].Sublist whole
  /-- A plugin that is added meanwhile is called to build at once, whatever it depends on, unless the addition
  is refused. -/
  added : ∀ number info, .offered number info ∈ whole → .offered number info ∉ before →
    ([.offered number info, .called number .build] <:+: whole ↔ ¬Closes (whole.take number) info)

section Finishing

variable {κ : Type} {β : κ → Type} {ω : Type} [DecidableEq κ] {depth : Nat} {outside : ω}
  {earlier : List (Script κ β ω)}

theorem dependable_of_finish {h : Hosting κ β ω}
    (hfinish : (ServerAct.run depth (.finish .done)).runOn
      (Hosting.after depth ⟨Server.empty, outside⟩ earlier) = (.ok (), h)) :
    Dependable (journal depth outside earlier) (journal depth outside (earlier ++ [.finish .done])) := by
  obtain ⟨l, m, past, since, queue, builds, readies, hl, hwaiting, hqueue, hm, hcompletes, _⟩ :=
    exists_completes hfinish
  have hbefore : journal depth outside earlier = l.journal := by rw [journal, hl]; rfl
  have hwhole : journal depth outside (earlier ++ [.finish .done]) = m.journal := by rw [journal, hm]; rfl
  have hjudged := judged_of_finish hfinish
  rw [hwhole] at hjudged
  rw [hbefore, hwhole]
  refine ⟨?_, fun number info => hcompletes.begun_iff_open hjudged⟩
  intro number info hoffered hcalled id hid
  -- the plugin waits in the queue, with the declarations that it was offered with
  obtain ⟨entrant, hentrant, rfl⟩ := List.mem_map.mp (hcompletes.mem_queue hoffered hcalled)
  have hpending := (Roster.perm_of_inOrder hqueue).mem_iff.mp hentrant
  obtain rfl := hwaiting.quiet.numbered.info_unique hoffered (hwaiting.infos entrant hpending)
  obtain ⟨first, last, hcut⟩ := List.append_of_mem hentrant
  obtain ⟨other, hother, rfl⟩ := Roster.dependency_of_inOrder hqueue hwaiting.built hcut hid
  have hnumbers : queue.map (·.number) =
      first.map (·.number) ++ entrant.number :: last.map (·.number) := by simp [hcut]
  have hotherPending : other ∈ l.roster.pending :=
    (Roster.perm_of_inOrder hqueue).mem_iff.mp (by simp [hcut, hother])
  exact ⟨other.number, other.plugin.info, hwaiting.infos other hotherPending, rfl,
    hcompletes.returned_before_called hnumbers (List.mem_map_of_mem hother)⟩

/-- **A queue that no order satisfies** is not built at all. -/
theorem orderable_or_panic
    (hfresh : (Hosting.after depth ⟨Server.empty, outside⟩ earlier).server.state = .notStarted) :
    (∃ queue, queue.Perm (Hosting.after depth ⟨Server.empty, outside⟩ earlier).server.pending ∧
      InDependencyOrder queue) ∨
    ∃ message, (ServerAct.run depth (.finish .done)).runOn
        (Hosting.after depth ⟨Server.empty, outside⟩ earlier) =
      (.error (.panic (.text message)),
        (Hosting.after depth ⟨Server.empty, outside⟩ earlier).update (·.unqueued)) := by
  -- before the server starts to build its order does not depend on what is built
  have hnone := Hosting.built_of_notStarted hfresh
  obtain ⟨l, -, hplain⟩ := (Life.start outside : Life κ β ω).exists_after depth earlier
  have hempty : (Life.start outside : Life κ β ω).plain = ⟨Server.empty, outside⟩ := rfl
  rw [hempty] at hplain
  rw [hplain] at hfresh hnone ⊢
  have hbuilt : l.roster.built = [] := List.map_eq_nil_iff.mp hnone
  have hreading : l.plain.server.inOrder = l.roster.inOrder.map (·.map (·.plugin)) :=
    l.roster.server_inOrder fun _ => rfl
  cases hqueue : l.roster.inOrder with
  | error error =>
    -- the queue is taken before the error is raised
    right
    have hhalt : (ServerAct.finish (ServerAct.invoke depth) depth).runOn l.plain =
        (.error (.panic (.text error.message)), l.plain.update (·.unqueued)) := by
      rw [ServerAct.runOn_finish, if_pos hfresh, hreading, hqueue]
      rfl
    exact ⟨error.message, Effect.runOn_bind_error hhalt⟩
  | ok queue =>
    left
    refine ⟨queue.map (·.plugin), (Roster.perm_of_inOrder hqueue).map _, ?_⟩
    -- the order was found by the walk, so every dependency stands in the first part
    intro before plugin after hcut id hid
    obtain ⟨first, rest, rfl, rfl, hrest⟩ := List.map_eq_append_iff.mp hcut
    obtain ⟨entrant, last, rfl, rfl, rfl⟩ := List.map_eq_cons_iff.mp hrest
    obtain ⟨other, hother, rfl⟩ := Roster.dependency_of_inOrder hqueue hbuilt rfl hid
    exact ⟨other.plugin, List.mem_map_of_mem hother, rfl⟩

/-- **Dependencies between plugins**, after whatever was done before: if a finish returns, the plugins of
the queue were built after what they depend on, and those that were offered meanwhile were called to build at
once unless they were refused; if no order of the queue is a dependency order, it panics and calls nobody. -/
theorem finish_dependencies (depth : Nat) (outside : ω) (earlier : List (Script κ β ω)) :
    (∀ h, (ServerAct.run depth (.finish .done)).runOn
        (Hosting.after depth ⟨Server.empty, outside⟩ earlier) = (.ok (), h) →
      Dependable (journal depth outside earlier)
        (journal depth outside (earlier ++ [.finish .done]))) ∧
    ((Hosting.after depth ⟨Server.empty, outside⟩ earlier).server.state = .notStarted →
      (¬ ∃ queue, queue.Perm (Hosting.after depth ⟨Server.empty, outside⟩ earlier).server.pending ∧
        InDependencyOrder queue) →
      ∃ message, (ServerAct.run depth (.finish .done)).runOn
          (Hosting.after depth ⟨Server.empty, outside⟩ earlier) =
        (.error (.panic (.text message)),
          (Hosting.after depth ⟨Server.empty, outside⟩ earlier).update (·.unqueued))) := by
  refine ⟨fun h => dependable_of_finish, ?_⟩
  intro hfresh hnone
  exact (orderable_or_panic hfresh).resolve_left hnone

end Finishing

namespace Sample

def dependent : Plugin Empty (fun _ => Unit) Unit := plugin "host::Dependent" [base.info.id] .done

theorem finish_dependent : ∃ h, (ServerAct.run 3 (.finish .done)).runOn
    (Hosting.after 3 ⟨Server.empty, ()⟩ [.add dependent .done, .add base .done]) = (.ok (), h) := by
  -- the walk over two places is small enough to be followed
  have hdependencies : dependencyOrder [dependent.info, base.info] [] = .ok [1, 0] := by
    simp [dependencyOrder, Order.missing?, Order.places, Order.visitAll, Order.visit, Order.targets,
      Order.firstOf, dependent, base, plugin, Plugin.info, List.range, List.range.loop, List.findIdx?_cons]
  have horder : (Hosting.after 3 ⟨Server.empty, ()⟩
      [.add dependent .done, .add base .done]).server.inOrder = .ok [base, dependent] := by
    show (dependencyOrder [dependent.info, base.info] []).map _ = _
    rw [hdependencies]
    rfl
  refine finish_returns rfl horder rfl ?_ ?_
  · show ∀ plugin ∈ [base, dependent], plugin.script .ready = .done
    simp [base, dependent, plugin, Plugin.script]
  · show 2 ≤ 3
    omega

def needy : Plugin Empty (fun _ => Unit) Unit := plugin "host::Needy" [⟨"host::Absent"⟩] .done

/-- It adds a plugin that depends on one that is never added. -/
def careless : Plugin Empty (fun _ => Unit) Unit := plugin "host::Careless" [] (.add needy .done)

theorem finish_careless : ∃ h, (ServerAct.run 3 (.finish .done)).runOn
    (Hosting.after 3 ⟨Server.empty, ()⟩ [.add careless .done]) = (.ok (), h) := by
  have horder : (Hosting.after 3 ⟨Server.empty, ()⟩ [.add careless .done]).server.inOrder =
      .ok [careless] := by
    show (dependencyOrder [careless.info] []).map _ = _
    rw [dependencyOrder_of_independent (by decide)]
    rfl
  refine finish_returns rfl horder rfl ?_ ?_
  · show ∀ plugin ∈ [needy, careless], plugin.script .ready = .done
    simp [needy, careless, plugin, Plugin.script]
  · show 2 ≤ 3
    omega

theorem journal_careless : journal 3 () ([.add careless .done] ++ [.finish .done]) =
    [.offered 0 careless.info, .accepted 0, .finishing, .called 0 .build, .offered 4 needy.info,
      .called 4 .build, .returned 4 .build, .accepted 4, .returned 0 .build, .called 4 .ready,
      .returned 4 .ready, .called 0 .ready, .returned 0 .ready, .finished] := by
  have horder : (attempting [.add careless .done]).server.inOrder = .ok [careless.journaled 0] := by
    show (dependencyOrder [careless.info] []).map _ = _
    rw [dependencyOrder_of_independent (by decide)]
    rfl
  refine journal_finish [⟨4, needy⟩, ⟨0, careless⟩] rfl horder rfl rfl ?_ ?_
  · simp [needy, careless, plugin, Plugin.script]
  · show 2 ≤ 3
    omega

end Sample

/-- A plugin that is added before the one it depends on. -/
theorem finish_dependencies_dependent : ∃ h, (ServerAct.run 3 (.finish .done)).runOn
    (Hosting.after 3 ⟨Server.empty, ()⟩ [.add Sample.dependent .done, .add Sample.base .done]) =
      (.ok (), h) ∧
    Dependable (journal 3 () [.add Sample.dependent .done, .add Sample.base .done])
      (journal 3 () ([.add Sample.dependent .done, .add Sample.base .done] ++ [.finish .done])) := by
  obtain ⟨h, hfinish⟩ := Sample.finish_dependent
  exact ⟨h, hfinish, (finish_dependencies 3 () _).1 h hfinish⟩

/-- **A plugin can be built although nobody has added what it depends on**: it is added by another one
while that is built. -/
theorem finish_ignores_dependencies : ∃ h, (ServerAct.run 3 (.finish .done)).runOn
    (Hosting.after 3 ⟨Server.empty, ()⟩ [.add Sample.careless .done]) = (.ok (), h) ∧
      ∃ number info id, .offered number info ∈ journal 3 () ([.add Sample.careless .done] ++ [.finish .done]) ∧
        .returned number .build ∈ journal 3 () ([.add Sample.careless .done] ++ [.finish .done]) ∧
        id ∈ info.dependencies ∧ ∀ other otherInfo,
          .offered other otherInfo ∈ journal 3 () ([.add Sample.careless .done] ++ [.finish .done]) →
            otherInfo.id ≠ id := by
  obtain ⟨h, hfinish⟩ := Sample.finish_careless
  refine ⟨h, hfinish, 4, Sample.needy.info, ⟨"host::Absent"⟩, ?_⟩
  rw [Sample.journal_careless]
  refine ⟨by decide, by decide, by decide, ?_⟩
  intro other otherInfo hoffered
  simp only [List.mem_cons, reduceCtorEq, List.not_mem_nil, or_false, false_or, Entry.offered.injEq]
    at hoffered
  obtain ⟨-, rfl⟩ | ⟨-, rfl⟩ := hoffered
  · decide
  · decide

end LiveSwap
