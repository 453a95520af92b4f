import LiveSwap.Proofs.BuildStage
import LiveSwap.Proofs.CallBlocks
import LiveSwap.Proofs.DependencyOrder
import LiveSwap.Proofs.Journal
import Mathlib.Data.List.Induction

/-!
# Before building starts

Until a server is finished it calls nobody. Its queue holds the plugins that were added since somebody
last attempted to finish it: an attempt that fails because the queue cannot be ordered loses the queue.

* **`Journal.Quiet`** — a journal of additions and attempts to finish alone.
* **`Life.Waiting`** — a server that has not started to build, with what its journal says about its
  queue.
* **`ServerAct.waits_exec`**, **`Life.waits_after`** — whatever a script or a history does, and wherever
  it halts, the server waits on or has started to build.
* **`Hosting.built_of_notStarted`** — a server that has not started to build has built nothing.
* **`Roster.perm_of_inOrder`**, **`Roster.dependency_of_inOrder`** — the queue in the order in which it
  is built.
-/

namespace LiveSwap

open Journal

variable {κ : Type} {β : κ → Type} {ω : Type}

/-! ## Quiet journals -/

namespace Journal

/-- Nobody was called, and whoever was accepted had been offered. -/
structure Quiet (entries : Journal) : Prop where
  numbered : Numbered 0 entries
  sublist : (accepted entries).Sublist (offered entries)
  uncalled : ∀ phase, called phase entries = []
  unreturned : ∀ phase, returned phase entries = []
  unpanicked : ∀ phase, panicked phase entries = []

variable {entries : Journal}

theorem quiet_nil : Quiet [] := ⟨trivial, .slnil, fun _ => rfl, fun _ => rfl, fun _ => rfl⟩

/-- An offer may come to nothing. -/
theorem Quiet.offer (h : Quiet entries) (info : PluginInfo) :
    Quiet (entries ++ [.offered entries.length info]) where
  numbered := numbered_append.mpr ⟨h.numbered, by simp [Numbered]⟩
  sublist := by
    have hmore := h.sublist.trans (List.sublist_append_left _ [entries.length])
    simpa [Entry.accepted?, Entry.offered?] using hmore
  uncalled phase := by simp [h.uncalled, Entry.called?]
  unreturned phase := by simp [h.unreturned, Entry.returned?]
  unpanicked phase := by simp [h.unpanicked, Entry.panicked?]

theorem Quiet.addition (h : Quiet entries) (info : PluginInfo) :
    Quiet (entries ++ [.offered entries.length info, .accepted entries.length]) where
  numbered := numbered_append.mpr ⟨h.numbered, by simp [Numbered]⟩
  sublist := by
    have hmore := h.sublist.append (List.Sublist.refl [entries.length])
    simpa [Entry.accepted?, Entry.offered?] using hmore
  uncalled phase := by simp [h.uncalled, Entry.called?]
  unreturned phase := by simp [h.unreturned, Entry.returned?]
  unpanicked phase := by simp [h.unpanicked, Entry.panicked?]

theorem Quiet.attempt (h : Quiet entries) : Quiet (entries ++ [.finishing]) where
  numbered := numbered_append.mpr ⟨h.numbered, by simp [Numbered]⟩
  sublist := by simpa [Entry.accepted?, Entry.offered?] using h.sublist
  uncalled phase := by simp [h.uncalled, Entry.called?]
  unreturned phase := by simp [h.unreturned, Entry.returned?]
  unpanicked phase := by simp [h.unpanicked, Entry.panicked?]

end Journal

/-! ## Servers that wait -/

/-- A server that has not started to build. Its journal is `past`, which ends with the last attempt to
finish it, and `since`. -/
structure Life.Waiting (past since : Journal) (l : Life κ β ω) : Prop where
  state : l.roster.state = .notStarted
  journal : l.journal = past ++ since
  attempted : past = [] ∨ ∃ attempts, past = attempts ++ [.finishing]
  unattempted : Entry.finishing ∉ since
  quiet : Quiet l.journal
  built : l.roster.built = []
  listeners : l.roster.listeners = []
  /-- The queue holds what was accepted since the last attempt. -/
  pending : l.roster.pending.map (·.number) = accepted since
  infos : ∀ entrant ∈ l.roster.pending, .offered entrant.number entrant.plugin.info ∈ l.journal

namespace Life

variable {l : Life κ β ω} {past since : Journal}

theorem waiting_start (outside : ω) : (Life.start outside : Life κ β ω).Waiting [] [] where
  state := rfl
  journal := rfl
  attempted := .inl rfl
  unattempted := List.not_mem_nil
  quiet := quiet_nil
  built := rfl
  listeners := rfl
  pending := rfl
  infos _ := nofun

theorem Waiting.offer (h : l.Waiting past since) (info : PluginInfo) :
    (l.noted (.offered l.journal.length info)).Waiting past
      (since ++ [.offered l.journal.length info]) where
  state := h.state
  journal := by simp [noted, h.journal]
  attempted := h.attempted
  unattempted := by simpa using h.unattempted
  quiet := h.quiet.offer info
  built := h.built
  listeners := h.listeners
  pending := by simpa [noted, Entry.accepted?] using h.pending
  infos entrant hentrant := List.mem_append_left _ (h.infos entrant hentrant)

/-- The life after an addition. -/
def queued (l : Life κ β ω) (plugin : Plugin κ β ω) : Life κ β ω where
  roster := (l.roster.noteId plugin.info.id).enqueue ⟨l.journal.length, plugin⟩
  outside := l.outside
  journal := l.journal ++ [.offered l.journal.length plugin.info, .accepted l.journal.length]

theorem journaled_queued (l : Life κ β ω) (plugin : Plugin κ β ω) : (l.queued plugin).journaled =
    ⟨(l.journaled.server.noteId plugin.info.id).enqueue (plugin.journaled l.journal.length), l.outside,
      l.journal ++ [.offered l.journal.length plugin.info] ++ [.accepted l.journal.length]⟩ := by
  simp [journaled, queued, Roster.journaled, Roster.server_enqueue, Roster.server_noteId,
    Entrant.journaled]

/-- **An addition** makes the queue longer. -/
theorem Waiting.queued (h : l.Waiting past since) (plugin : Plugin κ β ω) :
    (l.queued plugin).Waiting past
      (since ++ [.offered l.journal.length plugin.info, .accepted l.journal.length]) where
  state := h.state
  journal := by simp [Life.queued, h.journal]
  attempted := h.attempted
  unattempted := by simpa using h.unattempted
  quiet := h.quiet.addition plugin.info
  built := h.built
  listeners := h.listeners
  pending := by simp [Life.queued, Roster.enqueue, Roster.noteId, h.pending, Entry.accepted?]
  infos entrant hentrant := by
    -- the plugin that waits now was offered just before
    have hqueue : entrant ∈ l.roster.pending ++ [⟨l.journal.length, plugin⟩] := hentrant
    rcases List.mem_append.mp hqueue with hold | hnew
    · exact List.mem_append_left _ (h.infos entrant hold)
    · obtain rfl := List.mem_singleton.mp hnew
      simp [Life.queued]

/-- **An attempt to finish that fails** loses the queue. -/
theorem Waiting.unqueued (h : l.Waiting past since) :
    ((l.noted .finishing).update (·.unqueued)).Waiting (past ++ since ++ [.finishing]) [] where
  state := h.state
  journal := by simp [noted, update, h.journal]
  attempted := .inr ⟨past ++ since, rfl⟩
  unattempted := List.not_mem_nil
  quiet := h.quiet.attempt
  built := h.built
  listeners := h.listeners
  pending := rfl
  infos _ := nofun

/-- What is published, and what goes on outside, does not matter. -/
theorem Waiting.beside (h : l.Waiting past since) (globals : Resources κ β) (outside : ω) :
    Waiting past since ⟨{ l.roster with globals := globals }, outside, l.journal⟩ :=
  ⟨h.state, h.journal, h.attempted, h.unattempted, h.quiet, h.built, h.listeners, h.pending, h.infos⟩

end Life

namespace ServerAct

/-! ## Actions on a server that waits -/

/-- However the action ends, a server that waited waits on or has started to build. -/
def Waits {α : Type} (act : ServerAct κ β (ω × Journal) α) : Prop :=
  ∀ (l : Life κ β ω) (past since : Journal), l.Waiting past since →
    (act.runOn l.journaled).2.server.state ≠ .notStarted ∨
      ∃ l' past' since', (act.runOn l.journaled).2 = Life.journaled l' ∧ l'.Waiting past' since'

theorem Waits.bind {α γ : Type} {x : ServerAct κ β (ω × Journal) α} {f : α → ServerAct κ β (ω × Journal) γ}
    (hx : Waits x) (hf : ∀ a, Waits (f a)) (hgrows : ∀ a, Within Server.Grows (f a)) : Waits (x >>= f) := by
  intro l past since hwaiting
  have hfirst := hx l past since hwaiting
  rw [Effect.runOn_bind]
  rcases hrun : x.runOn l.journaled with ⟨halt | a, h⟩
  · rwa [hrun] at hfirst
  · rw [hrun] at hfirst
    obtain hstarted | ⟨l', past', since', rfl, hwaiting'⟩ := hfirst
    · exact .inl ((hgrows a h).started hstarted)
    · exact hf a l' past' since' hwaiting'

theorem Waits.attempt {α : Type} {act : ServerAct κ β (ω × Journal) α} (h : Waits act) :
    Waits (Effect.attempt act) := by
  intro l past since hwaiting
  rw [Effect.snd_runOn_attempt]
  exact h l past since hwaiting

theorem waits_outside (act : Effect ω Unit) :
    Waits (outside (besideJournal act) : ServerAct κ β (ω × Journal) Unit) := by
  intro l past since h
  right
  rw [outside, Effect.runOn_onPart, besideJournal, Effect.runOn_onPart]
  exact ⟨_, past, since, rfl, h.beside l.roster.globals (act.runOn l.outside).2⟩

section Operations

variable {call : Plugin κ β (ω × Journal) → Phase → ServerAct κ β (ω × Journal) Unit}

theorem waits_tick (schedule : ScheduleId) : Waits (tick call schedule) := by
  intro l past since h
  have hlisteners : l.journaled.server.listeners = [] := h.listeners
  right
  rw [runOn_tick, hlisteners]
  exact ⟨l, past, since, rfl, h⟩

theorem waits_cleanup : Waits (cleanup call) := by
  intro l past since h
  have hlength : l.journaled.server.built.length = 0 := by
    rw [l.length_built_journaled, h.built]
    rfl
  right
  rw [runOn_cleanup, hlength]
  exact ⟨l, past, since, rfl, h⟩

variable (hcall : ∀ plugin phase, Within Server.Grows (call plugin phase))
include hcall

/-- **A journaled script** leaves a server that waited waiting, or building has started. -/
theorem waits_exec [DecidableEq κ] (rounds : Nat) (script : Script κ β ω) :
    Waits (script.journaled.exec call rounds) := by
  have hgrows : ∀ script : Script κ β (ω × Journal), Within Server.Grows (script.exec call rounds) :=
    grows_exec hcall rounds
  induction script using Script.exec.induct with
  | case1 => exact fun l past since h => .inr ⟨l, past, since, rfl, h⟩
  | case2 payload => exact fun l past since h => .inr ⟨l, past, since, rfl, h⟩
  | case3 plugin next ih =>
    intro l past since h
    have hrun : ((Script.add plugin next).journaled.exec call rounds).runOn l.journaled =
        (add call (plugin.journaled l.journal.length) >>= fun _ =>
          outside (Entry.accepted l.journal.length).write >>= fun _ =>
            next.journaled.exec call rounds).runOn
              (l.noted (.offered l.journal.length plugin.info)).journaled := rfl
    have hstate : (l.noted (.offered l.journal.length plugin.info)).journaled.server.state ≠
        .building := by
      show l.roster.state ≠ .building
      simp [h.state]
    rw [hrun, Effect.runOn_bind, runOn_add, Plugin.info_journaled]
    cases (l.noted (.offered l.journal.length plugin.info)).journaled.server.refusal? plugin.info with
    | some refusal => exact .inr ⟨_, past, _, rfl, h.offer plugin.info⟩
    | none =>
      simp only [if_neg hstate]
      have hqueued := ih (l.queued plugin) past _ (h.queued plugin)
      rw [l.journaled_queued plugin] at hqueued
      exact hqueued
  | case4 next ih =>
    intro l past since h
    have hrun : ((Script.finish next).journaled.exec call rounds).runOn l.journaled =
        (finish call rounds >>= fun _ => outside Entry.finished.write >>= fun _ =>
          next.journaled.exec call rounds).runOn (l.noted .finishing).journaled := rfl
    have hfresh : (l.noted .finishing).journaled.server.state = .notStarted := h.state
    rw [hrun, Effect.runOn_bind, runOn_finish, if_pos hfresh]
    cases (l.noted .finishing).journaled.server.inOrder with
    | error error => exact .inr ⟨_, _, _, rfl, h.unqueued⟩
    | ok queue =>
      -- from here on the server has started to build, whatever comes of it
      left
      rw [← Effect.runOn_bind (complete call rounds queue)]
      have hrest := (grows_complete hcall rounds queue).bind fun _ =>
        (within_outside Entry.finished.write).bind fun _ => hgrows next.journaled
      refine (hrest ((l.noted .finishing).journaled.update (·.started))).started fun hwaits => ?_
      cases hwaits
  | case5 schedule next ih => exact (waits_tick schedule).bind (fun _ => ih) fun _ => hgrows _
  | case6 next ih => exact waits_cleanup.bind (fun _ => ih) fun _ => hgrows _
  | case7 next ih => exact fun l => ih l.plain.server l
  | case8 k value next ih =>
    intro l past since h
    have hwritten := h.beside (l.roster.globals.insert k value).2 l.outside
    have hnext := ih (l.roster.globals.insert k value).1 _ past since hwritten
    exact hnext
  | case9 k next ih => exact fun l => ih l.plain.server l
  | case10 act next ih => exact (waits_outside act).bind (fun _ => ih) fun _ => hgrows _
  | case11 next ih => exact fun l => ih l.plain l
  | case12 body next hbody hnext => exact hbody.attempt.bind hnext fun _ => hgrows _

end Operations

end ServerAct

/-- **Every history** leaves a server waiting, or building has started. -/
theorem Life.waits_after [DecidableEq κ] (depth : Nat) (scripts : List (Script κ β ω))
    {l : Life κ β ω} {past since : Journal} (h : l.Waiting past since) :
    (l.journaled.after depth (scripts.map (·.journaled))).server.state ≠ .notStarted ∨
      ∃ (l' : Life κ β ω) (past' since' : Journal),
        l.journaled.after depth (scripts.map (·.journaled)) = l'.journaled ∧
          l'.Waiting past' since' := by
  induction scripts using List.reverseRecOn with
  | nil => exact .inr ⟨l, past, since, rfl, h⟩
  | append_singleton scripts script ih =>
    rw [List.map_append, Hosting.after_append]
    obtain hstarted | ⟨m, past', since', hm, hwaiting⟩ := ih
    · exact .inl ((ServerAct.run_grows depth _ _).started hstarted)
    · rw [hm]
      exact ServerAct.waits_exec (ServerAct.invoke_grows depth) depth script m past' since' hwaiting

theorem Hosting.built_of_notStarted [DecidableEq κ] {depth : Nat} {outside : ω}
    {earlier : List (Script κ β ω)}
    (hfresh : (Hosting.after depth ⟨Server.empty, outside⟩ earlier).server.state = .notStarted) :
    (Hosting.after depth ⟨Server.empty, outside⟩ earlier).server.built = [] := by
  obtain ⟨l, hjournaled, hplain⟩ := (Life.start outside : Life κ β ω).exists_after depth earlier
  have hempty : (Life.start outside : Life κ β ω).plain = ⟨Server.empty, outside⟩ := rfl
  rw [hempty] at hplain
  rw [hplain] at hfresh ⊢
  have hbuilt : l.roster.built = [] := by
    -- the two readings have built the same plugins, and a server that waits has built none
    obtain hstarted | ⟨l', past, since, hl', hwaiting⟩ :=
      Life.waits_after depth earlier (Life.waiting_start outside)
    · rw [hjournaled] at hstarted
      exact absurd hfresh hstarted
    · have hsame : l.roster.built.map (·.journaled) = l'.roster.built.map (·.journaled) :=
        congrArg (·.server.built) (hjournaled.symm.trans hl')
      simpa [hwaiting.built] using hsame
  exact congrArg (List.map _) hbuilt

/-! ## The order of the queue -/

namespace Roster

variable {r : Roster κ β ω} {queue : List (Entrant κ β ω)}

/-- **The whole queue** is built. -/
theorem perm_of_inOrder (h : r.inOrder = .ok queue) : queue.Perm r.pending := by
  rw [inOrder] at h
  cases horder : dependencyOrder (r.pending.map (·.plugin.info)) (r.built.map (·.plugin.info.id)) with
  | error error =>
    rw [horder] at h
    cases h
  | ok order =>
    rw [horder] at h
    obtain rfl := Except.ok.inj h
    exact perm_filterMap_of_dependencyOrder (List.length_map _).symm horder

/-- **A dependency is built first**, if nothing is built yet. -/
theorem dependency_of_inOrder (h : r.inOrder = .ok queue) (hbuilt : r.built = [])
    {before after : List (Entrant κ β ω)} {entrant : Entrant κ β ω}
    (hcut : queue = before ++ entrant :: after) {id : PluginId}
    (hid : id ∈ entrant.plugin.info.dependencies) : ∃ other ∈ before, other.plugin.info.id = id := by
  rw [inOrder, hbuilt, List.map_nil] at h
  cases horder : dependencyOrder (r.pending.map (·.plugin.info)) [] with
  | error error =>
    rw [horder] at h
    cases h
  | ok order =>
    rw [horder] at h
    obtain hqueue : order.filterMap (r.pending[·]?) = before ++ entrant :: after :=
      (Except.ok.inj h).trans hcut
    -- the cut of the queue is a cut of the places
    obtain ⟨first, last, rfl, rfl, hlast⟩ := List.filterMap_eq_append_iff.mp hqueue
    obtain ⟨none, place, rest, rfl, hnone, hplace, rfl⟩ := List.filterMap_eq_cons_iff.mp hlast
    have hinfo : (r.pending.map (·.plugin.info))[place]? = some entrant.plugin.info := by
      rw [List.getElem?_map, hplace]
      rfl
    obtain ⟨earlier, hearlier, info, hother, rfl⟩ | hnever :=
      dependency_before horder (List.append_assoc ..).symm hinfo hid
    · rw [List.getElem?_map, Option.map_eq_some_iff] at hother
      obtain ⟨other, hget, rfl⟩ := hother
      rcases List.mem_append.mp hearlier with hfirst | habsent
      · exact ⟨other, List.mem_filterMap.mpr ⟨earlier, hfirst, hget⟩, rfl⟩
      · rw [hnone earlier habsent] at hget
        cases hget
    · cases hnever

end Roster

end LiveSwap
