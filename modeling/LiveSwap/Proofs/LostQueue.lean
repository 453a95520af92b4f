import LiveSwap.Proofs.Lifecycle
import LiveSwap.Proofs.ServerCourse

/-!
# What is left of a queue that cannot be ordered

The queue is taken from the server before it is known whether it can be ordered. If it cannot, nobody
has been called and nothing else about the server has changed; but the queue is gone, while the ids of
its plugins stay noted.

* **`Hosting.lost`** — the server without its queue, and `Hosting.Loses` what it has in common with the
  server before.
* **`Life.Bare`** — a server that has not started to build and has an empty queue; it stays like that
  until somebody adds a plugin or attempts to finish it.
* **`ServerAct.finish_loses_queue`** — an attempt to finish that fails for its dependencies, and what can
  be done afterwards: finish without the lost plugins, but not add the unique ones again.
-/

namespace LiveSwap

open Relation

variable {κ : Type} {β : κ → Type} {ω : Type}

/-! ## Servers with an empty queue -/

/-- A plugin was added, or somebody attempts to finish the server. -/
def Entry.touchesQueue : Entry → Bool
  | .accepted _ | .finishing => true
  | _ => false

namespace Life

/-- A server that has not started to build and has nothing to build. -/
structure Bare (l : Life κ β ω) : Prop where
  state : l.roster.state = .notStarted
  pending : l.roster.pending = []

variable {l l' : Life κ β ω}

/-- It takes an addition or an attempt to finish to change that. -/
theorem Bare.move (h : l.Bare) (hmove : Moves l l') {entries : Journal}
    (hjournal : l'.journal = l.journal ++ entries) (hrest : ∀ entry ∈ entries, entry.touchesQueue = false) :
    l'.Bare := by
  have hstate : l.roster.state ≠ .building := by simp [h.state]
  -- an entry that says so would be among those that were written meanwhile
  have htouched : ∀ {written : Journal} {entry : Entry}, l'.journal = l.journal ++ written → entry ∈ written →
      entry.touchesQueue = true → False := by
    intro written entry hwritten hmem hentry
    rw [List.append_cancel_left (hwritten.symm.trans hjournal)] at hmem
    have hfalse := hrest entry hmem
    rw [hentry] at hfalse
    cases hfalse
  obtain hstep | hcut := hmove
  · cases hstep with
    | beside globals outside => exact ⟨h.state, h.pending⟩
    | refused hrefusal => exact ⟨h.state, h.pending⟩
    | returned | panicked => exact ⟨h.state, h.pending⟩
    | queued hopen hfresh => exact (htouched rfl (.tail _ (.head _)) rfl).elim
    | lost | started | attempted => exact (htouched rfl (.head _) rfl).elim
    | begun hopen hbuilding => exact absurd hbuilding hstate
    | enrolled hknown hbuilding => exact absurd hbuilding hstate
    | concluded hbuilding => exact absurd hbuilding hstate
    | called hknown hstarted => exact absurd h.state hstarted
    | accepted hknown hstarted => exact absurd h.state hstarted
  · cases hcut with
    | mk hopen hbuilding => exact absurd hbuilding hstate

theorem Bare.moves (h : l.Bare) (hmoves : ReflTransGen Moves l l') {entries : Journal}
    (hjournal : l'.journal = l.journal ++ entries) (hrest : ∀ entry ∈ entries, entry.touchesQueue = false) :
    l'.Bare := by
  induction hmoves generalizing entries with
  | refl => exact h
  | @tail m l' hpath hmove ih =>
    obtain ⟨first, hfirst⟩ := journal_of_moves hpath
    obtain ⟨last, hlast⟩ := hmove.journal
    obtain rfl : entries = first ++ last := by
      rw [hlast, hfirst, List.append_assoc] at hjournal
      exact (List.append_cancel_left hjournal).symm
    have hm := ih hfirst fun entry hentry => hrest entry (List.mem_append_left _ hentry)
    exact hm.move hmove hlast fun entry hentry => hrest entry (List.mem_append_right _ hentry)

end Life

/-! ## Losing the queue -/

namespace Hosting

/-- The server whose queue was taken and came to nothing. -/
def lost (h : Hosting κ β ω) : Hosting κ β ω := h.update (·.unqueued)

/-- Nothing but the queue is gone. -/
structure Loses (h h' : Hosting κ β ω) : Prop where
  pending : h'.server.pending = []
  globals : h'.server.globals = h.server.globals
  built : h'.server.built = h.server.built
  listeners : h'.server.listeners = h.server.listeners
  added : h'.server.added = h.server.added
  state : h'.server.state = h.server.state
  outside : h'.outside = h.outside

theorem loses_lost (h : Hosting κ β ω) : h.Loses h.lost := ⟨rfl, rfl, rfl, rfl, rfl, rfl, rfl⟩

end Hosting

namespace ServerAct

variable {h : Hosting κ β ω} {error : OrderError}

/-- Whoever would have been called is not asked. -/
theorem finish_eq_lost (hfresh : h.server.state = .notStarted)
    (horder : dependencyOrder (h.server.pending.map (·.info)) (h.server.built.map (·.info.id)) = .error error)
    (call : Plugin κ β ω → Phase → ServerAct κ β ω Unit) (rounds : Nat) :
    (finish call rounds).runOn h = (.error (.panic (.text error.message)), h.lost) := by
  rw [runOn_finish, if_pos hfresh, Server.inOrder, horder]
  rfl

theorem finish_of_bare (hfresh : h.server.state = .notStarted) (hpending : h.server.pending = [])
    (hbuilt : h.server.built = []) (call : Plugin κ β ω → Phase → ServerAct κ β ω Unit) (rounds : Nat) :
    (finish call rounds).runOn h = (.ok (), h.update (·.started.concluded)) := by
  have horder : h.server.inOrder = .ok [] := by
    rw [Server.inOrder, hpending, hbuilt, List.map_nil, dependencyOrder_of_independent (by simp)]
    rfl
  have hready : (readyFrom call rounds 0).runOn (h.update (·.started)) = (.ok (), h.update (·.started)) := by
    refine readyFrom_of_none call ?_
    show h.server.built[0]? = none
    rw [hbuilt]
    rfl
  exact finish_eq_ok call hfresh horder rfl hready

theorem add_of_noted {plugin : Plugin κ β ω} (hopen : h.server.state ≠ .built)
    (hunique : plugin.info.isUnique = true) (hid : plugin.info.id ∈ h.server.added)
    (call : Plugin κ β ω → Phase → ServerAct κ β ω Unit) :
    (add call plugin).runOn h =
      (.error (.panic (.text (Server.Refusal.duplicate plugin.info.name plugin.info.label).message)), h) := by
  have hrefusal : h.server.refusal? plugin.info =
      some (.duplicate plugin.info.name plugin.info.label) := by
    rw [Server.refusal?, if_neg hopen, if_pos ⟨hunique, hid⟩]
  rw [runOn_add, hrefusal]

end ServerAct

/-! ## What can be done afterwards -/

section Histories

variable [DecidableEq κ]

/-- A server before and after its queue was lost, which had come about by these scripts. -/
structure Hosting.Aftermath (depth : Nat) (outside : ω) (earlier : List (Script κ β ω))
    (h h' : Hosting κ β ω) : Prop where
  after : h' = Hosting.after depth ⟨Server.empty, outside⟩ (earlier ++ [.finish .done])
  attempt : journal depth outside (earlier ++ [.finish .done]) = journal depth outside earlier ++ [.finishing]
  /-- Nobody has been called, then or before. -/
  uncalled : ∀ number phase, .called number phase ∉ journal depth outside (earlier ++ [.finish .done])
  unbuilt : h'.server.isBuilt = false
  /-- If nobody adds anything meanwhile, the server can be finished, and nobody is called. -/
  retry : ∀ between more, journal depth outside (earlier ++ [.finish .done] ++ between) =
      journal depth outside (earlier ++ [.finish .done]) ++ more →
    (∀ entry ∈ more, entry.touchesQueue = false) → ∀ call rounds,
      (ServerAct.finish call rounds).runOn (h'.after depth between) =
        (.ok (), (h'.after depth between).update (·.started.concluded))
  /-- As long as the server is not finished, a unique plugin of a lost id is not accepted again. -/
  taken : ∀ between plugin, (h'.after depth between).server.state ≠ .built → plugin.info.isUnique = true →
    (∃ lost ∈ h.server.pending, lost.info.id = plugin.info.id) → ∀ call,
      (ServerAct.add call plugin).runOn (h'.after depth between) =
        (.error (.panic (.text (Server.Refusal.duplicate plugin.info.name plugin.info.label).message)),
          h'.after depth between)

variable {depth : Nat} {outside : ω} {earlier : List (Script κ β ω)}

theorem Hosting.after_lost {h : Hosting κ β ω}
    (hrun : ((ServerAct.run depth (.finish .done)).runOn h).2 = h.lost)
    (hh : h = Hosting.after depth ⟨Server.empty, outside⟩ earlier) :
    h.lost = Hosting.after depth ⟨Server.empty, outside⟩ (earlier ++ [.finish .done]) := by
  rw [Hosting.after_append, ← hh]
  exact hrun.symm

theorem journal_of_lost {error : OrderError}
    (hfresh : (Hosting.after depth ⟨Server.empty, outside⟩ earlier).server.state = .notStarted)
    (horder : dependencyOrder
      ((Hosting.after depth ⟨Server.empty, outside⟩ earlier).server.pending.map (·.info))
      ((Hosting.after depth ⟨Server.empty, outside⟩ earlier).server.built.map (·.info.id)) = .error error) :
    journal depth outside (earlier ++ [.finish .done]) = journal depth outside earlier ++ [.finishing] := by
  obtain ⟨l, hl, -⟩ := Life.exists_course depth outside earlier
  have hmatches := Life.matches_of_journaled hl
  have hpending : l.journaled.server.pending.map (·.info) = l.roster.pending.map (·.plugin.info) := by
    simp [Life.journaled, Roster.journaled, Roster.server, Function.comp_def]
  have hbuilt : l.journaled.server.built.map (·.info.id) = (l.roster.built.map (·.plugin.info)).map (·.id) := by
    simp [Life.journaled, Roster.journaled, Roster.server, Function.comp_def]
  -- finishing fails with the journal exactly as it does without
  have hlost : (ServerAct.finish (ServerAct.invoke depth) depth).runOn (l.noted .finishing).journaled =
      (.error (.panic (.text error.message)), (l.noted .finishing).journaled.lost) := by
    refine ServerAct.finish_eq_lost (hmatches.state.trans hfresh) ?_ _ _
    show dependencyOrder (l.journaled.server.pending.map (·.info))
      (l.journaled.server.built.map (·.info.id)) = _
    rw [hpending, hbuilt, hmatches.pending, hmatches.built, List.map_map]
    exact horder
  have hafter : journaledAfter depth outside (earlier ++ [.finish .done]) =
      (l.noted .finishing).journaled.lost := by
    rw [journaledAfter, List.map_append, Hosting.after_append]
    show ((ServerAct.run depth (Script.finish .done).journaled).runOn (journaledAfter depth outside earlier)).2 = _
    rw [hl]
    exact congrArg Prod.snd (Effect.runOn_bind_error (f := fun _ => _) hlost)
  rw [journal, journal, hafter, hl]
  rfl

theorem uncalled_of_notStarted {scripts : List (Script κ β ω)}
    (hfresh : (Hosting.after depth ⟨Server.empty, outside⟩ scripts).server.state = .notStarted)
    (number : Nat) (phase : Phase) : Entry.called number phase ∉ journal depth outside scripts := by
  obtain hstarted | ⟨l, past, since, hl, hwaiting⟩ :=
    Life.waits_after depth scripts (Life.waiting_start outside)
  · obtain ⟨l, hl, -⟩ := Life.exists_course depth outside scripts
    have hstate : l.roster.state ≠ .notStarted := by
      rw [← journaledAfter, hl] at hstarted
      exact hstarted
    exact absurd ((Life.matches_of_journaled hl).state.trans hfresh) hstate
  · intro hcalled
    have hjournal : journal depth outside scripts = l.journal := congrArg (·.outside.2) hl
    rw [hjournal, ← Journal.mem_called, hwaiting.quiet.uncalled] at hcalled
    cases hcalled

theorem finish_after_lost {h : Hosting κ β ω} (hfresh : h.server.state = .notStarted)
    (hafter : h.lost = Hosting.after depth ⟨Server.empty, outside⟩ earlier)
    {between : List (Script κ β ω)} {more : Journal}
    (hjournal : journal depth outside (earlier ++ between) = journal depth outside earlier ++ more)
    (hrest : ∀ entry ∈ more, entry.touchesQueue = false)
    (call : Plugin κ β ω → Phase → ServerAct κ β ω Unit) (rounds : Nat) :
    (ServerAct.finish call rounds).runOn (h.lost.after depth between) =
      (.ok (), (h.lost.after depth between).update (·.started.concluded)) := by
  obtain ⟨m, hm, hmoves⟩ := Life.exists_course depth outside earlier
  obtain ⟨l, hl, hmoves'⟩ := Life.exists_course_later ((Life.sound_start outside).moves hmoves) hm between
  have hmatches := Life.matches_of_journaled hm
  rw [← hafter] at hmatches
  -- the queue was lost, and nothing that came since has touched it
  have hbare : m.Bare := ⟨hmatches.state.trans hfresh, List.map_eq_nil_iff.mp hmatches.pending⟩
  have hlast : l.Bare := by
    refine hbare.moves hmoves' ?_ hrest
    rw [journal, journal, hm, hl] at hjournal
    exact hjournal
  have hmatches' := Life.matches_of_journaled hl
  rw [Hosting.after_append, ← hafter] at hmatches'
  have hregular : (h.lost.after depth between).server.Regular := by
    rw [hafter, ← Hosting.after_append]
    exact Hosting.regular_after depth outside _
  have hstate := hmatches'.state.symm.trans hlast.state
  have hpending : (h.lost.after depth between).server.pending = [] := by
    have hinfos := hmatches'.pending
    rw [hlast.pending, List.map_nil] at hinfos
    exact List.map_eq_nil_iff.mp hinfos.symm
  exact ServerAct.finish_of_bare hstate hpending (hregular.unbuilt hstate) call rounds

namespace ServerAct

/-- **An attempt to finish that fails for its dependencies.** It panics with what is wrong before anybody
is called and takes nothing but the queue with it. The lost plugins are not missed when the server is
finished next, but their ids are still taken. -/
theorem finish_loses_queue {h : Hosting κ β ω} {error : OrderError} (hfresh : h.server.state = .notStarted)
    (horder : dependencyOrder (h.server.pending.map (·.info)) (h.server.built.map (·.info.id)) =
      .error error) :
    (∀ call rounds, (finish call rounds).runOn h = (.error (.panic (.text error.message)), h.lost)) ∧
      h.Loses h.lost ∧
      ∀ (depth : Nat) (outside : ω) (earlier : List (Script κ β ω)),
        h = Hosting.after depth ⟨Server.empty, outside⟩ earlier →
          Hosting.Aftermath depth outside earlier h h.lost := by
  have hfinish := finish_eq_lost hfresh horder
  refine ⟨hfinish, h.loses_lost, fun depth outside earlier hh => ?_⟩
  have hrun : (run depth (.finish .done)).runOn h = (.error (.panic (.text error.message)), h.lost) :=
    Effect.runOn_bind_error (hfinish (invoke depth) depth)
  have hafter := Hosting.after_lost (congrArg Prod.snd hrun) hh
  have hlost : h.lost.server.state = .notStarted := hfresh
  refine ⟨hafter, ?_, ?_, ?_, ?_, ?_⟩
  · rw [hh] at hfresh horder
    exact journal_of_lost hfresh horder
  · rw [hafter] at hlost
    exact uncalled_of_notStarted hlost
  · simp [Server.isBuilt, hlost]
  · intro between more hjournal hrest call rounds
    exact finish_after_lost hfresh hafter hjournal hrest call rounds
  · intro between plugin hopen hunique ⟨lost, hmem, hid⟩ call
    refine add_of_noted hopen hunique ?_ call
    -- the id was noted when the lost plugin was added, and it is never forgotten
    have hnoted : lost.info.id ∈ h.server.added := by
      rw [hh] at hmem ⊢
      exact (Hosting.regular_after depth outside earlier).noted lost hmem
    obtain ⟨m, hm, hmoves⟩ := Life.exists_course depth outside (earlier ++ [.finish .done])
    obtain ⟨l, hl, hmoves'⟩ := Life.exists_course_later ((Life.sound_start outside).moves hmoves) hm between
    have hadded := (Life.matches_of_journaled hm).added
    have hadded' := (Life.matches_of_journaled hl).added
    rw [← hafter] at hadded
    rw [Hosting.after_append, ← hafter] at hadded'
    rw [← hadded', ← hid]
    refine Life.added_of_moves hmoves' ?_
    rw [hadded]
    exact hnoted

end ServerAct

end Histories

/-! ## A plugin without its dependency -/

namespace Sample

def orphan : Plugin Empty (fun _ => Unit) Unit := plugin "host::Orphan" [⟨"host::Absent"⟩] .done

def bereft : Hosting Empty (fun _ => Unit) Unit := Hosting.after 3 ⟨Server.empty, ()⟩ [.add orphan .done]

theorem dependencyOrder_bereft : dependencyOrder (bereft.server.pending.map (·.info))
    (bereft.server.built.map (·.info.id)) = .error (.missing "host::Orphan" ⟨"host::Absent"⟩) := by
  show dependencyOrder [orphan.info] [] = _
  decide

end Sample

/-- The plugin is lost with the queue; after that the server can be finished without it, or it is found to
have been added already. -/
theorem finish_loses_queue_bereft :
    (ServerAct.run 3 (.finish .done)).runOn Sample.bereft =
        (.error (.panic (.text (OrderError.missing "host::Orphan" ⟨"host::Absent"⟩).message)),
          Sample.bereft.lost) ∧
      Sample.bereft.Loses Sample.bereft.lost ∧
      (ServerAct.run 3 (.finish .done)).runOn Sample.bereft.lost =
        (.ok (), Sample.bereft.lost.update (·.started.concluded)) ∧
      (ServerAct.run 3 (.add Sample.orphan .done)).runOn Sample.bereft.lost =
        (.error (.panic (.text (Server.Refusal.duplicate "host::Orphan" "host::Orphan").message)),
          Sample.bereft.lost) := by
  obtain ⟨hfinish, hloses, haftermath⟩ :=
    ServerAct.finish_loses_queue (h := Sample.bereft) rfl Sample.dependencyOrder_bereft
  have hafter := haftermath 3 () [.add Sample.orphan .done] rfl
  refine ⟨Effect.runOn_bind_error (hfinish (ServerAct.invoke 3) 3), hloses, ?_, ?_⟩
  · have hretry := hafter.retry [] [] (by rw [List.append_nil, List.append_nil]) nofun (ServerAct.invoke 3) 3
    exact Effect.runOn_bind_ok hretry
  · have htaken := hafter.taken [] Sample.orphan nofun rfl ⟨Sample.orphan, .head _, rfl⟩ (ServerAct.invoke 3)
    exact Effect.runOn_bind_error htaken

end LiveSwap
