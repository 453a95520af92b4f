import LiveSwap.Proofs.Growth
import LiveSwap.Proofs.Waiting

/-!
# Finishing a server

What a finish that returns has done to the plugins, whatever was done to the server before, and what a
later cleanup does. A plugin may catch what the plugins that it adds panic with; whoever panics while it is
built is never readied then, although the finish returns.

* **`Journal.Completes`** — the form of the journal: what was before, a block for every plugin of the
  queue, and the ready loop.
* **`exists_completes`** — every finish that returns leaves such a journal.
* **`Journal.Lifecycle`** — the calls that each plugin receives; **`Journal.Completes.lifecycle`** reads
  them off the form.
* **`finish_lifecycle`** — all of this for every history. **`finish_leaves_out`** — a plugin that is
  never built, because an earlier attempt to finish failed.
-/

namespace LiveSwap

open Journal

namespace Journal

/-- The plugin passed the check when it was offered: its addition has returned, or it was called to build. -/
def Passed (entries : Journal) (number : Nat) : Prop :=
  number ∈ accepted entries ∨ number ∈ called .build entries

/-- The plugin was accepted before an attempt to finish, where this is the journal of a server that has not
been finished: the attempt failed, and the queue was lost with it. -/
def Lost (entries : Journal) (number : Nat) : Prop := [.accepted number, .finishing].Sublist entries

/-! ## The journal of a server that was finished -/

/-- What the journal `before` of a server that waits becomes when the server is finished: the queue, in
some order, is built in turn, and then everybody is readied. -/
structure Completes (before whole past since : Journal) (queue : List Nat) (builds readies : Journal) :
    Prop where
  before_eq : before = past ++ since
  attempted : past = [] ∨ ∃ attempts, past = attempts ++ [.finishing]
  unattempted : Entry.finishing ∉ since
  quiet : Quiet before
  perm : queue.Perm (accepted since)
  built : Blocks .build (before.length + 1) queue builds
  readied : Readies (before.length + 1 + builds.length) (returned .build builds) 0 readies
  whole_eq : whole = before ++ .finishing :: (builds ++ readies) ++ [.finished]

namespace Completes

variable {before whole past since builds readies : Journal} {queue : List Nat}
  (h : Completes before whole past since queue builds readies)
include h

theorem accepted_eq : accepted whole = accepted before ++ (accepted builds ++ accepted readies) := by
  simp [h.whole_eq, Entry.accepted?]

theorem perm_returned :
    (returned .build whole).Perm (queue ++ (accepted builds ++ accepted readies)) := by
  have hall := h.built.perm_returned.append_right (accepted readies)
  rw [List.append_assoc] at hall
  simpa [h.whole_eq, h.quiet.unreturned, h.readied.returned_build, Entry.returned?] using hall

/-- **Whoever is called to build** is built, or the call panics. -/
theorem perm_called : (called .build whole).Perm (returned .build whole ++ panicked .build whole) := by
  rw [List.perm_iff_count]
  intro number
  have hbuilds := h.built.perm_called.count_eq number
  have hreadies := h.readied.perm_called.count_eq number
  have hreturned := h.perm_returned.count_eq number
  simp only [List.count_append] at hbuilds hreadies hreturned
  rw [List.count_append, hreturned]
  simp [h.whole_eq, h.quiet.uncalled, h.quiet.unpanicked, Entry.called?, Entry.panicked?]
  omega

/-- **Ready calls come in the order in which build calls returned.** -/
theorem called_ready : called .ready whole = returned .build whole := by
  simp [h.whole_eq, h.quiet.uncalled, h.quiet.unreturned, h.built.called_ready, h.readied.called_ready,
    Entry.called?, Entry.returned?]

theorem numbered : Numbered 0 whole := by
  have hbuilds : Numbered (0 + before.length + 1) builds := by simpa using h.built.numbered
  have hreadies : Numbered (0 + before.length + 1 + builds.length) readies := by
    simpa using h.readied.blocks.numbered
  have hnow : Numbered (0 + before.length) (.finishing :: (builds ++ readies)) :=
    numbered_append.mpr ⟨hbuilds, hreadies⟩
  rw [h.whole_eq]
  exact numbered_append.mpr ⟨numbered_append.mpr ⟨h.quiet.numbered, hnow⟩, trivial⟩

theorem count_called (number : Nat) :
    (accepted past).count number + (called .build whole).count number ≤ 1 := by
  have hoffered : (offered whole).count number ≤ 1 :=
    List.nodup_iff_count_le_one.mp h.numbered.nodup_offered number
  have hbefore := h.quiet.sublist.count_le number
  have hbuilds := h.built.count_added number
  have hreadies := h.readied.blocks.count_added number
  have hreturned := h.perm_returned.count_eq number
  -- everybody who is called was offered, and offers have numbers of their own
  rw [h.perm_called.count_eq, List.count_append, hreturned, List.count_append, h.perm.count_eq]
  simp [h.whole_eq, h.before_eq, Entry.offered?] at hoffered hbefore
  simp [h.whole_eq, h.quiet.unpanicked, Entry.panicked?]
  omega

/-- **An addition before an attempt to finish that failed** is an addition to a queue that was lost. -/
theorem lost_iff {number : Nat} : before.Lost number ↔ number ∈ accepted past := by
  rw [Lost, h.before_eq, mem_accepted]
  constructor
  · intro hsublist
    obtain ⟨first, last, hcut, hfirst, hlast⟩ := List.sublist_append_iff.mp hsublist
    -- there is no attempt behind `past`, so the acceptance is in it
    cases first with
    | nil =>
      obtain rfl : _ = last := hcut
      exact absurd (hlast.subset (by simp)) h.unattempted
    | cons entry first =>
      obtain ⟨rfl, _⟩ := List.cons.inj hcut
      exact hfirst.subset List.mem_cons_self
  · intro hmem
    obtain rfl | ⟨attempts, rfl⟩ := h.attempted
    · cases hmem
    · have hattempts : .accepted number ∈ attempts := by simpa using hmem
      have hboth : [.accepted number, .finishing].Sublist (attempts ++ [.finishing]) :=
        (List.singleton_sublist.mpr hattempts).append (.refl _)
      exact hboth.trans (List.sublist_append_left _ _)

theorem not_called_of_lost {number : Nat} (hlost : before.Lost number) : number ∉ called .build whole := by
  have hcount := h.count_called number
  have hpast := List.count_pos_iff.mpr (h.lost_iff.mp hlost)
  exact List.count_eq_zero.mp (by omega)

theorem returned_of_accepted {number : Nat} (haccepted : number ∈ accepted whole) (hkept : ¬before.Lost number) :
    number ∈ returned .build whole := by
  rw [h.accepted_eq, h.before_eq, accepted_append, List.append_assoc, List.mem_append] at haccepted
  rw [h.lost_iff] at hkept
  rw [h.perm_returned.mem_iff, (h.perm.append_right _).mem_iff]
  exact haccepted.resolve_left hkept

/-- **Who is built**: whoever has passed the check, was not lost before, and does not panic. -/
theorem returned_of_passed {number : Nat} (hpassed : whole.Passed number) (hkept : ¬before.Lost number)
    (hends : number ∉ panicked .build whole) : number ∈ returned .build whole := by
  obtain haccepted | hcalled := hpassed
  · exact h.returned_of_accepted haccepted hkept
  · rw [h.perm_called.mem_iff, List.mem_append] at hcalled
    exact hcalled.resolve_right hends

/-- **The build call of a plugin that is built**: what is added inside it returns before it does, and the
plugin is readied after it. -/
theorem block_of_returned {number : Nat} (hreturned : number ∈ returned .build whole) :
    ∃ start first inner rest, Nested start inner ∧
      whole = first ++ block number .build inner .returns ++ rest ∧ number ∈ called .ready rest := by
  have hwhere : number ∈ returned .build builds ∨ number ∈ returned .build readies := by
    simpa [h.whole_eq, h.quiet.unreturned, Entry.returned?] using hreturned
  -- the build call returned in the build loop, or inside a ready call
  obtain hbuilds | hreadies := hwhere
  · obtain ⟨start, inner, hinner, first, last, hcut⟩ := h.built.block_of_returned hbuilds
    have hready : number ∈ called .ready readies := by
      rw [h.readied.called_ready]
      simp [hbuilds]
    refine ⟨start, before ++ .finishing :: first, inner, last ++ readies ++ [.finished], hinner, ?_, ?_⟩
    · simp [h.whole_eq, ← hcut]
    · simp [hready]
  · obtain ⟨start, inner, rest, hinner, ⟨first, hcut⟩, hready⟩ := h.readied.ready_after_build hreadies
    refine ⟨start, before ++ .finishing :: (builds ++ first), inner, rest ++ [.finished], hinner, ?_, ?_⟩
    · simp [h.whole_eq, ← hcut]
    · simp [hready]

/-- **Nobody is readied before the queue is built.** -/
theorem returned_of_ready {first rest : Journal} {ready : Nat}
    (hcut : whole = first ++ .called ready .ready :: rest) {number : Nat} (hnumber : number ∈ queue) :
    .returned number .build ∈ first := by
  have hreturned := mem_returned.mp (h.built.mem_returned hnumber)
  have hbefore : .called ready .ready ∉ before ++ .finishing :: builds := by
    rw [← mem_called]
    simp [h.quiet.uncalled, h.built.called_ready, Entry.called?]
  have hwhole : (before ++ .finishing :: builds) ++ (readies ++ [.finished]) =
      first ++ .called ready .ready :: rest := by
    rw [← hcut, h.whole_eq]
    simp
  -- the call is cut off behind the build loop: up to there nobody is readied
  obtain ⟨middle, rfl, _⟩ | ⟨middle, hmiddle, hrest⟩ := List.append_eq_append_iff.mp hwhole
  · simp [hreturned]
  · cases middle with
    | nil =>
      rw [List.append_nil] at hmiddle
      simp [← hmiddle, hreturned]
    | cons entry middle =>
      obtain ⟨rfl, _⟩ := List.cons.inj hrest
      exact absurd (by simp [hmiddle]) hbefore

theorem returned_before_called {first last : List Nat} {number earlier : Nat}
    (hcut : queue = first ++ number :: last) (hearlier : earlier ∈ first) :
    [.returned earlier .build, .called number .build].Sublist whole := by
  obtain ⟨start, done, inner, rest, rfl, hdone, _⟩ := h.built.cut hcut
  have hreturned := mem_returned.mp (hdone.mem_returned hearlier)
  have hboth : [.returned earlier .build, .called number .build].Sublist
      (done ++ block number .build inner .returns) :=
    (List.singleton_sublist.mpr hreturned).append (List.singleton_sublist.mpr List.mem_cons_self)
  have hwhole : whole = (before ++ [.finishing]) ++ (done ++ block number .build inner .returns) ++
      (rest ++ readies ++ [.finished]) := by
    simp [h.whole_eq]
  rw [hwhole]
  exact hboth.trans ((List.sublist_append_right _ _).trans (List.sublist_append_left _ _))

/-- Whoever is called to build waits in the queue, or is added while it is built or readied. -/
theorem called_cases {number : Nat} (hcalled : number ∈ called .build whole) : number ∈ queue ∨
    number ∈ accepted builds ++ panicked .build builds ∨
      number ∈ accepted readies ++ panicked .build readies := by
  have hwhere : number ∈ called .build builds ∨ number ∈ called .build readies := by
    simpa [h.whole_eq, h.quiet.uncalled, Entry.called?] using hcalled
  rw [h.built.perm_called.mem_iff, List.mem_append, h.readied.perm_called.mem_iff] at hwhere
  exact or_assoc.mp hwhere

/-- **Whoever is called to build and does not come from the queue** is called right after the offer. -/
theorem offer_of_called {number : Nat} (hcalled : number ∈ called .build whole) (hnew : number ∉ queue) :
    ∃ info, [.offered number info, .called number .build] <:+: whole := by
  obtain hbuilds | hreadies := (h.called_cases hcalled).resolve_left hnew
  · obtain ⟨info, hpart⟩ := h.built.offer_of_added hbuilds
    exact ⟨info, hpart.trans ⟨before ++ [.finishing], readies ++ [.finished], by simp [h.whole_eq]⟩⟩
  · obtain ⟨info, hpart⟩ := h.readied.blocks.offer_of_added hreadies
    exact ⟨info, hpart.trans ⟨before ++ .finishing :: builds, [.finished], by simp [h.whole_eq]⟩⟩

end Completes

/-- **The calls that plugins receive** while a server is finished, where `before` is its journal up to
then and `whole` its journal after that. -/
structure Lifecycle (before whole : Journal) : Prop where
  /-- A plugin that was lost to an earlier attempt to finish is not called. -/
  lost : ∀ number, before.Lost number → number ∉ called .build whole ∧ number ∉ called .ready whole
  /-- A plugin whose build call panics, which whoever has added it must have caught, is not called again; its
  addition has not returned. -/
  broken : ∀ number ∈ panicked .build whole, (called .build whole).count number = 1 ∧
    number ∉ called .ready whole ∧ number ∉ accepted whole
  /-- Every other plugin that passed the check is called to build once and to get ready once. -/
  once : ∀ number, whole.Passed number → ¬before.Lost number → number ∉ panicked .build whole →
    (called .build whole).count number = 1 ∧ (called .ready whole).count number = 1
  /-- Its build call returns before its ready call, and whoever is added inside the build call gets ready
  before it does. -/
  inside : ∀ number, whole.Passed number → ¬before.Lost number → number ∉ panicked .build whole →
    ∃ first inner rest, whole = first ++ block number .build inner .returns ++ rest ∧
      number ∈ called .ready rest ∧
      ∀ added ∈ accepted inner, [added, number].Sublist (called .ready whole)
  /-- Nobody gets ready before every plugin of the queue was built. -/
  queue : ∀ first ready rest, whole = first ++ .called ready .ready :: rest →
    ∀ number ∈ accepted before, ¬before.Lost number → .returned number .build ∈ first
  /-- Plugins get ready in the order in which they were built. -/
  order : called .ready whole = returned .build whole

namespace Completes

variable {before whole past since builds readies : Journal} {queue : List Nat}

theorem lifecycle (h : Completes before whole past since queue builds readies) :
    Lifecycle before whole where
  lost number hlost := by
    have hout := h.not_called_of_lost hlost
    -- whoever was built or panicked was called, and nobody who was lost is
    have hreturned : number ∉ returned .build whole := fun hmem =>
      hout (h.perm_called.mem_iff.mpr (List.mem_append_left _ hmem))
    rw [h.called_ready]
    exact ⟨hout, hreturned⟩
  broken number hpanicked := by
    -- one call at most, and that one panicked, so nobody returned
    have hcount := h.count_called number
    have hsplit := h.perm_called.count_eq number
    have hpos := List.count_pos_iff.mpr hpanicked
    rw [List.count_append] at hsplit
    have hreturned : number ∉ returned .build whole := List.count_eq_zero.mp (by omega)
    have hcalled : number ∈ called .build whole := List.count_pos_iff.mp (by omega)
    rw [h.called_ready]
    refine ⟨by omega, hreturned, fun haccepted => ?_⟩
    exact hreturned (h.returned_of_accepted haccepted fun hlost => h.not_called_of_lost hlost hcalled)
  once number hpassed hkept hends := by
    have hcount := h.count_called number
    have hsplit := h.perm_called.count_eq number
    have hpos := List.count_pos_iff.mpr (h.returned_of_passed hpassed hkept hends)
    rw [List.count_append] at hsplit
    rw [h.called_ready]
    exact ⟨by omega, by omega⟩
  -- the additions inside a build call return before it does
  inside number hpassed hkept hends := by
    obtain ⟨start, first, inner, rest, hinner, hwhole, hready⟩ :=
      h.block_of_returned (h.returned_of_passed hpassed hkept hends)
    refine ⟨first, inner, rest, hwhole, hready, ?_⟩
    intro added hadded
    rw [← hinner.returned_build] at hadded
    have horder : returned .build whole =
        returned .build first ++ (returned .build inner ++ [number]) ++ returned .build rest := by
      simp [hwhole]
    have hboth : [added, number].Sublist (returned .build inner ++ [number]) :=
      (List.singleton_sublist.mpr hadded).append (.refl _)
    rw [h.called_ready, horder]
    exact hboth.trans ((List.sublist_append_right _ _).trans (List.sublist_append_left _ _))
  queue first ready rest hcut number haccepted hkept := by
    rw [h.lost_iff] at hkept
    have hsince : number ∈ accepted since := by
      rw [h.before_eq, accepted_append, List.mem_append] at haccepted
      exact haccepted.resolve_left hkept
    exact h.returned_of_ready hcut (h.perm.mem_iff.mpr hsince)
  order := h.called_ready

end Completes

end Journal

/-! ## Runs that finish a server -/

section Finishing

variable {κ : Type} {β : κ → Type} {ω : Type} [DecidableEq κ]

/-- **What a finish that returns comes to**, after whatever was done before. -/
theorem exists_completes {depth : Nat} {outside : ω} {earlier : List (Script κ β ω)}
    {h : Hosting κ β ω}
    (hfinish : (ServerAct.run depth (.finish .done)).runOn
      (Hosting.after depth ⟨Server.empty, outside⟩ earlier) = (.ok (), h)) :
    ∃ (l m : Life κ β ω) (past since : Journal) (queue : List (Entrant κ β ω)) (builds readies : Journal),
      journaledAfter depth outside earlier = l.journaled ∧ l.Waiting past since ∧
      l.roster.inOrder = .ok queue ∧
      journaledAfter depth outside (earlier ++ [.finish .done]) = m.journaled ∧
      Completes l.journal m.journal past since (queue.map (·.number)) builds readies ∧
      m.roster.state = .built ∧ m.numbers = called .ready m.journal ∧ h.server.pending = [] := by
  obtain ⟨l₀, hjournaled, hplain⟩ := (Life.start outside : Life κ β ω).exists_after depth earlier
  have hempty : (Life.start outside : Life κ β ω).plain = ⟨Server.empty, outside⟩ := rfl
  rw [hempty] at hplain
  rw [hplain] at hfinish
  -- the finish on the plain server is one on the server with a journal
  obtain ⟨m₀, hrun, hreading⟩ := ServerAct.mirrors_run depth (.finish .done) l₀
  rw [hfinish] at hrun hreading
  obtain hstarted | ⟨l, past, since, hl, hwaiting⟩ :=
    Life.waits_after depth earlier (Life.waiting_start outside)
  · -- a server that has started to build is not finished again
    rw [hjournaled] at hstarted
    obtain ⟨_, _, hfirst, _⟩ := Effect.runOn_bind_eq_ok_iff.mp hfinish
    exact absurd ((ServerAct.runOn_finish_eq_ok_iff _).mp hfirst).1 hstarted
  · rw [← hjournaled, hl] at hrun
    obtain ⟨queue, builds, readies, m, hqueue, hbuilds, hreadies, hm, hwhole, hstate, hpending, hnumbers⟩ :=
      ServerAct.finish_logged hwaiting.built hrun
    have hperm : (queue.map (·.number)).Perm (accepted since) := by
      rw [← hwaiting.pending]
      exact (Roster.perm_of_inOrder hqueue).map _
    have hcompletes : Completes l.journal m.journal past since (queue.map (·.number)) builds readies :=
      ⟨hwaiting.journal, hwaiting.attempted, hwaiting.unattempted, hwaiting.quiet, hperm, hbuilds,
        hreadies, hwhole⟩
    refine ⟨l, m, past, since, queue, builds, readies, hl, hwaiting, hqueue, ?_, hcompletes, hstate, ?_, ?_⟩
    · rw [journaledAfter, List.map_append, Hosting.after_append, hl, ← hm]
      exact congrArg Prod.snd hrun
    · rw [hnumbers, hcompletes.called_ready, hwhole]
      simp [hwaiting.quiet.unreturned, Entry.returned?]
    · -- the two readings of the server have queues of one length
      have hqueues : m₀.roster.pending.map (·.journaled) = m.roster.pending.map (·.journaled) :=
        congrArg (·.server.pending) hm
      rw [hpending, List.map_nil, List.map_eq_nil_iff] at hqueues
      show h.server.pending = []
      have hplugins : h.server.pending = m₀.roster.pending.map (·.plugin) :=
        congrArg (·.server.pending) hreading
      rw [hplugins, hqueues, List.map_nil]

theorem Hosting.after_settled (depth : Nat) (h : Hosting κ β ω) (scripts : List (Script κ β ω)) :
    h.server.Settled (h.after depth scripts).server := by
  induction scripts generalizing h with
  | nil => exact refl_of Server.Settled h.server
  | cons script scripts ih =>
    exact trans_of Server.Settled (ServerAct.run_settled depth script h) (ih _)

omit [DecidableEq κ] in
theorem exists_settled {m : Life κ β ω} (hbuilt : m.roster.state = .built) {h : Hosting κ β (ω × Journal)}
    (hsettled : m.journaled.server.Settled h.server) : ∃ l : Life κ β ω,
    l.journaled = h ∧ l.roster.built = m.roster.built ∧ l.roster.state = .built := by
  obtain ⟨hstate, hplugins, hpending, -⟩ := hsettled hbuilt
  refine ⟨⟨⟨h.server.globals, m.roster.pending, m.roster.built, h.server.added, h.server.listeners, .built⟩,
    h.outside.1, h.outside.2⟩, ?_, rfl, rfl⟩
  obtain ⟨⟨globals, pending, built, added, listeners, state⟩, outside, entries⟩ := h
  obtain rfl : state = .built := hstate
  obtain rfl : pending = m.journaled.server.pending := hpending
  obtain rfl : built = m.journaled.server.built := hplugins
  rfl

/-- **A cleanup of a finished server**, wherever it is asked for, calls its plugins one after the other,
last built first; all other calls are made inside those. -/
theorem outermost_of_cleanup {depth : Nat} {m : Life κ β ω} (hbuilt : m.roster.state = .built)
    {h h' : Hosting κ β (ω × Journal)} (hsettled : m.journaled.server.Settled h.server)
    (hrun : (ServerAct.cleanup (ServerAct.invoke depth)).runOn h = (.ok (), h')) :
    ∃ entries, h'.outside.2 = h.outside.2 ++ entries ∧
      outermost 0 entries = m.numbers.reverse.map (·, .cleanup) := by
  obtain ⟨l, rfl, hplugins, hstate⟩ := exists_settled hbuilt hsettled
  have hstarted : l.roster.state ≠ .notStarted := by simp [hstate]
  obtain ⟨entries, l', hblocks, hgrown, rfl⟩ :=
    ServerAct.cleanup_logged (ServerAct.invoke_calls depth) hstarted hrun
  have hnumbers : m.numbers = l.numbers := by rw [Life.numbers, Life.numbers, hplugins]
  rw [hnumbers]
  exact ⟨entries, hgrown.journal, hblocks.outermost_eq⟩

/-- What is run later, on the server and on the one with a journal. -/
theorem exists_later {depth : Nat} {outside : ω} {scripts : List (Script κ β ω)} {h : Hosting κ β ω}
    {m : Life κ β ω} (hplain : Hosting.after depth ⟨Server.empty, outside⟩ scripts = h)
    (hjournaled : journaledAfter depth outside scripts = m.journaled) (later : List (Script κ β ω)) :
    ∃ l : Life κ β ω, h.after depth later = l.plain ∧
      m.journaled.after depth (later.map (·.journaled)) = l.journaled ∧
      journaledAfter depth outside (scripts ++ later) = l.journaled := by
  obtain ⟨l, hl, hl'⟩ := (Life.start outside : Life κ β ω).exists_after depth (scripts ++ later)
  refine ⟨l, ?_, ?_, hl⟩
  · rw [← hplain, ← hl', Hosting.after_append]
    rfl
  · rw [← hjournaled, ← hl, List.map_append, Hosting.after_append]
    rfl

/-- **The life of plugins**: if a finish returns, after whatever was done before, then all plugins that
were not lost to an earlier attempt are built and get ready as `Lifecycle` says, and the queue is empty.
A later cleanup that returns calls them in the reverse of the ready order, once each; so does one that
is asked for by a plugin. -/
theorem finish_lifecycle {depth : Nat} {outside : ω} {earlier : List (Script κ β ω)} {h : Hosting κ β ω}
    (hfinish : (ServerAct.run depth (.finish .done)).runOn
      (Hosting.after depth ⟨Server.empty, outside⟩ earlier) = (.ok (), h)) :
    h.server.pending = [] ∧
    Lifecycle (journal depth outside earlier) (journal depth outside (earlier ++ [.finish .done])) ∧
    (∀ later h', (ServerAct.run depth (.cleanup .done)).runOn (h.after depth later) = (.ok (), h') →
      ∃ entries, journal depth outside (earlier ++ .finish .done :: later ++ [.cleanup .done]) =
          journal depth outside (earlier ++ .finish .done :: later) ++ entries ∧
        outermost 0 entries =
          (called .ready (journal depth outside (earlier ++ [.finish .done]))).reverse.map
            (·, .cleanup)) ∧
    ∀ depth' (h₁ h₂ : Hosting κ β (ω × Journal)),
      (journaledAfter depth outside (earlier ++ [.finish .done])).server.Settled h₁.server →
      (ServerAct.cleanup (ServerAct.invoke depth')).runOn h₁ = (.ok (), h₂) →
      ∃ entries, h₂.outside.2 = h₁.outside.2 ++ entries ∧
        outermost 0 entries =
          (called .ready (journal depth outside (earlier ++ [.finish .done]))).reverse.map
            (·, .cleanup) := by
  obtain ⟨l, m, past, since, queue, builds, readies, hl, hwaiting, hqueue, hm, hcompletes, hstate,
    hnumbers, hempty⟩ := exists_completes hfinish
  have hbefore : journal depth outside earlier = l.journal := by rw [journal, hl]; rfl
  have hwhole : journal depth outside (earlier ++ [.finish .done]) = m.journal := by rw [journal, hm]; rfl
  have hcleanup : ∀ depth' (h₁ h₂ : Hosting κ β (ω × Journal)), m.journaled.server.Settled h₁.server →
      (ServerAct.cleanup (ServerAct.invoke depth')).runOn h₁ = (.ok (), h₂) →
      ∃ entries, h₂.outside.2 = h₁.outside.2 ++ entries ∧
        outermost 0 entries = (called .ready m.journal).reverse.map (·, .cleanup) := by
    intro depth' h₁ h₂ hsettled hrun
    rw [← hnumbers]
    exact outermost_of_cleanup hstate hsettled hrun
  rw [hbefore, hwhole, hm]
  refine ⟨hempty, hcompletes.lifecycle, ?_, hcleanup⟩
  intro later h' hrun
  have hfinished : Hosting.after depth ⟨Server.empty, outside⟩ (earlier ++ [.finish .done]) = h := by
    rw [Hosting.after_append]
    exact congrArg Prod.snd hfinish
  obtain ⟨l₁, hpoint, hlater, hfirst⟩ := exists_later hfinished hm later
  rw [List.append_assoc, List.singleton_append] at hfirst
  -- the cleanup of the plain server is one of the server with a journal
  obtain ⟨l₂, hjournaled, _⟩ := ServerAct.mirrors_run depth (.cleanup .done) l₁
  rw [← hpoint, hrun] at hjournaled
  obtain ⟨_, h₂, hcalls, hend⟩ := Effect.runOn_bind_eq_ok_iff.mp hjournaled
  obtain ⟨_, rfl⟩ := Prod.mk.inj hend
  have hsettled := Hosting.after_settled depth m.journaled (later.map (·.journaled))
  rw [hlater] at hsettled
  obtain ⟨entries, hentries, houtermost⟩ := hcleanup depth _ _ hsettled hcalls
  refine ⟨entries, ?_, houtermost⟩
  have hjournal : journal depth outside (earlier ++ .finish .done :: later) = l₁.journal := by
    rw [journal, hfirst]
    rfl
  have hstart : (Life.start outside).journaled.after depth
      ((earlier ++ .finish .done :: later).map (·.journaled)) = l₁.journaled := hfirst
  rw [hjournal, journal, journaledAfter, List.map_append, Hosting.after_append, hstart]
  show ((ServerAct.run depth (Script.cleanup .done).journaled).runOn l₁.journaled).2.outside.2 = _
  rw [hjournaled]
  exact hentries

end Finishing

/-! ## Some plugins -/

namespace Sample

/-- A plugin that only does something when it is built. -/
def plugin (typeName : String) (dependencies : List PluginId)
    (build : Script Empty (fun _ => Unit) Unit) : Plugin Empty (fun _ => Unit) Unit :=
  .mk ⟨⟨typeName⟩, typeName, ⟨0, 1, 0⟩, typeName, dependencies, true, []⟩ build .done .done fun _ => .done

def base : Plugin Empty (fun _ => Unit) Unit := plugin "host::Base" [] .done

def faulty : Plugin Empty (fun _ => Unit) Unit := plugin "host::Faulty" [] (.panic .other)

/-- It tries another plugin first. -/
def guardian : Plugin Empty (fun _ => Unit) Unit :=
  plugin "host::Guardian" [] (.attempt (.add faulty .done) fun _ => .add base .done)

/-- It adds another plugin when it is built. -/
def parent : Plugin Empty (fun _ => Unit) Unit := plugin "host::Parent" [] (.add base .done)

theorem finish_returns {s h₁ : Hosting Empty (fun _ => Unit) Unit}
    {queue : List (Plugin Empty (fun _ => Unit) Unit)} (hfresh : s.server.state = .notStarted)
    (horder : s.server.inOrder = .ok queue)
    (hbuild : (ServerAct.buildEach (ServerAct.invoke 3) queue).runOn (s.update (·.started)) = (.ok (), h₁))
    (hidle : ∀ plugin ∈ h₁.server.built, plugin.script .ready = .done)
    (hfew : h₁.server.built.length ≤ 3) :
    ∃ h, (ServerAct.run 3 (.finish .done)).runOn s = (.ok (), h) := by
  have hcall : ∀ plugin ∈ h₁.server.built,
      (ServerAct.invoke 3 plugin .ready).runOn h₁ = (.ok (), h₁) := by
    intro plugin hplugin
    rw [ServerAct.invoke_succ, hidle plugin hplugin]
    rfl
  have hready : (ServerAct.readyFrom (ServerAct.invoke 3) 3 0).runOn h₁ = (.ok (), h₁) :=
    ServerAct.readyFrom_of_idle _ hcall (by omega)
  exact ⟨_, Effect.runOn_bind_ok (ServerAct.finish_eq_ok _ hfresh horder hbuild hready)⟩

theorem readyFrom_idle {s : Server Empty (fun _ => Unit) (Unit × Journal)}
    {built : List (Entrant Empty (fun _ => Unit) Unit)} (hbuilt : s.built = built.map (·.journaled))
    (hidle : ∀ entrant ∈ built, entrant.plugin.script .ready = .done) {rounds place : Nat} {entries : Journal}
    (henough : built.length ≤ place + rounds) :
    (ServerAct.readyFrom (ServerAct.invoke 3) rounds place).runOn ⟨s, (), entries⟩ =
      (.ok (), ⟨s, (), entries ++ (built.drop place).flatMap fun entrant =>
        block entrant.number .ready [] .returns⟩) := by
  -- the place that is readied is looked up in the list that the server was built from
  have hplugin : s.built[place]? = built[place]?.map (·.journaled) := by rw [hbuilt, List.getElem?_map]
  induction rounds generalizing place entries with
  | zero =>
    have hle : built.length ≤ place := henough
    rw [List.drop_eq_nil_of_le hle, ServerAct.readyFrom_of_none]
    · simp
    · rw [hplugin, List.getElem?_eq_none hle]
      rfl
  | succ rounds ih =>
    cases hplace : built[place]? with
    | none =>
      rw [List.drop_eq_nil_of_le (List.getElem?_eq_none_iff.mp hplace), ServerAct.readyFrom_of_none]
      · simp
      · rw [hplugin, hplace]
        rfl
    | some entrant =>
      obtain ⟨hlt, hentrant⟩ := List.getElem?_eq_some_iff.mp hplace
      have hready : (ServerAct.invoke 3 entrant.journaled .ready).runOn ⟨s, (), entries⟩ =
          (.ok (), ⟨s, (), entries ++ block entrant.number .ready [] .returns⟩) := by
        rw [ServerAct.invoke_succ, Entrant.journaled, Plugin.script_journaled,
          hidle entrant (List.mem_of_getElem? hplace), Script.journaled, block, Entry.ended, List.nil_append,
          ← List.singleton_append, ← List.append_assoc]
        rfl
      rw [hplace] at hplugin
      rw [ServerAct.readyFrom_of_some _ hplugin hready, ih (by omega) (by rw [hbuilt, List.getElem?_map]),
        List.drop_eq_getElem_cons hlt, hentrant, List.flatMap_cons, List.append_assoc]

/-- The server with its journal when somebody attempts to finish it after these scripts. -/
def attempting (earlier : List (Script Empty (fun _ => Unit) Unit)) :
    Hosting Empty (fun _ => Unit) (Unit × Journal) :=
  ⟨(journaledAfter 3 () earlier).server, (), journal 3 () earlier ++ [.finishing]⟩

/-- The journal of a finish, by that of the build loop. -/
theorem journal_finish {earlier : List (Script Empty (fun _ => Unit) Unit)}
    {queue : List (Plugin Empty (fun _ => Unit) (Unit × Journal))}
    {s : Server Empty (fun _ => Unit) (Unit × Journal)} {entries : Journal}
    (built : List (Entrant Empty (fun _ => Unit) Unit))
    (hfresh : (attempting earlier).server.state = .notStarted)
    (horder : (attempting earlier).server.inOrder = .ok queue)
    (hbuild : (ServerAct.buildEach (ServerAct.invoke 3) queue).runOn ((attempting earlier).update (·.started)) =
      (.ok (), ⟨s, (), entries⟩))
    (hbuilt : s.built = built.map (·.journaled))
    (hidle : ∀ entrant ∈ built, entrant.plugin.script .ready = .done) (hfew : built.length ≤ 3) :
    journal 3 () (earlier ++ [.finish .done]) = entries ++
      (built.flatMap fun entrant => block entrant.number .ready [] .returns) ++ [.finished] := by
  have hready : (ServerAct.readyFrom (ServerAct.invoke 3) 3 0).runOn ⟨s, (), entries⟩ = _ :=
    readyFrom_idle hbuilt hidle (by omega)
  have hfinish := ServerAct.finish_eq_ok (ServerAct.invoke 3) hfresh horder hbuild hready
  rw [journal, journaledAfter, List.map_append, Hosting.after_append]
  show ((ServerAct.finish (ServerAct.invoke 3) 3 >>= fun _ => ServerAct.outside Entry.finished.write >>=
    fun _ => pure ()).runOn (attempting earlier)).2.outside.2 = _
  rw [Effect.runOn_bind_ok hfinish]
  rfl

theorem finish_parent : ∃ h, (ServerAct.run 3 (.finish .done)).runOn
    (Hosting.after 3 ⟨Server.empty, ()⟩ [.add parent .done]) = (.ok (), h) := by
  have horder : (Hosting.after 3 ⟨Server.empty, ()⟩ [.add parent .done]).server.inOrder = .ok [parent] := by
    show (dependencyOrder [parent.info] []).map _ = _
    rw [dependencyOrder_of_independent (by decide)]
    rfl
  refine finish_returns rfl horder rfl ?_ ?_
  · show ∀ plugin ∈ [base, parent], plugin.script .ready = .done
    simp [base, parent, plugin, Plugin.script]
  · show 2 ≤ 3
    omega

theorem finish_guardian : ∃ h, (ServerAct.run 3 (.finish .done)).runOn
    (Hosting.after 3 ⟨Server.empty, ()⟩ [.add guardian .done]) = (.ok (), h) := by
  have horder : (Hosting.after 3 ⟨Server.empty, ()⟩ [.add guardian .done]).server.inOrder = .ok [guardian] := by
    show (dependencyOrder [guardian.info] []).map _ = _
    rw [dependencyOrder_of_independent (by decide)]
    rfl
  refine finish_returns rfl horder rfl ?_ ?_
  · show ∀ plugin ∈ [base, guardian], plugin.script .ready = .done
    simp [base, guardian, plugin, Plugin.script]
  · show 2 ≤ 3
    omega

theorem journal_guardian : journal 3 () ([.add guardian .done] ++ [.finish .done]) =
    [.offered 0 guardian.info, .accepted 0, .finishing, .called 0 .build, .offered 4 faulty.info,
      .called 4 .build, .panicked 4 .build, .offered 7 base.info, .called 7 .build, .returned 7 .build,
      .accepted 7, .returned 0 .build, .called 7 .ready, .returned 7 .ready, .called 0 .ready,
      .returned 0 .ready, .finished] := by
  have horder : (attempting [.add guardian .done]).server.inOrder = .ok [guardian.journaled 0] := by
    show (dependencyOrder [guardian.info] []).map _ = _
    rw [dependencyOrder_of_independent (by decide)]
    rfl
  refine journal_finish [⟨7, base⟩, ⟨0, guardian⟩] rfl horder rfl rfl ?_ ?_
  · simp [base, guardian, plugin, Plugin.script]
  · show 2 ≤ 3
    omega

/-- A plugin that another one depends on is added too late, and finishing is tried twice. -/
def tooEarly : List (Script Empty (fun _ => Unit) Unit) :=
  [.add (plugin "host::Dependent" [base.info.id] .done) .done, .finish .done, .add base .done]

theorem finish_tooEarly : ∃ h, (ServerAct.run 3 (.finish .done)).runOn
    (Hosting.after 3 ⟨Server.empty, ()⟩ tooEarly) = (.ok (), h) := by
  have horder : (Hosting.after 3 ⟨Server.empty, ()⟩ tooEarly).server.inOrder = .ok [base] := by
    show (dependencyOrder [base.info] []).map _ = _
    rw [dependencyOrder_of_independent (by decide)]
    rfl
  refine finish_returns rfl horder rfl ?_ ?_
  · show ∀ plugin ∈ [base], plugin.script .ready = .done
    simp [base, plugin, Plugin.script]
  · show 1 ≤ 3
    omega

end Sample

/-- A plugin that adds two others: the first one panics while it is built, and the panic is caught. -/
theorem finish_lifecycle_guardian : ∃ h, (ServerAct.run 3 (.finish .done)).runOn
    (Hosting.after 3 ⟨Server.empty, ()⟩ [.add Sample.guardian .done]) = (.ok (), h) ∧
      h.server.pending = [] ∧ Lifecycle (journal 3 () [.add Sample.guardian .done])
        (journal 3 () ([.add Sample.guardian .done] ++ [.finish .done])) ∧
      panicked .build (journal 3 () ([.add Sample.guardian .done] ++ [.finish .done])) = [4] ∧
      called .ready (journal 3 () ([.add Sample.guardian .done] ++ [.finish .done])) = [7, 0] := by
  obtain ⟨h, hfinish⟩ := Sample.finish_guardian
  have hall := finish_lifecycle hfinish
  refine ⟨h, hfinish, hall.1, hall.2.1, ?_, ?_⟩
  · rw [Sample.journal_guardian]
    decide
  · rw [Sample.journal_guardian]
    decide

/-- **A finish that returns can leave out a plugin** that was accepted: an earlier one failed because the
plugin's dependency had not been added yet, and took the queue with it. -/
theorem finish_leaves_out : ∃ h, (ServerAct.run 3 (.finish .done)).runOn
    (Hosting.after 3 ⟨Server.empty, ()⟩ Sample.tooEarly) = (.ok (), h) ∧
      0 ∈ accepted (journal 3 () Sample.tooEarly) ∧
      (called .build (journal 3 () (Sample.tooEarly ++ [.finish .done]))).count 0 = 0 := by
  obtain ⟨h, hfinish⟩ := Sample.finish_tooEarly
  obtain ⟨l, m, _, _, _, _, _, hl, _, _, hm, hcompletes, _⟩ := exists_completes hfinish
  have hbefore : l.journal = journal 3 () Sample.tooEarly := by rw [journal, hl]; rfl
  have hlost : l.journal.Lost 0 := by
    rw [hbefore]
    show [Entry.accepted 0, .finishing].Sublist (journal 3 () Sample.tooEarly)
    decide
  refine ⟨h, hfinish, by decide, ?_⟩
  rw [journal, hm]
  exact List.count_eq_zero_of_not_mem (hcompletes.lifecycle.lost 0 hlost).1

end LiveSwap
