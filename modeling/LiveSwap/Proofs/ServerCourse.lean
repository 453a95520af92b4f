import LiveSwap.Proofs.Waiting
import Mathlib.Logic.Relation

/-!
# The course of a server

What happens to a server, one thing at a time. A run of a journaled script, nested calls included and
wherever it halts, is a path of these steps, so that what every step keeps is kept by every history.

* **`Server.Regular`** — what holds of a server at any moment: nothing is built before building starts,
  and the listeners are those of the built plugins as soon as it is finished.
* **`Life.Step`** — one thing that happens to a server whose plugins keep a journal.
* **`Life.ComesTo`** — a run that follows a path of steps. A run that is out of depth may break off in
  the middle of an addition (`Life.Cut`).
* **`Life.Sound`** — what every step keeps.
* **`ServerAct.comesTo_run`**, **`Life.moves_after`** — every run and every history does.
-/

namespace LiveSwap

open Relation

variable {κ : Type} {β : κ → Type} {ω : Type}

/-! ## Regular servers -/

namespace Server

/-- Nothing is built before building starts; who listens is settled when it is concluded, and not
before; and the ids in the queue are noted. -/
structure Regular (s : Server κ β ω) : Prop where
  unbuilt : s.state = .notStarted → s.built = []
  unheard : s.state ≠ .built → s.listeners = []
  heard : s.state = .built → s.listeners = listenersOf (s.built.map (·.info))
  noted : ∀ plugin ∈ s.pending, plugin.info.id ∈ s.added

variable {s : Server κ β ω}

theorem regular_empty : (Server.empty : Server κ β ω).Regular := ⟨fun _ => rfl, fun _ => rfl, nofun, nofun⟩

theorem mem_added_noteId {id other : PluginId} : other ∈ (s.noteId id).added ↔ other ∈ s.added ∨ other = id := by
  unfold noteId
  by_cases hid : id ∈ s.added
  · simp only [if_pos hid]
    constructor
    · exact Or.inl
    · rintro (h | rfl)
      · exact h
      · exact hid
  · simp [if_neg hid]

namespace Regular

theorem beside (h : s.Regular) (globals : Resources κ β) : Regular { s with globals := globals } :=
  ⟨h.unbuilt, h.unheard, h.heard, h.noted⟩

theorem noteId (h : s.Regular) (id : PluginId) : (s.noteId id).Regular :=
  ⟨h.unbuilt, h.unheard, h.heard, fun plugin hplugin => mem_added_noteId.mpr (.inl (h.noted plugin hplugin))⟩

theorem enqueue (h : s.Regular) {plugin : Plugin κ β ω} (hid : plugin.info.id ∈ s.added) :
    (s.enqueue plugin).Regular := by
  refine ⟨h.unbuilt, h.unheard, h.heard, fun other hother => ?_⟩
  simp only [Server.enqueue, List.mem_append, List.mem_singleton] at hother
  rcases hother with hold | rfl
  · exact h.noted other hold
  · exact hid

theorem enroll (h : s.Regular) (hstate : s.state = .building) (plugin : Plugin κ β ω) :
    (s.enroll plugin).Regular := by
  refine ⟨fun hfresh => ?_, h.unheard, fun hbuilt => ?_, h.noted⟩
  · cases hstate.symm.trans hfresh
  · cases hstate.symm.trans hbuilt

theorem unqueued (h : s.Regular) : s.unqueued.Regular := ⟨h.unbuilt, h.unheard, h.heard, nofun⟩

theorem started (h : s.Regular) (hstate : s.state = .notStarted) : s.started.Regular := by
  refine ⟨nofun, fun _ => h.unheard ?_, nofun, nofun⟩
  simp [hstate]

theorem concluded (h : s.Regular) : s.concluded.Regular :=
  ⟨nofun, fun hne => absurd rfl hne, fun _ => rfl, h.noted⟩

end Regular

/-- Whatever happens in between, a regular server stays regular. -/
def KeepsRegular (s t : Server κ β ω) : Prop := s.Regular → t.Regular

instance : IsPreorder (Server κ β ω) KeepsRegular where
  refl _ := id
  trans _ _ _ h h' := h' ∘ h

end Server

namespace ServerAct

section Regular

variable {call : Plugin κ β ω → Phase → ServerAct κ β ω Unit}
  (hcall : ∀ plugin phase, Within Server.KeepsRegular (call plugin phase))
  (habides : ∀ plugin phase, Within Server.Abides (call plugin phase)) {h : Hosting κ β ω}
include hcall habides

theorem regular_construct (hs : h.server.Regular) (hstate : h.server.state = .building)
    (plugin : Plugin κ β ω) : ((construct call plugin).runOn h).2.server.Regular := by
  have hregular := hcall plugin .build h hs
  have hbuilding := (habides plugin .build h).state (by simp [hstate])
  unfold construct
  rw [Effect.runOn_bind]
  rcases hrun : (call plugin .build).runOn h with ⟨halt | _, h'⟩
  · rwa [hrun] at hregular
  · rw [hrun] at hregular hbuilding
    exact hregular.enroll (hbuilding.trans hstate) plugin

theorem regular_add (plugin : Plugin κ β ω) : Within Server.KeepsRegular (add call plugin) := by
  intro h hs
  rw [runOn_add]
  cases h.server.refusal? plugin.info with
  | some refusal => exact hs
  | none =>
    have hnoted := hs.noteId plugin.info.id
    by_cases hstate : h.server.state = .building
    · simp only [if_pos hstate]
      exact regular_construct hcall habides (h := h.update (·.noteId plugin.info.id)) hnoted hstate plugin
    · simp only [if_neg hstate]
      exact hnoted.enqueue (Server.mem_added_noteId.mpr (.inr rfl))

theorem regular_buildEach (plugins : List (Plugin κ β ω)) (hs : h.server.Regular)
    (hstate : h.server.state = .building) : ((buildEach call plugins).runOn h).2.server.Regular := by
  induction plugins generalizing h with
  | nil => exact hs
  | cons plugin plugins ih =>
    have hfirst := regular_construct hcall habides hs hstate plugin
    have hbuilding := state_construct habides hstate plugin
    rw [buildEach_cons, Effect.runOn_bind]
    rcases hrun : (construct call plugin).runOn h with ⟨halt | _, h'⟩
    · rwa [hrun] at hfirst
    · rw [hrun] at hfirst hbuilding
      exact ih hfirst hbuilding

theorem regular_finish (rounds : Nat) : Within Server.KeepsRegular (finish call rounds) := by
  intro h hs
  rw [runOn_finish]
  by_cases hfresh : h.server.state = .notStarted
  · rw [if_pos hfresh]
    cases h.server.inOrder with
    | error error => exact hs.unqueued
    | ok queue =>
      -- the queue is built by a server that is building, and readying does not take that back
      have hbuilt := regular_buildEach hcall habides (h := h.update (·.started)) queue (hs.started hfresh) rfl
      have hrest : Within Server.KeepsRegular
          (readyFrom call rounds 0 >>= fun _ => updateServer (·.concluded)) :=
        (within_readyFrom hcall rounds 0).bind fun _ => within_updateServer fun _ ht => ht.concluded
      show ((complete call rounds queue).runOn (h.update (·.started))).2.server.Regular
      unfold complete
      rw [Effect.runOn_bind]
      rcases hrun : (buildEach call queue).runOn (h.update (·.started)) with ⟨halt | _, h'⟩
      · rwa [hrun] at hbuilt
      · rw [hrun] at hbuilt
        exact hrest h' hbuilt
  · rw [if_neg hfresh]
    exact hs

theorem regular_exec [DecidableEq κ] (rounds : Nat) (script : Script κ β ω) :
    Within Server.KeepsRegular (script.exec call rounds) :=
  within_exec hcall (regular_add hcall habides) (regular_finish hcall habides rounds)
    (fun _ globals hs => hs.beside globals) script

end Regular

/-- **Calls keep a server regular**, and so do scripts, wherever they halt. -/
theorem invoke_regular [DecidableEq κ] (depth : Nat) (plugin : Plugin κ β ω) (phase : Phase) :
    Within Server.KeepsRegular (invoke depth plugin phase) := by
  induction depth generalizing plugin phase with
  | zero => exact within_throw _
  | succ depth ih => exact regular_exec ih (invoke_abides depth) depth (plugin.script phase)

theorem run_regular [DecidableEq κ] (depth : Nat) (script : Script κ β ω) :
    Within Server.KeepsRegular (run depth script) :=
  regular_exec (invoke_regular depth) (invoke_abides depth) depth script

end ServerAct

theorem Hosting.regular_after [DecidableEq κ] (depth : Nat) (outside : ω) (scripts : List (Script κ β ω)) :
    (Hosting.after depth ⟨Server.empty, outside⟩ scripts).server.Regular := by
  induction scripts using List.reverseRecOn with
  | nil => exact Server.regular_empty
  | append_singleton scripts script ih =>
    rw [Hosting.after_append]
    exact ServerAct.run_regular depth script _ ih

/-! ## Steps -/

namespace Life

/-- The life in which a plugin has been offered and its id is noted. -/
def admitted (l : Life κ β ω) (info : PluginInfo) : Life κ β ω :=
  (l.noted (.offered l.journal.length info)).update (·.noteId info.id)

/-- One thing that happens to a server, with the entries that are written about it. Two entries are
written in one step where nothing can come in between. -/
inductive Step : Life κ β ω → Life κ β ω → Prop where
  /-- Something is published, or goes on outside. -/
  | beside {l : Life κ β ω} (globals : Resources κ β) (outside : ω) :
      Step l ⟨{ l.roster with globals := globals }, outside, l.journal⟩
  | refused {l : Life κ β ω} {info : PluginInfo} {refusal : Server.Refusal}
      (hrefusal : l.plain.server.refusal? info = some refusal) :
      Step l (l.noted (.offered l.journal.length info))
  | queued {l : Life κ β ω} {plugin : Plugin κ β ω} (hopen : l.plain.server.refusal? plugin.info = none)
      (hstate : l.roster.state = .notStarted) : Step l (l.queued plugin)
  /-- A plugin is added while the server builds, and its build call begins. -/
  | begun {l : Life κ β ω} {info : PluginInfo} (hopen : l.plain.server.refusal? info = none)
      (hstate : l.roster.state = .building) :
      Step l ((l.admitted info).noted (.called l.journal.length .build))
  /-- Somebody else is called, who was not offered just now. -/
  | called {l : Life κ β ω} {number : Nat} {phase : Phase} (hknown : number + 1 < l.journal.length)
      (hstarted : l.roster.state ≠ .notStarted)
      (hupdate : ∀ schedule, phase = .update schedule → l.roster.state = .built) :
      Step l (l.noted (.called number phase))
  | returned {l : Life κ β ω} (number : Nat) (phase : Phase) : Step l (l.noted (.returned number phase))
  | panicked {l : Life κ β ω} (number : Nat) (phase : Phase) : Step l (l.noted (.panicked number phase))
  | enrolled {l : Life κ β ω} {entrant : Entrant κ β ω} (hknown : entrant.number + 1 < l.journal.length)
      (hstate : l.roster.state = .building) : Step l (l.update (·.enroll entrant))
  | accepted {l : Life κ β ω} {number : Nat} (hknown : number + 1 < l.journal.length)
      (hstarted : l.roster.state ≠ .notStarted) : Step l (l.noted (.accepted number))
  | attempted {l : Life κ β ω} (hstarted : l.roster.state ≠ .notStarted) : Step l (l.noted .finishing)
  | lost {l : Life κ β ω} (hstate : l.roster.state = .notStarted) :
      Step l ((l.noted .finishing).update (·.unqueued))
  | started {l : Life κ β ω} (hstate : l.roster.state = .notStarted) :
      Step l ((l.noted .finishing).update (·.started))
  | concluded {l : Life κ β ω} (hstate : l.roster.state = .building) :
      Step l ((l.update (·.concluded)).noted .finished)

/-- The depth gave out before the build call of an added plugin could begin. -/
inductive Cut : Life κ β ω → Life κ β ω → Prop where
  | mk {l : Life κ β ω} {info : PluginInfo} (hopen : l.plain.server.refusal? info = none)
      (hstate : l.roster.state = .building) : Cut l (l.admitted info)

variable {l m l' : Life κ β ω}

theorem Step.journal (h : Step l l') : ∃ entries, l'.journal = l.journal ++ entries := by
  cases h with
  | beside => exact ⟨[], (List.append_nil _).symm⟩
  | queued => exact ⟨_, rfl⟩
  | begun => exact ⟨_, List.append_assoc ..⟩
  | enrolled => exact ⟨[], (List.append_nil _).symm⟩
  | _ => exact ⟨_, rfl⟩

theorem Step.stillStarted (h : Step l l') (hstarted : l.roster.state ≠ .notStarted) : l'.roster.state ≠ .notStarted := by
  cases h with
  | started => simp [Life.update, Roster.started]
  | concluded => simp [Life.noted, Life.update, Roster.concluded]
  | _ => exact hstarted

theorem length_of_path (h : ReflTransGen Step l l') : l.journal.length ≤ l'.journal.length := by
  induction h with
  | refl => exact Nat.le_refl _
  | tail _ hstep ih =>
    obtain ⟨entries, hentries⟩ := hstep.journal
    rw [hentries, List.length_append]
    omega

/-! ### What every step keeps -/

/-- The server is regular, and finished if the journal says so; and whoever is in its queue or built was
offered before the last entry. -/
structure Sound (l : Life κ β ω) : Prop where
  regular : l.plain.server.Regular
  finished : l.roster.state = .built ↔ .finished ∈ l.journal
  known : ∀ entrant ∈ l.roster.pending ++ l.roster.built, entrant.number + 1 < l.journal.length

theorem sound_start (outside : ω) : (Life.start outside : Life κ β ω).Sound :=
  ⟨Server.regular_empty, iff_of_false nofun nofun, nofun⟩

theorem Sound.known_noted (h : l.Sound) (entry : Entry) :
    ∀ entrant ∈ l.roster.pending ++ l.roster.built, entrant.number + 1 < (l.noted entry).journal.length := by
  intro entrant hentrant
  have hold := h.known entrant hentrant
  simp only [Life.noted, List.length_append]
  omega

theorem Sound.noted (h : l.Sound) {entry : Entry} (hentry : entry ≠ .finished) : (l.noted entry).Sound :=
  ⟨h.regular, by simp [Life.noted, h.finished, hentry.symm], h.known_noted entry⟩

theorem Sound.admitted (h : l.Sound) (info : PluginInfo) : (l.admitted info).Sound :=
  have hnoted : (l.noted (.offered l.journal.length info)).Sound := h.noted nofun
  ⟨h.regular.noteId info.id, hnoted.finished, hnoted.known⟩

theorem Sound.queued (h : l.Sound) (plugin : Plugin κ β ω) : (l.queued plugin).Sound := by
  refine ⟨?_, by simp [Life.queued, Roster.enqueue, Roster.noteId, h.finished], ?_⟩
  · have hserver : (l.queued plugin).plain.server =
        (l.plain.server.noteId plugin.info.id).enqueue plugin := by
      simp [Life.plain, Life.queued, Roster.plain, Roster.server_enqueue, Roster.server_noteId]
    rw [hserver]
    exact (h.regular.noteId plugin.info.id).enqueue (Server.mem_added_noteId.mpr (.inr rfl))
  · intro entrant hentrant
    -- the entrant waited or was built before, or is the new one
    have hcases : entrant ∈ l.roster.pending ++ l.roster.built ∨ entrant = ⟨l.journal.length, plugin⟩ := by
      simpa [Life.queued, Roster.enqueue, Roster.noteId, or_comm, or_left_comm, or_assoc] using hentrant
    simp only [Life.queued, List.length_append, List.length_cons, List.length_nil]
    rcases hcases with hold | rfl
    · have := h.known entrant hold
      omega
    · dsimp only
      omega

theorem Sound.enroll (h : l.Sound) {entrant : Entrant κ β ω} (hknown : entrant.number + 1 < l.journal.length)
    (hstate : l.roster.state = .building) : (l.update (·.enroll entrant)).Sound := by
  refine ⟨?_, h.finished, ?_⟩
  · show (l.roster.enroll entrant).plain.Regular
    rw [Roster.plain, Roster.server_enroll]
    exact h.regular.enroll hstate entrant.plugin
  · intro other hother
    have hcases : other ∈ l.roster.pending ++ l.roster.built ∨ other = entrant := by
      simpa [Life.update, Roster.enroll, or_assoc] using hother
    rcases hcases with hold | rfl
    · exact h.known other hold
    · exact hknown

theorem Sound.step (h : l.Sound) (hstep : Step l l') : l'.Sound := by
  -- all that finishing does starts with its entry
  have hfinishing : (l.noted .finishing).Sound := h.noted (by simp)
  cases hstep with
  | beside globals outside => exact ⟨h.regular.beside globals, h.finished, h.known⟩
  | queued hopen hstate => exact h.queued _
  | begun hopen hstate => exact (h.admitted _).noted (by simp)
  | enrolled hknown hstate => exact h.enroll hknown hstate
  | lost hstate =>
    exact ⟨hfinishing.regular.unqueued, hfinishing.finished, fun entrant hentrant =>
      hfinishing.known entrant (List.mem_append_right _ hentrant)⟩
  | started hstate =>
    refine ⟨hfinishing.regular.started hstate, iff_of_false nofun ?_, fun entrant hentrant =>
      hfinishing.known entrant (List.mem_append_right _ hentrant)⟩
    show .finished ∉ (l.noted .finishing).journal
    rw [← hfinishing.finished]
    simp [Life.noted, hstate]
  | concluded hstate =>
    refine ⟨?_, iff_of_true rfl (List.mem_append_right _ (List.mem_singleton_self _)), h.known_noted .finished⟩
    show l.roster.concluded.plain.Regular
    rw [Roster.plain, Roster.server_concluded _ fun _ => rfl]
    exact h.regular.concluded
  | _ => exact h.noted (by simp)

theorem Sound.path (h : l.Sound) (hpath : ReflTransGen Step l l') : l'.Sound := by
  induction hpath with
  | refl => exact h
  | tail _ hstep ih => exact ih.step hstep

theorem Sound.cut (h : l.Sound) (hcut : Cut l l') : l'.Sound := by
  cases hcut with
  | mk => exact h.admitted _

end Life

/-! ## Runs that follow the steps -/

namespace Life

/-- The run leads from one life to another along the steps. Out of depth, it may break off in the
middle of an addition. -/
def ComesTo {α : Type} (l : Life κ β ω) (run : Except Halt α × Hosting κ β (ω × Journal)) : Prop :=
  ∃ l', run.2 = l'.journaled ∧
    (ReflTransGen Step l l' ∨ run.1 = .error .endless ∧ ∃ m, ReflTransGen Step l m ∧ Cut m l')

variable {α γ : Type} {l m l' : Life κ β ω} {run : Except Halt α × Hosting κ β (ω × Journal)}

theorem comesTo_refl (l : Life κ β ω) (result : Except Halt α) : l.ComesTo (result, l.journaled) :=
  ⟨l, rfl, .inl .refl⟩

theorem comesTo_single (hstep : Step l m) (result : Except Halt α) : l.ComesTo (result, m.journaled) :=
  ⟨m, rfl, .inl (.single hstep)⟩

theorem ComesTo.head (h : m.ComesTo run) (hpath : ReflTransGen Step l m) : l.ComesTo run := by
  obtain ⟨l', hrun, hfollows | ⟨hendless, k, hfollows, hcut⟩⟩ := h
  · exact ⟨l', hrun, .inl (hpath.trans hfollows)⟩
  · exact ⟨l', hrun, .inr ⟨hendless, k, hpath.trans hfollows, hcut⟩⟩

theorem ComesTo.bind {x : ServerAct κ β (ω × Journal) α} {f : α → ServerAct κ β (ω × Journal) γ}
    {h : Hosting κ β (ω × Journal)} (hx : l.ComesTo (x.runOn h))
    (hf : ∀ a m, ReflTransGen Step l m → x.runOn h = (.ok a, m.journaled) →
      l.ComesTo ((f a).runOn m.journaled)) : l.ComesTo ((x >>= f).runOn h) := by
  rw [Effect.runOn_bind]
  -- a first action that halts ends both; otherwise the paths are joined
  rcases hrun : x.runOn h with ⟨halt | a, h'⟩
  · rw [hrun] at hx
    obtain ⟨m, hm, hpath | ⟨hendless, hcut⟩⟩ := hx
    · exact ⟨m, hm, .inl hpath⟩
    · obtain rfl : halt = .endless := Except.error.inj hendless
      exact ⟨m, hm, .inr ⟨rfl, hcut⟩⟩
  · rw [hrun] at hx
    obtain ⟨m, hm, hpath | ⟨hendless, -⟩⟩ := hx
    · obtain rfl : h' = m.journaled := hm
      exact hf a m hpath hrun
    · cases hendless

theorem ComesTo.attempt {act : ServerAct κ β (ω × Journal) α} {h : Hosting κ β (ω × Journal)}
    (hact : l.ComesTo (act.runOn h)) : l.ComesTo ((Effect.attempt act).runOn h) := by
  obtain ⟨m, hm, hpath | ⟨hendless, hcut⟩⟩ := hact
  · rw [← Effect.snd_runOn_attempt] at hm
    exact ⟨m, hm, .inl hpath⟩
  · -- nobody catches that the depth gives out
    rw [Effect.runOn_attempt]
    rcases hrun : act.runOn h with ⟨result, h'⟩
    rw [hrun] at hm hendless
    obtain rfl : result = .error .endless := hendless
    exact ⟨m, hm, .inr ⟨rfl, hcut⟩⟩

end Life

namespace ServerAct

open Life

/-- A call is out of depth, or it begins by writing that it does. -/
def Joins (call : Plugin κ β (ω × Journal) → Phase → ServerAct κ β (ω × Journal) Unit) : Prop :=
  ∀ (entrant : Entrant κ β ω) (phase : Phase) (l : Life κ β ω), l.Sound →
    (call entrant.journaled phase).runOn l.journaled = (.error .endless, l.journaled) ∨
      (l.noted (.called entrant.number phase)).ComesTo ((call entrant.journaled phase).runOn l.journaled)

variable {call : Plugin κ β (ω × Journal) → Phase → ServerAct κ β (ω × Journal) Unit} {l : Life κ β ω}

theorem state_of_call (habides : ∀ plugin phase, Within Server.Abides (call plugin phase))
    {plugin : Plugin κ β (ω × Journal)} {phase : Phase} (hstarted : l.roster.state ≠ .notStarted)
    {m : Life κ β ω} (hrun : (call plugin phase).runOn l.journaled = (.ok (), m.journaled)) :
    m.roster.state = l.roster.state := by
  have hstate := (habides plugin phase l.journaled).state hstarted
  rwa [hrun] at hstate

theorem comesTo_call (hcall : Joins call) (hs : l.Sound) {entrant : Entrant κ β ω} {phase : Phase}
    (hknown : entrant.number + 1 < l.journal.length) (hstarted : l.roster.state ≠ .notStarted)
    (hupdate : ∀ schedule, phase = .update schedule → l.roster.state = .built) :
    l.ComesTo ((call entrant.journaled phase).runOn l.journaled) := by
  rcases hcall entrant phase l hs with hendless | hjoins
  · rw [hendless]
    exact comesTo_refl l _
  · exact hjoins.head (.single (.called hknown hstarted hupdate))

theorem journaled_enroll (l : Life κ β ω) (entrant : Entrant κ β ω) :
    (updateServer (·.enroll entrant.journaled)).runOn l.journaled =
      ((.ok (), (l.update (·.enroll entrant)).journaled) : _ × Hosting κ β (ω × Journal)) := by
  simp [runOn_updateServer, Hosting.update, Life.journaled, Life.update, Roster.journaled,
    Roster.server_enroll]

section Operations

variable (hcall : Joins call) (habides : ∀ plugin phase, Within Server.Abides (call plugin phase))
  (hs : l.Sound)
include hcall habides hs

theorem comesTo_construct {entrant : Entrant κ β ω} (hknown : entrant.number + 1 < l.journal.length)
    (hstate : l.roster.state = .building) :
    l.ComesTo ((construct call entrant.journaled).runOn l.journaled) := by
  have hstarted : l.roster.state ≠ .notStarted := by simp [hstate]
  refine (comesTo_call hcall hs hknown hstarted (by simp)).bind fun _ m hpath hrun => ?_
  have hbuilding := (state_of_call habides hstarted hrun).trans hstate
  have hlength := length_of_path hpath
  rw [journaled_enroll]
  exact ⟨_, rfl, .inl (hpath.tail (.enrolled (by omega) hbuilding))⟩

/-- While the server builds, an addition begins with the build call, unless the depth gives out. -/
theorem comesTo_begun {plugin : Plugin κ β ω} (hopen : l.plain.server.refusal? plugin.info = none)
    (hstate : l.roster.state = .building) :
    l.ComesTo ((construct call (Entrant.journaled ⟨l.journal.length, plugin⟩) >>= fun _ =>
      outside (Entry.accepted l.journal.length).write).runOn (l.admitted plugin.info).journaled) := by
  unfold construct
  rw [bind_assoc]
  -- out of depth before the call has begun, or a step that begins it
  rcases hcall ⟨l.journal.length, plugin⟩ .build (l.admitted plugin.info) (hs.admitted _) with
    hendless | hjoins
  · rw [Effect.runOn_bind_error hendless]
    exact ⟨_, rfl, .inr ⟨rfl, l, .refl, .mk hopen hstate⟩⟩
  · refine ComesTo.head ?_ (.single (.begun hopen hstate))
    refine hjoins.bind fun _ m hpath hrun => ?_
    have hstarted : (l.admitted plugin.info).roster.state ≠ .notStarted := by
      show l.roster.state ≠ .notStarted
      simp [hstate]
    have hbuilding := (state_of_call habides hstarted hrun).trans hstate
    have hlength : l.journal.length + 1 < m.journal.length := by
      have hle := length_of_path hpath
      simp only [admitted, Life.update, Life.noted, List.length_append, List.length_singleton] at hle
      omega
    have hbuilt : Step m (m.update (·.enroll ⟨l.journal.length, plugin⟩)) := .enrolled hlength hbuilding
    have henrolled := hpath.tail hbuilt
    rw [Effect.runOn_bind, journaled_enroll]
    exact ⟨_, rfl, .inl (henrolled.tail (.accepted hlength (by simp [Life.update, Roster.enroll, hbuilding])))⟩

/-- **An addition** is refused, or queued, or begins with the build call. -/
theorem comesTo_offer (plugin : Plugin κ β ω) :
    l.ComesTo ((add call (Entrant.journaled ⟨l.journal.length, plugin⟩) >>= fun _ =>
      outside (Entry.accepted l.journal.length).write).runOn
        (l.noted (.offered l.journal.length plugin.info)).journaled) := by
  have hrefusal : (l.noted (.offered l.journal.length plugin.info)).journaled.server.refusal? plugin.info =
      l.plain.server.refusal? plugin.info := rfl
  have hsame : (l.noted (.offered l.journal.length plugin.info)).journaled.server.state = l.roster.state := rfl
  rw [Effect.runOn_bind, runOn_add, Entrant.info_journaled, hrefusal, hsame]
  -- a refusal is one step; otherwise it depends on whether the server builds
  cases hopen : l.plain.server.refusal? plugin.info with
  | some refusal => exact comesTo_single (.refused hopen) _
  | none =>
    by_cases hstate : l.roster.state = .building
    · simp only [if_pos hstate]
      have hbegun := comesTo_begun hcall habides hs hopen hstate
      rwa [Effect.runOn_bind] at hbegun
    · simp only [if_neg hstate]
      have hfresh : l.roster.state = .notStarted := by
        by_contra hstarted
        exact hstate (Server.state_of_open hopen hstarted)
      refine ⟨l.queued plugin, ?_, .inl (.single (.queued hopen hfresh))⟩
      rw [journaled_queued]
      rfl

theorem comesTo_forM {phase : Phase} (hstarted : l.roster.state ≠ .notStarted)
    (hupdate : ∀ schedule, phase = .update schedule → l.roster.state = .built) (places : List Nat) :
    l.ComesTo ((places.forM (callAt call phase)).runOn l.journaled) := by
  -- what is called may add plugins, so the life changes from place to place
  induction places generalizing l with
  | nil => exact comesTo_refl l _
  | cons place places ih =>
    show l.ComesTo ((callAt call phase place >>= fun _ => places.forM (callAt call phase)).runOn l.journaled)
    rw [Effect.runOn_bind, runOn_callAt, l.getElem?_built_journaled]
    cases hplace : l.roster.built[place]? with
    | none => exact comesTo_refl l _
    | some entrant =>
      have hmem : entrant ∈ l.roster.pending ++ l.roster.built :=
        List.mem_append_right _ (List.mem_of_getElem? hplace)
      have hfirst := comesTo_call hcall hs (hs.known entrant hmem) hstarted hupdate
      have hall := hfirst.bind (f := fun _ => places.forM (callAt call phase)) fun _ m hpath hrun => by
        have hstate := state_of_call habides hstarted hrun
        exact (ih (hs.path hpath) (by rwa [hstate]) (by rwa [hstate])).head hpath
      rwa [Effect.runOn_bind] at hall

theorem comesTo_tick (schedule : ScheduleId) : l.ComesTo ((tick call schedule).runOn l.journaled) := by
  rw [runOn_tick]
  by_cases hbuilt : l.roster.state = .built
  · have hstarted : l.roster.state ≠ .notStarted := by simp [hbuilt]
    exact comesTo_forM hcall habides hs hstarted (fun _ _ => hbuilt) _
  · have hnone : l.journaled.server.listeners = [] := hs.regular.unheard hbuilt
    rw [hnone]
    exact comesTo_refl l _

theorem comesTo_cleanup : l.ComesTo ((cleanup call).runOn l.journaled) := by
  rw [runOn_cleanup, l.length_built_journaled]
  by_cases hfresh : l.roster.state = .notStarted
  · have hnone : l.roster.built = [] := List.map_eq_nil_iff.mp (hs.regular.unbuilt hfresh)
    rw [hnone]
    exact comesTo_refl l _
  · exact comesTo_forM hcall habides hs hfresh (by simp) _

theorem comesTo_buildEach (queue : List (Entrant κ β ω))
    (hknown : ∀ entrant ∈ queue, entrant.number + 1 < l.journal.length)
    (hstate : l.roster.state = .building) :
    l.ComesTo ((buildEach call (queue.map (·.journaled))).runOn l.journaled) := by
  induction queue generalizing l with
  | nil => exact comesTo_refl l _
  | cons entrant queue ih =>
    rw [List.map_cons, buildEach_cons]
    refine (comesTo_construct hcall habides hs (hknown entrant (by simp)) hstate).bind fun _ m hpath hrun => ?_
    have hbuilding := state_construct habides (h := l.journaled) hstate entrant.journaled
    rw [hrun] at hbuilding
    have hlength := length_of_path hpath
    refine (ih (hs.path hpath) (fun other hother => ?_) hbuilding).head hpath
    have hother := hknown other (List.mem_cons_of_mem _ hother)
    omega

theorem comesTo_readyFrom (rounds place : Nat) (hstarted : l.roster.state ≠ .notStarted) :
    l.ComesTo ((readyFrom call rounds place).runOn l.journaled) := by
  -- the loop ends at the first place where nobody stands
  induction rounds generalizing l place with
  | zero =>
    rw [runOn_readyFrom]
    cases l.journaled.server.built[place]? with
    | none => exact comesTo_refl l _
    | some plugin => exact comesTo_refl l _
  | succ rounds ih =>
    rw [runOn_readyFrom, l.getElem?_built_journaled]
    cases hplace : l.roster.built[place]? with
    | none => exact comesTo_refl l _
    | some entrant =>
      have hmem : entrant ∈ l.roster.pending ++ l.roster.built :=
        List.mem_append_right _ (List.mem_of_getElem? hplace)
      refine (comesTo_call hcall hs (hs.known entrant hmem) hstarted (by simp)).bind fun _ m hpath hrun => ?_
      have hstate := state_of_call habides hstarted hrun
      exact (ih (hs.path hpath) (place + 1) (by rwa [hstate])).head hpath

theorem comesTo_complete (rounds : Nat) {queue : List (Entrant κ β ω)}
    (hknown : ∀ entrant ∈ queue, entrant.number + 1 < l.journal.length)
    (hstate : l.roster.state = .building) :
    l.ComesTo ((complete call rounds (queue.map (·.journaled)) >>= fun _ =>
      outside Entry.finished.write).runOn l.journaled) := by
  unfold complete
  rw [bind_assoc]
  -- the queue, then the ready loop, and then the server is finished
  refine (comesTo_buildEach hcall habides hs queue hknown hstate).bind fun _ m hpath hbuild => ?_
  have hbuilding : m.roster.state = .building := by
    have h := state_buildEach habides (h := l.journaled) hstate (queue.map (·.journaled))
    rwa [hbuild] at h
  have hstarted : m.roster.state ≠ .notStarted := by simp [hbuilding]
  have hready := comesTo_readyFrom hcall habides (hs.path hpath) rounds 0 hstarted
  rw [bind_assoc]
  refine (hready.bind fun _ k hpath' hrun => ?_).head hpath
  have hbuilding' : k.roster.state = .building := by
    have h := (within_readyFrom habides rounds 0 m.journaled).state hstarted
    rw [hrun] at h
    exact Eq.trans h hbuilding
  have hconcluded : (updateServer (·.concluded)).runOn k.journaled =
      ((.ok (), (k.update (·.concluded)).journaled) : _ × Hosting κ β (ω × Journal)) := by
    simp [runOn_updateServer, Hosting.update, Life.journaled, Life.update, Roster.journaled,
      Roster.server_concluded]
  rw [Effect.runOn_bind, hconcluded]
  exact ⟨_, rfl, .inl (hpath'.tail (.concluded hbuilding'))⟩

/-- **An attempt to finish** is refused, or loses the queue, or builds and readies it. -/
theorem comesTo_finish (rounds : Nat) :
    l.ComesTo ((finish call rounds >>= fun _ => outside Entry.finished.write).runOn
      (l.noted .finishing).journaled) := by
  have horder : (l.noted .finishing).journaled.server.inOrder = l.roster.inOrder.map (·.map (·.journaled)) :=
    l.roster.server_inOrder fun entrant => entrant.info_journaled
  have hsame : (l.noted .finishing).journaled.server.state = l.roster.state := rfl
  rw [Effect.runOn_bind, runOn_finish, horder, hsame]
  -- only a server that has not started looks at its queue
  by_cases hfresh : l.roster.state = .notStarted
  · rw [if_pos hfresh]
    cases hqueue : l.roster.inOrder with
    | error error => exact comesTo_single (.lost hfresh) _
    | ok queue =>
      have hstarted : Step l _ := .started hfresh
      have hknown : ∀ entrant ∈ queue, entrant.number + 1 < (l.noted .finishing).journal.length := by
        intro entrant hentrant
        have hpending := (Roster.perm_of_inOrder hqueue).mem_iff.mp hentrant
        exact hs.known_noted .finishing entrant (List.mem_append_left _ hpending)
      have hcomplete := comesTo_complete hcall habides (hs.step hstarted) rounds hknown rfl
      rw [Effect.runOn_bind] at hcomplete
      exact hcomplete.head (.single hstarted)
  · rw [if_neg hfresh]
    exact comesTo_single (.attempted hfresh) _

/-- **A journaled script** follows the steps. -/
theorem comesTo_exec [DecidableEq κ] (rounds : Nat) (script : Script κ β ω) :
    l.ComesTo ((script.journaled.exec call rounds).runOn l.journaled) := by
  -- one case per constructor: a step for what it does, and what follows goes on from there
  induction script using Script.exec.induct generalizing l with
  | case1 => exact comesTo_refl l _
  | case2 payload => exact comesTo_refl l _
  | case3 plugin next ih =>
    have hoffer := comesTo_offer hcall habides hs plugin
    have hall := hoffer.bind (f := fun _ => next.journaled.exec call rounds) fun _ m hpath _ =>
      (ih (hs.path hpath)).head hpath
    rw [bind_assoc] at hall
    exact hall
  | case4 next ih =>
    have hfinish := comesTo_finish hcall habides hs rounds
    have hall := hfinish.bind (f := fun _ => next.journaled.exec call rounds) fun _ m hpath _ =>
      (ih (hs.path hpath)).head hpath
    rw [bind_assoc] at hall
    exact hall
  | case5 schedule next ih =>
    exact (comesTo_tick hcall habides hs schedule).bind fun _ m hpath _ => (ih (hs.path hpath)).head hpath
  | case6 next ih =>
    exact (comesTo_cleanup hcall habides hs).bind fun _ m hpath _ => (ih (hs.path hpath)).head hpath
  | case7 next ih => exact ih l.plain.server hs
  | case8 k value next ih =>
    have hstep : Step l _ := .beside (l.roster.globals.insert k value).2 l.outside
    exact (ih (l.roster.globals.insert k value).1 (hs.step hstep)).head (.single hstep)
  | case9 k next ih => exact ih l.plain.server hs
  | case10 act next ih =>
    have hstep : Step l _ := .beside l.roster.globals (act.runOn l.outside).2
    have hact : l.ComesTo ((outside (besideJournal act)).runOn l.journaled) := by
      rw [outside, Effect.runOn_onPart, besideJournal, Effect.runOn_onPart]
      exact comesTo_single hstep _
    exact hact.bind fun _ m hpath _ => (ih (hs.path hpath)).head hpath
  | case11 next ih => exact ih l.plain hs
  | case12 body next hbody hnext =>
    exact (hbody hs).attempt.bind fun result m hpath _ => (hnext result (hs.path hpath)).head hpath

end Operations

variable [DecidableEq κ]

/-- **A call of a journaled plugin** follows the steps. -/
theorem joins_invoke (depth : Nat) : Joins (invoke depth : Plugin κ β (ω × Journal) → _) := by
  intro entrant phase l hs
  induction depth generalizing entrant phase l with
  | zero => exact .inl rfl
  | succ depth ih =>
    right
    have hcalled : (l.noted (.called entrant.number phase)).Sound := hs.noted nofun
    have hbody := comesTo_exec ih (invoke_abides depth) hcalled depth (entrant.plugin.script phase)
    rw [invoke_succ, Entrant.journaled, Plugin.script_journaled]
    -- how the call has ended is written down, and then it ends like that
    refine hbody.attempt.bind fun result m hpath _ => ?_
    cases result with
    | ok _ => exact ⟨_, rfl, .inl (hpath.tail (.returned entrant.number phase))⟩
    | error payload => exact ⟨_, rfl, .inl (hpath.tail (.panicked entrant.number phase))⟩

theorem comesTo_run (depth : Nat) {l : Life κ β ω} (hs : l.Sound) (script : Script κ β ω) :
    l.ComesTo ((run depth script.journaled).runOn l.journaled) :=
  comesTo_exec (joins_invoke depth) (invoke_abides depth) hs depth script

end ServerAct

/-! ## Histories -/

namespace Life

/-- A step, or the last one of a run that is out of depth. -/
def Moves (l l' : Life κ β ω) : Prop := Step l l' ∨ Cut l l'

variable {l l' : Life κ β ω}

theorem Moves.journal (h : Moves l l') : ∃ entries, l'.journal = l.journal ++ entries := by
  obtain hstep | hcut := h
  · exact hstep.journal
  · cases hcut with
    | mk => exact ⟨_, rfl⟩

theorem journal_of_moves (h : ReflTransGen Moves l l') : ∃ entries, l'.journal = l.journal ++ entries := by
  induction h with
  | refl => exact ⟨[], (List.append_nil _).symm⟩
  | tail _ hmove ih =>
    obtain ⟨first, hfirst⟩ := ih
    obtain ⟨last, hlast⟩ := hmove.journal
    exact ⟨first ++ last, by rw [hlast, hfirst, List.append_assoc]⟩

/-- No id is ever forgotten. -/
theorem Moves.added (h : Moves l l') {id : PluginId} (hid : id ∈ l.roster.added) : id ∈ l'.roster.added := by
  have hnoted : ∀ other, id ∈ (l.plain.server.noteId other).added :=
    fun other => Server.mem_added_noteId.mpr (.inl hid)
  obtain hstep | hcut := h
  · cases hstep with
    | queued => exact hnoted _
    | begun => exact hnoted _
    | _ => exact hid
  · cases hcut with
    | mk => exact hnoted _

theorem added_of_moves (h : ReflTransGen Moves l l') {id : PluginId} (hid : id ∈ l.roster.added) :
    id ∈ l'.roster.added := by
  induction h with
  | refl => exact hid
  | tail _ hmove ih => exact hmove.added ih

theorem moves_of_path (h : ReflTransGen Step l l') : ReflTransGen Moves l l' := by
  induction h with
  | refl => exact .refl
  | tail _ hstep ih => exact ih.tail (.inl hstep)

theorem path_of_moves (h : ReflTransGen Moves l l') (hfresh : l'.roster.state = .notStarted) :
    ReflTransGen Step l l' := by
  induction h with
  | refl => exact .refl
  | @tail m l' _ hmove ih =>
    obtain hstep | hcut := hmove
    · refine (ih ?_).tail hstep
      by_contra hstarted
      exact hstep.stillStarted hstarted hfresh
    · cases hcut with
      | mk hopen hbuilding => cases hbuilding.symm.trans hfresh

theorem Sound.moves (h : l.Sound) (hmoves : ReflTransGen Moves l l') : l'.Sound := by
  induction hmoves with
  | refl => exact h
  | tail _ hmove ih => exact hmove.elim ih.step ih.cut

variable [DecidableEq κ]

theorem moves_run (depth : Nat) (hs : l.Sound) (script : Script κ β ω) : ∃ l',
    ((ServerAct.run depth script.journaled).runOn l.journaled).2 = l'.journaled ∧
      ReflTransGen Moves l l' := by
  obtain ⟨l', hrun, hpath | ⟨-, m, hpath, hcut⟩⟩ := ServerAct.comesTo_run depth hs script
  · exact ⟨l', hrun, moves_of_path hpath⟩
  · exact ⟨l', hrun, (moves_of_path hpath).tail (.inr hcut)⟩

/-- **Every history** is a course of such steps. -/
theorem moves_after (depth : Nat) (hs : l.Sound) (scripts : List (Script κ β ω)) : ∃ l',
    l.journaled.after depth (scripts.map (·.journaled)) = l'.journaled ∧ ReflTransGen Moves l l' := by
  induction scripts using List.reverseRecOn with
  | nil => exact ⟨l, rfl, .refl⟩
  | append_singleton scripts script ih =>
    obtain ⟨m, hm, hmoves⟩ := ih
    obtain ⟨l', hrun, hmoves'⟩ := moves_run depth (hs.moves hmoves) script
    refine ⟨l', ?_, hmoves.trans hmoves'⟩
    rw [List.map_append, Hosting.after_append, hm]
    exact hrun

theorem exists_course (depth : Nat) (outside : ω) (scripts : List (Script κ β ω)) : ∃ l : Life κ β ω,
    journaledAfter depth outside scripts = l.journaled ∧ ReflTransGen Moves (Life.start outside) l :=
  moves_after depth (sound_start outside) scripts

/-- What comes later goes on from where the earlier scripts have led. -/
theorem exists_course_later {depth : Nat} {outside : ω} {scripts : List (Script κ β ω)} (hs : l.Sound)
    (hl : journaledAfter depth outside scripts = l.journaled) (later : List (Script κ β ω)) :
    ∃ l', journaledAfter depth outside (scripts ++ later) = l'.journaled ∧ ReflTransGen Moves l l' := by
  obtain ⟨l', hafter, hmoves⟩ := moves_after depth hs later
  refine ⟨l', ?_, hmoves⟩
  rw [← hafter, ← hl, journaledAfter, List.map_append, Hosting.after_append]
  rfl

/-- The server of the life and this one differ at most in what their plugins do. -/
structure Matches (l : Life κ β ω) (h : Hosting κ β ω) : Prop where
  state : l.roster.state = h.server.state
  added : l.roster.added = h.server.added
  listeners : l.roster.listeners = h.server.listeners
  pending : l.roster.pending.map (·.plugin.info) = h.server.pending.map (·.info)
  built : l.roster.built.map (·.plugin.info) = h.server.built.map (·.info)

theorem matches_of_journaled {depth : Nat} {outside : ω} {scripts : List (Script κ β ω)}
    (hl : journaledAfter depth outside scripts = l.journaled) :
    l.Matches (Hosting.after depth ⟨Server.empty, outside⟩ scripts) := by
  obtain ⟨m, hjournaled, hplain⟩ := (Life.start outside : Life κ β ω).exists_after depth scripts
  have hsame : l.journaled = m.journaled := hl.symm.trans hjournaled
  have hm : Hosting.after depth ⟨Server.empty, outside⟩ scripts = m.plain := hplain
  -- the plugins of both lives are the same ones as soon as they keep the journal
  have hinfos : ∀ entrants : List (Entrant κ β ω), entrants.map (·.plugin.info) =
      (entrants.map (·.journaled)).map (·.info) := fun entrants => by simp [Function.comp_def]
  rw [hm]
  refine ⟨?_, ?_, ?_, ?_, ?_⟩
  · exact congrArg (·.server.state) hsame
  · exact congrArg (·.server.added) hsame
  · exact congrArg (·.server.listeners) hsame
  · have hpending : l.roster.pending.map (·.journaled) = m.roster.pending.map (·.journaled) :=
      congrArg (·.server.pending) hsame
    rw [hinfos, hpending, ← hinfos]
    simp [Life.plain, Roster.plain, Roster.server, Function.comp_def]
  · have hbuilt : l.roster.built.map (·.journaled) = m.roster.built.map (·.journaled) :=
      congrArg (·.server.built) hsame
    rw [hinfos, hbuilt, ← hinfos]
    simp [Life.plain, Roster.plain, Roster.server, Function.comp_def]

end Life

end LiveSwap
