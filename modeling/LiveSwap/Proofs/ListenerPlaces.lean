import LiveSwap.Proofs.BuildStage
import LiveSwap.Proofs.Journal
import LiveSwap.Proofs.Routines
import Mathlib.Data.List.Induction
import Mathlib.Logic.Relation

/-!
# Places in the build order

Listeners are places in the build order, and a tick or a cleanup goes by places that were looked up before its
first call. Nothing that plugins do makes such a place go stale, and this does not hang on anything being carried
through: it holds at every moment, so also where a panic leaves a server half built or half indexed.

* **`Server.Change`**, **`Server.Reached`** — the single changes that operations make, and what they lead to.
* **`Server.Placed`** — nothing is built before building starts, and every place that is listed is taken.
* **`Server.Proceeds`** — going on by such changes, while whatever is being built goes on to be built.
* **`Routine.proceeds`**, **`Troupe.proceeds`** — everything that is done with a server proceeds, wherever it ends.
* **`Troupe.places_stand`** — places stay taken, by the same plugin; ticks and cleanups find somebody everywhere.
-/

namespace LiveSwap

open Relation

variable {κ : Type} {β : κ → Type} {ω : Type} {α : Type}

/-! ## Changes -/

namespace Server

/-- One change of a server. -/
inductive Change : Server κ β ω → Server κ β ω → Prop where
  | published {s : Server κ β ω} (globals : Resources κ β) : Change s { s with globals := globals }
  | noted {s : Server κ β ω} (id : PluginId) : Change s (s.noteId id)
  | queued {s : Server κ β ω} (plugin : Plugin κ β ω) (hfresh : s.state = .notStarted) :
      Change s (s.enqueue plugin)
  | taken {s : Server κ β ω} (hfresh : s.state = .notStarted) : Change s s.unqueued
  | started {s : Server κ β ω} (hfresh : s.state = .notStarted) : Change s (s.inState .building)
  | enrolled {s : Server κ β ω} (plugin : Plugin κ β ω) (hbuilding : s.state = .building) :
      Change s (s.enroll plugin)
  | cleared {s : Server κ β ω} (hbuilding : s.state = .building) : Change s (s.withListeners [])
  /-- A built plugin is listed under a schedule. -/
  | listed {s : Server κ β ω} {plugin : Plugin κ β ω} {place : Nat} (schedule : ScheduleId)
      (hbuilding : s.state = .building) (hplace : s.built[place]? = some plugin) :
      Change s (s.listed schedule place)
  | finished {s : Server κ β ω} (hbuilding : s.state = .building) : Change s (s.inState .built)

/-- A server comes to be like this by changes. -/
def Becomes (s s' : Server κ β ω) : Prop := ReflTransGen Change s s'

/-- It comes to be like this from an empty server. -/
def Reached (s : Server κ β ω) : Prop := Server.empty.Becomes s

variable {s s' : Server κ β ω}

theorem Change.becomes (h : Change s s') : s.Becomes s' := ReflTransGen.single h

theorem Becomes.trans {t : Server κ β ω} (h : s.Becomes s') (h' : s'.Becomes t) : s.Becomes t :=
  ReflTransGen.trans h h'

theorem Reached.becomes (h : s.Reached) (h' : s.Becomes s') : s'.Reached := h.trans h'

theorem Change.built (h : Change s s') : s.built <+: s'.built := by
  cases h with
  | enrolled plugin => exact List.prefix_append _ _
  | _ => exact List.prefix_refl _

theorem Becomes.built (h : s.Becomes s') : s.built <+: s'.built := by
  induction h with
  | refl => exact List.prefix_refl _
  | tail _ hchange ih => exact ih.trans hchange.built

theorem Becomes.getElem?_built (h : s.Becomes s') {place : Nat} {plugin : Plugin κ β ω}
    (hplace : s.built[place]? = some plugin) : s'.built[place]? = some plugin := by
  obtain ⟨more, hmore⟩ := h.built
  rw [← hmore, List.getElem?_append_left (List.getElem?_eq_some_iff.mp hplace).1, hplace]

/-! ### Places -/

/-- Nothing is built before building starts, and every place that is listed is one of a built plugin. -/
structure Placed (s : Server κ β ω) : Prop where
  unbuilt : s.state = .notStarted → s.built = []
  inRange : ∀ entry ∈ s.listeners, ∀ place ∈ entry.2, place < s.built.length

theorem lt_of_mem_listen {listeners : List (ScheduleId × List Nat)} {schedule : ScheduleId} {bound place : Nat}
    (hplace : place < bound) (h : ∀ entry ∈ listeners, ∀ i ∈ entry.2, i < bound) :
    ∀ entry ∈ listen listeners schedule place, ∀ i ∈ entry.2, i < bound := by
  fun_induction listen listeners schedule place with
  | case1 => simpa using hplace
  | case2 places rest =>
    rw [List.forall_mem_cons] at h ⊢
    refine ⟨fun i hi => ?_, h.2⟩
    rcases List.mem_append.mp hi with hold | hnew
    · exact h.1 i hold
    · rwa [List.mem_singleton.mp hnew]
  | case3 s places rest _ ih =>
    rw [List.forall_mem_cons] at h ⊢
    exact ⟨h.1, ih h.2⟩

theorem placed_empty : (Server.empty : Server κ β ω).Placed := ⟨fun _ => rfl, nofun⟩

theorem exists_standing {built : List α} {places : List Nat} (h : ∀ place ∈ places, place < built.length) :
    ∃ found : List α, places.map (built[·]?) = found.map some := by
  induction places with
  | nil => exact ⟨[], rfl⟩
  | cons place places ih =>
    rw [List.forall_mem_cons] at h
    obtain ⟨found, hfound⟩ := ih h.2
    exact ⟨built[place] :: found, by rw [List.map_cons, List.map_cons, hfound, List.getElem?_eq_getElem h.1]⟩

theorem Placed.of_building (hbuilding : s.state = .building)
    (hrange : ∀ entry ∈ s.listeners, ∀ place ∈ entry.2, place < s.built.length) : s.Placed :=
  ⟨fun hfresh => (nomatch hbuilding.symm.trans hfresh), hrange⟩

theorem Placed.change (h : s.Placed) (hchange : Change s s') : s'.Placed := by
  cases hchange with
  | published | noted | queued | taken => exact ⟨h.unbuilt, h.inRange⟩
  | started => exact .of_building rfl h.inRange
  | enrolled plugin hbuilding =>
    -- there are more places than before, and the same are listed
    refine .of_building hbuilding fun entry hentry place hplace => ?_
    have := h.inRange entry hentry place hplace
    simp only [enroll, List.length_append]
    omega
  | cleared hbuilding => exact .of_building hbuilding (List.forall_mem_nil _)
  | listed schedule hbuilding hplace =>
    have hlt := (List.getElem?_eq_some_iff.mp hplace).1
    exact .of_building hbuilding (lt_of_mem_listen hlt h.inRange)
  | finished => exact ⟨BuildState.noConfusion, h.inRange⟩

theorem Reached.placed (h : s.Reached) : s.Placed := by
  induction h with
  | refl => exact placed_empty
  | tail _ hchange ih => exact ih.change hchange

/-! ### Going on -/

/-- Where something holds, it holds after some changes. -/
def Keeps (P : Server κ β ω → Prop) (s s' : Server κ β ω) : Prop := P s → s.Becomes s' ∧ P s'

instance (P : Server κ β ω → Prop) : IsPreorder (Server κ β ω) (Keeps P) where
  refl _ h := ⟨.refl, h⟩
  trans _ _ _ h h' hs := by
    obtain ⟨hfirst, ht⟩ := h hs
    obtain ⟨hsecond, hu⟩ := h' ht
    exact ⟨hfirst.trans hsecond, hu⟩

/-- It builds. -/
def Building (s : Server κ β ω) : Prop := s.state = .building

/-- A server goes on, and if it builds, it still does. -/
structure Proceeds (s s' : Server κ β ω) : Prop where
  becomes : s.Becomes s'
  building : s.Building → s'.Building

instance : IsPreorder (Server κ β ω) Proceeds where
  refl _ := ⟨.refl, id⟩
  trans _ _ _ h h' := ⟨h.becomes.trans h'.becomes, h'.building ∘ h.building⟩

theorem Proceeds.keeps (h : s.Proceeds s') : Keeps Building s s' := fun hs => ⟨h.becomes, h.building hs⟩

theorem Becomes.proceeds (h : s.Becomes s') (hfresh : s.state = .notStarted) : s.Proceeds s' :=
  ⟨h, fun hbuilding => nomatch hfresh.symm.trans hbuilding⟩

end Server

namespace ServerAct

open Server (Proceeds Keeps Building)

/-! ## Operations -/

section Relations

variable {R S : Server κ β ω → Server κ β ω → Prop}

theorem Within.mono {act : ServerAct κ β ω α} (h : Within R act) (hrel : ∀ s s', R s s' → S s s') :
    Within S act := fun g => hrel _ _ (h g)

theorem Within.forM_mem [IsPreorder (Server κ β ω) R] {act : α → ServerAct κ β ω Unit} {as : List α}
    (h : ∀ a ∈ as, Within R (act a)) : Within R (as.forM act) := by
  induction as with
  | nil => exact within_pure ()
  | cons a as ih =>
    rw [List.forall_mem_cons] at h
    exact h.1.bind fun _ => ih h.2

end Relations

section Operations

variable {answers : Answers κ β ω} {call : Plugin κ β ω → Phase → ServerAct κ β ω Unit}
  (hcall : ∀ plugin phase, Within Proceeds (call plugin phase))

/-! ### Asking for schedules -/

/-- The server builds, and these are places of its build order. -/
def Listing (entries : List (Plugin κ β ω × Nat)) (s : Server κ β ω) : Prop :=
  s.Building ∧ ∀ entry ∈ entries, s.built[entry.2]? = some entry.1

theorem keeps_listPlaces (entries : List (Plugin κ β ω × Nat)) :
    Within (Keeps (Listing entries)) (entries.forM (listPlace answers)) := by
  refine Within.forM_mem fun entry hentry => (within_outside _).bind fun schedules => ?_
  refine Within.forM (fun schedule => within_updateServer fun s hs => ?_) schedules
  exact ⟨(Server.Change.listed schedule hs.1 (hs.2 entry hentry)).becomes, hs⟩

/-- **Listeners are indexed place by place**, until somebody panics. -/
theorem keeps_indexBuilt : Within (Keeps Building) (indexBuilt answers) := by
  refine (within_updateServer fun s hs => ⟨(Server.Change.cleared hs).becomes, hs⟩).bind fun _ => ?_
  intro h hs
  have hlisting : Listing h.server.built.zipIdx h.server :=
    ⟨hs, fun entry hentry => List.mem_zipIdx_iff_getElem?.mp hentry⟩
  obtain ⟨hbecomes, hbuilding, -⟩ := keeps_listPlaces h.server.built.zipIdx h hlisting
  exact ⟨hbecomes, hbuilding⟩

include hcall

/-! ### Building -/

theorem keeps_construct (plugin : Plugin κ β ω) : Within (Keeps Building) (construct call plugin) := by
  refine ((hcall plugin .build).mono fun _ _ h => h.keeps).bind fun _ => within_updateServer fun s hs => ?_
  exact ⟨(Server.Change.enrolled plugin hs).becomes, hs⟩

theorem keeps_buildEach (plugins : List (Plugin κ β ω)) : Within (Keeps Building) (buildEach call plugins) := by
  induction plugins with
  | nil => exact within_pure ()
  | cons plugin plugins ih =>
    rw [buildEach_cons]
    exact (keeps_construct hcall plugin).bind fun _ => ih

/-- What is done between taking the queue and the end. -/
theorem keeps_prepare (rounds : Nat) (queue : List (Plugin κ β ω)) : Within (Keeps Building)
    (buildEach call queue >>= fun _ => readyFrom call rounds 0 >>= fun _ => indexBuilt answers) := by
  have hready := within_readyFrom (fun plugin phase => (hcall plugin phase).mono fun _ _ h => h.keeps) rounds 0
  exact (keeps_buildEach hcall queue).bind fun _ => hready.bind fun _ => keeps_indexBuilt

theorem becomes_completeAsking {h : Hosting κ β ω} (hbuilding : h.server.Building) (rounds : Nat)
    (queue : List (Plugin κ β ω)) : h.server.Becomes ((completeAsking answers call rounds queue).runOn h).2.server := by
  have hprepare : Within (Keeps Building) (buildEach call queue >>= fun _ => readyFrom call rounds 0 >>= fun _ =>
    indexBuilt answers) := keeps_prepare hcall rounds queue
  obtain ⟨hbecomes, hstill⟩ := hprepare h hbuilding
  -- only a server that builds can be finished, so all that comes before the end is run first
  have hsplit : completeAsking answers call rounds queue = (buildEach call queue >>= fun _ =>
      readyFrom call rounds 0 >>= fun _ => indexBuilt answers) >>= fun _ => updateServer (·.inState .built) := by
    simp only [completeAsking, bind_assoc]
  rw [hsplit, Effect.runOn_bind]
  rcases hrun : (buildEach call queue >>= fun _ => readyFrom call rounds 0 >>= fun _ =>
    indexBuilt answers).runOn h with ⟨halt | _, h'⟩
  · rwa [hrun] at hbecomes
  · rw [hrun] at hbecomes hstill
    exact hbecomes.trans (Server.Change.finished hstill).becomes

/-- **Finishing** goes on from a server that has not started to build, and is refused otherwise. -/
theorem proceeds_finishAsking (rounds : Nat) : Within Proceeds (finishAsking answers call rounds) := by
  intro h
  rw [runOn_finishAsking]
  by_cases hfresh : h.server.state = .notStarted
  · have htaken : h.server.Becomes h.server.unqueued := (Server.Change.taken hfresh).becomes
    rw [if_pos hfresh]
    rcases (answers.order h.server.pending h.server.built).runOn h.outside with ⟨halt | queue, o⟩
    · -- whoever was asked panicked, and the queue is lost
      exact htaken.proceeds hfresh
    · have hstarted : h.server.Becomes h.server.started :=
        htaken.trans (Server.Change.started (s := h.server.unqueued) hfresh).becomes
      have hcomplete : h.server.started.Becomes
          ((completeAsking answers call rounds queue).runOn ⟨h.server.started, o⟩).2.server :=
        becomes_completeAsking hcall (h := ⟨h.server.started, o⟩) rfl rounds queue
      exact (hstarted.trans hcomplete).proceeds hfresh
  · rw [if_neg hfresh]
    exact refl_of Proceeds h.server

/-- **An addition** is refused, built on the spot or queued. -/
theorem proceeds_add (plugin : Plugin κ β ω) : Within Proceeds (add call plugin) := by
  intro h
  rw [runOn_add]
  cases hrefusal : h.server.refusal? plugin.info with
  | some refusal => exact refl_of Proceeds h.server
  | none =>
    have hnoted : h.server.Becomes (h.server.noteId plugin.info.id) := (Server.Change.noted _).becomes
    by_cases hstate : h.server.state = .building
    -- the build call may change anything as long as it only goes on building
    · simp only [if_pos hstate]
      obtain ⟨hbecomes, hbuilding⟩ :=
        keeps_construct hcall plugin (h.update (·.noteId plugin.info.id)) hstate
      exact ⟨hnoted.trans hbecomes, fun _ => hbuilding⟩
    · -- nothing is accepted once the server is built
      have hfresh : h.server.state = .notStarted :=
        Decidable.byContradiction fun hstarted => hstate (Server.state_of_open hrefusal hstarted)
      have hstill : (h.server.noteId plugin.info.id).state = .notStarted := hfresh
      simp only [if_neg hstate]
      exact (hnoted.trans (Server.Change.queued plugin hstill).becomes).proceeds hfresh

/-! ### Calling whoever stands at a place -/

theorem forM_callAt_found {phase : Phase} {places : List Nat} {plugins : List (Plugin κ β ω)} {h : Hosting κ β ω}
    (hfound : places.map (h.server.built[·]?) = plugins.map some) :
    (places.forM (callAt call phase)).runOn h = (plugins.forM (call · phase)).runOn h := by
  induction places generalizing h plugins with
  | nil =>
    obtain rfl := List.map_eq_nil_iff.mp hfound.symm
    rfl
  | cons place places ih =>
    obtain ⟨plugin, plugins, rfl, hplace, hrest⟩ := List.map_eq_cons_iff.mp hfound.symm
    have hproceeds := hcall plugin phase h
    show (callAt call phase place >>= fun _ => places.forM (callAt call phase)).runOn h =
      (call plugin phase >>= fun _ => plugins.forM (call · phase)).runOn h
    have hstands : h.server.built[place]? = some plugin := hplace.symm
    rw [Effect.runOn_bind, Effect.runOn_bind, runOn_callAt, hstands]
    dsimp only
    rcases hrun : (call plugin phase).runOn h with ⟨halt | _, h'⟩
    · rfl
    · -- the other places are still taken, by the same plugins
      rw [hrun] at hproceeds
      have hsame : places.map (h'.server.built[·]?) = places.map (h.server.built[·]?) := by
        refine List.map_congr_left fun other hother => ?_
        have hmem : h.server.built[other]? ∈ plugins.map some := by
          rw [hrest]
          exact List.mem_map_of_mem hother
        obtain ⟨found, -, hfound⟩ := List.mem_map.mp hmem
        rw [← hfound, hproceeds.becomes.getElem?_built hfound.symm]
      exact ih (hsame.trans hrest.symm)

/-- **A tick finds somebody at every place.** -/
theorem tick_found {h : Hosting κ β ω} (hplaced : h.server.Placed) (schedule : ScheduleId) :
    ∃ plugins : List (Plugin κ β ω),
      ((h.server.listeners.lookup schedule).getD []).map (h.server.built[·]?) = plugins.map some ∧
      (tick call schedule).runOn h = (plugins.forM (call · (.update schedule))).runOn h := by
  have hrange : ∀ place ∈ (h.server.listeners.lookup schedule).getD [], place < h.server.built.length := by
    cases hlookup : h.server.listeners.lookup schedule with
    | none => exact nofun
    | some places =>
      obtain ⟨before, after, hlisteners, -⟩ := List.lookup_eq_some_iff.mp hlookup
      exact hplaced.inRange (schedule, places) (by simp [hlisteners])
  obtain ⟨plugins, hplugins⟩ := Server.exists_standing hrange
  refine ⟨plugins, hplugins, ?_⟩
  rw [runOn_tick, forM_callAt_found hcall hplugins]

/-- **A cleanup finds everybody that is built.** -/
theorem cleanup_found (h : Hosting κ β ω) :
    (cleanup call).runOn h = (h.server.built.reverse.forM (call · .cleanup)).runOn h := by
  have hfound : (List.range h.server.built.length).reverse.map (h.server.built[·]?) =
      h.server.built.reverse.map some := by
    rw [List.map_reverse, List.map_reverse]
    exact congrArg List.reverse (List.ext_getElem (by simp) fun place hrange hbuilt => by simp_all)
  rw [runOn_cleanup, forM_callAt_found hcall hfound]

end Operations

end ServerAct

/-! ## Whatever is done -/

/-- **Everything that can be done with a server proceeds**, wherever it ends. -/
theorem Routine.proceeds {answers : Answers κ β ω} {call : Plugin κ β ω → Phase → ServerAct κ β ω Unit}
    (hcall : ∀ plugin phase, ServerAct.Within Server.Proceeds (call plugin phase)) {act : ServerAct κ β ω α}
    (h : Routine answers call act) : ServerAct.Within Server.Proceeds act := by
  -- one case per constructor: what can be done keeps building from being taken back
  induction h with
  | done a => exact ServerAct.within_pure a
  | halt halt => exact ServerAct.within_throw halt
  | look => exact fun h => refl_of Server.Proceeds h.server
  | outside act => exact ServerAct.within_outside act
  | publish globals =>
    exact ServerAct.within_updateServer fun s => ⟨(Server.Change.published globals).becomes, id⟩
  | add plugin => exact ServerAct.proceeds_add hcall plugin
  | finish rounds => exact ServerAct.proceeds_finishAsking hcall rounds
  | tick schedule => exact ServerAct.within_tick hcall schedule
  | cleanup => exact ServerAct.within_cleanup hcall
  | bind _ _ ih ihf => exact ih.bind ihf
  | attempt _ ih => exact ih.attempt

/-- **So does every call**, however deep calls are nested. -/
theorem Troupe.proceeds (t : Troupe κ β ω) (depth : Nat) (plugin : Plugin κ β ω) (phase : Phase) :
    ServerAct.Within Server.Proceeds (t.call depth plugin phase) := by
  induction depth generalizing plugin phase with
  | zero =>
    rw [t.deepest]
    exact ServerAct.within_throw _
  | succ depth ih => exact (t.routine depth plugin phase).proceeds ih

theorem Hosting.reached_after [DecidableEq κ] (depth : Nat) (outside : ω) (scripts : List (Script κ β ω)) :
    (Hosting.after depth ⟨Server.empty, outside⟩ scripts).server.Reached := by
  induction scripts using List.reverseRecOn with
  | nil => exact .refl
  | append_singleton scripts script ih =>
    rw [Hosting.after_append]
    exact ih.becomes ((routine_exec depth script).proceeds (Troupe.scripted.proceeds depth) _).becomes

/-- **Places stand.** Whatever plugins do when they are called and answer when they are asked, and wherever a
panic ends it, a server goes on by single changes; as plugins may panic anywhere, every moment of a run is the
end of one. Wherever the changes lead: what is listed are places of built plugins; a place that is taken is taken
by the same plugin ever after, as others are only built behind it; and before building starts nobody is built, so
no dependency is ever found among those who are. So a tick and a cleanup find somebody at every place, whatever
their calls do to the server in between. -/
theorem Troupe.places_stand [DecidableEq κ] (t : Troupe κ β ω) :
    (∀ s : Server κ β ω, s.Reached →
      (∀ entry ∈ s.listeners, ∀ place ∈ entry.2, place < s.built.length) ∧
      (∀ s' : Server κ β ω, s.Becomes s' → s.built <+: s'.built ∧
        ∀ (place : Nat) (plugin : Plugin κ β ω),
          s.built[place]? = some plugin → s'.built[place]? = some plugin) ∧
      (s.state = .notStarted → s.built = [] ∧ (∀ id, id ∉ s.built.map (·.info.id)) ∧
        Order.missing? (s.pending.map (·.info)) (s.built.map (·.info.id)) =
          Order.missing? (s.pending.map (·.info)) [])) ∧
    (∀ depth (h : Hosting κ β ω),
      (∀ plugin phase, h.server.Becomes ((t.call depth plugin phase).runOn h).2.server) ∧
      ∀ {α : Type} (act : ServerAct κ β ω α), Routine t.answers (t.call depth) act →
        h.server.Becomes (act.runOn h).2.server) ∧
    (∀ depth (h : Hosting κ β ω), h.server.Reached →
      (∀ schedule, ∃ plugins : List (Plugin κ β ω),
        ((h.server.listeners.lookup schedule).getD []).map (h.server.built[·]?) = plugins.map some ∧
        (ServerAct.tick (t.call depth) schedule).runOn h =
          (plugins.forM (t.call depth · (.update schedule))).runOn h) ∧
      (ServerAct.cleanup (t.call depth)).runOn h =
        (h.server.built.reverse.forM (t.call depth · .cleanup)).runOn h) ∧
    ∀ depth outside (scripts : List (Script κ β ω)),
      (Hosting.after depth ⟨Server.empty, outside⟩ scripts).server.Reached := by
  refine ⟨fun s hs => ⟨hs.placed.inRange, fun s' hs' => ⟨hs'.built, fun place plugin => hs'.getElem?_built⟩, ?_⟩,
    fun depth h => ⟨?_, ?_⟩, fun depth h hs => ⟨?_, ?_⟩, Hosting.reached_after⟩
  · intro hfresh
    simp [hs.placed.unbuilt hfresh]
  · exact fun plugin phase => (t.proceeds depth plugin phase h).becomes
  · exact fun act hact => (hact.proceeds (t.proceeds depth) h).becomes
  · exact ServerAct.tick_found (t.proceeds depth) hs.placed
  · exact ServerAct.cleanup_found (t.proceeds depth) h

/-! ## A server that is left half indexed -/

namespace Sample

def bell : ScheduleId := ⟨"host::Bell"⟩

def ringer : Plugin Unit (fun _ => Nat) Unit :=
  .mk ⟨⟨"host::Ringer"⟩, "host::ringer", ⟨0, 1, 0⟩, "host::Ringer", [], true, [bell]⟩
    .done .done .done fun _ => .done

def brooder : Plugin Unit (fun _ => Nat) Unit :=
  .mk ⟨⟨"host::Brooder"⟩, "host::brooder", ⟨0, 1, 0⟩, "host::Brooder", [], false, [bell]⟩
    .done .done .done fun _ => .done

/-- Plugins are built as they are queued; one that is not unique panics when it is asked for schedules. -/
def moods : Answers Unit (fun _ => Nat) Unit where
  order queue _ := pure queue
  schedules plugin := if plugin.info.isUnique then pure plugin.info.schedules else Effect.panic "not today"

/-- Whoever is updated adds a plugin, tries to finish the server once more, and cleans up. -/
def meddle : Nat → Plugin Unit (fun _ => Nat) Unit → Phase → ServerAct Unit (fun _ => Nat) Unit Unit
  | 0, _, _ => throw .endless
  | depth + 1, _, .update _ =>
    ServerAct.add (meddle depth) brooder >>= fun _ =>
      Effect.attempt (ServerAct.finishAsking moods (meddle depth) depth) >>= fun _ => ServerAct.cleanup (meddle depth)
  | _ + 1, _, _ => pure ()

def meddlers : Troupe Unit (fun _ => Nat) Unit where
  answers := moods
  call := meddle
  deepest _ _ := rfl
  routine depth plugin phase := by
    cases phase with
    | update schedule => exact (Routine.add brooder).bind fun _ => (Routine.finish depth).attempt.bind fun _ => .cleanup
    | build => exact .done ()
    | ready => exact .done ()
    | cleanup => exact .done ()

/-- Two plugins are added, and the server is finished as far as it gets. -/
def opening : ServerAct Unit (fun _ => Nat) Unit Unit :=
  ServerAct.add (meddle 3) ringer >>= fun _ => ServerAct.add (meddle 3) brooder >>= fun _ =>
    ServerAct.finishAsking moods (meddle 3) 3

def halfIndexed : Hosting Unit (fun _ => Nat) Unit :=
  ⟨⟨Resources.empty, [], [ringer, brooder], [ringer.info.id, brooder.info.id], [(bell, [0])], .building⟩, ()⟩

theorem runOn_opening : opening.runOn ⟨Server.empty, ()⟩ = (.error (.panic (.text "not today")), halfIndexed) := by
  let h : Hosting Unit (fun _ => Nat) Unit :=
    ⟨⟨Resources.empty, [], [ringer, brooder], [ringer.info.id, brooder.info.id], [], .building⟩, ()⟩
  have hready : (ServerAct.readyFrom (meddle 3) 3 0).runOn h = (.ok (), h) :=
    ServerAct.readyFrom_of_idle _ (fun _ _ => rfl) (by decide)
  have hindex : ((ServerAct.indexBuilt moods) >>= fun _ => ServerAct.updateServer (·.inState .built)).runOn h =
      (.error (.panic (.text "not today")), halfIndexed) := rfl
  have hrest : (ServerAct.readyFrom (meddle 3) 3 0 >>= fun _ => ServerAct.indexBuilt moods >>= fun _ =>
      ServerAct.updateServer (·.inState .built)).runOn h = (.error (.panic (.text "not today")), halfIndexed) := by
    rw [Effect.runOn_bind_ok hready, hindex]
  exact hrest

end Sample

/-- The first plugin is listed already when the second one panics. A tick finds it, though the server is not
finished, and a cleanup finds both. -/
theorem Troupe.places_stand_interrupted : ∃ h, (Sample.opening.runOn ⟨Server.empty, ()⟩).2 = h ∧
    h.server.Reached ∧ h.server.state = .building ∧ h.server.listeners = [(Sample.bell, [0])] ∧
    (∀ entry ∈ h.server.listeners, ∀ place ∈ entry.2, place < h.server.built.length) ∧
    (ServerAct.tick (Sample.meddle 3) Sample.bell).runOn h =
      ([Sample.ringer].forM (Sample.meddle 3 · (.update Sample.bell))).runOn h ∧
    (ServerAct.cleanup (Sample.meddle 3)).runOn h =
      ([Sample.brooder, Sample.ringer].forM (Sample.meddle 3 · .cleanup)).runOn h := by
  obtain ⟨hplaces, hruns, hfound, -⟩ := Troupe.places_stand Sample.meddlers
  have hopening : Routine Sample.moods (Sample.meddle 3) Sample.opening :=
    (Routine.add _).bind fun _ => (Routine.add _).bind fun _ => .finish 3
  have hreached : (Sample.opening.runOn ⟨Server.empty, ()⟩).2.server.Reached :=
    (hruns 3 ⟨Server.empty, ()⟩).2 Sample.opening hopening
  rw [Sample.runOn_opening] at hreached ⊢
  obtain ⟨hticks, hcleanup⟩ := hfound 3 Sample.halfIndexed hreached
  obtain ⟨plugins, hplugins, htick⟩ := hticks Sample.bell
  have hringer : plugins = [Sample.ringer] := (List.map_inj_right fun _ _ => Option.some.inj).mp hplugins.symm
  rw [hringer] at htick
  exact ⟨Sample.halfIndexed, rfl, hreached, rfl, rfl, (hplaces _ hreached).1, htick, hcleanup⟩

end LiveSwap
