import LiveSwap.Proofs.Lifecycle
import LiveSwap.Proofs.ServerCourse
import LiveSwap.Proofs.Ticks

/-!
# Who is updated, and when

A tick goes by places in the build order that were looked up when the server was finished. They are the
places of the plugins that asked for the schedule, at any later moment, so that a tick is a round of update
calls, one for every mention of the schedule, in build order. A panic ends the round, unless it is caught inside
an update call.

* **`Server.audience`** — the plugins that hear a schedule, once for every mention.
* **`ServerAct.runOn_tick_eq`** — a tick of a finished server updates its audience.
* **`Journal.Timely`** — nobody is updated before the server is finished.
* **`Hosting.ticks_dispatched`** — both for every history, and what a server never does that was left
  building.
-/

namespace LiveSwap

open Relation Journal

variable {κ : Type} {β : κ → Type} {ω : Type}

/-! ## The audience of a tick -/

namespace Server

/-- The plugins that hear a schedule, once for every mention, in build order. -/
def audience (s : Server κ β ω) (schedule : ScheduleId) : List (Plugin κ β ω) :=
  s.built.flatMap fun plugin => List.replicate (plugin.info.schedules.count schedule) plugin

theorem lt_of_mem_listenersOf {infos : List PluginInfo} {schedule : ScheduleId} {place : Nat}
    (hplace : place ∈ ((listenersOf infos).lookup schedule).getD []) : place < infos.length := by
  rw [lookup_listenersOf, List.mem_flatMap] at hplace
  obtain ⟨entry, hentry, hmem⟩ := hplace
  obtain rfl := List.eq_of_mem_replicate hmem
  exact (List.getElem?_eq_some_iff.mp (List.mem_zipIdx_iff_getElem?.mp hentry)).1

/-- **Whoever is found at the places** that hear a schedule. -/
theorem filterMap_listenersOf {α : Type} (info : α → PluginInfo) (built : List α) (schedule : ScheduleId) :
    (((listenersOf (built.map info)).lookup schedule).getD []).filterMap (built[·]?) =
      built.flatMap fun plugin => List.replicate ((info plugin).schedules.count schedule) plugin := by
  -- an entry knows its place, so looking it up gives the plugin back
  have hplaces : ∀ entries : List (α × Nat), (∀ entry ∈ entries, built[entry.2]? = some entry.1) →
      entries.flatMap (fun entry => (List.replicate ((info entry.1).schedules.count schedule)
        entry.2).filterMap (built[·]?)) =
      (entries.map (·.1)).flatMap fun plugin =>
        List.replicate ((info plugin).schedules.count schedule) plugin := by
    intro entries hentries
    rw [List.flatMap_map]
    refine List.flatMap_congr fun entry hentry => ?_
    exact List.filterMap_replicate_of_some (hentries entry hentry)
  rw [lookup_listenersOf, List.zipIdx_map, List.flatMap_map, List.filterMap_flatMap]
  refine (hplaces built.zipIdx fun entry hentry => List.mem_zipIdx_iff_getElem?.mp hentry).trans ?_
  rw [List.zipIdx_map_fst]

end Server

namespace ServerAct

section Ticks

variable {call : Plugin κ β ω → Phase → ServerAct κ β ω Unit}
  (hcall : ∀ plugin phase, Within Server.Settled (call plugin phase)) {h : Hosting κ β ω}
include hcall

/-- Calls at places are calls of those who are found there when the first call is made. -/
theorem forM_callAt_eq {phase : Phase} (hbuilt : h.server.state = .built) {places : List Nat}
    (hplaces : ∀ place ∈ places, place < h.server.built.length) :
    (places.forM (callAt call phase)).runOn h =
      ((places.filterMap (h.server.built[·]?)).forM (call · phase)).runOn h := by
  -- a call may add plugins, so what is found later has to be found from the start
  induction places generalizing h with
  | nil => rfl
  | cons place places ih =>
    have hplace := hplaces place List.mem_cons_self
    have hfound : h.server.built[place]? = some h.server.built[place] := List.getElem?_eq_getElem hplace
    have hsettled := hcall h.server.built[place] phase h hbuilt
    rw [List.filterMap_cons, hfound]
    show (callAt call phase place >>= fun _ => places.forM (callAt call phase)).runOn h =
      (call h.server.built[place] phase >>= fun _ => List.forM _ (call · phase)).runOn h
    rw [Effect.runOn_bind, Effect.runOn_bind, runOn_callAt, hfound]
    dsimp only
    rcases hrun : (call h.server.built[place] phase).runOn h with ⟨halt | _, h'⟩
    · rfl
    · -- the other places stand for the same plugins after the call
      rw [hrun] at hsettled
      obtain ⟨hbuilt', hsame, -⟩ := hsettled
      dsimp only
      rw [ih hbuilt' fun other hother => hsame ▸ hplaces other (List.mem_cons_of_mem _ hother), hsame]

/-- **A tick of a finished server** updates its audience. -/
theorem runOn_tick_eq (hbuilt : h.server.state = .built)
    (hheard : h.server.listeners = Server.listenersOf (h.server.built.map (·.info)))
    (schedule : ScheduleId) : (tick call schedule).runOn h =
      ((h.server.audience schedule).forM (call · (.update schedule))).runOn h := by
  rw [runOn_tick, forM_callAt_eq hcall hbuilt, hheard, Server.filterMap_listenersOf]
  · rfl
  · intro place hplace
    rw [hheard] at hplace
    simpa using Server.lt_of_mem_listenersOf hplace

end Ticks

section Building

variable {call : Plugin κ β ω → Phase → ServerAct κ β ω Unit}
  (hcall : ∀ plugin phase, Within Server.Abides (call plugin phase))
include hcall

theorem building_of_finish {rounds : Nat} {h h' : Hosting κ β ω} {queue : List (Plugin κ β ω)} {halt : Halt}
    (hfresh : h.server.state = .notStarted) (horder : h.server.inOrder = .ok queue)
    (hrun : (finish call rounds).runOn h = (.error halt, h')) : h'.server.state = .building := by
  rw [runOn_finish, if_pos hfresh, horder] at hrun
  -- the server has started, and neither building nor readying takes that back
  have hbuilds := state_buildEach hcall (h := h.update (·.started)) rfl queue
  dsimp only at hrun
  rw [complete, Effect.runOn_bind] at hrun
  rcases hbuild : (buildEach call queue).runOn (h.update (·.started)) with ⟨halt' | _, m⟩
  · rw [hbuild] at hrun hbuilds
    obtain ⟨-, rfl⟩ := Prod.mk.inj hrun
    exact hbuilds
  · rw [hbuild] at hrun hbuilds
    have hbuilding : m.server.state = .building := hbuilds
    have hreadies := (within_readyFrom hcall rounds 0 m).state (by simp [hbuilding])
    dsimp only at hrun
    rw [Effect.runOn_bind] at hrun
    rcases hready : (readyFrom call rounds 0).runOn m with ⟨halt' | _, k⟩
    · rw [hready] at hrun hreadies
      obtain ⟨-, rfl⟩ := Prod.mk.inj hrun
      exact hreadies.trans hbuilding
    · -- nothing is left that could halt
      rw [hready] at hrun
      cases hrun

end Building

end ServerAct

/-! ## Nobody is updated too early -/

namespace Journal

/-- Whoever is called to update is called after the server was finished. -/
def Timely (entries : Journal) : Prop := ∀ place number schedule,
  entries[place]? = some (.called number (.update schedule)) → .finished ∈ entries.take place

theorem Timely.concat {entries : Journal} (h : entries.Timely) {entry : Entry}
    (hupdate : ∀ number schedule, entry = .called number (.update schedule) → .finished ∈ entries) :
    (entries ++ [entry]).Timely := by
  intro place number schedule hget
  by_cases hlt : place < entries.length
  · rw [List.getElem?_append_left hlt] at hget
    rw [List.take_append_of_le_length (by omega)]
    exact h place number schedule hget
  · have hlength := (List.getElem?_eq_some_iff.mp hget).1
    rw [List.length_append, List.length_singleton] at hlength
    obtain rfl : place = entries.length := by omega
    rw [List.getElem?_concat_length] at hget
    rw [List.take_left]
    exact hupdate number schedule (Option.some.inj hget)

end Journal

namespace Life

variable {l l' : Life κ β ω}

theorem timely_move (h : l.journal.Timely) (hs : l.Sound) (hmove : Moves l l') : l'.journal.Timely := by
  have hoffer : ∀ info, (l.journal ++ [Entry.offered l.journal.length info]).Timely :=
    fun info => h.concat nofun
  obtain hstep | hcut := hmove
  -- only an update call has to come after the end of building, and such a call needs a listener
  · cases hstep with
    | beside | enrolled => exact h
    | called hknown hstarted hupdate =>
      refine h.concat fun number schedule hentry => hs.finished.mp (hupdate schedule ?_)
      exact (Entry.called.inj hentry).2
    | @queued plugin hopen hstate =>
      have haccepted : (l.journal ++ [Entry.offered l.journal.length plugin.info] ++
          [Entry.accepted l.journal.length]).Timely := (hoffer plugin.info).concat nofun
      rwa [List.append_assoc] at haccepted
    | begun hopen hstate => exact (hoffer _).concat nofun
    | _ => exact h.concat nofun
  · cases hcut with
    | mk => exact hoffer _

theorem timely_moves (h : l.journal.Timely) (hs : l.Sound) (hmoves : ReflTransGen Moves l l') :
    l'.journal.Timely := by
  induction hmoves with
  | refl => exact h
  | tail hpath hmove ih => exact timely_move ih (hs.moves hpath) hmove

/-! ## Ticks in a journal -/

/-- The numbers of those who hear a schedule, once for every mention, in build order. -/
def heard (l : Life κ β ω) (schedule : ScheduleId) : List Nat :=
  l.roster.built.flatMap fun entrant =>
    List.replicate (entrant.plugin.info.schedules.count schedule) entrant.number

variable [DecidableEq κ]

theorem numbers_of_forM {depth : Nat} {phase : Phase} {places : List Nat} {entries : Journal}
    (hbuilt : l.roster.state = .built) (hgrown : l.Grown entries l')
    (hrun : (places.forM (ServerAct.callAt (ServerAct.invoke depth) phase)).runOn l.journaled =
      (.ok (), l'.journaled)) : l'.numbers = l.numbers := by
  have hcalls : ServerAct.Within Server.Settled
      (places.forM (ServerAct.callAt (ServerAct.invoke depth) phase) : ServerAct κ β (ω × Journal) Unit) :=
    .forM (ServerAct.within_callAt (ServerAct.invoke_settled depth) phase) places
  obtain ⟨-, hplugins, -⟩ := hcalls l.journaled hbuilt
  rw [hrun] at hplugins
  have hlength := congrArg List.length hplugins
  rw [l'.length_built_journaled, l.length_built_journaled] at hlength
  -- a build call that returned would have made the list of plugins longer
  have hnone : returned .build entries = [] := by
    have hnumbers := congrArg List.length hgrown.numbers
    rw [List.length_append, Life.numbers, Life.numbers, List.length_map, List.length_map] at hnumbers
    exact List.eq_nil_of_length_eq_zero (by omega)
  rw [hgrown.numbers, hnone, List.append_nil]

/-- **A tick that returns** leaves a block for everybody who hears it, in turn. -/
theorem tick_logged {depth : Nat} (hbuilt : l.roster.state = .built)
    (hheard : l.roster.listeners = Server.listenersOf (l.roster.built.map (·.plugin.info)))
    {schedule : ScheduleId} {h : Hosting κ β (ω × Journal)}
    (hrun : (ServerAct.tick (ServerAct.invoke depth) schedule).runOn l.journaled = (.ok (), h)) :
    ∃ entries, h.outside.2 = l.journal ++ entries ∧
      Blocks (.update schedule) l.journal.length (l.heard schedule) entries := by
  have hlisteners : l.journaled.server.listeners = _ := hheard
  have hstarted : l.roster.state ≠ .notStarted := by simp [hbuilt]
  have hphase : Phase.update schedule ≠ .build := nofun
  rw [ServerAct.runOn_tick, hlisteners] at hrun
  obtain ⟨numbers, entries, l', hblocks, hgrown, rfl, hnumbers⟩ :=
    ServerAct.forM_callAt_logged (ServerAct.invoke_calls depth) hstarted hphase _ hrun
  rw [numbers_of_forM hbuilt hgrown hrun] at hnumbers
  have hall : numbers = l.heard schedule := by
    -- there was somebody at every place
    have hfound := congrArg (List.filterMap id) hnumbers
    rw [List.filterMap_map, List.filterMap_map, Function.id_comp, Function.id_comp,
      List.filterMap_some] at hfound
    rw [← hfound, heard]
    simp only [l.getElem?_numbers]
    rw [← List.map_filterMap, Server.filterMap_listenersOf]
    simp [List.map_flatMap]
  rw [← hall]
  exact ⟨entries, hgrown.journal, hblocks⟩

end Life

/-! ## Histories -/

section Histories

variable [DecidableEq κ]

theorem Hosting.after_abides (depth : Nat) (h : Hosting κ β ω) (scripts : List (Script κ β ω)) :
    h.server.Abides (h.after depth scripts).server := by
  induction scripts generalizing h with
  | nil => exact refl_of Server.Abides h.server
  | cons script scripts ih =>
    exact trans_of Server.Abides (ServerAct.run_abides depth script h) (ih _)

variable {depth : Nat} {outside : ω} {scripts : List (Script κ β ω)} {h : Hosting κ β ω}

theorem timely_journal (depth : Nat) (outside : ω) (scripts : List (Script κ β ω)) :
    (journal depth outside scripts).Timely := by
  obtain ⟨l, hl, hmoves⟩ := Life.exists_course depth outside scripts
  have hjournal : journal depth outside scripts = l.journal := congrArg (·.outside.2) hl
  have hnone : (Life.start outside : Life κ β ω).journal.Timely := fun _ _ _ h => by cases h
  rw [hjournal]
  exact Life.timely_moves hnone (Life.sound_start outside) hmoves

/-- A server that is left building never updates anybody. -/
theorem not_updated_of_building (hh : Hosting.after depth ⟨Server.empty, outside⟩ scripts = h)
    (hbuilding : h.server.state = .building) (later : List (Script κ β ω)) (number : Nat)
    (schedule : ScheduleId) : .called number (.update schedule) ∉ journal depth outside (scripts ++ later) := by
  intro hcalled
  obtain ⟨l, hl, hmoves⟩ := Life.exists_course depth outside (scripts ++ later)
  have hstate := (Life.matches_of_journaled hl).state
  have hjournal : journal depth outside (scripts ++ later) = l.journal := congrArg (·.outside.2) hl
  have hstill : (h.after depth later).server.state = .building :=
    ((Hosting.after_abides depth h later).state (by simp [hbuilding])).trans hbuilding
  rw [Hosting.after_append, hh, hstill] at hstate
  -- only a finished server writes what stands before every update
  obtain ⟨place, hplace⟩ := List.getElem?_of_mem hcalled
  have htimely := timely_journal depth outside (scripts ++ later) place number schedule hplace
  have hfinished := List.mem_of_mem_take htimely
  rw [hjournal, ← ((Life.sound_start outside).moves hmoves).finished, hstate] at hfinished
  cases hfinished

theorem tick_of_settled (hh : Hosting.after depth ⟨Server.empty, outside⟩ scripts = h)
    (hbuilt : h.server.state = .built) {h₁ : Hosting κ β ω} (hsettled : h.server.Settled h₁.server)
    (depth' : Nat) (schedule : ScheduleId) :
    (ServerAct.tick (ServerAct.invoke depth') schedule).runOn h₁ =
      ((h.server.audience schedule).forM (ServerAct.invoke depth' · (.update schedule))).runOn h₁ := by
  have hheard : h.server.listeners = Server.listenersOf (h.server.built.map (·.info)) := by
    rw [← hh] at hbuilt ⊢
    exact (Hosting.regular_after depth outside scripts).heard hbuilt
  obtain ⟨hstate, hplugins, -, hlisteners⟩ := hsettled hbuilt
  have hsame : h₁.server.audience schedule = h.server.audience schedule := by
    rw [Server.audience, Server.audience, hplugins]
  rw [← hsame]
  refine ServerAct.runOn_tick_eq (ServerAct.invoke_settled depth') hstate ?_ schedule
  rw [hlisteners, hplugins, hheard]

theorem Life.tick_of_settled {l : Life κ β ω} (hs : l.Sound) (hbuilt : l.roster.state = .built)
    {h₁ h₂ : Hosting κ β (ω × Journal)} (hsettled : l.journaled.server.Settled h₁.server) {schedule : ScheduleId}
    (hrun : (ServerAct.tick (ServerAct.invoke depth) schedule).runOn h₁ = (.ok (), h₂)) :
    ∃ entries, h₂.outside.2 = h₁.outside.2 ++ entries ∧
      Blocks (.update schedule) h₁.outside.2.length (l.heard schedule) entries ∧
      outermost 0 entries = (l.heard schedule).map (·, .update schedule) := by
  have hheard : l.roster.listeners = Server.listenersOf (l.plain.server.built.map (·.info)) :=
    hs.regular.heard hbuilt
  have hlisteners := (hsettled hbuilt).2.2.2
  obtain ⟨k, rfl, hplugins, hstate⟩ := exists_settled hbuilt hsettled
  have hsame : k.heard schedule = l.heard schedule := by rw [Life.heard, Life.heard, hplugins]
  have hheard' : k.roster.listeners = Server.listenersOf (k.roster.built.map (·.plugin.info)) := by
    refine Eq.trans hlisteners (hheard.trans ?_)
    simp [Life.plain, Roster.plain, Roster.server, Function.comp_def, hplugins]
  obtain ⟨entries, hentries, hblocks⟩ := Life.tick_logged hstate hheard' hrun
  rw [← hsame]
  exact ⟨entries, hentries, hblocks, hblocks.outermost_eq⟩

/-- **The updates of a server.** Nobody is updated before the server is finished, nor ever if it was left
building, which is what becomes of it if somebody halts while a queue is built or readied. Once it is
finished, whatever is run on it keeps it so, and whenever it is ticked then, by whomever, it updates the
plugins that mention the schedule, once for every mention and in build order, one after the other. -/
theorem Hosting.ticks_dispatched (hh : Hosting.after depth ⟨Server.empty, outside⟩ scripts = h) :
    (journal depth outside scripts).Timely ∧
    (h.server.state = .building → ∀ later number schedule,
      .called number (.update schedule) ∉ journal depth outside (scripts ++ later)) ∧
    (∀ queue halt h', h.server.state = .notStarted → h.server.inOrder = .ok queue →
      (ServerAct.finish (ServerAct.invoke depth) depth).runOn h = (.error halt, h') →
      h'.server.state = .building) ∧
    (h.server.state = .built →
      (∀ depth' script (h₁ : Hosting κ β ω), h.server.Settled h₁.server →
        h.server.Settled ((ServerAct.run depth' script).runOn h₁).2.server) ∧
      (∀ depth' schedule (h₁ : Hosting κ β ω), h.server.Settled h₁.server →
        (ServerAct.tick (ServerAct.invoke depth') schedule).runOn h₁ =
          ((h.server.audience schedule).forM (ServerAct.invoke depth' · (.update schedule))).runOn h₁) ∧
      ∃ l : Life κ β ω, journaledAfter depth outside scripts = l.journaled ∧ l.Matches h ∧
        ∀ depth' schedule (h₁ h₂ : Hosting κ β (ω × Journal)), l.journaled.server.Settled h₁.server →
          (ServerAct.tick (ServerAct.invoke depth') schedule).runOn h₁ = (.ok (), h₂) →
          ∃ entries, h₂.outside.2 = h₁.outside.2 ++ entries ∧
            Blocks (.update schedule) h₁.outside.2.length (l.heard schedule) entries ∧
            outermost 0 entries = (l.heard schedule).map (·, .update schedule)) := by
  -- the parts are lemmas of their own; with a journal the server is another reading of the same life
  refine ⟨timely_journal depth outside scripts, not_updated_of_building hh, fun queue halt h' hfresh horder =>
    ServerAct.building_of_finish (ServerAct.invoke_abides depth) hfresh horder, fun hbuilt => ⟨?_, ?_, ?_⟩⟩
  · exact fun depth' script h₁ hsettled =>
      trans_of Server.Settled hsettled (ServerAct.run_settled depth' script h₁)
  · exact fun depth' schedule h₁ hsettled => tick_of_settled hh hbuilt hsettled depth' schedule
  · obtain ⟨l, hl, hmoves⟩ := Life.exists_course depth outside scripts
    have hmatches := Life.matches_of_journaled hl
    rw [hh] at hmatches
    have hfinished : l.roster.state = .built := hmatches.state.trans hbuilt
    have hsound := (Life.sound_start outside).moves hmoves
    exact ⟨l, hl, hmatches, fun depth' schedule h₁ h₂ hsettled hrun =>
      Life.tick_of_settled hsound hfinished hsettled hrun⟩

end Histories

/-! ## A plugin that hears a schedule twice -/

namespace Sample

def beat : ScheduleId := ⟨"host::Beat"⟩

/-- It mentions its schedule twice, and publishes something whenever it is updated. -/
def metronome : Plugin Unit (fun _ => Nat) Unit :=
  .mk ⟨⟨"host::Metronome"⟩, "host::metronome", ⟨0, 1, 0⟩, "host::Metronome", [], true, [beat, beat]⟩
    .done .done .done fun _ => .lookUp () fun count => .publish () (count.getD 0 + 1) fun _ => .done

theorem finish_metronome : (ServerAct.finish (ServerAct.invoke 3) 3).runOn
    (Hosting.after 3 ⟨Server.empty, ()⟩ [.add metronome .done]) =
      (.ok (), ⟨⟨Resources.empty, [], [metronome], [metronome.info.id], [(beat, [0, 0])], .built⟩, ()⟩) := by
  have horder : (Hosting.after 3 ⟨Server.empty, ()⟩ [.add metronome .done]).server.inOrder = .ok [metronome] := by
    show (dependencyOrder [metronome.info] []).map _ = _
    rw [dependencyOrder_of_independent (by decide)]
    rfl
  let h : Hosting Unit (fun _ => Nat) Unit :=
    ⟨⟨Resources.empty, [], [metronome], [metronome.info.id], [], .building⟩, ()⟩
  have hready : (ServerAct.readyFrom (ServerAct.invoke 3) 3 0).runOn h = (.ok (), h) := by
    refine ServerAct.readyFrom_of_idle _ (fun plugin hplugin => ?_) (by decide)
    obtain rfl := List.mem_singleton.mp hplugin
    rfl
  exact ServerAct.finish_eq_ok _ rfl horder rfl hready

end Sample

/-- A tick updates it twice. -/
theorem Hosting.ticks_dispatched_twice : ∃ h, Hosting.after 3 ⟨Server.empty, ()⟩
      [.add Sample.metronome .done, .finish .done] = h ∧ h.server.state = .built ∧
    h.server.audience Sample.beat = [Sample.metronome, Sample.metronome] ∧
    (ServerAct.tick (ServerAct.invoke 3) Sample.beat).runOn h =
      ((h.server.audience Sample.beat).forM (ServerAct.invoke 3 · (.update Sample.beat))).runOn h := by
  have hfinish : Hosting.after 3 ⟨Server.empty, ()⟩ [.add Sample.metronome .done, .finish .done] =
      ⟨⟨Resources.empty, [], [Sample.metronome], [Sample.metronome.info.id], [(Sample.beat, [0, 0])], .built⟩,
        ()⟩ := congrArg Prod.snd (Effect.runOn_bind_ok Sample.finish_metronome)
  obtain ⟨-, -, -, hfinished⟩ := Hosting.ticks_dispatched hfinish
  obtain ⟨-, htick, -⟩ := hfinished rfl
  exact ⟨_, hfinish, rfl, rfl, htick 3 Sample.beat _ (refl_of Server.Settled _)⟩

end LiveSwap
