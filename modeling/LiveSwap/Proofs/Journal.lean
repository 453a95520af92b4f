import LiveSwap.Proofs.ServerSteps

/-!
# Journals

Plugins that keep a journal: each is given a number when it is offered to the server, and writes down
when it is called and how the call ends, be it by a panic. Its additions and its attempts to finish the
server are written down as well. Apart from that, a journaled plugin does what the plugin does.

* **`Script.journaled`**, **`Plugin.journaled`** — the same behaviour, with a journal.
* **`Life`** — a server whose plugins have numbers, with two readings: `Life.plain`, where the plugins
  are as they are, and `Life.journaled`, where they keep the journal.
* **`ServerAct.Mirrors`** — an action on journaled plugins that does what another one does on the plain
  ones; closed under sequencing.
* **`ServerAct.mirrors_invoke`**, **`ServerAct.mirrors_run`** — calls and whole scripts with a journal
  mirror those without.
-/

namespace LiveSwap

/-! ## Entries -/

/-- What is written down about the life of a server. Plugins go by their numbers. -/
inductive Entry where
  /-- A plugin is about to be added. -/
  | offered (number : Nat) (info : PluginInfo)
  /-- Its addition has returned. -/
  | accepted (number : Nat)
  | called (number : Nat) (phase : Phase)
  | returned (number : Nat) (phase : Phase)
  /-- A call has ended with a panic. -/
  | panicked (number : Nat) (phase : Phase)
  /-- The server is about to be finished. -/
  | finishing
  | finished
  deriving DecidableEq, Repr

abbrev Journal := List Entry

variable {κ : Type} {β : κ → Type} {ω : Type}

/-- Writes an entry behind the others. -/
def Entry.write (entry : Entry) : Effect (ω × Journal) Unit := modify fun o => (o.1, o.2 ++ [entry])

/-- An effect on the outside state, where there is a journal as well. -/
def besideJournal {α : Type} (act : Effect ω α) : Effect (ω × Journal) α :=
  act.onPart (·.1) fun outside o => (outside, o.2)

/-! ## Scripts and plugins with a journal -/

/-- How a call ends, once that has been written down. -/
def Script.ending (number : Nat) (phase : Phase) : Except Payload Unit → Script κ β (ω × Journal)
  | .ok _ => .perform (Entry.returned number phase).write .done
  | .error payload => .perform (Entry.panicked number phase).write (.panic payload)

/-- A script that is called as a method of the plugin with a number. -/
def Script.watched (script : Script κ β (ω × Journal)) (number : Nat) (phase : Phase) :
    Script κ β (ω × Journal) :=
  .perform (Entry.called number phase).write (.attempt script (Script.ending number phase))

mutual

/-- The plugin, under a number and with a journal. -/
def Plugin.journaled (number : Nat) : Plugin κ β ω → Plugin κ β (ω × Journal)
  | .mk info build ready cleanup update =>
    .mk info (build.journaled.watched number .build) (ready.journaled.watched number .ready)
      (cleanup.journaled.watched number .cleanup)
      fun schedule => (update schedule).journaled.watched number (.update schedule)

/-- The script, with a journal. A plugin's number is the place of the entry that it is offered with. -/
def Script.journaled : Script κ β ω → Script κ β (ω × Journal)
  | .done => .done
  | .panic payload => .panic payload
  | .add plugin next =>
    .inspect fun o => .perform (Entry.offered o.2.length plugin.info).write
      (.add (plugin.journaled o.2.length)
        (.perform (Entry.accepted o.2.length).write next.journaled))
  | .finish next =>
    .perform Entry.finishing.write (.finish (.perform Entry.finished.write next.journaled))
  | .tick schedule next => .tick schedule next.journaled
  | .cleanup next => .cleanup next.journaled
  | .isBuilt next => .isBuilt fun b => (next b).journaled
  | .publish k value next => .publish k value fun replaced => (next replaced).journaled
  | .lookUp k next => .lookUp k fun found => (next found).journaled
  | .perform act next => .perform (besideJournal act) next.journaled
  | .inspect next => .inspect fun o => (next o.1).journaled
  | .attempt body next => .attempt body.journaled fun result => (next result).journaled

end

@[simp] theorem Plugin.info_journaled (number : Nat) (plugin : Plugin κ β ω) :
    (plugin.journaled number).info = plugin.info := by
  cases plugin
  rw [journaled]
  rfl

theorem Plugin.script_journaled (number : Nat) (plugin : Plugin κ β ω) (phase : Phase) :
    (plugin.journaled number).script phase = (plugin.script phase).journaled.watched number phase := by
  cases plugin
  rw [journaled]
  cases phase <;> rfl

/-! ## Servers with numbered plugins -/

/-- A plugin that was offered to the server, with its number. -/
structure Entrant (κ : Type) (β : κ → Type) (ω : Type) where
  number : Nat
  plugin : Plugin κ β ω

/-- The plugin with its journal. -/
def Entrant.journaled (entrant : Entrant κ β ω) : Plugin κ β (ω × Journal) :=
  entrant.plugin.journaled entrant.number

@[simp] theorem Entrant.info_journaled (entrant : Entrant κ β ω) :
    entrant.journaled.info = entrant.plugin.info := Plugin.info_journaled _ _

/-- A server whose plugins have numbers. -/
structure Roster (κ : Type) (β : κ → Type) (ω : Type) where
  globals : Resources κ β
  pending : List (Entrant κ β ω)
  built : List (Entrant κ β ω)
  added : List PluginId
  listeners : List (ScheduleId × List Nat)
  state : BuildState

namespace Roster

/-- The server with its plugins in one of their readings. -/
def server {ω' : Type} (r : Roster κ β ω) (read : Entrant κ β ω → Plugin κ β ω') : Server κ β ω' :=
  ⟨r.globals, r.pending.map read, r.built.map read, r.added, r.listeners, r.state⟩

def plain (r : Roster κ β ω) : Server κ β ω := r.server (·.plugin)

def journaled (r : Roster κ β ω) : Server κ β (ω × Journal) := r.server (·.journaled)

def empty : Roster κ β ω := ⟨Resources.empty, [], [], [], [], .notStarted⟩

def noteId (r : Roster κ β ω) (id : PluginId) : Roster κ β ω :=
  { r with added := if id ∈ r.added then r.added else r.added ++ [id] }

def enqueue (r : Roster κ β ω) (entrant : Entrant κ β ω) : Roster κ β ω :=
  { r with pending := r.pending ++ [entrant] }

def enroll (r : Roster κ β ω) (entrant : Entrant κ β ω) : Roster κ β ω :=
  { r with built := r.built ++ [entrant] }

def unqueued (r : Roster κ β ω) : Roster κ β ω := { r with pending := [] }

def started (r : Roster κ β ω) : Roster κ β ω := { r with pending := [], state := .building }

def concluded (r : Roster κ β ω) : Roster κ β ω :=
  { r with listeners := Server.listenersOf (r.built.map (·.plugin.info)), state := .built }

/-- The queue in the order in which it can be built. -/
def inOrder (r : Roster κ β ω) : Except OrderError (List (Entrant κ β ω)) :=
  (dependencyOrder (r.pending.map (·.plugin.info)) (r.built.map (·.plugin.info.id))).map
    (·.filterMap (r.pending[·]?))

section Readings

variable {ω' : Type} (r : Roster κ β ω) (read : Entrant κ β ω → Plugin κ β ω')

theorem server_noteId (id : PluginId) : (r.noteId id).server read = (r.server read).noteId id := rfl

theorem server_enqueue (entrant : Entrant κ β ω) :
    (r.enqueue entrant).server read = (r.server read).enqueue (read entrant) := by
  simp [server, enqueue, Server.enqueue]

theorem server_enroll (entrant : Entrant κ β ω) :
    (r.enroll entrant).server read = (r.server read).enroll (read entrant) := by
  simp [server, enroll, Server.enroll]

variable {read} (hread : ∀ entrant, (read entrant).info = entrant.plugin.info)
include hread

theorem server_concluded : r.concluded.server read = (r.server read).concluded := by
  simp [server, concluded, Server.concluded, hread, Function.comp_def]

theorem server_inOrder : (r.server read).inOrder = r.inOrder.map (·.map read) := by
  have hqueue : (r.server read).pending.map (·.info) = r.pending.map (·.plugin.info) := by
    simp [server, hread, Function.comp_def]
  have hbuilt : (r.server read).built.map (·.info.id) = r.built.map (·.plugin.info.id) := by
    simp [server, hread, Function.comp_def]
  rw [Server.inOrder, inOrder, hqueue, hbuilt]
  cases dependencyOrder (r.pending.map (·.plugin.info)) (r.built.map (·.plugin.info.id)) with
  | error error => rfl
  | ok places => simp [server, Except.map, List.map_filterMap]

end Readings

end Roster

/-- A server whose plugins have numbers, with the state outside it and the journal. -/
structure Life (κ : Type) (β : κ → Type) (ω : Type) where
  roster : Roster κ β ω
  outside : ω
  journal : Journal

namespace Life

/-- The server without the journal. -/
def plain (l : Life κ β ω) : Hosting κ β ω := ⟨l.roster.plain, l.outside⟩

/-- The server whose plugins keep the journal. -/
def journaled (l : Life κ β ω) : Hosting κ β (ω × Journal) :=
  ⟨l.roster.journaled, l.outside, l.journal⟩

/-- An empty server with an empty journal. -/
def start (outside : ω) : Life κ β ω := ⟨Roster.empty, outside, []⟩

/-- The same life with one more entry. -/
def noted (l : Life κ β ω) (entry : Entry) : Life κ β ω := { l with journal := l.journal ++ [entry] }

def update (l : Life κ β ω) (f : Roster κ β ω → Roster κ β ω) : Life κ β ω :=
  { l with roster := f l.roster }

theorem getElem?_built_plain (l : Life κ β ω) (place : Nat) :
    l.plain.server.built[place]? = l.roster.built[place]?.map (·.plugin) := List.getElem?_map ..

theorem getElem?_built_journaled (l : Life κ β ω) (place : Nat) :
    l.journaled.server.built[place]? = l.roster.built[place]?.map (·.journaled) :=
  List.getElem?_map ..

@[simp] theorem length_built_plain (l : Life κ β ω) :
    l.plain.server.built.length = l.roster.built.length := List.length_map ..

@[simp] theorem length_built_journaled (l : Life κ β ω) :
    l.journaled.server.built.length = l.roster.built.length := List.length_map ..

end Life

namespace ServerAct

/-! ## Mirroring -/

variable {α γ : Type}

/-- On journaled plugins the first action does what the second one does on the plain ones. -/
def Mirrors (act' : ServerAct κ β (ω × Journal) α) (act : ServerAct κ β ω α) : Prop :=
  ∀ l : Life κ β ω, ∃ l' : Life κ β ω,
    act'.runOn l.journaled = ((act.runOn l.plain).1, l'.journaled) ∧ (act.runOn l.plain).2 = l'.plain

theorem mirrors_pure (a : α) :
    Mirrors (pure a : ServerAct κ β (ω × Journal) α) (pure a : ServerAct κ β ω α) :=
  fun l => ⟨l, rfl, rfl⟩

theorem mirrors_throw (halt : Halt) :
    Mirrors (throw halt : ServerAct κ β (ω × Journal) α) (throw halt : ServerAct κ β ω α) :=
  fun l => ⟨l, rfl, rfl⟩

theorem mirrors_updateServer {f' : Server κ β (ω × Journal) → Server κ β (ω × Journal)}
    {f : Server κ β ω → Server κ β ω} (g : Roster κ β ω → Roster κ β ω)
    (hf' : ∀ r : Roster κ β ω, f' r.journaled = (g r).journaled)
    (hf : ∀ r : Roster κ β ω, f r.plain = (g r).plain) :
    Mirrors (updateServer f' : ServerAct κ β (ω × Journal) Unit)
      (updateServer f : ServerAct κ β ω Unit) := by
  intro l
  refine ⟨l.update g, ?_, ?_⟩
  · show (Except.ok (), (⟨f' l.roster.journaled, l.outside, l.journal⟩ : Hosting κ β (ω × Journal))) = _
    rw [hf']
    rfl
  · show (⟨f l.roster.plain, l.outside⟩ : Hosting κ β ω) = _
    rw [hf]
    rfl

theorem mirrors_outside (act : Effect ω Unit) :
    Mirrors (outside (besideJournal act) : ServerAct κ β (ω × Journal) Unit)
      (outside act : ServerAct κ β ω Unit) := by
  intro l
  refine ⟨{ l with outside := (act.runOn l.outside).2 }, ?_, ?_⟩
  · rw [outside, outside, Effect.runOn_onPart, Effect.runOn_onPart, besideJournal, Effect.runOn_onPart]
    rfl
  · rw [outside, Effect.runOn_onPart]
    rfl

namespace Mirrors

theorem bind {x' : ServerAct κ β (ω × Journal) α} {x : ServerAct κ β ω α}
    {f' : α → ServerAct κ β (ω × Journal) γ} {f : α → ServerAct κ β ω γ} (hx : Mirrors x' x)
    (hf : ∀ a, Mirrors (f' a) (f a)) : Mirrors (x' >>= f') (x >>= f) := by
  intro l
  obtain ⟨m, hrun', hrun⟩ := hx l
  rw [Effect.runOn_bind, Effect.runOn_bind, hrun']
  rcases hresult : x.runOn l.plain with ⟨halt | a, h⟩
  · rw [hresult] at hrun
    exact ⟨m, rfl, hrun⟩
  · rw [hresult] at hrun
    obtain rfl : h = m.plain := hrun
    exact hf a m

theorem attempt {x' : ServerAct κ β (ω × Journal) α} {x : ServerAct κ β ω α} (hx : Mirrors x' x) :
    Mirrors (Effect.attempt x') (Effect.attempt x) := by
  intro l
  obtain ⟨m, hrun', hrun⟩ := hx l
  rw [Effect.runOn_attempt, Effect.runOn_attempt, hrun']
  rcases hresult : x.runOn l.plain with ⟨halt | a, h⟩
  · rw [hresult] at hrun
    cases halt <;> exact ⟨m, rfl, hrun⟩
  · rw [hresult] at hrun
    exact ⟨m, rfl, hrun⟩

/-- What is read is the same in both readings, up to the plugins and the journal. -/
theorem get_bind {f' : Hosting κ β (ω × Journal) → ServerAct κ β (ω × Journal) α}
    {f : Hosting κ β ω → ServerAct κ β ω α} (hf : ∀ l : Life κ β ω, Mirrors (f' l.journaled) (f l.plain)) :
    Mirrors (get >>= f') (get >>= f) := fun l => hf l l

theorem server_bind {f' : Server κ β (ω × Journal) → ServerAct κ β (ω × Journal) α}
    {f : Server κ β ω → ServerAct κ β ω α}
    (hf : ∀ r : Roster κ β ω, Mirrors (f' r.journaled) (f r.plain)) :
    Mirrors (server >>= f') (server >>= f) := fun l => hf l.roster l

theorem write_bind {f' : ServerAct κ β (ω × Journal) α} {act : ServerAct κ β ω α}
    (hf : Mirrors f' act) (entry : Entry) : Mirrors (outside entry.write >>= fun _ => f') act :=
  fun l => hf (l.noted entry)

theorem forM {act' : γ → ServerAct κ β (ω × Journal) Unit} {act : γ → ServerAct κ β ω Unit}
    (h : ∀ c, Mirrors (act' c) (act c)) : ∀ cs : List γ, Mirrors (cs.forM act') (cs.forM act)
  | [] => mirrors_pure ()
  | c :: cs => (h c).bind fun _ => forM h cs

end Mirrors

/-! ## The operations of a server -/

section Operations

variable {call' : Plugin κ β (ω × Journal) → Phase → ServerAct κ β (ω × Journal) Unit}
  {call : Plugin κ β ω → Phase → ServerAct κ β ω Unit}
  (hcall : ∀ (entrant : Entrant κ β ω) phase,
    Mirrors (call' entrant.journaled phase) (call entrant.plugin phase))
include hcall

theorem mirrors_construct (entrant : Entrant κ β ω) :
    Mirrors (construct call' entrant.journaled) (construct call entrant.plugin) := by
  refine (hcall entrant .build).bind fun _ => ?_
  exact mirrors_updateServer (·.enroll entrant) (fun r => (r.server_enroll _ entrant).symm)
    fun r => (r.server_enroll _ entrant).symm

theorem mirrors_add (entrant : Entrant κ β ω) :
    Mirrors (add call' entrant.journaled) (add call entrant.plugin) := by
  intro l
  rw [runOn_add, runOn_add, Entrant.info_journaled]
  have hrefusal : l.journaled.server.refusal? entrant.plugin.info =
      l.plain.server.refusal? entrant.plugin.info := rfl
  have hstate : l.journaled.server.state = l.plain.server.state := rfl
  rw [hrefusal, hstate]
  cases l.plain.server.refusal? entrant.plugin.info with
  | some refusal => exact ⟨l, rfl, rfl⟩
  | none =>
    -- while the server builds the addition goes on with a build call, else with the queue
    by_cases hbuilding : l.plain.server.state = .building
    · simp only [if_pos hbuilding]
      exact mirrors_construct hcall entrant (l.update (·.noteId entrant.plugin.info.id))
    · simp only [if_neg hbuilding]
      refine ⟨l.update fun r => (r.noteId entrant.plugin.info.id).enqueue entrant, ?_, ?_⟩
      · simp [Life.journaled, Life.update, Hosting.update, Roster.journaled, Roster.server_enqueue,
          Roster.server_noteId]
      · simp [Life.plain, Life.update, Hosting.update, Roster.plain, Roster.server_enqueue,
          Roster.server_noteId]

theorem mirrors_buildEach (entrants : List (Entrant κ β ω)) :
    Mirrors (buildEach call' (entrants.map (·.journaled)))
      (buildEach call (entrants.map (·.plugin))) := by
  induction entrants with
  | nil => exact mirrors_pure ()
  | cons entrant entrants ih =>
    rw [List.map_cons, List.map_cons, buildEach_cons, buildEach_cons]
    exact (mirrors_construct hcall entrant).bind fun _ => ih

theorem mirrors_callAt (phase : Phase) (place : Nat) :
    Mirrors (callAt call' phase place) (callAt call phase place) := by
  intro l
  rw [runOn_callAt, runOn_callAt, l.getElem?_built_journaled, l.getElem?_built_plain]
  cases l.roster.built[place]? with
  | none => exact ⟨l, by simp, rfl⟩
  | some entrant => exact hcall entrant phase l

theorem mirrors_readyFrom (rounds place : Nat) :
    Mirrors (readyFrom call' rounds place) (readyFrom call rounds place) := by
  -- both loops stop at the same place, because both readings have built equally many
  induction rounds generalizing place with
  | zero =>
    intro l
    rw [runOn_readyFrom, runOn_readyFrom, l.getElem?_built_journaled, l.getElem?_built_plain]
    cases l.roster.built[place]? with
    | none => exact ⟨l, rfl, rfl⟩
    | some entrant => exact ⟨l, rfl, rfl⟩
  | succ rounds ih =>
    intro l
    rw [runOn_readyFrom, runOn_readyFrom, l.getElem?_built_journaled, l.getElem?_built_plain]
    cases l.roster.built[place]? with
    | none => exact ⟨l, rfl, rfl⟩
    | some entrant => exact (hcall entrant .ready).bind (fun _ => ih (place + 1)) l

theorem mirrors_complete (rounds : Nat) (entrants : List (Entrant κ β ω)) :
    Mirrors (complete call' rounds (entrants.map (·.journaled)))
      (complete call rounds (entrants.map (·.plugin))) := by
  refine (mirrors_buildEach hcall entrants).bind fun _ => ?_
  refine (mirrors_readyFrom hcall rounds 0).bind fun _ => ?_
  exact mirrors_updateServer (·.concluded)
    (fun r => (r.server_concluded fun entrant => entrant.info_journaled).symm)
    fun r => (r.server_concluded fun _ => rfl).symm

theorem mirrors_finish (rounds : Nat) : Mirrors (finish call' rounds) (finish call rounds) := by
  intro l
  have horder' : l.journaled.server.inOrder = l.roster.inOrder.map (·.map (·.journaled)) :=
    l.roster.server_inOrder fun entrant => entrant.info_journaled
  have horder : l.plain.server.inOrder = l.roster.inOrder.map (·.map (·.plugin)) :=
    l.roster.server_inOrder fun _ => rfl
  have hstate : l.journaled.server.state = l.plain.server.state := rfl
  rw [runOn_finish, runOn_finish, horder', horder, hstate]
  -- orders agree in both readings, so both stop or both go on
  by_cases hfresh : l.plain.server.state = .notStarted
  · rw [if_pos hfresh, if_pos hfresh]
    cases l.roster.inOrder with
    | error error => exact ⟨l.update (·.unqueued), rfl, rfl⟩
    | ok queue => exact mirrors_complete hcall rounds queue (l.update (·.started))
  · rw [if_neg hfresh, if_neg hfresh]
    exact ⟨l, rfl, rfl⟩

theorem mirrors_tick (schedule : ScheduleId) : Mirrors (tick call' schedule) (tick call schedule) := by
  intro l
  rw [runOn_tick, runOn_tick]
  exact Mirrors.forM (mirrors_callAt hcall _) _ l

theorem mirrors_cleanup : Mirrors (cleanup call') (cleanup call) := by
  intro l
  rw [runOn_cleanup, runOn_cleanup, l.length_built_journaled, l.length_built_plain]
  exact Mirrors.forM (mirrors_callAt hcall _) _ l

/-- **A journaled script** mirrors the script. -/
theorem mirrors_exec [DecidableEq κ] (rounds : Nat) (script : Script κ β ω) :
    Mirrors (script.journaled.exec call' rounds) (script.exec call rounds) := by
  induction script using Script.exec.induct with
  | case1 => exact mirrors_pure ()
  | case2 payload => exact mirrors_throw _
  | case3 plugin next ih =>
    intro l
    -- the plugin is offered under the journal's length
    have hadd := mirrors_add hcall ⟨l.journal.length, plugin⟩
    exact Mirrors.write_bind (hadd.bind fun _ => Mirrors.write_bind ih _) _ l
  | case4 next ih =>
    exact Mirrors.write_bind ((mirrors_finish hcall rounds).bind fun _ => Mirrors.write_bind ih _) _
  | case5 schedule next ih => exact (mirrors_tick hcall schedule).bind fun _ => ih
  | case6 next ih => exact (mirrors_cleanup hcall).bind fun _ => ih
  | case7 next ih => exact Mirrors.server_bind fun r => ih r.plain
  | case8 k value next ih =>
    refine Mirrors.server_bind fun r => ?_
    refine Mirrors.bind ?_ fun _ => ih _
    exact mirrors_updateServer (fun t => { t with globals := (r.globals.insert k value).2 })
      (fun _ => rfl) fun _ => rfl
  | case9 k next ih => exact Mirrors.server_bind fun r => ih r.plain
  | case10 act next ih => exact (mirrors_outside act).bind fun _ => ih
  | case11 next ih => exact Mirrors.get_bind fun l => ih l.plain
  | case12 body next hbody hnext => exact hbody.attempt.bind fun result => hnext result

theorem mirrors_watched [DecidableEq κ] (rounds : Nat) (script : Script κ β ω) (number : Nat)
    (phase : Phase) :
    Mirrors ((script.journaled.watched number phase).exec call' rounds) (script.exec call rounds) := by
  -- the panic of a call is written down and goes on as if nobody had caught it
  rw [← Effect.attempt_bind_rethrow (script.exec call rounds)]
  refine Mirrors.write_bind ((mirrors_exec hcall rounds script).attempt.bind fun result => ?_) _
  cases result with
  | ok _ => exact Mirrors.write_bind (mirrors_pure ()) _
  | error payload => exact Mirrors.write_bind (mirrors_throw _) _

end Operations

section Calls

variable [DecidableEq κ]

/-- **A call of a journaled plugin** mirrors the call of the plugin. -/
theorem mirrors_invoke (depth : Nat) (entrant : Entrant κ β ω) (phase : Phase) :
    Mirrors (invoke depth entrant.journaled phase) (invoke depth entrant.plugin phase) := by
  induction depth generalizing entrant phase with
  | zero => exact mirrors_throw _
  | succ depth ih =>
    rw [invoke_succ, Entrant.journaled, Plugin.script_journaled]
    exact mirrors_watched ih depth _ _ _

/-- **A run with a journal** mirrors the run without. -/
theorem mirrors_run (depth : Nat) (script : Script κ β ω) :
    Mirrors (run depth script.journaled) (run depth script) :=
  mirrors_exec (mirrors_invoke depth) depth script

end Calls

end ServerAct

/-! ## Histories -/

section Histories

variable [DecidableEq κ]

/-- The server after scripts that were run on it one after the other; what a script halts with is
caught, and the next one runs on what it left behind. -/
def Hosting.after (depth : Nat) (h : Hosting κ β ω) (scripts : List (Script κ β ω)) : Hosting κ β ω :=
  scripts.foldl (fun h script => ((ServerAct.run depth script).runOn h).2) h

/-- A server after scripts that were run on it with a journal, when it was empty in the beginning. -/
def journaledAfter (depth : Nat) (outside : ω) (scripts : List (Script κ β ω)) :
    Hosting κ β (ω × Journal) :=
  (Life.start outside).journaled.after depth (scripts.map (·.journaled))

/-- The journal of scripts that are run on an empty server. -/
def journal (depth : Nat) (outside : ω) (scripts : List (Script κ β ω)) : Journal :=
  (journaledAfter depth outside scripts).outside.2

theorem Hosting.after_append (depth : Nat) (h : Hosting κ β ω) (scripts more : List (Script κ β ω)) :
    h.after depth (scripts ++ more) = (h.after depth scripts).after depth more :=
  List.foldl_append

/-- A history with a journal and the one without are two readings of one life. -/
theorem Life.exists_after (depth : Nat) (l : Life κ β ω) (scripts : List (Script κ β ω)) :
    ∃ l' : Life κ β ω, l.journaled.after depth (scripts.map (·.journaled)) = l'.journaled ∧
      l.plain.after depth scripts = l'.plain := by
  induction scripts generalizing l with
  | nil => exact ⟨l, rfl, rfl⟩
  | cons script scripts ih =>
    obtain ⟨m, hrun', hrun⟩ := ServerAct.mirrors_run depth script l
    obtain ⟨l', hafter', hafter⟩ := ih m
    refine ⟨l', ?_, ?_⟩
    · rw [← hafter', List.map_cons, Hosting.after, List.foldl_cons, hrun']
      rfl
    · rw [← hafter, Hosting.after, List.foldl_cons, hrun]
      rfl

end Histories

end LiveSwap
