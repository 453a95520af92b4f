import LiveSwap.Server.Run
import LiveSwap.Proofs.Effect

/-!
# What the operations of a server come to

Every operation of a server as an equation between runs: what it does before the first call that it
makes, the calls that it makes, and what it does after the last one. Proofs about servers start from
these equations and not from the definitions.

* **`ServerAct.runOn_add`** — an addition is refused, or queued, or built on the spot.
* **`ServerAct.runOn_takeQueue`** — taking the queue empties it, in order or not.
* **`ServerAct.runOn_finish`** — finishing is refused, or loses the queue, or builds and readies.
* **`ServerAct.runOn_readyFrom`**, **`ServerAct.runOn_tick`**, **`ServerAct.runOn_cleanup`** — the loops
  over the built plugins.
-/

namespace LiveSwap

variable {κ : Type} {β : κ → Type} {ω : Type}

/-! ## Changes of a server -/

namespace Server

def enqueue (s : Server κ β ω) (plugin : Plugin κ β ω) : Server κ β ω :=
  { s with pending := s.pending ++ [plugin] }

def enroll (s : Server κ β ω) (plugin : Plugin κ β ω) : Server κ β ω :=
  { s with built := s.built ++ [plugin] }

def unqueued (s : Server κ β ω) : Server κ β ω := { s with pending := [] }

/-- The queue is taken away to be built. -/
def started (s : Server κ β ω) : Server κ β ω := { s with pending := [], state := .building }

def concluded (s : Server κ β ω) : Server κ β ω :=
  { s with listeners := listenersOf (s.built.map (·.info)), state := .built }

/-- The queue in the order in which it can be built. -/
def inOrder (s : Server κ β ω) : Except OrderError (List (Plugin κ β ω)) :=
  (dependencyOrder (s.pending.map (·.info)) (s.built.map (·.info.id))).map
    (·.filterMap (s.pending[·]?))

/-- The server is finished, or the plugin is unique and its id is noted. -/
def Closed (s : Server κ β ω) (info : PluginInfo) : Prop :=
  s.state = .built ∨ info.isUnique = true ∧ info.id ∈ s.added

theorem refusal?_of_built {s : Server κ β ω} (h : s.state = .built) (info : PluginInfo) :
    s.refusal? info = some (.alreadyBuilt info.name) := by
  rw [refusal?, if_pos h]

variable {s : Server κ β ω} {info : PluginInfo}

theorem refusal?_eq_none_iff : s.refusal? info = none ↔ ¬s.Closed info := by
  unfold refusal? Closed
  by_cases hbuilt : s.state = .built
  · simp [hbuilt]
  · by_cases hdouble : info.isUnique = true ∧ info.id ∈ s.added
    · simp [hbuilt, hdouble]
    · rw [if_neg hbuilt, if_neg hdouble]
      simp [hbuilt, hdouble]

theorem exists_refusal (h : s.Closed info) : ∃ refusal, s.refusal? info = some refusal := by
  cases hrefusal : s.refusal? info with
  | some refusal => exact ⟨refusal, rfl⟩
  | none => exact absurd h (refusal?_eq_none_iff.mp hrefusal)

theorem state_of_open (hopen : s.refusal? info = none) (hstarted : s.state ≠ .notStarted) :
    s.state = .building := by
  cases hstate : s.state with
  | notStarted => exact absurd hstate hstarted
  | building => rfl
  | built => exact absurd (.inl hstate) (refusal?_eq_none_iff.mp hopen)

end Server

def Hosting.update (h : Hosting κ β ω) (f : Server κ β ω → Server κ β ω) : Hosting κ β ω :=
  { h with server := f h.server }

namespace ServerAct

variable (call : Plugin κ β ω → Phase → ServerAct κ β ω Unit)

/-! ## Adding -/

/-- Builds a plugin, which counts as built when the call has returned. -/
def construct (plugin : Plugin κ β ω) : ServerAct κ β ω Unit := do
  call plugin .build
  updateServer (·.enroll plugin)

theorem runOn_updateServer (f : Server κ β ω → Server κ β ω) (h : Hosting κ β ω) :
    (updateServer f : ServerAct κ β ω Unit).runOn h = (.ok (), h.update f) := rfl

theorem runOn_server_bind {α : Type} (f : Server κ β ω → ServerAct κ β ω α) (h : Hosting κ β ω) :
    (server >>= f).runOn h = (f h.server).runOn h := rfl

/-- **An addition** is refused, built on the spot while the server builds, and queued otherwise. -/
theorem runOn_add (plugin : Plugin κ β ω) (h : Hosting κ β ω) : (add call plugin).runOn h =
    match h.server.refusal? plugin.info with
    | some refusal => (.error (.panic (.text refusal.message)), h)
    | none =>
      if h.server.state = .building then
        (construct call plugin).runOn (h.update (·.noteId plugin.info.id))
      else (.ok (), h.update fun s => (s.noteId plugin.info.id).enqueue plugin) := by
  show ((match h.server.refusal? plugin.info with
    | some refusal => Effect.panic refusal.message
    | none => _) : ServerAct κ β ω Unit).runOn h = _
  cases h.server.refusal? plugin.info with
  | some refusal => rfl
  | none =>
    -- the id is noted before the state is looked at
    show ((if h.server.state = .building then _ else _) : ServerAct κ β ω Unit).runOn
      (h.update (·.noteId plugin.info.id)) = _
    by_cases hstate : h.server.state = .building
    · rw [if_pos hstate, if_pos hstate]
      rfl
    · rw [if_neg hstate, if_neg hstate]
      rfl

/-! ## Finishing -/

theorem buildEach_cons (plugin : Plugin κ β ω) (plugins : List (Plugin κ β ω)) :
    buildEach call (plugin :: plugins) = construct call plugin >>= fun _ => buildEach call plugins := by
  rw [construct, bind_assoc]
  rfl

/-- Builds an ordered queue and readies everything. -/
def complete (rounds : Nat) (queue : List (Plugin κ β ω)) : ServerAct κ β ω Unit := do
  buildEach call queue
  readyFrom call rounds 0
  updateServer (·.concluded)

/-- **Taking the queue** empties it, whether or not it can be ordered. -/
theorem runOn_takeQueue (h : Hosting κ β ω) : takeQueue.runOn h =
    (match h.server.inOrder with
      | .error error => .error (.panic (.text error.message))
      | .ok queue => .ok queue, h.update (·.unqueued)) := by
  rw [takeQueue, runOn_server_bind, Effect.runOn_bind_ok (runOn_updateServer _ h), Server.inOrder]
  cases dependencyOrder (h.server.pending.map (·.info)) (h.server.built.map (·.info.id)) with
  | error error => rfl
  | ok places => rfl

/-- **Finishing** is refused once building has started; otherwise the queue is taken, and lost if it
cannot be ordered. -/
theorem runOn_finish (rounds : Nat) (h : Hosting κ β ω) : (finish call rounds).runOn h =
    if h.server.state = .notStarted then
      match h.server.inOrder with
      | .error error => (.error (.panic (.text error.message)), h.update (·.unqueued))
      | .ok queue => (complete call rounds queue).runOn (h.update (·.started))
    else
      (.error (.panic (.text "Server::finish() was already called. A server is built once.")), h) := by
  show ((if h.server.state ≠ .notStarted then Effect.panic _ >>= fun _ => _ else takeQueue >>= _) :
    ServerAct κ β ω Unit).runOn h = _
  by_cases hstate : h.server.state = .notStarted
  · -- the queue is gone before it is known whether it can be ordered
    rw [if_neg (not_not_intro hstate), if_pos hstate, Effect.runOn_bind, runOn_takeQueue]
    cases h.server.inOrder with
    | error error => rfl
    | ok queue => rfl
  · rw [if_pos hstate, if_neg hstate]
    rfl

theorem runOn_finish_eq_ok_iff {rounds : Nat} {h h' : Hosting κ β ω} :
    (finish call rounds).runOn h = (.ok (), h') ↔ h.server.state = .notStarted ∧
      ∃ queue, h.server.inOrder = .ok queue ∧
        (complete call rounds queue).runOn (h.update (·.started)) = (.ok (), h') := by
  rw [runOn_finish]
  by_cases hstate : h.server.state = .notStarted
  · cases h.server.inOrder <;> simp [hstate]
  · simp [hstate]

/-! ## Calling built plugins -/

def callAt (phase : Phase) (place : Nat) : ServerAct κ β ω Unit := do
  call (← builtAt place) phase

theorem runOn_callAt (phase : Phase) (place : Nat) (h : Hosting κ β ω) :
    (callAt call phase place).runOn h =
      match h.server.built[place]? with
      | some plugin => (call plugin phase).runOn h
      | none => (.error (.panic (.text ("index out of bounds: the len is "
          ++ toString h.server.built.length ++ " but the index is " ++ toString place))), h) := by
  rw [callAt, builtAt, bind_assoc, runOn_server_bind]
  dsimp only
  cases h.server.built[place]? with
  | none => rfl
  | some plugin => rfl

/-- **The ready loop** ends behind the last built plugin. -/
theorem runOn_readyFrom (rounds place : Nat) (h : Hosting κ β ω) :
    (readyFrom call rounds place).runOn h =
      match h.server.built[place]?, rounds with
      | none, _ => (.ok (), h)
      | some _, 0 => (.error .endless, h)
      | some plugin, rounds + 1 =>
        (call plugin .ready >>= fun _ => readyFrom call rounds (place + 1)).runOn h := by
  rw [readyFrom, runOn_server_bind]
  cases h.server.built[place]? with
  | none => rfl
  | some plugin =>
    cases rounds with
    | zero => rfl
    | succ rounds => rfl

theorem readyFrom_of_none {rounds place : Nat} {h : Hosting κ β ω}
    (hplace : h.server.built[place]? = none) : (readyFrom call rounds place).runOn h = (.ok (), h) := by
  rw [runOn_readyFrom, hplace]

theorem readyFrom_of_some {rounds place : Nat} {h h' : Hosting κ β ω} {plugin : Plugin κ β ω}
    (hplace : h.server.built[place]? = some plugin) (hready : (call plugin .ready).runOn h = (.ok (), h')) :
    (readyFrom call (rounds + 1) place).runOn h = (readyFrom call rounds (place + 1)).runOn h' := by
  rw [runOn_readyFrom, hplace]
  exact Effect.runOn_bind_ok hready

theorem readyFrom_of_idle {rounds place : Nat} {h : Hosting κ β ω}
    (hidle : ∀ plugin ∈ h.server.built, (call plugin .ready).runOn h = (.ok (), h))
    (henough : h.server.built.length ≤ place + rounds) :
    (readyFrom call rounds place).runOn h = (.ok (), h) := by
  induction rounds generalizing place with
  | zero => exact readyFrom_of_none call (List.getElem?_eq_none henough)
  | succ rounds ih =>
    cases hplace : h.server.built[place]? with
    | none => exact readyFrom_of_none call hplace
    | some plugin =>
      rw [readyFrom_of_some call hplace (hidle plugin (List.mem_of_getElem? hplace))]
      exact ih (by omega)

theorem finish_eq_ok {rounds : Nat} {h h₁ h₂ : Hosting κ β ω} {queue : List (Plugin κ β ω)}
    (hfresh : h.server.state = .notStarted) (horder : h.server.inOrder = .ok queue)
    (hbuild : (buildEach call queue).runOn (h.update (·.started)) = (.ok (), h₁))
    (hready : (readyFrom call rounds 0).runOn h₁ = (.ok (), h₂)) :
    (finish call rounds).runOn h = (.ok (), h₂.update (·.concluded)) := by
  refine (runOn_finish_eq_ok_iff call).mpr ⟨hfresh, queue, horder, ?_⟩
  rw [complete, Effect.runOn_bind_ok hbuild, Effect.runOn_bind_ok hready, runOn_updateServer]

/-- **A tick** calls the places that listen, in turn. -/
theorem runOn_tick (schedule : ScheduleId) (h : Hosting κ β ω) : (tick call schedule).runOn h =
    (((h.server.listeners.lookup schedule).getD []).forM (callAt call (.update schedule))).runOn h := by
  rw [tick, runOn_server_bind]
  cases h.server.listeners.lookup schedule with
  | none => rfl
  | some places => rfl

/-- **A cleanup** calls the places that are built by now, last built first. -/
theorem runOn_cleanup (h : Hosting κ β ω) : (cleanup call).runOn h =
    ((List.range h.server.built.length).reverse.forM (callAt call .cleanup)).runOn h := rfl

/-! ## Following scripts -/

theorem invoke_succ [DecidableEq κ] (depth : Nat) (plugin : Plugin κ β ω) (phase : Phase) :
    invoke (depth + 1) plugin phase = run depth (plugin.script phase) := rfl

end ServerAct

end LiveSwap
