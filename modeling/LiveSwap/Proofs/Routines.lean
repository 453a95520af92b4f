import LiveSwap.Proofs.ServerSteps

/-!
# What plugins do when they are called or asked

Whoever has a server at hand can ask it for one thing after the other, and go on after a panic. That is a
*routine*. Plugins are also asked things while a server is finished: what they depend on, and which schedules
they want to hear of. Here their answers are code as well, so that they can panic and leave a server behind
that is half finished.

* **`ServerAct.finishAsking`** — finishing, with the answers asked for one by one.
* **`ServerAct.finishAsking_declared`** — it is `ServerAct.finish` if plugins answer what they declare.
* **`Routine`** — what can be done with a server.
* **`Troupe`** — plugins that do anything of the kind when they are called, to any depth.
* **`Troupe.scripted`** — plugins that follow their scripts.
-/

namespace LiveSwap

variable {κ : Type} {β : κ → Type} {ω : Type} {α γ : Type}

/-! ## Answers -/

/-- What plugins answer. An answer may look at what goes on outside the server and change it, and it may panic;
the server itself is out of its reach. -/
structure Answers (κ : Type) (β : κ → Type) (ω : Type) where
  /-- The queue in the order in which it is built, given what is built already; the plugins in the queue are
  asked what they depend on. -/
  order : List (Plugin κ β ω) → List (Plugin κ β ω) → Effect ω (List (Plugin κ β ω))
  /-- The schedules on which a plugin wants to be updated. -/
  schedules : Plugin κ β ω → Effect ω (List ScheduleId)

/-- Plugins answer what they declare. -/
def Answers.declared : Answers κ β ω where
  order queue built :=
    match dependencyOrder (queue.map (·.info)) (built.map (·.info.id)) with
    | .ok places => pure (places.filterMap (queue[·]?))
    | .error error => Effect.panic error.message
  schedules plugin := pure plugin.info.schedules

namespace Server

def withListeners (s : Server κ β ω) (listeners : List (ScheduleId × List Nat)) : Server κ β ω :=
  { s with listeners := listeners }

/-- A place is listed under a schedule. -/
def listed (s : Server κ β ω) (schedule : ScheduleId) (place : Nat) : Server κ β ω :=
  s.withListeners (listen s.listeners schedule place)

def inState (s : Server κ β ω) (state : BuildState) : Server κ β ω := { s with state := state }

end Server

@[simp] theorem Hosting.outside_update (h : Hosting κ β ω) (f : Server κ β ω → Server κ β ω) :
    (h.update f).outside = h.outside := rfl

namespace ServerAct

theorem runOn_outside (act : Effect ω α) (h : Hosting κ β ω) : (outside act : ServerAct κ β ω α).runOn h =
    ((act.runOn h.outside).1, ⟨h.server, (act.runOn h.outside).2⟩) := by
  rw [outside, Effect.runOn_onPart]

/-! ## Finishing -/

section Asking

variable (answers : Answers κ β ω)

/-- Lists a plugin and its place under the schedules that it answers. -/
def listPlace (entry : Plugin κ β ω × Nat) : ServerAct κ β ω Unit := do
  let schedules ← outside (answers.schedules entry.1)
  schedules.forM fun schedule => updateServer (·.listed schedule entry.2)

/-- Asks the built plugins in turn for their schedules. -/
def indexBuilt : ServerAct κ β ω Unit := do
  updateServer (·.withListeners [])
  (← server).built.zipIdx.forM (listPlace answers)

variable (call : Plugin κ β ω → Phase → ServerAct κ β ω Unit)

/-- Builds an ordered queue, readies everything and asks for schedules. -/
def completeAsking (rounds : Nat) (queue : List (Plugin κ β ω)) : ServerAct κ β ω Unit := do
  buildEach call queue
  readyFrom call rounds 0
  indexBuilt answers
  updateServer (·.inState .built)

/-- Builds and readies every added plugin. -/
def finishAsking (rounds : Nat) : ServerAct κ β ω Unit := do
  if (← server).state ≠ .notStarted then
    Effect.panic "Server::finish() was already called. A server is built once."
  let s ← server
  updateServer (·.unqueued)
  let queue ← outside (answers.order s.pending s.built)
  updateServer (·.inState .building)
  completeAsking answers call rounds queue

/-- **Finishing, with answers asked for**: the queue is gone when its plugins are asked. -/
theorem runOn_finishAsking (rounds : Nat) (h : Hosting κ β ω) : (finishAsking answers call rounds).runOn h =
    if h.server.state = .notStarted then
      match (answers.order h.server.pending h.server.built).runOn h.outside with
      | (.error halt, outside) => (.error halt, ⟨h.server.unqueued, outside⟩)
      | (.ok queue, outside) => (completeAsking answers call rounds queue).runOn ⟨h.server.started, outside⟩
    else
      (.error (.panic (.text "Server::finish() was already called. A server is built once.")), h) := by
  show ((if h.server.state ≠ .notStarted then Effect.panic _ >>= fun _ => _ else server >>= _) :
    ServerAct κ β ω Unit).runOn h = _
  by_cases hstate : h.server.state = .notStarted
  · rw [if_neg (not_not_intro hstate), if_pos hstate, runOn_server_bind,
      Effect.runOn_bind_ok (runOn_updateServer _ h), Effect.runOn_bind, runOn_outside, Hosting.outside_update]
    rcases (answers.order h.server.pending h.server.built).runOn h.outside with ⟨halt | queue, o⟩
    · rfl
    · rfl
  · rw [if_pos hstate, if_neg hstate]
    rfl

end Asking

/-! ### Declared answers -/

theorem runOn_list_all (schedules : List ScheduleId) (place : Nat) (h : Hosting κ β ω) :
    (schedules.forM fun schedule => updateServer (·.listed schedule place)).runOn h =
      (.ok (), h.update fun s => s.withListeners (schedules.foldl (Server.listen · · place) s.listeners)) := by
  induction schedules generalizing h with
  | nil => rfl
  | cons schedule schedules ih =>
    show (updateServer (·.listed schedule place) >>= fun _ => schedules.forM _).runOn h = _
    rw [Effect.runOn_bind_ok (runOn_updateServer _ h), ih]
    rfl

theorem runOn_listPlaces_declared (entries : List (Plugin κ β ω × Nat)) (h : Hosting κ β ω) :
    (entries.forM (listPlace .declared)).runOn h =
      (.ok (), h.update fun s => s.withListeners (entries.foldl
        (fun ls entry => entry.1.info.schedules.foldl (Server.listen · · entry.2) ls) s.listeners)) := by
  induction entries generalizing h with
  | nil => rfl
  | cons entry entries ih =>
    have hfirst : (listPlace .declared entry).runOn h = _ := runOn_list_all entry.1.info.schedules entry.2 h
    show (listPlace .declared entry >>= fun _ => entries.forM _).runOn h = _
    rw [Effect.runOn_bind_ok hfirst, ih]
    rfl

theorem runOn_indexBuilt_declared (h : Hosting κ β ω) : (indexBuilt .declared).runOn h =
    (.ok (), h.update fun s => s.withListeners (Server.listenersOf (s.built.map (·.info)))) := by
  have hlisteners : Server.listenersOf (h.server.built.map (·.info)) = h.server.built.zipIdx.foldl
      (fun ls entry => entry.1.info.schedules.foldl (Server.listen · · entry.2) ls) [] := by
    rw [Server.listenersOf, List.zipIdx_map, List.foldl_map]
    rfl
  rw [indexBuilt, Effect.runOn_bind_ok (runOn_updateServer _ h), runOn_server_bind]
  refine (runOn_listPlaces_declared h.server.built.zipIdx (h.update (·.withListeners []))).trans ?_
  simp only [Hosting.update, Server.withListeners, hlisteners]

theorem completeAsking_declared (call : Plugin κ β ω → Phase → ServerAct κ β ω Unit) (rounds : Nat)
    (queue : List (Plugin κ β ω)) : completeAsking .declared call rounds queue = complete call rounds queue := by
  have hindex : (indexBuilt .declared >>= fun _ => updateServer (·.inState .built)) =
      (updateServer (·.concluded) : ServerAct κ β ω Unit) := by
    refine Effect.eq_of_runOn fun h => ?_
    rw [Effect.runOn_bind_ok (runOn_indexBuilt_declared h)]
    rfl
  rw [completeAsking, hindex, complete]

theorem runOn_order_declared (s : Server κ β ω) (o : ω) : (Answers.declared.order s.pending s.built).runOn o =
    (match s.inOrder with
      | .error error => .error (.panic (.text error.message))
      | .ok queue => .ok queue, o) := by
  show (match dependencyOrder (s.pending.map (·.info)) (s.built.map (·.info.id)) with
    | .ok places => pure (places.filterMap (s.pending[·]?))
    | .error error => Effect.panic error.message : Effect ω (List (Plugin κ β ω))).runOn o = _
  rw [Server.inOrder]
  cases dependencyOrder (s.pending.map (·.info)) (s.built.map (·.info.id)) with
  | error error => rfl
  | ok places => rfl

/-- **Finishing** is asking plugins for what they declare. -/
theorem finishAsking_declared (call : Plugin κ β ω → Phase → ServerAct κ β ω Unit) (rounds : Nat) :
    finishAsking .declared call rounds = finish call rounds := by
  refine Effect.eq_of_runOn fun h => ?_
  rw [runOn_finishAsking, runOn_finish, runOn_order_declared]
  cases h.server.inOrder with
  | error error => rfl
  | ok queue =>
    dsimp only
    rw [completeAsking_declared]
    rfl

end ServerAct

/-! ## Routines -/

/-- What can be done with a server: asking it for one thing after the other, where what is asked for may depend
on all that is seen, and a panic need not be the end. -/
inductive Routine (answers : Answers κ β ω) (call : Plugin κ β ω → Phase → ServerAct κ β ω Unit) :
    {α : Type} → ServerAct κ β ω α → Prop where
  | done {α : Type} (a : α) : Routine answers call (pure a)
  | halt {α : Type} (halt : Halt) : Routine answers call (throw halt : ServerAct κ β ω α)
  | look : Routine answers call get
  /-- Something goes on outside the server. -/
  | outside {α : Type} (act : Effect ω α) : Routine answers call (ServerAct.outside act)
  | publish (globals : Resources κ β) : Routine answers call (ServerAct.updateServer ({ · with globals := globals }))
  | add (plugin : Plugin κ β ω) : Routine answers call (ServerAct.add call plugin)
  | finish (rounds : Nat) : Routine answers call (ServerAct.finishAsking answers call rounds)
  | tick (schedule : ScheduleId) : Routine answers call (ServerAct.tick call schedule)
  | cleanup : Routine answers call (ServerAct.cleanup call)
  | bind {α γ : Type} {x : ServerAct κ β ω α} {f : α → ServerAct κ β ω γ} (hx : Routine answers call x)
      (hf : ∀ a, Routine answers call (f a)) : Routine answers call (x >>= f)
  /-- A panic is caught. -/
  | attempt {α : Type} {act : ServerAct κ β ω α} (h : Routine answers call act) :
      Routine answers call (Effect.attempt act)

/-- Plugins, with what they answer and with what they do when they are called. A call of depth `n` may lead to
calls of depth below `n`. -/
structure Troupe (κ : Type) (β : κ → Type) (ω : Type) where
  answers : Answers κ β ω
  call : Nat → Plugin κ β ω → Phase → ServerAct κ β ω Unit
  deepest : ∀ plugin phase, call 0 plugin phase = throw .endless
  routine : ∀ depth plugin phase, Routine answers (call depth) (call (depth + 1) plugin phase)

section Scripts

variable {call : Plugin κ β ω → Phase → ServerAct κ β ω Unit}

theorem Routine.server {answers : Answers κ β ω} : Routine answers call ServerAct.server :=
  .bind .look fun h => .done h.server

variable [DecidableEq κ]

/-- **A script** is a routine. -/
theorem routine_exec (rounds : Nat) (script : Script κ β ω) :
    Routine .declared call (script.exec call rounds) := by
  -- scripts finish by what plugins declare
  have hfinish : Routine .declared call (ServerAct.finish call rounds) := by
    rw [← ServerAct.finishAsking_declared]
    exact .finish rounds
  induction script using Script.exec.induct with
  | case1 => exact .done ()
  | case2 payload => exact .halt _
  | case3 plugin next ih => exact (Routine.add plugin).bind fun _ => ih
  | case4 next ih => exact hfinish.bind fun _ => ih
  | case5 schedule next ih => exact (Routine.tick schedule).bind fun _ => ih
  | case6 next ih => exact Routine.cleanup.bind fun _ => ih
  | case7 next ih => exact Routine.server.bind fun s => ih _
  | case8 k value next ih => exact Routine.server.bind fun s => (Routine.publish _).bind fun _ => ih _
  | case9 k next ih => exact Routine.server.bind fun s => ih _
  | case10 act next ih => exact (Routine.outside act).bind fun _ => ih
  | case11 next ih => exact Routine.look.bind fun h => ih _
  | case12 body next hbody hnext => exact hbody.attempt.bind fun result => hnext result

/-- **Plugins that follow their scripts.** -/
def Troupe.scripted : Troupe κ β ω where
  answers := .declared
  call := ServerAct.invoke
  deepest _ _ := rfl
  routine depth plugin phase := routine_exec depth (plugin.script phase)

end Scripts

end LiveSwap
