import LiveSwap.Proofs.ServerSteps
import Mathlib.Order.Defs.Unbundled

/-!
# The way of a server

A server starts to build once and never goes back, and what it has built stays where it is. When it is
finished, nothing about its plugins changes any more. All this holds whatever plugins do, and also
where they halt.

* **`ServerAct.Within`** — an action that only ever changes the server along a relation, however it
  ends; closed under sequencing.
* **`ServerAct.invoke_grows`**, **`ServerAct.run_grows`** — building goes on or has not started:
  `Server.Grows`.
* **`ServerAct.invoke_settled`**, **`ServerAct.run_settled`** — a finished server keeps its plugins
  and its listeners: `Server.Settled`.
* **`ServerAct.invoke_abides`**, **`ServerAct.run_abides`** — whatever is done while a server builds, it
  goes on to build until it is concluded from outside: `Server.Abides`.
-/

namespace LiveSwap

variable {κ : Type} {β : κ → Type} {ω : Type} {α γ : Type}

/-! ## Relations between servers -/

namespace Server

/-- What was built stays built, at its place, and a server that has started to build does not go
back. -/
structure Grows (s s' : Server κ β ω) : Prop where
  built : s.built <+: s'.built
  started : s.state ≠ .notStarted → s'.state ≠ .notStarted

instance : IsPreorder (Server κ β ω) Grows where
  refl _ := ⟨List.prefix_refl _, id⟩
  trans _ _ _ h h' := ⟨h.built.trans h'.built, h'.started ∘ h.started⟩

theorem grows_noteId (s : Server κ β ω) (id : PluginId) : s.Grows (s.noteId id) :=
  ⟨List.prefix_refl _, fun h => h⟩

theorem grows_enqueue (s : Server κ β ω) (plugin : Plugin κ β ω) : s.Grows (s.enqueue plugin) :=
  ⟨List.prefix_refl _, fun h => h⟩

theorem grows_enroll (s : Server κ β ω) (plugin : Plugin κ β ω) : s.Grows (s.enroll plugin) :=
  ⟨List.prefix_append _ _, fun h => h⟩

theorem grows_unqueued (s : Server κ β ω) : s.Grows s.unqueued := ⟨List.prefix_refl _, fun h => h⟩

theorem grows_started (s : Server κ β ω) : s.Grows s.started := ⟨List.prefix_refl _, fun _ => nofun⟩

theorem grows_concluded (s : Server κ β ω) : s.Grows s.concluded :=
  ⟨List.prefix_refl _, fun _ => nofun⟩

/-- A finished server keeps its plugins and its listeners. -/
def Settled (s s' : Server κ β ω) : Prop :=
  s.state = .built → s'.state = .built ∧ s'.built = s.built ∧ s'.pending = s.pending ∧
    s'.listeners = s.listeners

instance : IsPreorder (Server κ β ω) Settled where
  refl _ h := ⟨h, rfl, rfl, rfl⟩
  trans _ _ _ h h' := by
    intro hs
    obtain ⟨ht, hbuilt, hpending, hlisteners⟩ := h hs
    obtain ⟨hu, hbuilt', hpending', hlisteners'⟩ := h' ht
    exact ⟨hu, hbuilt'.trans hbuilt, hpending'.trans hpending, hlisteners'.trans hlisteners⟩

section Abiding

variable {s t : Server κ β ω}

/-- Building goes on until it is concluded from outside, and a finished server keeps its plugins. -/
structure Abides (s t : Server κ β ω) : Prop where
  state : s.state ≠ .notStarted → t.state = s.state
  built : s.state = .built → t.built = s.built

instance : IsPreorder (Server κ β ω) Abides where
  refl _ := ⟨fun _ => rfl, fun _ => rfl⟩
  trans _ _ _ hst htu := by
    refine ⟨fun hs => ?_, fun hs => ?_⟩
    · have ht := hst.state hs
      rw [htu.state (by rwa [ht]), ht]
    · rw [htu.built ((hst.state (by rw [hs]; nofun)).trans hs), hst.built hs]

theorem Abides.finished (h : s.Abides t) (hs : s.state = .built) : t.state = .built :=
  (h.state (by rw [hs]; nofun)).trans hs

theorem abides_of_notStarted (hs : s.state = .notStarted) : s.Abides t :=
  ⟨fun h => absurd hs h, fun h => by rw [hs] at h; cases h⟩

theorem abides_of_state (hstate : t.state = s.state) (hs : s.state ≠ .built) : s.Abides t :=
  ⟨fun _ => hstate, fun h => absurd h hs⟩

end Abiding

end Server

namespace ServerAct

variable {R : Server κ β ω → Server κ β ω → Prop}

/-! ## Actions within a relation -/

/-- An action that changes the server along a relation, whatever it returns or halts with. -/
def Within (R : Server κ β ω → Server κ β ω → Prop) (act : ServerAct κ β ω α) : Prop :=
  ∀ h, R h.server (act.runOn h).2.server

theorem Within.get_bind {f : Hosting κ β ω → ServerAct κ β ω α} (hf : ∀ h, Within R (f h)) :
    Within R (get >>= f) := fun h => hf h h

theorem Within.server_bind {f : Server κ β ω → ServerAct κ β ω α} (hf : ∀ s, Within R (f s)) :
    Within R (server >>= f) := fun h => hf h.server h

theorem within_updateServer {f : Server κ β ω → Server κ β ω} (hf : ∀ s, R s (f s)) :
    Within R (updateServer f : ServerAct κ β ω Unit) := fun h => hf h.server

theorem Within.attempt {act : ServerAct κ β ω α} (h : Within R act) : Within R (Effect.attempt act) := by
  intro g
  rw [Effect.snd_runOn_attempt]
  exact h g

variable [IsPreorder (Server κ β ω) R]

theorem within_pure (a : α) : Within R (pure a : ServerAct κ β ω α) := fun h => refl_of R h.server

theorem within_throw (halt : Halt) : Within R (throw halt : ServerAct κ β ω α) :=
  fun h => refl_of R h.server

theorem within_outside (act : Effect ω α) : Within R (outside act : ServerAct κ β ω α) := by
  intro h
  rw [outside, Effect.runOn_onPart]
  exact refl_of R h.server

theorem Within.bind {x : ServerAct κ β ω α} {f : α → ServerAct κ β ω γ} (hx : Within R x)
    (hf : ∀ a, Within R (f a)) : Within R (x >>= f) := by
  intro h
  have hfirst := hx h
  rw [Effect.runOn_bind]
  rcases hrun : x.runOn h with ⟨halt | a, h'⟩
  · rwa [hrun] at hfirst
  · rw [hrun] at hfirst
    exact trans_of R hfirst (hf a h')

theorem Within.forM {act : γ → ServerAct κ β ω Unit} (hact : ∀ c, Within R (act c)) :
    ∀ cs : List γ, Within R (cs.forM act)
  | [] => within_pure ()
  | c :: cs => (hact c).bind fun _ => Within.forM hact cs

/-! ## Actions that only make calls -/

section Calls

variable {call : Plugin κ β ω → Phase → ServerAct κ β ω Unit}
  (hcall : ∀ plugin phase, Within R (call plugin phase))
include hcall

theorem within_callAt (phase : Phase) (place : Nat) : Within R (callAt call phase place) := by
  intro h
  rw [runOn_callAt]
  cases h.server.built[place]? with
  | none => exact refl_of R h.server
  | some plugin => exact hcall plugin phase h

theorem within_tick (schedule : ScheduleId) : Within R (tick call schedule) := by
  intro h
  rw [runOn_tick]
  exact Within.forM (within_callAt hcall _) _ h

theorem within_cleanup : Within R (cleanup call) := by
  intro h
  rw [runOn_cleanup]
  exact Within.forM (within_callAt hcall _) _ h

theorem within_readyFrom (rounds place : Nat) : Within R (readyFrom call rounds place) := by
  -- the induction is on the rounds, and the places move on with them
  induction rounds generalizing place with
  | zero =>
    intro h
    rw [runOn_readyFrom]
    cases h.server.built[place]? with
    | none => exact refl_of R h.server
    | some plugin => exact refl_of R h.server
  | succ rounds ih =>
    intro h
    rw [runOn_readyFrom]
    cases h.server.built[place]? with
    | none => exact refl_of R h.server
    | some plugin => exact (hcall plugin .ready).bind (fun _ => ih (place + 1)) h

/-- **Following a script** stays within a relation if adding and finishing do, and publishing. -/
theorem within_exec [DecidableEq κ] {rounds : Nat} (hadd : ∀ plugin, Within R (add call plugin))
    (hfinish : Within R (finish call rounds))
    (hpublish : ∀ s (globals : Resources κ β), R s { s with globals := globals })
    (script : Script κ β ω) : Within R (script.exec call rounds) := by
  -- one case per constructor: a relation that every operation keeps is kept by the script
  induction script using Script.exec.induct with
  | case1 => exact within_pure ()
  | case2 payload => exact within_throw _
  | case3 plugin next ih => exact (hadd plugin).bind fun _ => ih
  | case4 next ih => exact hfinish.bind fun _ => ih
  | case5 schedule next ih => exact (within_tick hcall schedule).bind fun _ => ih
  | case6 next ih => exact (within_cleanup hcall).bind fun _ => ih
  | case7 next ih => exact Within.server_bind fun s => ih _
  | case8 k value next ih =>
    refine Within.server_bind fun s => ?_
    exact (within_updateServer fun t => hpublish t _).bind fun _ => ih _
  | case9 k next ih => exact Within.server_bind fun s => ih _
  | case10 act next ih => exact (within_outside act).bind fun _ => ih
  | case11 next ih => exact Within.get_bind fun h => ih _
  | case12 body next hbody hnext => exact hbody.attempt.bind fun result => hnext result

end Calls

/-! ## Building goes on -/

section Growing

variable {call : Plugin κ β ω → Phase → ServerAct κ β ω Unit}
  (hcall : ∀ plugin phase, Within Server.Grows (call plugin phase))
include hcall

theorem grows_construct (plugin : Plugin κ β ω) : Within Server.Grows (construct call plugin) :=
  (hcall plugin .build).bind fun _ => within_updateServer fun s => s.grows_enroll plugin

theorem grows_add (plugin : Plugin κ β ω) : Within Server.Grows (add call plugin) := by
  intro h
  have hnoted := h.server.grows_noteId plugin.info.id
  rw [runOn_add]
  cases h.server.refusal? plugin.info with
  | some refusal => exact refl_of Server.Grows h.server
  | none =>
    by_cases hstate : h.server.state = .building
    · simp only [if_pos hstate]
      exact trans_of Server.Grows hnoted (grows_construct hcall plugin (h.update (·.noteId plugin.info.id)))
    · simp only [if_neg hstate]
      exact trans_of Server.Grows hnoted (Server.grows_enqueue _ plugin)

theorem grows_buildEach (plugins : List (Plugin κ β ω)) :
    Within Server.Grows (buildEach call plugins) := by
  induction plugins with
  | nil => exact within_pure ()
  | cons plugin plugins ih =>
    rw [buildEach_cons]
    exact (grows_construct hcall plugin).bind fun _ => ih

theorem grows_complete (rounds : Nat) (queue : List (Plugin κ β ω)) :
    Within Server.Grows (complete call rounds queue) :=
  (grows_buildEach hcall queue).bind fun _ => (within_readyFrom hcall rounds 0).bind fun _ =>
    within_updateServer Server.grows_concluded

theorem grows_finish (rounds : Nat) : Within Server.Grows (finish call rounds) := by
  intro h
  rw [runOn_finish]
  by_cases hstate : h.server.state = .notStarted
  · rw [if_pos hstate]
    cases h.server.inOrder with
    | error error => exact h.server.grows_unqueued
    | ok queue =>
      exact trans_of Server.Grows h.server.grows_started
        (grows_complete hcall rounds queue (h.update (·.started)))
  · rw [if_neg hstate]
    exact refl_of Server.Grows h.server

theorem grows_exec [DecidableEq κ] (rounds : Nat) (script : Script κ β ω) :
    Within Server.Grows (script.exec call rounds) :=
  within_exec hcall (grows_add hcall) (grows_finish hcall rounds)
    (fun _ _ => ⟨List.prefix_refl _, id⟩) script

end Growing

/-- **No call takes back what was built**, nor the start of building. -/
theorem invoke_grows [DecidableEq κ] (depth : Nat) (plugin : Plugin κ β ω) (phase : Phase) :
    Within Server.Grows (invoke depth plugin phase) := by
  induction depth generalizing plugin phase with
  | zero => exact within_throw _
  | succ depth ih => exact grows_exec ih depth (plugin.script phase)

theorem run_grows [DecidableEq κ] (depth : Nat) (script : Script κ β ω) :
    Within Server.Grows (run depth script) :=
  grows_exec (invoke_grows depth) depth script

/-! ## Nothing changes after building -/

section Settling

variable (call : Plugin κ β ω → Phase → ServerAct κ β ω Unit)

theorem settled_add (plugin : Plugin κ β ω) : Within Server.Settled (add call plugin) := by
  intro h hbuilt
  rw [runOn_add, Server.refusal?_of_built hbuilt]
  exact ⟨hbuilt, rfl, rfl, rfl⟩

theorem settled_finish (rounds : Nat) : Within Server.Settled (finish call rounds) := by
  intro h hbuilt
  rw [runOn_finish, if_neg (by rw [hbuilt]; nofun)]
  exact ⟨hbuilt, rfl, rfl, rfl⟩

end Settling

/-- **No call changes a finished server's plugins.** -/
theorem invoke_settled [DecidableEq κ] (depth : Nat) (plugin : Plugin κ β ω) (phase : Phase) :
    Within Server.Settled (invoke depth plugin phase) := by
  induction depth generalizing plugin phase with
  | zero => exact within_throw _
  | succ depth ih =>
    exact within_exec ih (settled_add _) (settled_finish _ depth) (fun _ _ h => ⟨h, rfl, rfl, rfl⟩) _

theorem run_settled [DecidableEq κ] (depth : Nat) (script : Script κ β ω) :
    Within Server.Settled (run depth script) :=
  within_exec (invoke_settled depth) (settled_add _) (settled_finish _ depth)
    (fun _ _ h => ⟨h, rfl, rfl, rfl⟩) script

/-! ## Building is concluded from outside -/

section Abiding

variable {call : Plugin κ β ω → Phase → ServerAct κ β ω Unit}
  (hcall : ∀ plugin phase, Within Server.Abides (call plugin phase))
include hcall

theorem state_construct {h : Hosting κ β ω} (hstate : h.server.state = .building)
    (plugin : Plugin κ β ω) : ((construct call plugin).runOn h).2.server.state = .building := by
  have hcalled := (hcall plugin .build h).state (by rw [hstate]; nofun)
  rw [hstate] at hcalled
  rw [construct, Effect.runOn_bind]
  rcases hrun : (call plugin .build).runOn h with ⟨halt | a, h'⟩
  · rwa [hrun] at hcalled
  · rw [hrun] at hcalled
    exact hcalled

theorem state_buildEach {h : Hosting κ β ω} (hstate : h.server.state = .building)
    (plugins : List (Plugin κ β ω)) : ((buildEach call plugins).runOn h).2.server.state = .building := by
  induction plugins generalizing h with
  | nil => exact hstate
  | cons plugin plugins ih =>
    have hbuilding := state_construct hcall hstate plugin
    rw [buildEach_cons, Effect.runOn_bind]
    rcases hrun : (construct call plugin).runOn h with ⟨halt | _, h'⟩
    · rwa [hrun] at hbuilding
    · rw [hrun] at hbuilding
      exact ih hbuilding

theorem abides_add (plugin : Plugin κ β ω) : Within Server.Abides (add call plugin) := by
  intro h
  rw [runOn_add]
  cases hrefusal : h.server.refusal? plugin.info with
  | some refusal => exact refl_of Server.Abides h.server
  | none =>
    have hopen : h.server.state ≠ .built := fun hbuilt =>
      Server.refusal?_eq_none_iff.mp hrefusal (.inl hbuilt)
    -- while the server builds the plugin is built as well, else it only waits
    by_cases hstate : h.server.state = .building
    · simp only [if_pos hstate]
      refine Server.abides_of_state ?_ hopen
      exact (state_construct hcall (h := h.update (·.noteId plugin.info.id)) hstate plugin).trans hstate.symm
    · simp only [if_neg hstate]
      exact Server.abides_of_state rfl hopen

theorem abides_exec [DecidableEq κ] (rounds : Nat) (script : Script κ β ω) :
    Within Server.Abides (script.exec call rounds) := by
  have hfinish : Within Server.Abides (finish call rounds) := by
    intro h
    by_cases hstate : h.server.state = .notStarted
    · exact Server.abides_of_notStarted hstate
    · rw [runOn_finish, if_neg hstate]
      exact refl_of Server.Abides h.server
  exact within_exec hcall (abides_add hcall) hfinish (fun _ _ => ⟨fun _ => rfl, fun _ => rfl⟩) script

end Abiding

/-- **No call concludes the building.** -/
theorem invoke_abides [DecidableEq κ] (depth : Nat) (plugin : Plugin κ β ω) (phase : Phase) :
    Within Server.Abides (invoke depth plugin phase) := by
  induction depth generalizing plugin phase with
  | zero => exact within_throw _
  | succ depth ih => exact abides_exec ih depth (plugin.script phase)

theorem run_abides [DecidableEq κ] (depth : Nat) (script : Script κ β ω) :
    Within Server.Abides (run depth script) :=
  abides_exec (invoke_abides depth) depth script

end ServerAct

end LiveSwap
