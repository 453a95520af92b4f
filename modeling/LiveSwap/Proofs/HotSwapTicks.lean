import LiveSwap.Proofs.Reachable
import LiveSwap.Proofs.TickAccounts

/-!
# Cycles run on ticks

A program with a hot-swap plugin: it creates handles and registers resources, and it makes requests of a
server with the plugin and its guests, one after the other.

* **`Host.Enrols`** — what registering does to the host; closed under sequencing.
* **`HotSwap.Hosted.moved`** — the invariant of the server, over whole programs.
* **`HotSwap.cycles_on_ticks`** — every request runs exactly the cycles that are due to its ticks: one for
  each tick of the plugin's schedule on a finished server, wherever it comes from, and none for the others.
  So if the library always delivers, a handle counts those ticks from its registration on, as long as none is
  cut off.
-/

namespace LiveSwap

variable {ι σ κ γ δ : Type} {β : κ → Type}

/-! ## Registering -/

namespace Host

/-- What registering does: a registry may list more handles, of which none was refreshed; registered handles
are as they were, and so are coordinators. -/
structure Enrols (r : RegistryId) (s s' : Host ι σ) : Prop where
  kept : ∀ id ∈ (s.registry r).handles, id ∈ (s'.registry r).handles
  listed : ∀ id ∈ (s'.registry r).handles, id ∈ (s.registry r).handles ∨ (s.handle id).generation = 0
  registered : ∀ id, (s.handle id).isRegistered → s'.handle id = s.handle id
  generation : ∀ id, (s'.handle id).generation = (s.handle id).generation
  coordinator : ∀ {k coordinator}, s.coordinator? k = some coordinator → s'.coordinator? k = some coordinator
  sound : s.Sound → s'.Sound

instance (r : RegistryId) : IsPreorder (Host ι σ) (Enrols r) where
  refl _ := ⟨fun _ => id, fun _ => .inl, fun _ _ => rfl, fun _ => rfl, id, id⟩
  trans _ _ _ h h' := by
    refine ⟨fun id hid => h'.kept id (h.kept id hid), fun id hid => ?_, fun id hi => ?_,
      fun id => (h'.generation id).trans (h.generation id), h'.coordinator ∘ h.coordinator, h'.sound ∘ h.sound⟩
    · obtain hold | hzero := h'.listed id hid
      · exact h.listed id hold
      · exact .inr ((h.generation id).symm.trans hzero)
    · have hsame := h.registered id hi
      rw [h'.registered id (by rwa [hsame]), hsame]

variable {s : Host ι σ} (r : RegistryId)

theorem enrols_newRegistry : s.Enrols r ((Act.newRegistry : Act ι σ RegistryId).runOn s).2 := by
  have hregistry : ∀ other, ((Act.newRegistry : Act ι σ RegistryId).runOn s).2.registry other = s.registry other :=
    s.registry_concat_empty
  refine ⟨fun id hid => ?_, fun id hid => ?_, fun _ _ => rfl, fun _ => rfl, id, fun hs => hs.newRegistry⟩
  · rwa [hregistry]
  · rw [hregistry] at hid
    exact .inl hid

theorem enrols_newCoordinator (other : RegistryId) (config : HotSwapConfig) :
    s.Enrols r ((Act.newCoordinator other config).runOn s).2 := by
  refine ⟨fun _ => id, fun _ => .inl, fun _ _ => rfl, fun _ => rfl, fun {k coordinator} hk => ?_,
    fun hs => hs.congr rfl rfl⟩
  exact (s.spares_newCoordinator coordinator.registry other config).coordinator hk rfl

theorem enrols_createHandle {other : RegistryId} {name : String} (hnew : s.find? other name = none) :
    s.Enrols r (s.createHandle other name) := by
  refine ⟨fun id hid => ?_, fun id hid => ?_, fun id hi => ?_,
    apply_handle_createHandle Handle.generation (fun _ => rfl) s other name, id, fun hs => hs.createHandle hnew⟩
  -- a list that is not the registry's own stays as it is, else the new handle comes last
  · obtain h | ⟨rfl, h⟩ := s.registry_createHandle_cases other name r
    · rwa [h]
    · rw [h, Registry.handles_push]
      exact List.mem_append_left _ hid
  · obtain hold | rfl := mem_handles_createHandle hid
    · exact .inl hold
    · right
      rw [handle_of_length_le (Nat.le_refl _)]
      rfl
  · obtain ⟨i, hi⟩ := Option.isSome_iff_exists.mp hi
    exact handle_createHandle_of_lt (lt_of_installed hi)

theorem enrols_enter (other : RegistryId) (name : String) : s.Enrols r (s.enter other name).2 := by
  rw [Host.enter]
  cases hfind : s.find? other name with
  | some id => exact refl_of (Enrols r) s
  | none => exact enrols_createHandle r hfind

theorem enrols_enroll {handle : HandleId} (hnone : (s.handle handle).installed = none) {first : ι}
    {params : Params} (hname : params.name = (s.handle handle).name) :
    s.Enrols r (s.enroll handle first params) := by
  refine ⟨fun _ => id, fun _ => .inl, fun other hi => ?_, fun other => ?_, id, fun hs => hs.enroll hname first⟩
  · have hne : other ≠ handle := by
      rintro rfl
      rw [Handle.isRegistered, hnone] at hi
      cases hi
    exact handle_updateHandle_of_ne s hne _
  · exact apply_handle_updateHandle Handle.generation rfl other

theorem enrols_registerOn (handle : HandleId) (first : ι) (params : Params) :
    s.Enrols r ((Act.registerOn handle first params).runOn s).2 := by
  rw [Act.registerOn, Effect.runOn_modifyGet]
  cases hregister : s.registerOn handle first params with
  | error e => exact refl_of (Enrols r) s
  | ok s' =>
    obtain ⟨hname, hnone, rfl⟩ := registerOn_eq_ok_iff.mp hregister
    exact enrols_enroll r hnone hname

end Host

/-- A program's step outside of the server. -/
inductive Enrolment (ι σ : Type) where
  | newRegistry
  | newCoordinator (r : RegistryId) (config : HotSwapConfig)
  | getOrCreate (r : RegistryId) (name : String)
  | register (r : RegistryId) (first : ι) (params : Params)
  | registerOn (id : HandleId) (first : ι) (params : Params)
  /-- Whatever an instance does when it is used. -/
  | used (use : Call σ Unit)

def Enrolment.act : Enrolment ι σ → Act ι σ Unit
  | .newRegistry => discard Act.newRegistry
  | .newCoordinator r config => discard (Act.newCoordinator r config)
  | .getOrCreate r name => discard (Act.getOrCreate r name)
  | .register r first params => discard (Act.register r first params)
  | .registerOn id first params => discard (Act.registerOn id first params)
  | .used use => use.act

/-- **Registering refreshes nothing.** -/
theorem Enrolment.enrols (step : Enrolment ι σ) (r : RegistryId) (s : Host ι σ) :
    s.Enrols r (step.act.runOn s).2 := by
  cases step with
  | newRegistry => exact Host.enrols_newRegistry r
  | newCoordinator other config => exact Host.enrols_newCoordinator r other config
  | getOrCreate other name =>
    rw [act, Effect.runOn_discard, Act.runOn_getOrCreate]
    exact Host.enrols_enter r other name
  | register other first params =>
    rw [act, Effect.runOn_discard, Act.register, Effect.runOn_bind_ok (Act.runOn_getOrCreate s other params.name)]
    exact trans_of (Host.Enrols r) (Host.enrols_enter r other params.name) (Host.enrols_registerOn r _ first params)
  | registerOn id first params =>
    rw [act, Effect.runOn_discard]
    exact Host.enrols_registerOn r id first params
  | used use =>
    rw [act, use.runOn_act]
    exact ⟨fun _ => id, fun _ => .inl, fun _ _ => rfl, fun _ => rfl, id, fun hs => hs.after _⟩

/-! ## Programs -/

/-- A step of a program with a server. -/
inductive ServerStep (ι σ κ : Type) (β : κ → Type) where
  | enrol (step : Enrolment ι σ)
  /-- A request of the server, with a bound for how deep calls nest. -/
  | request (depth : Nat) (script : Script (Published κ) (Published.Value β) (Host ι σ))

variable [DecidableEq κ]

namespace ServerStep

def act : ServerStep ι σ κ β → ServerAct (Published κ) (Published.Value β) (Host ι σ) Unit
  | .enrol step => ServerAct.outside step.act
  | .request depth script => ServerAct.run depth script

/-- The step with marks around the ticks. -/
def marked : ServerStep ι σ κ β → ServerAct (Published κ) (Published.Value β) (Host ι σ × Ticks) Unit
  | .enrol step => ServerAct.outside (besideTicks step.act)
  | .request depth script => ServerAct.run depth script.marked

/-- The ticks of a step. -/
def ticks (step : ServerStep ι σ κ β) (w : Hosting (Published κ) (Published.Value β) (Host ι σ)) : Ticks :=
  (step.marked.runOn (w.marked [])).2.outside.2

theorem runOn_enrol (step : Enrolment ι σ) (w : Hosting (Published κ) (Published.Value β) (Host ι σ)) :
    (enrol step).act.runOn w = ((step.act.runOn w.outside).1, ⟨w.server, (step.act.runOn w.outside).2⟩) := by
  rw [act, ServerAct.outside, Effect.runOn_onPart]

theorem ticks_enrol (step : Enrolment ι σ) (w : Hosting (Published κ) (Published.Value β) (Host ι σ)) :
    (enrol step).ticks w = [] := by
  rw [ticks, marked, ServerAct.outside, Effect.runOn_onPart, besideTicks, Effect.runOn_onPart]
  rfl

/-- Requests go together with the plugin. -/
def Polite (h : HotSwap) (c : Collaborators ι σ) : ServerStep ι σ κ β → Prop
  | .enrol _ => True
  | .request _ script => h.Polite c script

end ServerStep

namespace Hosting

/-- An empty server and a host without handles. -/
def founded (stock : σ) : Hosting (Published κ) (Published.Value β) (Host ι σ) :=
  ⟨Server.empty, Host.start stock⟩

/-- The server and the host after a program; what a step halts with is caught. -/
def moved (w : Hosting (Published κ) (Published.Value β) (Host ι σ)) :
    List (ServerStep ι σ κ β) → Hosting (Published κ) (Published.Value β) (Host ι σ)
  | [] => w
  | step :: steps => moved (step.act.runOn w).2 steps

/-- The ticks of a program. -/
def ticks (w : Hosting (Published κ) (Published.Value β) (Host ι σ)) : List (ServerStep ι σ κ β) → Ticks
  | [] => []
  | step :: steps => step.ticks w ++ ticks (step.act.runOn w).2 steps

end Hosting

namespace HotSwap

variable {h : HotSwap} {c : Collaborators ι σ} {building : Nat}
  {w : Hosting (Published κ) (Published.Value β) (Host ι σ)}

namespace Hosted

theorem founded (stock : σ) :
    h.Hosted c 0 (Hosting.founded stock : Hosting (Published κ) (Published.Value β) (Host ι σ)) where
  built := nofun
  pending := nofun
  single := Nat.zero_le 1
  noted _ := rfl
  listeners := rfl
  serves := nofun
  published := nofun
  fresh := nofun
  sound := .start stock

theorem enrolled (hw : h.Hosted c building w) (step : Enrolment ι σ) :
    h.Hosted c building ⟨w.server, (step.act.runOn w.outside).2⟩ := by
  have henrols := step.enrols h.registry w.outside
  refine { hw with
    serves := fun k hk => ?_, fresh := fun id hid hi => ?_, sound := henrols.sound hw.sound }
  · obtain ⟨report, hk⟩ := hw.serves k hk
    exact ⟨report, henrols.coordinator hk⟩
  · refine (henrols.generation id).trans ?_
    obtain hlisted | hzero := henrols.listed id hid
    · cases hold : (w.outside.handle id).installed with
      | none => exact hw.fresh id hlisted hold
      | some i =>
        -- a registered handle would still be registered
        have hsame := henrols.registered id (by rw [Handle.isRegistered, hold]; rfl)
        have hi' : ((step.act.runOn w.outside).2.handle id).installed = none := hi
        rw [hsame, hold] at hi'
        cases hi'
    · exact hzero

end Hosted

/-- **A request** does with marks what it does without, and what it does to the host is a course of its
ticks. -/
theorem Hosted.request (hd : c.Detached) (hw : h.Hosted c 0 w) (depth : Nat)
    {script : Script (Published κ) (Published.Value β) (Host ι σ)} (hpolite : h.Polite c script) :
    (ServerStep.request depth script).marked.runOn (w.marked []) =
        (((ServerAct.run depth script).runOn w).1,
          ((ServerAct.run depth script).runOn w).2.marked ((ServerStep.request depth script).ticks w)) ∧
      h.Passage c 0 0 w ((ServerAct.run depth script).runOn w).1.isOk ((ServerAct.run depth script).runOn w).2
        ((ServerStep.request depth script).ticks w) := by
  obtain ⟨result, w', ticks, hrun, hrun', hpassage⟩ := accounts_run hd depth hpolite hw
  have hticks : (ServerStep.request depth script).ticks w = ticks := by
    rw [ServerStep.ticks, ServerStep.marked, hrun' []]
    rfl
  rw [hticks, hrun]
  exact ⟨hrun' [], hpassage⟩

theorem Hosted.step (hd : c.Detached) (hw : h.Hosted c 0 w) {step : ServerStep ι σ κ β}
    (hpolite : step.Polite h c) :
    h.Hosted c 0 (step.act.runOn w).2 ∧ w.server.Abides (step.act.runOn w).2.server := by
  cases step with
  | enrol step =>
    rw [ServerStep.act, ServerAct.outside, Effect.runOn_onPart]
    exact ⟨hw.enrolled step, refl_of Server.Abides _⟩
  | request depth script =>
    obtain ⟨-, hpassage⟩ := hw.request hd depth hpolite
    exact ⟨hpassage.hosted, hpassage.abides⟩

/-- **The invariant holds** on whatever way a program takes. -/
theorem Hosted.moved (hd : c.Detached) {steps : List (ServerStep ι σ κ β)} (hw : h.Hosted c 0 w)
    (hpolite : ∀ step ∈ steps, step.Polite h c) :
    h.Hosted c 0 (w.moved steps) ∧ w.server.Abides (w.moved steps).server := by
  induction steps generalizing w with
  | nil => exact ⟨hw, refl_of Server.Abides _⟩
  | cons step steps ih =>
    obtain ⟨hfirst, habides⟩ := hw.step hd (hpolite step List.mem_cons_self)
    obtain ⟨hlast, hrest⟩ := ih hfirst fun other hother => hpolite other (List.mem_cons_of_mem _ hother)
    exact ⟨hlast, trans_of Server.Abides habides hrest⟩

theorem Hosted.closed_le_begun (hd : c.Detached) (hw : h.Hosted c 0 w) {step : ServerStep ι σ κ β}
    (hpolite : step.Polite h c) (hpresent : h.Present (step.act.runOn w).2.server) (schedule : ScheduleId) :
    (step.ticks w).count (.closed schedule) ≤ (step.ticks w).begun schedule := by
  cases step with
  | enrol step =>
    rw [ServerStep.ticks_enrol]
    exact Nat.le_refl _
  | request depth script =>
    obtain ⟨-, hpassage⟩ := hw.request hd depth hpolite
    exact (hpassage.course hpresent).closed_le_begun schedule

theorem Hosted.closed_le_begun_ticks (hd : c.Detached) {steps : List (ServerStep ι σ κ β)} (hw : h.Hosted c 0 w)
    (hpolite : ∀ step ∈ steps, step.Polite h c) (hpresent : h.Present (w.moved steps).server)
    (schedule : ScheduleId) : (w.ticks steps).count (.closed schedule) ≤ (w.ticks steps).begun schedule := by
  induction steps generalizing w with
  | nil => exact Nat.le_refl _
  | cons step steps ih =>
    have hstep := hpolite step List.mem_cons_self
    have hsteps : ∀ other ∈ steps, other.Polite h c := fun other hother => hpolite other (.tail _ hother)
    obtain ⟨hfirst, -⟩ := hw.step hd hstep
    have hhere := hw.closed_le_begun hd hstep (hpresent.of_abides (hfirst.moved hd hsteps).2) schedule
    have hrest := ih hfirst hsteps hpresent
    rw [Hosting.ticks, List.count_append, Ticks.begun_append]
    exact Nat.add_le_add hhere hrest

/-- A registered handle stays listed and registered over a step, and counts its ticks. -/
theorem Hosted.counted (hd : c.Detached) (hdelivers : c.Delivers) {step : ServerStep ι σ κ β}
    (hw : h.Hosted c 0 w) (hpolite : step.Polite h c) (hwhole : (step.ticks w).Whole h.config.schedule)
    (hpresent : h.Present (step.act.runOn w).2.server) {id : HandleId}
    (hid : id ∈ (w.outside.registry h.registry).handles) (hregistered : (w.outside.handle id).isRegistered) :
    id ∈ ((step.act.runOn w).2.outside.registry h.registry).handles ∧
      ((step.act.runOn w).2.outside.handle id).isRegistered ∧
      ((step.act.runOn w).2.outside.handle id).generation =
        (w.outside.handle id).generation + .ofNat ((step.ticks w).count (.opened h.config.schedule true)) := by
  -- what is enrolled leaves every generation alone; a request goes by its course
  cases step with
  | enrol step =>
    have henrols := step.enrols h.registry w.outside
    rw [ServerStep.runOn_enrol, ServerStep.ticks_enrol]
    refine ⟨henrols.kept id hid, ?_, (henrols.generation id).trans (UInt64.add_zero _).symm⟩
    show ((step.act.runOn w.outside).2.handle id).isRegistered
    rwa [henrols.registered id hregistered]
  | request depth script =>
    obtain ⟨-, hpassage⟩ := hw.request hd depth hpolite
    have hcourse := hpassage.course hpresent
    have hcounted := hcourse.generation hd hdelivers (.inr rfl) hwhole hw.sound hid hregistered
    rw [Nat.zero_add] at hcounted
    refine ⟨?_, hcounted⟩
    show id ∈ (((ServerAct.run depth script).runOn w).2.outside.registry h.registry).handles
    rwa [(hcourse.tends hd hw.sound).registry]

/-- **A registered handle counts the ticks** of a program that cuts none off, if the library always
delivers. -/
theorem Hosted.generation (hd : c.Detached) (hdelivers : c.Delivers) {steps : List (ServerStep ι σ κ β)}
    (hw : h.Hosted c 0 w) (hpolite : ∀ step ∈ steps, step.Polite h c)
    (hwhole : (w.ticks steps).Whole h.config.schedule) (hpresent : h.Present (w.moved steps).server)
    {id : HandleId} (hid : id ∈ (w.outside.registry h.registry).handles)
    (hregistered : (w.outside.handle id).isRegistered) :
    ((w.moved steps).outside.handle id).generation =
      (w.outside.handle id).generation + .ofNat ((w.ticks steps).count (.opened h.config.schedule true)) := by
  induction steps generalizing w with
  | nil => exact (UInt64.add_zero _).symm
  | cons step steps ih =>
    have hstep := hpolite step List.mem_cons_self
    have hsteps : ∀ other ∈ steps, other.Polite h c := fun other hother => hpolite other (.tail _ hother)
    obtain ⟨hfirst, -⟩ := hw.step hd hstep
    have hpresent' := hpresent.of_abides (hfirst.moved hd hsteps).2
    -- ticks are whole in both parts, because each part closes no more than it opened
    have hhere := hw.closed_le_begun hd hstep hpresent' h.config.schedule
    have hlater := hfirst.closed_le_begun_ticks hd hsteps hpresent h.config.schedule
    rw [Ticks.Whole, Hosting.ticks, List.count_append, Ticks.begun_append] at hwhole
    obtain ⟨hlisted, hregistered', hcount⟩ := hw.counted hd hdelivers hstep
      (show _ = _ by omega) hpresent' hid hregistered
    have hrest := ih hfirst hsteps (show _ = _ by omega) hpresent hlisted hregistered'
    rw [Hosting.moved, hrest, hcount, Hosting.ticks, List.count_append, UInt64.ofNat_add, UInt64.add_assoc]

/-- **Cycles run on ticks.** On a server with a hot-swap plugin and guests, whatever a program did before:
a request does with marks what it does without; and if the plugin is among the plugins of the server once it
is finished, what happens to the host is a course of the marked ticks, in which a tick of the plugin's
schedule on a finished server runs one cycle with the plugin's settings, and no other tick runs any. So
without such a tick, and before the server is finished, the handles and the reports about them stay as they
are; and if the library always delivers and no tick of the schedule is cut off, a handle's generation is the
number of those ticks since it was registered, modulo 2^64. -/
theorem cycles_on_ticks (h : HotSwap) (library : Behaviour ι σ γ δ) (stock : σ)
    {steps : List (ServerStep ι σ κ β)} (hpolite : ∀ step ∈ steps, step.Polite h library.collaborators) :
    let c := library.collaborators
    let w := (Hosting.founded stock).moved steps
    (∀ depth script, h.Polite c script →
      let request : ServerStep ι σ κ β := .request depth script
      let result := (request.act.runOn w).1
      let w' := (request.act.runOn w).2
      let ticks := request.ticks w
      request.marked.runOn (w.marked []) = (result, w'.marked ticks) ∧
        (h.Present w'.server → h.Course c result.isOk 0 w.outside ticks w'.outside ∧
          (w'.server.state ≠ .built ∨ .opened h.config.schedule true ∉ ticks →
            w.outside.Spares h.registry w'.outside))) ∧
    (c.Delivers → ∀ (step : Enrolment ι σ) (later : List (ServerStep ι σ κ β)) (id : HandleId),
      let v := ((ServerStep.enrol step).act.runOn w).2
      ¬(w.outside.handle id).isRegistered → (v.outside.handle id).isRegistered →
        id ∈ (v.outside.registry h.registry).handles → (∀ step ∈ later, step.Polite h c) →
        h.Present (v.moved later).server → (v.ticks later).Whole h.config.schedule →
          ((v.moved later).outside.handle id).generation.toNat =
            (v.ticks later).count (.opened h.config.schedule true) % UInt64.size) := by
  intro c w
  have hd := library.collaborators_detached
  have hw : h.Hosted c 0 w := ((Hosted.founded stock).moved hd hpolite).1
  refine ⟨fun depth script hscript => ?_, fun hdelivers step later id => ?_⟩
  · obtain ⟨hmirrored, hpassage⟩ := hw.request hd depth hscript
    refine ⟨hmirrored, fun hpresent => ⟨hpassage.course hpresent, fun hother => ?_⟩⟩
    refine (hpassage.course hpresent).spares hd hw.sound rfl fun hticks => ?_
    obtain hunfinished | hnone := hother
    · exact hunfinished (hpassage.finished hticks)
    · exact hnone hticks
  · rw [ServerStep.runOn_enrol]
    intro v hnone hregistered hid hlater hpresent hwhole
    have hv : h.Hosted c 0 v := hw.enrolled step
    have henrols := step.enrols h.registry w.outside
    -- nothing has refreshed the handle by then
    have hzero : (v.outside.handle id).generation = 0 := by
      refine (henrols.generation id).trans ?_
      obtain hlisted | hzero := henrols.listed id hid
      · exact hw.fresh id hlisted (Option.not_isSome_iff_eq_none.mp hnone)
      · exact hzero
    rw [hv.generation hd hdelivers hlater hwhole hpresent hid hregistered, hzero, UInt64.zero_add,
      UInt64.toNat_ofNat']

end HotSwap

/-! ## Ticks within ticks -/

/-- A library that numbers what it builds. -/
def Behaviour.numbering : Behaviour Nat Nat Unit Unit where
  version built := ⟨.ok "4.3.0", built, []⟩
  create _ _ := next
  builder _ _ built := ⟨.ok (.ok ()), built, []⟩
  buildWith _ := next
  deregister _ _ built := ⟨.ok (.ok ()), built, []⟩
  newConfiguration built := ⟨.ok (.ok ()), built, []⟩
  configureNamed _ _ _ built := ⟨.ok ((), .ok ()), built, []⟩
  configureDescriptor _ _ _ built := ⟨.ok ((), .ok ()), built, []⟩
  buildConfigured _ := next
where
  next (built : Nat) : Reply Nat (Except Cause Nat) := ⟨.ok (.ok built), built + 1, []⟩

theorem Behaviour.numbering_delivers : numbering.collaborators.Delivers := by
  intro capability ⟨name, descriptor, properties⟩ current built
  refine ⟨built, ?_⟩
  cases capability with
  | modern => cases descriptor <;> rfl
  | legacy => cases descriptor <;> rfl

namespace HotSwap.Sample

def textures : HotSwap := ⟨"Texture", 0, ⟨some .modern, ⟨"Reload"⟩⟩⟩

def library : Collaborators Nat Nat := Behaviour.numbering.collaborators

/-- It ticks the schedule of the textures whenever it is updated itself. -/
def frames : Plugin (Published Unit) (Published.Value fun _ => Unit) (Host Nat Nat) :=
  .mk { id := ⟨"host::Frames"⟩, label := "host::frames", version := ⟨0, 0, 1⟩, name := "host::Frames"
        dependencies := [], isUnique := true, schedules := [⟨"Frame"⟩] }
    .done .done .done fun _ => .tick ⟨"Reload"⟩ .done

/-- The schedule of the textures is ticked once before the server is finished. -/
def setUp : List (ServerStep Nat Nat Unit fun _ => Unit) :=
  [.enrol .newRegistry, .request 3 (.add (textures.plugin library) .done), .request 3 (.add frames .done),
    .request 3 (.tick ⟨"Reload"⟩ .done), .request 3 (.finish .done)]

def registering : ServerStep Nat Nat Unit fun _ => Unit := .enrol (.register 0 7 (.named "stone" .empty))

/-- The server has the frames already, so adding them halts. -/
def ticking : List (ServerStep Nat Nat Unit fun _ => Unit) :=
  [.request 3 (.tick ⟨"Reload"⟩ .done), .request 3 (.add frames .done), .request 3 (.tick ⟨"Frame"⟩ .done)]

/-- What `setUp` leaves, with the queue in order. -/
def ready : Hosting (Published Unit) (Published.Value fun _ => Unit) (Host Nat Nat) :=
  ((ServerAct.complete (ServerAct.invoke 3) 3 [textures.plugin library, frames]).runOn
    (((Hosting.founded 0).moved (setUp.take 4)).update (·.started))).2

theorem moved_setUp : (Hosting.founded 0).moved setUp = ready := by
  have hpending : ((Hosting.founded 0).moved (setUp.take 4)).server.pending = [textures.plugin library, frames] :=
    rfl
  have horder : ((Hosting.founded 0).moved (setUp.take 4)).server.inOrder = .ok [textures.plugin library, frames] := by
    rw [Server.inOrder_of_independent, hpending]
    rw [hpending]
    decide
  have hfinish : ServerAct.run 3 (.finish .done) = ServerAct.finish (κ := Published Unit)
      (β := Published.Value fun _ => Unit) (ω := Host Nat Nat) (ServerAct.invoke 3) 3 := bind_pure_unit
  show ((ServerAct.run 3 (.finish .done)).runOn ((Hosting.founded 0).moved (setUp.take 4))).2 = _
  rw [hfinish, ServerAct.runOn_finish, if_pos (by rfl), horder]
  rfl

theorem welcome_frames : textures.Welcome library frames := by
  refine .guest (by decide) fun phase => ?_
  cases phase with
  | update schedule => exact .tick ⟨"Reload"⟩ .done
  | _ => exact .done

theorem polite_setUp : ∀ step ∈ setUp, step.Polite textures library := by
  intro step hstep
  simp only [setUp, List.mem_cons, List.not_mem_nil, or_false] at hstep
  obtain rfl | rfl | rfl | rfl | rfl := hstep
  · exact trivial
  · exact .add .own .done
  · exact .add welcome_frames .done
  · exact .tick _ .done
  · exact .finish .done

theorem polite_ticking : ∀ step ∈ ticking, step.Polite textures library := by
  intro step hstep
  simp only [ticking, List.mem_cons, List.not_mem_nil, or_false] at hstep
  obtain rfl | rfl | rfl := hstep
  · exact .tick _ .done
  · exact .add welcome_frames .done
  · exact .tick _ .done

end HotSwap.Sample

namespace HotSwap

/-- One tick of the schedule, and one within a tick of another schedule. -/
theorem cycles_on_ticks_frames :
    let w := (Hosting.founded 0).moved Sample.setUp
    let v := (Sample.registering.act.runOn w).2
    let frame : ServerStep Nat Nat Unit fun _ => Unit := .request 3 (.tick ⟨"Frame"⟩ .done)
    (∀ step ∈ Sample.setUp, step.Polite Sample.textures Sample.library) ∧
      Sample.textures.Present (frame.act.runOn w).2.server ∧
      Sample.textures.Course Sample.library true 0 w.outside [.opened ⟨"Frame"⟩ true, .opened ⟨"Reload"⟩ true,
        .closed ⟨"Reload"⟩, .closed ⟨"Frame"⟩] (frame.act.runOn w).2.outside ∧
      Sample.library.Delivers ∧ ¬(w.outside.handle 0).isRegistered ∧ (v.outside.handle 0).isRegistered ∧
      0 ∈ (v.outside.registry 0).handles ∧
      (∀ step ∈ Sample.ticking, step.Polite Sample.textures Sample.library) ∧
      Sample.textures.Present (v.moved Sample.ticking).server ∧ (v.ticks Sample.ticking).Whole ⟨"Reload"⟩ ∧
      ((v.moved Sample.ticking).outside.handle 0).generation.toNat = 2 := by
  have hall := cycles_on_ticks Sample.textures Behaviour.numbering 0 Sample.polite_setUp
  rw [Sample.moved_setUp] at hall ⊢
  intro w v frame
  obtain ⟨hrequest, hgeneration⟩ := hall
  -- the run is evaluated for what the theorem asks for, and the theorem is applied to it
  have hpresent : Sample.textures.Present (frame.act.runOn w).2.server := by decide +kernel
  have hticks : frame.ticks w = [.opened ⟨"Frame"⟩ true, .opened ⟨"Reload"⟩ true, .closed ⟨"Reload"⟩,
      .closed ⟨"Frame"⟩] := by decide +kernel
  have hreturned : (frame.act.runOn w).1.isOk = true := by decide +kernel
  have hcourse := ((hrequest 3 (.tick ⟨"Frame"⟩ .done) (.tick _ .done)).2 hpresent).1
  rw [hticks, hreturned] at hcourse
  have hnew : ¬(w.outside.handle 0).isRegistered := by decide +kernel
  have hregistered : (v.outside.handle 0).isRegistered := by decide +kernel
  have hlisted : 0 ∈ (v.outside.registry 0).handles := by decide +kernel
  have hpresent' : Sample.textures.Present (v.moved Sample.ticking).server := by decide +kernel
  have hwhole : (v.ticks Sample.ticking).Whole ⟨"Reload"⟩ := by decide +kernel
  have hcount := hgeneration Behaviour.numbering_delivers (.register 0 7 (.named "stone" .empty)) Sample.ticking 0
    hnew hregistered hlisted Sample.polite_ticking hpresent' hwhole
  refine ⟨Sample.polite_setUp, hpresent, hcourse, Behaviour.numbering_delivers, hnew, hregistered, hlisted,
    Sample.polite_ticking, hpresent', hwhole, hcount.trans ?_⟩
  decide +kernel

end HotSwap

end LiveSwap
