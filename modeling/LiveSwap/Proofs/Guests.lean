import LiveSwap.Proofs.BuildStage
import LiveSwap.Proofs.DependencyOrder
import LiveSwap.Proofs.TickCourse

/-!
# Hot-swap plugins among guests

A server with a hot-swap plugin and others, its guests: plugins of other types that leave the registry alone
and do not publish a coordinator. Otherwise they do what they like — tick, add plugins, clean up, panic.

* **`HotSwap.Welcome`**, **`HotSwap.Polite`** — the plugins and scripts that go together with the plugin.
* **`HotSwap.Hosted`** — the invariant of their server: there is one plugin of the type at most, the
  listeners are those of the built plugins, and the coordinator that is published is the plugin's. The
  lemmas beside it say which steps keep it.
-/

namespace LiveSwap

variable {ι σ κ : Type} {β : κ → Type}

/-! ## Servers on their way -/

namespace Server

variable {κ : Type} {β : κ → Type} {ω : Type} {s : Server κ β ω}

theorem perm_of_inOrder {queue : List (Plugin κ β ω)} (h : s.inOrder = .ok queue) : queue.Perm s.pending := by
  rw [inOrder] at h
  cases horder : dependencyOrder (s.pending.map (·.info)) (s.built.map (·.info.id)) with
  | error error =>
    rw [horder] at h
    cases h
  | ok order =>
    rw [horder] at h
    obtain rfl := Except.ok.inj h
    exact perm_filterMap_of_dependencyOrder (List.length_map _).symm horder

theorem inOrder_of_independent (h : ∀ plugin ∈ s.pending, plugin.info.dependencies = []) :
    s.inOrder = .ok s.pending := by
  have hindependent : ∀ info ∈ s.pending.map (·.info), info.dependencies = [] := by
    intro info hinfo
    obtain ⟨plugin, hplugin, rfl⟩ := List.mem_map.mp hinfo
    exact h plugin hplugin
  rw [inOrder, dependencyOrder_of_independent hindependent, List.length_map, Except.map, filterMap_getElem?_range]

end Server

namespace HotSwap

/-! ## Guests -/

section Guests

variable (h : HotSwap) (c : Collaborators ι σ)

mutual

/-- The plugin itself, or one of another type that is polite whenever it is called. -/
inductive Welcome : Plugin (Published κ) (Published.Value β) (Host ι σ) → Prop where
  | own : Welcome (h.plugin c)
  | guest {plugin : Plugin (Published κ) (Published.Value β) (Host ι σ)} (hid : plugin.info.id ≠ h.info.id)
      (hpolite : ∀ phase, Polite (plugin.script phase)) : Welcome plugin

/-- A script that leaves the registry alone and publishes no coordinator. -/
inductive Polite : Script (Published κ) (Published.Value β) (Host ι σ) → Prop where
  | done : Polite .done
  | panic (payload : Payload) : Polite (.panic payload)
  | add {plugin : Plugin (Published κ) (Published.Value β) (Host ι σ)}
      {next : Script (Published κ) (Published.Value β) (Host ι σ)} (hplugin : Welcome plugin)
      (hnext : Polite next) : Polite (.add plugin next)
  | finish {next : Script (Published κ) (Published.Value β) (Host ι σ)} (hnext : Polite next) :
      Polite (.finish next)
  | tick (schedule : ScheduleId) {next : Script (Published κ) (Published.Value β) (Host ι σ)}
      (hnext : Polite next) : Polite (.tick schedule next)
  | cleanup {next : Script (Published κ) (Published.Value β) (Host ι σ)} (hnext : Polite next) :
      Polite (.cleanup next)
  | isBuilt {next : Bool → Script (Published κ) (Published.Value β) (Host ι σ)}
      (hnext : ∀ finished, Polite (next finished)) : Polite (.isBuilt next)
  | publish {k : Published κ} (hk : k ≠ .coordinator) {value : Published.Value β k}
      {next : Option (Published.Value β k) → Script (Published κ) (Published.Value β) (Host ι σ)}
      (hnext : ∀ replaced, Polite (next replaced)) : Polite (.publish k value next)
  | lookUp {k : Published κ}
      {next : Option (Published.Value β k) → Script (Published κ) (Published.Value β) (Host ι σ)}
      (hnext : ∀ found, Polite (next found)) : Polite (.lookUp k next)
  | perform {act : Act ι σ Unit} {next : Script (Published κ) (Published.Value β) (Host ι σ)}
      (hact : act.Sparing h.registry) (hnext : Polite next) : Polite (.perform act next)
  | inspect {next : Host ι σ → Script (Published κ) (Published.Value β) (Host ι σ)}
      (hnext : ∀ s, Polite (next s)) : Polite (.inspect next)
  | attempt {body : Script (Published κ) (Published.Value β) (Host ι σ)}
      {next : Except Payload Unit → Script (Published κ) (Published.Value β) (Host ι σ)} (hbody : Polite body)
      (hnext : ∀ result, Polite (next result)) : Polite (.attempt body next)

end

end Guests

/-- Whether a plugin is of the hot-swap plugin's type, as a number. -/
def own (h : HotSwap) (plugin : Plugin (Published κ) (Published.Value β) (Host ι σ)) : Nat :=
  if plugin.info.id = h.info.id then 1 else 0

variable {h : HotSwap} {c : Collaborators ι σ} {n m : Nat}
  {plugin : Plugin (Published κ) (Published.Value β) (Host ι σ)}
  {plugins queue : List (Plugin (Published κ) (Published.Value β) (Host ι σ))}

theorem own_plugin : h.own (h.plugin c : Plugin (Published κ) (Published.Value β) (Host ι σ)) = 1 := if_pos rfl

theorem Welcome.heard (hplugin : h.Welcome c plugin) (schedule : ScheduleId) :
    plugin.info.schedules.count schedule * h.own plugin =
      (if schedule = h.config.schedule then 1 else 0) * h.own plugin := by
  cases hplugin with
  | own =>
    have hschedules : (h.plugin c : Plugin (Published κ) (Published.Value β) (Host ι σ)).info.schedules =
        [h.config.schedule] := rfl
    rw [hschedules, List.count_singleton]
    by_cases hheard : schedule = h.config.schedule
    · simp [hheard]
    · simp [hheard, Ne.symm hheard]
  | guest hid _ => rw [HotSwap.own, if_neg hid, Nat.mul_zero, Nat.mul_zero]

/-! ## The plugin on its server -/

/-- A server that is finished with the plugin among the built ones, or is not finished. -/
def Present (h : HotSwap) (s : Server (Published κ) (Published.Value β) (Host ι σ)) : Prop :=
  s.state = .built → ∃ plugin ∈ s.built, plugin.info.id = h.info.id

instance (h : HotSwap) (s : Server (Published κ) (Published.Value β) (Host ι σ)) : Decidable (h.Present s) :=
  inferInstanceAs (Decidable (s.state = .built → ∃ plugin ∈ s.built, plugin.info.id = h.info.id))

theorem Present.of_abides {s t : Server (Published κ) (Published.Value β) (Host ι σ)} (ht : h.Present t)
    (habides : s.Abides t) : h.Present s := by
  intro hs
  have hpresent := ht (habides.finished hs)
  rwa [habides.built hs] at hpresent

variable [DecidableEq κ]

/-- How many plugins of the type a server knows. -/
def claimed (h : HotSwap) (s : Server (Published κ) (Published.Value β) (Host ι σ)) : Nat :=
  (s.built.map h.own).sum + (s.pending.map h.own).sum

/-- What holds on a server with the plugin and its guests; so many plugins of the type are being built. -/
structure Hosted (h : HotSwap) (c : Collaborators ι σ) (building : Nat)
    (w : Hosting (Published κ) (Published.Value β) (Host ι σ)) : Prop where
  built : ∀ plugin ∈ w.server.built, h.Welcome c plugin
  pending : ∀ plugin ∈ w.server.pending, h.Welcome c plugin
  single : h.claimed w.server + building ≤ 1
  noted : h.info.id ∉ w.server.added → h.claimed w.server + building = 0
  listeners : w.server.listeners =
    if w.server.state = .built then Server.listenersOf (w.server.built.map (·.info)) else []
  serves : ∀ k : CoordinatorId, w.server.globals.get? .coordinator = some k → h.Serves w.outside k
  published : ∀ plugin ∈ w.server.built, plugin.info.id = h.info.id →
    ∃ k : CoordinatorId, w.server.globals.get? .coordinator = some k
  /-- A handle is not refreshed before it is registered. -/
  fresh : ∀ id ∈ (w.outside.registry h.registry).handles, (w.outside.handle id).installed = none →
    (w.outside.handle id).generation = 0
  sound : w.outside.Sound

namespace Hosted

variable {w : Hosting (Published κ) (Published.Value β) (Host ι σ)} {building extra : Nat}

theorem mono (hw : h.Hosted c (building + extra) w) : h.Hosted c building w := by
  have hsingle := hw.single
  exact { hw with
    single := by omega
    noted := fun hid => by have := hw.noted hid; omega }

/-- A step of somebody else outside the server. -/
theorem tended (hw : h.Hosted c building w) {s : Host ι σ} (htends : h.Tends w.outside s) :
    h.Hosted c building ⟨w.server, s⟩ := by
  refine { hw with
    serves := fun k hk => htends.serves (hw.serves k hk), fresh := fun id hid hi => ?_
    sound := htends.sound hw.sound }
  have hid' : id ∈ (w.outside.registry h.registry).handles := by rwa [← htends.registry]
  -- only a handle that was never registered has to be looked at: its generation is still 0
  cases hold : (w.outside.handle id).installed with
  | none =>
    show (s.handle id).generation = 0
    rw [htends.unregistered id hid' hold]
    exact hw.fresh id hid' hold
  | some i =>
    have hregistered := htends.registered id hid' (by rw [Handle.isRegistered, hold]; rfl)
    rw [Handle.isRegistered, show (s.handle id).installed = none from hi] at hregistered
    cases hregistered

theorem accepted (hw : h.Hosted c building w) (hplugin : h.Welcome c plugin)
    (haccepted : w.server.refusal? plugin.info = none) :
    h.Hosted c (building + h.own plugin) (w.update (·.noteId plugin.info.id)) := by
  have hadded : ∀ id, id ∈ w.server.added → id ∈ (w.server.noteId plugin.info.id).added := by
    intro id hid
    rw [Server.noteId]
    by_cases hknown : plugin.info.id ∈ w.server.added
    · simpa [hknown] using hid
    · simp [hknown, hid]
  have hclaimed : h.claimed (w.update (·.noteId plugin.info.id)).server = h.claimed w.server := rfl
  cases hplugin with
  | own =>
    -- the type is unique, so a second one would have been refused
    have hnew : h.info.id ∉ w.server.added := by
      intro hknown
      rw [Server.refusal?] at haccepted
      by_cases hbuilt : w.server.state = .built
      · rw [if_pos hbuilt] at haccepted
        cases haccepted
      · rw [if_neg hbuilt, if_pos ⟨rfl, hknown⟩] at haccepted
        cases haccepted
    have hnone := hw.noted hnew
    refine { hw with single := ?_, noted := fun hid => absurd ?_ hid }
    · rw [hclaimed, own_plugin]
      omega
    · show h.info.id ∈ (w.server.noteId h.info.id).added
      rw [Server.noteId, if_neg hnew]
      simp
  | guest hid hpolite =>
    rw [own, if_neg hid]
    exact { hw with noted := fun hnew => hw.noted fun hknown => hnew (hadded _ hknown) }

theorem enqueue (hw : h.Hosted c (building + h.own plugin) w) (hplugin : h.Welcome c plugin) :
    h.Hosted c building (w.update (·.enqueue plugin)) := by
  -- one plugin moves from those that are being built to the queue, so the sum stays
  have hclaimed : h.claimed (w.server.enqueue plugin) = h.claimed w.server + h.own plugin := by
    simp [claimed, Server.enqueue]
    omega
  have hsingle := hw.single
  refine { hw with pending := fun other hother => ?_, single := ?_, noted := fun hid => ?_ }
  · obtain hold | hnew := List.mem_append.mp hother
    · exact hw.pending other hold
    · rwa [List.mem_singleton.mp hnew]
  · show h.claimed (w.server.enqueue plugin) + building ≤ 1
    omega
  · have := hw.noted hid
    show h.claimed (w.server.enqueue plugin) + building = 0
    omega

theorem enroll (hw : h.Hosted c (building + h.own plugin) w) (hplugin : h.Welcome c plugin)
    (hstate : w.server.state ≠ .built) (hpublished : plugin.info.id = h.info.id →
      ∃ k : CoordinatorId, w.server.globals.get? .coordinator = some k) :
    h.Hosted c building (w.update (·.enroll plugin)) := by
  -- one plugin more is built, and one less is being built
  have hclaimed : h.claimed (w.server.enroll plugin) = h.claimed w.server + h.own plugin := by
    simp [claimed, Server.enroll]
    omega
  have hsingle := hw.single
  have hmem : ∀ other ∈ (w.server.enroll plugin).built, other ∈ w.server.built ∨ other = plugin := by
    intro other hother
    simpa [Server.enroll] using hother
  refine { hw with
    built := fun other hother => ?_, single := ?_, noted := fun hid => ?_, listeners := ?_
    published := fun other hother hid => ?_ }
  · obtain hold | rfl := hmem other hother
    · exact hw.built other hold
    · exact hplugin
  · show h.claimed (w.server.enroll plugin) + building ≤ 1
    omega
  · have := hw.noted hid
    show h.claimed (w.server.enroll plugin) + building = 0
    omega
  · have hlisteners := hw.listeners
    rw [if_neg hstate] at hlisteners
    exact hlisteners.trans (if_neg hstate).symm
  · obtain hold | rfl := hmem other hother
    · exact hw.published other hold hid
    · exact hpublished hid

theorem unqueued (hw : h.Hosted c building w) : h.Hosted c building (w.update (·.unqueued)) := by
  have hclaimed : h.claimed w.server = h.claimed w.server.unqueued + (w.server.pending.map h.own).sum := by
    simp [claimed, Server.unqueued]
  have hsingle := hw.single
  refine { hw with pending := nofun, single := ?_, noted := fun hid => ?_ }
  · show h.claimed w.server.unqueued + building ≤ 1
    omega
  · have := hw.noted hid
    show h.claimed w.server.unqueued + building = 0
    omega

theorem started (hw : h.Hosted c building w) (hqueue : queue.Perm w.server.pending)
    (hfresh : w.server.state = .notStarted) :
    h.Hosted c (building + (queue.map h.own).sum) (w.update (·.started)) := by
  -- the whole queue moves to those that are being built
  have hsum : (queue.map h.own).sum = (w.server.pending.map h.own).sum := (hqueue.map _).sum_nat
  have hclaimed : h.claimed w.server = h.claimed w.server.started + (queue.map h.own).sum := by
    simp [claimed, Server.started, hsum]
  have hsingle := hw.single
  refine { hw with pending := nofun, single := ?_, noted := fun hid => ?_, listeners := ?_ }
  · show h.claimed w.server.started + _ ≤ 1
    omega
  · have := hw.noted hid
    show h.claimed w.server.started + _ = 0
    omega
  · have hlisteners := hw.listeners
    rw [hfresh] at hlisteners
    exact hlisteners

theorem concluded (hw : h.Hosted c building w) : h.Hosted c building (w.update (·.concluded)) :=
  { hw with listeners := rfl }

theorem publish (hw : h.Hosted c building w) {k : Published κ} (hk : k ≠ .coordinator)
    (value : Published.Value β k) :
    h.Hosted c building (w.update fun s => { s with globals := (s.globals.insert k value).2 }) := by
  have hsame : (w.server.globals.insert k value).2.get? .coordinator = w.server.globals.get? .coordinator :=
    Resources.get?_insert_of_ne _ value hk
  refine { hw with serves := fun other hother => ?_, published := fun other hother hid => ?_ }
  · exact hw.serves other (hsame.symm.trans hother)
  · obtain ⟨found, hfound⟩ := hw.published other hother hid
    exact ⟨found, hsame.trans hfound⟩

end Hosted

end HotSwap

end LiveSwap
