import LiveSwap.HotSwap
import LiveSwap.Proofs.Cycle
import LiveSwap.Proofs.Ticks
import Mathlib.Order.Defs.Unbundled

/-!
# The course of ticks on the host

What may happen to the state outside a server while its plugins work, told from the marks of their ticks.
Between the marks there are steps that have nothing to do with the hot-swap plugin's registry, and refresh
cycles; a tick runs one cycle of its own if it is a tick of the plugin's schedule on a finished server, and
none otherwise. Ticks may contain ticks, whose cycles are their own.

* **`HotSwap.Course`** — that story, as a relation between two hosts and the marks in between.
* **`HotSwap.Course.spares`** — without a tick of the schedule on a finished server, the registry's handles
  and the reports about them stay as they are.
* **`HotSwap.Course.generation`** — if the library always delivers and none of those ticks is cut off, a
  registered handle counts them.
-/

namespace LiveSwap

variable {ι σ : Type}

/-! ## Steps that leave a registry alone -/

namespace Host

/-- The registry lists the same handles, which are as they were, and its coordinators keep their
reports. -/
structure Spares (r : RegistryId) (s s' : Host ι σ) : Prop where
  registry : s'.registry r = s.registry r
  handle : ∀ id ∈ (s.registry r).handles, s'.handle id = s.handle id
  coordinator : ∀ {k coordinator}, s.coordinator? k = some coordinator → coordinator.registry = r →
    s'.coordinator? k = some coordinator
  sound : s.Sound → s'.Sound

instance (r : RegistryId) : IsPreorder (Host ι σ) (Spares r) where
  refl _ := ⟨rfl, fun _ _ => rfl, fun hk _ => hk, id⟩
  trans _ _ _ h h' := by
    refine ⟨h'.registry.trans h.registry, fun id hid => ?_, fun hk hr => ?_, h'.sound ∘ h.sound⟩
    · rw [h'.handle id (by rwa [h.registry]), h.handle id hid]
    · exact h'.coordinator (h.coordinator hk hr) hr

theorem spares_addNotice (r : RegistryId) (s : Host ι σ) (n : Notice) : s.Spares r (s.addNotice n) :=
  ⟨rfl, fun _ _ => rfl, fun hk _ => hk, fun hs => hs.addNotice n⟩

theorem spares_after {α : Type} (r : RegistryId) (s : Host ι σ) (c : Conduct σ α) :
    s.Spares r (s.after c) :=
  ⟨rfl, fun _ _ => rfl, fun hk _ => hk, fun hs => hs.after c⟩

theorem spares_newCoordinator (r other : RegistryId) (config : HotSwapConfig) (s : Host ι σ) :
    s.Spares r ((Act.newCoordinator other config).runOn s).2 := by
  refine ⟨rfl, fun _ _ => rfl, fun {k coordinator} hk _ => ?_, fun hs => hs.congr rfl rfl⟩
  obtain ⟨hlt, -⟩ := List.getElem?_eq_some_iff.mp hk
  show (s.coordinators ++ [_])[k]? = some coordinator
  rw [List.getElem?_append_left hlt]
  exact hk

end Host

/-- An action that leaves a registry alone on every host that it can meet, also where it halts. -/
def Act.Sparing {α : Type} (r : RegistryId) (act : Act ι σ α) : Prop :=
  ∀ s : Host ι σ, s.Sound → s.Spares r (act.runOn s).2

theorem Act.Sparing.of_run {α : Type} {r : RegistryId} {act : Act ι σ α} (hact : act.Sparing r) {s t : Host ι σ}
    {result : Except Halt α} (hrun : act.runOn s = (result, t)) (hs : s.Sound) : s.Spares r t := by
  have hspares := hact s hs
  rwa [hrun] at hspares

theorem Act.sparing_log (r : RegistryId) (n : Notice) : (log n : Act ι σ Unit).Sparing r :=
  fun s _ => s.spares_addNotice r n

/-! ## Cycles of the plugin -/

namespace HotSwap

variable (h : HotSwap)

/-- A coordinator over the plugin's registry, with the plugin's settings. -/
def Serves (s : Host ι σ) (k : CoordinatorId) : Prop :=
  ∃ report, s.coordinator? k = some ⟨h.registry, h.config, report⟩

/-- What neither cycles nor other steps do: they list no handle, register none, empty none, and take no
coordinator away. -/
structure Tends (s s' : Host ι σ) : Prop where
  registry : s'.registry h.registry = s.registry h.registry
  registered : ∀ id ∈ (s.registry h.registry).handles, (s.handle id).isRegistered →
    (s'.handle id).isRegistered
  unregistered : ∀ id ∈ (s.registry h.registry).handles, (s.handle id).installed = none →
    s'.handle id = s.handle id
  serves : ∀ {k}, h.Serves s k → h.Serves s' k
  sound : s.Sound → s'.Sound

instance : IsPreorder (Host ι σ) h.Tends where
  refl _ := ⟨rfl, fun _ _ => id, fun _ _ _ => rfl, id, id⟩
  trans _ _ _ hst htu := by
    refine ⟨htu.registry.trans hst.registry, fun id hid hi => ?_, fun id hid hi => ?_,
      htu.serves ∘ hst.serves, htu.sound ∘ hst.sound⟩
    · exact htu.registered id (by rwa [hst.registry]) (hst.registered id hid hi)
    have hsame := hst.unregistered id hid hi
    rw [htu.unregistered id (by rwa [hst.registry]) (by rwa [hsame]), hsame]

variable {h} {c : Collaborators ι σ} {s s' : Host ι σ} {k : CoordinatorId} {id : HandleId}

theorem tends_of_spares (hspares : s.Spares h.registry s') : h.Tends s s' where
  registry := hspares.registry
  registered id hid hi := by rwa [hspares.handle id hid]
  unregistered id hid _ := hspares.handle id hid
  serves := by
    rintro k ⟨report, hk⟩
    exact ⟨report, hspares.coordinator hk rfl⟩
  sound := hspares.sound

theorem turn_of_cycle {ε : Type} {view : σ → List ε}
    {Step : Params → ι → Except Payload (Except RebuildError ι) → List ε → Prop} {capability : Capability}
    (hd : c.Detached) (hshows : (c.strategies.select capability).Shows view Step) (hs : s.Sound)
    {r : RegistryId} (hid : id ∈ (s.registry r).handles) : ∃ outcome shown,
      (s.handle id).Refreshed Step outcome ((s.cycle c r capability).2.handle id) shown := by
  obtain ⟨visits, -, hvisited, -, -, -⟩ := Host.cycle_visited hd hshows hs r
  rw [← hvisited.handles] at hid
  obtain ⟨visit, hvisit, rfl⟩ := List.mem_map.mp hid
  exact ⟨visit.outcome, visit.shown, hvisited.refreshed visit hvisit⟩

theorem Serves.keepReport {other : CoordinatorId} (hserves : h.Serves s other) (report : Report) :
    h.Serves (s.keepReport k report) other := by
  obtain ⟨last, hother⟩ := hserves
  -- only the coordinator that keeps the report changes, and only by that report
  have hmodify : (s.keepReport k report).coordinator? other =
      (if k = other then (fun coordinator => { coordinator with lastReport := some report }) <$>
        s.coordinators[other]? else s.coordinators[other]?) := by
    show (s.coordinators.modify k _)[other]? = _
    rw [List.getElem?_modify]
    by_cases hk : k = other
    · simp [hk]
    · simp [hk]
  rw [Host.coordinator?] at hother
  rw [Serves, hmodify, hother]
  by_cases hk : k = other
  · exact ⟨some report, by rw [if_pos hk]; rfl⟩
  · exact ⟨last, by rw [if_neg hk]⟩

theorem capability_cycle (s : Host ι σ) (c : Collaborators ι σ) (r : RegistryId) (capability : Capability) :
    (s.cycle c r capability).1.capability = capability := by
  show ((Report.start capability).recordAll _).capability = capability
  rw [Report.recordAll_eq]
  rfl

theorem tends_cycle (hd : c.Detached) (hs : s.Sound) (capability : Capability) :
    h.Tends s ((s.cycle c h.registry capability).2.keepReport k (s.cycle c h.registry capability).1) := by
  obtain ⟨-, hregistries, hcoordinators⟩ := s.cycle_frame c h.registry capability
  -- every listed handle has its turn, and no other handle does
  have hturn : ∀ id ∈ (s.registry h.registry).handles, ∃ outcome shown, (s.handle id).Refreshed
      (fun _ _ _ (_ : List Unit) => True) outcome ((s.cycle c h.registry capability).2.handle id) shown := by
    have hshows : (c.strategies.select capability).Shows (fun _ => ([] : List Unit)) fun _ _ _ _ => True :=
      fun _ _ _ => ⟨[], rfl, trivial⟩
    exact fun id hid => turn_of_cycle hd hshows hs hid
  refine ⟨?_, fun id hid hi => ?_, fun id hid hi => ?_, fun {other} hserves => ?_, fun _ => ?_⟩
  · show (s.cycle c h.registry capability).2.registry h.registry = _
    rw [Host.registry, Host.registry, hregistries]
  · show ((s.cycle c h.registry capability).2.handle id).isRegistered
    obtain ⟨outcome, shown, hturn⟩ := hturn id hid
    generalize (s.cycle c h.registry capability).2.handle id = afterwards at hturn ⊢
    cases hturn with
    | skipped _ => exact hi
    | swapped hi' _ =>
      rw [Handle.swap_of_installed hi']
      rfl
    | failed _ _ _ => exact hi
  · show (s.cycle c h.registry capability).2.handle id = s.handle id
    obtain ⟨outcome, shown, hturn⟩ := hturn id hid
    generalize (s.cycle c h.registry capability).2.handle id = afterwards at hturn ⊢
    cases hturn with
    | skipped _ => rfl
    | swapped hi' _ => rw [hi] at hi'; cases hi'
    | failed _ _ _ => rfl
  · obtain ⟨report, hother⟩ := hserves
    have hsame : h.Serves (s.cycle c h.registry capability).2 other := by
      refine ⟨report, ?_⟩
      rw [Host.coordinator?, hcoordinators]
      exact hother
    exact hsame.keepReport _
  · exact (hs.cycle c h.registry capability).congr rfl rfl

/-- **A cycle of the plugin's coordinator** ends with a report, unless asking for the version panicked. -/
theorem runOn_refreshAll (hd : c.Detached) (hs : s.Sound) (hserves : h.Serves s k) :
    (∃ payload, (c.refreshAll k).runOn s =
      (.error (.panic payload), s.after (c.settling h.config s.library))) ∨
    ∃ capability, (∀ forced ∈ h.config.forced, capability = forced) ∧ (c.refreshAll k).runOn s =
      (.ok (some ((s.after (c.settling h.config s.library)).cycle c h.registry capability).1),
        ((s.after (c.settling h.config s.library)).cycle c h.registry capability).2.keepReport k
          ((s.after (c.settling h.config s.library)).cycle c h.registry capability).1) := by
  obtain ⟨report, hk⟩ := hserves
  have hrun := Collaborators.runOn_refreshAll hd hs hk
  cases hanswer : (c.settling h.config s.library).answer with
  | error payload =>
    rw [hanswer] at hrun
    exact .inl ⟨payload, hrun⟩
  | ok capability =>
    rw [hanswer] at hrun
    refine .inr ⟨capability, fun forced hforced => ?_, hrun⟩
    rw [c.settling_of_forced hforced] at hanswer
    exact (Except.ok.inj hanswer).symm

theorem tends_refreshAll (hd : c.Detached) (hs : s.Sound) (hserves : h.Serves s k) :
    h.Tends s ((c.refreshAll k).runOn s).2 := by
  have hsettled : h.Tends s (s.after (c.settling h.config s.library)) := tends_of_spares (s.spares_after _ _)
  obtain ⟨payload, hrun⟩ | ⟨capability, -, hrun⟩ := runOn_refreshAll hd hs hserves
  · rw [hrun]
    exact hsettled
  · rw [hrun]
    exact trans_of h.Tends hsettled (tends_cycle hd (hs.after _) capability)

end HotSwap

/-! ## A library that always delivers -/

/-- Every rebuild gives an instance. -/
def Collaborators.Delivers (c : Collaborators ι σ) : Prop :=
  ∀ capability params current library, ∃ fresh,
    (((c.strategies.select capability).rebuild params current).conduct library).answer = .ok (.ok fresh)

theorem Collaborators.Delivers.shows {c : Collaborators ι σ} (h : c.Delivers) (capability : Capability) :
    (c.strategies.select capability).Shows (fun _ => ([] : List Unit))
      fun _ _ result _ => ∃ fresh, result = .ok (.ok fresh) :=
  fun params current library => ⟨[], rfl, h capability params current library⟩

theorem Handle.Refreshed.delivered {h h' : Handle ι} {outcome : Outcome} {shown : List Unit}
    (hr : h.Refreshed (fun _ _ result _ => ∃ fresh, result = .ok (.ok fresh)) outcome h' shown)
    (hregistered : h.isRegistered) :
    outcome = .swapped ∧ h'.isRegistered ∧ h'.generation = h.generation + 1 := by
  cases hr with
  | skipped hi => simp [Handle.isRegistered, hi] at hregistered
  | swapped hi _ =>
    rw [Handle.swap_of_installed hi]
    exact ⟨rfl, rfl, rfl⟩
  | failed _ hstep hfailure =>
    obtain ⟨fresh, rfl⟩ := hstep
    cases hfailure

theorem HotSwap.generation_cycle {h : HotSwap} {c : Collaborators ι σ} {s : Host ι σ} {id : HandleId}
    (hd : c.Detached) (hdelivers : c.Delivers) (hs : s.Sound) (hid : id ∈ (s.registry h.registry).handles)
    (hregistered : (s.handle id).isRegistered) (capability : Capability) :
    ((s.cycle c h.registry capability).2.handle id).isRegistered ∧
      ((s.cycle c h.registry capability).2.handle id).generation = (s.handle id).generation + 1 := by
  obtain ⟨outcome, shown, hturn⟩ := turn_of_cycle hd (hdelivers.shows capability) hs hid
  exact (hturn.delivered hregistered).2

theorem HotSwap.generation_refreshAll {h : HotSwap} {c : Collaborators ι σ} {s t : Host ι σ} {id : HandleId}
    {k : CoordinatorId} {report : Report} (hd : c.Detached) (hdelivers : c.Delivers) (hs : s.Sound)
    (hserves : h.Serves s k) (hid : id ∈ (s.registry h.registry).handles)
    (hregistered : (s.handle id).isRegistered) (hrun : (c.refreshAll k).runOn s = (.ok (some report), t)) :
    (t.handle id).isRegistered ∧ (t.handle id).generation = (s.handle id).generation + 1 := by
  obtain ⟨payload, hrun'⟩ | ⟨capability, -, hrun'⟩ := runOn_refreshAll hd hs hserves
  · rw [hrun] at hrun'
    cases hrun'
  · rw [hrun] at hrun'
    obtain ⟨-, rfl⟩ := Prod.mk.inj hrun'
    exact generation_cycle hd hdelivers (hs.after _) hid hregistered capability

/-! ## Courses -/

namespace HotSwap

/-- How many cycles a tick runs of its own. -/
def due (h : HotSwap) (schedule : ScheduleId) (finished : Bool) : Nat :=
  if finished ∧ schedule = h.config.schedule then 1 else 0

/-- What happens between two hosts, by the marks in between. A course that returns runs exactly so many
cycles outside of its ticks; one that halts runs at most so many. -/
inductive Course (h : HotSwap) (c : Collaborators ι σ) :
    (returned : Bool) → (cycles : Nat) → Host ι σ → Ticks → Host ι σ → Prop where
  | done {s : Host ι σ} : Course h c true 0 s [] s
  | halted {n : Nat} {s : Host ι σ} : Course h c false n s [] s
  /-- An action of somebody who does not use the registry. -/
  | spared {b : Bool} {n : Nat} {s t s' : Host ι σ} {ticks : Ticks} {effect : Act ι σ Unit}
      {result : Except Halt Unit} (hsparing : effect.Sparing h.registry) (hrun : effect.runOn s = (result, t))
      (rest : Course h c b n t ticks s') : Course h c b n s ticks s'
  /-- A cycle over the plugin's registry with the plugin's settings. -/
  | cycle {b : Bool} {n : Nat} {s t s' : Host ι σ} {ticks : Ticks} {k : CoordinatorId} {report : Report}
      (hserves : h.Serves s k) (hrun : (c.refreshAll k).runOn s = (.ok (some report), t))
      (hforced : ∀ forced ∈ h.config.forced, report.capability = forced)
      (rest : Course h c b n t ticks s') : Course h c b (n + 1) s ticks s'
  /-- A cycle that did not get beyond asking for the version. -/
  | broken {n : Nat} {s s' : Host ι σ} {k : CoordinatorId} {payload : Payload} (hserves : h.Serves s k)
      (hrun : (c.refreshAll k).runOn s = (.error (.panic payload), s')) : Course h c false (n + 1) s [] s'
  | tick {b finished : Bool} {n : Nat} {s t s' : Host ι σ} {schedule : ScheduleId} {during ticks : Ticks}
      (inner : Course h c true (h.due schedule finished) s during t) (rest : Course h c b n t ticks s') :
      Course h c b n s (.opened schedule finished :: (during ++ .closed schedule :: ticks)) s'
  /-- A tick that did not return. -/
  | stuck {finished : Bool} {n : Nat} {s s' : Host ι σ} {schedule : ScheduleId} {during : Ticks}
      (inner : Course h c false (h.due schedule finished) s during s') :
      Course h c false n s (.opened schedule finished :: during) s'
  /-- Something that halted, outside of the plugin's own cycles, and was caught. -/
  | caught {b : Bool} {n : Nat} {s t s' : Host ι σ} {during ticks : Ticks}
      (inner : Course h c false 0 s during t) (rest : Course h c b n t ticks s') :
      Course h c b n s (during ++ ticks) s'

namespace Course

variable {h : HotSwap} {c : Collaborators ι σ} {b : Bool} {n m : Nat} {s t s' : Host ι σ}
  {ticks more : Ticks}

theorem append (hfirst : h.Course c true n s ticks t) (hrest : h.Course c b m t more s') :
    h.Course c b (n + m) s (ticks ++ more) s' := by
  -- on the first course; the induction needs a variable where it says that it returned
  obtain ⟨returned, hreturned⟩ : ∃ returned, returned = true := ⟨_, rfl⟩
  rw [← hreturned] at hfirst
  induction hfirst with
  | done => rwa [Nat.zero_add]
  | halted => cases hreturned
  | spared hsparing hrun _ ih => exact .spared hsparing hrun (ih hrest hreturned)
  | cycle hserves hrun hforced _ ih =>
    rw [Nat.add_right_comm]
    exact .cycle hserves hrun hforced (ih hrest hreturned)
  | broken => cases hreturned
  | tick inner _ _ ih =>
    rw [List.cons_append, List.append_assoc]
    exact .tick inner (ih hrest hreturned)
  | stuck => cases hreturned
  | caught inner _ _ ih =>
    rw [List.append_assoc]
    exact .caught inner (ih hrest hreturned)

/-- Of a course that halts, only a bound is said. -/
theorem mono (hcourse : h.Course c false n s ticks s') (hle : n ≤ m) : h.Course c false m s ticks s' := by
  obtain ⟨returned, hreturned⟩ : ∃ returned, returned = false := ⟨_, rfl⟩
  rw [← hreturned] at hcourse
  -- a course that halts does not have to come to its full number
  induction hcourse generalizing m with
  | done => cases hreturned
  | halted => exact .halted
  | spared hsparing hrun _ ih => exact .spared hsparing hrun (ih hle hreturned)
  -- a cycle uses up one of the number
  | cycle hserves hrun hforced _ ih =>
    obtain _ | m := m
    · omega
    · exact .cycle hserves hrun hforced (ih (Nat.le_of_succ_le_succ hle) hreturned)
  | broken hserves hrun =>
    obtain _ | m := m
    · omega
    · exact .broken hserves hrun
  | tick inner _ _ ih => exact .tick inner (ih hle hreturned)
  | stuck inner _ => exact .stuck inner
  | caught inner _ _ ih => exact .caught inner (ih hle hreturned)

theorem tends (hd : c.Detached) (hcourse : h.Course c b n s ticks s') (hs : s.Sound) : h.Tends s s' := by
  -- each part of the course leaves the registry well kept for the next one
  induction hcourse with
  | done => exact refl_of h.Tends _
  | halted => exact refl_of h.Tends _
  | spared hsparing hrun _ ih =>
    have hspares := hsparing.of_run hrun hs
    exact trans_of h.Tends (tends_of_spares hspares) (ih (hspares.sound hs))
  | cycle hserves hrun _ _ ih =>
    have hcycle := tends_refreshAll hd hs hserves
    rw [hrun] at hcycle
    exact trans_of h.Tends hcycle (ih (hcycle.sound hs))
  | broken hserves hrun =>
    have hcycle := tends_refreshAll hd hs hserves
    rwa [hrun] at hcycle
  | tick _ _ hinner ih | caught _ _ hinner ih => exact trans_of h.Tends (hinner hs) (ih ((hinner hs).sound hs))
  | stuck _ hinner => exact hinner hs

/-- **Other ticks change nothing**: without a cycle of its own, and without a tick of the schedule on a
finished server, a course leaves the registry alone. -/
theorem spares (hd : c.Detached) (hcourse : h.Course c b n s ticks s') (hs : s.Sound) (hn : n = 0)
    (hticks : .opened h.config.schedule true ∉ ticks) : s.Spares h.registry s' := by
  -- a tick runs a cycle of its own only if it is one of the plugin's
  have hdue : ∀ {schedule finished}, (.opened h.config.schedule true : TickMark) ≠ .opened schedule finished →
      h.due schedule finished = 0 := by
    intro schedule finished hne
    refine if_neg ?_
    rintro ⟨rfl, rfl⟩
    exact hne rfl
  induction hcourse with
  | done => exact refl_of (Host.Spares _) _
  | halted => exact refl_of (Host.Spares _) _
  | spared hsparing hrun _ ih =>
    have hspares := hsparing.of_run hrun hs
    exact trans_of (Host.Spares _) hspares (ih (hspares.sound hs) hn hticks)
  -- nothing is due, so no cycle is run outside of a tick
  | cycle => omega
  | broken => omega
  | tick inner _ hinner ih =>
    rw [List.mem_cons, List.mem_append, List.mem_cons, not_or, not_or, not_or] at hticks
    obtain ⟨hopened, hduring, -, hrest⟩ := hticks
    exact trans_of (Host.Spares _) (hinner hs (hdue hopened) hduring) (ih ((inner.tends hd hs).sound hs) hn hrest)
  | stuck _ hinner =>
    rw [List.mem_cons, not_or] at hticks
    exact hinner hs (hdue hticks.1) hticks.2
  | caught inner _ hinner ih =>
    rw [List.mem_append, not_or] at hticks
    exact trans_of (Host.Spares _) (hinner hs rfl hticks.1) (ih ((inner.tends hd hs).sound hs) hn hticks.2)

theorem closed_le_begun (hcourse : h.Course c b n s ticks s') (schedule : ScheduleId) :
    ticks.count (.closed schedule) ≤ ticks.begun schedule := by
  induction hcourse with
  | done | halted | broken => exact Nat.le_refl _
  | spared _ _ _ ih => exact ih
  | cycle _ _ _ _ ih => exact ih
  -- a tick begins before it closes, and so do those inside
  | tick _ _ hinner ih =>
    rw [Ticks.begun_opened, Ticks.begun_append, Ticks.begun_closed, Ticks.count_closed_opened, List.count_append,
      Ticks.count_closed_cons]
    omega
  | stuck _ hinner =>
    rw [Ticks.begun_opened, Ticks.count_closed_opened]
    exact Nat.le_add_right_of_le hinner
  | caught _ _ hinner ih =>
    rw [Ticks.begun_append, List.count_append]
    exact Nat.add_le_add hinner ih

theorem count_opened (h : HotSwap) (schedule : ScheduleId) (finished : Bool) (ticks : Ticks) :
    List.count (.opened h.config.schedule true) (.opened schedule finished :: ticks) =
      h.due schedule finished + ticks.count (.opened h.config.schedule true) := by
  rw [List.count_cons, Nat.add_comm, due]
  congr 1
  simp only [beq_iff_eq, TickMark.opened.injEq]
  exact if_congr and_comm rfl rfl

/-- **A registered handle counts the ticks** of the schedule on a finished server, and the cycles that are
run otherwise, if the library always delivers and no tick of the schedule is cut off. -/
theorem generation (hd : c.Detached) (hdelivers : c.Delivers) (hcourse : h.Course c b n s ticks s')
    (hn : b = true ∨ n = 0) (hwhole : ticks.Whole h.config.schedule) (hs : s.Sound) {id : HandleId}
    (hid : id ∈ (s.registry h.registry).handles) (hregistered : (s.handle id).isRegistered) :
    (s'.handle id).isRegistered ∧ (s'.handle id).generation =
      (s.handle id).generation + .ofNat (n + ticks.count (.opened h.config.schedule true)) := by
  induction hcourse with
  | done => exact ⟨hregistered, (UInt64.add_zero _).symm⟩
  | halted =>
    obtain hn | rfl := hn
    · cases hn
    · exact ⟨hregistered, (UInt64.add_zero _).symm⟩
  | spared hsparing hrun _ ih =>
    have hspares := hsparing.of_run hrun hs
    have hsame := hspares.handle id hid
    rw [← hsame]
    exact ih hn hwhole (hspares.sound hs) (by rwa [hspares.registry]) (by rwa [hsame])
  | @cycle b n s t s' ticks k report hserves hrun _ _ ih =>
    have hcycle := tends_refreshAll hd hs hserves
    rw [hrun] at hcycle
    obtain ⟨hregistered', hgeneration⟩ := generation_refreshAll hd hdelivers hs hserves hid hregistered hrun
    have hreturned : b = true := hn.resolve_right (Nat.succ_ne_zero n)
    obtain ⟨hlast, hcount⟩ := ih (.inl hreturned) hwhole (hcycle.sound hs) (by rwa [hcycle.registry]) hregistered'
    refine ⟨hlast, hcount.trans ?_⟩
    rw [hgeneration, UInt64.add_assoc, Nat.add_right_comm, Nat.add_comm _ 1, UInt64.ofNat_add 1]
    rfl
  | broken => simp at hn
  | @tick b finished n s t s' schedule during ticks inner rest hinner ih =>
    have hduring := inner.tends hd hs
    -- a tick that is cut off inside would be missing outside too
    have hparts : during.Whole h.config.schedule ∧ ticks.Whole h.config.schedule := by
      have hinside := inner.closed_le_begun h.config.schedule
      have hrest := rest.closed_le_begun h.config.schedule
      rw [Ticks.Whole] at hwhole ⊢
      rw [Ticks.Whole]
      rw [Ticks.begun_opened, Ticks.begun_append, Ticks.begun_closed, Ticks.count_closed_opened, List.count_append,
        Ticks.count_closed_cons] at hwhole
      omega
    obtain ⟨hregistered', hcount⟩ := hinner (.inl rfl) hparts.1 hs hid hregistered
    obtain ⟨hlast, hcount'⟩ := ih hn hparts.2 (hduring.sound hs) (by rwa [hduring.registry]) hregistered'
    have hclosed : (TickMark.closed schedule :: ticks).count (.opened h.config.schedule true) =
        ticks.count (.opened h.config.schedule true) := List.count_cons_of_ne (by simp)
    refine ⟨hlast, hcount'.trans ?_⟩
    rw [hcount, UInt64.add_assoc, ← UInt64.ofNat_add, count_opened, List.count_append, hclosed]
    congr 2
    omega
  | @stuck finished n s s' schedule during inner hinner =>
    have hle := inner.closed_le_begun h.config.schedule
    rw [Ticks.Whole, Ticks.begun_opened, Ticks.count_closed_opened] at hwhole
    -- a tick of the schedule itself would be cut off
    have hother : schedule ≠ h.config.schedule := by
      rintro rfl
      rw [if_pos rfl] at hwhole
      omega
    rw [if_neg hother, Nat.add_zero] at hwhole
    have hdue : h.due schedule finished = 0 := if_neg fun hmatch => hother hmatch.2
    obtain ⟨hlast, hcount⟩ := hinner (.inr hdue) hwhole hs hid hregistered
    refine ⟨hlast, hcount.trans ?_⟩
    obtain hn | rfl := hn
    · cases hn
    · rw [count_opened, Nat.zero_add]
  | @caught b n s t s' during ticks inner rest hinner ih =>
    have hduring := inner.tends hd hs
    have hparts : during.Whole h.config.schedule ∧ ticks.Whole h.config.schedule := by
      have hinside := inner.closed_le_begun h.config.schedule
      have hrest := rest.closed_le_begun h.config.schedule
      rw [Ticks.Whole, Ticks.begun_append, List.count_append] at hwhole
      rw [Ticks.Whole, Ticks.Whole]
      omega
    obtain ⟨hregistered', hcount⟩ := hinner (.inr rfl) hparts.1 hs hid hregistered
    obtain ⟨hlast, hcount'⟩ := ih hn hparts.2 (hduring.sound hs) (by rwa [hduring.registry]) hregistered'
    refine ⟨hlast, hcount'.trans ?_⟩
    rw [hcount, UInt64.add_assoc, ← UInt64.ofNat_add, List.count_append, Nat.zero_add, Nat.add_left_comm]

end Course

end HotSwap

end LiveSwap
