import LiveSwap.Proofs.ServerSteps
import Mathlib.Algebra.GroupWithZero.Nat

/-!
# Ticks and who hears them

Plugins that mark their ticks: each writes down when it is about to tick a schedule, with whether the
server is finished by then, and when the tick has returned. Apart from that, a marked plugin does what the
plugin does.

* **`Script.marked`**, **`Plugin.marked`** — the same behaviour, with marks.
* **`Hosting.marked`** — a server with the state outside it, its plugins marked, and marks made so far.
* **`Server.lookup_listenersOf`** — the places that hear a schedule: each plugin's place once for every
  mention, in build order.
-/

namespace LiveSwap

/-! ## Marks -/

/-- What is written down about a tick. -/
inductive TickMark where
  | opened (schedule : ScheduleId) (finished : Bool)
  | closed (schedule : ScheduleId)
  deriving DecidableEq, Repr

abbrev Ticks := List TickMark

namespace Ticks

def begun (schedule : ScheduleId) (ticks : Ticks) : Nat :=
  ticks.count (.opened schedule true) + ticks.count (.opened schedule false)

/-- No tick of the schedule is cut off. -/
def Whole (schedule : ScheduleId) (ticks : Ticks) : Prop := ticks.count (.closed schedule) = ticks.begun schedule

instance (schedule : ScheduleId) (ticks : Ticks) : Decidable (ticks.Whole schedule) :=
  inferInstanceAs (Decidable (_ = _))

variable (schedule other : ScheduleId) (ticks more : Ticks)

theorem begun_append : begun schedule (ticks ++ more) = ticks.begun schedule + more.begun schedule := by
  rw [begun, List.count_append, List.count_append, begun, begun]
  omega

theorem begun_opened (finished : Bool) : begun schedule (.opened other finished :: ticks) =
    ticks.begun schedule + if other = schedule then 1 else 0 := by
  rw [begun, List.count_cons, List.count_cons, begun]
  cases finished with
  | false => simp [Nat.add_assoc]
  | true => simp [Nat.add_right_comm]

theorem begun_closed : begun schedule (.closed other :: ticks) = ticks.begun schedule := by
  simp [begun]

theorem count_closed_cons : List.count (.closed schedule) (.closed other :: ticks) =
    ticks.count (.closed schedule) + if other = schedule then 1 else 0 := by
  simp [List.count_cons]

theorem count_closed_opened (finished : Bool) : List.count (.closed schedule) (.opened other finished :: ticks) =
    ticks.count (.closed schedule) := by
  simp

end Ticks

variable {κ : Type} {β : κ → Type} {ω : Type}

/-- Writes a mark behind the others. -/
def TickMark.write (mark : TickMark) : Effect (ω × Ticks) Unit := modify fun o => (o.1, o.2 ++ [mark])

/-- An effect on the outside state, where there are marks as well. -/
def besideTicks {α : Type} (act : Effect ω α) : Effect (ω × Ticks) α :=
  act.onPart (·.1) fun outside o => (outside, o.2)

mutual

def Plugin.marked : Plugin κ β ω → Plugin κ β (ω × Ticks)
  | .mk info build ready cleanup update =>
    .mk info build.marked ready.marked cleanup.marked fun schedule => (update schedule).marked

/-- The script, with a mark before and a mark after each of its ticks. -/
def Script.marked : Script κ β ω → Script κ β (ω × Ticks)
  | .done => .done
  | .panic payload => .panic payload
  | .add plugin next => .add plugin.marked next.marked
  | .finish next => .finish next.marked
  | .tick schedule next =>
    .isBuilt fun finished => .perform (TickMark.opened schedule finished).write
      (.tick schedule (.perform (TickMark.closed schedule).write next.marked))
  | .cleanup next => .cleanup next.marked
  | .isBuilt next => .isBuilt fun b => (next b).marked
  | .publish k value next => .publish k value fun replaced => (next replaced).marked
  | .lookUp k next => .lookUp k fun found => (next found).marked
  | .perform act next => .perform (besideTicks act) next.marked
  | .inspect next => .inspect fun o => (next o.1).marked
  | .attempt body next => .attempt body.marked fun result => (next result).marked

end

@[simp] theorem Plugin.info_marked (plugin : Plugin κ β ω) : plugin.marked.info = plugin.info := by
  cases plugin
  rw [marked]
  rfl

theorem Plugin.script_marked (plugin : Plugin κ β ω) (phase : Phase) :
    plugin.marked.script phase = (plugin.script phase).marked := by
  cases plugin
  rw [marked]
  cases phase <;> rfl

/-! ## Servers with marked plugins -/

namespace Server

variable (s : Server κ β ω)

def marked : Server κ β (ω × Ticks) :=
  ⟨s.globals, s.pending.map (·.marked), s.built.map (·.marked), s.added, s.listeners, s.state⟩

theorem marked_enqueue (plugin : Plugin κ β ω) :
    (s.enqueue plugin).marked = s.marked.enqueue plugin.marked := by
  simp [marked, enqueue]

theorem marked_enroll (plugin : Plugin κ β ω) :
    (s.enroll plugin).marked = s.marked.enroll plugin.marked := by
  simp [marked, enroll]

theorem marked_concluded : s.concluded.marked = s.marked.concluded := by
  simp [marked, concluded, Function.comp_def]

theorem marked_inOrder : s.marked.inOrder = s.inOrder.map (·.map (·.marked)) := by
  have hqueue : s.marked.pending.map (·.info) = s.pending.map (·.info) := by
    simp [marked, Function.comp_def]
  have hbuilt : s.marked.built.map (·.info.id) = s.built.map (·.info.id) := by
    simp [marked, Function.comp_def]
  rw [inOrder, inOrder, hqueue, hbuilt]
  cases dependencyOrder (s.pending.map (·.info)) (s.built.map (·.info.id)) with
  | error error => rfl
  | ok places => simp [marked, Except.map, List.map_filterMap]

end Server

/-- The server with its plugins marked, and the marks so far beside the outside state. -/
def Hosting.marked (h : Hosting κ β ω) (ticks : Ticks) : Hosting κ β (ω × Ticks) :=
  ⟨h.server.marked, h.outside, ticks⟩

namespace Hosting

variable (h : Hosting κ β ω) (ticks : Ticks)

theorem marked_append_nil : h.marked (ticks ++ []) = h.marked ticks := by
  rw [List.append_nil]

theorem getElem?_built_marked (place : Nat) :
    (h.marked ticks).server.built[place]? = h.server.built[place]?.map (·.marked) := List.getElem?_map ..

@[simp] theorem length_built_marked :
    (h.marked ticks).server.built.length = h.server.built.length := List.length_map ..

end Hosting

/-! ## Who hears a tick -/

namespace Server

theorem lookup_listen (listeners : List (ScheduleId × List Nat)) (schedule heard : ScheduleId) (place : Nat) :
    ((listen listeners schedule place).lookup heard).getD [] =
      (listeners.lookup heard).getD [] ++ if schedule = heard then [place] else [] := by
  -- the place is put behind those of its schedule, wherever that stands in the list
  induction listeners with
  | nil =>
    by_cases hheard : schedule = heard
    · simp [listen, hheard]
    · have hne : (heard == schedule) = false := beq_eq_false_iff_ne.mpr (Ne.symm hheard)
      simp [listen, List.lookup_cons, hne, hheard]
  | cons entry listeners ih =>
    obtain ⟨first, places⟩ := entry
    rw [listen]
    by_cases hfirst : first = schedule
    · rw [if_pos hfirst, List.lookup_cons, List.lookup_cons]
      by_cases hheard : schedule = heard
      · simp [hfirst, hheard]
      · have hne : (heard == first) = false := beq_eq_false_iff_ne.mpr fun h => hheard (hfirst.symm.trans h.symm)
        simp [hne, hheard]
    · rw [if_neg hfirst, List.lookup_cons, List.lookup_cons]
      by_cases hheard : heard = first
      · have hother : schedule ≠ heard := fun h => hfirst (hheard.symm.trans h.symm)
        simp [hheard, show schedule ≠ first from fun h => hfirst h.symm]
      · rw [beq_eq_false_iff_ne.mpr hheard]
        exact ih

/-- A place that listens to several schedules is heard of once for each mention. -/
theorem lookup_listen_all (schedules : List ScheduleId) (listeners : List (ScheduleId × List Nat))
    (heard : ScheduleId) (place : Nat) :
    ((schedules.foldl (listen · · place) listeners).lookup heard).getD [] =
      (listeners.lookup heard).getD [] ++ List.replicate (schedules.count heard) place := by
  induction schedules generalizing listeners with
  | nil => simp
  | cons schedule schedules ih =>
    rw [List.foldl_cons, ih, lookup_listen, List.append_assoc]
    by_cases hheard : schedule = heard
    · rw [if_pos hheard, hheard, List.count_cons_self, List.replicate_succ]
      rfl
    · rw [if_neg hheard, List.count_cons_of_ne hheard, List.nil_append]

/-- **The places that hear a schedule.** -/
theorem lookup_listenersOf (infos : List PluginInfo) (heard : ScheduleId) :
    ((listenersOf infos).lookup heard).getD [] =
      infos.zipIdx.flatMap fun entry => List.replicate (entry.1.schedules.count heard) entry.2 := by
  have hfold : ∀ (entries : List (PluginInfo × Nat)) (listeners : List (ScheduleId × List Nat)),
      ((entries.foldl (fun ls entry => entry.1.schedules.foldl (listen · · entry.2) ls) listeners).lookup
          heard).getD [] = (listeners.lookup heard).getD [] ++
        entries.flatMap fun entry => List.replicate (entry.1.schedules.count heard) entry.2 := by
    intro entries
    induction entries with
    | nil => simp
    | cons entry entries ih =>
      intro listeners
      rw [List.foldl_cons, ih, lookup_listen_all, List.flatMap_cons, List.append_assoc]
  exact hfold infos.zipIdx []

/-- What the plugins that hear a schedule weigh together: each counts once for every mention. -/
theorem sum_listenersOf (built : List (Plugin κ β ω)) (heard : ScheduleId) (weight : Plugin κ β ω → Nat) :
    ((((listenersOf (built.map (·.info))).lookup heard).getD []).map fun place =>
        (built[place]?.map weight).getD 0).sum =
      (built.map fun plugin => plugin.info.schedules.count heard * weight plugin).sum := by
  -- each place is listed once for every mention, and looking it up gives the plugin back
  have hsum : ∀ entries : List (Plugin κ β ω × Nat), (∀ entry ∈ entries, built[entry.2]? = some entry.1) →
      (entries.flatMap fun entry => (List.replicate (entry.1.info.schedules.count heard) entry.2).map
        fun place => (built[place]?.map weight).getD 0).sum =
      ((entries.map (·.1)).map fun plugin => plugin.info.schedules.count heard * weight plugin).sum := by
    intro entries
    induction entries with
    | nil => exact fun _ => rfl
    | cons entry entries ih =>
      intro hplaces
      rw [List.flatMap_cons, List.sum_append, ih fun other hother => hplaces other (.tail _ hother)]
      simp [hplaces entry List.mem_cons_self]
  rw [lookup_listenersOf, List.zipIdx_map, List.flatMap_map, List.map_flatMap]
  refine (hsum built.zipIdx fun entry hentry => List.mem_zipIdx_iff_getElem?.mp hentry).trans ?_
  rw [List.zipIdx_map_fst]

end Server

end LiveSwap
