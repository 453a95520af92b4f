import LiveSwap.Proofs.Guests
import Mathlib.Algebra.BigOperators.Ring.List
import Mathlib.Algebra.Order.BigOperators.Group.List
import Mathlib.Algebra.Order.Group.Nat
import Mathlib.Algebra.Ring.Nat

/-!
# What is due to ticks

On a server with a hot-swap plugin and guests, whatever a marked script does to the host is a course of the
ticks that it marks.

* **`HotSwap.Accounts`** — a marked action does what the plain one does, keeps the server's invariant, and
  the host takes a course with so many cycles of its own; closed under sequencing.
* **`HotSwap.accounts_tick`** — a tick calls the plugin exactly if it is one of its schedule on a finished
  server, and then once.
* **`HotSwap.accounts_run`** — a polite script runs no cycle outside of ticks.
-/

namespace LiveSwap.HotSwap

variable {ι σ κ γ : Type} {β : κ → Type} [DecidableEq κ] {h : HotSwap} {c : Collaborators ι σ}
  {building extra n m : Nat}

/-! ## Passages -/

/-- From one state of a server to another, by the ticks in between: how the invariant fares, and which
course the host took. Of servers that were finished without the plugin nothing is said. -/
structure Passage (h : HotSwap) (c : Collaborators ι σ) (building cycles : Nat)
    (w : Hosting (Published κ) (Published.Value β) (Host ι σ)) (returned : Bool)
    (w' : Hosting (Published κ) (Published.Value β) (Host ι σ)) (ticks : Ticks) : Prop where
  hosted : h.Hosted c building w'
  abides : w.server.Abides w'.server
  finished : ∀ {schedule}, .opened schedule true ∈ ticks → w'.server.state = .built
  course : h.Present w'.server → h.Course c returned cycles w.outside ticks w'.outside

variable {w w₁ w' : Hosting (Published κ) (Published.Value β) (Host ι σ)} {returned : Bool}
  {ticks more : Ticks}

namespace Passage

theorem done (hw : h.Hosted c building w) : h.Passage c building 0 w true w [] :=
  ⟨hw, refl_of Server.Abides _, nofun, fun _ => .done⟩

theorem halted (hw : h.Hosted c building w) : h.Passage c building n w false w [] :=
  ⟨hw, refl_of Server.Abides _, nofun, fun _ => .halted⟩

theorem andThen (hfirst : h.Passage c extra n w true w₁ ticks)
    (hrest : h.Passage c building m w₁ returned w' more) :
    h.Passage c building (n + m) w returned w' (ticks ++ more) := by
  refine ⟨hrest.hosted, trans_of Server.Abides hfirst.abides hrest.abides, fun {schedule} hticks => ?_,
    fun hpresent => (hfirst.course (hpresent.of_abides hrest.abides)).append (hrest.course hpresent)⟩
  obtain hbefore | hafter := List.mem_append.mp hticks
  · exact hrest.abides.finished (hfirst.finished hbefore)
  · exact hrest.finished hafter

/-- Something that halted, and what comes when that has been caught. -/
theorem caught (hfirst : h.Passage c building 0 w false w₁ ticks)
    (hrest : h.Passage c building n w₁ returned w' more) :
    h.Passage c building n w returned w' (ticks ++ more) := by
  refine ⟨hrest.hosted, trans_of Server.Abides hfirst.abides hrest.abides, fun {schedule} hticks => ?_,
    fun hpresent => .caught (hfirst.course (hpresent.of_abides hrest.abides)) (hrest.course hpresent)⟩
  obtain hbefore | hafter := List.mem_append.mp hticks
  · exact hrest.abides.finished (hfirst.finished hbefore)
  · exact hrest.finished hafter

/-- What comes after a halt does not happen. -/
theorem cut (hfirst : h.Passage c (building + extra) n w false w' ticks) :
    h.Passage c building (n + m) w false w' ticks :=
  ⟨hfirst.hosted.mono, hfirst.abides, hfirst.finished, fun hpresent =>
    (hfirst.course hpresent).mono (Nat.le_add_right _ _)⟩

theorem tick {schedule : ScheduleId}
    (hinner : h.Passage c building (h.due schedule w.server.isBuilt) w true w₁ ticks)
    (hrest : h.Passage c building n w₁ returned w' more) :
    h.Passage c building n w returned w'
      (.opened schedule w.server.isBuilt :: (ticks ++ .closed schedule :: more)) := by
  have habides := trans_of Server.Abides hinner.abides hrest.abides
  refine ⟨hrest.hosted, habides, fun {other} hticks => ?_, fun hpresent =>
    .tick (hinner.course (hpresent.of_abides hrest.abides)) (hrest.course hpresent)⟩
  rw [List.mem_cons, List.mem_append, List.mem_cons] at hticks
  obtain hopened | hduring | hclosed | hafter := hticks
  · exact habides.finished (of_decide_eq_true (TickMark.opened.inj hopened).2.symm)
  · exact hrest.abides.finished (hinner.finished hduring)
  · cases hclosed
  · exact hrest.finished hafter

theorem stuck {schedule : ScheduleId}
    (hinner : h.Passage c building (h.due schedule w.server.isBuilt) w false w' ticks) :
    h.Passage c building n w false w' (.opened schedule w.server.isBuilt :: ticks) := by
  refine ⟨hinner.hosted, hinner.abides, fun {other} hticks => ?_, fun hpresent => .stuck (hinner.course hpresent)⟩
  obtain hopened | hduring := List.mem_cons.mp hticks
  · exact hinner.abides.finished (of_decide_eq_true (TickMark.opened.inj hopened).2.symm)
  · exact hinner.finished hduring

end Passage

/-! ## Accounts -/

/-- The marked action does on marked plugins what the other one does on the plain ones, and its marks tell
the course of the host. -/
def Accounts (h : HotSwap) (c : Collaborators ι σ) (building cycles : Nat)
    (act' : ServerAct (Published κ) (Published.Value β) (Host ι σ × Ticks) Unit)
    (act : ServerAct (Published κ) (Published.Value β) (Host ι σ) Unit)
    (w : Hosting (Published κ) (Published.Value β) (Host ι σ)) : Prop :=
  ∃ result w' ticks, act.runOn w = (result, w') ∧
    (∀ before, act'.runOn (w.marked before) = (result, w'.marked (before ++ ticks))) ∧
    h.Passage c building cycles w result.isOk w' ticks

variable {act' next' : ServerAct (Published κ) (Published.Value β) (Host ι σ × Ticks) Unit}
  {act next : ServerAct (Published κ) (Published.Value β) (Host ι σ) Unit}

theorem accounts_pure (hw : h.Hosted c building w) : h.Accounts c building 0 (pure ()) (pure ()) w :=
  ⟨.ok (), w, [], rfl, fun before => by rw [w.marked_append_nil]; rfl, .done hw⟩

theorem accounts_throw (hw : h.Hosted c building w) (halt : Halt) :
    h.Accounts c building n (throw halt) (throw halt) w :=
  ⟨.error halt, w, [], rfl, fun before => by rw [w.marked_append_nil]; rfl, .halted hw⟩

namespace Accounts

theorem bind (hact : h.Accounts c (building + extra) n act' act w)
    (hnext : ∀ w₁, act.runOn w = (.ok (), w₁) → h.Hosted c (building + extra) w₁ →
      w.server.Abides w₁.server → h.Accounts c building m next' next w₁) :
    h.Accounts c building (n + m) (act' >>= fun _ => next') (act >>= fun _ => next) w := by
  obtain ⟨halt | _, w₁, ticks, hrun, hrun', hpassage⟩ := hact
  · exact ⟨.error halt, w₁, ticks, Effect.runOn_bind_error hrun,
      fun before => Effect.runOn_bind_error (hrun' before), hpassage.cut⟩
  · obtain ⟨result, w', more, hlast, hlast', hrest⟩ := hnext w₁ hrun hpassage.hosted hpassage.abides
    refine ⟨result, w', ticks ++ more, (Effect.runOn_bind_ok hrun).trans hlast, fun before => ?_,
      hpassage.andThen hrest⟩
    rw [Effect.runOn_bind_ok (hrun' before), hlast', List.append_assoc]

/-- Where nothing is done of its own, what follows decides. -/
theorem bind_zero (hact : h.Accounts c (building + extra) 0 act' act w)
    (hnext : ∀ w₁, act.runOn w = (.ok (), w₁) → h.Hosted c (building + extra) w₁ →
      w.server.Abides w₁.server → h.Accounts c building n next' next w₁) :
    h.Accounts c building n (act' >>= fun _ => next') (act >>= fun _ => next) w := by
  rw [← Nat.zero_add n]
  exact hact.bind hnext

theorem seq (hact : h.Accounts c building 0 act' act w)
    (hnext : ∀ w₁, h.Hosted c building w₁ → w.server.Abides w₁.server →
      h.Accounts c building n next' next w₁) :
    h.Accounts c building n (act' >>= fun _ => next') (act >>= fun _ => next) w := by
  have hextra : h.Accounts c (building + 0) 0 act' act w := hact
  exact hextra.bind_zero fun w₁ _ => hnext w₁

theorem attempt {next' : Except Payload Unit → ServerAct (Published κ) (Published.Value β) (Host ι σ × Ticks) Unit}
    {next : Except Payload Unit → ServerAct (Published κ) (Published.Value β) (Host ι σ) Unit}
    (hact : h.Accounts c building 0 act' act w)
    (hnext : ∀ result w₁, h.Hosted c building w₁ → h.Accounts c building n (next' result) (next result) w₁) :
    h.Accounts c building n (Effect.attempt act' >>= next') (Effect.attempt act >>= next) w := by
  obtain ⟨result, w₁, ticks, hrun, hrun', hpassage⟩ := hact
  have hcaught := Effect.runOn_attempt act w
  have hcaught' := fun before => Effect.runOn_attempt act' (w.marked before)
  simp only [hrun] at hcaught
  simp only [hrun'] at hcaught'
  cases result with
  | ok _ =>
    obtain ⟨result, w', more, hlast, hlast', hrest⟩ := hnext (.ok ()) w₁ hpassage.hosted
    have hboth := hpassage.andThen hrest
    rw [Nat.zero_add] at hboth
    refine ⟨result, w', ticks ++ more, (Effect.runOn_bind_ok hcaught).trans hlast, fun before => ?_, hboth⟩
    rw [Effect.runOn_bind_ok (hcaught' before), hlast', List.append_assoc]
  | error halt =>
    cases halt with
    | panic payload =>
      obtain ⟨result, w', more, hlast, hlast', hrest⟩ := hnext (.error payload) w₁ hpassage.hosted
      refine ⟨result, w', ticks ++ more, (Effect.runOn_bind_ok hcaught).trans hlast, fun before => ?_,
        hpassage.caught hrest⟩
      rw [Effect.runOn_bind_ok (hcaught' before), hlast', List.append_assoc]
    | _ =>
      -- nobody catches this
      exact ⟨_, w₁, ticks, Effect.runOn_bind_error hcaught, fun before =>
        Effect.runOn_bind_error (hcaught' before), hpassage.hosted, hpassage.abides, hpassage.finished,
        fun hpresent => (hpassage.course hpresent).mono (Nat.zero_le n)⟩

/-- What comes to another action on the server as it is after a step of its own. -/
theorem of_runs {v : Hosting (Published κ) (Published.Value β) (Host ι σ)}
    (hnext : h.Accounts c building n next' next v) (hrun : act.runOn w = next.runOn v)
    (hrun' : ∀ before, act'.runOn (w.marked before) = next'.runOn (v.marked before))
    (houtside : v.outside = w.outside) (habides : w.server.Abides v.server) :
    h.Accounts c building n act' act w := by
  obtain ⟨result, w', ticks, hlast, hlast', hhosted, habides', hfinished, hcourse⟩ := hnext
  rw [houtside] at hcourse
  exact ⟨result, w', ticks, hrun.trans hlast, fun before => (hrun' before).trans (hlast' before), hhosted,
    trans_of Server.Abides habides habides', hfinished, hcourse⟩

theorem of_eq (hnext : h.Accounts c building n next' next w) (hrun : act.runOn w = next.runOn w)
    (hrun' : ∀ before, act'.runOn (w.marked before) = next'.runOn (w.marked before)) :
    h.Accounts c building n act' act w :=
  hnext.of_runs hrun hrun' rfl (refl_of Server.Abides _)

theorem congr (hact : h.Accounts c building n act' act w)
    (heq : ∀ w' : Hosting (Published κ) (Published.Value β) (Host ι σ), w.server.Abides w'.server →
      h.Present w'.server → n = m) : h.Accounts c building m act' act w := by
  obtain ⟨result, w', ticks, hrun, hrun', hhosted, habides, hfinished, hcourse⟩ := hact
  refine ⟨result, w', ticks, hrun, hrun', hhosted, habides, hfinished, fun hpresent => ?_⟩
  rw [← heq w' habides hpresent]
  exact hcourse hpresent

theorem forM (fits : Hosting (Published κ) (Published.Value β) (Host ι σ) → Prop)
    (hfits : ∀ {w w'}, fits w → w.server.Abides w'.server → fits w')
    {each' : γ → ServerAct (Published κ) (Published.Value β) (Host ι σ × Ticks) Unit}
    {each : γ → ServerAct (Published κ) (Published.Value β) (Host ι σ) Unit} (cycles : γ → Nat)
    (heach : ∀ x {w}, fits w → h.Hosted c building w → h.Accounts c building (cycles x) (each' x) (each x) w) :
    ∀ (xs : List γ) {w}, fits w → h.Hosted c building w →
      h.Accounts c building (xs.map cycles).sum (xs.forM each') (xs.forM each) w
  | [], _, _, hw => accounts_pure hw
  | x :: xs, _, hfit, hw => by
    rw [List.map_cons, List.sum_cons]
    have hfirst : h.Accounts c (building + 0) (cycles x) (each' x) (each x) _ := heach x hfit hw
    exact hfirst.bind fun w₁ _ hw₁ habides => forM fits hfits cycles heach xs (hfits hfit habides) hw₁

end Accounts

/-! ## Steps of the server and of the host -/

theorem accounts_updateServer {f' : Server (Published κ) (Published.Value β) (Host ι σ × Ticks) →
      Server (Published κ) (Published.Value β) (Host ι σ × Ticks)}
    {f : Server (Published κ) (Published.Value β) (Host ι σ) →
      Server (Published κ) (Published.Value β) (Host ι σ)}
    (hmarked : f' w.server.marked = (f w.server).marked) (hw : h.Hosted c building (w.update f))
    (habides : w.server.Abides (f w.server)) :
    h.Accounts c building 0 (ServerAct.updateServer f') (ServerAct.updateServer f) w := by
  refine ⟨.ok (), w.update f, [], rfl, fun before => ?_, hw, habides, nofun, fun _ => .done⟩
  show (Except.ok (), (⟨f' w.server.marked, w.outside, before⟩ :
    Hosting (Published κ) (Published.Value β) (Host ι σ × Ticks))) = _
  rw [hmarked, List.append_nil]
  rfl

theorem accounts_outside {effect : Act ι σ Unit} {s : Host ι σ} {result : Except Halt Unit}
    (hrun : effect.runOn w.outside = (result, s)) (hw : h.Hosted c building ⟨w.server, s⟩)
    (hcourse : h.Course c result.isOk n w.outside [] s) :
    h.Accounts c building n (ServerAct.outside (besideTicks effect)) (ServerAct.outside effect) w := by
  refine ⟨result, ⟨w.server, s⟩, [], ?_, fun before => ?_, hw, refl_of Server.Abides _, nofun, fun _ => hcourse⟩
  · rw [ServerAct.outside, Effect.runOn_onPart, hrun]
  · rw [ServerAct.outside, Effect.runOn_onPart, besideTicks, Effect.runOn_onPart, List.append_nil]
    show ((effect.runOn w.outside).1, (⟨w.server.marked, (effect.runOn w.outside).2, before⟩ :
      Hosting (Published κ) (Published.Value β) (Host ι σ × Ticks))) = _
    rw [hrun]
    rfl

theorem accounts_sparing {effect : Act ι σ Unit} (hw : h.Hosted c building w)
    (hsparing : effect.Sparing h.registry) :
    h.Accounts c building 0 (ServerAct.outside (besideTicks effect)) (ServerAct.outside effect) w := by
  have hspares := hsparing w.outside hw.sound
  refine accounts_outside (Prod.eta _).symm (hw.tended (tends_of_spares hspares)) (.spared hsparing rfl ?_)
  cases (effect.runOn w.outside).1 with
  | error halt => exact .halted
  | ok _ => exact .done

theorem accounts_marks {schedule : ScheduleId}
    (htick : h.Accounts c building (h.due schedule w.server.isBuilt) act' act w)
    (hnext : ∀ w₁, h.Hosted c building w₁ → h.Accounts c building n next' next w₁) :
    h.Accounts c building n
      (ServerAct.outside (TickMark.opened schedule w.server.isBuilt).write >>= fun _ => act' >>= fun _ =>
        ServerAct.outside (TickMark.closed schedule).write >>= fun _ => next')
      (act >>= fun _ => next) w := by
  have hwrite : ∀ (v : Hosting (Published κ) (Published.Value β) (Host ι σ)) (mark : TickMark) before
      (rest : ServerAct (Published κ) (Published.Value β) (Host ι σ × Ticks) Unit),
      (ServerAct.outside mark.write >>= fun _ => rest).runOn (v.marked before) =
        rest.runOn (v.marked (before ++ [mark])) := fun _ _ _ _ => rfl
  -- a tick that halts leaves its second mark unwritten
  obtain ⟨halt | _, w₁, ticks, hrun, hrun', hpassage⟩ := htick
  · refine ⟨.error halt, w₁, .opened schedule w.server.isBuilt :: ticks, Effect.runOn_bind_error hrun,
      fun before => ?_, hpassage.stuck⟩
    rw [hwrite, Effect.runOn_bind_error (hrun' _), List.append_assoc]
    rfl
  · obtain ⟨result, w', more, hlast, hlast', hrest⟩ := hnext w₁ hpassage.hosted
    refine ⟨result, w', _, (Effect.runOn_bind_ok hrun).trans hlast, fun before => ?_, hpassage.tick hrest⟩
    rw [hwrite, Effect.runOn_bind_ok (hrun' _), hwrite, hlast']
    simp

/-! ## The operations of a server -/

/-- How many cycles a call of a plugin runs of its own. -/
def cycles (h : HotSwap) (plugin : Plugin (Published κ) (Published.Value β) (Host ι σ)) : Phase → Nat
  | .update _ => h.own plugin
  | _ => 0

/-- The places that hear a schedule stand for the plugin once if it is the plugin's, and not at all
otherwise. -/
theorem sum_heard (hw : h.Hosted c building w) (hpresent : h.Present w.server)
    (hbuilt : w.server.state = .built) (schedule : ScheduleId) :
    ((((Server.listenersOf (w.server.built.map (·.info))).lookup schedule).getD []).map fun place =>
        (w.server.built[place]?.map h.own).getD 0).sum = h.due schedule w.server.isBuilt := by
  have heard : ∀ plugin ∈ w.server.built, plugin.info.schedules.count schedule * h.own plugin =
      (if schedule = h.config.schedule then 1 else 0) * h.own plugin :=
    fun plugin hplugin => (hw.built plugin hplugin).heard schedule
  -- one plugin of the type at most, and one is there
  have hone : (w.server.built.map h.own).sum = 1 := by
    obtain ⟨plugin, hplugin, hid⟩ := hpresent hbuilt
    have hle : h.own plugin ≤ (w.server.built.map h.own).sum := List.le_sum_of_mem (List.mem_map_of_mem hplugin)
    rw [own, if_pos hid] at hle
    have hsingle := hw.single
    rw [claimed] at hsingle
    omega
  rw [Server.sum_listenersOf, List.map_congr_left heard, List.sum_map_mul_left, hone, Nat.mul_one, due,
    Server.isBuilt]
  simp [hbuilt]

/-- What is asked of calls: updating the plugin runs one cycle, no other call runs any; and the plugin
publishes a coordinator while it is built. -/
structure Calls (h : HotSwap) (c : Collaborators ι σ)
    (call' : Plugin (Published κ) (Published.Value β) (Host ι σ × Ticks) → Phase →
      ServerAct (Published κ) (Published.Value β) (Host ι σ × Ticks) Unit)
    (call : Plugin (Published κ) (Published.Value β) (Host ι σ) → Phase →
      ServerAct (Published κ) (Published.Value β) (Host ι σ) Unit) : Prop where
  accounts : ∀ {building w plugin phase}, h.Hosted c building w → h.Welcome c plugin →
    (∀ schedule, phase = .update schedule → plugin ∈ w.server.built) →
    h.Accounts c building (h.cycles plugin phase) (call' plugin.marked phase) (call plugin phase) w
  publishes : ∀ {w w' : Hosting (Published κ) (Published.Value β) (Host ι σ)},
    (call (h.plugin c) .build).runOn w = (.ok (), w') →
      ∃ k : CoordinatorId, w'.server.globals.get? .coordinator = some k

section Operations

variable {call' : Plugin (Published κ) (Published.Value β) (Host ι σ × Ticks) → Phase →
    ServerAct (Published κ) (Published.Value β) (Host ι σ × Ticks) Unit}
  {call : Plugin (Published κ) (Published.Value β) (Host ι σ) → Phase →
    ServerAct (Published κ) (Published.Value β) (Host ι σ) Unit}
  {plugin : Plugin (Published κ) (Published.Value β) (Host ι σ)}
  {queue : List (Plugin (Published κ) (Published.Value β) (Host ι σ))}
  (hcall : h.Calls c call' call)
include hcall

theorem accounts_construct (hw : h.Hosted c (building + h.own plugin) w) (hplugin : h.Welcome c plugin)
    (hstate : w.server.state = .building) :
    h.Accounts c building 0 (ServerAct.construct call' plugin.marked) (ServerAct.construct call plugin) w := by
  have hbuild : h.Accounts c (building + h.own plugin) 0 (call' plugin.marked .build) (call plugin .build) w :=
    hcall.accounts hw hplugin fun _ heq => by cases heq
  refine hbuild.bind_zero fun w₁ hrun hw₁ habides => ?_
  have hstate₁ : w₁.server.state ≠ .built := by
    rw [habides.state (by rw [hstate]; nofun), hstate]
    nofun
  refine accounts_updateServer (w₁.server.marked_enroll plugin).symm (hw₁.enroll hplugin hstate₁ fun hid => ?_)
    (Server.abides_of_state rfl hstate₁)
  cases hplugin with
  | own => exact hcall.publishes hrun
  | guest hother _ => exact absurd hid hother

theorem accounts_add (hw : h.Hosted c building w) (hplugin : h.Welcome c plugin) :
    h.Accounts c building 0 (ServerAct.add call' plugin.marked) (ServerAct.add call plugin) w := by
  have hrefusal' : ∀ before, (w.marked before).server.refusal? plugin.info = w.server.refusal? plugin.info :=
    fun _ => rfl
  have hstate' : ∀ before, (w.marked before).server.state = w.server.state := fun _ => rfl
  have hrun := ServerAct.runOn_add call plugin w
  have hrun' := fun before => ServerAct.runOn_add call' plugin.marked (w.marked before)
  simp only [Plugin.info_marked, hrefusal', hstate'] at hrun'
  -- the marks show neither in the server's state nor in what it refuses
  cases haccepted : w.server.refusal? plugin.info with
  | some refusal =>
    simp only [haccepted] at hrun hrun'
    exact (accounts_throw hw _).of_eq hrun hrun'
  | none =>
    simp only [haccepted] at hrun hrun'
    have hnoted := hw.accepted hplugin haccepted
    have habides : w.server.Abides (w.server.noteId plugin.info.id) := ⟨fun _ => rfl, fun _ => rfl⟩
    -- a plugin is built at once while the server builds, and waits otherwise
    by_cases hstate : w.server.state = .building
    · simp only [hstate, if_true] at hrun hrun'
      exact (accounts_construct hcall hnoted hplugin hstate).of_runs hrun hrun' rfl habides
    · simp only [hstate, if_false] at hrun hrun'
      refine (accounts_pure (hnoted.enqueue hplugin)).of_runs hrun (fun before => (hrun' before).trans ?_) rfl
        ⟨fun _ => rfl, fun _ => rfl⟩
      show (Except.ok (), (⟨(w.server.noteId plugin.info.id).marked.enqueue plugin.marked, w.outside, before⟩ :
        Hosting (Published κ) (Published.Value β) (Host ι σ × Ticks))) = _
      rw [← Server.marked_enqueue]
      rfl

theorem accounts_buildEach (hw : h.Hosted c (building + (queue.map h.own).sum) w)
    (hqueue : ∀ plugin ∈ queue, h.Welcome c plugin) (hstate : w.server.state = .building) :
    h.Accounts c building 0 (ServerAct.buildEach call' (queue.map (·.marked)))
      (ServerAct.buildEach call queue) w := by
  induction queue generalizing w with
  | nil => exact accounts_pure hw
  | cons plugin queue ih =>
    rw [List.map_cons, ServerAct.buildEach_cons, ServerAct.buildEach_cons]
    rw [List.map_cons, List.sum_cons, Nat.add_comm (h.own plugin), ← Nat.add_assoc] at hw
    refine (accounts_construct hcall hw (hqueue plugin List.mem_cons_self) hstate).bind_zero
      fun w₁ _ hw₁ habides => ?_
    refine ih hw₁ (fun other hother => hqueue other (List.mem_cons_of_mem _ hother)) ?_
    rw [habides.state (by rw [hstate]; nofun), hstate]

theorem accounts_callAt (hw : h.Hosted c building w) (phase : Phase) (place : Nat) :
    h.Accounts c building ((w.server.built[place]?.map (h.cycles · phase)).getD 0)
      (ServerAct.callAt call' phase place) (ServerAct.callAt call phase place) w := by
  have hrun := ServerAct.runOn_callAt call phase place w
  have hrun' := fun before => ServerAct.runOn_callAt call' phase place (w.marked before)
  simp only [Hosting.getElem?_built_marked, Hosting.length_built_marked] at hrun'
  -- the plugin at the place, marked or not, runs its own cycles
  cases hplace : w.server.built[place]? with
  | none =>
    simp only [hplace, Option.map_none] at hrun hrun'
    exact (accounts_throw hw _).of_eq hrun hrun'
  | some plugin =>
    simp only [hplace, Option.map_some] at hrun hrun'
    have hmem := List.mem_of_getElem? hplace
    have hcalled : h.Accounts c building (h.cycles plugin phase) (call' plugin.marked phase) (call plugin phase) w :=
      hcall.accounts hw (hw.built plugin hmem) fun _ _ => hmem
    exact hcalled.of_eq hrun hrun'

theorem accounts_readyFrom (hw : h.Hosted c building w) (rounds place : Nat) :
    h.Accounts c building 0 (ServerAct.readyFrom call' rounds place) (ServerAct.readyFrom call rounds place)
      w := by
  -- both loops stop at the same place, because marks build nobody
  induction rounds generalizing place w with
  | zero =>
    have hrun := ServerAct.runOn_readyFrom call 0 place w
    have hrun' := fun before => ServerAct.runOn_readyFrom call' 0 place (w.marked before)
    simp only [Hosting.getElem?_built_marked] at hrun'
    cases hplace : w.server.built[place]? with
    | none =>
      simp only [hplace, Option.map_none] at hrun hrun'
      exact (accounts_pure hw).of_eq hrun hrun'
    | some plugin =>
      simp only [hplace, Option.map_some] at hrun hrun'
      exact (accounts_throw hw _).of_eq hrun hrun'
  | succ rounds ih =>
    have hrun := ServerAct.runOn_readyFrom call (rounds + 1) place w
    have hrun' := fun before => ServerAct.runOn_readyFrom call' (rounds + 1) place (w.marked before)
    simp only [Hosting.getElem?_built_marked] at hrun'
    cases hplace : w.server.built[place]? with
    | none =>
      simp only [hplace, Option.map_none] at hrun hrun'
      exact (accounts_pure hw).of_eq hrun hrun'
    | some plugin =>
      simp only [hplace, Option.map_some] at hrun hrun'
      have hready : h.Accounts c building 0 (call' plugin.marked .ready) (call plugin .ready) w :=
        hcall.accounts hw (hw.built plugin (List.mem_of_getElem? hplace)) fun _ heq => by cases heq
      exact (hready.seq fun w₁ hw₁ _ => ih hw₁ (place + 1)).of_eq hrun hrun'

theorem accounts_finish (hw : h.Hosted c building w) (rounds : Nat) :
    h.Accounts c building 0 (ServerAct.finish call' rounds) (ServerAct.finish call rounds) w := by
  have horder' : ∀ before, (w.marked before).server.inOrder = w.server.inOrder.map (·.map (·.marked)) :=
    fun _ => w.server.marked_inOrder
  have hstate' : ∀ before, (w.marked before).server.state = w.server.state := fun _ => rfl
  have hrun := ServerAct.runOn_finish call rounds w
  have hrun' := fun before => ServerAct.runOn_finish call' rounds (w.marked before)
  simp only [horder', hstate'] at hrun'
  by_cases hfresh : w.server.state = .notStarted
  · simp only [hfresh, if_true] at hrun hrun'
    cases horder : w.server.inOrder with
    | error error =>
      simp only [horder, Except.map] at hrun hrun'
      exact (accounts_throw hw.unqueued _).of_runs hrun hrun' rfl (Server.abides_of_notStarted hfresh)
    | ok queue =>
      simp only [horder, Except.map] at hrun hrun'
      have hperm := Server.perm_of_inOrder horder
      -- nothing that is called while the server builds can conclude it
      have hbuilding : h.Accounts c building 0
          (ServerAct.buildEach call' (queue.map (·.marked)) >>= fun _ => ServerAct.readyFrom call' rounds 0)
          (ServerAct.buildEach call queue >>= fun _ => ServerAct.readyFrom call rounds 0)
          (w.update (·.started)) :=
        (accounts_buildEach hcall (hw.started hperm hfresh)
          (fun plugin hplugin => hw.pending plugin (hperm.mem_iff.mp hplugin)) rfl).seq
            fun w₁ hw₁ _ => accounts_readyFrom hcall hw₁ rounds 0
      have hcomplete : ServerAct.complete call rounds queue =
          (ServerAct.buildEach call queue >>= fun _ => ServerAct.readyFrom call rounds 0) >>= fun _ =>
            ServerAct.updateServer (·.concluded) := (bind_assoc ..).symm
      have hcomplete' : ServerAct.complete call' rounds (queue.map (·.marked)) =
          (ServerAct.buildEach call' (queue.map (·.marked)) >>= fun _ =>
            ServerAct.readyFrom call' rounds 0) >>= fun _ => ServerAct.updateServer (·.concluded) :=
        (bind_assoc ..).symm
      rw [hcomplete] at hrun
      rw [hcomplete'] at hrun'
      obtain ⟨halt | _, w₁, ticks, hlast, hlast', hpassage⟩ := hbuilding
      · exact ⟨.error halt, w₁, ticks, hrun.trans (Effect.runOn_bind_error hlast),
          fun before => (hrun' before).trans (Effect.runOn_bind_error (hlast' before)), hpassage.hosted,
          Server.abides_of_notStarted hfresh, hpassage.finished, hpassage.course⟩
      · have hunfinished : w₁.server.state ≠ .built := by
          rw [hpassage.abides.state nofun]
          nofun
        refine ⟨.ok (), w₁.update (·.concluded), ticks, hrun.trans (Effect.runOn_bind_ok hlast),
          fun before => (hrun' before).trans ?_, hpassage.hosted.concluded,
          Server.abides_of_notStarted hfresh, fun _ => rfl,
          fun _ => hpassage.course fun hbuilt => absurd hbuilt hunfinished⟩
        refine (Effect.runOn_bind_ok (hlast' before)).trans ?_
        show (Except.ok (), (⟨w₁.server.marked.concluded, w₁.outside, before ++ ticks⟩ :
          Hosting (Published κ) (Published.Value β) (Host ι σ × Ticks))) = _
        rw [← Server.marked_concluded]
        rfl
  · simp only [hfresh, if_false] at hrun hrun'
    exact (accounts_throw hw _).of_eq hrun hrun'

theorem accounts_cleanup (hw : h.Hosted c building w) :
    h.Accounts c building 0 (ServerAct.cleanup call') (ServerAct.cleanup call) w := by
  have hrun := ServerAct.runOn_cleanup call w
  have hrun' := fun before => ServerAct.runOn_cleanup call' (w.marked before)
  simp only [Hosting.length_built_marked] at hrun'
  -- a cleanup call runs no cycle
  have hnone : ∀ (v : Hosting (Published κ) (Published.Value β) (Host ι σ)) (place : Nat),
      (v.server.built[place]?.map fun plugin => h.cycles plugin .cleanup).getD 0 = 0 := by
    intro v place
    cases v.server.built[place]? with
    | none => rfl
    | some plugin => rfl
  have heach := Accounts.forM (fun _ => True) (fun _ _ => trivial) (fun _ => 0)
    (fun place {v} _ hv => hnone v place ▸ accounts_callAt hcall hv .cleanup place)
    (List.range w.server.built.length).reverse trivial hw
  rw [List.map_const', List.sum_replicate_nat, Nat.mul_zero] at heach
  exact heach.of_eq hrun hrun'

/-- **A tick** runs the cycles that are due. -/
theorem accounts_tick (hw : h.Hosted c building w) (schedule : ScheduleId) :
    h.Accounts c building (h.due schedule w.server.isBuilt) (ServerAct.tick call' schedule)
      (ServerAct.tick call schedule) w := by
  have hlisteners' : ∀ before, (w.marked before).server.listeners = w.server.listeners := fun _ => rfl
  have hrun := ServerAct.runOn_tick call schedule w
  have hrun' := fun before => ServerAct.runOn_tick call' schedule (w.marked before)
  simp only [hlisteners'] at hrun'
  rw [hw.listeners] at hrun
  simp only [hw.listeners] at hrun'
  by_cases hbuilt : w.server.state = .built
  · simp only [hbuilt, if_true] at hrun hrun'
    -- the places are looked up once, so no call may move the plugins
    have heach := Accounts.forM (fun v => v.server.state = .built ∧ v.server.built = w.server.built)
      (fun {v u} hv hu => ⟨(hu.state (by simp [hv.1])).trans hv.1, (hu.built hv.1).trans hv.2⟩)
      (fun place => (w.server.built[place]?.map h.own).getD 0)
      (fun place {v} hv hosted => hv.2 ▸ accounts_callAt hcall hosted (.update schedule) place)
      (((Server.listenersOf (w.server.built.map (·.info))).lookup schedule).getD []) ⟨hbuilt, rfl⟩ hw
    refine (heach.of_eq hrun hrun').congr fun w' habides hpresent => ?_
    exact sum_heard hw (hpresent.of_abides habides) hbuilt schedule
  · simp only [hbuilt, if_false] at hrun hrun'
    have hnone : h.due schedule w.server.isBuilt = 0 := by
      rw [due, Server.isBuilt]
      simp [hbuilt]
    rw [hnone]
    exact (accounts_pure hw).of_eq hrun hrun'

/-- **Following a polite script** runs no cycle outside of its ticks. -/
theorem accounts_exec (rounds : Nat) {script : Script (Published κ) (Published.Value β) (Host ι σ)}
    (hpolite : h.Polite c script) (hw : h.Hosted c building w) :
    h.Accounts c building 0 (script.marked.exec call' rounds) (script.exec call rounds) w := by
  -- one case per constructor: what is polite about the script is polite about what follows
  induction script using Script.exec.induct generalizing w with
  | case1 => exact accounts_pure hw
  | case2 payload => exact accounts_throw hw _
  | case3 plugin next ih =>
    cases hpolite with
    | add hplugin hnext => exact (accounts_add hcall hw hplugin).seq fun w₁ hw₁ _ => ih hnext hw₁
  | case4 next ih =>
    cases hpolite with
    | finish hnext => exact (accounts_finish hcall hw rounds).seq fun w₁ hw₁ _ => ih hnext hw₁
  | case5 schedule next ih =>
    cases hpolite with
    | tick _ hnext =>
      exact (accounts_marks (accounts_tick hcall hw schedule) fun w₁ hw₁ => ih hnext hw₁).of_eq rfl fun _ => rfl
  | case6 next ih =>
    cases hpolite with
    | cleanup hnext => exact (accounts_cleanup hcall hw).seq fun w₁ hw₁ _ => ih hnext hw₁
  | case7 next ih =>
    cases hpolite with
    | isBuilt hnext => exact (ih w.server (hnext _) hw).of_eq rfl fun _ => rfl
  | case8 k value next ih =>
    cases hpolite with
    | publish hk hnext =>
      have hnext' := ih (w.server.globals.get? k) (hnext _) (hw.publish hk value)
      exact hnext'.of_runs rfl (fun _ => rfl) rfl ⟨fun _ => rfl, fun _ => rfl⟩
  | case9 k next ih =>
    cases hpolite with
    | lookUp hnext => exact (ih w.server (hnext _) hw).of_eq rfl fun _ => rfl
  | case10 effect next ih =>
    cases hpolite with
    | perform heffect hnext => exact (accounts_sparing hw heffect).seq fun w₁ hw₁ _ => ih hnext hw₁
  | case11 next ih =>
    cases hpolite with
    | inspect hnext => exact (ih w (hnext _) hw).of_eq rfl fun _ => rfl
  | case12 body next hbody hnext =>
    cases hpolite with
    | attempt hpolite hafter =>
      exact (hbody hpolite hw).attempt fun result w₁ hw₁ => hnext result (hafter result) hw₁

end Operations

/-! ## Calling the plugin -/

/-- The server with the plugin's registry and the newest coordinator published. -/
def announced (h : HotSwap) (w : Hosting (Published κ) (Published.Value β) (Host ι σ)) :
    Hosting (Published κ) (Published.Value β) (Host ι σ) :=
  (w.update fun s => { s with globals := (s.globals.insert .registry h.registry).2 }).update fun s =>
    { s with globals := (s.globals.insert .coordinator w.outside.coordinators.length).2 }

omit [DecidableEq κ] in
theorem polite_ready : h.Polite c (h.ready : Script (Published κ) (Published.Value β) (Host ι σ)) :=
  .inspect fun _ => .perform (Act.sparing_log _ _) .done

omit [DecidableEq κ] in
theorem polite_cleanup : h.Polite c (h.cleanup : Script (Published κ) (Published.Value β) (Host ι σ)) :=
  .inspect fun _ => .perform (Act.sparing_log _ _) .done

section Calls

variable {call' : Plugin (Published κ) (Published.Value β) (Host ι σ × Ticks) → Phase →
    ServerAct (Published κ) (Published.Value β) (Host ι σ × Ticks) Unit}
  {call : Plugin (Published κ) (Published.Value β) (Host ι σ) → Phase →
    ServerAct (Published κ) (Published.Value β) (Host ι σ) Unit}

theorem runOn_build (rounds : Nat) (w : Hosting (Published κ) (Published.Value β) (Host ι σ)) :
    (h.build.exec call rounds).runOn w =
      (.ok (), ⟨(h.announced w).server, ((Act.newCoordinator h.registry h.config).runOn w.outside).2⟩) := rfl

theorem accounts_build (hw : h.Hosted c building w) (rounds : Nat) :
    h.Accounts c building 0 (h.build.marked.exec call' rounds) (h.build.exec call rounds) w := by
  have hsparing : (discard (Act.newCoordinator h.registry h.config) : Act ι σ Unit).Sparing h.registry :=
    fun s _ => s.spares_newCoordinator h.registry h.registry h.config
  have hspares := hsparing w.outside hw.sound
  have hkept := (hw.tended (tends_of_spares hspares)).publish (k := .registry) nofun h.registry
  have hnew : (h.announced w).server.globals.get? .coordinator = some w.outside.coordinators.length :=
    Resources.get?_insert_self ..
  refine ⟨.ok (), _, [], runOn_build rounds w, fun before => ?_, ?_, ⟨fun _ => rfl, fun _ => rfl⟩, nofun,
    fun _ => .spared hsparing rfl .done⟩
  · rw [List.append_nil]
    rfl
  -- the new coordinator is the one that the plugin published
  · refine { hkept with serves := fun k hk => ?_, published := fun _ _ _ => ⟨_, hnew⟩ }
    obtain rfl : w.outside.coordinators.length = k := Option.some.inj (hnew.symm.trans hk)
    exact ⟨none, List.getElem?_concat_length ..⟩

theorem accounts_update (hd : c.Detached) (hw : h.Hosted c building w) {k : CoordinatorId}
    (hk : w.server.globals.get? .coordinator = some k) (rounds : Nat) :
    h.Accounts c building 1 ((update c).marked.exec call' rounds) ((update c).exec call rounds) w := by
  have hserves := hw.serves k hk
  have htends := tends_refreshAll hd hw.sound hserves
  have hcycle : h.Accounts c building 1 (ServerAct.outside (besideTicks (discard (c.refreshAll k))))
      (ServerAct.outside (discard (c.refreshAll k))) w := by
    refine accounts_outside (Effect.runOn_discard _ _) (hw.tended htends) ?_
    -- the cycle is cut off by the probe, or it returns a report
    obtain ⟨payload, hrun⟩ | ⟨capability, hforced, hrun⟩ := runOn_refreshAll hd hw.sound hserves
    · rw [hrun]
      exact .broken hserves hrun
    · rw [hrun]
      refine .cycle hserves hrun (fun forced hforce => ?_) .done
      rw [capability_cycle, hforced forced hforce]
  -- the plugin finds the coordinator that it published, with the marks and without
  have hrun : ((update c).exec call rounds).runOn w =
      (ServerAct.outside (discard (c.refreshAll k)) >>= fun _ => pure ()).runOn w := by
    rw [update, Script.exec, ServerAct.runOn_server_bind, hk]
    rfl
  have hrun' : ∀ before, ((update c).marked.exec call' rounds).runOn (w.marked before) =
      (ServerAct.outside (besideTicks (discard (c.refreshAll k))) >>= fun _ => pure ()).runOn (w.marked before) := by
    intro before
    have hmarked : (w.marked before).server.globals.get? .coordinator = some k := hk
    rw [update, Script.marked, Script.exec, ServerAct.runOn_server_bind, hmarked]
    rfl
  have hone : h.Accounts c (building + 0) 1 _ _ w := hcycle
  have hdone := hone.bind fun w₁ _ hw₁ _ => accounts_pure hw₁
  exact hdone.of_eq hrun hrun'

end Calls

/-- **Calls** are as they have to be, however deep they nest. -/
theorem calls_invoke (hd : c.Detached) (depth : Nat) :
    h.Calls c (ServerAct.invoke (κ := Published κ) (β := Published.Value β) depth) (ServerAct.invoke depth) := by
  induction depth with
  -- no call returns here
  | zero => exact ⟨fun hw _ _ => accounts_throw hw _, fun hrun => by cases hrun⟩
  | succ depth ih =>
    refine ⟨fun {building w plugin phase} hw hplugin hbuilt => ?_, fun {w w'} hrun => ?_⟩
    · rw [ServerAct.invoke_succ, ServerAct.invoke_succ, Plugin.script_marked]
      cases hplugin with
      | guest hid hpolite =>
        have hnone : h.cycles plugin phase = 0 := by
          cases phase with
          | update schedule => exact if_neg hid
          | _ => rfl
        rw [hnone]
        exact accounts_exec ih depth (hpolite phase) hw
      | own =>
        cases phase with
        | build => exact accounts_build hw depth
        | ready => exact accounts_exec ih depth polite_ready hw
        | cleanup => exact accounts_exec ih depth polite_cleanup hw
        | update schedule =>
          obtain ⟨k, hk⟩ := hw.published _ (hbuilt schedule rfl) rfl
          show h.Accounts c building (h.own (h.plugin c)) _ _ w
          rw [own_plugin]
          exact accounts_update hd hw hk depth
    · obtain ⟨-, rfl⟩ := Prod.mk.inj ((runOn_build depth w).symm.trans hrun)
      exact ⟨_, Resources.get?_insert_self ..⟩

/-- **A run of a polite script**, whatever ticks it issues and whatever ticks these lead to. -/
theorem accounts_run (hd : c.Detached) (depth : Nat)
    {script : Script (Published κ) (Published.Value β) (Host ι σ)} (hpolite : h.Polite c script)
    (hw : h.Hosted c building w) :
    h.Accounts c building 0 (ServerAct.run depth script.marked) (ServerAct.run depth script) w :=
  accounts_exec (calls_invoke hd depth) depth hpolite hw

end LiveSwap.HotSwap
