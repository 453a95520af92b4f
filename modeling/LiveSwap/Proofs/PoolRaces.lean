import LiveSwap.Pool.Workers
import LiveSwap.Proofs.PoolSerials
import LiveSwap.Proofs.ReloadLock

/-!
# Pools between threads

Threads that call the pool library, register its pools, refresh handles and work on them, one atomic move
at a time, in any order. A refresh may ask the library for anything while it holds the reload lock of its
handle, and others may call the library meanwhile; a worker may read an instance at any moment.

* **`Races.Move`** — the moves of one thread.
* **`Races.Locked`** — no two threads refresh one handle at a time; kept by every move.
* **`Races.Served`** — what a handle has served, from the history alone, and that its serials grow.
* **`Races.growing`** — so no worker sees a serial go back, whatever order the threads make their moves in.
-/

namespace LiveSwap.Pool

namespace Races

open Interleaving (Turn Turns)

/-! ## Moves -/

/-- What the threads share. -/
structure Site where
  handles : HandleId → Handle Pool
  library : Library
  /-- The pools that the library has returned, in order. -/
  pools : List Pool

namespace Site

def operate (s : Site) (op : Library.Op) : Site :=
  { s with library := (op.apply s.library).2, pools := s.pools ++ (op.apply s.library).1.toList }

def setHandle (s : Site) (id : HandleId) (h : Handle Pool) : Site :=
  { s with handles := Function.update s.handles id h }

@[simp] theorem handles_setHandle_self (s : Site) (id : HandleId) (h : Handle Pool) :
    (s.setHandle id h).handles id = h := Function.update_self ..

@[simp] theorem handles_setHandle_of_ne (s : Site) {id other : HandleId} (hne : other ≠ id) (h : Handle Pool) :
    (s.setHandle id h).handles other = s.handles other := Function.update_of_ne hne ..

end Site

/-- Where a thread is. -/
inductive Stage where
  | idle
  /-- It holds the reload lock and rebuilds. -/
  | rebuilding (id : HandleId)
  /-- It has a fresh pool that is not installed. -/
  | holding (id : HandleId) (fresh : Pool)
  /-- It has nothing left to do but give the lock back. -/
  | settled (id : HandleId)
  /-- It is a worker between two rounds. -/
  | working (id : HandleId) (worker : Worker)
  /-- It is a worker in a round, with the pool that it works on. -/
  | engaged (id : HandleId) (worker : Worker) (pool : Pool)

namespace Stage

/-- The handle whose reload lock the thread holds. -/
def locks? : Stage → Option HandleId
  | rebuilding id | holding id _ | settled id => some id
  | _ => none

/-- The fresh pool that the thread is about to install, and where. -/
def fresh? : Stage → Option (HandleId × Pool)
  | holding id fresh => some (id, fresh)
  | _ => none

theorem locks?_of_fresh? {stage : Stage} {id : HandleId} {fresh : Pool} (h : stage.fresh? = some (id, fresh)) :
    stage.locks? = some id := by
  cases stage with
  | holding other pool =>
    cases h
    rfl
  | _ => cases h

/-- The worker that the thread is, and its handle. -/
def worker? : Stage → Option (HandleId × Worker)
  | working id worker | engaged id worker _ => some (id, worker)
  | _ => none

end Stage

/-- What a thread does in one move. -/
inductive Event where
  | operated (op : Library.Op)
  | created (id : HandleId) (name : String)
  | registered (id : HandleId) (first : Pool)
  | began (id : HandleId)
  /-- The rebuild came to nothing. -/
  | failed (id : HandleId)
  | installed (id : HandleId) (fresh : Pool)
  | ended (id : HandleId)
  | hired (id : HandleId)
  | sampled (id : HandleId) (pool : Pool)

/-- The moves of one thread. A rebuild comes to any pool that the library returns while the lock is held, or
to nothing. What a worker reads is the instance of that moment; it does not matter that it has passed the
barrier before. -/
inductive Move : Stage → Site → Event → Stage → Site → Prop where
  | operate {stage : Stage} {s : Site} (op : Library.Op) : Move stage s (.operated op) stage (s.operate op)
  | create {s : Site} {id : HandleId} (name : String) (hnew : s.handles id = Handle.create "") :
      Move .idle s (.created id name) .idle (s.setHandle id (Handle.create name))
  | register {s : Site} {id : HandleId} {first : Pool} {params : Params} {h : Handle Pool}
      (hfirst : first ∈ s.pools) (hregister : (s.handles id).register first params = .ok h) :
      Move .idle s (.registered id first) .idle (s.setHandle id h)
  | start {s : Site} {id : HandleId} (hregistered : (s.handles id).isRegistered)
      (hfree : (s.handles id).reloading = false) :
      Move .idle s (.began id) (.rebuilding id) (s.setHandle id (s.handles id).lock)
  | build {s : Site} {id : HandleId} {fresh : Pool} (op : Library.Op)
      (hfresh : (op.apply s.library).1 = some fresh) :
      Move (.rebuilding id) s (.operated op) (.holding id fresh) (s.operate op)
  | fail {s : Site} {id : HandleId} : Move (.rebuilding id) s (.failed id) (.settled id) s
  | install {s : Site} {id : HandleId} {fresh : Pool} :
      Move (.holding id fresh) s (.installed id fresh) (.settled id)
        (s.setHandle id ((s.handles id).swap fresh))
  | finish {s : Site} {id : HandleId} :
      Move (.settled id) s (.ended id) .idle (s.setHandle id (s.handles id).unlock)
  | hire {s : Site} {id : HandleId} (hregistered : (s.handles id).isRegistered) :
      Move .idle s (.hired id) (.working id .start) s
  | sample {s : Site} {id : HandleId} {worker : Worker} {pool : Pool}
      (hpool : (s.handles id).current? = some pool) :
      Move (.working id worker) s (.sampled id pool) (.engaged id (worker.see pool.serial) pool) s
  | checkout {s : Site} {id : HandleId} {worker : Worker} {pool : Pool} :
      Move (.engaged id worker pool) s (.operated (.checkout pool))
        (.working id (worker.count (s.library.checkout pool).1)) (s.operate (.checkout pool))

variable {τ : Type}

abbrev Scene (τ : Type) := Interleaving.Scene τ Site Stage

/-- What the threads have done so far. -/
abbrev History (τ : Type) := Interleaving.History τ Event

/-- A library that was just started, and threads that have done nothing yet. -/
def Scene.start (version : String) : Scene τ :=
  ⟨⟨fun _ => Handle.create "", Library.start version, []⟩, fun _ => .idle⟩

/-- The pool that a handle comes to serve. -/
def Event.served? (id : HandleId) : Event → Option Pool
  | registered other pool | installed other pool => if other = id then some pool else none
  | _ => none

/-- The pools that a handle has served, in order. -/
def served (id : HandleId) (history : History τ) : List Pool := history.filterMap (·.2.served? id)

theorem served_append (id : HandleId) (history more : History τ) :
    served id (history ++ more) = served id history ++ served id more := List.filterMap_append

theorem served_singleton (id : HandleId) (entry : τ × Event) :
    served id [entry] = (entry.2.served? id).toList := by
  rw [served, List.filterMap_cons]
  cases entry.2.served? id <;> rfl

def Event.isBuild : Event → Bool
  | operated op => op.isBuild
  | _ => false

/-- How often the library was asked to build. -/
def builds (history : History τ) : Nat := history.countP (·.2.isBuild)

variable [DecidableEq τ] {history : History τ} {s s' : Scene τ} {t : τ} {event : Event} {stage : Stage}
  {site : Site} {id : HandleId} {h : Handle Pool}

/-! ## Who refreshes -/

/-- Threads that hold the lock of a handle: the handle is registered, and there is one for each handle at
most. -/
structure Locked (s : Scene τ) : Prop where
  held : ∀ t id, (s.stage t).locks? = some id →
    (s.shared.handles id).isRegistered ∧ (s.shared.handles id).reloading = true
  alone : ∀ t u id, (s.stage t).locks? = some id → (s.stage u).locks? = some id → t = u

/-- A move that takes no lock, gives none back and changes no handle. -/
theorem Locked.keep (hlocked : Locked s) (hhandles : site.handles = s.shared.handles)
    (hlocks : stage.locks? = (s.stage t).locks?) : Locked ⟨site, Function.update s.stage t stage⟩ := by
  have hsame : ∀ u, (Function.update s.stage t stage u).locks? = (s.stage u).locks? := by
    intro u
    by_cases hu : u = t
    · rw [hu, Function.update_self, hlocks]
    · rw [Function.update_of_ne hu]
  refine ⟨fun u id hu => ?_, fun u v id hu hv => ?_⟩
  · rw [hsame] at hu
    rw [hhandles]
    exact hlocked.held u id hu
  · rw [hsame] at hu hv
    exact hlocked.alone u v id hu hv

theorem Locked.exchange (hlocked : Locked s) (hfree : ∀ u, u ≠ t → (s.stage u).locks? ≠ some id)
    (hself : ∀ other, stage.locks? = some other → other = id ∧ h.isRegistered ∧ h.reloading = true) :
    Locked ⟨s.shared.setHandle id h, Function.update s.stage t stage⟩ := by
  refine ⟨fun u other (hu : (Function.update s.stage t stage u).locks? = some other) => ?_,
    fun u v other (hu : (Function.update s.stage t stage u).locks? = some other)
      (hv : (Function.update s.stage t stage v).locks? = some other) => ?_⟩
  -- whoever has the changed handle locked is the thread that moves
  · by_cases hut : u = t
    · rw [hut, Function.update_self] at hu
      obtain ⟨rfl, hheld⟩ := hself other hu
      simpa using hheld
    · rw [Function.update_of_ne hut] at hu
      have hne : other ≠ id := by
        rintro rfl
        exact hfree u hut hu
      simpa [hne] using hlocked.held u other hu
  · by_cases hut : u = t <;> by_cases hvt : v = t
    · rw [hut, hvt]
    · rw [hut, Function.update_self] at hu
      rw [Function.update_of_ne hvt] at hv
      obtain ⟨rfl, -⟩ := hself other hu
      exact absurd hv (hfree v hvt)
    · rw [hvt, Function.update_self] at hv
      rw [Function.update_of_ne hut] at hu
      obtain ⟨rfl, -⟩ := hself other hv
      exact absurd hu (hfree u hut)
    · rw [Function.update_of_ne hut] at hu
      rw [Function.update_of_ne hvt] at hv
      exact hlocked.alone u v other hu hv

omit [DecidableEq τ] in
theorem Locked.others (hlocked : Locked s) (t : τ) (id : HandleId) (ht : (s.stage t).locks? = some id) (u : τ)
    (hu : u ≠ t) : (s.stage u).locks? ≠ some id := fun hother => hu (hlocked.alone u t id hother ht)

omit [DecidableEq τ] in
theorem Locked.free (hlocked : Locked s)
    (hfree : ¬ (s.shared.handles id).isRegistered ∨ (s.shared.handles id).reloading = false) (u : τ) :
    (s.stage u).locks? ≠ some id := by
  intro hu
  obtain ⟨hregistered, hheld⟩ := hlocked.held u id hu
  rcases hfree with hempty | hfree
  · exact hempty hregistered
  · rw [hfree] at hheld
    cases hheld

theorem Locked.step (hlocked : Locked s) (hturn : Turn Move s (t, event) s') : Locked s' := by
  cases hturn with
  | mk hmove =>
    have hheld := hlocked.held t
    have halone := hlocked.others t
    -- what the thread has locked is known before the cases are split
    generalize hstage : s.stage t = stage at hmove hheld halone
    cases hmove with
    | operate op => exact hlocked.keep rfl (by rw [hstage])
    | build op _ => exact hlocked.keep rfl (by rw [hstage]; rfl)
    | fail => exact hlocked.keep rfl (by rw [hstage]; rfl)
    | hire _ => exact hlocked.keep rfl (by rw [hstage]; rfl)
    | sample _ => exact hlocked.keep rfl (by rw [hstage]; rfl)
    | checkout => exact hlocked.keep rfl (by rw [hstage]; rfl)
    | create name hnew =>
      refine hlocked.exchange (fun u _ => hlocked.free (.inl ?_) u) nofun
      simp [hnew, Handle.isRegistered]
    | register _ hregister =>
      obtain ⟨-, hnone, -⟩ := Handle.register_eq_ok_iff.mp hregister
      refine hlocked.exchange (fun u _ => hlocked.free (.inl ?_) u) nofun
      simp [hnone, Handle.isRegistered]
    -- the lock was free, so no other thread has the handle locked
    | start hregistered hfree =>
      refine hlocked.exchange (fun u _ => hlocked.free (.inr hfree) u) ?_
      rintro other ⟨⟩
      exact ⟨rfl, hregistered, rfl⟩
    | @install _ id fresh =>
      obtain ⟨hregistered, hreloading⟩ := hheld id rfl
      refine hlocked.exchange (halone id rfl) ?_
      rintro other ⟨⟩
      refine ⟨rfl, ?_, by rw [Handle.swap_reloading, hreloading]⟩
      exact Handle.isRegistered_of_current? _ (Handle.swap_current? fresh hregistered)
    | @finish _ id => exact hlocked.exchange (halone id rfl) nofun

/-! ## What a handle serves -/

/-- A handle serves the last of the pools that it came to serve, and their serials grow; one that is about to
be installed has a larger serial than all of them. -/
structure Served (history : History τ) (s : Scene τ) : Prop where
  current : ∀ id, (s.shared.handles id).current? = (served id history).getLast?
  /-- All but the first one count, in a word that wraps. -/
  counted : ∀ id, (s.shared.handles id).generation = .ofNat ((served id history).length - 1)
  ordered : ∀ id, (served id history).Pairwise (·.serial < ·.serial)
  known : ∀ id, ∀ pool ∈ served id history, pool ∈ s.shared.pools
  holding : ∀ t id fresh, (s.stage t).fresh? = some (id, fresh) →
    fresh ∈ s.shared.pools ∧ ∀ pool ∈ served id history, pool.serial < fresh.serial

/-- What a handle serves, and how often that was exchanged. -/
def serves (h : Handle Pool) : Option Pool × UInt64 := (h.current?, h.generation)

theorem serves_setHandle {site : Site} (h : Handle Pool) (hsame : serves h = serves (site.handles id))
    (other : HandleId) : serves ((site.setHandle id h).handles other) = serves (site.handles other) := by
  by_cases hne : other = id
  · rw [hne, ← hsame, Site.handles_setHandle_self]
  · rw [Site.handles_setHandle_of_ne _ hne]

theorem Served.keep (hserved : Served history s) (hquiet : ∀ id, event.served? id = none)
    (hserves : ∀ id, serves (site.handles id) = serves (s.shared.handles id))
    (hpools : s.shared.pools ⊆ site.pools)
    (hholding : ∀ id fresh, stage.fresh? = some (id, fresh) →
      fresh ∈ site.pools ∧ ∀ pool ∈ served id history, pool.serial < fresh.serial) :
    Served (history ++ [(t, event)]) ⟨site, Function.update s.stage t stage⟩ := by
  -- the event brings nothing to be served, so all histories are the same
  have hsame : ∀ id, served id (history ++ [(t, event)]) = served id history := by
    intro id
    rw [served_append, served_singleton, hquiet, Option.toList_none, List.append_nil]
  refine ⟨fun id => ?_, fun id => ?_, fun id => ?_, fun id pool hpool => ?_,
    fun u id fresh (hu : (Function.update s.stage t stage u).fresh? = some (id, fresh)) => ?_⟩
  · rw [hsame, ← hserved.current]
    exact (Prod.mk.inj (hserves id)).1
  · have hgeneration := (Prod.mk.inj (hserves id)).2
    rw [hsame, hgeneration, hserved.counted]
  · rw [hsame]
    exact hserved.ordered id
  · rw [hsame] at hpool
    exact hpools (hserved.known id pool hpool)
  · rw [hsame]
    by_cases hut : u = t
    · rw [hut, Function.update_self] at hu
      exact hholding id fresh hu
    · rw [Function.update_of_ne hut] at hu
      obtain ⟨hfresh, hlarger⟩ := hserved.holding u id fresh hu
      exact ⟨hpools hfresh, hlarger⟩

theorem Served.quiet (hserved : Served history s) (hquiet : ∀ id, event.served? id = none)
    (hserves : ∀ id, serves (site.handles id) = serves (s.shared.handles id))
    (hpools : s.shared.pools ⊆ site.pools) (hempty : stage.fresh? = none) :
    Served (history ++ [(t, event)]) ⟨site, Function.update s.stage t stage⟩ := by
  refine hserved.keep hquiet hserves hpools fun id fresh hfresh => ?_
  rw [hempty] at hfresh
  cases hfresh

theorem Served.serve {pool : Pool} (hserved : Served history s)
    (hevent : ∀ other, event.served? other = if id = other then some pool else none)
    (hserves : serves h = (some pool, .ofNat (served id history).length)) (hknown : pool ∈ s.shared.pools)
    (hlarger : ∀ before ∈ served id history, before.serial < pool.serial)
    (hfree : ∀ u, u ≠ t → (s.stage u).locks? ≠ some id) (hempty : stage.fresh? = none) :
    Served (history ++ [(t, event)])
      ⟨s.shared.setHandle id h, Function.update s.stage t stage⟩ := by
  -- the history of one handle grows by the pool, and all others stay
  have hself : served id (history ++ [(t, event)]) = served id history ++ [pool] := by
    rw [served_append, served_singleton, hevent, if_pos rfl, Option.toList_some]
  have hother : ∀ other, other ≠ id → served other (history ++ [(t, event)]) = served other history := by
    intro other hne
    rw [served_append, served_singleton, hevent, if_neg hne.symm, Option.toList_none, List.append_nil]
  obtain ⟨hcurrent, hgeneration⟩ := Prod.mk.inj hserves
  refine ⟨fun other => ?_, fun other => ?_, fun other => ?_, fun other earlier hearlier => ?_,
    fun u other fresh (hu : (Function.update s.stage t stage u).fresh? = some (other, fresh)) => ?_⟩
  · by_cases hne : other = id
    · rw [hne, hself, List.getLast?_concat]
      simpa using hcurrent
    · rw [hother other hne, ← hserved.current]
      simp [hne]
  · by_cases hne : other = id
    · rw [hne, hself, List.length_append, List.length_singleton, Nat.add_sub_cancel]
      simpa using hgeneration
    · rw [hother other hne, ← hserved.counted]
      simp [hne]
  · by_cases hne : other = id
    · rw [hne, hself, List.pairwise_append]
      refine ⟨hserved.ordered id, List.pairwise_singleton .., fun before hbefore last hlast => ?_⟩
      rw [List.mem_singleton.mp hlast]
      exact hlarger before hbefore
    · rw [hother other hne]
      exact hserved.ordered other
  · by_cases hne : other = id
    · rw [hne, hself, List.mem_append, List.mem_singleton] at hearlier
      rcases hearlier with hearlier | rfl
      · exact hserved.known id earlier hearlier
      · exact hknown
    · rw [hother other hne] at hearlier
      exact hserved.known other earlier hearlier
  · -- whoever else holds a fresh pool holds it for another handle
    by_cases hut : u = t
    · rw [hut, Function.update_self, hempty] at hu
      cases hu
    · rw [Function.update_of_ne hut] at hu
      have hne : other ≠ id := by
        rintro rfl
        exact hfree u hut (Stage.locks?_of_fresh? hu)
      rw [hother other hne]
      exact hserved.holding u other fresh hu

theorem Served.step (hserved : Served history s) (hlocked : Locked s)
    (hgrown : s.shared.library.Grown s.shared.pools (builds history))
    (hturn : Turn Move s (t, event) s') : Served (history ++ [(t, event)]) s' := by
  cases hturn with
  | mk hmove =>
    have hheld := hlocked.held t
    have hholding := hserved.holding t
    have halone := hlocked.others t
    generalize hstage : s.stage t = stage at hmove hheld hholding halone
    cases hmove with
    | operate op =>
      refine hserved.keep (fun _ => rfl) (fun _ => rfl) (List.subset_append_left ..) ?_
      intro id fresh hfresh
      obtain ⟨hknown, hlarger⟩ := hholding id fresh hfresh
      exact ⟨List.mem_append_left _ hknown, hlarger⟩
    | @build _ id fresh op hfresh =>
      refine hserved.keep (fun _ => rfl) (fun _ => rfl) (List.subset_append_left ..) ?_
      rintro _ _ ⟨⟩
      -- the serial is taken now, and all that the handle served was returned before
      obtain ⟨-, ⟨hnone, -⟩ | ⟨pool, hpool, hserial, -⟩⟩ := op.apply_cases hgrown.sound
      · rw [hnone] at hfresh
        cases hfresh
      · obtain rfl := Option.some.inj (hfresh.symm.trans hpool)
        refine ⟨by simp [Site.operate, hfresh], fun before hbefore => ?_⟩
        rw [hserial]
        exact hgrown.lt_next before (hserved.known id before hbefore)
    | fail => exact hserved.quiet (fun _ => rfl) (fun _ => rfl) (List.Subset.refl _) rfl
    | hire _ => exact hserved.quiet (fun _ => rfl) (fun _ => rfl) (List.Subset.refl _) rfl
    | sample _ => exact hserved.quiet (fun _ => rfl) (fun _ => rfl) (List.Subset.refl _) rfl
    | checkout => exact hserved.quiet (fun _ => rfl) (fun _ => rfl) (List.subset_append_left ..) rfl
    | create name hnew =>
      exact hserved.quiet (fun _ => rfl) (serves_setHandle _ (by rw [hnew]; rfl)) (List.Subset.refl _) rfl
    | start _ _ => exact hserved.quiet (fun _ => rfl) (serves_setHandle _ rfl) (List.Subset.refl _) rfl
    | finish => exact hserved.quiet (fun _ => rfl) (serves_setHandle _ rfl) (List.Subset.refl _) rfl
    | @register _ id first params h hfirst hregister =>
      obtain ⟨-, hnone, rfl⟩ := Handle.register_eq_ok_iff.mp hregister
      -- an empty handle has not served anything
      have hempty : served id history = [] := by
        rw [← List.getLast?_eq_none_iff, ← hserved.current, Handle.current?, hnone]
        rfl
      have hserves : (some first, (s.shared.handles id).generation) =
          (some first, .ofNat (served id history).length) := by
        rw [hserved.counted, hempty]
        rfl
      refine hserved.serve (fun _ => rfl) hserves hfirst ?_ (fun u _ => hlocked.free (.inl ?_) u) rfl
      · rw [hempty]
        exact List.forall_mem_nil _
      · simp [hnone, Handle.isRegistered]
    | @install _ id fresh =>
      obtain ⟨hregistered, -⟩ := hheld id rfl
      obtain ⟨hknown, hlarger⟩ := hholding id fresh rfl
      obtain ⟨i, hi⟩ := Option.isSome_iff_exists.mp hregistered
      refine hserved.serve (fun _ => rfl) ?_ hknown hlarger (halone id rfl) rfl
      -- the handle has served something, and the pool that comes to it now is counted
      have hpositive : 0 < (served id history).length := by
        have hcurrent := hserved.current id
        rw [Handle.current?, hi] at hcurrent
        exact List.length_pos_of_mem (List.mem_of_getLast? hcurrent.symm)
      have hcounts : (s.shared.handles id).generation + 1 = .ofNat (served id history).length := by
        rw [hserved.counted, ← Nat.sub_add_cancel hpositive, UInt64.ofNat_add]
        rfl
      rw [Handle.swap_of_installed hi, ← hcounts]
      rfl

/-! ## What the library returns -/

theorem Grown.step (hgrown : s.shared.library.Grown s.shared.pools (builds history))
    (hturn : Turn Move s (t, event) s') :
    s'.shared.library.Grown s'.shared.pools (builds (history ++ [(t, event)])) := by
  have hsnoc : ∀ op, (s.shared.operate op).library.Grown (s.shared.operate op).pools
      (builds (history ++ [(t, .operated op)])) := by
    intro op
    rw [builds, List.countP_append, List.countP_singleton]
    exact hgrown.snoc op
  have hsame : event.isBuild = false →
      s.shared.library.Grown s.shared.pools (builds (history ++ [(t, event)])) := by
    intro hevent
    rwa [builds, List.countP_append, List.countP_singleton, hevent]
  -- only builds use up serials, and `isBuild` tells them apart
  cases hturn with
  | mk hmove =>
    generalize s.stage t = stage at hmove
    cases hmove with
    | operate op | build op _ => exact hsnoc op
    | checkout => exact hsnoc _
    | create | register | start | fail | install | finish | hire | sample => exact hsame rfl

/-! ## What a worker sees -/

omit [DecidableEq τ] in
theorem serial_le_getLast {pools : List Pool} {last : Pool} (hordered : pools.Pairwise (·.serial < ·.serial))
    (hlast : pools.getLast? = some last) : ∀ pool ∈ pools, pool.serial ≤ last.serial := by
  obtain ⟨front, rfl⟩ := List.getLast?_eq_some_iff.mp hlast
  intro pool hpool
  rw [List.mem_append, List.mem_singleton] at hpool
  rcases hpool with hpool | rfl
  · exact Nat.le_of_lt ((List.pairwise_append.mp hordered).2.2 pool hpool last List.mem_cons_self)
  · exact Nat.le_refl _

/-- A worker has seen pools that its handle served, and no serial that went back. There was always one to see. -/
structure Steady (worker : Worker) (pools : List Pool) : Prop where
  served : pools ≠ []
  regressions : worker.summary.regressions = 0
  seen : ∀ serial, worker.last = some serial → ∃ pool ∈ pools, pool.serial = serial

omit [DecidableEq τ] in
theorem Steady.see {worker : Worker} {pools : List Pool} {pool : Pool} (hsteady : Steady worker pools)
    (hordered : pools.Pairwise (·.serial < ·.serial)) (hlast : pools.getLast? = some pool) :
    Steady (worker.see pool.serial) pools := by
  -- serials grow, so none that was seen is beyond the last one
  have hnone : worker.last.any (pool.serial < ·) = false := by
    cases hseen : worker.last with
    | none => rfl
    | some serial =>
      obtain ⟨before, hbefore, rfl⟩ := hsteady.seen serial hseen
      simpa using serial_le_getLast hordered hlast before hbefore
  refine ⟨hsteady.served, ?_, ?_⟩
  · show worker.summary.regressions + (if worker.last.any (pool.serial < ·) then 1 else 0) = 0
    rw [hsteady.regressions, hnone]
    rfl
  · rintro _ ⟨⟩
    exact ⟨pool, List.mem_of_getLast? hlast, rfl⟩

omit [DecidableEq τ] in
theorem Steady.count {worker : Worker} {pools : List Pool} (hsteady : Steady worker pools)
    (outcome : Except Exhausted Nat) : Steady (worker.count outcome) pools := by
  cases outcome <;> exact ⟨hsteady.served, hsteady.regressions, hsteady.seen⟩

/-- All workers are steady. -/
def Watched (history : History τ) (s : Scene τ) : Prop :=
  ∀ t id worker, (s.stage t).worker? = some (id, worker) → Steady worker (served id history)

theorem Watched.step (hwatched : Watched history s) (hserved : Served history s)
    (hturn : Turn Move s (t, event) s') : Watched (history ++ [(t, event)]) s' := by
  -- what a handle has served it has served for good
  have hgrows : ∀ {id worker}, Steady worker (served id history) →
      Steady worker (served id (history ++ [(t, event)])) := by
    intro id worker hsteady
    rw [served_append]
    refine ⟨List.append_ne_nil_of_left_ne_nil hsteady.served _, hsteady.regressions, fun serial hseen => ?_⟩
    obtain ⟨pool, hpool, hserial⟩ := hsteady.seen serial hseen
    exact ⟨pool, List.mem_append_left _ hpool, hserial⟩
  cases hturn with
  | @mk _ _ next site hmove =>
    intro u id worker (hu : (Function.update s.stage t next u).worker? = some (id, worker))
    by_cases hut : u = t
    · rw [hut, Function.update_self] at hu
      have hbefore := hwatched t
      generalize s.stage t = stage at hmove hbefore
      cases hmove with
      | operate op => exact hgrows (hbefore id worker hu)
      | create | register | start | build | fail | install | finish => cases hu
      | @hire _ id hregistered =>
        cases hu
        refine hgrows ⟨fun hempty => ?_, rfl, nofun⟩
        have hcurrent := hserved.current id
        rw [hempty, List.getLast?_nil, Handle.current?, Option.map_eq_none_iff] at hcurrent
        rw [Handle.isRegistered, hcurrent] at hregistered
        cases hregistered
      | @sample _ id worker pool hpool =>
        cases hu
        rw [hserved.current] at hpool
        exact hgrows ((hbefore id worker rfl).see (hserved.ordered id) hpool)
      | @checkout _ id worker pool =>
        cases hu
        exact hgrows ((hbefore id worker rfl).count _)
    · rw [Function.update_of_ne hut] at hu
      exact hgrows (hwatched u id worker hu)

/-! ## All runs -/

/-- What every move keeps. -/
structure Kept (history : History τ) (s : Scene τ) : Prop where
  grown : s.shared.library.Grown s.shared.pools (builds history)
  locked : Locked s
  served : Served history s
  watched : Watched history s

omit [DecidableEq τ] in
theorem Kept.start (version : String) : Kept [] (Scene.start version : Scene τ) where
  grown := .start version
  locked := ⟨nofun, nofun⟩
  served := ⟨fun _ => rfl, fun _ => rfl, fun _ => .nil, nofun, nofun⟩
  watched := nofun

theorem Kept.step {entry : τ × Event} (hkept : Kept history s) (hturn : Turn Move s entry s') :
    Kept (history ++ [entry]) s' where
  grown := Grown.step hkept.grown hturn
  locked := hkept.locked.step hturn
  served := hkept.served.step hkept.locked hkept.grown hturn
  watched := hkept.watched.step hkept.served hturn

theorem kept {version : String} (hturns : Turns Move (Scene.start version) history s) : Kept history s :=
  hturns.invariant Kept.step (Kept.start version)

omit [DecidableEq τ] in
theorem length_le_of_ordered {pools : List Pool} {bound : Nat} (hordered : pools.Pairwise (·.serial < ·.serial))
    (hbound : ∀ pool ∈ pools, pool.serial < bound) : pools.length ≤ bound := by
  induction pools using List.reverseRecOn generalizing bound with
  | nil => exact Nat.zero_le _
  | append_singleton front last ih =>
    rw [List.pairwise_append] at hordered
    have hfront : front.length ≤ last.serial :=
      ih hordered.1 fun pool hpool => hordered.2.2 pool hpool last List.mem_cons_self
    have hlast : last.serial < bound := hbound last (by simp)
    rw [List.length_append, List.length_singleton]
    exact Nat.lt_of_le_of_lt hfront hlast

omit [DecidableEq τ] in
theorem Served.generation_toNat (hserved : Served history s) {pool : Pool}
    (hpool : (s.shared.handles id).current? = some pool) (hfits : pool.serial < UInt64.size) :
    (s.shared.handles id).generation.toNat + 1 = (served id history).length := by
  have hlast : (served id history).getLast? = some pool := (hserved.current id).symm.trans hpool
  have hpositive : 0 < (served id history).length := List.length_pos_of_mem (List.mem_of_getLast? hlast)
  have hlength : (served id history).length ≤ pool.serial + 1 :=
    length_le_of_ordered (hserved.ordered id) fun before hbefore =>
      Nat.lt_succ_of_le (serial_le_getLast (hserved.ordered id) hlast before hbefore)
  rw [hserved.counted, UInt64.toNat_ofNat_of_lt' (by omega)]
  omega

/-- A handle and the same one later on: it serves the same pool or one of a larger serial. As long as serials fit
in a word of 64 bits, it counts more the later it is, and the more it counts the larger the serial. -/
def Advances (h h' : Handle Pool) : Prop :=
  ∀ pool pool', h.current? = some pool → h'.current? = some pool' →
    (pool = pool' ∨ pool.serial < pool'.serial) ∧
      (pool'.serial < UInt64.size →
        h.generation ≤ h'.generation ∧ (h.generation = h'.generation → pool = pool') ∧
          (h.generation < h'.generation → pool.serial < pool'.serial))

theorem advances {version : String} {more : History τ} (hturns : Turns Move (Scene.start version) history s)
    (hmore : Turns Move (Scene.start version) (history ++ more) s') (id : HandleId) :
    Advances (s.shared.handles id) (s'.shared.handles id) := by
  intro pool pool' hpool hpool'
  have hserved := (kept hturns).served
  have hserved' := (kept hmore).served
  have hcurrent := (hserved.current id).symm.trans hpool
  have hcurrent' := (hserved'.current id).symm.trans hpool'
  have hordered := hserved'.ordered id
  rw [served_append] at hcurrent' hordered
  -- either nothing has come since, or what is served now has
  have hsame : served id more = [] → pool = pool' := by
    intro hnone
    rw [hnone, List.append_nil, hcurrent] at hcurrent'
    exact Option.some.inj hcurrent'
  have hlarger : served id more ≠ [] → pool.serial < pool'.serial := by
    intro hsome
    rw [List.getLast?_append_of_ne_nil _ hsome] at hcurrent'
    exact (List.pairwise_append.mp hordered).2.2 pool (List.mem_of_getLast? hcurrent) pool'
      (List.mem_of_getLast? hcurrent')
  have hmoved : pool = pool' ∨ pool.serial < pool'.serial := by
    by_cases hnone : served id more = []
    · exact .inl (hsame hnone)
    · exact .inr (hlarger hnone)
  refine ⟨hmoved, fun hfits => ?_⟩
  have hfits' : pool.serial < UInt64.size := by
    obtain rfl | hlt := hmoved
    · exact hfits
    · exact Nat.lt_trans hlt hfits
  have hbefore := hserved.generation_toNat hpool hfits'
  have hafter := hserved'.generation_toNat hpool' hfits
  rw [served_append, List.length_append] at hafter
  refine ⟨UInt64.le_iff_toNat_le.mpr (by omega), fun heq => hsame ?_, fun hlt => hlarger ?_⟩
  · rw [heq] at hbefore
    exact List.eq_nil_of_length_eq_zero (by omega)
  · rintro hnone
    rw [hnone] at hafter
    have hless := UInt64.lt_iff_toNat_lt.mp hlt
    simp only [List.length_nil] at hafter
    omega

/-- What holds of threads that use the library and its pools in any order. -/
structure Growing (history : History τ) (s : Scene τ) : Prop where
  /-- No key is registered twice. -/
  keys_nodup : (s.shared.library.registered.map (·.1)).Nodup
  /-- Serials grow in the order in which the pools were built. -/
  ordered : s.shared.pools.Pairwise (·.serial < ·.serial)
  /-- They are as small as the number of builds allows. -/
  lt_builds : ∀ pool ∈ s.shared.pools, pool.serial < builds history
  /-- A pool that is installed has a larger serial than all that its handle served before. -/
  installed : ∀ earlier t id fresh later, history = earlier ++ (t, .installed id fresh) :: later →
    ∀ pool ∈ served id earlier, pool.serial < fresh.serial
  /-- The last pool that a handle came to serve is the one that it serves. -/
  current : ∀ id, (s.shared.handles id).current? = (served id history).getLast?
  /-- What is read of a handle has no smaller serial than what was read before, by whichever worker. -/
  sampled : ∀ earlier t id pool between u pool' later,
    history = earlier ++ (t, .sampled id pool) :: (between ++ (u, .sampled id pool') :: later) →
    pool.serial ≤ pool'.serial
  /-- A worker always has a pool to work on, and it has not seen a serial go back. -/
  workers : ∀ t id worker, (s.stage t).worker? = some (id, worker) →
    (s.shared.handles id).isRegistered ∧ worker.summary.regressions = 0

/-- **What a worker reads** is the last pool that the handle came to serve. -/
theorem getLast?_of_sampled {version : String} (hturns : Turns Move (Scene.start version) history s)
    {earlier later : History τ} {pool : Pool} (hcut : history = earlier ++ (t, .sampled id pool) :: later) :
    (served id earlier).getLast? = some pool := by
  subst hcut
  obtain ⟨middle, hearlier, hlater⟩ := hturns.split
  cases hlater with
  | cons hturn _ =>
    cases hturn with
    | mk hmove =>
      generalize middle.stage t = stage at hmove
      cases hmove with
      | sample hpool => rwa [(kept hearlier).served.current] at hpool

/-- **Whatever order the threads make their moves in**, serials grow and no worker sees one go back. -/
theorem growing {version : String} (hturns : Turns Move (Scene.start version) history s) :
    Growing history s := by
  have hkept := kept hturns
  have hgrown := hkept.grown
  refine ⟨hgrown.sound.keys_nodup, hgrown.ordered, ?_, ?_, hkept.served.current, ?_, ?_⟩
  · exact fun pool hpool => Nat.lt_of_lt_of_le (hgrown.lt_next pool hpool) hgrown.next_le
  · intro earlier t id fresh later hcut pool hpool
    have hordered := hkept.served.ordered id
    have hfresh : served id [(t, Event.installed id fresh)] = [fresh] := by
      rw [served_singleton, Event.served?, if_pos rfl, Option.toList_some]
    rw [hcut, ← List.singleton_append, served_append, served_append, hfresh, List.pairwise_append] at hordered
    exact hordered.2.2 pool hpool fresh List.mem_cons_self
  · intro earlier t id pool between u pool' later hcut
    have hcut' : history = (earlier ++ (t, .sampled id pool) :: between) ++ (u, .sampled id pool') :: later := by
      rw [hcut, List.append_assoc, List.cons_append]
    have hfirst := getLast?_of_sampled hturns hcut
    have hsecond := getLast?_of_sampled hturns hcut'
    -- what the handle served when the second one was read starts with what it served before
    have hordered := hkept.served.ordered id
    rw [hcut', served_append, List.pairwise_append] at hordered
    refine serial_le_getLast hordered.1 hsecond pool ?_
    rw [served_append]
    exact List.mem_append_left _ (List.mem_of_getLast? hfirst)
  · intro t id worker hworker
    have hsteady := hkept.watched t id worker hworker
    have hcurrent : (s.shared.handles id).current? = some ((served id history).getLast hsteady.served) := by
      rw [hkept.served.current, List.getLast?_eq_getLast_of_ne_nil]
    exact ⟨Handle.isRegistered_of_current? _ hcurrent, hsteady.regressions⟩

end Races

end LiveSwap.Pool
