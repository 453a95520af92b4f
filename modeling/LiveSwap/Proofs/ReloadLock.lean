import LiveSwap.Proofs.Host
import LiveSwap.Proofs.Interleaving
import Mathlib.Data.List.Induction

/-!
# The reload lock between threads

Threads that forward through one registered handle and refresh it, one atomic move at a time, in any
order. A forward takes the reload lock, gives it back, and reads the instance after that; a refresh holds
the lock while it rebuilds, writes the instance and counts it. Whole refreshes fit between the barrier of
a forward and its read.

* **`Reload.Move`** — the moves of one thread.
* **`Reload.Guarded`** — who holds the lock; kept by every move.
* **`Reload.Accounted`** — what the handle serves and counts, from the history alone.
-/

namespace LiveSwap

variable {ι σ τ : Type}

/-! ## The parts of an exchange -/

namespace Handle

def lock (h : Handle ι) : Handle ι := { h with reloading := true }

def unlock (h : Handle ι) : Handle ι := { h with reloading := false }

/-- Exchanges the instance without counting it. -/
def write (h : Handle ι) (fresh : ι) : Handle ι :=
  { h with installed := h.installed.map fun i => { i with current := fresh } }

def count (h : Handle ι) : Handle ι := { h with generation := h.generation + 1 }

section Parts

variable (h : Handle ι) (fresh : ι)

@[simp] theorem current?_count : h.count.current? = h.current? := rfl

@[simp] theorem generation_lock : h.lock.generation = h.generation := rfl

@[simp] theorem generation_unlock : h.unlock.generation = h.generation := rfl

@[simp] theorem generation_count : h.count.generation = h.generation + 1 := rfl

theorem unlock_lock (hfree : h.reloading = false) : h.lock.unlock = h := by
  rw [lock, unlock, ← hfree]

theorem unlock_swap_lock (hfree : h.reloading = false) : (h.lock.swap fresh).unlock = h.swap fresh := by
  obtain ⟨name, _ | i, generation, reloading⟩ := h
  · rw [lock, unlock, swap, swap, ← hfree]
  · rw [lock, unlock, swap, swap, ← hfree]

theorem isRegistered_of_current? {served : ι} (hserved : h.current? = some served) : h.isRegistered := by
  rw [current?, Option.map_eq_some_iff] at hserved
  obtain ⟨i, hi, -⟩ := hserved
  rw [isRegistered, hi]
  rfl

theorem exists_installed (hregistered : h.isRegistered) :
    ∃ i, h.installed = some i ∧ h.current? = some i.current := by
  obtain ⟨i, hi⟩ := Option.isSome_iff_exists.mp hregistered
  exact ⟨i, hi, by rw [current?, hi]; rfl⟩

end Parts

theorem swap_eq_count_write {h : Handle ι} (hregistered : h.isRegistered) (fresh : ι) :
    h.swap fresh = (h.write fresh).count := by
  rw [swap, write, count]
  cases hi : h.installed with
  | none => simp [isRegistered, hi] at hregistered
  | some i => rfl

theorem current?_write {h : Handle ι} (hregistered : h.isRegistered) (fresh : ι) :
    (h.write fresh).current? = some fresh := by
  rw [current?, write]
  cases hi : h.installed with
  | none => simp [isRegistered, hi] at hregistered
  | some i => rfl

end Handle

namespace Reload

open Interleaving (Turn Turns)

/-! ## Moves -/

/-- Where a thread is. -/
inductive Stage (ι : Type) where
  | idle
  /-- It holds the lock to pass the barrier. -/
  | inBarrier
  /-- It is past the barrier and has not read the instance. -/
  | past
  /-- It holds the lock and waits for the rebuild. -/
  | rebuilding
  /-- It has a fresh instance that is not installed. -/
  | holding (fresh : ι)
  /-- The instance is installed and not counted. -/
  | written
  /-- It has nothing left to do but give the lock back. -/
  | settled

def Stage.holdsLock : Stage ι → Bool
  | .idle | .past => false
  | _ => true

def Stage.inFlight : Stage ι → Bool
  | .idle | .inBarrier | .past => false
  | _ => true

/-- The instance that a rebuild came to, if it came to one. -/
def fresh? : Except Payload (Except RebuildError ι) → Option ι
  | .ok (.ok fresh) => some fresh
  | _ => none

def Stage.after (rebuilt : Except Payload (Except RebuildError ι)) : Stage ι :=
  match fresh? rebuilt with
  | some fresh => .holding fresh
  | none => .settled

theorem Stage.after_eq_holding_iff {rebuilt : Except Payload (Except RebuildError ι)} {fresh : ι} :
    Stage.after rebuilt = .holding fresh ↔ rebuilt = .ok (.ok fresh) := by
  rcases rebuilt with payload | (error | other) <;> simp [Stage.after, fresh?]

/-- What a thread does in one move. -/
inductive Event (ι : Type) where
  /-- It takes the lock for the barrier. -/
  | entered
  | left
  /-- It reads the instance that the operation runs against. -/
  | ran (target : ι)
  /-- It takes the lock for a rebuild. -/
  | began
  | obtained (rebuilt : Except Payload (Except RebuildError ι))
  | installed (fresh : ι)
  | counted
  | ended

/-- The moves of one thread. The result of a rebuild is whatever the strategy comes to. -/
inductive Move : Stage ι → Handle ι → Event ι → Stage ι → Handle ι → Prop where
  | enter {h : Handle ι} (hfree : h.reloading = false) : Move .idle h .entered .inBarrier h.lock
  | leave {h : Handle ι} : Move .inBarrier h .left .past h.unlock
  | run {h : Handle ι} {target : ι} (htarget : h.current? = some target) :
      Move .past h (.ran target) .idle h
  | start {h : Handle ι} (hfree : h.reloading = false) : Move .idle h .began .rebuilding h.lock
  | obtain {h : Handle ι} (rebuilt : Except Payload (Except RebuildError ι)) :
      Move .rebuilding h (.obtained rebuilt) (.after rebuilt) h
  | install {h : Handle ι} {fresh : ι} : Move (.holding fresh) h (.installed fresh) .written (h.write fresh)
  | count {h : Handle ι} : Move .written h .counted .settled h.count
  | finish {h : Handle ι} : Move .settled h .ended .idle h.unlock

/-- A handle and the threads that use it. -/
abbrev Scene (τ ι : Type) := Interleaving.Scene τ (Handle ι) (Stage ι)

/-- What the threads have done so far. -/
abbrev History (τ ι : Type) := Interleaving.History τ (Event ι)

variable [DecidableEq τ]

/-! ## Who holds the lock -/

/-- The one thread that holds the lock, if there is one. -/
structure Guarded (s : Scene τ ι) (holder : Option τ) : Prop where
  locked : s.shared.reloading = holder.isSome
  holds : ∀ t, (s.stage t).holdsLock = true ↔ holder = some t

def holderAfter (holder : Option τ) (t : τ) : Event ι → Option τ
  | .entered | .began => some t
  | .left | .ended => none
  | _ => holder

omit [DecidableEq τ] in
theorem Guarded.free {s : Scene τ ι} {holder : Option τ} (h : Guarded s holder)
    (hfree : s.shared.reloading = false) : holder = none := by
  rw [h.locked] at hfree
  exact Option.isSome_eq_false_iff.mp hfree |> Option.isNone_iff_eq_none.mp

theorem Guarded.update {s : Scene τ ι} {holder holder' : Option τ} (h : Guarded s holder) {t : τ}
    {stage : Stage ι} {handle : Handle ι} (hlocked : handle.reloading = holder'.isSome)
    (hself : stage.holdsLock = true ↔ holder' = some t)
    (hothers : ∀ u, u ≠ t → (holder = some u ↔ holder' = some u)) :
    Guarded ⟨handle, Function.update s.stage t stage⟩ holder' := by
  refine ⟨hlocked, fun u => ?_⟩
  by_cases hu : u = t
  · subst hu
    simpa using hself
  · simpa [hu] using (h.holds u).trans (hothers u hu)

theorem Guarded.step {s s' : Scene τ ι} {holder : Option τ} {t : τ} {event : Event ι}
    (h : Guarded s holder) (hturn : Turn Move s (t, event) s') : Guarded s' (holderAfter holder t event) := by
  cases hturn with
  | mk hmove =>
    -- the stage and the lock are fixed before the cases are split, so that each move tells its own
    have hheld := h.holds t
    have hlocked := h.locked
    generalize hstage : s.stage t = stage at hmove hheld
    cases hmove with
    | enter hfree | start hfree =>
      obtain rfl := h.free hfree
      exact h.update rfl (by simp [Stage.holdsLock, holderAfter]) fun u hu => by simp [holderAfter, hu.symm]
    | leave | finish =>
      obtain rfl := hheld.mp rfl
      exact h.update rfl (by simp [Stage.holdsLock, holderAfter]) fun u hu => by simp [holderAfter, hu.symm]
    -- these moves are made inside the lock or without it
    | run htarget => exact h.update hlocked hheld fun u _ => .rfl
    | obtain rebuilt =>
      refine h.update hlocked (Iff.trans ?_ hheld) fun u _ => .rfl
      rw [Stage.after]
      cases fresh? rebuilt <;> simp [Stage.holdsLock]
    | install => exact h.update hlocked hheld fun u _ => .rfl
    | count => exact h.update hlocked hheld fun u _ => .rfl

/-! ## What the handle serves and counts -/

def Event.installed? : Event ι → Option ι
  | .installed fresh => some fresh
  | _ => none

/-- The instances that were installed, in order. -/
def installs (history : History τ ι) : List ι := history.filterMap (·.2.installed?)

/-- How many installed instances the holder of the lock has not counted yet. -/
def uncounted (s : Scene τ ι) : Option τ → UInt64
  | none => 0
  | some t =>
    match s.stage t with
    | .written => 1
    | _ => 0

/-- The handle serves the last instance that was installed, or the `first` one, and counts those that were
installed. What is installed came from a rebuild. -/
structure Accounted (first : ι) (history : History τ ι) (holder : Option τ) (s : Scene τ ι) : Prop where
  current : s.shared.current? = some ((installs history).getLastD first)
  generation : s.shared.generation + uncounted s holder = .ofNat (installs history).length
  holding : ∀ t fresh, s.stage t = .holding fresh → (t, .obtained (.ok (.ok fresh))) ∈ history
  source : ∀ fresh ∈ installs history, ∃ t, (t, .obtained (.ok (.ok fresh))) ∈ history

section Accounts

omit [DecidableEq τ]

theorem installs_append (history more : History τ ι) :
    installs (history ++ more) = installs history ++ installs more := List.filterMap_append

theorem installs_singleton (t : τ) (event : Event ι) :
    installs [(t, event)] = event.installed?.toList := by
  cases event <;> rfl

/-- The place of the instance that the handle serves after a history, where the first one is at place 0. -/
def place (history : History τ ι) : Nat := (installs history).length

theorem place_le_append (history more : History τ ι) : place history ≤ place (history ++ more) := by
  rw [place, place, installs_append, List.length_append]
  omega

theorem getElem?_cons_append_length (first : ι) (xs ys : List ι) :
    (first :: (xs ++ ys))[xs.length]? = some (xs.getLastD first) := by
  induction xs generalizing first with
  | nil => rfl
  | cons x xs ih =>
    rw [List.getLastD_cons]
    exact ih x

end Accounts

theorem Accounted.update {first : ι} {history : History τ ι} {s : Scene τ ι} {holder holder' : Option τ}
    {t : τ} {event : Event ι} {stage : Stage ι} {handle : Handle ι} (h : Accounted first history holder s)
    (hcurrent : handle.current? = some ((installs (history ++ [(t, event)])).getLastD first))
    (hgeneration : handle.generation + uncounted ⟨handle, Function.update s.stage t stage⟩ holder' =
      .ofNat (installs (history ++ [(t, event)])).length)
    (hholding : ∀ fresh, stage = .holding fresh → event = .obtained (.ok (.ok fresh)))
    (hsource : ∀ fresh, event = .installed fresh → s.stage t = .holding fresh) :
    Accounted first (history ++ [(t, event)]) holder' ⟨handle, Function.update s.stage t stage⟩ where
  current := hcurrent
  generation := hgeneration
  -- what the mover holds was obtained in this very move; others hold what they held
  holding u fresh hu := by
    by_cases hsame : u = t
    · subst hsame
      simp [hholding fresh (by simpa using hu)]
    · exact List.mem_append_left _ (h.holding u fresh (by simpa [hsame] using hu))
  source fresh hfresh := by
    rw [installs_append, List.mem_append, installs_singleton] at hfresh
    obtain hold | hnew := hfresh
    · obtain ⟨u, hu⟩ := h.source fresh hold
      exact ⟨u, List.mem_append_left _ hu⟩
    · have hevent : event = .installed fresh := by
        cases event <;> simp_all [Event.installed?]
      exact ⟨t, List.mem_append_left _ (h.holding t fresh (hsource fresh hevent))⟩

/-- A move that installs nothing keeps the account if the count comes out even. -/
theorem Accounted.silent {first : ι} {history : History τ ι} {s : Scene τ ι} {holder holder' : Option τ}
    {t : τ} {event : Event ι} {stage : Stage ι} {handle : Handle ι} (h : Accounted first history holder s)
    (hsilent : event.installed? = none) (hcurrent : handle.current? = s.shared.current?)
    (hgeneration : handle.generation + uncounted ⟨handle, Function.update s.stage t stage⟩ holder' =
      s.shared.generation + uncounted s holder)
    (hholding : ∀ fresh, stage = .holding fresh → event = .obtained (.ok (.ok fresh))) :
    Accounted first (history ++ [(t, event)]) holder' ⟨handle, Function.update s.stage t stage⟩ := by
  have hinstalls : installs (history ++ [(t, event)]) = installs history := by
    rw [installs_append, installs_singleton, hsilent, Option.toList_none, List.append_nil]
  refine h.update ?_ ?_ hholding ?_
  · rw [hinstalls, hcurrent, h.current]
  · rw [hinstalls, hgeneration, h.generation]
  · rintro fresh rfl
    cases hsilent

theorem Accounted.step {first : ι} {history : History τ ι} {s s' : Scene τ ι} {holder : Option τ}
    {t : τ} {event : Event ι} (h : Accounted first history holder s) (hguarded : Guarded s holder)
    (hturn : Turn Move s (t, event) s') :
    Accounted first (history ++ [(t, event)]) (holderAfter holder t event) s' := by
  cases hturn with
  | mk hmove =>
    have hheld := hguarded.holds t
    generalize hstage : s.stage t = stage at hmove hheld
    cases hmove with
    | enter hfree =>
      obtain rfl := hguarded.free hfree
      exact h.silent rfl rfl (by simp [uncounted, holderAfter]) nofun
    | start hfree =>
      obtain rfl := hguarded.free hfree
      exact h.silent rfl rfl (by simp [uncounted, holderAfter]) nofun
    | leave =>
      obtain rfl := hheld.mp rfl
      exact h.silent rfl rfl (by simp [uncounted, holderAfter, hstage]) nofun
    | finish =>
      obtain rfl := hheld.mp rfl
      exact h.silent rfl rfl (by simp [uncounted, holderAfter, hstage]) nofun
    | count =>
      obtain rfl := hheld.mp rfl
      exact h.silent rfl rfl (by simp [uncounted, holderAfter, hstage]) nofun
    | obtain rebuilt =>
      obtain rfl := hheld.mp rfl
      refine h.silent rfl rfl ?_ ?_
      · simp only [uncounted, holderAfter, hstage, Function.update_self, Stage.after]
        cases fresh? rebuilt <;> rfl
      · intro fresh hfresh
        rw [Stage.after_eq_holding_iff.mp hfresh]
    | run htarget =>
      refine h.silent rfl rfl ?_ nofun
      cases holder with
      | none => rfl
      | some u =>
        -- the lock is held by another thread
        have hother : u ≠ t := by
          rintro rfl
          cases hheld.mpr rfl
        simp [uncounted, holderAfter, hother]
    | @install handle fresh =>
      obtain rfl := hheld.mp rfl
      have hregistered := s.shared.isRegistered_of_current? h.current
      have hgeneration := h.generation
      refine h.update ?_ ?_ nofun ?_
      · rw [installs_append, installs_singleton, Handle.current?_write hregistered]
        simp [Event.installed?]
      · rw [installs_append, installs_singleton]
        simp [uncounted, holderAfter, hstage, Event.installed?] at hgeneration ⊢
        exact hgeneration
      · rintro _ ⟨⟩
        exact hstage

/-! ## A registered handle -/

/-- The handle and threads that have done nothing yet. -/
def Scene.start (handle : Handle ι) : Scene τ ι := ⟨handle, fun _ => .idle⟩

/-- A handle that was just created and has taken its first instance. -/
def Fresh (handle : Handle ι) (first : ι) : Prop :=
  ∃ name params, (Handle.create name).register first params = .ok handle

omit [DecidableEq τ] in
theorem Fresh.start {handle : Handle ι} {first : ι} (h : Fresh handle first) :
    Guarded (Scene.start handle : Scene τ ι) none ∧
      Accounted first [] none (Scene.start handle : Scene τ ι) := by
  obtain ⟨name, params, hregister⟩ := h
  rw [Handle.register] at hregister
  by_cases hname : params.name = (Handle.create name : Handle ι).name
  · rw [if_pos hname] at hregister
    obtain rfl := Except.ok.inj hregister
    exact ⟨⟨rfl, fun t => by simp [Scene.start, Stage.holdsLock]⟩, ⟨rfl, rfl, nofun, nofun⟩⟩
  · rw [if_neg hname] at hregister
    cases hregister

/-- Somebody or nobody holds the lock, and the account is kept. -/
def Kept (first : ι) (history : History τ ι) (s : Scene τ ι) : Prop :=
  ∃ holder, Guarded s holder ∧ Accounted first history holder s

theorem Kept.step {first : ι} {history : History τ ι} {s s' : Scene τ ι} {entry : τ × Event ι}
    (h : Kept first history s) (hturn : Turn Move s entry s') : Kept first (history ++ [entry]) s' := by
  obtain ⟨t, event⟩ := entry
  obtain ⟨holder, hguarded, haccounted⟩ := h
  exact ⟨_, hguarded.step hturn, haccounted.step hguarded hturn⟩

section Turns

variable {handle : Handle ι} {first : ι} (hfresh : Fresh handle first) {history : History τ ι}
  {s : Scene τ ι} (hturns : Turns Move (Scene.start handle) history s)
include hfresh hturns

theorem kept : Kept first history s := by
  have hstart : Kept first [] (Scene.start handle : Scene τ ι) := ⟨none, hfresh.start⟩
  exact hturns.invariant Kept.step hstart

/-- **At most one rebuild is in flight.** -/
theorem inFlight_unique {t u : τ} (ht : (s.stage t).inFlight = true) (hu : (s.stage u).inFlight = true) :
    t = u := by
  have hlock : ∀ stage : Stage ι, stage.inFlight = true → stage.holdsLock = true := by
    intro stage h
    cases stage <;> first | rfl | cases h
  obtain ⟨holder, hguarded, _⟩ := kept hfresh hturns
  have hholder := (hguarded.holds t).mp (hlock _ ht)
  rw [(hguarded.holds u).mp (hlock _ hu)] at hholder
  exact (Option.some.inj hholder).symm

/-- **A barrier is not passed while a rebuild is in flight.** -/
theorem not_inFlight_of_entered {t : τ} {s' : Scene τ ι} (hturn : Turn Move s (t, .entered) s') (u : τ) :
    (s.stage u).inFlight = false := by
  obtain ⟨holder, hguarded, _⟩ := kept hfresh hturns
  cases hturn with
  | mk hmove =>
    generalize s.stage t = stage at hmove
    cases hmove with
    | enter hfree =>
      obtain rfl := hguarded.free hfree
      have hidle := hguarded.holds u
      cases hstage : s.stage u <;> simp_all [Stage.holdsLock, Stage.inFlight]

/-- **What a forward reads** is the last instance that was installed before. -/
theorem ran_eq {earlier later : History τ ι} {t : τ} {target : ι}
    (hcut : history = earlier ++ (t, .ran target) :: later) :
    target = (installs earlier).getLastD first := by
  subst hcut
  obtain ⟨middle, hearlier, hlater⟩ := hturns.split
  obtain ⟨holder, _, haccounted⟩ := kept hfresh hearlier
  cases hlater with
  | cons hturn _ =>
    cases hturn with
    | mk hmove =>
      generalize middle.stage t = stage at hmove
      cases hmove with
      | run htarget => exact Option.some.inj (htarget.symm.trans haccounted.current)

/-- Its place among all instances is the number of installations before. -/
theorem getElem?_of_ran {earlier later : History τ ι} {t : τ} {target : ι}
    (hcut : history = earlier ++ (t, .ran target) :: later) :
    (first :: installs history)[place earlier]? = some target := by
  rw [ran_eq hfresh hturns hcut, hcut, installs_append]
  exact getElem?_cons_append_length ..

/-- It came from a rebuild, unless it is the first one. -/
theorem source_of_ran {earlier later : History τ ι} {t : τ} {target : ι}
    (hcut : history = earlier ++ (t, .ran target) :: later) :
    target = first ∨ ∃ u, (u, .obtained (.ok (.ok target))) ∈ earlier := by
  have htarget := ran_eq hfresh hturns hcut
  subst hcut
  obtain ⟨middle, hearlier, _⟩ := hturns.split
  obtain ⟨holder, _, haccounted⟩ := kept hfresh hearlier
  -- the instance that was installed last, or the first one if there is none
  cases hinstalls : installs earlier using List.reverseRecOn with
  | nil =>
    rw [hinstalls] at htarget
    exact .inl htarget
  | append_singleton before last _ =>
    rw [hinstalls, List.getLastD_concat] at htarget
    subst htarget
    exact .inr (haccounted.source target (by simp [hinstalls]))

end Turns

end Reload

end LiveSwap
