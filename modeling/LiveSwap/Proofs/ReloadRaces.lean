import LiveSwap.Proofs.ReloadLock
import LiveSwap.Proofs.Run

/-!
# Forwards and refreshes of one handle, in any order

What threads see of each other when they forward through a registered handle and refresh it.

* **`Reload.result_of_obtained`** — when a refresh gives the lock back, the handle serves the instance that
  its rebuild came to.
* **`Reload.erase`** — a refresh that came to no instance can be taken out; all else happens as before.
* **`Reload.forward_moves`**, **`Reload.refresh_moves`** — the forwards and refreshes that the program runs
  are made of these moves.
* **`Reload.orderly`** — whatever order the threads make their moves in, the program's own among them.
-/

namespace LiveSwap

variable {ι σ τ : Type}

namespace Reload

open Interleaving (Turn Turns)

variable [DecidableEq τ]

/-! ## While one thread refreshes -/

/-- While a thread holds the lock, all that others can do is read. -/
theorem Guarded.others {s s' : Scene τ ι} {u t : τ} {event : Event ι} (hguarded : Guarded s (some u))
    (hturn : Turn Move s (t, event) s') : t = u ∨ ∃ target, event = .ran target ∧ s.stage t = .past ∧
      s.shared.current? = some target ∧ s' = ⟨s.shared, Function.update s.stage t .idle⟩ := by
  cases hturn with
  | mk hmove =>
    have hheld := hguarded.holds t
    have hlocked : s.shared.reloading = true := hguarded.locked
    generalize hstage : s.stage t = stage at hmove hheld
    cases hmove with
    | run htarget => exact .inr ⟨_, rfl, rfl, htarget, rfl⟩
    | enter hfree => simp [hfree] at hlocked
    | start hfree => simp [hfree] at hlocked
    | leave | obtain | install | count | finish =>
      -- only the holder makes these, and there is one holder
      left
      have hself := hheld.mp (by rfl)
      exact (Option.some.inj hself).symm

theorem Guarded.inFlight {s s' : Scene τ ι} {u : τ} {entry : τ × Event ι} (hguarded : Guarded s (some u))
    (hflight : (s.stage u).inFlight = true) (hopen : entry ≠ (u, .ended)) (hturn : Turn Move s entry s') :
    Guarded s' (some u) ∧ (s'.stage u).inFlight = true := by
  obtain ⟨t, event⟩ := entry
  have hafter := hguarded.step hturn
  -- a move of the thread itself, or a read by another one
  obtain rfl | ⟨target, rfl, hpast, -, rfl⟩ := hguarded.others hturn
  · cases hturn with
    | mk hmove =>
      generalize s.stage t = stage at hmove hflight
      cases hmove with
      | enter | start | leave | run => cases hflight
      | install | count => exact ⟨hafter, by simp [Stage.inFlight]⟩
      | finish => exact absurd rfl hopen
      | obtain rebuilt =>
        refine ⟨hafter, ?_⟩
        simp only [Function.update_self, Stage.after]
        cases fresh? rebuilt <;> rfl
  -- the reader is another thread, because this one is refreshing
  · have hother : u ≠ t := by
      rintro rfl
      rw [hpast] at hflight
      cases hflight
    exact ⟨hafter, by simpa [hother] using hflight⟩

/-! ## A rebuild that came to an instance -/

/-- A thread brings a fresh instance to the handle, or has brought it. -/
structure Carries (u : τ) (fresh : ι) (s : Scene τ ι) : Prop where
  registered : s.shared.isRegistered
  carried : s.stage u = .holding fresh ∨
    (s.stage u = .written ∨ s.stage u = .settled) ∧ s.shared.current? = some fresh

theorem Carries.step {u : τ} {fresh : ι} {s s' : Scene τ ι} {entry : τ × Event ι} (h : Carries u fresh s)
    (hguarded : Guarded s (some u)) (hopen : entry ≠ (u, .ended)) (hturn : Turn Move s entry s') :
    Carries u fresh s' := by
  obtain ⟨t, event⟩ := entry
  -- while the lock is held all that others can do is read
  obtain rfl | ⟨target, rfl, hpast, -, rfl⟩ := hguarded.others hturn
  · cases hturn with
    | mk hmove =>
      have hcarried := h.carried
      generalize s.stage t = stage at hmove hcarried
      cases hmove with
      | enter | start | leave | run | obtain => simp at hcarried
      | @install handle installed =>
        obtain rfl : installed = fresh := by simpa using hcarried
        have hserved := Handle.current?_write h.registered installed
        exact ⟨Handle.isRegistered_of_current? _ hserved, .inr ⟨.inl (by simp), hserved⟩⟩
      | count => exact ⟨h.registered, .inr ⟨.inr (by simp), by simpa using hcarried⟩⟩
      | finish => exact absurd rfl hopen
  · -- another thread read; it is not the one that carries
    have hother : u ≠ t := by
      rintro rfl
      have hcarried := h.carried
      simp [hpast] at hcarried
    exact ⟨h.registered, by simpa [hother] using h.carried⟩

omit [DecidableEq τ] in
theorem Carries.inFlight {u : τ} {fresh : ι} {s : Scene τ ι} (h : Carries u fresh s) :
    (s.stage u).inFlight = true := by
  obtain hstage | ⟨hstage | hstage, -⟩ := h.carried <;> rw [hstage] <;> rfl

theorem Carries.turns {u : τ} {fresh : ι} {s s' : Scene τ ι} {history : History τ ι} (h : Carries u fresh s)
    (hguarded : Guarded s (some u)) (hopen : (u, .ended) ∉ history) (hturns : Turns Move s history s') :
    Carries u fresh s' := by
  -- the lock stays with the thread as long as it is not given back
  induction hturns with
  | nil => exact h
  | cons hturn _ ih =>
    rw [List.mem_cons, not_or] at hopen
    have hguarded' := (hguarded.inFlight h.inFlight (Ne.symm hopen.1) hturn).1
    exact ih (h.step hguarded (Ne.symm hopen.1) hturn) hguarded' hopen.2

/-- **What a refresh leaves behind** is what its rebuild came to. -/
theorem result_of_obtained {handle : Handle ι} {first fresh : ι} (hfirst : Fresh handle first) {s : Scene τ ι}
    {earlier between later : History τ ι} {u : τ} (hopen : (u, .ended) ∉ between)
    (hturns : Turns Move (Scene.start handle)
      (earlier ++ (u, .obtained (.ok (.ok fresh))) :: (between ++ (u, .ended) :: later)) s) :
    (installs (earlier ++ (u, .obtained (.ok (.ok fresh))) :: between)).getLastD first = fresh := by
  have hcut : earlier ++ (u, .obtained (.ok (.ok fresh))) :: (between ++ (u, .ended) :: later) =
      (earlier ++ (u, .obtained (.ok (.ok fresh))) :: between) ++ (u, .ended) :: later := by simp
  rw [hcut] at hturns
  -- cut the run where the lock is given back, and before that where the rebuild returns
  obtain ⟨settled, hbefore, hended⟩ := hturns.split
  obtain ⟨_, _, haccounted⟩ := kept hfirst hbefore
  obtain ⟨rebuilt, hearlier, hobtained⟩ := hbefore.split
  obtain ⟨holder, hguarded, hserved⟩ := kept hfirst hearlier
  have hregistered := rebuilt.shared.isRegistered_of_current? hserved.current
  have hcarries : Carries u fresh settled := by
    cases hobtained with
    | cons hturn hbetween =>
      have hheld := hguarded.holds u
      have hafter := hguarded.step hturn
      cases hturn with
      | mk hmove =>
        generalize rebuilt.stage u = stage at hmove hheld
        cases hmove with
        | obtain =>
          obtain rfl := hheld.mp rfl
          have hcarries : Carries u fresh
              ⟨rebuilt.shared, Function.update rebuilt.stage u (.after (.ok (.ok fresh)))⟩ :=
            ⟨hregistered, .inl (by simp [Stage.after, fresh?])⟩
          exact hcarries.turns hafter hopen hbetween
  cases hended with
  | cons hturn _ =>
    -- the lock is given back from the last stage, so the instance is written by now
    cases hturn with
    | mk hmove =>
      have hcarried := hcarries.carried
      generalize settled.stage u = stage at hmove hcarried
      cases hmove with
      | finish =>
        have hcurrent : settled.shared.current? = some fresh := by simpa using hcarried
        rw [haccounted.current] at hcurrent
        exact Option.some.inj hcurrent

/-! ## A rebuild that came to nothing -/

/-- The scene if a thread were doing nothing. -/
def Scene.without (s : Scene τ ι) (u : τ) : Scene τ ι := ⟨s.shared.unlock, Function.update s.stage u .idle⟩

def History.without (history : History τ ι) (u : τ) : History τ ι := history.filter (·.1 ≠ u)

/-- A thread that refreshes and has no fresh instance. -/
def EmptyHanded (s : Scene τ ι) (u : τ) : Prop := s.stage u = .rebuilding ∨ s.stage u = .settled

omit [DecidableEq τ] in
theorem EmptyHanded.inFlight {s : Scene τ ι} {u : τ} (h : EmptyHanded s u) : (s.stage u).inFlight = true := by
  obtain hstage | hstage := h <;> rw [hstage] <;> rfl

theorem EmptyHanded.step {s s' : Scene τ ι} {u : τ} {event : Event ι} (h : EmptyHanded s u)
    (hopen : event ≠ .ended) (hfailed : ∀ fresh, event ≠ .obtained (.ok (.ok fresh)))
    (hturn : Turn Move s (u, event) s') : s'.without u = s.without u ∧ EmptyHanded s' u := by
  cases hturn with
  | mk hmove =>
    rw [EmptyHanded] at h
    generalize s.stage u = stage at hmove h
    cases hmove with
    -- without a fresh instance there is nothing to install or to count
    | enter | start | leave | run | install | count => simp at h
    | finish => exact absurd rfl hopen
    -- what was obtained is a failure, so the thread stays empty-handed
    | obtain rebuilt =>
      refine ⟨by simp [Scene.without], .inr ?_⟩
      simp only [Function.update_self, Stage.after]
      cases hnone : fresh? rebuilt with
      | none => rfl
      | some fresh =>
        have hrebuilt := Stage.after_eq_holding_iff.mp (by rw [Stage.after, hnone])
        exact absurd (congrArg Event.obtained hrebuilt) (hfailed fresh)

theorem turn_without {s : Scene τ ι} {t u : τ} {target : ι} (hother : t ≠ u) (hpast : s.stage t = .past)
    (htarget : s.shared.current? = some target) : Turn Move (s.without u) (t, .ran target)
      (Scene.without ⟨s.shared, Function.update s.stage t .idle⟩ u) := by
  have hturn : Turn Move (s.without u) (t, .ran target)
      ⟨(s.without u).shared, Function.update (s.without u).stage t .idle⟩ := by
    refine .mk ?_
    -- the lock is not looked at when an instance is read
    show Move (Function.update s.stage u .idle t) _ _ _ _
    rw [Function.update_of_ne hother, hpast]
    exact .run htarget
  rw [Scene.without, Function.update_comm hother.symm] at hturn
  exact hturn

theorem EmptyHanded.erase {u : τ} {s s' : Scene τ ι} {history : History τ ι} (hempty : EmptyHanded s u)
    (hturns : Turns Move s history s') (hguarded : Guarded s (some u)) (hopen : (u, .ended) ∉ history)
    (hfailed : ∀ fresh, (u, .obtained (.ok (.ok fresh))) ∉ history) :
    Turns Move (s.without u) (History.without history u) (s'.without u) ∧ EmptyHanded s' u := by
  induction hturns with
  | nil => exact ⟨.nil, hempty⟩
  | @cons s middle s' entry rest hturn _ ih =>
    obtain ⟨t, event⟩ := entry
    rw [List.mem_cons, not_or] at hopen
    obtain ⟨hguarded', -⟩ := hguarded.inFlight hempty.inFlight (Ne.symm hopen.1) hturn
    have hrest : ∀ fresh, (u, .obtained (.ok (.ok fresh))) ∉ rest :=
      fun fresh hmem => hfailed fresh (List.mem_cons_of_mem _ hmem)
    -- its own moves are dropped and change nothing outside; the reads of the others stay
    obtain rfl | ⟨target, rfl, hpast, htarget, rfl⟩ := hguarded.others hturn
    · have hevent : event ≠ .ended := by
        rintro rfl
        exact hopen.1 rfl
      have hnone : ∀ fresh, event ≠ .obtained (.ok (.ok fresh)) := by
        rintro fresh rfl
        exact hfailed fresh List.mem_cons_self
      obtain ⟨hsame, hempty'⟩ := hempty.step hevent hnone hturn
      obtain ⟨herased, hlast⟩ := ih hempty' hguarded' hopen.2 hrest
      rw [hsame] at herased
      exact ⟨by simpa [History.without] using herased, hlast⟩
    · have hother : t ≠ u := by
        rintro rfl
        simp [EmptyHanded, hpast] at hempty
      have hempty' : EmptyHanded ⟨s.shared, Function.update s.stage t .idle⟩ u := by
        simpa [EmptyHanded, hother.symm] using hempty
      obtain ⟨herased, hlast⟩ := ih hempty' hguarded' hopen.2 hrest
      have hhistory : History.without ((t, .ran target) :: rest) u =
          (t, .ran target) :: History.without rest u := by
        simp [History.without, hother]
      rw [hhistory]
      exact ⟨.cons (turn_without hother hpast htarget) herased, hlast⟩

theorem without_of_began {s s' : Scene τ ι} {u : τ} (hturn : Turn Move s (u, .began) s') :
    s'.without u = s ∧ EmptyHanded s' u := by
  cases hturn with
  | mk hmove =>
    generalize hstage : s.stage u = stage at hmove
    cases hmove with
    | start hfree =>
      refine ⟨?_, .inl (by simp)⟩
      have hstages : Function.update (Function.update s.stage u .rebuilding) u .idle = s.stage := by
        rw [Function.update_idem, ← hstage, Function.update_eq_self]
      rw [Scene.without, Handle.unlock_lock _ hfree, hstages]

theorem without_of_ended {s s' : Scene τ ι} {u : τ} (hturn : Turn Move s (u, .ended) s') : s' = s.without u := by
  cases hturn with
  | mk hmove =>
    generalize s.stage u = stage at hmove
    cases hmove with
    | finish => rfl

section Erasing

variable {handle : Handle ι} {first : ι} (hfirst : Fresh handle first) {s : Scene τ ι}
  {earlier between later : History τ ι} {u : τ} (hopen : (u, .ended) ∉ between)
  (hfailed : ∀ fresh, (u, .obtained (.ok (.ok fresh))) ∉ between)
include hfirst hopen hfailed

/-- **A refresh that has no fresh instance** shows to nobody while it is under way. -/
theorem erase_inFlight (hturns : Turns Move (Scene.start handle) (earlier ++ (u, .began) :: between) s) :
    Turns Move (Scene.start handle) (earlier ++ History.without between u) (s.without u) := by
  obtain ⟨before, hearlier, hrefresh⟩ := hturns.split
  obtain ⟨holder, hguarded, _⟩ := kept hfirst hearlier
  cases hrefresh with
  | cons hbegan hbetween =>
    have hlocked : Guarded _ (some u) := hguarded.step hbegan
    obtain ⟨hbefore, hempty⟩ := without_of_began hbegan
    obtain ⟨herased, -⟩ := hempty.erase hbetween hlocked hopen hfailed
    rw [hbefore] at herased
    exact hearlier.append herased

/-- **A refresh that came to no instance** can be taken out of a run, and all that is left is as before. -/
theorem erase
    (hturns : Turns Move (Scene.start handle) (earlier ++ (u, .began) :: (between ++ (u, .ended) :: later)) s) :
    Turns Move (Scene.start handle) (earlier ++ (History.without between u ++ later)) s := by
  have hcut : earlier ++ (u, .began) :: (between ++ (u, .ended) :: later) =
      (earlier ++ (u, .began) :: between) ++ (u, .ended) :: later := by simp
  rw [hcut] at hturns
  obtain ⟨settled, hrefresh, hended⟩ := hturns.split
  cases hended with
  | cons hturn hlater =>
    obtain rfl := without_of_ended hturn
    have herased := (erase_inFlight hfirst hopen hfailed hrefresh).append hlater
    rwa [List.append_assoc] at herased

end Erasing

/-! ## The program's own forwards and refreshes -/

def forwardMoves (t : τ) (target : ι) : History τ ι := [(t, .entered), (t, .left), (t, .ran target)]

def refreshMoves (t : τ) (rebuilt : Except Payload (Except RebuildError ι)) : History τ ι :=
  [(t, .began), (t, .obtained rebuilt)] ++
    ((fresh? rebuilt).elim [] fun fresh => [(t, .installed fresh), (t, .counted)]) ++ [(t, .ended)]

section Alone

variable {handle : Handle ι} (hidle : handle.reloading = false) (t : τ) {stage : τ → Stage ι}
  (hstage : stage t = .idle)
include hidle hstage

theorem turns_forwardMoves {target : ι} (htarget : handle.current? = some target) :
    Turns Move ⟨handle, stage⟩ (forwardMoves t target) ⟨handle, stage⟩ := by
  have hsame : Function.update stage t .idle = stage := by
    rw [← hstage, Function.update_eq_self]
  have hentered := Turn.alone t stage (Move.enter hidle)
  have hleft := Turn.alone t stage (Move.leave (h := handle.lock))
  have hran := Turn.alone t stage (Move.run htarget)
  rw [Handle.unlock_lock _ hidle] at hleft
  rw [hsame] at hentered hran
  exact .cons hentered (.cons hleft (.cons hran .nil))

theorem turns_refreshMoves (hregistered : handle.isRegistered)
    (rebuilt : Except Payload (Except RebuildError ι)) :
    Turns Move ⟨handle, stage⟩ (refreshMoves t rebuilt) ⟨(fresh? rebuilt).elim handle handle.swap, stage⟩ := by
  have hsame : Function.update stage t .idle = stage := by
    rw [← hstage, Function.update_eq_self]
  have hbegan := Turn.alone t stage (Move.start hidle)
  have hobtained := Turn.alone t stage (Move.obtain rebuilt (h := handle.lock))
  rw [hsame] at hbegan
  refine .cons hbegan (.cons hobtained ?_)
  -- what remains depends on what the rebuild came to
  rw [Stage.after]
  cases hfresh : fresh? rebuilt with
  | none =>
    have hended := Turn.alone t stage (Move.finish (h := handle.lock))
    rw [Handle.unlock_lock _ hidle, hsame] at hended
    exact .cons hended .nil
  | some fresh =>
    have hinstalled := Turn.alone t stage (Move.install (h := handle.lock) : Move (.holding fresh) _ _ _ _)
    have hcounted := Turn.alone t stage (Move.count (h := handle.lock.write fresh))
    have hended := Turn.alone t stage (Move.finish (h := (handle.lock.write fresh).count))
    have hunlock : (handle.lock.write fresh).count.unlock = handle.swap fresh := by
      rw [Handle.swap_eq_count_write hregistered, Handle.lock, Handle.write, Handle.write, Handle.count,
        Handle.count, Handle.unlock, ← hidle]
    rw [hunlock, hsame] at hended
    exact .cons hinstalled (.cons hcounted (.cons hended .nil))

end Alone

theorem runOn_barrier (s : Host ι σ) (id : HandleId) : (Act.barrier id : Act ι σ Unit).runOn s =
    (Act.acquire id >>= fun _ => Act.release id : Act ι σ Unit).runOn s := by
  cases hlocked : (s.handle id).reloading with
  | false =>
    rw [Effect.runOn_bind_ok (Act.runOn_acquire hlocked), Act.runOn_release, Host.setLock_setLock,
      Host.setLock_eq_self hlocked, Act.barrier, Effect.runOn_get_bind, hlocked]
    rfl
  | true =>
    have hwaits : (Act.barrier id : Act ι σ Unit).runOn s = (.error (.waiting (.reloadLock id)), s) := by
      rw [Act.barrier, Effect.runOn_get_bind, hlocked]
      rfl
    rw [Act.acquire, Effect.runOn_bind_error (Effect.runOn_bind_error hwaits), hwaits]

section Program

variable {s : Host ι σ} {id : HandleId} {i : Installed ι} (hi : (s.handle id).installed = some i)
  (hidle : (s.handle id).reloading = false) (t : τ) {stage : τ → Stage ι} (hstage : stage t = .idle)
include hi hidle hstage

/-- A forward that nobody interrupts makes the moves of one. -/
theorem forward_moves : (Act.snapshot ⟨id⟩ : Act ι σ ι).runOn s = (.ok i.current, s) ∧
    Turns Move ⟨s.handle id, stage⟩ (forwardMoves t i.current) ⟨s.handle id, stage⟩ := by
  constructor
  · have hforward := Act.runOn_forward hi hidle (fun target => (pure target : Act ι σ ι))
    rwa [Act.forward, bind_pure] at hforward
  · have hcurrent : (s.handle id).current? = some i.current := by
      rw [Handle.current?, hi]
      rfl
    exact turns_forwardMoves hidle t hstage hcurrent

theorem refresh_moves {strategy : Strategy ι σ} (hd : strategy.Detached) :
    Turns Move ⟨s.handle id, stage⟩
      (refreshMoves t ((strategy.rebuild i.params i.current).conduct s.library).answer)
      ⟨((Act.refreshWith id strategy).runOn s).2.handle id, stage⟩ := by
  have hregistered : (s.handle id).isRegistered := by
    rw [Handle.isRegistered, hi]
    rfl
  -- the handle takes what the rebuild came to, if that is an instance
  have hhandle : (s.refreshHandle strategy id).2.handle id =
      (fresh? ((strategy.rebuild i.params i.current).conduct s.library).answer).elim (s.handle id)
        (s.handle id).swap := by
    simp only [Host.refreshHandle, hi]
    rcases ((strategy.rebuild i.params i.current).conduct s.library).answer with
      payload | (error | fresh)
    · rfl
    · rfl
    · exact Host.handle_updateHandle_self (Host.lt_of_installed hi) (·.swap fresh)
  rw [Act.runOn_refreshWith hd hidle, hhandle]
  exact turns_refreshMoves hidle t hstage hregistered _

end Program

/-! ## All runs -/

/-- The instances the handle has served, in order. -/
def served (first : ι) (history : History τ ι) : List ι := first :: installs history

/-- Which instance a history leaves at its end, as part of a longer one. -/
def Leaves (first : ι) (history upTo : History τ ι) (target : ι) : Prop :=
  (served first history)[place upTo]? = some target

/-- What holds of forwards and refreshes in any order. -/
structure Orderly (handle : Handle ι) (first : ι) (history : History τ ι) (s : Scene τ ι) : Prop where
  /-- At most one rebuild is in flight. -/
  single : ∀ t u, (s.stage t).inFlight = true → (s.stage u).inFlight = true → t = u
  /-- No barrier is acquired meanwhile. -/
  barrier : ∀ t s', Turn Move s (t, .entered) s' → ∀ u, (s.stage u).inFlight = false
  /-- A forward runs against the registered instance or one that a rebuild has returned before. -/
  source : ∀ earlier t target later, history = earlier ++ (t, .ran target) :: later →
    target = first ∨ ∃ u, (u, .obtained (.ok (.ok target))) ∈ earlier
  /-- Forwards never go back. -/
  successive : ∀ earlier t target between target' later,
    history = earlier ++ (t, .ran target) :: (between ++ (t, .ran target') :: later) →
    Leaves first history earlier target ∧
      Leaves first history (earlier ++ (t, .ran target) :: between) target' ∧
      place earlier ≤ place (earlier ++ (t, .ran target) :: between)
  /-- A forward whose barrier comes after a refresh reads the result of that refresh or a later one. -/
  after : ∀ earlier u fresh between later t reading target rest,
    history = earlier ++ (u, .obtained (.ok (.ok fresh))) :: (between ++ (u, .ended) ::
      (later ++ (t, .entered) :: (reading ++ (t, .ran target) :: rest))) →
    (u, .ended) ∉ between →
    let settled := earlier ++ (u, .obtained (.ok (.ok fresh))) :: between
    let upTo := settled ++ (u, .ended) :: (later ++ (t, .entered) :: reading)
    Leaves first history settled fresh ∧ Leaves first history upTo target ∧ place settled ≤ place upTo
  /-- Without a refresh that came to no instance, everything else happens as it does with it. -/
  failed : ∀ earlier u between later,
    history = earlier ++ (u, .began) :: (between ++ (u, .ended) :: later) → (u, .ended) ∉ between →
    (∀ fresh, (u, .obtained (.ok (.ok fresh))) ∉ between) →
    Turns Move (Scene.start handle) (earlier ++ (History.without between u ++ later)) s
  /-- Also while that refresh is under way. -/
  failing : ∀ earlier u between, history = earlier ++ (u, .began) :: between → (u, .ended) ∉ between →
    (∀ fresh, (u, .obtained (.ok (.ok fresh))) ∉ between) →
    Turns Move (Scene.start handle) (earlier ++ History.without between u) (s.without u)
  /-- Between refreshes the installed instances are counted, in a word that wraps. -/
  counted : (∀ t, (s.stage t).inFlight = false) →
    s.shared.generation.toNat = (installs history).length % UInt64.size
  /-- The program's barrier takes the lock and gives it back. -/
  passes : ∀ {σ : Type} (host : Host ι σ) (id : HandleId), (Act.barrier id : Act ι σ Unit).runOn host =
    (Act.acquire id >>= fun _ => Act.release id : Act ι σ Unit).runOn host
  /-- A forward of the program that finds the lock free goes on with the moves of one, for any idle thread. -/
  forwards : ∀ {σ : Type} (host : Host ι σ) (id : HandleId) (t : τ), host.handle id = s.shared →
    s.shared.reloading = false → s.stage t = .idle → ∃ target,
      (Act.snapshot ⟨id⟩ : Act ι σ ι).runOn host = (.ok target, host) ∧
      Turns Move (Scene.start handle) (history ++ forwardMoves t target) s
  /-- So does a refresh, with whatever its rebuild comes to. -/
  refreshes : ∀ {σ : Type} (host : Host ι σ) (id : HandleId) (t : τ) (strategy : Strategy ι σ),
    strategy.Detached → host.handle id = s.shared → s.shared.reloading = false → s.stage t = .idle →
    ∃ i, s.shared.installed = some i ∧ Turns Move (Scene.start handle)
      (history ++ refreshMoves t ((strategy.rebuild i.params i.current).conduct host.library).answer)
      ⟨((Act.refreshWith id strategy).runOn host).2.handle id, s.stage⟩

/-- **Forwards and refreshes of a registered handle**, in whatever order the threads make their moves. -/
theorem orderly {handle : Handle ι} {first : ι} {name : String} {params : Params}
    (hregister : (Handle.create name).register first params = .ok handle) {history : History τ ι}
    {s : Scene τ ι} (hturns : Turns Move (Scene.start handle) history s) : Orderly handle first history s := by
  have hfirst : Fresh handle first := ⟨name, params, hregister⟩
  have hleaves {upTo later : History τ ι} {t : τ} {target : ι}
      (hcut : history = upTo ++ (t, .ran target) :: later) : Leaves first history upTo target :=
    getElem?_of_ran hfirst hturns hcut
  have hinstalled : ∃ i, s.shared.installed = some i := by
    obtain ⟨_, -, haccounted⟩ := kept hfirst hturns
    obtain ⟨i, hi, -⟩ := Option.map_eq_some_iff.mp haccounted.current
    exact ⟨i, hi⟩
  constructor
  case single => exact fun t u => inFlight_unique hfirst hturns
  case barrier => exact fun t s' hturn u => not_inFlight_of_entered hfirst hturns hturn u
  case source => exact fun earlier t target later hcut => source_of_ran hfirst hturns hcut
  case successive =>
    intro earlier t target between target' later hcut
    exact ⟨hleaves hcut, hleaves (by simpa using hcut), place_le_append ..⟩
  case after =>
    intro earlier u fresh between later t reading target rest hcut hopen settled upTo
    have hread : history = upTo ++ (t, .ran target) :: rest := by simp [upTo, settled, hcut]
    refine ⟨?_, hleaves hread, place_le_append ..⟩
    have hresult : (installs settled).getLastD first = fresh := result_of_obtained hfirst hopen (hcut ▸ hturns)
    have hhistory : history = settled ++ (u, .ended) ::
        (later ++ (t, .entered) :: (reading ++ (t, .ran target) :: rest)) := by
      simp [settled, hcut]
    rw [Leaves, served, hhistory, installs_append, ← hresult]
    exact getElem?_cons_append_length ..
  case failed =>
    intro earlier u between later hcut hopen hfailed
    exact erase hfirst hopen hfailed (hcut ▸ hturns)
  case failing =>
    intro earlier u between hcut hopen hfailed
    exact erase_inFlight hfirst hopen hfailed (hcut ▸ hturns)
  case counted =>
    intro hidle
    obtain ⟨holder, hguarded, haccounted⟩ := kept hfirst hturns
    -- an instance that is written and not counted yet belongs to a refresh in flight
    have hnone : uncounted s holder = 0 := by
      cases holder with
      | none => rfl
      | some t =>
        have hstage := hidle t
        rw [uncounted]
        cases hs : s.stage t <;> simp_all [Stage.inFlight]
    have hgeneration := haccounted.generation
    rw [hnone, UInt64.add_zero] at hgeneration
    rw [hgeneration, UInt64.toNat_ofNat']
  case passes => exact fun host id => runOn_barrier host id
  case forwards =>
    intro σ host id t hhandle hidle hstage
    obtain ⟨i, hi⟩ := hinstalled
    rw [← hhandle] at hi hidle
    obtain ⟨hanswer, hmoves⟩ := forward_moves hi hidle t hstage
    rw [hhandle] at hmoves
    exact ⟨_, hanswer, hturns.append hmoves⟩
  case refreshes =>
    intro σ host id t strategy hd hhandle hidle hstage
    obtain ⟨i, hi⟩ := hinstalled
    refine ⟨i, hi, ?_⟩
    rw [← hhandle] at hi hidle
    have hmoves := refresh_moves hi hidle t hstage hd
    rw [hhandle] at hmoves
    exact hturns.append hmoves

/-- A whole refresh fits between the barrier of a forward and its read; the rebuild after that panics. -/
def overtaken : History Bool Nat :=
  [(false, .entered), (false, .left),
    (true, .began), (true, .obtained (.ok (.ok 1))), (true, .installed 1), (true, .counted), (true, .ended),
    (false, .ran 1),
    (true, .began), (true, .obtained (.error .other)), (true, .ended),
    (false, .entered), (false, .left), (false, .ran 1)]

theorem orderly_overtaken : ∃ (handle : Handle Nat) (s : Scene Bool Nat),
    (Handle.create "orders").register 0 (.named "orders" .empty) = .ok handle ∧
      Turns Move (Scene.start handle) overtaken s ∧ Orderly handle 0 overtaken s := by
  have hregister : (Handle.create "orders").register 0 (.named "orders" .empty) =
      .ok ⟨"orders", some ⟨.named "orders" .empty, 0⟩, 0, false⟩ := rfl
  obtain ⟨s, hturns⟩ : ∃ s,
      Turns Move (Scene.start ⟨"orders", some ⟨.named "orders" .empty, 0⟩, 0, false⟩) overtaken s :=
    ⟨_, .cons (.mk (.enter rfl)) <| .cons (.mk .leave) <|
      .cons (.mk (.start rfl)) <| .cons (.mk (.obtain _)) <| .cons (.mk .install) <| .cons (.mk .count) <|
      .cons (.mk .finish) <| .cons (.mk (.run rfl)) <|
      .cons (.mk (.start rfl)) <| .cons (.mk (.obtain _)) <| .cons (.mk .finish) <|
      .cons (.mk (.enter rfl)) <| .cons (.mk .leave) <| .cons (.mk (.run rfl)) .nil⟩
  exact ⟨_, s, hregister, hturns, orderly hregister hturns⟩

end Reload

end LiveSwap
