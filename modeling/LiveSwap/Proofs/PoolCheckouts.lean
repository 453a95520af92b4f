import LiveSwap.Proofs.PoolService
import Mathlib.Data.List.Nodup

/-!
# Connections that pools hand out

A pool answers by how often it was asked before. The library keeps that count by serial, so it has to be told
why pools that live side by side never share one: `Library.Course` follows the library together with the pools it
returned and the answers it gave, and `Tallied` is what it keeps.

* **`Pool.answer`** — what a pool answers, by how often it was asked before.
* **`Tallied.operate`**, **`Tallied.ask`** — what one operation keeps.
* **`Library.Course.settled`** — every pool counts its own checkouts, and no connection is handed out twice.
* **`Races.tracked`** — threads take the library along its course, whatever order they make their moves in.
-/

namespace LiveSwap.Pool

/-! ## Answers -/

/-- What a pool answers that was asked so often before. -/
def answer (pool : Pool) (before : Nat) : Except Exhausted Nat :=
  if before < pool.maxConnections then .ok before else .error ⟨pool.url, pool.maxConnections⟩

/-- Pools that were asked, in order, with their answers. -/
abbrev Ledger := List (Pool × Except Exhausted Nat)

namespace Ledger

/-- How often a pool was asked. -/
def asked (ledger : Ledger) (pool : Pool) : Nat := ledger.countP (·.1 = pool)

/-- The answers of one pool. -/
def answers (ledger : Ledger) (pool : Pool) : List (Except Exhausted Nat) :=
  (ledger.filter (·.1 = pool)).map (·.2)

/-- The connections that were handed out: the serial of the pool and the connection's id. -/
def connections (ledger : Ledger) : List (Nat × Nat) :=
  ledger.filterMap fun entry => entry.2.toOption.map (entry.1.serial, ·)

/-- Each pool counted its own checkouts, and no two checkouts got the same connection. -/
structure Counted (ledger : Ledger) : Prop where
  answers : ∀ pool, ledger.answers pool = (List.range (ledger.asked pool)).map pool.answer
  nodup : ledger.connections.Nodup

variable {ledger : Ledger} {pool other : Pool} {outcome : Except Exhausted Nat}

theorem asked_concat : Ledger.asked (ledger ++ [(pool, outcome)]) other =
    ledger.asked other + if pool = other then 1 else 0 := by
  rw [asked, List.countP_append, List.countP_singleton]
  simp [asked]

theorem answers_concat : Ledger.answers (ledger ++ [(pool, outcome)]) other =
    ledger.answers other ++ if pool = other then [outcome] else [] := by
  rw [answers, List.filter_append, List.map_append]
  by_cases h : pool = other <;> simp [answers, h]

theorem connections_concat : Ledger.connections (ledger ++ [(pool, outcome)]) =
    ledger.connections ++ (outcome.toOption.map (pool.serial, ·)).toList := by
  rw [connections, List.filterMap_append]
  cases outcome <;> rfl

theorem asked_eq_zero (h : ∀ entry ∈ ledger, entry.1 ≠ pool) : ledger.asked pool = 0 := by
  rw [asked, List.countP_eq_zero]
  simpa using h

theorem mem_connections {serial id : Nat} : (serial, id) ∈ ledger.connections ↔
    ∃ pool, (pool, .ok id) ∈ ledger ∧ pool.serial = serial := by
  rw [connections, List.mem_filterMap]
  constructor
  · rintro ⟨⟨pool, outcome⟩, hentry, hconnection⟩
    cases outcome with
    | error e => cases hconnection
    | ok id =>
      cases hconnection
      exact ⟨pool, hentry, rfl⟩
  · rintro ⟨pool, hentry, rfl⟩
    exact ⟨_, hentry, rfl⟩

end Ledger

/-- The connection that is handed out bears the number of checkouts before it. -/
theorem answer_eq_ok_iff {pool : Pool} {before id : Nat} :
    pool.answer before = .ok id ↔ before < pool.maxConnections ∧ before = id := by
  unfold answer
  split_ifs with h <;> simp [h]

theorem Ledger.Counted.lt_asked {ledger : Ledger} (h : ledger.Counted) {pool : Pool} {id : Nat}
    (hentry : (pool, .ok id) ∈ ledger) : id < ledger.asked pool := by
  have hmem : (.ok id) ∈ ledger.answers pool :=
    List.mem_map.mpr ⟨_, List.mem_filter.mpr ⟨hentry, by simp⟩, rfl⟩
  rw [h.answers, List.mem_map] at hmem
  obtain ⟨before, hbefore, hanswer⟩ := hmem
  obtain ⟨-, rfl⟩ := answer_eq_ok_iff.mp hanswer
  exact List.mem_range.mp hbefore

theorem Ledger.Counted.concat {ledger : Ledger} (h : ledger.Counted) {pool : Pool}
    (hserial : ∀ entry ∈ ledger, entry.1.serial = pool.serial → entry.1 = pool) :
    Ledger.Counted (ledger ++ [(pool, pool.answer (ledger.asked pool))]) where
  answers other := by
    rw [answers_concat, asked_concat, h.answers]
    by_cases hother : pool = other
    · subst hother
      simp [List.range_succ]
    · simp [hother]
  nodup := by
    rw [connections_concat]
    cases hanswer : pool.answer (ledger.asked pool) with
    | error e => simpa [Except.toOption] using h.nodup
    | ok id =>
      obtain ⟨-, rfl⟩ := answer_eq_ok_iff.mp hanswer
      -- ids that the pool handed out before are smaller, and no other pool has its serial
      have hnew : (pool.serial, ledger.asked pool) ∉ ledger.connections := by
        intro hold
        obtain ⟨other, hentry, hother⟩ := mem_connections.mp hold
        have hsame : other = pool := hserial _ hentry hother
        exact Nat.lt_irrefl _ (h.lt_asked (hsame ▸ hentry))
      exact List.concat_eq_append ▸ h.nodup.concat hnew

/-! ## The library and its ledger -/

namespace Library

/-- The pool that an operation asks for a connection. -/
def Op.asked? : Op → Option Pool
  | checkout pool => some pool
  | _ => none

/-- The pool that an operation asks, with its answer. -/
def Op.answered (op : Op) (l : Library) : Ledger := op.asked?.toList.map fun pool => (pool, (l.checkout pool).1)

/-- The answers to all checkouts among operations. -/
def ledger (l : Library) : List Op → Ledger
  | [] => []
  | op :: ops => op.answered l ++ (op.apply l).2.ledger ops

/-- The pools that operations return. -/
def returned (l : Library) : List Op → List Pool
  | [] => []
  | op :: ops => (op.apply l).1.toList ++ (op.apply l).2.returned ops

/-- What the library has come to, with the pools that it returned and the checkouts that it answered. A pool is
asked only after it was returned. -/
inductive Course (version : String) : Library → List Pool → Ledger → Prop where
  | start : Course version (.start version) [] []
  | step {l : Library} {pools : List Pool} {ledger : Ledger} (h : Course version l pools ledger) (op : Op)
      (hop : ∀ pool ∈ op.asked?, pool ∈ pools) :
      Course version (op.apply l).2 (pools ++ (op.apply l).1.toList) (ledger ++ op.answered l)

/-- What the library keeps: pools that it returned count their own checkouts, and no serial that is still to come
was asked for. -/
structure Tallied (l : Library) (pools : List Pool) (ledger : Ledger) : Prop where
  grown : ∃ builds, l.Grown pools builds
  known : ∀ entry ∈ ledger, entry.1 ∈ pools
  count : ∀ pool ∈ pools, l.handedOut pool.serial = ledger.asked pool
  fresh : ∀ serial, l.nextSerial ≤ serial → l.handedOut serial = 0
  counted : ledger.Counted

variable {version : String} {l : Library} {pools : List Pool} {ledger : Ledger} {pool : Pool}

theorem checkout_fst (l : Library) (pool : Pool) :
    (l.checkout pool).1 = pool.answer (l.handedOut pool.serial) := by
  simp only [checkout, answer, ← Nat.not_lt, ite_not]

theorem Grown.eq_of_serial {builds : Nat} (h : l.Grown pools builds) {other : Pool} (hpool : pool ∈ pools)
    (hother : other ∈ pools) (hserial : pool.serial = other.serial) : pool = other := by
  have hnodup : (pools.map (·.serial)).Nodup := (List.pairwise_map.mpr h.ordered).imp Nat.ne_of_lt
  exact List.inj_on_of_nodup_map hnodup hpool hother hserial

/-- Counts change only where a pool is asked. -/
theorem Op.handedOut_apply {op : Op} (hop : op.asked? = none) (l : Library) :
    (op.apply l).2.handedOut = l.handedOut := by
  cases op with
  | checkout pool => cases hop
  | build key url ps builtBy =>
    rw [apply_build]
    by_cases hkey : key ∈ l.failing
    · rw [build_of_mem hkey]
    · rw [build_of_notMem hkey]
      cases builtBy <;> cases l.holder? key <;> rfl
  | _ => rfl

theorem handedOut_checkout (l : Library) (pool : Pool) (serial : Nat) :
    (l.checkout pool).2.handedOut serial = l.handedOut serial + if pool.serial = serial then 1 else 0 := by
  by_cases h : pool.serial = serial
  · subst h
    simp [checkout]
  · simp [checkout, h, Ne.symm h]

theorem Tallied.start (version : String) : (Library.start version).Tallied [] [] where
  grown := ⟨0, .start version⟩
  known := nofun
  count := nofun
  fresh _ _ := rfl
  counted := ⟨fun _ => rfl, List.nodup_nil⟩

theorem Tallied.operate (h : l.Tallied pools ledger) {op : Op} (hop : op.asked? = none) :
    (op.apply l).2.Tallied (pools ++ (op.apply l).1.toList) ledger := by
  obtain ⟨builds, hgrown⟩ := h.grown
  have hhandedOut := Op.handedOut_apply hop l
  have hknown : ∀ entry ∈ ledger, entry.1 ∈ pools ++ (op.apply l).1.toList :=
    fun entry hentry => List.mem_append_left _ (h.known entry hentry)
  -- either nothing is returned, or a pool with a serial that nobody has asked for
  obtain ⟨-, ⟨hnone, hnext, -⟩ | ⟨pool, hpool, hserial, hnext, -⟩⟩ := op.apply_cases hgrown.sound
  · refine ⟨⟨_, hgrown.snoc op⟩, hknown, ?_, fun serial hle => ?_, h.counted⟩
    · rw [hhandedOut, hnone, Option.toList_none, List.append_nil]
      exact h.count
    · rw [hhandedOut]
      exact h.fresh serial (Nat.le_trans hnext hle)
  · refine ⟨⟨_, hgrown.snoc op⟩, hknown, ?_, fun serial hle => ?_, h.counted⟩
    · intro other hother
      rw [hhandedOut]
      rw [hpool, Option.toList_some, List.mem_append, List.mem_singleton] at hother
      rcases hother with hother | rfl
      · exact h.count other hother
      · -- the ledger holds pools with smaller serials only
        rw [hserial, h.fresh _ (Nat.le_refl _), Ledger.asked_eq_zero]
        rintro entry hentry rfl
        exact Nat.lt_irrefl _ (hserial ▸ hgrown.lt_next _ (h.known entry hentry))
    · rw [hhandedOut]
      exact h.fresh serial (by omega)

theorem Tallied.ask (h : l.Tallied pools ledger) (hpool : pool ∈ pools) :
    (l.checkout pool).2.Tallied pools (ledger ++ [(pool, (l.checkout pool).1)]) := by
  obtain ⟨builds, hgrown⟩ := h.grown
  have hsnoc : (l.checkout pool).2.Grown (pools ++ []) (builds + 0) := hgrown.snoc (.checkout pool)
  rw [List.append_nil] at hsnoc
  rw [checkout_fst, h.count pool hpool]
  refine ⟨⟨builds, hsnoc⟩, fun entry hentry => ?_, fun other hother => ?_, fun serial hle => ?_,
    h.counted.concat fun entry hentry => hgrown.eq_of_serial (h.known entry hentry) hpool⟩
  · rcases List.mem_append.mp hentry with hold | hnew
    · exact h.known entry hold
    · rwa [List.mem_singleton.mp hnew]
  -- no other pool has the serial, so its count is the only one that grows
  · have hserial : pool.serial = other.serial ↔ pool = other :=
      ⟨hgrown.eq_of_serial hpool hother, congrArg _⟩
    rw [handedOut_checkout, h.count other hother, Ledger.asked_concat]
    simp only [hserial]
  -- serials that are still to come are nobody's
  · have hne : pool.serial ≠ serial := Nat.ne_of_lt (Nat.lt_of_lt_of_le (hgrown.lt_next pool hpool) hle)
    rw [handedOut_checkout, if_neg hne, h.fresh serial hle]

theorem Tallied.step (h : l.Tallied pools ledger) {op : Op} (hop : ∀ pool ∈ op.asked?, pool ∈ pools) :
    (op.apply l).2.Tallied (pools ++ (op.apply l).1.toList) (ledger ++ op.answered l) := by
  -- only a checkout asks a pool
  cases hasked : op.asked? with
  | none =>
    rw [Op.answered, hasked]
    simpa using h.operate hasked
  | some pool =>
    cases op with
    | checkout pool =>
      cases hasked
      show (l.checkout pool).2.Tallied (pools ++ []) _
      rw [List.append_nil]
      exact h.ask (hop pool rfl)
    | _ => cases hasked

theorem Course.tallied (h : Course version l pools ledger) : l.Tallied pools ledger := by
  induction h with
  | start => exact .start version
  | step _ op hop ih => exact ih.step hop

theorem Course.after (h : Course version l pools ledger) {ops : List Op} (hops : ∀ op ∈ ops, op.asked? = none) :
    Course version (l.after ops) (pools ++ l.returned ops) ledger := by
  induction ops generalizing l pools with
  | nil => simpa [Library.after, returned] using h
  | cons op ops ih =>
    obtain ⟨hop, hops⟩ := List.forall_mem_cons.mp hops
    have hstep := h.step op (by simp [hop])
    rw [Op.answered, hop, Option.toList_none, List.map_nil, List.append_nil] at hstep
    rw [returned, ← List.append_assoc]
    exact ih hstep hops

theorem handedOut_after {ops : List Op} (hops : ∀ op ∈ ops, op.asked? = none) (l : Library) :
    (l.after ops).handedOut = l.handedOut := by
  induction ops generalizing l with
  | nil => rfl
  | cons op ops ih =>
    obtain ⟨hop, hops⟩ := List.forall_mem_cons.mp hops
    exact (ih hops (op.apply l).2).trans (Op.handedOut_apply hop l)

theorem ledger_append (l : Library) (ops more : List Op) :
    l.ledger (ops ++ more) = l.ledger ops ++ (l.after ops).ledger more := by
  induction ops generalizing l with
  | nil => rfl
  | cons op ops ih =>
    rw [List.cons_append, ledger, ih, ledger, List.append_assoc]
    rfl

theorem ledger_singleton (l : Library) (op : Op) : l.ledger [op] = op.answered l := List.append_nil _

end Library

/-! ## Fresh pools -/

/-- How many connections properties ask for: the number among them, or else the default. -/
inductive Maximum (ps : Properties) : Nat → Prop where
  | given {n : Nat} (hget : ps.get? "max_connections" = some (.integer n)) (hn : n < UInt64.size) : Maximum ps n
  | absent (h : ∀ n : Nat, n < UInt64.size → ps.get? "max_connections" ≠ some (.integer n)) : Maximum ps 16

theorem maximum_maxOf (ps : Properties) : Maximum ps (maxOf ps) := by
  unfold maxOf
  cases hget : ps.get? "max_connections" with
  | none => exact .absent (by simp [hget])
  | some value =>
    cases value with
    | integer n =>
      -- a value outside the range of 64 bits counts as none
      have hsize : UInt64.size = 18446744073709551616 := rfl
      by_cases hn : 0 ≤ n ∧ n < 18446744073709551616
      · have hvalue : Value.unsigned? (.integer n) = some n.toNat := by
          unfold Value.unsigned?
          exact if_pos hn
        rw [Option.bind_some, hvalue, Option.getD_some]
        exact .given (by rw [hget, Int.toNat_of_nonneg hn.1]) (by omega)
      · have hvalue : Value.unsigned? (.integer n) = none := by
          unfold Value.unsigned?
          exact if_neg hn
        rw [Option.bind_some, hvalue]
        refine .absent fun k hk heq => hn ?_
        rw [hget] at heq
        cases heq
        omega
    | _ => exact .absent (by simp [hget])

namespace Library

variable {version : String} {l : Library} {pools : List Pool} {ledger : Ledger} {pool : Pool}

/-- A pool as it is when it is built: nobody has asked it yet. -/
structure Fresh (l : Library) (ledger : Ledger) (url : String) (ps : Properties) (pool : Pool) : Prop where
  url : pool.url = url
  maximum : Maximum ps pool.maxConnections
  count : l.handedOut pool.serial = 0
  asked : ledger.asked pool = 0

theorem eq_fresh_of_build {key url : String} {ps : Properties} {builtBy : Capability}
    (hbuilt : (l.build key url ps builtBy).1 = .ok pool) : pool = l.fresh url ps builtBy := by
  by_cases hkey : key ∈ l.failing
  · rw [build_of_mem hkey] at hbuilt
    cases hbuilt
  · rw [build_of_notMem hkey] at hbuilt
    cases builtBy with
    | modern => exact (Except.ok.inj hbuilt).symm
    | legacy =>
      cases hholder : l.holder? key with
      | some holder => simp [hholder] at hbuilt
      | none => simpa [hholder, eq_comm] using hbuilt

theorem Tallied.asked_eq_zero (h : l.Tallied pools ledger) (hserial : l.nextSerial ≤ pool.serial) :
    ledger.asked pool = 0 := by
  obtain ⟨builds, hgrown⟩ := h.grown
  refine Ledger.asked_eq_zero fun entry hentry heq => ?_
  have hlt := hgrown.lt_next _ (h.known entry hentry)
  rw [heq] at hlt
  exact Nat.not_lt.mpr hserial hlt

/-- What the library and its ledger say of each other. -/
structure Settled (l : Library) (pools : List Pool) (ledger : Ledger) : Prop where
  counted : ledger.Counted
  /-- The count of a pool is the number of its checkouts. -/
  count : ∀ pool ∈ pools, l.handedOut pool.serial = ledger.asked pool
  /-- It decides what the pool answers next. -/
  next : ∀ pool ∈ pools, (l.checkout pool).1 = pool.answer (ledger.asked pool)
  built : ∀ key url ps builtBy pool, (l.build key url ps builtBy).1 = .ok pool → l.Fresh ledger url ps pool

/-- **Every pool counts its own checkouts**, and no connection is handed out twice. -/
theorem Course.settled (h : Course version l pools ledger) : l.Settled pools ledger := by
  have htallied := h.tallied
  refine ⟨htallied.counted, htallied.count, fun pool hpool => ?_, fun key url ps builtBy pool hbuilt => ?_⟩
  · rw [checkout_fst, htallied.count pool hpool]
  · obtain rfl := eq_fresh_of_build hbuilt
    exact ⟨rfl, maximum_maxOf ps, htallied.fresh _ (Nat.le_refl _), htallied.asked_eq_zero (Nat.le_refl _)⟩

end Library

/-! ## Threads -/

namespace Races

open Interleaving (Turn Turns)
open Library (Course)

variable {τ : Type}

/-- What the library is asked to do in a move. -/
def Event.operation? : Event → Option Library.Op
  | operated op => some op
  | _ => none

/-- What the library was asked to do. -/
def operations (history : History τ) : List Library.Op := history.filterMap (·.2.operation?)

/-- The moves of threads that ask only pools that the library returned. -/
def Fair (stage : Stage) (s : Site) (event : Event) (stage' : Stage) (s' : Site) : Prop :=
  Move stage s event stage' s' ∧ ∀ pool, event = .operated (.checkout pool) → pool ∈ s.pools

theorem Move.operation {stage stage' : Stage} {site site' : Site} {event : Event}
    (h : Move stage site event stage' site') :
    (∃ op, event = .operated op ∧ site'.library = (op.apply site.library).2 ∧
      site'.pools = site.pools ++ (op.apply site.library).1.toList) ∨
    (event.operation? = none ∧ site'.library = site.library ∧ site'.pools = site.pools) := by
  cases h with
  | operate op | build op _ => exact .inl ⟨op, rfl, rfl, rfl⟩
  | checkout => exact .inl ⟨_, rfl, rfl, rfl⟩
  | create | register | start | fail | install | finish | hire | sample => exact .inr ⟨rfl, rfl, rfl⟩

variable [DecidableEq τ] {version : String} {history : History τ} {s s' : Scene τ} {entry : τ × Event}

/-- The library has followed its course, as the history tells it. -/
structure Tracked (version : String) (history : History τ) (s : Scene τ) : Prop where
  library : s.shared.library = (Library.start version).after (operations history)
  course : Course version s.shared.library s.shared.pools ((Library.start version).ledger (operations history))

theorem Tracked.step (h : Tracked version history s) (hturn : Turn Fair s entry s') :
    Tracked version (history ++ [entry]) s' := by
  cases hturn with
  | @mk t event stage site hfair =>
    obtain ⟨hmove, hknown⟩ := hfair
    rcases hmove.operation with ⟨op, rfl, hlibrary, hpools⟩ | ⟨hquiet, hlibrary, hpools⟩
    · have hoperations : operations (history ++ [(t, .operated op)]) = operations history ++ [op] := by
        rw [operations, List.filterMap_append]
        rfl
      -- a move asks only pools that the library has returned
      have hop : ∀ pool ∈ op.asked?, pool ∈ s.shared.pools := by
        intro pool hpool
        cases op with
        | checkout asked =>
          cases hpool
          exact hknown pool rfl
        | _ => cases hpool
      have hstep := h.course.step op hop
      refine ⟨?_, ?_⟩
      · rw [hoperations, Library.after_append, ← h.library]
        exact hlibrary
      · rw [hoperations, Library.ledger_append, Library.ledger_singleton, ← h.library]
        show Course version site.library site.pools _
        rw [hlibrary, hpools]
        exact hstep
    · have hoperations : operations (history ++ [(t, event)]) = operations history := by
        simp [operations, hquiet]
      refine ⟨?_, ?_⟩
      · rw [hoperations, ← h.library]
        exact hlibrary
      · rw [hoperations]
        show Course version site.library site.pools _
        rw [hlibrary, hpools]
        exact h.course

theorem tracked (hturns : Turns Fair (Scene.start version) history s) : Tracked version history s := by
  have hstart : Tracked version [] (Scene.start version : Scene τ) := ⟨rfl, .start⟩
  exact hturns.invariant Tracked.step hstart

end Races

end LiveSwap.Pool
