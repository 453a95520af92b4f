import LiveSwap.Proofs.PoolCheckouts

/-!
# Programs that ask pools for connections

A program reaches pools through proxies and through snapshots that it holds, and its workers through their own.
Refreshing asks no pool for anything: a handle keeps its pool or gets one that was never asked.

* **`Renewed`** — what refreshing does to a host; every way to refresh keeps to it.
* **`Service.Traced.carryOut`** — whatever a program does, the library stays on its course.
* **`checkouts_counted`** — every pool counts its own checkouts, with threads in any order and in programs.
-/

namespace LiveSwap

variable {ι σ : Type}

theorem Handle.isSome_params? (h : Handle ι) : h.params?.isSome = h.isRegistered := Option.isSome_map

theorem Host.installed_enroll (s : Host ι σ) (id : HandleId) (first : ι) (params : Params) (other : HandleId) :
    ((s.enroll id first params).handle other).installed = (s.handle other).installed ∨
      ((s.enroll id first params).handle other).installed = some ⟨params, first⟩ := by
  rcases Nat.lt_or_ge other s.handles.length with hlt | hge
  · by_cases hother : other = id
    · subst hother
      exact .inr (congrArg Handle.installed (handle_updateHandle_self hlt _))
    · exact .inl (congrArg Handle.installed (handle_updateHandle_of_ne s hother _))
  · rw [handle_of_length_le hge, handle_of_length_le ((length_enroll s id first params).symm ▸ hge)]
    exact .inl rfl

namespace Pool

open Library (Course)

/-! ## Rebuilding -/

theorem rebuildOps_quiet (params : Params) (capability : Capability) (current : Pool) :
    ∀ op ∈ rebuildOps params capability current, op.asked? = none := by
  unfold rebuildOps tidyOps buildOp
  cases capability <;> cases urlOf params <;> simp [Library.Op.asked?]

/-- A pool that replaces another one under the same parameters. Its serial is new. -/
structure Replacement (l : Library) (params : Params) (fresh : Pool) : Prop where
  url : urlOf params = .ok fresh.url
  maximum : Maximum params.properties fresh.maxConnections
  serial : l.nextSerial ≤ fresh.serial

namespace Library

theorem Op.nextSerial_le (op : Op) (l : Library) : l.nextSerial ≤ (op.apply l).2.nextSerial := by
  cases op with
  | build key url ps builtBy =>
    rw [apply_build]
    by_cases hkey : key ∈ l.failing
    · exact Nat.le_of_eq (by rw [build_of_mem hkey])
    · rw [build_of_notMem hkey]
      cases builtBy <;> cases l.holder? key <;> exact Nat.le_succ _
  | _ => exact Nat.le_refl _

theorem nextSerial_le_after (l : Library) (ops : List Op) : l.nextSerial ≤ (l.after ops).nextSerial := by
  induction ops generalizing l with
  | nil => exact Nat.le_refl _
  | cons op ops ih => exact Nat.le_trans (op.nextSerial_le l) (ih (op.apply l).2)

theorem returned_append (l : Library) (ops more : List Op) :
    l.returned (ops ++ more) = l.returned ops ++ (l.after ops).returned more := by
  induction ops generalizing l with
  | nil => rfl
  | cons op ops ih =>
    rw [List.cons_append, returned, ih, returned, List.append_assoc]
    rfl

end Library

theorem mem_returned_rebuildOps {params : Params} {capability : Capability} {current fresh : Pool} {l : Library}
    {url : String} (hurl : urlOf params = .ok url)
    (hbuilt : ((l.after (tidyOps capability current)).build (keyOf params) url params.properties capability).1 =
      .ok fresh) : fresh ∈ l.returned (rebuildOps params capability current) := by
  rw [rebuildOps, hurl, Library.returned_append]
  refine List.mem_append_right _ ?_
  rw [Library.returned, buildOp, Library.Op.apply_build, hbuilt]
  exact List.mem_singleton.mpr rfl

theorem replacement_of_build {params : Params} {capability : Capability} {current fresh : Pool} {l : Library}
    {url : String} (hurl : urlOf params = .ok url)
    (hbuilt : ((l.after (tidyOps capability current)).build (keyOf params) url params.properties capability).1 =
      .ok fresh) : Replacement l params fresh := by
  obtain rfl := Library.eq_fresh_of_build hbuilt
  exact ⟨hurl, maximum_maxOf _, Library.nextSerial_le_after l _⟩

/-! ## Refreshing -/

/-- What refreshing does to a host, whichever handles it goes through: no pool is asked for anything, and a handle
serves what it served or a replacement under the parameters that it was registered with. -/
structure Renewed (ops : List Library.Op) (s s' : PoolHost) : Prop where
  library : s'.library = s.library.after ops
  quiet : ∀ op ∈ ops, op.asked? = none
  params : ∀ id, (s'.handle id).params? = (s.handle id).params?
  current : ∀ id, (s'.handle id).current? = (s.handle id).current? ∨
    ∃ params fresh, (s.handle id).params? = some params ∧ (s'.handle id).current? = some fresh ∧
      fresh ∈ s.library.returned ops ∧ Replacement s.library params fresh

namespace Renewed

variable {ops more : List Library.Op} {s s' s'' : PoolHost} {id : HandleId}

theorem of_same (hhandle : s'.handle = s.handle) (hlibrary : s'.library = s.library) : Renewed [] s s' where
  library := hlibrary
  quiet := nofun
  params id := by rw [hhandle]
  current id := .inl (by rw [hhandle])

theorem trans (h : Renewed ops s s') (h' : Renewed more s' s'') : Renewed (ops ++ more) s s'' where
  library := by rw [h'.library, h.library, Library.after_append]
  quiet op hop := (List.mem_append.mp hop).elim (h.quiet op) (h'.quiet op)
  params id := (h'.params id).trans (h.params id)
  current id := by
    rw [Library.returned_append, ← h.library]
    -- the handle serves what it served, or what the later of the two exchanges brought
    rcases h'.current id with hsame | ⟨params, fresh, hparams, hfresh, hreturned, hreplacement⟩
    · rw [hsame]
      refine (h.current id).imp_right ?_
      rintro ⟨params, fresh, hparams, hfresh, hreturned, hreplacement⟩
      exact ⟨params, fresh, hparams, hfresh, List.mem_append_left _ hreturned, hreplacement⟩
    · -- what replaces it in the second part is newer than all of the first part
      have hserial : s.library.nextSerial ≤ s'.library.nextSerial :=
        h.library ▸ Library.nextSerial_le_after s.library ops
      exact .inr ⟨params, fresh, h.params id ▸ hparams, hfresh, List.mem_append_right _ hreturned,
        hreplacement.url, hreplacement.maximum, Nat.le_trans hserial hreplacement.serial⟩

/-- **A refresh of a handle**, with the strategy of either capability. -/
theorem refreshHandle (s : PoolHost) (id : HandleId) (capability : Capability) :
    ∃ ops, Renewed ops s (s.refreshHandle (collaborators.strategies.select capability) id).2 := by
  cases hi : (s.handle id).installed with
  | none =>
    rw [Host.refreshHandle_unregistered hi]
    exact ⟨[], .of_same rfl rfl⟩
  | some i =>
    refine ⟨rebuildOps i.params capability i.current, ?_⟩
    obtain ⟨notices, ⟨url, fresh, hurl, hbuilt, hconduct⟩ | ⟨error, hconduct⟩⟩ :=
      conduct_rebuild_ops i.params capability i.current s.library
    -- only the handle that is refreshed may serve something else
    · have hid := Host.lt_of_installed hi
      have hparams : (s.handle id).params? = some i.params := by rw [Handle.params?, hi]; rfl
      rw [Host.refreshHandle_swapped hi (by rw [hconduct]), hconduct]
      refine ⟨rfl, rebuildOps_quiet _ _ _, fun other => ?_, fun other => ?_⟩
      · exact Host.apply_handle_updateHandle (s := s) Handle.params? (Handle.swap_params? _ fresh) other
      · by_cases hother : other = id
        · have hcurrent : ((s.updateHandle id (·.swap fresh)).handle id).current? = some fresh := by
            rw [Host.handle_updateHandle_self hid, Handle.swap_of_installed hi]
            rfl
          subst hother
          exact .inr ⟨i.params, fresh, hparams, hcurrent, mem_returned_rebuildOps hurl hbuilt,
            replacement_of_build hurl hbuilt⟩
        · exact .inl (congrArg Handle.current? (Host.handle_updateHandle_of_ne s hother _))
    · rw [Host.refreshHandle_failed hi (by rw [hconduct]; rfl), hconduct]
      exact ⟨rfl, rebuildOps_quiet _ _ _, fun _ => rfl, fun _ => .inl rfl⟩

end Renewed

theorem refreshing_renewed : Refreshing fun s s' => ∃ ops, Renewed ops s s' where
  same hhandle hlibrary := ⟨[], .of_same hhandle hlibrary⟩
  trans := fun ⟨_, h⟩ ⟨_, h'⟩ => ⟨_, h.trans h'⟩
  handle _ id capability := Renewed.refreshHandle _ id capability

/-! ## Programs -/

theorem Call.eq_checkout {call : Call} {pool : Pool} (h : call.op.asked? = some pool) :
    ∃ client, call = .checkout pool client := by
  -- calls that build ask for nothing, whatever becomes of their parameters
  cases call with
  | checkout asked client =>
    cases h
    exact ⟨client, rfl⟩
  | openPool | create | configured =>
    rw [op] at h
    split at h <;> cases h
  | _ => cases h

/-- A checkout through a proxy, with the pool that answered it. -/
def asking (proxy : Proxy) (client : String) : PoolAct (Pool × Except Exhausted Nat) :=
  Act.forward proxy fun pool => (pool, ·) <$> checkout pool client

theorem runOn_checkoutBy (pool : Pool) (client : String) (s : PoolHost) : ∃ notices,
    ((pool, ·) <$> checkout pool client : PoolAct (Pool × Except Exhausted Nat)).runOn s =
      (.ok (pool, (s.library.checkout pool).1),
        s.after (⟨.ok (), (s.library.checkout pool).2, notices⟩ : Conduct Library Unit)) := by
  obtain ⟨notices, hcheckout⟩ := runOn_checkout pool client s
  exact ⟨notices, by rw [Effect.runOn_map, hcheckout]; rfl⟩

/-- **A proxy reaches the pool that its handle serves.** -/
theorem runOn_asking {s : PoolHost} (hs : s.Sound) {id : HandleId} (hregistered : (s.handle id).isRegistered)
    (client : String) : ∃ pool notices, (s.handle id).current? = some pool ∧ (asking ⟨id⟩ client).runOn s =
      (.ok (pool, (s.library.checkout pool).1),
        s.after (⟨.ok (), (s.library.checkout pool).2, notices⟩ : Conduct Library Unit)) := by
  obtain ⟨i, hi, hcurrent⟩ := Handle.exists_installed _ hregistered
  obtain ⟨notices, hcheckout⟩ := runOn_checkoutBy i.current client s
  refine ⟨i.current, notices, hcurrent, ?_⟩
  rw [asking, Act.runOn_forward hi (hs.idle id), hcheckout]

/-- What a program that asks pools for connections does: deeds, and checkouts through proxies. -/
inductive Errand where
  | deed (deed : Deed)
  | ask (id : HandleId) (client : String)

def Deed.isRefresh : Deed → Bool
  | refreshWith .. | refresh .. | refreshAll .. => true
  | _ => false

namespace Service

variable {α : Type}

def carryOut (p : Service) : Errand → Service
  | .deed deed => p.perform deed
  | .ask id client =>
    match p.host.proxy? id with
    | none => p
    | some proxy => p.afterwards (asking proxy client)

def follow (p : Service) (errands : List Errand) : Service := errands.foldl carryOut p

/-- What an action would return now. -/
def returns (p : Service) (act : PoolAct α) : List α := (act.runOn p.host).1.toOption.toList

/-- The pool that an errand asks for a connection, and its answer. -/
def answered (p : Service) : Errand → Ledger
  | .deed (.call (.checkout pool client)) => p.returns ((pool, ·) <$> checkout pool client)
  | .deed (.work place) =>
    match p.workers[place]? with
    | none => []
    | some e => p.returns (asking e.proxy e.client)
  | .ask id client =>
    match p.host.proxy? id with
    | none => []
    | some proxy => p.returns (asking proxy client)
  | _ => []

/-- All pools that errands ask, with their answers. -/
def ledger (p : Service) : List Errand → Ledger
  | [] => []
  | errand :: errands => p.answered errand ++ (p.carryOut errand).ledger errands

/-- A program asks a pool itself only while it has it in hand. -/
def Allows (p : Service) : Errand → Prop
  | .deed (.call (.checkout pool _)) => pool ∈ p.hand
  | _ => True

/-- It never does anything that is not allowed. -/
def Proper (p : Service) : List Errand → Prop
  | [] => True
  | errand :: errands => p.Allows errand ∧ (p.carryOut errand).Proper errands

theorem perform_refresh {p : Service} (hs : p.host.Sound) {deed : Deed} (hdeed : deed.isRefresh) :
    ∃ ops host, p.perform deed = { p with host } ∧ host.Sound ∧ Renewed ops p.host host := by
  have hdetached := collaborators_detached
  -- all three come down to refreshes of single handles, one after the other
  cases deed with
  | refreshWith id capability =>
    obtain ⟨ops, hrenewed⟩ := refreshing_renewed.refreshWith hs id capability
    refine ⟨ops, _, rfl, ?_, hrenewed⟩
    rw [Act.runOn_refreshWith (hdetached.select capability) (hs.idle id)]
    exact hs.refreshHandle _ id
  | refresh c name =>
    obtain ⟨ops, hrenewed⟩ := refreshing_renewed.refresh hs c name
    exact ⟨ops, _, rfl, hs.refresh hdetached c name, hrenewed⟩
  | refreshAll c =>
    obtain ⟨ops, hrenewed⟩ := refreshing_renewed.refreshAll hs c
    exact ⟨ops, _, rfl, hs.refreshAll hdetached c, hrenewed⟩
  | _ => cases hdeed

/-- A pool that is in hand or that a handle serves. -/
def Reaches (p : Service) (pool : Pool) : Prop := pool ∈ p.hand ∨ ∃ id, (p.host.handle id).current? = some pool

/-- The library is on its course, and all pools within reach were returned by it. -/
structure Traced (version : String) (ledger : Ledger) (p : Service) : Prop where
  sound : p.host.Sound
  course : ∃ pools, Course version p.host.library pools ledger ∧ ∀ pool, p.Reaches pool → pool ∈ pools
  workers : ∀ e ∈ p.workers, (p.host.handle e.proxy.handle).isRegistered

namespace Traced

variable {version : String} {ledger : Ledger} {p : Service} {host : PoolHost} {ops : List Library.Op}
  {pool : Pool} {id : HandleId}

theorem start (version : String) : Traced version [] (Service.start version) where
  sound := .start _
  course := by
    refine ⟨[], .start, ?_⟩
    rintro pool (hheld | ⟨id, hcurrent⟩)
    · exact hheld
    · cases hcurrent
  workers := nofun

theorem setWorkers (h : Traced version ledger p) {workers : List Employed}
    (hworkers : ∀ e ∈ workers, (p.host.handle e.proxy.handle).isRegistered) :
    Traced version ledger { p with workers } :=
  ⟨h.sound, h.course, hworkers⟩

/-- No pool is asked for anything, and what comes within reach is returned now. -/
theorem proceed (h : Traced version ledger p) (hsound : host.Sound) {hand : List Pool}
    (hlibrary : host.library = p.host.library.after ops) (hquiet : ∀ op ∈ ops, op.asked? = none)
    (hreach : ∀ pool, Reaches { p with host, hand } pool → p.Reaches pool ∨ pool ∈ p.host.library.returned ops)
    (hregistered : ∀ id, (p.host.handle id).isRegistered → (host.handle id).isRegistered) :
    Traced version ledger { p with host, hand } := by
  obtain ⟨pools, hcourse, hknown⟩ := h.course
  refine ⟨hsound, ⟨pools ++ p.host.library.returned ops, ?_, fun pool hpool => ?_⟩,
    fun e he => hregistered _ (h.workers e he)⟩
  · rw [hlibrary]
    exact hcourse.after hquiet
  · exact List.mem_append.mpr ((hreach pool hpool).imp_left (hknown pool))

/-- The handles serve what they served, and the library stays as it is. -/
theorem stay (h : Traced version ledger p) (hsound : host.Sound) (hlibrary : host.library = p.host.library)
    (hhandle : ∀ id, (host.handle id).installed = (p.host.handle id).installed) :
    Traced version ledger { p with host } := by
  have hafter : host.library = p.host.library.after [] := hlibrary
  refine h.proceed hsound hafter (List.forall_mem_nil _) (fun pool hpool => .inl ?_) fun id hid => ?_
  · refine hpool.imp_right ?_
    rintro ⟨id, hcurrent⟩
    exact ⟨id, by rwa [Handle.current?, ← hhandle]⟩
  · rwa [Handle.isRegistered, hhandle]

theorem renew (h : Traced version ledger p) (hsound : host.Sound) (hrenewed : Renewed ops p.host host) :
    Traced version ledger { p with host } := by
  refine h.proceed hsound hrenewed.library hrenewed.quiet (fun pool hpool => ?_) fun id hid => ?_
  · rcases hpool with hheld | ⟨id, hcurrent⟩
    · exact .inl (.inl hheld)
    · rcases hrenewed.current id with hsame | ⟨params, fresh, -, hfresh, hreturned, -⟩
      · exact .inl (.inr ⟨id, hsame ▸ hcurrent⟩)
      · obtain rfl : fresh = pool := Option.some.inj (hfresh.symm.trans hcurrent)
        exact .inr hreturned
  · rw [← Handle.isSome_params?] at hid ⊢
    rwa [hrenewed.params]

theorem refreshed (h : Traced version ledger p) {deed : Deed} (hdeed : deed.isRefresh) :
    Traced version ledger (p.perform deed) := by
  obtain ⟨ops, host, hperform, hsound, hrenewed⟩ := perform_refresh h.sound hdeed
  rw [hperform]
  exact h.renew hsound hrenewed

theorem ask (h : Traced version ledger p) (hpool : p.Reaches pool) (notices : List Notice) :
    Traced version (ledger ++ [(pool, (p.host.library.checkout pool).1)])
      { p with host := p.host.after (⟨.ok (), (p.host.library.checkout pool).2, notices⟩ : Conduct Library Unit) } := by
  obtain ⟨pools, hcourse, hknown⟩ := h.course
  have hstep := hcourse.step (.checkout pool) (by simpa [Library.Op.asked?] using hknown pool hpool)
  refine ⟨h.sound.after _, ⟨pools ++ [], hstep, ?_⟩, h.workers⟩
  rwa [List.append_nil]

theorem askThrough (h : Traced version ledger p) (hregistered : (p.host.handle id).isRegistered) (client : String) :
    Traced version (ledger ++ p.returns (asking ⟨id⟩ client)) (p.afterwards (asking ⟨id⟩ client)) := by
  obtain ⟨pool, notices, hcurrent, hasking⟩ := runOn_asking h.sound hregistered client
  rw [returns, afterwards, hasking]
  exact h.ask (.inr ⟨id, hcurrent⟩) notices

theorem call (h : Traced version ledger p) {call : Call} (hallows : p.Allows (.deed (.call call))) :
    Traced version (ledger ++ p.answered (.deed (.call call))) (p.perform (.call call)) := by
  obtain ⟨notices, hcall⟩ := call.runOn_act p.host
  rw [perform, hcall]
  -- a call asks no pool and may return one, or it is the checkout of a pool in hand
  cases hasked : call.op.asked? with
  | none =>
    have hanswered : p.answered (.deed (.call call)) = [] := by
      cases call with
      | checkout pool client => cases hasked
      | _ => rfl
    rw [hanswered, List.append_nil]
    let conduct : Conduct Library Unit := ⟨.ok (), (call.op.apply p.host.library).2, notices⟩
    have hafter : (p.host.after conduct).library = p.host.library.after [call.op] := rfl
    refine h.proceed (h.sound.after _) hafter (by simpa using hasked) (fun pool hpool => ?_) fun id hid => hid
    rcases hpool with hheld | hserved
    · refine (List.mem_append.mp hheld).imp .inl fun hbuilt => ?_
      exact List.mem_append_left _ hbuilt
    · exact .inl (.inr hserved)
  | some pool =>
    obtain ⟨client, rfl⟩ := Call.eq_checkout hasked
    obtain ⟨more, hcheckout⟩ := runOn_checkoutBy pool client p.host
    have hanswered : p.answered (.deed (.call (.checkout pool client))) =
        [(pool, (p.host.library.checkout pool).1)] := by
      rw [answered, returns, hcheckout]
      rfl
    rw [hanswered]
    show Traced version _ { p with host := _, hand := p.hand ++ [] }
    rw [List.append_nil]
    exact h.ask (.inl hallows) notices

theorem enter (h : Traced version ledger p) (r : RegistryId) (name : String) :
    Traced version ledger { p with host := (p.host.enter r name).2 } := by
  have hsound := h.sound.enter r name
  rw [Host.enter] at hsound ⊢
  cases hfind : p.host.find? r name with
  | some id => exact h
  | none =>
    rw [hfind] at hsound
    exact h.stay hsound rfl (Host.apply_handle_createHandle Handle.installed (fun _ => rfl) p.host r name)

theorem registerOn (h : Traced version ledger p) {first : Pool} (hfirst : first ∈ p.hand) (id : HandleId)
    (params : Params) : Traced version ledger (p.afterwards (Act.registerOn id first params)) := by
  have hsound := h.sound.registerOn id first params
  rw [afterwards]
  rw [Act.registerOn, Effect.runOn_modifyGet] at hsound ⊢
  cases hregister : p.host.registerOn id first params with
  | error e => exact h
  | ok host =>
    obtain ⟨-, hnone, rfl⟩ := Host.registerOn_eq_ok_iff.mp hregister
    rw [hregister] at hsound
    have hafter : (p.host.enroll id first params).library = p.host.library.after [] := rfl
    refine h.proceed hsound hafter (List.forall_mem_nil _) (fun pool hpool => .inl ?_) fun other hother => ?_
    -- what the handle takes was in hand already, so nothing new comes within reach
    · rcases hpool with hheld | ⟨other, hcurrent⟩
      · exact .inl hheld
      · rw [Handle.current?] at hcurrent
        rcases p.host.installed_enroll id first params other with hsame | hnew
        · rw [hsame] at hcurrent
          exact .inr ⟨other, hcurrent⟩
        · rw [hnew] at hcurrent
          cases hcurrent
          exact .inl hfirst
    · rw [Handle.isRegistered] at hother ⊢
      rcases p.host.installed_enroll id first params other with hsame | hnew
      · rwa [hsame]
      · rw [hnew]
        rfl

theorem take (h : Traced version ledger p) (id : HandleId) : Traced version ledger (p.perform (.take id)) := by
  obtain ⟨pools, hcourse, hknown⟩ := h.course
  refine ⟨h.sound, ⟨pools, hcourse, fun pool hpool => hknown pool ?_⟩, h.workers⟩
  rcases hpool with hheld | hserved
  · exact (List.mem_append.mp hheld).imp_right fun hcurrent => ⟨id, Option.mem_toList.mp hcurrent⟩
  · exact .inr hserved

theorem work (h : Traced version ledger p) (place : Nat) :
    Traced version (ledger ++ p.answered (.deed (.work place))) (p.perform (.work place)) := by
  rw [perform, answered]
  cases hplace : p.workers[place]? with
  | none =>
    rw [List.append_nil]
    exact h
  | some e =>
    have hregistered := h.workers e (List.mem_of_getElem? hplace)
    obtain ⟨i, hi, hcurrent⟩ := Handle.exists_installed _ hregistered
    -- a round and a checkout through the worker's proxy get the same answer
    obtain ⟨notices, hround⟩ := Employed.runOn_round hi (h.sound.idle _)
    obtain ⟨pool, more, hpool, hasking⟩ := runOn_asking h.sound hregistered e.client
    obtain rfl : i.current = pool := Option.some.inj (hcurrent.symm.trans hpool)
    have hreturns : p.returns (asking e.proxy e.client) =
        [(i.current, (p.host.library.checkout i.current).1)] := by
      rw [returns, hasking]
      rfl
    simp only [hround, hreturns]
    refine (h.ask (.inr ⟨_, hcurrent⟩) notices).setWorkers fun worker hworker => ?_
    rcases List.mem_or_eq_of_mem_set hworker with hold | rfl
    · exact h.workers worker hold
    · exact hregistered

theorem hire (h : Traced version ledger p) (id : HandleId) (client : String) :
    Traced version ledger (p.perform (.hire id client)) := by
  rw [perform, Host.proxy?]
  by_cases hregistered : (p.host.handle id).isRegistered
  · rw [if_pos hregistered]
    refine h.setWorkers fun worker hworker => ?_
    rcases List.mem_append.mp hworker with hold | hnew
    · exact h.workers worker hold
    · rwa [List.mem_singleton.mp hnew]
  · rw [if_neg hregistered]
    exact h

theorem unasked (h : Traced version ledger p) : Traced version (ledger ++ []) p := by rwa [List.append_nil]

/-- **Whatever a program does**, the library stays on its course. -/
theorem perform (h : Traced version ledger p) {deed : Deed} (hallows : p.Allows (.deed deed)) :
    Traced version (ledger ++ p.answered (.deed deed)) (p.perform deed) := by
  -- only calls and workers ask a pool
  cases deed with
  | call call => exact h.call hallows
  | newRegistry => exact (h.stay h.sound.newRegistry rfl fun _ => rfl).unasked
  | newCoordinator r config =>
    have hsound : ((Act.newCoordinator r config).runOn p.host).2.Sound := h.sound.congr rfl rfl
    exact (h.stay hsound rfl fun _ => rfl).unasked
  | getOrCreate r name =>
    refine unasked ?_
    rw [Service.perform, afterwards, Act.runOn_getOrCreate]
    exact h.enter r name
  | register r place params =>
    refine unasked ?_
    rw [Service.perform]
    cases hfirst : p.hand[place]? with
    | none => exact h
    | some first =>
      simp only [afterwards, Act.register, Effect.runOn_bind_ok (Act.runOn_getOrCreate _ r params.name)]
      exact (h.enter r params.name).registerOn (List.mem_of_getElem? hfirst) _ params
  | registerOn id place params =>
    refine unasked ?_
    rw [Service.perform]
    cases hfirst : p.hand[place]? with
    | none => exact h
    | some first => exact h.registerOn (List.mem_of_getElem? hfirst) id params
  | take id => exact (h.take id).unasked
  | hire id client => exact (h.hire id client).unasked
  | work place => exact h.work place
  | refreshWith | refresh | refreshAll => exact unasked (h.refreshed rfl)

theorem carryOut (h : Traced version ledger p) {errand : Errand} (hallows : p.Allows errand) :
    Traced version (ledger ++ p.answered errand) (p.carryOut errand) := by
  cases errand with
  | deed deed => exact h.perform hallows
  | ask id client =>
    rw [Service.carryOut, answered, Host.proxy?]
    by_cases hregistered : (p.host.handle id).isRegistered
    · rw [if_pos hregistered]
      exact h.askThrough hregistered client
    · rw [if_neg hregistered]
      exact h.unasked

theorem follow (h : Traced version ledger p) {errands : List Errand} (hproper : p.Proper errands) :
    Traced version (ledger ++ p.ledger errands) (p.follow errands) := by
  -- for any answers so far, since each errand adds its own
  induction errands generalizing p ledger with
  | nil => exact h.unasked
  | cons errand errands ih =>
    obtain ⟨hallows, hproper⟩ := hproper
    rw [Service.ledger, ← List.append_assoc]
    exact ih (h.carryOut hallows) hproper

end Traced

/-- What a program comes to, with the answers that it got on its way. -/
structure Accounted (p : Service) (ledger : Ledger) : Prop where
  counted : ledger.Counted
  /-- The count of a pool is the number of its checkouts, also of one that was replaced since it was taken. -/
  count : ∀ pool, p.Reaches pool → p.host.library.handedOut pool.serial = ledger.asked pool
  held : ∀ pool client, p.Reaches pool → p.returns (checkout pool client) = [pool.answer (ledger.asked pool)]
  proxied : ∀ id proxy client, p.host.proxy? id = some proxy → ∃ pool,
    (p.host.handle id).current? = some pool ∧
      p.returns (asking proxy client) = [(pool, pool.answer (ledger.asked pool))]
  built : ∀ key url ps builtBy pool, (p.host.library.build key url ps builtBy).1 = .ok pool →
    p.host.library.Fresh ledger url ps pool
  /-- A refresh changes no count, and a handle gets no pool but a fresh one, built from what it was registered
  with. -/
  refreshed : ∀ deed : Deed, deed.isRefresh →
    (p.perform deed).host.library.handedOut = p.host.library.handedOut ∧
    ∀ id, ((p.perform deed).host.handle id).current? = (p.host.handle id).current? ∨
      ∃ params url fresh, (p.host.handle id).params? = some params ∧ urlOf params = .ok url ∧
        ((p.perform deed).host.handle id).current? = some fresh ∧
        (p.perform deed).host.library.Fresh ledger url params.properties fresh

theorem Traced.accounted {version : String} {p : Service} {ledger : Ledger} (h : Traced version ledger p) :
    p.Accounted ledger := by
  obtain ⟨pools, hcourse, hknown⟩ := h.course
  have htallied := hcourse.tallied
  have hsettled := hcourse.settled
  -- what a checkout answers is the count of the pool, which the ledger tells
  refine ⟨hsettled.counted, fun pool hpool => hsettled.count pool (hknown pool hpool), fun pool client hpool => ?_,
    fun id proxy client hproxy => ?_, hsettled.built, fun deed hdeed => ?_⟩
  · obtain ⟨notices, hcheckout⟩ := runOn_checkout pool client p.host
    rw [returns, hcheckout, hsettled.next pool (hknown pool hpool)]
    rfl
  · obtain ⟨hregistered, hhandle⟩ := Option.ite_none_right_eq_some.mp hproxy
    cases hhandle
    obtain ⟨pool, notices, hcurrent, hasking⟩ := runOn_asking h.sound hregistered client
    refine ⟨pool, hcurrent, ?_⟩
    rw [returns, hasking, hsettled.next pool (hknown pool (.inr ⟨id, hcurrent⟩))]
    rfl
  -- a refresh asks no pool, and what it brings has a serial that nobody has asked for
  · obtain ⟨ops, host, hperform, -, hrenewed⟩ := perform_refresh h.sound hdeed
    have hhandedOut : host.library.handedOut = p.host.library.handedOut := by
      rw [hrenewed.library]
      exact Library.handedOut_after hrenewed.quiet _
    rw [hperform]
    refine ⟨hhandedOut, fun id => (hrenewed.current id).imp_right ?_⟩
    rintro ⟨params, fresh, hparams, hfresh, -, hreplacement⟩
    have hcount : host.library.handedOut fresh.serial = 0 := by
      rw [hhandedOut]
      exact htallied.fresh _ hreplacement.serial
    exact ⟨params, fresh.url, fresh, hparams, hreplacement.url, hfresh, rfl, hreplacement.maximum, hcount,
      htallied.asked_eq_zero hreplacement.serial⟩

end Service

open Interleaving (Turns)

/-- **Pools count their own checkouts.** The first ones get the connections 0, 1, 2, … up to the maximum of the
pool, and all later ones are refused; no connection is handed out twice. Threads may ask in any order, through
proxies or pools that they hold, while handles are refreshed; and so may programs with their workers. A refresh
changes no count, and the pool that it brings starts at 0. With counters of 64 bits it is so for the first 2^64
pools, and for the first 2^64 requests of each. -/
theorem checkouts_counted (version : String) :
    (∀ (τ : Type) [DecidableEq τ] (history : Races.History τ) (s : Races.Scene τ),
      Turns Races.Fair (Races.Scene.start version) history s →
      let start := Library.start version
      s.shared.library = start.after (Races.operations history) ∧
      s.shared.library.Settled s.shared.pools (start.ledger (Races.operations history))) ∧
    ∀ errands : List Errand, (Service.start version).Proper errands →
      ((Service.start version).follow errands).Accounted ((Service.start version).ledger errands) := by
  refine ⟨fun τ _ history s hturns => ?_, fun errands hproper => ?_⟩
  · have htracked := Races.tracked hturns
    exact ⟨htracked.library, htracked.course.settled⟩
  · exact ((Service.Traced.start version).follow hproper).accounted

/-- A unit whose pools have one connection each. -/
def soleUnit : Params := ordersUnit.withProperty "max_connections" (.integer 1)

def solePool (serial : Nat) : Pool := ⟨"db://orders", serial, .modern, 1⟩

/-- A worker asks the pool that it read while that is rebuilt. Then the old pool is asked once more, and the
worker asks the new one. -/
def soleRace : Races.History Bool :=
  let build : Library.Op := .build "db://orders" "db://orders" soleUnit.properties .modern
  [(false, .operated build), (false, .created 0 "orders"), (false, .registered 0 (solePool 0)), (true, .hired 0),
    (false, .began 0), (true, .sampled 0 (solePool 0)), (false, .operated build),
    (true, .operated (.checkout (solePool 0))), (false, .installed 0 (solePool 1)),
    (true, .sampled 0 (solePool 1)), (false, .operated (.checkout (solePool 0))),
    (true, .operated (.checkout (solePool 1)))]

theorem soleRace_turns : ∃ s, Turns Races.Fair (Races.Scene.start "4.3.0") soleRace s := by
  have hregister : (Handle.create "orders").register (solePool 0) soleUnit = .ok _ :=
    Handle.register_eq_ok_iff.mpr ⟨rfl, rfl, rfl⟩
  exact ⟨_, .cons (.mk ⟨.operate _, nofun⟩) <| .cons (.mk ⟨.create _ rfl, nofun⟩) <|
    .cons (.mk ⟨.register (List.mem_singleton.mpr rfl) hregister, nofun⟩) <| .cons (.mk ⟨.hire rfl, nofun⟩) <|
    .cons (.mk ⟨.start rfl rfl, nofun⟩) <| .cons (.mk ⟨.sample rfl, nofun⟩) <|
    .cons (.mk ⟨.build _ rfl, nofun⟩) <| .cons (.mk ⟨.checkout, by rintro pool ⟨⟩; decide⟩) <|
    .cons (.mk ⟨.install, nofun⟩) <| .cons (.mk ⟨.sample rfl, nofun⟩) <|
    .cons (.mk ⟨.operate _, by rintro pool ⟨⟩; decide⟩) <|
    .cons (.mk ⟨.checkout, by rintro pool ⟨⟩; decide⟩) .nil⟩

/-- A program keeps the first pool in hand, and asks it again after the refresh. -/
def soleErrands : List Errand :=
  [.deed (.call (.openPool soleUnit)), .deed .newRegistry, .deed (.register 0 0 soleUnit), .ask 0 "client",
    .deed (.refreshWith 0 .modern), .deed (.call (.checkout (solePool 0) "client")), .ask 0 "client",
    .ask 0 "client"]

theorem checkouts_counted_sole :
    (∃ s, Turns Races.Fair (Races.Scene.start "4.3.0") soleRace s ∧
      let ledger := (Library.start "4.3.0").ledger (Races.operations soleRace)
      ledger = [(solePool 0, .ok 0), (solePool 0, .error ⟨"db://orders", 1⟩), (solePool 1, .ok 0)] ∧
      s.shared.library.Settled s.shared.pools ledger) ∧
    let p := Service.start "4.3.0"
    p.Proper soleErrands ∧
    p.ledger soleErrands = [(solePool 0, .ok 0), (solePool 0, .error ⟨"db://orders", 1⟩), (solePool 1, .ok 0),
      (solePool 1, .error ⟨"db://orders", 1⟩)] ∧
    (p.follow soleErrands).Accounted (p.ledger soleErrands) := by
  obtain ⟨hthreads, hprograms⟩ := checkouts_counted "4.3.0"
  obtain ⟨s, hturns⟩ := soleRace_turns
  have hproper : (Service.start "4.3.0").Proper soleErrands :=
    ⟨trivial, trivial, trivial, trivial, trivial, List.mem_singleton.mpr rfl, trivial, trivial, trivial⟩
  exact ⟨⟨s, hturns, rfl, (hthreads Bool soleRace s hturns).2⟩, hproper, rfl, hprograms soleErrands hproper⟩

end Pool

end LiveSwap
