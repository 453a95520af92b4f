import LiveSwap.Proofs.Run

/-!
# Accounting for every handle

What a handle holds is determined by what happened to it: by the register call that was accepted,
by the rebuilds that gave an instance, and by the refreshes that ended in an exchange. The first and
the last are read off the history of a run, the rebuilds off a chronicle that the strategies keep.

* **`Account`** — how a handle stands, given the accepted registrations, the last instance built and
  the number of exchanges.
* **`Accounts.perform`** — every operation keeps the accounts of all handles.
* **`Run.handle_accounted`** — after any run, with any behaviour of the library, every handle is
  accounted for, and a registered one stays registered with the parameters it has.
-/

namespace LiveSwap

variable {ι σ β γ : Type}

/-! ## What is counted -/

/-- The instance and the parameters, if the call that brought them was accepted for the handle. -/
def acceptedFor (id : HandleId) (first : ι) (params : Params) :
    Except Halt Answer → Option (ι × Params)
  | .ok (.registration (.ok proxy)) => if proxy.handle = id then some (first, params) else none
  | _ => none

namespace Past

/-- The instance and the parameters of a register call that was accepted for the handle. -/
def registration? (id : HandleId) : Past ι σ → Option (ι × Params)
  | ⟨.register first params, answer⟩ => acceptedFor id first params answer
  | ⟨.registerOn _ first params, answer⟩ => acceptedFor id first params answer
  | _ => none

/-- How often the operation ended in an exchange of the instance under the name. -/
def swaps (name : String) : Past ι σ → Nat
  | ⟨.refresh refreshed, .ok (.outcome (some .swapped))⟩ => if refreshed = name then 1 else 0
  | ⟨.refreshAll, .ok (.report (some report))⟩ => report.refreshed.count name
  | _ => 0

theorem swaps_refresh (name refreshed : String) (outcome : Outcome) :
    swaps name ⟨(.refresh refreshed : Operation ι σ), .ok (.outcome (some outcome))⟩ =
      if (refreshed, outcome) = (name, .swapped) then 1 else 0 := by
  cases outcome <;> simp [swaps]

end Past

namespace Run

/-- The accepted register calls on a handle. -/
def registrations (run : Run ι σ) (id : HandleId) : List (ι × Params) :=
  run.history.filterMap (Past.registration? id)

/-- How often the instance under a name was exchanged. -/
def swaps (run : Run ι σ) (name : String) : Nat :=
  run.history.foldl (fun n past => n + past.swaps name) 0

end Run

/-- The instance of the most recent rebuild under the name that gave one. -/
def lastBuilt (name : String) (attempts : List (Attempt ι)) : Option ι :=
  (attempts.filterMap fun a => if a.params.name = name then a.built? else none).getLast?

theorem lastBuilt_snoc_of_ne {name : String} (attempts : List (Attempt ι)) {a : Attempt ι}
    (h : a.params.name ≠ name) : lastBuilt name (attempts ++ [a]) = lastBuilt name attempts := by
  simp [lastBuilt, h]

theorem lastBuilt_snoc_of_failed {name : String} (attempts : List (Attempt ι)) {a : Attempt ι}
    (h : a.built? = none) : lastBuilt name (attempts ++ [a]) = lastBuilt name attempts := by
  simp [lastBuilt, h]

theorem lastBuilt_snoc {name : String} (attempts : List (Attempt ι)) {a : Attempt ι} {fresh : ι}
    (hname : a.params.name = name) (h : a.built? = some fresh) :
    lastBuilt name (attempts ++ [a]) = some fresh := by
  simp [lastBuilt, hname, h]

/-! ## One handle -/

/-- How a handle stands, given the register calls on it that were accepted, the last instance built
for it and the number of exchanges: it is empty and nothing was accepted, built or exchanged; or one
call was accepted, and the handle holds its parameters and serves what was built last. -/
inductive Account (h : Handle ι) : List (ι × Params) → Option ι → Nat → Prop where
  | unregistered (hi : h.installed = none) (hgeneration : h.generation = 0) : Account h [] none 0
  | registered {first : ι} {params : Params} {built? : Option ι} {swaps : Nat}
      (hname : params.name = h.name) (hi : h.installed = some ⟨params, built?.getD first⟩)
      (hgeneration : h.generation = .ofNat swaps) : Account h [(first, params)] built? swaps

/-- What a rebuild adds to the chronicle: itself. -/
def OneAttempt (params : Params) (current : ι) (result : Except Payload (Except RebuildError ι))
    (shown : List (Attempt ι)) : Prop :=
  shown = [⟨params, current, result⟩]

/-- A refresh leaves nothing behind under other names than its handle's. -/
theorem Handle.Refreshed.lastBuilt_of_ne {h h' : Handle ι} {outcome : Outcome}
    {shown : List (Attempt ι)} (hr : h.Refreshed OneAttempt outcome h' shown)
    (hparams : ∀ i, h.installed = some i → i.params.name = h.name) {name : String}
    (hname : name ≠ h.name) (attempts : List (Attempt ι)) :
    lastBuilt name (attempts ++ shown) = lastBuilt name attempts := by
  cases hr with
  | skipped hi => rw [List.append_nil]
  | @swapped i fresh _ hi hstep =>
    rw [show shown = _ from hstep]
    refine lastBuilt_snoc_of_ne _ ?_
    rw [hparams i hi]
    exact Ne.symm hname
  | failed hi hstep hfailure =>
    rw [show shown = _ from hstep]
    exact lastBuilt_snoc_of_failed _ (built?_of_failure hfailure)

namespace Account

variable {h : Handle ι} {registrations : List (ι × Params)} {swaps : Nat}

/-- A refresh keeps the account: only one that ends in an exchange is counted, and then its instance
is the one built last. -/
theorem refreshed {attempts shown : List (Attempt ι)} {outcome : Outcome} {h' : Handle ι}
    (ha : Account h registrations (lastBuilt h.name attempts) swaps)
    (hr : h.Refreshed OneAttempt outcome h' shown) :
    Account h' registrations (lastBuilt h.name (attempts ++ shown))
      (swaps + if outcome = .swapped then 1 else 0) := by
  cases hr with
  | skipped hi =>
    rw [List.append_nil]
    exact ha
  | failed hi hstep hfailure =>
    rw [show shown = _ from hstep, lastBuilt_snoc_of_failed attempts (built?_of_failure hfailure)]
    exact ha
  | @swapped i fresh _ hi hstep =>
    rw [show shown = _ from hstep, if_pos rfl]
    -- the exchange is counted, and its instance is the one that was built last
    generalize hbuilt : lastBuilt h.name attempts = built? at ha
    cases ha with
    | unregistered hnone _ =>
      rw [hi] at hnone
      cases hnone
    | @registered first params _ _ hname hinstalled hgeneration =>
      rw [hi] at hinstalled
      cases hinstalled
      have hcounted : h.generation + 1 = .ofNat (swaps + 1) := by
        rw [hgeneration, UInt64.ofNat_add]
        rfl
      rw [lastBuilt_snoc attempts hname rfl, Handle.swap_of_installed hi]
      exact .registered hname rfl hcounted

end Account

/-! ## All handles -/

/-- Every handle of a host is accounted for, and nothing is on record for handles and names that
were never given out. -/
structure Accounts (s : Host ι (σ × List (Attempt ι))) (registrations : HandleId → List (ι × Params))
    (swaps : String → Nat) : Prop where
  account : ∀ id < s.handles.length, Account (s.handle id) (registrations id)
    (lastBuilt (s.handle id).name s.library.2) (swaps (s.handle id).name)
  unissued : ∀ id, s.handles.length ≤ id → registrations id = []
  unknown : ∀ name, s.find? 0 name = none → lastBuilt name s.library.2 = none ∧ swaps name = 0

namespace Accounts

variable {s : Host ι (σ × List (Attempt ι))} {registrations : HandleId → List (ι × Params)}
  {swaps : String → Nat} {config : HotSwapConfig}

theorem congr {t : Host ι (σ × List (Attempt ι))} (h : Accounts s registrations swaps)
    (hh : t.handles = s.handles) (hr : t.registries = s.registries)
    (hl : t.library.2 = s.library.2) : Accounts t registrations swaps := by
  have hhandle : ∀ id, t.handle id = s.handle id := by
    intro id
    rw [Host.handle, Host.handle, hh]
  have hfind : ∀ name, t.find? 0 name = s.find? 0 name := by
    intro name
    rw [Host.find?, Host.find?, Host.registry, Host.registry, hr]
  -- all that the account reads is the handles, the names and the chronicle
  refine ⟨?_, ?_, ?_⟩
  · intro id hid
    rw [hhandle, hl]
    exact h.account id (hh ▸ hid)
  · intro id hid
    exact h.unissued id (hh ▸ hid)
  · intro name hname
    rw [hl]
    exact h.unknown name (hfind name ▸ hname)

theorem keepReport (h : Accounts s registrations swaps) (report : Report) :
    Accounts (s.keepReport 0 report) registrations swaps :=
  h.congr rfl rfl rfl

theorem recount {registrations' : HandleId → List (ι × Params)} {swaps' : String → Nat}
    (h : Accounts s registrations swaps) (hr : ∀ id, registrations id = registrations' id)
    (hw : ∀ name, swaps name = swaps' name) : Accounts s registrations' swaps' := by
  rwa [← funext hr, ← funext hw]

theorem enter (h : Accounts s registrations swaps) (hs : s.Founded config) (name : String) :
    Accounts (s.enter 0 name).2 registrations swaps := by
  rw [Host.enter]
  cases hfind : s.find? 0 name with
  | some id => exact h
  | none =>
    refine ⟨?_, ?_, ?_⟩
    · intro id hid
      rw [Host.length_createHandle] at hid
      rcases Nat.lt_succ_iff_lt_or_eq.mp hid with hlt | rfl
      · rw [Host.handle_createHandle_of_lt hlt]
        exact h.account id hlt
      · -- the name was unknown, so nothing is on record for the new handle
        obtain ⟨hbuilt, hswaps⟩ := h.unknown name hfind
        rw [Host.handle_createHandle_self, h.unissued _ (Nat.le_refl _), Handle.create_name]
        show Account _ [] (lastBuilt name s.library.2) (swaps name)
        rw [hbuilt, hswaps]
        exact .unregistered rfl rfl
    · intro id hid
      rw [Host.length_createHandle] at hid
      exact h.unissued id (Nat.le_of_succ_le hid)
    · intro other hother
      rw [Host.find?, Registry.lookup_eq_none_iff, Host.registry_createHandle_self hs.registry,
        Registry.names_push, List.mem_append, not_or] at hother
      exact h.unknown other (Registry.lookup_eq_none_iff.mpr hother.1)

theorem enroll (h : Accounts s registrations swaps) {id : HandleId} (hid : id < s.handles.length)
    {params : Params} (hname : params.name = (s.handle id).name)
    (hnone : (s.handle id).installed = none) (first : ι) :
    Accounts (s.enroll id first params)
      (fun other => registrations other ++ if id = other then [(first, params)] else []) swaps := by
  refine congr (s := s.updateHandle id fun h => { h with installed := some ⟨params, first⟩ })
    ⟨?_, ?_, h.unknown⟩ rfl rfl rfl
  · intro other hother
    rw [Host.length_updateHandle] at hother
    by_cases heq : id = other
    · subst heq
      rw [Host.handle_updateHandle_self hid, if_pos rfl]
      show Account _ _ (lastBuilt (s.handle id).name s.library.2) (swaps (s.handle id).name)
      have ha := h.account id hid
      -- the account is taken apart by its records, whatever they were computed from
      generalize hbuilt : lastBuilt (s.handle id).name s.library.2 = built? at ha ⊢
      generalize registrations id = accepted at ha ⊢
      generalize swaps (s.handle id).name = n at ha ⊢
      cases ha with
      | unregistered _ hgeneration => exact .registered hname rfl hgeneration
      | registered _ hi _ =>
        rw [hnone] at hi
        cases hi
    · rw [Host.handle_updateHandle_of_ne s (Ne.symm heq), if_neg heq, List.append_nil]
      exact h.account other hother
  · intro other hother
    rw [Host.length_updateHandle] at hother
    rw [h.unissued other hother, if_neg (Nat.ne_of_lt (Nat.lt_of_lt_of_le hid hother))]
    rfl

theorem refreshHandle {strategy : Strategy ι (σ × List (Attempt ι))}
    (hstrategy : strategy.Shows (·.2) OneAttempt) (h : Accounts s registrations swaps)
    (hs : s.Founded config) {id : HandleId} (hid : id < s.handles.length) :
    Accounts (s.refreshHandle strategy id).2 registrations (fun name => swaps name +
      if ((s.handle id).name, (s.refreshHandle strategy id).1) = (name, .swapped) then 1 else 0) := by
  obtain ⟨shown, hchronicle, hrefreshed⟩ := s.refreshHandle_refreshed hstrategy id
  obtain ⟨hlength, hregistries, _⟩ := s.refreshHandle_frame strategy id
  -- under any other name, the chronicle and the count stay what they were
  have hother : ∀ name, name ≠ (s.handle id).name →
      lastBuilt name (s.refreshHandle strategy id).2.library.2 = lastBuilt name s.library.2 := by
    intro name hname
    rw [hchronicle]
    exact hrefreshed.lastBuilt_of_ne (hs.sound.params_name id) hname _
  refine ⟨?_, ?_, ?_⟩
  · intro other hlt
    rw [hlength] at hlt
    by_cases heq : other = id
    · subst heq
      rw [Host.refreshHandle_name, hchronicle]
      have ha := (h.account other hid).refreshed hrefreshed
      simpa only [Prod.mk.injEq, true_and] using ha
    · rw [Host.refreshHandle_handle_of_ne s strategy heq]
      have hname : (s.handle other).name ≠ (s.handle id).name :=
        fun hname => heq (hs.name_inj hlt hid hname)
      rw [hother _ hname, if_neg fun hpair => hname (Prod.mk.inj hpair).1.symm]
      exact h.account other hlt
  · intro other hge
    rw [hlength] at hge
    exact h.unissued other hge
  · intro name hname
    have hfind : s.find? 0 name = none := by
      rwa [Host.find?, Host.registry, hregistries] at hname
    have hne : name ≠ (s.handle id).name := by
      rintro rfl
      rw [hs.find?_handle hid] at hfind
      cases hfind
    rw [hother name hne, if_neg fun hpair => hne (Prod.mk.inj hpair).1.symm]
    exact h.unknown name hfind

theorem refreshHandles {strategy : Strategy ι (σ × List (Attempt ι))}
    (hstrategy : strategy.Shows (·.2) OneAttempt) (h : Accounts s registrations swaps)
    (hs : s.Founded config) {ids : List HandleId} (hids : ∀ id ∈ ids, id < s.handles.length) :
    Accounts (s.refreshHandles strategy ids).2 registrations
      (fun name => swaps name + (s.refreshHandles strategy ids).1.count (name, .swapped)) := by
  induction ids generalizing s swaps with
  | nil => exact h
  | cons id ids ih =>
    have hid := hids id List.mem_cons_self
    have hfirst := h.refreshHandle hstrategy hs hid
    obtain ⟨hlength, _⟩ := s.refreshHandle_frame strategy id
    have hrest := ih hfirst (hs.refreshHandle strategy id) fun other hother => by
      rw [hlength]
      exact hids other (List.mem_cons_of_mem _ hother)
    rw [Host.refreshHandles_cons]
    -- the first handle is counted before the others here, and first of all in the list
    refine hrest.recount (fun _ => rfl) fun name => ?_
    rw [List.count_cons, Nat.add_assoc, Nat.add_comm (ite _ _ _)]
    simp only [beq_iff_eq]

theorem cycle {c : Collaborators ι (σ × List (Attempt ι))} {capability : Capability}
    (hstrategy : (c.strategies.select capability).Shows (·.2) OneAttempt)
    (h : Accounts s registrations swaps) (hs : s.Founded config) :
    Accounts (s.cycle c 0 capability).2 registrations
      (fun name => swaps name + (s.cycle c 0 capability).1.refreshed.count name) := by
  have hstart := h.congr (t := s.addNotice (.cycleStarted capability (s.registry 0).handles.length))
    rfl rfl rfl
  have hids : ∀ id ∈ (s.registry 0).handles, id < s.handles.length := by
    intro id hid
    rw [hs.listed] at hid
    exact List.mem_range.mp hid
  -- what starts and ends the cycle leaves the account alone, so only the visits count
  have hcycle := hstart.refreshHandles hstrategy (hs.addNotice _) hids
  refine (hcycle.congr (t := (s.cycle c 0 capability).2) rfl rfl rfl).recount (fun _ => rfl)
    fun name => ?_
  -- the report lists a name as refreshed as often as its visit was counted
  rw [← Verdict.count_swapped, Host.cycle]
  show _ = swaps name + ((Report.start capability).recordAll _).refreshed.count name
  rw [Report.recordAll_eq]
  rfl

theorem answerRegistration (h : Accounts s registrations swaps) {id : HandleId}
    (hid : id < s.handles.length) (first : ι) (params : Params) :
    Accounts (s.answerRegistration id first params).2
      (fun other => registrations other ++
        (acceptedFor other first params (s.answerRegistration id first params).1).toList) swaps := by
  rw [Host.answerRegistration]
  cases hregister : s.registerOn id first params with
  | error e => exact h.recount (fun _ => (List.append_nil _).symm) fun _ => rfl
  | ok s' =>
    obtain ⟨hname, hnone, rfl⟩ := Host.registerOn_eq_ok_iff.mp hregister
    refine (h.enroll hid hname hnone first).recount (fun other => ?_) fun _ => rfl
    show _ = registrations other ++ (if id = other then some (first, params) else none).toList
    -- only the handle that was registered has one more entry
    by_cases heq : id = other
    · rw [if_pos heq, if_pos heq]
      rfl
    · rw [if_neg heq, if_neg heq]
      rfl

/-- An operation that neither registers nor exchanges anything. -/
theorem unchanged (h : Accounts s registrations swaps) {past : Past ι σ}
    (hregistration : ∀ id, past.registration? id = none) (hswaps : ∀ name, past.swaps name = 0) :
    Accounts s (fun id => registrations id ++ (past.registration? id).toList)
      (fun name => swaps name + past.swaps name) := by
  refine h.recount (fun id => ?_) fun name => ?_
  · rw [hregistration]
    exact (List.append_nil _).symm
  · rw [hswaps]
    rfl

/-- **Every operation keeps the accounts**, its own answer included. -/
theorem perform {c : Collaborators ι (σ × List (Attempt ι))}
    (hstrategy : ∀ capability, (c.strategies.select capability).Shows (·.2) OneAttempt)
    (hprobe : ∀ library, (c.settling config library).library.2 = library.2)
    (h : Accounts s registrations swaps) (hs : s.Founded config) (op : Operation ι σ) :
    Accounts (s.perform c config op.beside).2
      (fun id => registrations id ++
        (Past.registration? id ⟨op, (s.perform c config op.beside).1⟩).toList)
      (fun name => swaps name + Past.swaps name ⟨op, (s.perform c config op.beside).1⟩) := by
  -- settling the capability leaves the handles and the chronicle alone
  have hsettled := h.congr (t := s.after (c.settling config s.library)) rfl rfl (hprobe s.library)
  have hfounded := hs.after (c.settling config s.library)
  cases op with
  | getOrCreate name => exact (h.enter hs name).unchanged (fun _ => rfl) fun _ => rfl
  | register first params =>
    exact (h.enter hs params.name).answerRegistration (hs.enter_lt params.name) first params
  | registerOn id first params =>
    rw [Operation.beside, Host.perform]
    by_cases hid : id < s.handles.length
    · rw [if_pos hid]
      exact h.answerRegistration hid first params
    · rw [if_neg hid]
      exact h.unchanged (fun _ => rfl) fun _ => rfl
  | refresh name =>
    rw [Operation.beside, Host.perform]
    cases hfind : s.find? 0 name with
    | none => exact h.unchanged (fun _ => rfl) fun _ => rfl
    | some id =>
      obtain ⟨hid, hname⟩ := hs.sound.find? hfind
      cases (c.settling config s.library).answer with
      | error payload => exact hsettled.unchanged (fun _ => rfl) fun _ => rfl
      | ok capability =>
        refine (hsettled.refreshHandle (hstrategy capability) hfounded hid).recount
          (fun _ => (List.append_nil _).symm) fun other => ?_
        rw [show ((s.after (c.settling config s.library)).handle id).name = name from hname]
        exact congrArg _ (Past.swaps_refresh other name _).symm
  | refreshAll =>
    rw [Operation.beside, Host.perform]
    cases (c.settling config s.library).answer with
    | error payload => exact hsettled.unchanged (fun _ => rfl) fun _ => rfl
    | ok capability =>
      have hcycle := hsettled.cycle (hstrategy capability) hfounded
      exact (hcycle.keepReport _).recount (fun _ => (List.append_nil _).symm) fun _ => rfl
  | forward id use =>
    rw [Operation.beside, Host.perform]
    cases (s.handle id).installed with
    | none => exact h.unchanged (fun _ => rfl) fun _ => rfl
    | some i =>
      exact (h.congr (t := s.after _) rfl rfl rfl).unchanged (fun _ => rfl) fun _ => rfl

end Accounts

/-! ## Runs -/

namespace Run

theorem registrations_step (c : Collaborators ι σ) (run : Run ι σ) (op : Operation ι σ)
    (id : HandleId) : (run.step c op).registrations id = run.registrations id ++
      (Past.registration? id ⟨op, ((op.act c).runOn run.host).1⟩).toList := by
  rw [registrations, step_history, List.filterMap_append]
  cases h : Past.registration? id ⟨op, ((op.act c).runOn run.host).1⟩ with
  | none => rw [List.filterMap_cons_none h]; rfl
  | some accepted => rw [List.filterMap_cons_some h]; rfl

theorem swaps_step (c : Collaborators ι σ) (run : Run ι σ) (op : Operation ι σ) (name : String) :
    (run.step c op).swaps name =
      run.swaps name + Past.swaps name ⟨op, ((op.act c).runOn run.host).1⟩ := by
  rw [swaps, step_history, List.foldl_append]
  rfl

variable (library : Behaviour ι σ β γ) (config : HotSwapConfig) (start : σ)

/-- The accounts of a run are kept along the run that writes its rebuilds down. -/
theorem accounts (ops : List (Operation ι σ)) :
    Accounts (of library.collaborators.chronicled config (start, []) (ops.map .beside)).host
      (library.run config start ops).registrations (library.run config start ops).swaps := by
  have hd := library.collaborators_detached
  have hstrategy : ∀ capability, (library.collaborators.chronicled.strategies.select
      capability).Shows (·.2) OneAttempt := by
    intro capability
    rw [Collaborators.select_chronicled]
    exact (Strategy.chronicled_shows (hd.select capability)).mono fun _ _ _ _ h => h.1
  induction ops using List.reverseRecOn with
  | nil =>
    refine ⟨?_, fun _ _ => rfl, fun _ _ => ⟨rfl, rfl⟩⟩
    intro id hid
    exact absurd hid (Nat.not_lt_zero id)
  | append_singleton ops op ih =>
    have hfounded := founded hd.chronicled config (start, []) (ops.map Operation.beside)
    have hperform := ih.perform hstrategy (Collaborators.settling_chronicled hd config) hfounded op
    -- the run without the chronicle gets the same answer
    have hanswer : ((op.act library.collaborators).runOn (library.run config start ops).host).1 =
        ((of library.collaborators.chronicled config (start, []) (ops.map .beside)).host.perform
          library.collaborators.chronicled config op.beside).1 := by
      have hcovers := Collaborators.covers_chronicled library.collaborators
      rw [Behaviour.run, ← (covers hcovers config start ops).1, Operation.covers hcovers op,
        Operation.runOn_act hd.chronicled hfounded]
    rw [List.map_append, List.map_singleton, of_snoc, step_host,
      Operation.runOn_act hd.chronicled hfounded]
    refine hperform.recount (fun id => ?_) fun name => ?_
    · rw [← hanswer, Behaviour.run, Behaviour.run, of_snoc, registrations_step]
    · rw [← hanswer, Behaviour.run, Behaviour.run, of_snoc, swaps_step]

end Run

/-- What a handle holds, accounted for by the accepted register calls on it, the last instance built
for it and the number of exchanges. -/
structure Handle.AccountedFor (h : Handle ι) (registrations : List (ι × Params)) (built? : Option ι)
    (swaps : Nat) : Prop where
  /-- It is registered exactly if a register call on it was accepted. -/
  isRegistered_iff : h.isRegistered = true ↔ registrations ≠ []
  /-- No second call is accepted. -/
  accepted_once : registrations.length ≤ 1
  /-- Its parameters are those of the accepted call, and carry its name. -/
  params : ∀ first params, (first, params) ∈ registrations →
    h.params? = some params ∧ params.name = h.name
  /-- It serves what was built last, or what was registered. -/
  current : ∀ first params, (first, params) ∈ registrations → h.current? = some (built?.getD first)
  generation : h.generation.toNat = swaps % UInt64.size
  unregistered : h.isRegistered = false → h.generation = 0

theorem Account.accountedFor {h : Handle ι} {registrations : List (ι × Params)} {built? : Option ι}
    {swaps : Nat} (ha : Account h registrations built? swaps) :
    h.AccountedFor registrations built? swaps := by
  cases ha with
  | unregistered hi hgeneration =>
    refine ⟨?_, Nat.zero_le 1, by simp, by simp, ?_, fun _ => hgeneration⟩
    · simp [Handle.isRegistered, hi]
    · rw [hgeneration]
      rfl
  | @registered first params _ _ hname hi hgeneration =>
    have hregistered : h.isRegistered = true := by rw [Handle.isRegistered, hi]; rfl
    -- everything is read off the one registration that was accepted
    refine ⟨by simp [hregistered], Nat.le_refl 1, ?_, ?_, ?_, ?_⟩
    · intro other params' hmem
      cases List.mem_singleton.mp hmem
      rw [Handle.params?, hi]
      exact ⟨rfl, hname⟩
    · intro other params' hmem
      cases List.mem_singleton.mp hmem
      rw [Handle.current?, hi]
      rfl
    · rw [hgeneration, UInt64.toNat_ofNat']
    · intro hnot
      rw [hregistered] at hnot
      cases hnot

section Runs

variable (library : Behaviour ι σ β γ) (config : HotSwapConfig) (start : σ)
  (ops : List (Operation ι σ))

namespace Run

/-- The handles of a run, accounted for by its history and the chronicle of its rebuilds. -/
theorem accountedFor {id : HandleId}
    (hid : id < (library.run config start ops).host.handles.length) :
    ((library.run config start ops).host.handle id).AccountedFor
      ((library.run config start ops).registrations id)
      (lastBuilt ((library.run config start ops).host.handle id).name
        (library.attempts config start ops))
      ((library.run config start ops).swaps
        ((library.run config start ops).host.handle id).name) := by
  have haccounts := accounts library config start ops
  have herase := (covers library.collaborators.covers_chronicled config start ops).1
  have hhost : (library.run config start ops).host = _ := herase.symm
  rw [hhost] at hid ⊢
  exact (haccounts.account id hid).accountedFor

theorem lt_of_registrations {id : HandleId}
    (h : (library.run config start ops).registrations id ≠ []) :
    id < (library.run config start ops).host.handles.length := by
  have haccounts := accounts library config start ops
  have herase := (covers library.collaborators.covers_chronicled config start ops).1
  have hhost : (library.run config start ops).host = _ := herase.symm
  rw [hhost]
  rcases Nat.lt_or_ge id _ with hlt | hge
  · exact hlt
  · exact absurd (haccounts.unissued id hge) h

theorem mem_registrations_append {id : HandleId} {accepted : ι × Params}
    (h : accepted ∈ (library.run config start ops).registrations id) (later : List (Operation ι σ)) :
    accepted ∈ (library.run config start (ops ++ later)).registrations id := by
  obtain ⟨more, hmore⟩ : ∃ more, (library.run config start (ops ++ later)).history =
      (library.run config start ops).history ++ more := history_append ops later
  rw [registrations, hmore, List.filterMap_append]
  exact List.mem_append_left _ h

/-- **Every handle is accounted for.** However the library behaves and whatever was done so far, a
handle is registered exactly if one register call on it was accepted; it has the parameters of that
call, serves what was built for it last, and its generation is the number of its exchanges modulo
2^64. Whatever is done later, it stays registered with these parameters. -/
theorem handle_accounted {id : HandleId}
    (hid : id < (library.run config start ops).host.handles.length) :
    ((library.run config start ops).host.handle id).AccountedFor
        ((library.run config start ops).registrations id)
        (lastBuilt ((library.run config start ops).host.handle id).name
          (library.attempts config start ops))
        ((library.run config start ops).swaps
          ((library.run config start ops).host.handle id).name) ∧
      ∀ later, ((library.run config start ops).host.handle id).isRegistered = true →
        ((library.run config start (ops ++ later)).host.handle id).isRegistered = true ∧
          ((library.run config start (ops ++ later)).host.handle id).params? =
            ((library.run config start ops).host.handle id).params? := by
  have hnow := accountedFor library config start ops hid
  refine ⟨hnow, fun later hregistered => ?_⟩
  obtain ⟨⟨first, params⟩, haccepted⟩ :=
    List.exists_mem_of_ne_nil _ (hnow.isRegistered_iff.mp hregistered)
  have hstill := mem_registrations_append library config start ops haccepted later
  have hthen := accountedFor library config start (ops ++ later)
    (lt_of_registrations library config start (ops ++ later) (List.ne_nil_of_mem hstill))
  refine ⟨hthen.isRegistered_iff.mpr (List.ne_nil_of_mem hstill), ?_⟩
  rw [(hthen.params first params hstill).1, (hnow.params first params haccepted).1]

end Run

end Runs

/-- A handle that was registered twice and refreshed three times, with a panic and a failure among
the rebuilds. -/
theorem Run.handle_accounted_scripted :
    let config : HotSwapConfig := ⟨some .modern, ⟨"Tick"⟩⟩
    let script := [.ok (.ok 8), .error .other, .ok (.error "no")]
    let params := Params.named "orders" .empty
    let ops := [.register 7 params, .refreshAll, .register 9 params, .refresh "orders", .refreshAll]
    let run := (Behaviour.scripted (ι := Nat)).run config script ops
    0 < run.host.handles.length ∧
      (run.host.handle 0).AccountedFor (run.registrations 0)
        (lastBuilt (run.host.handle 0).name (Behaviour.scripted.attempts config script ops))
        (run.swaps (run.host.handle 0).name) :=
  ⟨by decide, (Run.handle_accounted Behaviour.scripted _ _ _ (by decide)).1⟩

end LiveSwap
