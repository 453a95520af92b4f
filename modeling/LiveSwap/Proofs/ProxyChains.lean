import LiveSwap.Resource
import LiveSwap.Proofs.Run
import Mathlib.Data.List.Nodup
import Mathlib.Data.List.Perm.Subperm

/-!
# Chains of proxies

A handle may hold a proxy of another handle, and that one a proxy again. Every registered handle has a place
in the order of registration, and a proxy that a handle holds leads to an earlier place: so a chain of
proxies ends, and it ends at a plain instance.

* **`Host.Leads`** — following a resource to the plain instance behind it, with the handles on the way.
* **`Host.Leads.runOn_operate`** — the program follows the same way: an operation that is forwarded from proxy
  to proxy acts on the instance at its end.
* **`Host.Linked`** — the order of registration, with the locks that are held; **`Host.Linked.leads`** — from
  every handle in the order there is a way to a plain instance, through earlier handles only.
* **`Host.Linked.enter`**, **`Host.Linked.enroll`**, **`Host.Linked.swap`** — what creating, registering and
  rebuilding do to the order.
-/

namespace LiveSwap

variable {κ σ α : Type}

namespace Host

/-! ## Following proxies -/

/-- Following a resource through the installed instances: the handles on the way, and the plain instance at
the end. -/
inductive Leads (s : Host (Resource κ) σ) : Resource κ → List HandleId → κ → Prop where
  | plain (k : κ) : Leads s (.plain k) [] k
  | proxy {p : Proxy} {i : Installed (Resource κ)} {ids : List HandleId} {k : κ}
      (hi : (s.handle p.handle).installed = some i) (h : Leads s i.current ids k) :
      Leads s (.proxy p) (p.handle :: ids) k

/-- Whether a resource can be at hand: a proxy is handed out once its handle is registered. -/
def issued (s : Host (Resource κ) σ) : Resource κ → Bool
  | .plain _ => true
  | .proxy p => (s.handle p.handle).isRegistered

end Host

namespace Act

/-- Operates on a resource: a proxy forwards to what is installed behind it, through so many proxies at
most. -/
def operateWithin (use : κ → Act (Resource κ) σ α) : Nat → Resource κ → Act (Resource κ) σ α
  | _, .plain k => use k
  | 0, .proxy _ => throw .endless
  | n + 1, .proxy p => forward p (operateWithin use n)

def operate (r : Resource κ) (use : κ → Act (Resource κ) σ α) : Act (Resource κ) σ α := do
  operateWithin use (← get).handles.length r

theorem operateWithin_eq (use : κ → Act (Resource κ) σ α) (n : Nat) (r : Resource κ) :
    operateWithin use n r = reachWithin n r >>= use := by
  -- the induction is on how many proxies may be passed
  induction n generalizing r with
  | zero =>
    cases r with
    | plain k => rfl
    | proxy p => rfl
  | succ n ih =>
    cases r with
    | plain k => rfl
    | proxy p =>
      have hrest : operateWithin use n = fun r => reachWithin n r >>= use := funext ih
      show forward p (operateWithin use n) = (snapshot p >>= reachWithin n) >>= use
      rw [hrest, bind_assoc]
      rfl

theorem runOn_snapshot {ι : Type} {s : Host ι σ} {p : Proxy} {i : Installed ι}
    (hi : (s.handle p.handle).installed = some i) (hidle : (s.handle p.handle).reloading = false) :
    (snapshot p : Act ι σ ι).runOn s = (.ok i.current, s) := by
  have hforward := runOn_forward hi hidle pure
  rwa [forward, bind_pure] at hforward

end Act

namespace Host

variable {s : Host (Resource κ) σ} {r : Resource κ} {ids : List HandleId} {k : κ}

/-- Where no lock bars the way, it is followed to its end. -/
theorem Leads.runOn_reachWithin (h : s.Leads r ids k) (hidle : ∀ id ∈ ids, (s.handle id).reloading = false)
    {n : Nat} (hn : ids.length ≤ n) : (Act.reachWithin n r).runOn s = (.ok k, s) := by
  induction h generalizing n with
  | plain k => cases n <;> rfl
  | @proxy p i ids k hi _ ih =>
    cases n with
    | zero => simp at hn
    | succ n =>
      have hfirst := Act.runOn_snapshot hi (hidle p.handle (by simp))
      have hrest := ih (fun id hid => hidle id (by simp [hid])) (n := n) (by simpa using hn)
      show (Act.snapshot p >>= Act.reachWithin n).runOn s = _
      rw [Effect.runOn_bind_ok hfirst, hrest]

theorem Leads.installed (h : s.Leads r ids k) {id : HandleId} (hid : id ∈ ids) :
    ∃ i, (s.handle id).installed = some i := by
  induction h with
  | plain k => cases hid
  | @proxy p i ids k hi _ ih =>
    obtain rfl | hrest := List.mem_cons.mp hid
    · exact ⟨i, hi⟩
    · exact ih hrest

theorem Leads.congr {s' : Host (Resource κ) σ} (h : s.Leads r ids k)
    (hsame : ∀ id, (s'.handle id).installed = (s.handle id).installed) : s'.Leads r ids k := by
  induction h with
  | plain k => exact .plain k
  | proxy hi _ ih => exact .proxy (by rw [hsame, hi]) ih

theorem length_le_of_installed {ids : List HandleId} (hnodup : ids.Nodup)
    (hids : ∀ id ∈ ids, ∃ i, (s.handle id).installed = some i) : ids.length ≤ s.handles.length := by
  have hsubset : ids ⊆ List.range s.handles.length := by
    intro id hid
    obtain ⟨i, hi⟩ := hids id hid
    exact List.mem_range.mpr (lt_of_installed hi)
  have hlength := (hnodup.subperm hsubset).length_le
  rwa [List.length_range] at hlength

theorem Leads.length_le (h : s.Leads r ids k) (hnodup : ids.Nodup) : ids.length ≤ s.handles.length :=
  length_le_of_installed hnodup fun _ hid => h.installed hid

/-- **Operating on a resource** acts on the plain instance at the end of the way. -/
theorem Leads.runOn_operate (h : s.Leads r ids k) (hnodup : ids.Nodup)
    (hidle : ∀ id ∈ ids, (s.handle id).reloading = false) (use : κ → Act (Resource κ) σ α) :
    (Act.operate r use).runOn s = (use k).runOn s := by
  have hreach := h.runOn_reachWithin hidle (h.length_le hnodup)
  show (Act.operateWithin use s.handles.length r).runOn s = _
  rw [Act.operateWithin_eq, Effect.runOn_bind_ok hreach]

/-! ## The order of registration -/

/-- The registered handles in the order in which they were registered: a proxy that a handle holds leads to
an earlier one. At most one reload lock is held. -/
structure Linked (s : Host (Resource κ) σ) (order : List HandleId) (held : Option HandleId) : Prop where
  nodup : order.Nodup
  registered_iff : ∀ id, (s.handle id).isRegistered = true ↔ id ∈ order
  earlier : ∀ id i p, (s.handle id).installed = some i → i.current = .proxy p →
    order.idxOf p.handle < order.idxOf id
  listed : ∀ r, ∀ id ∈ (s.registry r).handles, id < s.handles.length
  locked : ∀ id, (s.handle id).reloading = true → held = some id

variable {order : List HandleId} {held : Option HandleId}

theorem Linked.start (library : σ) : (Host.start library : Host (Resource κ) σ).Linked [] none := by
  refine ⟨List.nodup_nil, ?_, ?_, ?_, ?_⟩
  · intro id
    simp [Host.start, Host.handle, Handle.isRegistered]
  · intro id i p hi
    cases hi
  · intro r id hid
    cases hid
  · intro id hlocked
    cases hlocked

theorem Linked.congr {s' : Host (Resource κ) σ} (h : s.Linked order held) (hh : s'.handles = s.handles)
    (hr : s'.registries = s.registries) : s'.Linked order held := by
  have hhandle : ∀ id, s'.handle id = s.handle id := fun id => by rw [handle, handle, hh]
  have hregistry : ∀ r, s'.registry r = s.registry r := fun r => by rw [registry, registry, hr]
  refine ⟨h.nodup, fun id => ?_, fun id i p => ?_, fun r id => ?_, fun id => ?_⟩
  · rw [hhandle]
    exact h.registered_iff id
  · rw [hhandle]
    exact h.earlier id i p
  · rw [hregistry, hh]
    exact h.listed r id
  · rw [hhandle]
    exact h.locked id

theorem Linked.after (h : s.Linked order held) {β : Type} (c : Conduct σ β) :
    (s.after c).Linked order held := h.congr rfl rfl

theorem Linked.addNotice (h : s.Linked order held) (n : Notice) : (s.addNotice n).Linked order held :=
  h.congr rfl rfl

theorem Linked.installed_of_mem (h : s.Linked order held) {id : HandleId} (hid : id ∈ order) :
    ∃ i, (s.handle id).installed = some i :=
  Option.isSome_iff_exists.mp ((h.registered_iff id).mpr hid)

theorem idxOf_lt_of_prefix {order order' : List HandleId} (hgrows : order <+: order') {a b : HandleId}
    (h : order.idxOf a < order.idxOf b) : order'.idxOf a < order'.idxOf b := by
  obtain ⟨more, rfl⟩ := hgrows
  have hlength : order.idxOf b ≤ order.length := List.idxOf_le_length
  have ha : a ∈ order := List.idxOf_lt_length_iff.mp (by omega)
  rw [List.idxOf_append_of_mem ha]
  by_cases hb : b ∈ order
  · rwa [List.idxOf_append_of_mem hb]
  · rw [List.idxOf_append_of_notMem hb]
    omega

/-- **Every way ends.** From a handle in the order one gets to a plain instance through earlier handles,
and to none of them twice. -/
theorem Linked.leads (h : s.Linked order held) {id : HandleId} (hid : id ∈ order) : ∃ ids k,
    s.Leads (.proxy ⟨id⟩) (id :: ids) k ∧ (id :: ids).Nodup ∧
      ∀ other ∈ ids, order.idxOf other < order.idxOf id := by
  -- along the way the places in the order get smaller
  induction hn : order.idxOf id using Nat.strongRecOn generalizing id with
  | _ n ih =>
    subst hn
    obtain ⟨i, hi⟩ := h.installed_of_mem hid
    cases hcurrent : i.current with
    | plain k =>
      have hplain : s.Leads i.current [] k := by
        rw [hcurrent]
        exact .plain k
      exact ⟨[], k, .proxy hi hplain, by simp, by simp⟩
    | proxy p =>
      have hearlier := h.earlier id i p hi hcurrent
      have hlength : order.idxOf id ≤ order.length := List.idxOf_le_length
      have hp : p.handle ∈ order := List.idxOf_lt_length_iff.mp (by omega)
      obtain ⟨ids, k, hleads, hnodup, hids⟩ := ih _ hearlier hp rfl
      have hall : ∀ other ∈ p.handle :: ids, order.idxOf other < order.idxOf id := by
        intro other hother
        obtain rfl | hrest := List.mem_cons.mp hother
        · exact hearlier
        · have := hids other hrest
          omega
      have hfresh : id ∉ p.handle :: ids := fun hmem => Nat.lt_irrefl _ (hall id hmem)
      have hway : s.Leads i.current (p.handle :: ids) k := by
        rw [hcurrent]
        exact hleads
      exact ⟨p.handle :: ids, k, .proxy hi hway, List.nodup_cons.mpr ⟨hfresh, hnodup⟩, hall⟩

/-! ## Resources at hand -/

/-- A resource whose way does not pass the lock that is held. -/
def Clear (order : List HandleId) (held : Option HandleId) (r : Resource κ) : Prop :=
  ∀ p, r = .proxy p → p.handle ∈ order ∧ ∀ id, held = some id → order.idxOf p.handle < order.idxOf id

theorem Clear.mono {order' : List HandleId} (h : Clear order held r) (hgrows : order <+: order') :
    Clear order' held r := by
  intro p hp
  obtain ⟨hmem, hearlier⟩ := h p hp
  exact ⟨hgrows.subset hmem, fun id hid => idxOf_lt_of_prefix hgrows (hearlier id hid)⟩

/-- What a handle holds is clear of the handle's own lock. -/
theorem Linked.clear_current (h : s.Linked order held) {id : HandleId} {i : Installed (Resource κ)}
    (hi : (s.handle id).installed = some i) : Clear order (some id) i.current := by
  intro p hp
  have hearlier := h.earlier id i p hi hp
  have hlength : order.idxOf id ≤ order.length := List.idxOf_le_length
  refine ⟨List.idxOf_lt_length_iff.mp (by omega), fun other hother => ?_⟩
  cases hother
  exact hearlier

theorem Linked.clear_of_issued (h : s.Linked order none) (hr : s.issued r = true) :
    Clear order none r := by
  intro p hp
  subst hp
  exact ⟨(h.registered_iff p.handle).mp hr, by simp⟩

/-- **A resource that is clear of the lock leads to a plain instance**, and every handle on the way can be
passed. -/
theorem Linked.leads_of_clear (h : s.Linked order held) (hr : Clear order held r) : ∃ ids k,
    s.Leads r ids k ∧ ids.Nodup ∧ (∀ id ∈ ids, (s.handle id).reloading = false) ∧
      ∀ id, held = some id → id ∉ ids := by
  cases r with
  | plain k => exact ⟨[], k, .plain k, by simp, by simp, by simp⟩
  | proxy p =>
    obtain ⟨hmem, hearlier⟩ := hr p rfl
    obtain ⟨ids, k, hleads, hnodup, hids⟩ := h.leads hmem
    -- the held handle comes later in the order than everything on the way
    have hheld : ∀ id, held = some id → id ∉ p.handle :: ids := by
      intro id hid hin
      have hplace := hearlier id hid
      obtain rfl | hrest := List.mem_cons.mp hin
      · omega
      · have := hids id hrest
        omega
    refine ⟨p.handle :: ids, k, hleads, hnodup, fun id hid => ?_, hheld⟩
    by_contra hlocked
    exact hheld id (h.locked id (by simpa using hlocked)) hid

/-! ## Creating, registering, rebuilding -/

theorem Linked.createHandle (h : s.Linked order held) (r : RegistryId) (name : String) :
    (s.createHandle r name).Linked order held := by
  have hinstalled : ∀ id, ((s.createHandle r name).handle id).installed = (s.handle id).installed :=
    apply_handle_createHandle Handle.installed (fun _ => rfl) s r name
  have hreloading : ∀ id, ((s.createHandle r name).handle id).reloading = (s.handle id).reloading :=
    apply_handle_createHandle Handle.reloading (fun _ => rfl) s r name
  -- the new handle holds nothing, so nothing leads to it and it leads nowhere
  refine ⟨h.nodup, fun id => ?_, fun id i p => ?_, fun other id hid => ?_, fun id => ?_⟩
  · rw [Handle.isRegistered, hinstalled]
    exact h.registered_iff id
  · rw [hinstalled]
    exact h.earlier id i p
  · rw [length_createHandle]
    obtain hold | rfl := mem_handles_createHandle hid
    · exact Nat.lt_succ_of_lt (h.listed other id hold)
    · exact Nat.lt_succ_self _
  · rw [hreloading]
    exact h.locked id

theorem Linked.enter (h : s.Linked order held) (r : RegistryId) (name : String) :
    (s.enter r name).2.Linked order held ∧ (s.enter r name).1 < (s.enter r name).2.handles.length := by
  rw [Host.enter]
  cases hfind : s.find? r name with
  | some id =>
    obtain ⟨entry, hentry, hname⟩ : ∃ entry ∈ (s.registry r).entries, entry.2 = id := by
      obtain ⟨before, after, hentries, -⟩ := List.lookup_eq_some_iff.mp hfind
      exact ⟨(name, id), by rw [hentries]; simp, rfl⟩
    exact ⟨h, h.listed r id (hname ▸ List.mem_map_of_mem hentry)⟩
  | none =>
    refine ⟨h.createHandle r name, ?_⟩
    show s.handles.length < (s.createHandle r name).handles.length
    simp

/-- **A handle that takes its first instance** comes last in the order: nobody has a proxy of it yet. -/
theorem Linked.enroll (h : s.Linked order held) {id : HandleId} (hid : id < s.handles.length)
    (hnone : (s.handle id).installed = none) {first : Resource κ} (hfirst : s.issued first = true)
    (params : Params) : (s.enroll id first params).Linked (order ++ [id]) held := by
  have hself : (s.enroll id first params).handle id =
      { s.handle id with installed := some ⟨params, first⟩ } :=
    handle_updateHandle_self hid _
  have hother : ∀ {other}, other ≠ id → (s.enroll id first params).handle other = s.handle other :=
    fun hne => handle_updateHandle_of_ne s hne _
  have hfresh : id ∉ order := by
    intro hmem
    obtain ⟨i, hi⟩ := h.installed_of_mem hmem
    rw [hnone] at hi
    cases hi
  have hgrows : order <+: order ++ [id] := List.prefix_append ..
  refine ⟨?_, fun other => ?_, fun other i p hi hp => ?_, fun r other hlisted => ?_,
    fun other hlocked => ?_⟩
  · rw [← List.concat_eq_append]
    exact h.nodup.concat hfresh
  · rw [List.mem_append, List.mem_singleton, ← h.registered_iff]
    by_cases hne : other = id
    · subst hne
      simp [hself, Handle.isRegistered]
    · simp [hother hne, hne]
  · by_cases hne : other = id
    · subst hne
      rw [hself] at hi
      cases hi
      -- a proxy that could be registered leads into the order
      have hmem : p.handle ∈ order := by
        rw [show first = .proxy p from hp] at hfirst
        exact (h.registered_iff p.handle).mp hfirst
      have hlt := List.idxOf_lt_length_of_mem hmem
      rw [List.idxOf_append_of_mem hmem, List.idxOf_append_of_notMem hfresh]
      omega
    · rw [hother hne] at hi
      exact idxOf_lt_of_prefix hgrows (h.earlier other i p hi hp)
  · rw [length_enroll]
    exact h.listed r other hlisted
  · apply h.locked
    have hsame : ((s.enroll id first params).handle other).reloading = (s.handle other).reloading :=
      apply_handle_updateHandle Handle.reloading rfl other
    rw [← hsame, hlocked]

/-- **A rebuilt instance** that is plain leads nowhere. -/
theorem Linked.swap (h : s.Linked order held) (id : HandleId) (k : κ) :
    (s.updateHandle id (·.swap (.plain k))).Linked order held := by
  -- an exchange registers nobody
  have hregistered : ∀ other, ((s.updateHandle id (·.swap (.plain k))).handle other).isRegistered =
      (s.handle other).isRegistered := by
    refine apply_handle_updateHandle Handle.isRegistered ?_
    cases hi : (s.handle id).installed with
    | none => rw [Handle.swap, hi]
    | some i => simp [Handle.swap_of_installed hi, Handle.isRegistered, hi]
  refine ⟨h.nodup, fun other => ?_, fun other i p hi hp => ?_, fun r other hother => ?_, fun other hlocked => ?_⟩
  · rw [hregistered]
    exact h.registered_iff other
  -- what is installed now is plain, so it follows no proxy
  · by_cases hne : other = id
    · subst hne
      have hlt : other < s.handles.length := by simpa using lt_of_installed hi
      rw [handle_updateHandle_self hlt] at hi
      cases hold : (s.handle other).installed with
      | none =>
        rw [Handle.swap, hold] at hi
        rw [hold] at hi
        cases hi
      | some j =>
        rw [Handle.swap_of_installed hold] at hi
        cases hi
        cases hp
    · rw [handle_updateHandle_of_ne s hne] at hi
      exact h.earlier other i p hi hp
  · rw [length_updateHandle]
    exact h.listed r other hother
  · apply h.locked
    have hsame : ((s.updateHandle id (·.swap (.plain k))).handle other).reloading =
        (s.handle other).reloading :=
      apply_handle_updateHandle Handle.reloading ((s.handle id).swap_reloading (.plain k)) other
    rw [← hsame, hlocked]

/-- Taking a lock or giving it back concerns the locks alone. -/
theorem Linked.relock (h : s.Linked order held) (id : HandleId) (taken : Bool) {held' : Option HandleId}
    (hlocked : ∀ other, ((s.setLock id taken).handle other).reloading = true → held' = some other) :
    (s.setLock id taken).Linked order held' := by
  have hinstalled : ∀ other, ((s.setLock id taken).handle other).installed = (s.handle other).installed :=
    apply_handle_updateHandle Handle.installed rfl
  refine ⟨h.nodup, fun other => ?_, fun other i p => ?_, fun r other hother => ?_, hlocked⟩
  · rw [Handle.isRegistered, hinstalled]
    exact h.registered_iff other
  · rw [hinstalled]
    exact h.earlier other i p
  · rw [setLock, length_updateHandle]
    exact h.listed r other hother

theorem Linked.lock (h : s.Linked order none) (id : HandleId) :
    (s.setLock id true).Linked order (some id) := by
  refine h.relock id true fun other hlocked => ?_
  -- any other locked handle was locked before, and nobody was
  by_contra hne
  have hother : other ≠ id := fun heq => hne (by rw [heq])
  rw [setLock, handle_updateHandle_of_ne s hother] at hlocked
  cases h.locked other hlocked

theorem Linked.unlock {id : HandleId} (h : s.Linked order (some id)) :
    (s.setLock id false).Linked order none := by
  refine h.relock id false fun other hlocked => absurd hlocked ?_
  rw [Bool.not_eq_true]
  -- the only handle that was locked is the one whose lock is given back
  by_cases hother : other = id
  · subst hother
    by_cases hlt : other < s.handles.length
    · rw [setLock, handle_updateHandle_self hlt]
    · rw [handle_of_length_le (by simpa [setLock] using hlt)]
      rfl
  · rw [setLock, handle_updateHandle_of_ne s hother]
    by_contra hheld
    obtain rfl := Option.some.inj (h.locked other (by simpa using hheld))
    exact hother rfl

end Host

end LiveSwap
