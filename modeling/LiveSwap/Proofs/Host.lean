import LiveSwap.Registration
import Mathlib.Data.List.Basic
import Mathlib.Data.List.GetD

/-!
# Handles and registries of a host

How looking up a handle or a name fares under the changes that actions make, and the invariant
that every operation on a host keeps.

* **`Host.handle_updateHandle_self`**, **`Host.handle_updateHandle_of_ne`** — changing one handle
  changes that handle and no other.
* **`Host.handle_createHandle_self`**, **`Host.registry_createHandle_self`** — a handle that is
  created stands at the end, under its own name.
* **`Host.Sound`** — what every reachable host satisfies: registries list handles under their own
  names and no name twice, no lock is held between operations, and the parameters in a handle
  carry its name.
-/

namespace LiveSwap

variable {ι σ : Type}

/-! ## Handles -/

namespace Handle

@[simp] theorem swap_reloading (h : Handle ι) (fresh : ι) :
    (h.swap fresh).reloading = h.reloading := by
  unfold swap
  split <;> rfl

theorem swap_of_installed {h : Handle ι} {i : Installed ι} (hi : h.installed = some i)
    (fresh : ι) : h.swap fresh =
      { h with installed := some { i with current := fresh }, generation := h.generation + 1 } := by
  rw [swap, hi]

theorem register_eq_ok_iff {h h' : Handle ι} {first : ι} {params : Params} :
    h.register first params = .ok h' ↔
      params.name = h.name ∧ h.installed = none ∧ h' = { h with installed := some ⟨params, first⟩ } := by
  unfold register
  -- the name is checked first, and then whether the handle is empty
  by_cases hn : params.name = h.name
  · rw [if_pos hn]
    cases hi : h.installed with
    | none =>
      constructor
      · intro hok
        cases hok
        exact ⟨hn, rfl, rfl⟩
      · rintro ⟨_, _, rfl⟩
        rfl
    | some i =>
      constructor
      · intro hok
        cases hok
      · rintro ⟨_, hnone, _⟩
        cases hnone
  · rw [if_neg hn]
    constructor
    · intro hok
      cases hok
    · rintro ⟨hname, _, _⟩
      exact absurd hname hn

end Handle

/-! ## Registries -/

/-- Where no key occurs twice, a lookup finds exactly what is listed. -/
theorem lookup_eq_some_iff_mem {κ α : Type} [DecidableEq κ] {entries : List (κ × α)}
    (h : (entries.map (·.1)).Nodup) {key : κ} {value : α} :
    entries.lookup key = some value ↔ (key, value) ∈ entries := by
  -- the key stands in the first entry, or the search goes on
  induction entries with
  | nil => simp
  | cons entry entries ih =>
    obtain ⟨first, held⟩ := entry
    rw [List.map_cons, List.nodup_cons] at h
    obtain ⟨hfirst, hrest⟩ := h
    by_cases hkey : key = first
    · subst hkey
      rw [List.lookup_cons_self, List.mem_cons]
      constructor
      · intro h
        exact Or.inl (by rw [Option.some.inj h])
      · rintro (h | h)
        · rw [(Prod.mk.inj h).2]
        · -- a second entry of the same key is excluded
          exact absurd (List.mem_map_of_mem (f := (·.1)) h) hfirst
    · rw [List.lookup_cons, beq_eq_false_iff_ne.mpr hkey, List.mem_cons]
      rw [show (key, value) = (first, held) ↔ False from
        ⟨fun h => hkey (Prod.mk.inj h).1, False.elim⟩, false_or]
      exact ih hrest

namespace Registry

theorem lookup_eq_some_iff {r : Registry} (hr : r.names.Nodup) {name : String} {id : HandleId} :
    r.lookup name = some id ↔ (name, id) ∈ r.entries :=
  lookup_eq_some_iff_mem hr

theorem length_handles (r : Registry) : r.handles.length = r.names.length := by
  rw [handles, names, List.length_map, List.length_map]

theorem lookup_eq_none_iff {r : Registry} {name : String} :
    r.lookup name = none ↔ name ∉ r.names := by
  rw [lookup, List.lookup_eq_none_iff, names]
  constructor
  · intro h hmem
    obtain ⟨entry, hentry, hname⟩ := List.mem_map.mp hmem
    exact absurd hname.symm (by simpa using h entry hentry)
  · intro h entry hentry
    have hne : name ≠ entry.1 := by
      rintro rfl
      exact h (List.mem_map_of_mem hentry)
    simpa using hne

end Registry

namespace Host

/-! ## Changing one handle -/

theorem handle_of_length_le {s : Host ι σ} {id : HandleId} (h : s.handles.length ≤ id) :
    s.handle id = Handle.create "" := by
  rw [handle, List.getD_eq_getElem?_getD, List.getElem?_eq_none h]
  rfl

theorem getElem?_handle {s : Host ι σ} {id : HandleId} (h : id < s.handles.length) :
    s.handles[id]? = some (s.handle id) := by
  rw [handle, List.getD_eq_getElem?_getD, List.getElem?_eq_getElem h]
  rfl

theorem lt_of_installed {s : Host ι σ} {id : HandleId} {i : Installed ι}
    (h : (s.handle id).installed = some i) : id < s.handles.length := by
  rcases Nat.lt_or_ge id s.handles.length with hlt | hge
  · exact hlt
  · rw [handle_of_length_le hge] at h
    cases h

@[simp] theorem handles_updateHandle (s : Host ι σ) (id : HandleId) (f : Handle ι → Handle ι) :
    (s.updateHandle id f).handles = s.handles.modify id f := rfl

theorem handle_updateHandle_self {s : Host ι σ} {id : HandleId} (h : id < s.handles.length)
    (f : Handle ι → Handle ι) : (s.updateHandle id f).handle id = f (s.handle id) := by
  have hget : (s.updateHandle id f).handles[id]? = some (f (s.handle id)) := by
    rw [handles_updateHandle, List.getElem?_modify_eq, getElem?_handle h]
    rfl
  rw [handle, List.getD_eq_getElem?_getD, hget]
  rfl

theorem handle_updateHandle_of_ne (s : Host ι σ) {id other : HandleId} (h : other ≠ id)
    (f : Handle ι → Handle ι) : (s.updateHandle id f).handle other = s.handle other := by
  rw [handle, handle, List.getD_eq_getElem?_getD, List.getD_eq_getElem?_getD, handles_updateHandle,
    List.getElem?_modify_ne _ _ (Ne.symm h)]

@[simp] theorem length_updateHandle (s : Host ι σ) (id : HandleId) (f : Handle ι → Handle ι) :
    (s.updateHandle id f).handles.length = s.handles.length :=
  List.length_modify ..

@[simp] theorem updateHandle_updateHandle (s : Host ι σ) (id : HandleId)
    (f g : Handle ι → Handle ι) :
    (s.updateHandle id f).updateHandle id g = s.updateHandle id (g ∘ f) := by
  rw [updateHandle, updateHandle, updateHandle]
  simp only [List.modify_modify_eq]

theorem updateHandle_congr {s : Host ι σ} {id : HandleId} {f g : Handle ι → Handle ι}
    (h : f (s.handle id) = g (s.handle id)) : s.updateHandle id f = s.updateHandle id g := by
  have hmodify : s.handles.modify id f = s.handles.modify id g := by
    -- places other than that of the handle stay, and there the two changes agree
    apply List.ext_getElem?
    intro n
    by_cases hn : id = n
    · subst hn
      rw [List.getElem?_modify_eq, List.getElem?_modify_eq]
      rcases Nat.lt_or_ge id s.handles.length with hlt | hge
      · rw [getElem?_handle hlt, Option.map_eq_map, Option.map_some, h]
        rfl
      · rw [List.getElem?_eq_none hge]
        rfl
    · rw [List.getElem?_modify_ne _ _ hn, List.getElem?_modify_ne _ _ hn]
  rw [updateHandle, updateHandle, hmodify]

/-- A change that a handle does not feel leaves the host alone. -/
theorem updateHandle_eq_self {s : Host ι σ} {id : HandleId} {f : Handle ι → Handle ι}
    (h : f (s.handle id) = s.handle id) : s.updateHandle id f = s := by
  have hsame : s.handles.modify id (fun h => h) = s.handles := List.modify_id ..
  rw [updateHandle_congr (g := fun h => h) h, updateHandle, hsame]

theorem apply_handle_updateHandle {α : Type} (view : Handle ι → α) {s : Host ι σ} {id : HandleId}
    {f : Handle ι → Handle ι} (h : view (f (s.handle id)) = view (s.handle id))
    (other : HandleId) : view ((s.updateHandle id f).handle other) = view (s.handle other) := by
  by_cases hid : other = id
  · subst hid
    by_cases hlt : other < s.handles.length
    · rw [handle_updateHandle_self hlt, h]
    · rw [handle_of_length_le (by simpa using hlt), handle_of_length_le (by simpa using hlt)]
  · rw [handle_updateHandle_of_ne s hid]

/-! ## Creating a handle -/

theorem handle_createHandle_of_lt {s : Host ι σ} {r : RegistryId} {name : String} {id : HandleId}
    (h : id < s.handles.length) : (s.createHandle r name).handle id = s.handle id := by
  exact List.getD_append _ _ _ _ h

theorem handle_createHandle_self (s : Host ι σ) (r : RegistryId) (name : String) :
    (s.createHandle r name).handle s.handles.length = Handle.create name := by
  show (s.handles ++ [Handle.create name]).getD s.handles.length _ = _
  rw [List.getD_append_right _ _ _ _ (Nat.le_refl _), Nat.sub_self]
  rfl

@[simp] theorem length_createHandle (s : Host ι σ) (r : RegistryId) (name : String) :
    (s.createHandle r name).handles.length = s.handles.length + 1 := by
  simp [createHandle]

theorem registry_createHandle_self {s : Host ι σ} {r : RegistryId} (hr : r < s.registries.length)
    (name : String) :
    (s.createHandle r name).registry r = (s.registry r).push name s.handles.length := by
  show (s.registries.modify r (·.push name s.handles.length)).getD r _ = _
  rw [List.getD_eq_getElem?_getD, List.getElem?_modify_eq, List.getElem?_eq_getElem hr, registry,
    List.getD_eq_getElem?_getD, List.getElem?_eq_getElem hr]
  rfl

theorem registry_createHandle_of_ne (s : Host ι σ) {r other : RegistryId} (h : other ≠ r)
    (name : String) : (s.createHandle r name).registry other = s.registry other := by
  show (s.registries.modify r (·.push name s.handles.length)).getD other _ = _
  rw [List.getD_eq_getElem?_getD, List.getElem?_modify_ne _ _ (Ne.symm h), registry,
    List.getD_eq_getElem?_getD]

theorem registry_createHandle_cases (s : Host ι σ) (r : RegistryId) (name : String) (other : RegistryId) :
    (s.createHandle r name).registry other = s.registry other ∨
      (other = r ∧ (s.createHandle r name).registry other =
        (s.registry r).push name s.handles.length) := by
  by_cases hother : other = r
  · subst hother
    rcases Nat.lt_or_ge other s.registries.length with hlt | hge
    · exact Or.inr ⟨rfl, registry_createHandle_self hlt name⟩
    · left
      rw [registry, registry, List.getD_eq_getElem?_getD, List.getD_eq_getElem?_getD,
        List.getElem?_eq_none hge, List.getElem?_eq_none (by simpa [Host.createHandle] using hge)]
  · exact Or.inl (registry_createHandle_of_ne s hother name)

theorem mem_handles_createHandle {s : Host ι σ} {r other : RegistryId} {name : String} {id : HandleId}
    (hid : id ∈ ((s.createHandle r name).registry other).handles) :
    id ∈ (s.registry other).handles ∨ id = s.handles.length := by
  rcases s.registry_createHandle_cases r name other with h | ⟨rfl, h⟩
  · rw [h] at hid
    exact Or.inl hid
  · rw [h, Registry.handles_push, List.mem_append, List.mem_singleton] at hid
    exact hid

theorem apply_handle_createHandle {α : Type} (view : Handle ι → α)
    (hview : ∀ name, view (Handle.create name) = view (Handle.create "")) (s : Host ι σ) (r : RegistryId)
    (name : String) (id : HandleId) : view ((s.createHandle r name).handle id) = view (s.handle id) := by
  obtain hlt | heq | hgt := Nat.lt_trichotomy id s.handles.length
  · rw [handle_createHandle_of_lt hlt]
  · rw [heq, handle_createHandle_self, handle_of_length_le (Nat.le_refl _), hview]
  · rw [handle_of_length_le (by rw [length_createHandle]; omega), handle_of_length_le (by omega)]

theorem registry_concat_empty (s : Host ι σ) (r : RegistryId) :
    (s.registries ++ [Registry.empty]).getD r Registry.empty = s.registry r := by
  rw [registry, List.getD_eq_getElem?_getD, List.getD_eq_getElem?_getD]
  obtain hlt | heq | hgt := Nat.lt_trichotomy r s.registries.length
  · rw [List.getElem?_append_left hlt]
  · rw [heq, List.getElem?_concat_length, List.getElem?_eq_none (Nat.le_refl _)]
    rfl
  · rw [List.getElem?_eq_none (by simp; omega), List.getElem?_eq_none (by omega)]

/-! ## Sound hosts -/

/-- What every operation on a host keeps: registries list handles that exist, under the handles' own
names and no name twice; no reload lock is held between operations; and the parameters that a
handle captured carry the handle's name. -/
structure Sound (s : Host ι σ) : Prop where
  entry : ∀ r name id, (name, id) ∈ (s.registry r).entries →
    id < s.handles.length ∧ (s.handle id).name = name
  names_nodup : ∀ r, (s.registry r).names.Nodup
  idle : ∀ id, (s.handle id).reloading = false
  params_name : ∀ id i, (s.handle id).installed = some i → i.params.name = (s.handle id).name

theorem Sound.congr {s s' : Host ι σ} (hs : s.Sound) (hh : s'.handles = s.handles)
    (hr : s'.registries = s.registries) : s'.Sound := by
  obtain ⟨handles, registries, coordinators, log, library⟩ := s
  obtain ⟨handles', registries', coordinators', log', library'⟩ := s'
  subst hh
  subst hr
  exact ⟨hs.entry, hs.names_nodup, hs.idle, hs.params_name⟩

theorem Sound.find? {s : Host ι σ} (hs : s.Sound) {r : RegistryId} {name : String} {id : HandleId}
    (h : s.find? r name = some id) : id < s.handles.length ∧ (s.handle id).name = name :=
  hs.entry r name id ((Registry.lookup_eq_some_iff (hs.names_nodup r)).mp h)

theorem Sound.handles_nodup {s : Host ι σ} (hs : s.Sound) (r : RegistryId) :
    (s.registry r).handles.Nodup := by
  have hnames := hs.names_nodup r
  have hentry := hs.entry r
  rw [Registry.handles, List.nodup_iff_pairwise_ne, List.pairwise_map]
  rw [Registry.names, List.nodup_iff_pairwise_ne, List.pairwise_map] at hnames
  apply hnames.imp_of_mem
  intro left right hleft hright hne heq
  apply hne
  rw [← (hentry left.1 left.2 hleft).2, ← (hentry right.1 right.2 hright).2, heq]

theorem Sound.map_handle_name {s : Host ι σ} (hs : s.Sound) (r : RegistryId) :
    (s.registry r).handles.map (fun id => (s.handle id).name) = (s.registry r).names := by
  rw [Registry.handles, Registry.names, List.map_map]
  apply List.map_congr_left
  intro entry hentry
  exact (hs.entry r entry.1 entry.2 hentry).2

theorem Sound.updateHandle {s : Host ι σ} (hs : s.Sound) {id : HandleId} {f : Handle ι → Handle ι}
    (hname : (f (s.handle id)).name = (s.handle id).name)
    (hidle : (f (s.handle id)).reloading = (s.handle id).reloading)
    (hparams : ∀ i, (f (s.handle id)).installed = some i → i.params.name = (s.handle id).name) :
    (s.updateHandle id f).Sound := by
  have hnames : ∀ other, ((s.updateHandle id f).handle other).name = (s.handle other).name :=
    fun other => apply_handle_updateHandle Handle.name hname other
  -- names stay, so the listing stays, and parameters can only be wrong on the handle itself
  refine ⟨?_, hs.names_nodup, ?_, ?_⟩
  · intro r name other hmem
    rw [length_updateHandle, hnames]
    exact hs.entry r name other hmem
  · intro other
    rw [apply_handle_updateHandle Handle.reloading hidle other]
    exact hs.idle other
  · intro other i hi
    rw [hnames]
    by_cases hother : other = id
    · subst hother
      rw [handle_updateHandle_self (by simpa using lt_of_installed hi)] at hi
      exact hparams i hi
    · rw [handle_updateHandle_of_ne s hother] at hi
      exact hs.params_name other i hi

theorem Sound.createHandle {s : Host ι σ} (hs : s.Sound) {r : RegistryId} {name : String}
    (hnew : s.find? r name = none) : (s.createHandle r name).Sound := by
  have hold : ∀ {id}, id < s.handles.length → (s.createHandle r name).handle id = s.handle id :=
    fun h => handle_createHandle_of_lt h
  -- a place is an old one, the new one, or one that was never given out
  have hplace : ∀ id, (s.createHandle r name).handle id = s.handle id ∨
      (s.createHandle r name).handle id = Handle.create name := by
    intro id
    rcases Nat.lt_trichotomy id s.handles.length with hlt | heq | hgt
    · exact Or.inl (hold hlt)
    · rw [heq]
      exact Or.inr (handle_createHandle_self s r name)
    · left
      rw [handle_of_length_le (by rw [length_createHandle]; exact hgt),
        handle_of_length_le (Nat.le_of_lt hgt)]
  refine ⟨?_, ?_, ?_, ?_⟩
  · intro other key id hmem
    rcases s.registry_createHandle_cases r name other with h | ⟨rfl, h⟩
    · rw [h] at hmem
      obtain ⟨hlt, hkey⟩ := hs.entry other key id hmem
      rw [length_createHandle, hold hlt]
      exact ⟨Nat.lt_succ_of_lt hlt, hkey⟩
    · rw [h, Registry.push, List.mem_append, List.mem_singleton] at hmem
      rcases hmem with hmem | hmem
      · obtain ⟨hlt, hkey⟩ := hs.entry other key id hmem
        rw [length_createHandle, hold hlt]
        exact ⟨Nat.lt_succ_of_lt hlt, hkey⟩
      · obtain ⟨rfl, rfl⟩ := Prod.mk.inj hmem
        rw [length_createHandle, handle_createHandle_self]
        exact ⟨Nat.lt_succ_self _, rfl⟩
  · intro other
    rcases s.registry_createHandle_cases r name other with h | ⟨rfl, h⟩
    · rw [h]
      exact hs.names_nodup other
    · rw [h, Registry.names_push, List.nodup_append]
      refine ⟨hs.names_nodup other, by simp, ?_⟩
      intro a ha b hb hab
      rw [List.mem_singleton] at hb
      subst hb
      subst hab
      exact Registry.lookup_eq_none_iff.mp hnew ha
  · intro id
    rcases hplace id with h | h
    · rw [h]
      exact hs.idle id
    · rw [h]
      rfl
  · intro id i hi
    rcases hplace id with h | h
    · rw [h] at hi ⊢
      exact hs.params_name id i hi
    · rw [h] at hi
      cases hi

/-! ## Registering -/

/-- The host on which a handle has taken its first instance. -/
def enroll (s : Host ι σ) (id : HandleId) (first : ι) (params : Params) : Host ι σ :=
  (s.updateHandle id fun h => { h with installed := some ⟨params, first⟩ }).addNotice
    (.registered (s.handle id).name params.isDetailed)

@[simp] theorem length_enroll (s : Host ι σ) (id : HandleId) (first : ι) (params : Params) :
    (s.enroll id first params).handles.length = s.handles.length :=
  length_updateHandle ..

theorem registerOn_eq_ok_iff {s s' : Host ι σ} {id : HandleId} {first : ι} {params : Params} :
    s.registerOn id first params = .ok s' ↔
      params.name = (s.handle id).name ∧ (s.handle id).installed = none ∧
        s' = s.enroll id first params := by
  -- the handle is replaced by what came of registering it
  have henroll : s.enroll id first params = { s with
      handles := s.handles.set id { s.handle id with installed := some ⟨params, first⟩ }
      log := s.log ++ [.registered (s.handle id).name params.isDetailed] } := by
    rw [List.set_eq_modify, ← handles_updateHandle, updateHandle_congr (g := fun h =>
      { h with installed := some ⟨params, first⟩ }) rfl]
    rfl
  rw [registerOn, henroll]
  constructor
  · intro h
    cases hregister : (s.handle id).register first params with
    | error e =>
      rw [hregister] at h
      cases h
    | ok registered =>
      obtain ⟨hname, hnone, rfl⟩ := Handle.register_eq_ok_iff.mp hregister
      rw [hregister] at h
      cases h
      exact ⟨hname, hnone, rfl⟩
  · rintro ⟨hname, hnone, rfl⟩
    rw [Handle.register_eq_ok_iff.mpr ⟨hname, hnone, rfl⟩]

theorem Sound.enroll {s : Host ι σ} (hs : s.Sound) {id : HandleId} {params : Params}
    (hname : params.name = (s.handle id).name) (first : ι) : (s.enroll id first params).Sound := by
  refine Sound.congr (s := s.updateHandle id _) (hs.updateHandle rfl rfl ?_) rfl rfl
  intro i hi
  cases hi
  exact hname

end Host

end LiveSwap
