import LiveSwap.Pool.Bootstrap
import LiveSwap.Proofs.Cycle
import Mathlib.Data.List.Induction

/-!
# Rebuilding a pool

The registry of the pool library holds the keys of pools that were built through a configuration. A
legacy rebuild first gives up the key of the pool it replaces, which it finds by the serial of that
pool; a modern rebuild leaves the registry alone. `Tenure` tells how a key stands between two
rebuilds.

* **`Tenure.after_eq_stale_iff`** — a key comes to be held by a pool that is no longer installed
  through a legacy rebuild and a modern one after it, and it stays so.
* **`Library.rebuild_of_stale`**, **`Library.rebuild_of_not_stale`** — a rebuild goes wrong in one
  case only: a legacy rebuild whose key is held so.
* **`conduct_rebuild`** — the standard strategies do just this to the library.
-/

namespace LiveSwap.Pool

/-! ## Keys and their tenure -/

/-- The URL that parameters carry, in a descriptor or among the properties. -/
def urlOf (params : Params) : Except LibraryError String :=
  match params.descriptor with
  | some descriptor => unitUrl descriptor
  | none => propertyUrl params.properties

/-- The key that a resource is rebuilt under: the URL in its descriptor, or else its name. -/
def keyOf (params : Params) : String :=
  match params.descriptor with
  | some descriptor => (unitUrl descriptor).toOption.getD ""
  | none => params.name

theorem urlOf_cases {params : Params} {url : String} (h : urlOf params = .ok url) :
    (params.descriptor = none ∧ propertyUrl params.properties = .ok url ∧
      keyOf params = params.name) ∨
    (∃ descriptor, params.descriptor = some descriptor ∧ unitUrl descriptor = .ok url ∧
      keyOf params = url) := by
  rw [urlOf] at h
  rw [keyOf]
  -- the key is the URL of the descriptor if there is one
  cases hdescriptor : params.descriptor with
  | none =>
    rw [hdescriptor] at h
    exact Or.inl ⟨rfl, h, rfl⟩
  | some descriptor =>
    rw [hdescriptor] at h
    replace h : unitUrl descriptor = .ok url := h
    refine Or.inr ⟨descriptor, rfl, h, ?_⟩
    show (unitUrl descriptor).toOption.getD "" = url
    rw [h]
    rfl

/-- How a key stands in the library's registry, as seen from the pool that is installed under it. -/
inductive Tenure where
  /-- Nobody holds the key. -/
  | free
  /-- The installed pool holds it. -/
  | held
  /-- A pool that is no longer installed holds it. -/
  | stale
  deriving DecidableEq, Repr

namespace Tenure

/-- How the key stands after a rebuild. -/
def next : Tenure → Capability → Tenure
  | .free, .legacy => .held
  | .held, .modern => .stale
  | tenure, _ => tenure

/-- How the key of a pool stands after rebuilds, starting with a pool that was just opened. -/
def after (cycles : List Capability) : Tenure := cycles.foldl next .free

theorem after_snoc (cycles : List Capability) (capability : Capability) :
    after (cycles ++ [capability]) = (after cycles).next capability := by
  rw [after, List.foldl_append]
  rfl

/-- A key is free as long as there was no legacy rebuild. -/
theorem after_eq_free_iff (cycles : List Capability) :
    after cycles = .free ↔ .legacy ∉ cycles := by
  induction cycles using List.reverseRecOn with
  | nil => simp [after]
  | append_singleton cycles capability ih =>
    rw [after_snoc, List.mem_append, List.mem_singleton, not_or, ← ih]
    cases after cycles <;> cases capability <;> simp [next]

theorem pair_sublist_snoc {α : Type} {first second last : α} {cycles : List α} :
    [first, second].Sublist (cycles ++ [last]) ↔
      [first, second].Sublist cycles ∨ (first ∈ cycles ∧ last = second) := by
  constructor
  · intro h
    -- at most one of the two can be the last entry
    obtain ⟨front, back, hsplit, hfront, hback⟩ := List.sublist_append_iff.mp h
    match front, back, hsplit with
    | [_, _], [], rfl => exact Or.inl hfront
    | [_], [_], rfl =>
      have hlast := List.mem_singleton.mp (List.singleton_sublist.mp hback)
      exact Or.inr ⟨List.singleton_sublist.mp hfront, hlast.symm⟩
    | [], [_, _], rfl => exact absurd hback.length_le (by simp)
  · rintro (h | ⟨h, rfl⟩)
    · exact h.trans (List.sublist_append_left ..)
    · exact (List.singleton_sublist.mpr h).append (List.Sublist.refl [last])

/-- A key is stale once a modern rebuild came after a legacy one. -/
theorem after_eq_stale_iff (cycles : List Capability) :
    after cycles = .stale ↔ [.legacy, .modern].Sublist cycles := by
  induction cycles using List.reverseRecOn with
  | nil => simp [after]
  | append_singleton cycles capability ih =>
    have hfree := after_eq_free_iff cycles
    rw [after_snoc, pair_sublist_snoc, ← ih]
    -- only a held key becomes stale, and it was held because of a legacy rebuild
    cases h : after cycles <;> cases capability <;> simp_all [next]

end Tenure

/-! ## The registry of the library -/

namespace Library

/-- The serial of the pool that holds a key. -/
def holder? (l : Library) (key : String) : Option Nat := l.registered.lookup key

/-- How a key stands, as seen from the pool of a serial. -/
def tenure (l : Library) (key : String) (serial : Nat) : Tenure :=
  match l.holder? key with
  | none => .free
  | some holder => if holder = serial then .held else .stale

theorem tenure_cases (l : Library) (key : String) (serial : Nat) :
    (l.holder? key = none ∧ l.tenure key serial = .free) ∨
    (l.holder? key = some serial ∧ l.tenure key serial = .held) ∨
    (∃ holder, l.holder? key = some holder ∧ holder ≠ serial ∧ l.tenure key serial = .stale) := by
  rw [tenure]
  cases l.holder? key with
  | none => exact Or.inl ⟨rfl, rfl⟩
  | some holder =>
    by_cases h : holder = serial
    · exact Or.inr (Or.inl ⟨by rw [h], if_pos h⟩)
    · exact Or.inr (Or.inr ⟨holder, rfl, h, if_neg h⟩)

/-- No key is registered twice, and only for pools that were built. -/
structure Sound (l : Library) : Prop where
  keys_nodup : (l.registered.map (·.1)).Nodup
  holder_lt : ∀ key serial, l.holder? key = some serial → serial < l.nextSerial

/-- The library after a serial was used up. -/
def advance (l : Library) : Library := { l with nextSerial := l.nextSerial + 1 }

variable {l : Library}

theorem Sound.start (version : String) : (Library.start version).Sound :=
  ⟨List.nodup_nil, nofun⟩

theorem Sound.advance (hl : l.Sound) : l.advance.Sound :=
  ⟨hl.keys_nodup, fun key serial h => Nat.lt_succ_of_lt (hl.holder_lt key serial h)⟩

theorem Sound.setVersion (hl : l.Sound) (version : String) : (l.setVersion version).Sound :=
  ⟨hl.keys_nodup, hl.holder_lt⟩

theorem Sound.holder?_deregister (hl : l.Sound) (pool : Pool) (key : String) :
    (l.deregister pool).holder? key = (l.holder? key).filter (· ≠ pool.serial) := by
  have hnodup : ((l.deregister pool).registered.map (·.1)).Nodup :=
    (List.filter_sublist.map _).nodup hl.keys_nodup
  apply Option.ext
  intro serial
  rw [Option.filter_eq_some_iff, holder?, holder?, lookup_eq_some_iff_mem hnodup,
    lookup_eq_some_iff_mem hl.keys_nodup, deregister, List.mem_filter]

theorem Sound.deregister (hl : l.Sound) (pool : Pool) : (l.deregister pool).Sound := by
  refine ⟨(List.filter_sublist.map _).nodup hl.keys_nodup, fun key serial h => ?_⟩
  rw [hl.holder?_deregister, Option.filter_eq_some_iff] at h
  exact hl.holder_lt key serial h.1

/-- Only a pool that is not the one given up keeps the key from being free. -/
theorem Sound.holder?_deregister_self (hl : l.Sound) (pool : Pool) (key : String) :
    (l.deregister pool).holder? key =
      if l.tenure key pool.serial = .stale then l.holder? key else none := by
  rw [hl.holder?_deregister]
  rcases l.tenure_cases key pool.serial with
    ⟨hkey, htenure⟩ | ⟨hkey, htenure⟩ | ⟨holder, hkey, hother, htenure⟩
  · rw [hkey, htenure]
    rfl
  · rw [hkey, htenure, Option.filter_some_neg (by simp)]
    rfl
  · rw [hkey, htenure, Option.filter_some_pos (by simpa using hother)]
    rfl

/-! ## Building -/

/-- The pool that is built next. -/
def fresh (l : Library) (url : String) (ps : Properties) (builtBy : Capability) : Pool :=
  ⟨url, l.nextSerial, builtBy, maxOf ps⟩

/-- The library after it registered the pool it just built. -/
def enroll (l : Library) (key : String) : Library :=
  { l.advance with registered := l.registered ++ [(key, l.nextSerial)] }

theorem any_registered (l : Library) (key : String) :
    (l.registered.any fun entry => entry.1 = key) = (l.holder? key).isSome := by
  rw [Bool.eq_iff_iff, List.any_eq_true, holder?, List.lookup_isSome_iff]
  constructor
  · rintro ⟨entry, hentry, hkey⟩
    exact ⟨entry, hentry, by simpa using (of_decide_eq_true hkey).symm⟩
  · rintro ⟨entry, hentry, hkey⟩
    exact ⟨entry, hentry, by simpa using (eq_of_beq hkey).symm⟩

theorem build_of_mem {key : String} (h : key ∈ l.failing) (url : String) (ps : Properties)
    (builtBy : Capability) : l.build key url ps builtBy =
      (.error (.unreachable url), { l with failing := l.failing.erase key }) := by
  rw [build, if_pos h]

theorem build_of_notMem {key : String} (h : key ∉ l.failing) (url : String) (ps : Properties)
    (builtBy : Capability) : l.build key url ps builtBy =
      match builtBy, l.holder? key with
      | .modern, _ => (.ok (l.fresh url ps .modern), l.advance)
      | .legacy, some _ => (.error (.keyTaken key), l.advance)
      | .legacy, none => (.ok (l.fresh url ps .legacy), l.enroll key) := by
  rw [build, if_neg h]
  cases builtBy with
  | modern => rfl
  | legacy =>
    show (if (l.registered.any fun entry => entry.1 = key) = true then _ else _) = _
    rw [any_registered]
    cases l.holder? key with
    | none => rfl
    | some holder => rfl

/-- **What a build comes to** where no failure was asked for: only a key that is held stands in the
way, and only of a build through a configuration. -/
theorem build_eq (hf : l.failing = []) (key url : String) (ps : Properties) (builtBy : Capability) :
    l.build key url ps builtBy =
      match builtBy, l.holder? key with
      | .modern, _ => (.ok (l.fresh url ps .modern), l.advance)
      | .legacy, some _ => (.error (.keyTaken key), l.advance)
      | .legacy, none => (.ok (l.fresh url ps .legacy), l.enroll key) :=
  build_of_notMem (by rw [hf]; exact List.not_mem_nil) url ps builtBy

theorem holder?_advance (l : Library) (key : String) : l.advance.holder? key = l.holder? key := rfl

theorem holder?_enroll (l : Library) (key other : String) : (l.enroll key).holder? other =
    (l.holder? other).or (if other = key then some l.nextSerial else none) := by
  rw [holder?, enroll, List.lookup_append, holder?]
  by_cases h : other = key
  · rw [h, List.lookup_cons_self, if_pos rfl]
  · rw [List.lookup_cons, beq_eq_false_iff_ne.mpr h, if_neg h]
    rfl

theorem Sound.enroll (hl : l.Sound) {key : String} (hfree : l.holder? key = none) :
    (l.enroll key).Sound := by
  refine ⟨?_, fun other serial h => ?_⟩
  · show ((l.registered ++ [(key, l.nextSerial)]).map (·.1)).Nodup
    rw [List.map_append, List.nodup_append]
    refine ⟨hl.keys_nodup, by simp, ?_⟩
    -- a key that was held already is excluded, because this one was free
    intro held hheld last hlast heq
    obtain ⟨entry, hentry, rfl⟩ := List.mem_map.mp hheld
    have hholder := (lookup_eq_some_iff_mem hl.keys_nodup).mpr hentry
    rw [heq, List.mem_singleton.mp hlast] at hholder
    exact absurd (hfree.symm.trans hholder) nofun
  · rw [holder?_enroll, Option.or_eq_some_iff] at h
    rcases h with h | ⟨_, h⟩
    · exact Nat.lt_succ_of_lt (hl.holder_lt other serial h)
    · rw [Option.ite_none_right_eq_some, Option.some.injEq] at h
      exact h.2 ▸ Nat.lt_succ_self _

/-! ## Rebuilding -/

/-- What a rebuild does to the library: a legacy one has the pool it replaces give up its key, and
builds through a configuration. -/
def rebuild (l : Library) (capability : Capability) (key url : String) (ps : Properties)
    (current : Pool) : Except LibraryError Pool × Library :=
  match capability with
  | .modern => l.build key url ps .modern
  | .legacy => (l.deregister current).build key url ps .legacy

/-- The library by the time a rebuild builds. -/
def tidied (l : Library) (capability : Capability) (current : Pool) : Library :=
  match capability with
  | .modern => l
  | .legacy => l.deregister current

theorem rebuild_eq_build (l : Library) (capability : Capability) (key url : String) (ps : Properties)
    (current : Pool) : l.rebuild capability key url ps current =
      (l.tidied capability current).build key url ps capability := by
  cases capability <;> rfl

/-- **What a rebuild comes to.** It goes wrong in one case only: a legacy rebuild whose key is held
by a pool that is not the one it replaces. -/
theorem rebuild_eq (hl : l.Sound) (hf : l.failing = []) (capability : Capability)
    (key url : String) (ps : Properties) (current : Pool) :
    l.rebuild capability key url ps current =
      match capability with
      | .modern => (.ok (l.fresh url ps .modern), l.advance)
      | .legacy =>
        if l.tenure key current.serial = .stale then
          (.error (.keyTaken key), (l.deregister current).advance)
        else (.ok (l.fresh url ps .legacy), (l.deregister current).enroll key) := by
  cases capability with
  | modern => exact build_eq hf key url ps .modern
  | legacy =>
    -- deregistering frees the key only if the pool holds it
    rw [rebuild, build_eq (l := l.deregister current) hf, hl.holder?_deregister_self]
    rcases l.tenure_cases key current.serial with
      ⟨_, htenure⟩ | ⟨_, htenure⟩ | ⟨holder, hkey, _, htenure⟩
    · rw [htenure]
      rfl
    · rw [htenure]
      rfl
    · rw [hkey, htenure]
      rfl

/-- What a rebuild under a key leaves of the library: every other key is held as before. -/
structure Rebuilt (l l' : Library) (key : String) : Prop where
  sound : l'.Sound
  version : l'.version = l.version
  failing : l'.failing = l.failing
  nextSerial : l'.nextSerial = l.nextSerial + 1
  holder? : ∀ other, l'.holder? other = l.holder? other ∨
    (other = key ∧ l'.holder? other = some l.nextSerial)

/-- **A rebuild stays under its key**, as long as the pool it replaces holds no other one. -/
theorem rebuild_rebuilt (hl : l.Sound) (hf : l.failing = []) (capability : Capability)
    {key : String} (url : String) (ps : Properties) {current : Pool}
    (hown : ∀ other, l.holder? other = some current.serial → other = key) :
    l.Rebuilt (l.rebuild capability key url ps current).2 key := by
  rw [rebuild_eq hl hf]
  cases capability with
  | modern => exact ⟨hl.advance, rfl, rfl, rfl, fun other => Or.inl rfl⟩
  | legacy =>
    have hd := hl.deregister current
    -- the pool that is given up stands under no key but its own
    have hdropped : ∀ other ≠ key, (l.deregister current).holder? other = l.holder? other := by
      intro other hother
      rw [hl.holder?_deregister]
      cases hholder : l.holder? other with
      | none => rfl
      | some holder =>
        apply Option.filter_some_pos
        rw [decide_eq_true_eq]
        rintro rfl
        exact hother (hown other hholder)
    have hself := hl.holder?_deregister_self current key
    by_cases hstale : l.tenure key current.serial = .stale
    · -- the other holder keeps the key
      rw [if_pos hstale] at hself
      simp only [if_pos hstale]
      refine ⟨hd.advance, rfl, rfl, rfl, fun other => Or.inl ?_⟩
      by_cases hother : other = key
      · rw [hother, holder?_advance, hself]
      · exact hdropped other hother
    · -- the key is free now, and the fresh pool takes it
      rw [if_neg hstale] at hself
      simp only [if_neg hstale]
      refine ⟨hd.enroll hself, rfl, rfl, rfl, fun other => ?_⟩
      rw [holder?_enroll]
      by_cases hother : other = key
      · rw [hother, hself, if_pos rfl]
        exact Or.inr ⟨rfl, rfl⟩
      · rw [if_neg hother, Option.or_none, hdropped other hother]
        exact Or.inl rfl

/-- Where a rebuild goes wrong, the key stands as before. -/
theorem rebuild_of_stale (hl : l.Sound) (hf : l.failing = []) {key : String} {current : Pool}
    (hstale : l.tenure key current.serial = .stale) (url : String) (ps : Properties) :
    (l.rebuild .legacy key url ps current).1 = .error (.keyTaken key) ∧
      (l.rebuild .legacy key url ps current).2.tenure key current.serial = .stale := by
  have hself := hl.holder?_deregister_self current key
  rw [if_pos hstale] at hself
  rw [rebuild_eq hl hf]
  simp only [if_pos hstale]
  refine ⟨trivial, ?_⟩
  rw [tenure, holder?_advance, hself]
  exact hstale

/-- Everywhere else it gives the next pool, and the key moves on. -/
theorem rebuild_of_not_stale (hl : l.Sound) (hf : l.failing = []) {capability : Capability}
    {key : String} {current : Pool}
    (h : ¬ (capability = .legacy ∧ l.tenure key current.serial = .stale)) (url : String)
    (ps : Properties) :
    (l.rebuild capability key url ps current).1 = .ok (l.fresh url ps capability) ∧
      (l.rebuild capability key url ps current).2.tenure key l.nextSerial =
        (l.tenure key current.serial).next capability := by
  rw [rebuild_eq hl hf]
  cases capability with
  | modern =>
    refine ⟨rfl, ?_⟩
    show l.advance.tenure key l.nextSerial = _
    -- nobody holds a key under the serial that is given out now
    rcases l.tenure_cases key current.serial with
      ⟨hkey, htenure⟩ | ⟨hkey, htenure⟩ | ⟨holder, hkey, _, htenure⟩
    · rw [htenure, tenure, holder?_advance, hkey]
      rfl
    · rw [htenure, tenure, holder?_advance, hkey]
      exact if_neg (Nat.ne_of_lt (hl.holder_lt _ _ hkey))
    · rw [htenure, tenure, holder?_advance, hkey]
      exact if_neg (Nat.ne_of_lt (hl.holder_lt _ _ hkey))
  | legacy =>
    have hstale : l.tenure key current.serial ≠ .stale := fun hstale => h ⟨rfl, hstale⟩
    have hself := hl.holder?_deregister_self current key
    rw [if_neg hstale] at hself
    simp only [if_neg hstale]
    refine ⟨trivial, ?_⟩
    have hheld : ((l.deregister current).enroll key).tenure key l.nextSerial = .held := by
      rw [tenure, holder?_enroll, hself, if_pos rfl]
      exact if_pos rfl
    rw [hheld]
    cases htenure : l.tenure key current.serial with
    | free => rfl
    | held => rfl
    | stale => exact absurd htenure hstale

theorem openPool_eq (hf : l.failing = []) {params : Params} {url : String}
    (h : urlOf params = .ok url) :
    l.openPool params = (.ok (l.fresh url params.properties .modern), l.advance) := by
  rcases urlOf_cases h with ⟨hdescriptor, hurl, _⟩ | ⟨descriptor, hdescriptor, hurl, _⟩
  · simp only [openPool, hdescriptor, hurl]
    exact build_eq hf _ url params.properties .modern
  · simp only [openPool, hdescriptor, hurl]
    exact build_eq hf _ url params.properties .modern

end Library

/-! ## The library behind the strategies -/

section Actions

variable {α : Type}

theorem runOn_onLibrary (operation : Library → α × Library) (s : PoolHost) :
    (onLibrary operation).runOn s =
      (⟨.ok (operation s.library).1, (operation s.library).2, []⟩ : Conduct Library α).onto s := by
  rw [Conduct.onto, Host.after, List.append_nil]
  rfl

theorem onLibrary_detached (operation : Library → α × Library) : (onLibrary operation).Detached :=
  .intro (fun l => ⟨.ok (operation l).1, (operation l).2, []⟩) (runOn_onLibrary operation) (by simp)

theorem deregister_detached (name : String) (pool : Pool) : (deregister name pool).Detached :=
  .bind (.log rfl) fun _ => onLibrary_detached _

theorem modernApi_detached : modernApi.Detached where
  create name ps := by
    refine .map ?_ _
    rw [create]
    cases propertyUrl ps with
    | error e => exact .pure _
    | ok url => exact onLibrary_detached _
  builder d ps := .pure _
  build b := (onLibrary_detached _).map _

theorem legacyApi_detached : legacyApi.Detached where
  deregister name pool := (deregister_detached name pool).map _
  newConfiguration := .pure _
  configureNamed c name ps := .pure _
  configureDescriptor c d ps := .pure _
  build c := by
    refine .map ?_ _
    rw [Configuration.build]
    cases c.key <;> cases c.url <;> first | exact onLibrary_detached _ | exact .pure _

theorem collaborators_detached : collaborators.Detached where
  probe := .intro (fun l => ⟨.ok l.version, l, []⟩)
    (fun s => by rw [Conduct.onto, Host.after, List.append_nil]; rfl) (by simp)
  select := StrategySet.ofApis_detached legacyApi_detached modernApi_detached

theorem conduct_probe (l : Library) : collaborators.probe.conduct l = ⟨.ok l.version, l, []⟩ := rfl

theorem settling_eq (config : HotSwapConfig) (l : Library) : ∃ notices,
    collaborators.settling config l =
      ⟨.ok (config.forced.getD (.ofReport l.version)), l, notices⟩ := by
  cases hforced : config.forced with
  | some forced => exact ⟨[], Collaborators.settling_of_forced _ hforced l⟩
  | none =>
    obtain ⟨hanswer, hlibrary⟩ := Collaborators.settling_of_ask collaborators_detached hforced l
    refine ⟨(collaborators.settling config l).notices, ?_⟩
    rw [conduct_probe] at hanswer hlibrary
    rcases hsettling : collaborators.settling config l with ⟨answer, library, notices⟩
    rw [hsettling] at hanswer hlibrary
    cases hanswer
    cases hlibrary
    rfl

theorem modernApi_construct {params : Params} {url : String} (h : urlOf params = .ok url)
    (l : Library) : ∃ notices, (modernApi.construct params).conduct l =
      ⟨.ok (spelled (l.build (keyOf params) url params.properties .modern).1),
        (l.build (keyOf params) url params.properties .modern).2, notices⟩ := by
  rcases urlOf_cases h with ⟨hdescriptor, hurl, hkey⟩ | ⟨descriptor, hdescriptor, hurl, hkey⟩
  · refine ⟨[.creatingFromName params.name], ?_⟩
    simp only [ModernApi.construct, hdescriptor, modernApi, create, hurl, hkey]
    rfl
  · refine ⟨[.buildingFromDescriptor params.name descriptor.typeName], ?_⟩
    simp only [ModernApi.construct, hdescriptor, modernApi, builder, hurl, hkey]
    rfl

theorem legacyApi_construct {params : Params} {url : String} (h : urlOf params = .ok url)
    (l : Library) : ∃ notices, (legacyApi.construct params).conduct l =
      ⟨.ok (spelled (l.build (keyOf params) url params.properties .legacy).1),
        (l.build (keyOf params) url params.properties .legacy).2, notices⟩ := by
  rcases urlOf_cases h with ⟨hdescriptor, hurl, hkey⟩ | ⟨descriptor, hdescriptor, hurl, hkey⟩
  · refine ⟨[.configuringFromName params.name], ?_⟩
    simp only [LegacyApi.construct, LegacyApi.configure, hdescriptor, legacyApi,
      Configuration.withName, hurl, hkey]
    rfl
  · refine ⟨[.configuringFromDescriptor params.name], ?_⟩
    simp only [LegacyApi.construct, LegacyApi.configure, hdescriptor, legacyApi,
      Configuration.withDescriptor, hurl, hkey]
    rfl

theorem modernApi_construct_of_error {params : Params} {e : LibraryError} (h : urlOf params = .error e)
    (l : Library) : ∃ notices,
      (modernApi.construct params).conduct l = ⟨.ok (spelled (.error e)), l, notices⟩ := by
  rw [urlOf] at h
  -- the URL is looked for where the parameters carry it, so the same error shows on both ways
  cases hdescriptor : params.descriptor with
  | none =>
    simp only [hdescriptor] at h
    refine ⟨[.creatingFromName params.name], ?_⟩
    simp only [ModernApi.construct, hdescriptor, modernApi, create, h]
    rfl
  | some descriptor =>
    simp only [hdescriptor] at h
    refine ⟨[.buildingFromDescriptor params.name descriptor.typeName], ?_⟩
    simp only [ModernApi.construct, hdescriptor, modernApi, builder, h]
    rfl

theorem legacyApi_construct_of_error {params : Params} {e : LibraryError} (h : urlOf params = .error e)
    (l : Library) : ∃ notices,
      (legacyApi.construct params).conduct l = ⟨.ok (spelled (.error e)), l, notices⟩ := by
  rw [urlOf] at h
  -- as above, but the configuration is there before the URL is looked for
  cases hdescriptor : params.descriptor with
  | none =>
    simp only [hdescriptor] at h
    refine ⟨[.configuringFromName params.name], ?_⟩
    simp only [LegacyApi.construct, LegacyApi.configure, hdescriptor, legacyApi,
      Configuration.withName, h]
    rfl
  | some descriptor =>
    simp only [hdescriptor] at h
    refine ⟨[.configuringFromDescriptor params.name], ?_⟩
    simp only [LegacyApi.construct, LegacyApi.configure, hdescriptor, legacyApi,
      Configuration.withDescriptor, h]
    rfl

theorem conduct_blame {act : PoolAct (Except Cause Pool)} (hd : act.Detached) {l l' : Library}
    {built : Except LibraryError Pool} {notices : List Notice}
    (h : act.conduct l = ⟨.ok (spelled built), l', notices⟩) (name : String)
    (capability : Capability) :
    (act >>= fun built => pure (built.mapError (RebuildError.construction name capability))).conduct
        l =
      ⟨.ok (built.mapError fun e => RebuildError.construction name capability e.message), l',
        notices ++ []⟩ := by
  rw [Act.conduct_bind hd fun _ => .pure _, h]
  cases built with
  | error e => rfl
  | ok pool => rfl

theorem conduct_modern_rebuild {params : Params} {l l' : Library} {built : Except LibraryError Pool}
    {notices : List Notice}
    (h : (modernApi.construct params).conduct l = ⟨.ok (spelled built), l', notices⟩) (current : Pool) :
    ∃ notices, ((collaborators.strategies.select .modern).rebuild params current).conduct l =
      ⟨.ok (built.mapError fun e => .construction params.name .modern e.message), l', notices⟩ := by
  refine ⟨notices ++ [], ?_⟩
  show ((Strategy.modern modernApi).rebuild params current).conduct l = _
  rw [Strategy.modern_rebuild]
  exact conduct_blame (modernApi_detached.construct params) h params.name .modern

theorem conduct_legacy_rebuild {params : Params} {current : Pool} {l l' : Library}
    {built : Except LibraryError Pool} {notices : List Notice}
    (h : (legacyApi.construct params).conduct (l.deregister current) = ⟨.ok (spelled built), l', notices⟩) :
    ∃ notices, ((collaborators.strategies.select .legacy).rebuild params current).conduct l =
      ⟨.ok (built.mapError fun e => .construction params.name .legacy e.message), l', notices⟩ := by
  have hd := legacyApi_detached.construct params
  obtain ⟨written, htidy⟩ : ∃ written, (legacyApi.tidy params.name current).conduct l =
      ⟨.ok (), l.deregister current, written⟩ := ⟨_, rfl⟩
  refine ⟨written ++ (notices ++ []), ?_⟩
  show ((Strategy.legacy legacyApi).rebuild params current).conduct l = _
  rw [Strategy.legacy_rebuild, Act.conduct_bind (legacyApi_detached.tidy _ _) fun _ =>
    hd.bind fun _ => .pure _, htidy, Conduct.andThen]
  simp only [conduct_blame hd h params.name .legacy]

/-- **The strategies rebuild a pool** as the library does, and put an error under the name of the
resource. -/
theorem conduct_rebuild {params : Params} {url : String} (h : urlOf params = .ok url)
    (capability : Capability) (current : Pool) (l : Library) : ∃ notices,
      ((collaborators.strategies.select capability).rebuild params current).conduct l =
        ⟨.ok ((l.rebuild capability (keyOf params) url params.properties current).1.mapError fun e =>
            .construction params.name capability e.message),
          (l.rebuild capability (keyOf params) url params.properties current).2, notices⟩ := by
  cases capability with
  | modern =>
    obtain ⟨notices, hconstruct⟩ := modernApi_construct h l
    exact conduct_modern_rebuild hconstruct current
  | legacy =>
    obtain ⟨notices, hconstruct⟩ := legacyApi_construct h (l.deregister current)
    exact conduct_legacy_rebuild hconstruct

/-- Parameters without a URL are refused; a legacy rebuild has given up the current pool by then. -/
theorem conduct_rebuild_of_error {params : Params} {e : LibraryError} (h : urlOf params = .error e)
    (capability : Capability) (current : Pool) (l : Library) : ∃ notices,
      ((collaborators.strategies.select capability).rebuild params current).conduct l =
        ⟨.ok (.error (.construction params.name capability e.message)), l.tidied capability current,
          notices⟩ := by
  cases capability with
  | modern =>
    obtain ⟨notices, hconstruct⟩ := modernApi_construct_of_error h l
    exact conduct_modern_rebuild hconstruct current
  | legacy =>
    obtain ⟨notices, hconstruct⟩ := legacyApi_construct_of_error h (l.deregister current)
    exact conduct_legacy_rebuild hconstruct

end Actions

end LiveSwap.Pool
