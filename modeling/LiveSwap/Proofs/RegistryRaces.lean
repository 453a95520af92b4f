import LiveSwap.Proofs.Interleaving
import LiveSwap.Proofs.Run
import Mathlib.Data.List.Nodup

/-!
# Callers of one registry, in any order

Callers look names up in one registry and create what is missing, in two sections: one that reads and one
that looks again before it creates. Between the two sections of one caller, others go through theirs; some
of them read the registry or give a handle its first instance meanwhile.

* **`Racing.Move`** — the sections of one caller.
* **`Racing.Move.grows`** — no section does anything to the registry but append to it.
* **`Racing.getOrCreate_moves`**, **`Racing.register_moves`** — the program's own calls are made of these
  sections.
* **`Racing.consistent`** — what all the answers have to do with each other, in whatever order the callers
  take their turns, the program's own calls among them.
-/

namespace LiveSwap

variable {ι σ τ : Type}

namespace Racing

open Interleaving (Turn Turns History)

/-! ## Sections -/

/-- What a section answers. -/
inductive Event where
  /-- The first lookup found nothing. -/
  | missed (name : String)
  /-- The caller has the handle of a name. -/
  | returned (name : String) (id : HandleId)
  | looked (name : String) (found : Option HandleId)
  | listed (names : List String)
  | collected (handles : List HandleId)
  | registered (id : HandleId) (refusal : Option RegisterError)

/-- The sections of one caller of a registry; between two of them it may still owe the creation of a
handle. -/
inductive Move (r : RegistryId) : Option String → Host ι σ → Event → Option String → Host ι σ → Prop where
  | hit {s : Host ι σ} {name : String} {id : HandleId} (hfind : s.find? r name = some id) :
      Move r none s (.returned name id) none s
  | miss {s : Host ι σ} {name : String} (hfind : s.find? r name = none) :
      Move r none s (.missed name) (some name) s
  | enter {s : Host ι σ} {name : String} :
      Move r (some name) s (.returned name (s.enter r name).1) none (s.enter r name).2
  | get {s : Host ι σ} {name : String} : Move r none s (.looked name (s.find? r name)) none s
  | names {s : Host ι σ} : Move r none s (.listed (s.registry r).names) none s
  | handles {s : Host ι σ} : Move r none s (.collected (s.registry r).handles) none s
  | register {s s' : Host ι σ} {id : HandleId} {first : ι} {params : Params}
      (hregister : s.registerOn id first params = .ok s') : Move r none s (.registered id none) none s'
  | refuse {s : Host ι σ} {id : HandleId} {first : ι} {params : Params} {refusal : RegisterError}
      (hregister : s.registerOn id first params = .error refusal) :
      Move r none s (.registered id (some refusal)) none s

/-- A host and the callers of one of its registries. -/
abbrev Scene (τ ι σ : Type) := Interleaving.Scene τ (Host ι σ) (Option String)

def Scene.start (s : Host ι σ) : Scene τ ι σ := ⟨s, fun _ => none⟩

/-! ## What one section does to the registry -/

/-- The registry exists, stores no name twice, and stores every handle under the handle's own name. -/
structure Listed (r : RegistryId) (s : Host ι σ) : Prop where
  exists_registry : r < s.registries.length
  names_nodup : (s.registry r).names.Nodup
  keyed : ∀ name id, (name, id) ∈ (s.registry r).entries →
    id < s.handles.length ∧ (s.handle id).name = name

theorem Listed.newRegistry (s : Host ι σ) :
    Listed s.registries.length ((Act.newRegistry : Act ι σ RegistryId).runOn s).2 := by
  have hempty : ((Act.newRegistry : Act ι σ RegistryId).runOn s).2.registry s.registries.length = .empty := by
    show (s.registries ++ [Registry.empty]).getD s.registries.length Registry.empty = _
    simp
  have hlength : s.registries.length < (s.registries ++ [Registry.empty]).length := by simp
  refine ⟨hlength, ?_, ?_⟩
  · rw [hempty]
    exact List.nodup_nil
  · rw [hempty]
    exact nofun

theorem Listed.handles_nodup {r : RegistryId} {s : Host ι σ} (h : Listed r s) :
    (s.registry r).handles.Nodup := by
  have hnames : (s.registry r).handles.map (fun id => (s.handle id).name) = (s.registry r).names := by
    rw [Registry.handles, Registry.names, List.map_map]
    exact List.map_congr_left fun entry hentry => (h.keyed entry.1 entry.2 hentry).2
  have hnodup := h.names_nodup
  rw [← hnames] at hnodup
  exact List.Nodup.of_map _ hnodup

/-- The registry after is the one before with something appended. -/
def Appends (r : RegistryId) (s s' : Host ι σ) : Prop := (s.registry r).entries <+: (s'.registry r).entries

theorem Listed.find?_eq_some_iff {r : RegistryId} {s : Host ι σ} (h : Listed r s) {name : String}
    {id : HandleId} : s.find? r name = some id ↔ (name, id) ∈ (s.registry r).entries :=
  Registry.lookup_eq_some_iff h.names_nodup

theorem Appends.find? {r : RegistryId} {s s' : Host ι σ} (h : Appends r s s') (hlisted : Listed r s)
    (hlisted' : Listed r s') {name : String} {id : HandleId} (hfind : s.find? r name = some id) :
    s'.find? r name = some id :=
  hlisted'.find?_eq_some_iff.mpr (h.subset (hlisted.find?_eq_some_iff.mp hfind))

theorem Appends.names {r : RegistryId} {s s' : Host ι σ} (h : Appends r s s') :
    (s.registry r).names <+: (s'.registry r).names := h.map _

theorem Appends.handles {r : RegistryId} {s s' : Host ι σ} (h : Appends r s s') :
    (s.registry r).handles <+: (s'.registry r).handles := h.map _

theorem Listed.createHandle {r : RegistryId} {s : Host ι σ} (h : Listed r s) {name : String}
    (hnew : s.find? r name = none) : Listed r (s.createHandle r name) := by
  have hregistry := Host.registry_createHandle_self h.exists_registry name
  refine ⟨by simpa [Host.createHandle] using h.exists_registry, ?_, ?_⟩
  · rw [hregistry, Registry.names_push, ← List.concat_eq_append]
    exact List.Nodup.concat (Registry.lookup_eq_none_iff.mp hnew) h.names_nodup
  · intro key id hmem
    rw [Host.length_createHandle]
    rw [hregistry, Registry.push, List.mem_append, List.mem_singleton] at hmem
    -- an entry is an old one or the new one
    obtain hold | hlast := hmem
    · obtain ⟨hlt, hkey⟩ := h.keyed key id hold
      rw [Host.handle_createHandle_of_lt hlt]
      exact ⟨Nat.lt_succ_of_lt hlt, hkey⟩
    · obtain ⟨rfl, rfl⟩ := Prod.mk.inj hlast
      rw [Host.handle_createHandle_self]
      exact ⟨Nat.lt_succ_self _, rfl⟩

/-- The second section of a call finds the name or appends it. -/
theorem Listed.enter {r : RegistryId} {s : Host ι σ} (h : Listed r s) (name : String) :
    Listed r (s.enter r name).2 ∧ Appends r s (s.enter r name).2 ∧
      (s.enter r name).2.find? r name = some (s.enter r name).1 := by
  rw [Host.enter]
  cases hfind : s.find? r name with
  | some id => exact ⟨h, List.prefix_refl _, hfind⟩
  | none =>
    -- nobody has come in between: the name is appended with the new handle
    have hregistry := Host.registry_createHandle_self h.exists_registry name
    have hlisted := h.createHandle hfind
    refine ⟨hlisted, ?_, hlisted.find?_eq_some_iff.mpr ?_⟩
    · rw [Appends, hregistry]
      exact List.prefix_append ..
    · rw [hregistry]
      simp [Registry.push]

theorem Listed.register {r : RegistryId} {s s' : Host ι σ} (h : Listed r s) {id : HandleId} {first : ι}
    {params : Params} (hregister : s.registerOn id first params = .ok s') : Listed r s' ∧ Appends r s s' := by
  obtain ⟨-, -, rfl⟩ := Host.registerOn_eq_ok_iff.mp hregister
  refine ⟨⟨h.exists_registry, h.names_nodup, ?_⟩, List.prefix_refl _⟩
  intro name other hmem
  -- the handle that takes its first instance keeps its name
  have hname : ((s.enroll id first params).handle other).name = (s.handle other).name :=
    Host.apply_handle_updateHandle Handle.name rfl other
  rw [Host.length_enroll, hname]
  exact h.keyed name other hmem

/-- **No section does anything to the registry but append to it.** -/
theorem Move.grows {r : RegistryId} {s s' : Host ι σ} {stage stage' : Option String} {event : Event}
    (hmove : Move r stage s event stage' s') (h : Listed r s) : Listed r s' ∧ Appends r s s' := by
  cases hmove with
  | hit | miss | get | names | handles | refuse => exact ⟨h, List.prefix_refl _⟩
  | enter =>
    obtain ⟨hlisted, happends, -⟩ := h.enter _
    exact ⟨hlisted, happends⟩
  | register hregister => exact h.register hregister

/-! ## What an answer says -/

def Event.Holds (r : RegistryId) (s : Host ι σ) : Event → Prop
  | .returned name id => s.find? r name = some id
  | .looked name found => ∀ id, found = some id → s.find? r name = some id
  | .listed names => names <+: (s.registry r).names
  | .collected handles => handles <+: (s.registry r).handles
  | .missed _ | .registered _ _ => True

theorem Move.holds {r : RegistryId} {s s' : Host ι σ} {stage stage' : Option String} {event : Event}
    (hmove : Move r stage s event stage' s') (h : Listed r s) : event.Holds r s' := by
  cases hmove with
  | hit hfind => exact hfind
  | enter => exact (h.enter _).2.2
  | get => exact fun id hfound => hfound
  | names | handles => exact List.prefix_refl _
  | miss | register | refuse => trivial

theorem Event.Holds.mono {r : RegistryId} {s s' : Host ι σ} {event : Event} (h : event.Holds r s)
    (happends : Appends r s s') (hlisted : Listed r s) (hlisted' : Listed r s') : event.Holds r s' := by
  cases event with
  | returned name id => exact happends.find? hlisted hlisted' h
  | looked name found => exact fun id hfound => happends.find? hlisted hlisted' (h id hfound)
  | listed names => exact List.IsPrefix.trans h happends.names
  | collected handles => exact List.IsPrefix.trans h happends.handles
  | missed | registered => trivial

def Returned (history : History τ Event) (entry : String × HandleId) : Prop :=
  ∃ t, (t, .returned entry.1 entry.2) ∈ history

theorem Move.source {r : RegistryId} {s s' : Host ι σ} {stage stage' : Option String} {event : Event}
    (hmove : Move r stage s event stage' s') (h : Listed r s) {entry : String × HandleId}
    (hentry : entry ∈ (s'.registry r).entries) :
    entry ∈ (s.registry r).entries ∨ event = .returned entry.1 entry.2 := by
  -- only a section that enters a name appends to the registry
  cases hmove with
  | hit | miss | get | names | handles | refuse => exact .inl hentry
  | register hregister =>
    obtain ⟨-, -, rfl⟩ := Host.registerOn_eq_ok_iff.mp hregister
    exact .inl hentry
  | @enter _ name =>
    rw [Host.enter] at hentry ⊢
    cases hfind : s.find? r name with
    | some id =>
      rw [hfind] at hentry
      exact .inl hentry
    | none =>
      simp only [hfind, Host.registry_createHandle_self h.exists_registry, Registry.push,
        List.mem_append, List.mem_singleton] at hentry
      obtain hold | rfl := hentry
      · exact .inl hold
      · exact .inr rfl

variable [DecidableEq τ]

/-! ## The program's own calls -/

def getOrCreateMoves (r : RegistryId) (s : Host ι σ) (t : τ) (name : String) : History τ Event :=
  match s.find? r name with
  | some id => [(t, .returned name id)]
  | none => [(t, .missed name), (t, .returned name (s.enter r name).1)]

section Program

variable {r : RegistryId} {s : Host ι σ} {t : τ} {stage : τ → Option String} (hstage : stage t = none)
include hstage

/-- A call that nobody interrupts goes through these sections. -/
theorem getOrCreate_moves (name : String) :
    Turns (Move r) ⟨s, stage⟩ (getOrCreateMoves r s t name)
      ⟨((Act.getOrCreate r name : Act ι σ HandleId).runOn s).2, stage⟩ := by
  have hsame : Function.update stage t none = stage := by
    rw [← hstage, Function.update_eq_self]
  rw [Act.runOn_getOrCreate, getOrCreateMoves]
  -- a name that is found needs one section, and one that is missed needs two
  cases hfind : s.find? r name with
  | some id =>
    have hhit := Turn.alone t stage (Move.hit hfind)
    have hentered : (s.enter r name).2 = s := by rw [Host.enter, hfind]
    rw [hsame] at hhit
    rw [hentered]
    exact .cons hhit .nil
  | none =>
    have hmissed := Turn.alone t stage (Move.miss hfind)
    have hentered := Turn.alone t stage (Move.enter : Move r (some name) s _ _ _)
    rw [hsame] at hmissed hentered
    exact .cons hmissed (.cons hentered .nil)

theorem register_moves (first : ι) (params : Params) : ∃ refusal,
    ((Act.register r first params : Act ι σ (Except RegisterError Proxy)).runOn s).1 =
      .ok (refusal.elim (.ok ⟨(s.enter r params.name).1⟩) .error) ∧
    Turns (Move r) ⟨s, stage⟩
      (getOrCreateMoves r s t params.name ++ [(t, .registered (s.enter r params.name).1 refusal)])
      ⟨((Act.register r first params : Act ι σ (Except RegisterError Proxy)).runOn s).2, stage⟩ := by
  have hsame : Function.update stage t none = stage := by
    rw [← hstage, Function.update_eq_self]
  -- the call comes first, and then the section in which the handle answers
  have hcall := getOrCreate_moves (r := r) (s := s) hstage params.name
  rw [Act.runOn_getOrCreate] at hcall
  rw [Act.register, Effect.runOn_bind_ok (Act.runOn_getOrCreate s r params.name), Act.registerOn,
    Effect.runOn_modifyGet]
  cases hregister : (s.enter r params.name).2.registerOn (s.enter r params.name).1 first params with
  | ok s' =>
    have hregistered := Turn.alone t stage (Move.register hregister : Move r none _ _ _ _)
    rw [hsame] at hregistered
    exact ⟨none, rfl, hcall.append (.cons hregistered .nil)⟩
  | error refusal =>
    have hrefused := Turn.alone t stage (Move.refuse hregister : Move r none _ _ _ _)
    rw [hsame] at hrefused
    exact ⟨some refusal, rfl, hcall.append (.cons hrefused .nil)⟩

end Program

/-! ## What all the answers say -/

/-- The registry has grown from where it was, every answer so far holds, and every new entry was an answer. -/
structure Remembered (r : RegistryId) (start : Host ι σ) (history : History τ Event) (s : Scene τ ι σ) :
    Prop where
  listed : Listed r s.shared
  grown : Appends r start s.shared
  holds : ∀ t event, (t, event) ∈ history → event.Holds r s.shared
  source : ∀ entry ∈ (s.shared.registry r).entries, entry ∈ (start.registry r).entries ∨ Returned history entry

theorem Remembered.turn {r : RegistryId} {start : Host ι σ} {history : History τ Event} {s s' : Scene τ ι σ}
    {entry : τ × Event} (h : Remembered r start history s) (hturn : Turn (Move r) s entry s') :
    Remembered r start (history ++ [entry]) s' := by
  cases hturn with
  | @mk t event stage shared hmove =>
    obtain ⟨hlisted', happends⟩ := hmove.grows h.listed
    -- what was told before still holds, because the registry only grows
    refine ⟨hlisted', h.grown.trans happends, ?_, ?_⟩
    · intro u earlier hmem
      obtain hold | hnew := List.mem_append.mp hmem
      · exact (h.holds u earlier hold).mono happends h.listed hlisted'
      · obtain ⟨rfl, rfl⟩ := Prod.mk.inj (List.mem_singleton.mp hnew)
        exact hmove.holds h.listed
    · intro stored hstored
      obtain hold | rfl := hmove.source h.listed hstored
      · obtain hstart | ⟨u, hu⟩ := h.source stored hold
        · exact .inl hstart
        · exact .inr ⟨u, List.mem_append_left _ hu⟩
      · exact .inr ⟨t, by simp⟩

theorem Remembered.of_turns {r : RegistryId} {first : Scene τ ι σ} (hlisted : Listed r first.shared)
    {history : History τ Event} {s : Scene τ ι σ} (hturns : Turns (Move r) first history s) :
    Remembered r first.shared history s := by
  have hfirst : Remembered r first.shared [] first :=
    ⟨hlisted, List.prefix_refl _, nofun, fun entry hentry => .inl hentry⟩
  exact hturns.invariant Remembered.turn hfirst

/-- How the answers fit together. -/
structure Consistent (r : RegistryId) (start : Host ι σ) (history : History τ Event) (s : Scene τ ι σ) :
    Prop where
  /-- All calls for one name return the same handle. -/
  same : ∀ t u name id id', (t, .returned name id) ∈ history → (u, .returned name id') ∈ history → id = id'
  /-- Calls for different names return different handles. -/
  different : ∀ t u name name' id id', (t, .returned name id) ∈ history →
    (u, .returned name' id') ∈ history → name ≠ name' → id ≠ id'
  /-- A handle that was returned is stored under its name. -/
  stored : ∀ t name id, (t, .returned name id) ∈ history → (name, id) ∈ (s.shared.registry r).entries
  /-- Nothing else gets into the registry. -/
  source : ∀ name id, (name, id) ∈ (s.shared.registry r).entries →
    (name, id) ∈ (start.registry r).entries ∨ ∃ t, (t, .returned name id) ∈ history
  once : (s.shared.registry r).names.Nodup ∧ (s.shared.registry r).handles.Nodup
  /-- A stored handle exists and has the name it is stored under. -/
  keyed : ∀ name id, (name, id) ∈ (s.shared.registry r).entries →
    id < s.shared.handles.length ∧ (s.shared.handle id).name = name
  /-- The registry only grows at its end, so the handle that is stored for a name stays. -/
  grows : ∀ earlier later middle, history = earlier ++ later →
    Turns (Move r) (Scene.start start) earlier middle → Turns (Move r) middle later s →
    Appends r middle.shared s.shared ∧
      ∀ name id, middle.shared.find? r name = some id → s.shared.find? r name = some id
  names : ∀ earlier t before between u after later,
    history = earlier ++ (t, .listed before) :: (between ++ (u, .listed after) :: later) → before <+: after
  handles : ∀ earlier t before between u after later,
    history = earlier ++ (t, .collected before) :: (between ++ (u, .collected after) :: later) →
    before <+: after
  /-- A lookup finds what a call has returned before; what it finds, all calls return. -/
  get : ∀ earlier t name found later, history = earlier ++ (t, .looked name found) :: later →
    (∀ u id, (u, .returned name id) ∈ earlier → found = some id) ∧
      ∀ u id id', found = some id → (u, .returned name id') ∈ history → id' = id
  /-- Any caller that owes nothing can go on with a call of the program, which answers what its sections do. -/
  calls : ∀ t name, s.stage t = none →
    ((Act.getOrCreate r name : Act ι σ HandleId).runOn s.shared).1 = .ok (s.shared.enter r name).1 ∧
      Turns (Move r) (Scene.start start) (history ++ getOrCreateMoves r s.shared t name)
        ⟨((Act.getOrCreate r name : Act ι σ HandleId).runOn s.shared).2, s.stage⟩
  /-- So it is with the program's registering. -/
  registers : ∀ t first params, s.stage t = none → ∃ refusal,
    ((Act.register r first params : Act ι σ (Except RegisterError Proxy)).runOn s.shared).1 =
      .ok (refusal.elim (.ok ⟨(s.shared.enter r params.name).1⟩) .error) ∧
    Turns (Move r) (Scene.start start) (history ++ (getOrCreateMoves r s.shared t params.name ++
        [(t, .registered (s.shared.enter r params.name).1 refusal)]))
      ⟨((Act.register r first params : Act ι σ (Except RegisterError Proxy)).runOn s.shared).2, s.stage⟩

/-- What a caller is told at some point, and what held before it was told. -/
theorem answered {r : RegistryId} {start : Host ι σ} (hlisted : Listed r start) {history : History τ Event}
    {s : Scene τ ι σ} (hturns : Turns (Move r) (Scene.start start) history s)
    {earlier later : History τ Event} {t : τ} {event : Event}
    (hcut : history = earlier ++ (t, event) :: later) :
    ∃ (middle : Scene τ ι σ) (stage stage' : Option String) (after : Host ι σ),
      Remembered r start earlier middle ∧ Move r stage middle.shared event stage' after := by
  subst hcut
  obtain ⟨middle, hearlier, hlater⟩ := hturns.split
  cases hlater with
  | cons hturn _ =>
    cases hturn with
    | mk hmove => exact ⟨middle, _, _, _, .of_turns hlisted hearlier, hmove⟩

/-- **Callers of one registry**, in whatever order they take their turns. -/
theorem consistent {r : RegistryId} {start : Host ι σ} (hlisted : Listed r start)
    {history : History τ Event} {s : Scene τ ι σ}
    (hturns : Turns (Move r) (Scene.start start) history s) : Consistent r start history s := by
  have hremembered := Remembered.of_turns hlisted hturns
  have hfound {t : τ} {name : String} {id : HandleId} (hmem : (t, Event.returned name id) ∈ history) :
      s.shared.find? r name = some id := hremembered.holds t _ hmem
  have hkeyed {name : String} {id : HandleId} (hfind : s.shared.find? r name = some id) :
      (s.shared.handle id).name = name :=
    (hremembered.listed.keyed name id (hremembered.listed.find?_eq_some_iff.mp hfind)).2
  constructor
  case same =>
    intro t u name id id' ht hu
    have hboth := (hfound ht).symm.trans (hfound hu)
    exact Option.some.inj hboth
  case different =>
    rintro t u name name' id _ ht hu hname rfl
    -- the handle has one name only
    exact hname ((hkeyed (hfound ht)).symm.trans (hkeyed (hfound hu)))
  case stored => exact fun t name id ht => hremembered.listed.find?_eq_some_iff.mp (hfound ht)
  case source => exact fun name id hmem => hremembered.source (name, id) hmem
  case once => exact ⟨hremembered.listed.names_nodup, hremembered.listed.handles_nodup⟩
  case keyed => exact hremembered.listed.keyed
  case grows =>
    intro earlier later middle hcut hearlier hlater
    have hmiddle : Listed r middle.shared := (Remembered.of_turns hlisted hearlier).listed
    have happends : Appends r middle.shared s.shared := (Remembered.of_turns hmiddle hlater).grown
    exact ⟨happends, fun name id hfind => happends.find? hmiddle hremembered.listed hfind⟩
  case names =>
    intro earlier t before between u after later hcut
    have hagain : history = (earlier ++ (t, .listed before) :: between) ++ (u, .listed after) :: later := by
      simpa using hcut
    obtain ⟨middle, _, _, _, hmiddle, hmove⟩ := answered hlisted hturns hagain
    have hbefore : before <+: (middle.shared.registry r).names :=
      hmiddle.holds t (.listed before) (by simp)
    cases hmove with
    | names => exact hbefore
  case handles =>
    intro earlier t before between u after later hcut
    have hagain : history = (earlier ++ (t, .collected before) :: between) ++ (u, .collected after) :: later := by
      simpa using hcut
    obtain ⟨middle, _, _, _, hmiddle, hmove⟩ := answered hlisted hturns hagain
    have hbefore : before <+: (middle.shared.registry r).handles :=
      hmiddle.holds t (.collected before) (by simp)
    cases hmove with
    | handles => exact hbefore
  case get =>
    intro earlier t name found later hcut
    constructor
    · intro u id hu
      -- at that moment the registry held what had been returned before
      obtain ⟨middle, _, _, _, hmiddle, hmove⟩ := answered hlisted hturns hcut
      cases hmove with
      | get => exact hmiddle.holds u _ hu
    · intro u id id' hid hu
      have hlooked : s.shared.find? r name = some id :=
        hremembered.holds t (.looked name found) (by simp [hcut]) id hid
      exact Option.some.inj ((hfound hu).symm.trans hlooked)
  case calls =>
    intro t name hstage
    refine ⟨?_, hturns.append (getOrCreate_moves hstage name)⟩
    rw [Act.runOn_getOrCreate]
  case registers =>
    intro t first params hstage
    obtain ⟨refusal, hanswer, hmoves⟩ := register_moves (r := r) (s := s.shared) hstage first params
    exact ⟨refusal, hanswer, hturns.append hmoves⟩

/-- Two callers miss the same name before either of them creates its handle; a third name is asked for in
between. -/
def missedTwice : History Bool Event :=
  [(false, .missed "orders"), (true, .missed "orders"), (false, .returned "orders" 0), (false, .listed ["orders"]),
    (false, .missed "users"), (true, .returned "orders" 0), (true, .looked "users" none),
    (false, .returned "users" 1), (true, .registered 0 none), (true, .listed ["orders", "users"])]

theorem consistent_missedTwice : ∃ (start : Host Nat Unit) (s : Scene Bool Nat Unit),
    Listed 0 start ∧ Turns (Move 0) (Scene.start start) missedTwice s ∧ Consistent 0 start missedTwice s := by
  have hlisted : Listed 0 ((Act.newRegistry : Act Nat Unit RegistryId).runOn (Host.start ())).2 :=
    Listed.newRegistry (Host.start ())
  obtain ⟨s, hturns⟩ : ∃ s, Turns (Move 0)
      (Scene.start ((Act.newRegistry : Act Nat Unit RegistryId).runOn (Host.start ())).2) missedTwice s :=
    ⟨_, .cons (.mk (.miss rfl)) <| .cons (.mk (.miss rfl)) <| .cons (.mk .enter) <| .cons (.mk .names) <|
      .cons (.mk (.miss rfl)) <| .cons (.mk .enter) <| .cons (.mk .get) <| .cons (.mk .enter) <|
      .cons (.mk (.register (rfl : Host.registerOn _ 0 7 (.named "orders" .empty) = .ok _))) <|
      .cons (.mk .names) .nil⟩
  exact ⟨_, s, hlisted, hturns, consistent hlisted hturns⟩

end Racing

end LiveSwap
