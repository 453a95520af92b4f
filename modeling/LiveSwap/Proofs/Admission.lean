import LiveSwap.Proofs.ServerCourse
import LiveSwap.Proofs.Lifecycle

/-!
# Who is admitted

Whether a plugin is admitted is decided when it is offered to the server, and what has become of the
plugins that were offered before does not matter for it: one whose build call panics stays admitted, also
where somebody catches the panic. In a journal, whoever is admitted is accepted at once or called to build at
once.

* **`Journal.Admitted`** — a plugin that was offered and not refused, and `Journal.Closes`, what a plugin
  is refused for.
* **`Journal.Judged`** — a journal in which everybody was refused for that, or admitted on one of the two
  ways.
* **`Life.Vetted`** — what the journal says about a server that decides like that; kept by every step.
* **`Hosting.AddsTo`**, **`Hosting.Added`** — what an addition does to the server, and several of them.
* **`Hosting.additions_decided`** — all this for every history.
-/

namespace LiveSwap

open Relation

variable {κ : Type} {β : κ → Type} {ω : Type}

/-! ## Decisions in a journal -/

/-- An entry about somebody who was not offered just now, in a journal of a length. -/
def Entry.Late (length : Nat) : Entry → Prop
  | .accepted number | .called number _ => number + 1 < length
  | _ => True

namespace Journal

/-- The plugin was offered under a number, and its addition returned at once. -/
def Queued (entries : Journal) (number : Nat) (info : PluginInfo) : Prop :=
  entries[number]? = some (.offered number info) ∧ entries[number + 1]? = some (.accepted number)

/-- The plugin was offered under a number, and it was called to build at once. -/
def Begun (entries : Journal) (number : Nat) (info : PluginInfo) : Prop :=
  entries[number]? = some (.offered number info) ∧ entries[number + 1]? = some (.called number .build)

def Admitted (entries : Journal) (number : Nat) (info : PluginInfo) : Prop :=
  entries.Queued number info ∨ entries.Begun number info

/-- The server is finished by now, or the plugin is unique and one of its id was admitted. -/
def Closes (entries : Journal) (info : PluginInfo) : Prop :=
  .finished ∈ entries ∨ info.isUnique = true ∧ ∃ number other, entries.Admitted number other ∧ other.id = info.id

/-- How an offer was decided. -/
structure Decided (entries : Journal) (number : Nat) (info : PluginInfo) : Prop where
  refused : ¬entries.Admitted number info ↔ Closes (entries.take number) info
  /-- A plugin is queued as long as nobody has been called. -/
  queued : entries.Queued number info → ∀ other phase, .called other phase ∉ entries.take number
  /-- A plugin is built at once when somebody has attempted to finish the server. -/
  begun : entries.Begun number info → .finishing ∈ entries.take number

/-- Every offer was decided by what had happened before it. -/
structure Judged (entries : Journal) : Prop where
  numbered : Numbered 0 entries
  decided : ∀ number info, entries[number]? = some (.offered number info) → entries.Decided number info

variable {entries : Journal} {number : Nat} {info : PluginInfo}

theorem Admitted.offered (h : entries.Admitted number info) :
    entries[number]? = some (.offered number info) := h.elim And.left And.left

theorem Admitted.lt (h : entries.Admitted number info) : number + 1 < entries.length := by
  obtain ⟨-, hnext⟩ | ⟨-, hnext⟩ := h
  · exact (List.getElem?_eq_some_iff.mp hnext).1
  · exact (List.getElem?_eq_some_iff.mp hnext).1

theorem queued_append (h : number + 1 < entries.length) (more : Journal) :
    (entries ++ more).Queued number info ↔ entries.Queued number info := by
  unfold Queued
  rw [List.getElem?_append_left h, List.getElem?_append_left (by omega)]

theorem begun_append (h : number + 1 < entries.length) (more : Journal) :
    (entries ++ more).Begun number info ↔ entries.Begun number info := by
  unfold Begun
  rw [List.getElem?_append_left h, List.getElem?_append_left (by omega)]

theorem admitted_append (h : number + 1 < entries.length) (more : Journal) :
    (entries ++ more).Admitted number info ↔ entries.Admitted number info :=
  or_congr (queued_append h more) (begun_append h more)

theorem getElem?_offered (h : Numbered 0 entries) (hoffered : .offered number info ∈ entries) :
    entries[number]? = some (.offered number info) := by
  obtain ⟨before, after, rfl⟩ := List.append_of_mem hoffered
  obtain ⟨-, hnumber, -⟩ := numbered_append.mp h
  simp [hnumber]

theorem begun_iff (h : Numbered 0 entries) :
    entries.Begun number info ↔ [.offered number info, .called number .build] <:+: entries := by
  constructor
  · rintro ⟨hoffered, hcalled⟩
    obtain ⟨hlt, hfirst⟩ := List.getElem?_eq_some_iff.mp hoffered
    obtain ⟨hlt', hsecond⟩ := List.getElem?_eq_some_iff.mp hcalled
    refine ⟨entries.take number, entries.drop (number + 2), ?_⟩
    rw [← hfirst, ← hsecond, List.append_assoc]
    simp
  · rintro ⟨before, after, rfl⟩
    -- numbers are places, so the part can only stand where its number says
    rw [List.append_assoc] at h ⊢
    obtain ⟨-, hnumber, -⟩ := numbered_append.mp h
    rw [Nat.zero_add] at hnumber
    subst hnumber
    exact ⟨by simp, by simp⟩

theorem getElem?_admitted (h : entries.Admitted number info) :
    entries[number + 1]? = some (.accepted number) ∨ entries[number + 1]? = some (.called number .build) :=
  h.imp And.right And.right

theorem admitted_concat {entry : Entry} (hlate : entry.Late entries.length) :
    (entries ++ [entry]).Admitted number info ↔ entries.Admitted number info := by
  by_cases hlt : number + 1 < entries.length
  -- whoever was admitted before the last entry does not depend on it
  · exact admitted_append hlt [entry]
  · constructor
    -- otherwise the last entry would be the one that takes the offer up, and a late one does not
    · intro h
      have hlength : number + 1 = entries.length := by
        have := h.lt
        rw [List.length_append, List.length_singleton] at this
        omega
      have hlast : (entries ++ [entry])[number + 1]? = some entry := by
        rw [hlength]
        exact List.getElem?_concat_length
      have hnext := getElem?_admitted h
      rw [hlast] at hnext
      rcases hnext with haccepted | hcalled
      · obtain rfl := Option.some.inj haccepted
        exact absurd hlate hlt
      · obtain rfl := Option.some.inj hcalled
        exact absurd hlate hlt
    · intro h
      exact absurd h.lt hlt

theorem getElem?_two (entries : Journal) (first second : Entry) :
    (entries ++ [first, second])[entries.length]? = some first ∧
      (entries ++ [first, second])[entries.length + 1]? = some second := by
  simp

/-- An offer and the entry behind it that takes the offer up. -/
theorem admitted_offer {entry : Entry} {other : PluginInfo}
    (hentry : entry = .accepted entries.length ∨ entry = .called entries.length .build) :
    (entries ++ [.offered entries.length info, entry]).Admitted number other ↔
      entries.Admitted number other ∨ number = entries.length ∧ other = info := by
  obtain ⟨hoffer, hnext⟩ := getElem?_two entries (.offered entries.length info) entry
  constructor
  · intro h
    have hlt := h.lt
    simp only [List.length_append, List.length_cons, List.length_nil] at hlt
    -- the offer stands before the journal's end, at it, or is the new one
    rcases Nat.lt_trichotomy (number + 1) entries.length with hbefore | hlast | hbehind
    · exact .inl ((admitted_append hbefore _).mp h)
    · -- behind the last entry there is the offer
      have hbehind := getElem?_admitted h
      rw [hlast, hoffer] at hbehind
      simp at hbehind
    · obtain rfl : number = entries.length := by omega
      have hboth := h.offered
      rw [hoffer] at hboth
      simp only [Option.some.injEq, Entry.offered.injEq, true_and] at hboth
      exact .inr ⟨rfl, hboth.symm⟩
  · rintro (h | ⟨rfl, rfl⟩)
    · exact (admitted_append h.lt _).mpr h
    · rcases hentry with rfl | rfl
      · exact .inl ⟨hoffer, hnext⟩
      · exact .inr ⟨hoffer, hnext⟩

/-- **Of several plugins that were admitted under one id** only the first can be unique. -/
theorem Judged.first (h : entries.Judged) {later : Nat} {second : PluginInfo} (hlt : number < later)
    (hfirst : entries.Admitted number info) (hsecond : entries.Admitted later second)
    (hid : second.id = info.id) : second.isUnique = false := by
  have hopen : ¬Closes (entries.take later) second := fun hcloses =>
    (h.decided later second hsecond.offered).refused.mpr hcloses hsecond
  by_contra hunique
  refine hopen (.inr ⟨by simpa using hunique, number, info, ?_, hid.symm⟩)
  -- the first one was admitted before the second one was offered
  have hnext : number + 1 ≠ later := by
    rintro rfl
    have hentry := getElem?_admitted hfirst
    rw [hsecond.offered] at hentry
    simp at hentry
  have hlength : number + 1 < (entries.take later).length := by
    have := hsecond.lt
    rw [List.length_take]
    omega
  rw [← admitted_append hlength (entries.drop later), List.take_append_drop]
  exact hfirst

/-! ## What is written behind a journal -/

theorem judged_nil : Judged [] := ⟨trivial, fun _ _ h => nomatch h⟩

variable {more : Journal}

theorem Decided.append (h : entries.Decided number info) (hle : number ≤ entries.length)
    (hold : (entries ++ more).Admitted number info → entries.Admitted number info) :
    (entries ++ more).Decided number info := by
  have htake : (entries ++ more).take number = entries.take number := List.take_append_of_le_length hle
  have hsame : (entries ++ more).Admitted number info ↔ entries.Admitted number info :=
    ⟨hold, fun hadmitted => (admitted_append hadmitted.lt more).mpr hadmitted⟩
  refine ⟨?_, fun hqueued => ?_, fun hbegun => ?_⟩
  · rw [htake, hsame]
    exact h.refused
  · rw [htake]
    exact h.queued ((queued_append (hold (.inl hqueued)).lt more).mp hqueued)
  · rw [htake]
    exact h.begun ((begun_append (hold (.inr hbegun)).lt more).mp hbegun)

theorem Judged.append (h : entries.Judged) (hnumbered : Numbered entries.length more)
    (hold : ∀ number info, number < entries.length →
      (entries ++ more).Admitted number info → entries.Admitted number info)
    (hnew : ∀ number info, entries.length ≤ number →
      (entries ++ more)[number]? = some (.offered number info) → (entries ++ more).Decided number info) :
    (entries ++ more).Judged := by
  refine ⟨numbered_append.mpr ⟨h.numbered, by simpa using hnumbered⟩, fun number info hoffer => ?_⟩
  by_cases hlt : number < entries.length
  · rw [List.getElem?_append_left hlt] at hoffer
    exact (h.decided number info hoffer).append (by omega) (hold number info hlt)
  · exact hnew number info (by omega) hoffer

theorem Judged.concat (h : entries.Judged) {entry : Entry} (hlate : entry.Late entries.length)
    (hoffer : ∀ number info, entry = .offered number info → number = entries.length ∧ entries.Closes info) :
    (entries ++ [entry]).Judged := by
  refine h.append ?_ (fun number info _ => (admitted_concat hlate).mp) fun number info hle hget => ?_
  · cases entry with
    | offered number info => exact ⟨(hoffer number info rfl).1, trivial⟩
    | _ => trivial
  · have hlength := (List.getElem?_eq_some_iff.mp hget).1
    rw [List.length_append, List.length_singleton] at hlength
    obtain rfl : number = entries.length := by omega
    rw [List.getElem?_concat_length] at hget
    obtain rfl := Option.some.inj hget
    -- the offer comes last, so nobody can have taken it up
    have hrefused : ¬(entries ++ [Entry.offered entries.length info]).Admitted entries.length info := by
      intro hadmitted
      have := ((admitted_concat hlate).mp hadmitted).lt
      omega
    refine ⟨iff_of_true hrefused ?_, fun hqueued => absurd (.inl hqueued) hrefused,
      fun hbegun => absurd (.inr hbegun) hrefused⟩
    rw [List.take_left]
    exact (hoffer entries.length info rfl).2

/-- An offer that is not refused, and the entry that takes it up. -/
theorem Judged.offer (h : entries.Judged) {entry : Entry} (hopen : ¬entries.Closes info)
    (hentry : entry = .accepted entries.length ∧ (∀ other phase, .called other phase ∉ entries) ∨
      entry = .called entries.length .build ∧ .finishing ∈ entries) :
    (entries ++ [.offered entries.length info, entry]).Judged := by
  have htaken := hentry.imp And.left And.left
  obtain ⟨hoffer, hnext⟩ := getElem?_two entries (.offered entries.length info) entry
  refine h.append ?_ (fun number other hlt hadmitted => ?_) fun number other hle hget => ?_
  · rcases htaken with rfl | rfl <;> exact ⟨rfl, trivial⟩
  · rcases (admitted_offer htaken).mp hadmitted with hold | ⟨rfl, -⟩
    · exact hold
    · exact absurd hlt (Nat.lt_irrefl _)
  · -- the other new entry is no offer
    have hlast : number = entries.length := by
      have hlength := (List.getElem?_eq_some_iff.mp hget).1
      simp only [List.length_append, List.length_cons, List.length_nil] at hlength
      by_contra hne
      obtain rfl : number = entries.length + 1 := by omega
      rw [hnext] at hget
      rcases htaken with rfl | rfl <;> simp at hget
    obtain rfl := hlast
    obtain rfl : info = other := by
      rw [hoffer] at hget
      simpa using hget
    have hadmitted : (entries ++ [.offered entries.length info, entry]).Admitted entries.length info :=
      (admitted_offer htaken).mpr (.inr ⟨rfl, rfl⟩)
    -- the offer that is taken up is the only new one, and it was open when it was made
    rcases hentry with ⟨rfl, huncalled⟩ | ⟨rfl, hfinishing⟩
    · refine ⟨iff_of_false (not_not_intro hadmitted) ?_, fun _ => ?_, fun hbegun => ?_⟩
      · rwa [List.take_left]
      · rwa [List.take_left]
      · have hcalled := hbegun.2
        rw [hnext] at hcalled
        simp at hcalled
    · refine ⟨iff_of_false (not_not_intro hadmitted) ?_, fun hqueued => ?_, fun _ => ?_⟩
      · rwa [List.take_left]
      · have haccepted := hqueued.2
        rw [hnext] at haccepted
        simp at haccepted
      · rwa [List.take_left]

end Journal

/-! ## Servers and their journals -/

namespace Life

variable {l l' : Life κ β ω}

/-- What the journal says about a server and what it has decided. -/
structure Vetted (l : Life κ β ω) : Prop where
  sound : l.Sound
  judged : l.journal.Judged
  added : ∀ id, id ∈ l.roster.added ↔ ∃ number info, l.journal.Admitted number info ∧ info.id = id
  called : ∀ number phase, .called number phase ∈ l.journal → l.roster.state ≠ .notStarted
  finishing : l.roster.state ≠ .notStarted → .finishing ∈ l.journal

theorem vetted_start (outside : ω) : (Life.start outside : Life κ β ω).Vetted := by
  refine ⟨sound_start outside, Journal.judged_nil, fun id => ?_, nofun, fun h => absurd rfl h⟩
  simp [Life.start, Roster.empty, Journal.Admitted, Journal.Queued, Journal.Begun]

/-- The server refuses what its journal closes. -/
theorem Vetted.closed_iff (h : l.Vetted) (info : PluginInfo) :
    l.plain.server.Closed info ↔ l.journal.Closes info :=
  or_congr h.sound.finished (and_congr_right fun _ => h.added info.id)

theorem Vetted.noted (h : l.Vetted) {entry : Entry} (hsound : l'.Sound)
    (hjournal : l'.journal = l.journal ++ [entry]) (hadded : l'.roster.added = l.roster.added)
    (hstarted : l.roster.state ≠ .notStarted → l'.roster.state ≠ .notStarted)
    (hfinishing : l'.roster.state ≠ .notStarted → l.roster.state ≠ .notStarted ∨ entry = .finishing)
    (hlate : entry.Late l.journal.length)
    (hoffer : ∀ number info, entry = .offered number info →
      number = l.journal.length ∧ l.journal.Closes info)
    (hcalled : ∀ number phase, entry = .called number phase → l.roster.state ≠ .notStarted) : l'.Vetted := by
  -- one entry about somebody else, so what was admitted stays as it was
  refine ⟨hsound, ?_, fun id => ?_, fun number phase hmem => ?_, fun hstate => ?_⟩
  · rw [hjournal]
    exact h.judged.concat hlate hoffer
  · simp only [hadded, hjournal, Journal.admitted_concat hlate, h.added]
  · rw [hjournal] at hmem
    rcases List.mem_append.mp hmem with hold | hnew
    · exact hstarted (h.called number phase hold)
    · exact hstarted (hcalled number phase (List.mem_singleton.mp hnew).symm)
  · rw [hjournal]
    rcases hfinishing hstate with hbefore | rfl
    · exact List.mem_append_left _ (h.finishing hbefore)
    · exact List.mem_append_right _ (List.mem_singleton_self _)

theorem Vetted.admitted (h : l.Vetted) {info : PluginInfo} {entry : Entry} (hsound : l'.Sound)
    (hopen : l.plain.server.refusal? info = none)
    (hentry : entry = .accepted l.journal.length ∧ l.roster.state = .notStarted ∨
      entry = .called l.journal.length .build ∧ l.roster.state ≠ .notStarted)
    (hjournal : l'.journal = l.journal ++ [.offered l.journal.length info, entry])
    (hstate : l'.roster.state = l.roster.state) (hadded : l'.roster.added = (l.roster.noteId info.id).added) :
    l'.Vetted := by
  have hcloses : ¬l.journal.Closes info := by
    rw [← h.closed_iff]
    exact Server.refusal?_eq_none_iff.mp hopen
  -- the offer was open, and both ways of taking it up admit the plugin
  have htaken := hentry.imp And.left And.left
  refine ⟨hsound, ?_, fun id => ?_, fun number phase hmem => ?_, fun hstarted => ?_⟩
  · rw [hjournal]
    refine h.judged.offer hcloses (hentry.imp ?_ (And.imp_right h.finishing))
    rintro ⟨rfl, hfresh⟩
    exact ⟨rfl, fun other phase hcalled => h.called other phase hcalled hfresh⟩
  · -- the id is noted on both ways
    have hnoted : id ∈ l'.roster.added ↔ id ∈ l.roster.added ∨ id = info.id := by
      rw [hadded]
      exact Server.mem_added_noteId (s := l.plain.server)
    simp only [hnoted, h.added, hjournal, Journal.admitted_offer htaken, or_and_right, exists_or]
    simp [eq_comm]
  · rw [hstate]
    rw [hjournal] at hmem
    rcases List.mem_append.mp hmem with hold | hnew
    · exact h.called number phase hold
    · rcases hentry with ⟨rfl, -⟩ | ⟨rfl, hstarted⟩
      · simp at hnew
      · exact hstarted
  · rw [hjournal]
    exact List.mem_append_left _ (h.finishing (by rwa [hstate] at hstarted))

theorem Vetted.step (h : l.Vetted) (hstep : Step l l') : l'.Vetted := by
  have hsound := h.sound.step hstep
  -- only `queued` and `begun` admit somebody; all other steps write an entry that comes late, or nothing
  cases hstep with
  | beside globals outside => exact ⟨hsound, h.judged, h.added, h.called, h.finishing⟩
  | enrolled hknown hstate => exact ⟨hsound, h.judged, h.added, h.called, h.finishing⟩
  | @refused info refusal hrefusal =>
    refine h.noted hsound rfl rfl id .inl trivial (fun number other hentry => ?_) nofun
    obtain ⟨rfl, rfl⟩ := Entry.offered.inj hentry
    refine ⟨rfl, (h.closed_iff info).mp ?_⟩
    -- an offer is refused only when the journal closes it
    by_contra hopen
    rw [Server.refusal?_eq_none_iff.mpr hopen] at hrefusal
    cases hrefusal
  | queued hopen hstate => exact h.admitted hsound hopen (.inl ⟨rfl, hstate⟩) rfl rfl rfl
  | begun hopen hstate =>
    have hstarted : l.roster.state ≠ .notStarted := by simp [hstate]
    exact h.admitted hsound hopen (.inr ⟨rfl, hstarted⟩) (List.append_assoc ..) rfl rfl
  | called hknown hstarted => exact h.noted hsound rfl rfl id .inl hknown nofun fun _ _ _ => hstarted
  | returned | panicked => exact h.noted hsound rfl rfl id .inl trivial nofun nofun
  | accepted hknown hstarted => exact h.noted hsound rfl rfl id .inl hknown nofun nofun
  | attempted hstarted => exact h.noted hsound rfl rfl id .inl trivial nofun nofun
  | lost hstate => exact h.noted hsound rfl rfl id .inl trivial nofun nofun
  | started hstate => exact h.noted hsound rfl rfl (fun _ => nofun) (fun _ => .inr rfl) trivial nofun nofun
  | concluded hstate =>
    have hstarted : l.roster.state ≠ .notStarted := by simp [hstate]
    exact h.noted hsound rfl rfl (fun _ => nofun) (fun _ => .inl hstarted) trivial nofun nofun

theorem Vetted.path (h : l.Vetted) (hpath : ReflTransGen Step l l') : l'.Vetted := by
  induction hpath with
  | refl => exact h
  | tail _ hstep ih => exact ih.step hstep

end Life

/-! ## What an addition does -/

namespace Server

/-- The queue stays as it is once building has started. -/
def KeepsQueue (s t : Server κ β ω) : Prop :=
  s.state ≠ .notStarted → t.state ≠ .notStarted ∧ t.pending = s.pending

instance : IsPreorder (Server κ β ω) KeepsQueue where
  refl _ hs := ⟨hs, rfl⟩
  trans _ _ _ h h' := by
    intro hs
    obtain ⟨ht, hpending⟩ := h hs
    obtain ⟨hu, hpending'⟩ := h' ht
    exact ⟨hu, hpending'.trans hpending⟩

end Server

/-- What comes of an addition. -/
structure Hosting.AddsTo (depth : Nat) (h : Hosting κ β ω) (plugin : Plugin κ β ω) [DecidableEq κ] : Prop where
  /-- Nothing changes and nobody is called. -/
  refused : h.server.Closed plugin.info → ∃ refusal, h.server.refusal? plugin.info = some refusal ∧
    ∀ call, (ServerAct.add call plugin).runOn h = (.error (.panic (.text refusal.message)), h)
  /-- Before building has started, the plugin joins the queue and nobody is called. -/
  queued : ¬h.server.Closed plugin.info → h.server.state = .notStarted → ∀ call,
    (ServerAct.add call plugin).runOn h =
      (.ok (), h.update fun s => (s.noteId plugin.info.id).enqueue plugin)
  /-- Afterwards, its build call is made at once. -/
  begun : ¬h.server.Closed plugin.info → h.server.state ≠ .notStarted → ∀ call,
    (ServerAct.add call plugin).runOn h =
      (call plugin .build >>= fun _ => ServerAct.updateServer (·.enroll plugin)).runOn
        (h.update (·.noteId plugin.info.id))
  /-- And it does not join the queue. -/
  unqueued : h.server.state ≠ .notStarted →
    ((ServerAct.add (ServerAct.invoke depth) plugin).runOn h).2.server.pending = h.server.pending

/-- Adds plugins with one request. -/
def Script.group (plugins : List (Plugin κ β ω)) (next : Script κ β ω) : Script κ β ω :=
  plugins.foldr .add next

/-- The plugins were added, between these two servers. -/
structure Hosting.Added (plugins : List (Plugin κ β ω)) (h h' : Hosting κ β ω) : Prop where
  queued : h.server.state = .notStarted →
    h'.server.state = .notStarted ∧ h'.server.pending = h.server.pending ++ plugins
  begun : h.server.state ≠ .notStarted → (h.server.built ++ plugins).Sublist h'.server.built

namespace ServerAct

section Calls

variable {call : Plugin κ β ω → Phase → ServerAct κ β ω Unit} {h h' : Hosting κ β ω} {plugin : Plugin κ β ω}

theorem add_of_closed (hclosed : h.server.Closed plugin.info) :
    ∃ refusal, h.server.refusal? plugin.info = some refusal ∧
      ∀ call, (add call plugin).runOn h = (.error (.panic (.text refusal.message)), h) := by
  obtain ⟨refusal, hrefusal⟩ := Server.exists_refusal hclosed
  exact ⟨refusal, hrefusal, fun call => by rw [runOn_add, hrefusal]⟩

theorem add_of_open (hopen : ¬h.server.Closed plugin.info) (hfresh : h.server.state = .notStarted) :
    (add call plugin).runOn h =
      (.ok (), h.update fun s => (s.noteId plugin.info.id).enqueue plugin) := by
  rw [runOn_add, Server.refusal?_eq_none_iff.mpr hopen]
  simp only [hfresh, reduceCtorEq, if_false]

theorem add_of_building (hopen : ¬h.server.Closed plugin.info) (hstarted : h.server.state ≠ .notStarted) :
    (add call plugin).runOn h = (construct call plugin).runOn (h.update (·.noteId plugin.info.id)) := by
  have hrefusal := Server.refusal?_eq_none_iff.mpr hopen
  rw [runOn_add, hrefusal]
  simp only [Server.state_of_open hrefusal hstarted, if_true]

theorem keepsQueue_add (hcall : ∀ plugin phase, Within Server.KeepsQueue (call plugin phase))
    (plugin : Plugin κ β ω) : Within Server.KeepsQueue (add call plugin) := by
  intro h hstarted
  by_cases hclosed : h.server.Closed plugin.info
  · obtain ⟨refusal, -, hrun⟩ := add_of_closed hclosed
    rw [hrun]
    exact ⟨hstarted, rfl⟩
  · rw [add_of_building hclosed hstarted]
    have hconstruct : Within Server.KeepsQueue (construct call plugin) :=
      (hcall plugin .build).bind fun _ => within_updateServer fun _ hs => ⟨hs, rfl⟩
    exact hconstruct (h.update (·.noteId plugin.info.id)) hstarted

end Calls

variable [DecidableEq κ]

theorem invoke_keepsQueue (depth : Nat) (plugin : Plugin κ β ω) (phase : Phase) :
    Within Server.KeepsQueue (invoke depth plugin phase) := by
  induction depth generalizing plugin phase with
  | zero => exact within_throw _
  | succ depth ih =>
    have hfinish : Within Server.KeepsQueue (finish (invoke depth) depth : ServerAct κ β ω Unit) := by
      intro h hstarted
      rw [runOn_finish, if_neg hstarted]
      exact ⟨hstarted, rfl⟩
    exact within_exec ih (keepsQueue_add ih) hfinish (fun _ _ hs => ⟨hs, rfl⟩) _

theorem addsTo (depth : Nat) (h : Hosting κ β ω) (plugin : Plugin κ β ω) : h.AddsTo depth plugin where
  refused := add_of_closed
  queued hopen hfresh _ := add_of_open hopen hfresh
  begun hopen hstarted _ := add_of_building hopen hstarted
  unqueued hstarted := (keepsQueue_add (invoke_keepsQueue depth) plugin h hstarted).2

theorem exec_group (call : Plugin κ β ω → Phase → ServerAct κ β ω Unit) (rounds : Nat)
    (plugins : List (Plugin κ β ω)) (next : Script κ β ω) : (Script.group plugins next).exec call rounds =
      plugins.forM (add call) >>= fun _ => next.exec call rounds := by
  induction plugins with
  | nil => rfl
  | cons plugin plugins ih =>
    show add call plugin >>= (fun _ => (Script.group plugins next).exec call rounds) =
      (add call plugin >>= fun _ => plugins.forM (add call)) >>= _
    rw [ih, bind_assoc]

theorem added_of_add {depth : Nat} {h h' : Hosting κ β ω} {plugin : Plugin κ β ω}
    (hrun : (add (invoke depth) plugin).runOn h = (.ok (), h')) : h.Added [plugin] h' := by
  have hopen : ¬h.server.Closed plugin.info := by
    intro hclosed
    obtain ⟨refusal, -, hrefused⟩ := add_of_closed hclosed
    rw [hrefused] at hrun
    cases hrun
  refine ⟨fun hfresh => ?_, fun hstarted => ?_⟩
  · rw [add_of_open hopen hfresh] at hrun
    obtain ⟨-, rfl⟩ := Prod.mk.inj hrun
    exact ⟨hfresh, rfl⟩
  · rw [add_of_building hopen hstarted] at hrun
    obtain ⟨_, m, hbuild, henroll⟩ := Effect.runOn_bind_eq_ok_iff.mp hrun
    obtain ⟨-, rfl⟩ := Prod.mk.inj henroll
    -- whatever the build call has built meanwhile comes in between
    have hgrows := invoke_grows depth plugin .build (h.update (·.noteId plugin.info.id))
    rw [hbuild] at hgrows
    exact hgrows.built.sublist.append_right [plugin]

theorem added_of_forM {depth : Nat} {h h' : Hosting κ β ω} {plugins : List (Plugin κ β ω)}
    (hrun : (plugins.forM (add (invoke depth))).runOn h = (.ok (), h')) : h.Added plugins h' := by
  induction plugins generalizing h with
  | nil =>
    obtain ⟨-, rfl⟩ := Prod.mk.inj hrun
    exact ⟨fun hfresh => ⟨hfresh, (List.append_nil _).symm⟩, fun _ => by rw [List.append_nil]⟩
  | cons plugin plugins ih =>
    obtain ⟨_, m, hfirst, hrest⟩ := Effect.runOn_bind_eq_ok_iff.mp hrun
    have hadded := added_of_add hfirst
    have hmore := ih hrest
    -- before building the first plugin is queued in front of the others; later it is called to build before them
    refine ⟨fun hfresh => ?_, fun hstarted => ?_⟩
    · obtain ⟨hstill, hpending⟩ := hadded.queued hfresh
      obtain ⟨hend, hall⟩ := hmore.queued hstill
      exact ⟨hend, by rw [hall, hpending, List.append_assoc, List.singleton_append]⟩
    · have hgrows := grows_add (invoke_grows depth) plugin h
      rw [hfirst] at hgrows
      have hsublist := (hadded.begun hstarted).append_right plugins
      rw [List.append_assoc] at hsublist
      exact hsublist.trans (hmore.begun (hgrows.started hstarted))

/-- **A group** stops at the first plugin that is refused; those before it are added. -/
theorem group_stops {depth : Nat} {h h' : Hosting κ β ω} {before : List (Plugin κ β ω)}
    {plugin : Plugin κ β ω} (hbefore : (run depth (.group before .done)).runOn h = (.ok (), h'))
    (hclosed : h'.server.Closed plugin.info) (after : List (Plugin κ β ω)) (next : Script κ β ω) :
    h.Added before h' ∧ ∃ refusal, h'.server.refusal? plugin.info = some refusal ∧
      (run depth (.group (before ++ plugin :: after) next)).runOn h =
        (.error (.panic (.text refusal.message)), h') := by
  have hforM : (before.forM (add (invoke depth))).runOn h = (.ok (), h') := by
    rw [run, exec_group] at hbefore
    obtain ⟨_, m, hadds, hdone⟩ := Effect.runOn_bind_eq_ok_iff.mp hbefore
    obtain ⟨-, rfl⟩ := Prod.mk.inj hdone
    exact hadds
  obtain ⟨refusal, hrefusal, hrefused⟩ := add_of_closed hclosed
  refine ⟨added_of_forM hforM, refusal, hrefusal, ?_⟩
  have hgroup : Script.group (before ++ plugin :: after) next =
      .group before (.add plugin (.group after next)) := List.foldr_append
  rw [hgroup, run, exec_group, Effect.runOn_bind_ok hforM]
  exact Effect.runOn_bind_error (hrefused (invoke depth))

end ServerAct

/-! ## Histories -/

section Histories

variable [DecidableEq κ]

/-- None of the scripts runs out of depth when they are run one after the other: nothing comes after a script
that goes on for ever. -/
def Hosting.Ample (depth : Nat) : Hosting κ β ω → List (Script κ β ω) → Prop
  | _, [] => True
  | h, script :: scripts => ((ServerAct.run depth script).runOn h).1 ≠ .error .endless ∧
      Ample depth ((ServerAct.run depth script).runOn h).2 scripts

/-- As long as the depth suffices, a history is a path of steps. -/
theorem Life.exists_path {depth : Nat} {scripts : List (Script κ β ω)} {l m : Life κ β ω} (hs : l.Sound)
    (hm : m.journaled = l.journaled) (hample : m.plain.Ample depth scripts) : ∃ l' m' : Life κ β ω,
    l.journaled.after depth (scripts.map (·.journaled)) = l'.journaled ∧ ReflTransGen Step l l' ∧
      m'.journaled = l'.journaled ∧ m.plain.after depth scripts = m'.plain := by
  induction scripts generalizing l m with
  | nil => exact ⟨l, m, rfl, .refl, hm, rfl⟩
  | cons script scripts ih =>
    -- both servers run the script, and only the one with a journal is known to go along the steps
    obtain ⟨m', hrun', hrun⟩ := ServerAct.mirrors_run depth script m
    rw [hm] at hrun'
    obtain ⟨hunended, hrest⟩ := hample
    obtain ⟨k, hk, hpath | ⟨hendless, -⟩⟩ := ServerAct.comesTo_run depth hs script
    · rw [hrun'] at hk
      rw [hrun] at hrest
      obtain ⟨l', m'', hl', hpath', hsame, hplain⟩ := ih (hs.path hpath) hk hrest
      refine ⟨l', m'', ?_, hpath.trans hpath', hsame, ?_⟩
      · rw [← hl', List.map_cons, Hosting.after, List.foldl_cons, hrun', ← hk]
        rfl
      · rw [← hplain, Hosting.after, List.foldl_cons, hrun]
        rfl
    · -- both servers halt for the same reason
      rw [hrun'] at hendless
      exact absurd hendless hunended

theorem judged_of_finish {depth : Nat} {outside : ω} {earlier : List (Script κ β ω)} {h : Hosting κ β ω}
    (hfinish : (ServerAct.run depth (.finish .done)).runOn
      (Hosting.after depth ⟨Server.empty, outside⟩ earlier) = (.ok (), h)) :
    (journal depth outside (earlier ++ [.finish .done])).Judged := by
  obtain ⟨l, hl, hmoves⟩ := Life.exists_course depth outside earlier
  have hmatches := Life.matches_of_journaled hl
  -- building has not started by then, so the course up to there is a path
  obtain ⟨_, _, hfirst, _⟩ := Effect.runOn_bind_eq_ok_iff.mp hfinish
  have hfresh := hmatches.state.trans ((ServerAct.runOn_finish_eq_ok_iff _).mp hfirst).1
  have hvetted := (Life.vetted_start outside).path (Life.path_of_moves hmoves hfresh)
  obtain ⟨l₀, hjournaled, hplain⟩ := (Life.start outside : Life κ β ω).exists_after depth earlier
  obtain ⟨_, hmirror, -⟩ := ServerAct.mirrors_run depth (.finish .done) l₀
  have hreturned : ((ServerAct.run depth (Script.finish .done).journaled).runOn l.journaled).1 = .ok () := by
    have hsame : l.journaled = l₀.journaled := hl.symm.trans hjournaled
    rw [hsame, hmirror, ← hplain]
    exact congrArg Prod.fst hfinish
  obtain ⟨l', hl', hpath | ⟨hendless, -⟩⟩ := ServerAct.comesTo_run depth hvetted.sound (.finish .done)
  · have hjournal : journal depth outside (earlier ++ [.finish .done]) = l'.journal := by
      rw [journal, journaledAfter, List.map_append, Hosting.after_append, ← journaledAfter, hl]
      exact congrArg (·.outside.2) hl'
    rw [hjournal]
    exact (hvetted.path hpath).judged
  · cases hreturned.symm.trans hendless

/-- **Every addition**, whoever asks for it and whatever has happened before, is refused if the server is
finished or the plugin is unique and one of its id was admitted, and only then; whoever is refused changes
nothing, and whoever is not is queued or called to build at once. Where the last script runs out of depth,
the last offer may be left undecided. -/
theorem Hosting.additions_decided {depth : Nat} {outside : ω} {earlier : List (Script κ β ω)}
    (hample : Hosting.Ample depth ⟨Server.empty, outside⟩ earlier) (last : Script κ β ω) :
    (∃ entries rest, journal depth outside (earlier ++ [last]) = entries ++ rest ∧ entries.Judged ∧
      (∀ number later first second, number < later → entries.Admitted number first →
        entries.Admitted later second → second.id = first.id → second.isUnique = false) ∧
      (rest = [] ∨ (∃ number info, rest = [.offered number info]) ∧
        ((ServerAct.run depth last).runOn (Hosting.after depth ⟨Server.empty, outside⟩ earlier)).1 =
          .error .endless)) ∧
    (∀ info, (Hosting.after depth ⟨Server.empty, outside⟩ earlier).server.Closed info ↔
      (journal depth outside earlier).Closes info) ∧
    (∀ depth' (h : Hosting κ β ω) plugin, h.AddsTo depth' plugin) ∧
    ∀ depth' (h h' : Hosting κ β ω) before plugin after next,
      (ServerAct.run depth' (.group before .done)).runOn h = (.ok (), h') → h'.server.Closed plugin.info →
      h.Added before h' ∧ ∃ refusal, h'.server.refusal? plugin.info = some refusal ∧
        (ServerAct.run depth' (.group (before ++ plugin :: after) next)).runOn h =
          (.error (.panic (.text refusal.message)), h') := by
  obtain ⟨l, m, hl, hpath, hm, hplain⟩ := Life.exists_path (Life.sound_start outside) rfl hample
  have hvetted := (Life.vetted_start outside).path hpath
  have hafter : Hosting.after depth ⟨Server.empty, outside⟩ earlier = m.plain := hplain
  obtain ⟨m', hmirror, -⟩ := ServerAct.mirrors_run depth last m
  rw [hm] at hmirror
  refine ⟨?_, fun info => ?_, fun depth' h plugin => ServerAct.addsTo depth' h plugin,
    fun depth' h h' before plugin after next hbefore hclosed =>
      ServerAct.group_stops hbefore hclosed after next⟩
  -- the last script may break off in the middle, so the journal is followed to where it does
  · obtain ⟨l', hl', hcourse⟩ := ServerAct.comesTo_run depth hvetted.sound last
    have hjournal : journal depth outside (earlier ++ [last]) = l'.journal := by
      rw [journal, journaledAfter, List.map_append, Hosting.after_append, hl]
      exact congrArg (·.outside.2) hl'
    rw [hjournal, hafter]
    rcases hcourse with hpath' | ⟨hendless, k, hpath', hcut⟩
    · have hjudged := (hvetted.path hpath').judged
      exact ⟨l'.journal, [], (List.append_nil _).symm, hjudged, fun _ _ _ _ => hjudged.first, .inl rfl⟩
    · -- the depth gave out in the middle of an addition, and its offer is the last entry
      have hjudged := (hvetted.path hpath').judged
      rw [hmirror] at hendless
      cases hcut with
      | mk => exact ⟨k.journal, _, rfl, hjudged, fun _ _ _ _ => hjudged.first, .inr ⟨⟨_, _, rfl⟩, hendless⟩⟩
  · have hjournal : journal depth outside earlier = l.journal := congrArg (·.outside.2) hl
    have hserver : m.journaled.server.Closed info ↔ l.journaled.server.Closed info := by rw [hm]
    rw [hafter, hjournal]
    exact hserver.trans (hvetted.closed_iff info)

/-- A plugin that is built adds another one, which is offered again when the server is finished. -/
theorem Hosting.additions_decided_finished :
    Hosting.Ample 3 ⟨Server.empty, ()⟩ [.add Sample.parent .done, .finish .done] ∧
      (journal 3 () ([.add Sample.parent .done, .finish .done] ++ [.add Sample.base .done])).Judged ∧
      (journal 3 () [.add Sample.parent .done, .finish .done]).Closes Sample.base.info ∧
      (ServerAct.run 3 (.add Sample.base .done)).runOn
          (Hosting.after 3 ⟨Server.empty, ()⟩ [.add Sample.parent .done, .finish .done]) =
        (.error (.panic (.text (Server.Refusal.alreadyBuilt "host::Base").message)),
          Hosting.after 3 ⟨Server.empty, ()⟩ [.add Sample.parent .done, .finish .done]) := by
  obtain ⟨h, hfinish⟩ := Sample.finish_parent
  -- finishing returned, so nothing ran out of depth
  have hample : Hosting.Ample 3 ⟨Server.empty, ()⟩ [.add Sample.parent .done, .finish .done] := by
    refine ⟨nofun, fun hendless => ?_, trivial⟩
    have hok := (congrArg Prod.fst hfinish).symm.trans hendless
    cases hok
  have hbuilt : (Hosting.after 3 ⟨Server.empty, ()⟩ [.add Sample.parent .done, .finish .done]).server.state =
      .built := by
    obtain ⟨_, m, _, _, _, _, _, _, _, _, hm, _, hstate, _⟩ := exists_completes hfinish
    exact (Life.matches_of_journaled hm).state.symm.trans hstate
  obtain ⟨⟨entries, rest, hjournal, hjudged, -, hrest⟩, hclosed, hadds, -⟩ :=
    Hosting.additions_decided hample (.add Sample.base .done)
  have hcloses := (hclosed Sample.base.info).mp (.inl hbuilt)
  obtain ⟨refusal, hrefusal, hrefused⟩ := (hadds 3 _ Sample.base).refused (.inl hbuilt)
  rw [Server.refusal?_of_built hbuilt] at hrefusal
  obtain rfl := Option.some.inj hrefusal
  have hrun := Effect.runOn_bind_error (f := fun _ => Script.exec (ServerAct.invoke 3) 3 .done)
    (hrefused (ServerAct.invoke 3))
  refine ⟨hample, ?_, hcloses, hrun⟩
  -- the refusal is a panic, and so it is not the depth that gave out
  obtain rfl | ⟨-, hendless⟩ := hrest
  · rw [hjournal, List.append_nil]
    exact hjudged
  · have hhalt := (congrArg Prod.fst hrun).symm.trans hendless
    cases hhalt

end Histories

end LiveSwap
