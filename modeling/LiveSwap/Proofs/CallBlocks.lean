import LiveSwap.Proofs.Journal
import Mathlib.Data.List.Nodup
import Mathlib.Data.List.Perm.Basic

/-!
# What journals look like

The grammar of the entries that a started server leaves behind when the requests made to it end, and
what follows from it. A call is everything between its entry and the entry of its end, which is a return or
a panic. An addition is an offer, the plugin's build call and an acceptance; it comes to an end after the offer
if it is refused, and after the build call if that panics.

* **`Nested`** — the entries of requests made while the server builds or after it was finished.
* **`Blocks`** — the entries of a loop that calls one method of several plugins in turn.
* **`Nested.perm_called`**, **`Nested.called_sublist`** — whoever is called to build was offered, and is
  accepted unless the call panics.
* **`Nested.block_of_called`** — the build call comes right after the offer.
* **`Blocks.outermost_eq`** — the calls that a loop makes itself are those of its plugins, in their
  order, whatever goes on inside the calls.
-/

namespace LiveSwap

/-! ## Views of a journal -/

def Entry.offered? : Entry → Option Nat
  | .offered number _ => some number
  | _ => none

def Entry.accepted? : Entry → Option Nat
  | .accepted number => some number
  | _ => none

def Entry.called? (phase : Phase) : Entry → Option Nat
  | .called number p => if p = phase then some number else none
  | _ => none

def Entry.returned? (phase : Phase) : Entry → Option Nat
  | .returned number p => if p = phase then some number else none
  | _ => none

def Entry.panicked? (phase : Phase) : Entry → Option Nat
  | .panicked number p => if p = phase then some number else none
  | _ => none

theorem Entry.accepted?_eq_some_iff {entry : Entry} {number : Nat} :
    entry.accepted? = some number ↔ entry = .accepted number := by
  cases entry <;> simp [accepted?]

theorem Entry.called?_eq_some_iff {entry : Entry} {phase : Phase} {number : Nat} :
    entry.called? phase = some number ↔ entry = .called number phase := by
  cases entry <;> simp [called?, and_comm]

theorem Entry.returned?_eq_some_iff {entry : Entry} {phase : Phase} {number : Nat} :
    entry.returned? phase = some number ↔ entry = .returned number phase := by
  cases entry <;> simp [returned?, and_comm]

theorem Entry.panicked?_eq_some_iff {entry : Entry} {phase : Phase} {number : Nat} :
    entry.panicked? phase = some number ↔ entry = .panicked number phase := by
  cases entry <;> simp [panicked?, and_comm]

namespace Journal

def offered (entries : Journal) : List Nat := entries.filterMap Entry.offered?

def accepted (entries : Journal) : List Nat := entries.filterMap Entry.accepted?

def called (phase : Phase) (entries : Journal) : List Nat := entries.filterMap (Entry.called? phase)

def returned (phase : Phase) (entries : Journal) : List Nat :=
  entries.filterMap (Entry.returned? phase)

def panicked (phase : Phase) (entries : Journal) : List Nat :=
  entries.filterMap (Entry.panicked? phase)

/-- The calls that are made while no other call is under way, in order; `depth` is the number of calls
under way at the beginning. -/
def outermost : Nat → Journal → List (Nat × Phase)
  | _, [] => []
  | 0, .called number phase :: entries => (number, phase) :: outermost 1 entries
  | depth + 1, .called _ _ :: entries => outermost (depth + 2) entries
  | depth, .returned _ _ :: entries => outermost (depth - 1) entries
  | depth, .panicked _ _ :: entries => outermost (depth - 1) entries
  | depth, _ :: entries => outermost depth entries

section Append

variable (entries more : Journal) (phase : Phase)

@[simp] theorem offered_append : offered (entries ++ more) = offered entries ++ offered more :=
  List.filterMap_append

@[simp] theorem accepted_append : accepted (entries ++ more) = accepted entries ++ accepted more :=
  List.filterMap_append

@[simp] theorem called_append :
    called phase (entries ++ more) = called phase entries ++ called phase more := List.filterMap_append

@[simp] theorem returned_append :
    returned phase (entries ++ more) = returned phase entries ++ returned phase more :=
  List.filterMap_append

@[simp] theorem panicked_append :
    panicked phase (entries ++ more) = panicked phase entries ++ panicked phase more :=
  List.filterMap_append

end Append

section Cons

variable (entry : Entry) (entries : Journal) (phase : Phase)

@[simp] theorem offered_nil : offered [] = [] := rfl

@[simp] theorem offered_cons : offered (entry :: entries) = entry.offered?.toList ++ offered entries := by
  rw [offered, List.filterMap_cons]
  cases entry.offered? <;> rfl

@[simp] theorem accepted_nil : accepted [] = [] := rfl

@[simp] theorem accepted_cons :
    accepted (entry :: entries) = entry.accepted?.toList ++ accepted entries := by
  rw [accepted, List.filterMap_cons]
  cases entry.accepted? <;> rfl

@[simp] theorem called_nil : called phase [] = [] := rfl

@[simp] theorem called_cons :
    called phase (entry :: entries) = (entry.called? phase).toList ++ called phase entries := by
  rw [called, List.filterMap_cons]
  cases entry.called? phase <;> rfl

@[simp] theorem returned_nil : returned phase [] = [] := rfl

@[simp] theorem returned_cons :
    returned phase (entry :: entries) = (entry.returned? phase).toList ++ returned phase entries := by
  rw [returned, List.filterMap_cons]
  cases entry.returned? phase <;> rfl

@[simp] theorem panicked_nil : panicked phase [] = [] := rfl

@[simp] theorem panicked_cons :
    panicked phase (entry :: entries) = (entry.panicked? phase).toList ++ panicked phase entries := by
  rw [panicked, List.filterMap_cons]
  cases entry.panicked? phase <;> rfl

end Cons

theorem mem_accepted {entries : Journal} {number : Nat} :
    number ∈ accepted entries ↔ .accepted number ∈ entries := by
  simp [accepted, List.mem_filterMap, Entry.accepted?_eq_some_iff]

theorem mem_called {phase : Phase} {entries : Journal} {number : Nat} :
    number ∈ called phase entries ↔ .called number phase ∈ entries := by
  simp [called, List.mem_filterMap, Entry.called?_eq_some_iff]

theorem mem_returned {phase : Phase} {entries : Journal} {number : Nat} :
    number ∈ returned phase entries ↔ .returned number phase ∈ entries := by
  simp [returned, List.mem_filterMap, Entry.returned?_eq_some_iff]

theorem mem_panicked {phase : Phase} {entries : Journal} {number : Nat} :
    number ∈ panicked phase entries ↔ .panicked number phase ∈ entries := by
  simp [panicked, List.mem_filterMap, Entry.panicked?_eq_some_iff]

/-! ## Numbers -/

/-- Plugins have the places of their offers for numbers, where `place` is that of the first entry. -/
def Numbered : Nat → Journal → Prop
  | _, [] => True
  | place, .offered number _ :: entries => number = place ∧ Numbered (place + 1) entries
  | place, _ :: entries => Numbered (place + 1) entries

theorem numbered_append {place : Nat} {entries more : Journal} : Numbered place (entries ++ more) ↔
    Numbered place entries ∧ Numbered (place + entries.length) more := by
  induction entries generalizing place with
  | nil => simp [Numbered]
  | cons entry entries ih =>
    have hplace : place + (entries.length + 1) = place + 1 + entries.length := by omega
    cases entry <;> simp [Numbered, ih, hplace, and_assoc]

theorem Numbered.offered_bounds {place : Nat} {entries : Journal} (h : Numbered place entries) :
    ∀ number ∈ offered entries, place ≤ number ∧ number < place + entries.length := by
  -- each entry is one place further on, and only offers carry numbers
  induction entries generalizing place with
  | nil => simp
  | cons entry entries ih =>
    intro number hnumber
    rw [List.length_cons]
    rw [offered_cons, List.mem_append] at hnumber
    cases entry with
    | offered other info =>
      obtain ⟨rfl, hrest⟩ := h
      rcases hnumber with hfirst | hlater
      · obtain rfl : number = other := by simpa [Entry.offered?] using hfirst
        omega
      · have := ih hrest number hlater
        omega
    | _ =>
      have := ih h number (by simpa [Entry.offered?] using hnumber)
      omega

theorem Numbered.nodup_offered {place : Nat} {entries : Journal} (h : Numbered place entries) :
    (offered entries).Nodup := by
  induction entries generalizing place with
  | nil => exact List.nodup_nil
  | cons entry entries ih =>
    cases entry with
    | offered number info =>
      obtain ⟨rfl, hrest⟩ := h
      -- whatever is offered later has a larger number
      have hlater : number ∉ offered entries := by
        intro hmem
        have := hrest.offered_bounds number hmem
        omega
      exact List.nodup_cons.mpr ⟨hlater, ih hrest⟩
    | _ => exact ih h

end Journal

/-! ## Blocks -/

/-- How a call ends, if it does. -/
inductive Ending where
  | returns | panics
  deriving DecidableEq, Repr

def Entry.ended (number : Nat) (phase : Phase) : Ending → Entry
  | .returns => .returned number phase
  | .panics => .panicked number phase

namespace Journal

/-- The entries of a call, where `inner` is what is written inside. -/
def block (number : Nat) (phase : Phase) (inner : Journal) (ending : Ending) : Journal :=
  .called number phase :: (inner ++ [.ended number phase ending])

section Block

variable (number : Nat) (phase : Phase) (inner : Journal) (ending : Ending)

@[simp] theorem length_block : (block number phase inner ending).length = inner.length + 2 := by
  simp [block]

@[simp] theorem offered_block : offered (block number phase inner ending) = offered inner := by
  cases ending <;> simp [block, Entry.ended, Entry.offered?]

@[simp] theorem accepted_block : accepted (block number phase inner ending) = accepted inner := by
  cases ending <;> simp [block, Entry.ended, Entry.accepted?]

@[simp] theorem called_block (p : Phase) : called p (block number phase inner ending) =
    (if phase = p then [number] else []) ++ called p inner := by
  by_cases hp : phase = p <;> cases ending <;> simp [block, Entry.ended, Entry.called?, hp]

@[simp] theorem returned_block (p : Phase) : returned p (block number phase inner ending) =
    returned p inner ++ if phase = p ∧ ending = .returns then [number] else [] := by
  by_cases hp : phase = p <;> cases ending <;> simp [block, Entry.ended, Entry.returned?, hp]

@[simp] theorem panicked_block (p : Phase) : panicked p (block number phase inner ending) =
    panicked p inner ++ if phase = p ∧ ending = .panics then [number] else [] := by
  by_cases hp : phase = p <;> cases ending <;> simp [block, Entry.ended, Entry.panicked?, hp]

theorem inner_infix_block : inner <:+: block number phase inner ending :=
  ⟨[.called number phase], [.ended number phase ending], by simp [block]⟩

theorem numbered_block_append {place : Nat} {rest : Journal} :
    Numbered place (block number phase inner ending ++ rest) ↔
      Numbered (place + 1) inner ∧ Numbered (place + inner.length + 2) rest := by
  have hplace : place + 1 + inner.length + 1 = place + inner.length + 2 := by omega
  have hblock : block number phase inner ending ++ rest =
      .called number phase :: (inner ++ .ended number phase ending :: rest) := by simp [block]
  rw [hblock, Numbered, numbered_append]
  · cases ending <;> simp [Entry.ended, Numbered, hplace]
  · simp

/-- Whatever is written inside a call is written at a greater depth. -/
theorem outermost_block_append {depth : Nat} {rest : Journal} (hinner : ∀ depth more,
    outermost (depth + 1) (inner ++ more) = outermost (depth + 1) more) :
    outermost (depth + 1) (block number phase inner ending ++ rest) = outermost (depth + 1) rest := by
  cases ending <;> simp [block, Entry.ended, outermost, hinner]

end Block

end Journal

open Journal

/-! ## Requests that end -/

/-- The entries of requests to a server that has started to build, if all of them end; the first one is at a
place of the journal. Whoever makes the requests may go on after one that ends with a panic. -/
inductive Nested : Nat → Journal → Prop where
  | nil {place : Nat} : Nested place []
  /-- An addition that is refused. -/
  | refused {place : Nat} {info : PluginInfo} {rest : Journal} (hrest : Nested (place + 1) rest) :
      Nested place (.offered place info :: rest)
  | add {place : Nat} {info : PluginInfo} {inner rest : Journal} (hinner : Nested (place + 2) inner)
      (hrest : Nested (place + inner.length + 4) rest) :
      Nested place (.offered place info :: (block place .build inner .returns ++ .accepted place :: rest))
  /-- An addition whose build call panics. -/
  | broken {place : Nat} {info : PluginInfo} {inner rest : Journal} (hinner : Nested (place + 2) inner)
      (hrest : Nested (place + inner.length + 3) rest) :
      Nested place (.offered place info :: (block place .build inner .panics ++ rest))
  | call {place number : Nat} {phase : Phase} {ending : Ending} {inner rest : Journal}
      (hbuild : phase ≠ .build) (hready : phase ≠ .ready) (hinner : Nested (place + 1) inner)
      (hrest : Nested (place + inner.length + 2) rest) :
      Nested place (block number phase inner ending ++ rest)
  /-- An attempt to finish the server, which is refused. -/
  | attempt {place : Nat} {rest : Journal} (hrest : Nested (place + 1) rest) :
      Nested place (.finishing :: rest)

namespace Nested

variable {place : Nat} {entries more : Journal}

theorem append (h : Nested place entries) (hmore : Nested (place + entries.length) more) :
    Nested place (entries ++ more) := by
  -- what comes behind is at the same place, however the entries before it are grouped
  induction h with
  | nil => exact hmore
  | refused _ ih =>
    exact (ih (by simpa [Nat.add_assoc, Nat.add_left_comm, Nat.add_comm] using hmore)).refused
  | @add place info inner rest hinner _ _ ih =>
    have hrest := ih (by simpa [Nat.add_assoc, Nat.add_left_comm, Nat.add_comm] using hmore)
    simpa using hinner.add hrest
  | @broken place info inner rest hinner _ _ ih =>
    have hrest := ih (by simpa [Nat.add_assoc, Nat.add_left_comm, Nat.add_comm] using hmore)
    simpa using hinner.broken hrest
  | @call place number phase ending inner rest hbuild hready hinner _ _ ih =>
    have hrest := ih (by simpa [Nat.add_assoc, Nat.add_left_comm, Nat.add_comm] using hmore)
    simpa using hinner.call hbuild hready hrest
  | attempt _ ih =>
    exact (ih (by simpa [Nat.add_assoc, Nat.add_left_comm, Nat.add_comm] using hmore)).attempt

theorem numbered (h : Nested place entries) : Numbered place entries := by
  induction h with
  | nil => trivial
  | refused _ ih => exact ⟨rfl, ih⟩
  | @add place info inner rest _ _ ihinner ihrest =>
    refine ⟨rfl, (numbered_block_append ..).mpr ⟨ihinner, ?_⟩⟩
    -- the addition takes two entries in front of the inner ones and two behind them
    have hplace : place + 1 + inner.length + 2 + 1 = place + inner.length + 4 := by omega
    simpa only [Numbered, hplace] using ihrest
  | @broken place info inner rest _ _ ihinner ihrest =>
    refine ⟨rfl, (numbered_block_append ..).mpr ⟨ihinner, ?_⟩⟩
    -- a broken addition is never accepted, so one entry less
    have hplace : place + 1 + inner.length + 2 = place + inner.length + 3 := by omega
    rwa [hplace]
  | call _ _ _ _ ihinner ihrest => exact (numbered_block_append ..).mpr ⟨ihinner, ihrest⟩
  | attempt _ ih => exact ih

/-- Whoever is called to build was offered; an offer may be refused. -/
theorem called_sublist (h : Nested place entries) : (called .build entries).Sublist (offered entries) := by
  induction h with
  | nil => exact .slnil
  | @refused place _ _ _ ih => simpa [Entry.called?, Entry.offered?] using ih.cons place
  | @add place _ _ _ _ _ ihinner ihrest =>
    simpa [Entry.called?, Entry.offered?] using (ihinner.append ihrest).cons_cons place
  | @broken place _ _ _ _ _ ihinner ihrest =>
    simpa [Entry.called?, Entry.offered?] using (ihinner.append ihrest).cons_cons place
  | call hbuild _ _ _ ihinner ihrest => simpa [hbuild] using ihinner.append ihrest
  | attempt _ ih => simpa [Entry.called?, Entry.offered?] using ih

/-- The addition returns right after the build call. -/
theorem returned_build (h : Nested place entries) : returned .build entries = accepted entries := by
  induction h with
  | nil => rfl
  | refused _ ih => simp [Entry.returned?, Entry.accepted?, ih]
  | add _ _ ihinner ihrest => simp [Entry.returned?, Entry.accepted?, ihinner, ihrest]
  | broken _ _ ihinner ihrest => simp [Entry.returned?, Entry.accepted?, ihinner, ihrest]
  | call hbuild _ _ _ ihinner ihrest => simp [hbuild, ihinner, ihrest]
  | attempt _ ih => simp [Entry.returned?, Entry.accepted?, ih]

/-- **Whoever is called to build** is accepted, or the call has panicked. -/
theorem perm_called (h : Nested place entries) :
    (accepted entries ++ panicked .build entries).Perm (called .build entries) := by
  -- a permutation of numbers is an equality of counts, and counts add up over the parts
  rw [List.perm_iff_count]
  intro number
  induction h with
  | nil => rfl
  | refused _ ih => simpa [Entry.accepted?, Entry.panicked?, Entry.called?] using ih
  | @add place _ inner rest _ _ ihinner ihrest =>
    simp only [List.count_append] at ihinner ihrest
    simp [Entry.accepted?, Entry.panicked?, Entry.called?, List.count_cons]
    omega
  | @broken place _ inner rest _ _ ihinner ihrest =>
    simp only [List.count_append] at ihinner ihrest
    simp [Entry.accepted?, Entry.panicked?, Entry.called?, List.count_cons]
    omega
  | @call place _ _ _ inner rest hbuild _ _ _ ihinner ihrest =>
    simp only [List.count_append] at ihinner ihrest
    simp [hbuild]
    omega
  | attempt _ ih => simpa [Entry.accepted?, Entry.panicked?, Entry.called?] using ih

theorem called_ready (h : Nested place entries) : called .ready entries = [] := by
  induction h with
  | nil => rfl
  | refused _ ih => simp [Entry.called?, ih]
  | add _ _ ihinner ihrest => simp [Entry.called?, ihinner, ihrest]
  | broken _ _ ihinner ihrest => simp [Entry.called?, ihinner, ihrest]
  | call _ hready _ _ ihinner ihrest => simp [hready, ihinner, ihrest]
  | attempt _ ih => simp [Entry.called?, ih]

theorem outermost_append (h : Nested place entries) (depth : Nat) (more : Journal) :
    outermost (depth + 1) (entries ++ more) = outermost (depth + 1) more := by
  induction h generalizing depth more with
  | nil => rfl
  | refused _ ih => simp [outermost, ih]
  | add _ _ ihinner ihrest => simp [outermost, outermost_block_append _ _ _ _ ihinner, ihrest]
  | broken _ _ ihinner ihrest => simp [outermost, outermost_block_append _ _ _ _ ihinner, ihrest]
  | call _ _ _ _ ihinner ihrest => simp [outermost_block_append _ _ _ _ ihinner, ihrest]
  | attempt _ ih => simp [outermost, ih]

/-- **The build call of whoever is called to build** comes right after the offer. -/
theorem block_of_called (h : Nested place entries) {number : Nat} (hcalled : number ∈ called .build entries) :
    ∃ info inner ending, Nested (number + 2) inner ∧
      (.offered number info :: block number .build inner ending) <:+: entries := by
  induction h with
  | nil => cases hcalled
  | refused _ ih =>
    obtain ⟨info, inner, ending, hinner, hpart⟩ := ih (by simpa [Entry.called?] using hcalled)
    exact ⟨info, inner, ending, hinner, hpart.trans (List.suffix_cons _ _).isInfix⟩
  | @add place other inner rest hinner _ ihinner ihrest =>
    simp only [called_cons, called_append, called_block, Entry.called?, Option.toList_none, if_pos,
      List.nil_append, List.mem_append, List.mem_singleton] at hcalled
    -- it is the addition itself, or one inside its build call, or a later one
    obtain (rfl | hmem) | hmem := hcalled
    · exact ⟨other, inner, .returns, hinner, [], .accepted number :: rest, by simp⟩
    · obtain ⟨info, within, ending, hwithin, hpart⟩ := ihinner hmem
      refine ⟨info, within, ending, hwithin, hpart.trans ((inner_infix_block place .build inner .returns).trans ?_)⟩
      exact ⟨[.offered place other], .accepted place :: rest, by simp⟩
    · obtain ⟨info, within, ending, hwithin, hpart⟩ := ihrest hmem
      refine ⟨info, within, ending, hwithin, hpart.trans ?_⟩
      exact ⟨.offered place other :: block place .build inner .returns ++ [.accepted place], [], by simp⟩
  | @broken place other inner rest hinner _ ihinner ihrest =>
    simp only [called_cons, called_append, called_block, Entry.called?, Option.toList_none, if_pos,
      List.nil_append, List.mem_append, List.mem_singleton] at hcalled
    obtain (rfl | hmem) | hmem := hcalled
    · exact ⟨other, inner, .panics, hinner, [], rest, by simp⟩
    · obtain ⟨info, within, ending, hwithin, hpart⟩ := ihinner hmem
      refine ⟨info, within, ending, hwithin, hpart.trans ((inner_infix_block place .build inner .panics).trans ?_)⟩
      exact ⟨[.offered place other], rest, by simp⟩
    · obtain ⟨info, within, ending, hwithin, hpart⟩ := ihrest hmem
      refine ⟨info, within, ending, hwithin, hpart.trans ?_⟩
      exact ⟨.offered place other :: block place .build inner .panics, [], by simp⟩
  | call hbuild _ _ _ ihinner ihrest =>
    simp only [called_append, called_block, if_neg hbuild, List.nil_append, List.mem_append] at hcalled
    obtain hmem | hmem := hcalled
    · obtain ⟨info, within, ending, hwithin, hpart⟩ := ihinner hmem
      exact ⟨info, within, ending, hwithin,
        hpart.trans ((inner_infix_block ..).trans (List.prefix_append _ _).isInfix)⟩
    · obtain ⟨info, within, ending, hwithin, hpart⟩ := ihrest hmem
      exact ⟨info, within, ending, hwithin, hpart.trans (List.suffix_append _ _).isInfix⟩
  | attempt _ ih =>
    obtain ⟨info, inner, ending, hinner, hpart⟩ := ih (by simpa [Entry.called?] using hcalled)
    exact ⟨info, inner, ending, hinner, hpart.trans (List.suffix_cons _ _).isInfix⟩

theorem count_added (h : Nested place entries) (number : Nat) :
    (accepted entries).count number + (panicked .build entries).count number ≤ (offered entries).count number := by
  rw [← List.count_append, h.perm_called.count_eq]
  exact h.called_sublist.count_le number

theorem nodup_called (h : Nested place entries) : (accepted entries ++ panicked .build entries).Nodup :=
  h.perm_called.nodup_iff.mpr (h.numbered.nodup_offered.sublist h.called_sublist)

/-- **Whoever is accepted was built.** -/
theorem block_of_accepted (h : Nested place entries) {number : Nat} (haccepted : number ∈ accepted entries) :
    ∃ inner, Nested (number + 2) inner ∧ block number .build inner .returns <:+: entries := by
  obtain ⟨info, inner, ending, hinner, hpart⟩ :=
    h.block_of_called (h.perm_called.mem_iff.mp (List.mem_append_left _ haccepted))
  have hblock := (List.suffix_cons _ _).isInfix.trans hpart
  cases ending with
  | returns => exact ⟨inner, hinner, hblock⟩
  | panics =>
    -- nobody is called to build twice, so the call has not panicked
    have hpanicked : number ∈ panicked .build entries :=
      mem_panicked.mpr (hblock.subset (by simp [block, Entry.ended]))
    exact absurd rfl ((List.nodup_append.mp h.nodup_called).2.2 _ haccepted _ hpanicked)

end Nested

/-! ## Calls in turn -/

/-- The entries of calls of one method of several plugins in turn, if all of them return. -/
inductive Blocks (phase : Phase) : Nat → List Nat → Journal → Prop where
  | nil {place : Nat} : Blocks phase place [] []
  | cons {place number : Nat} {numbers : List Nat} {inner rest : Journal}
      (hinner : Nested (place + 1) inner) (hrest : Blocks phase (place + inner.length + 2) numbers rest) :
      Blocks phase place (number :: numbers) (block number phase inner .returns ++ rest)

namespace Blocks

variable {phase : Phase} {place : Nat} {numbers : List Nat} {entries : Journal}

theorem numbered (h : Blocks phase place numbers entries) : Numbered place entries := by
  induction h with
  | nil => trivial
  | cons hinner _ ih => exact (numbered_block_append ..).mpr ⟨hinner.numbered, ih⟩

/-- **The calls that the loop makes itself** are those of its plugins, in their order. -/
theorem outermost_eq (h : Blocks phase place numbers entries) :
    outermost 0 entries = numbers.map (·, phase) := by
  induction h with
  | nil => rfl
  | cons hinner _ ih => simp [block, Entry.ended, outermost, hinner.outermost_append, ih]

/-- Where the plugins are cut, the journal is cut. -/
theorem cut (h : Blocks phase place numbers entries) {before after : List Nat} {number : Nat}
    (hcut : numbers = before ++ number :: after) : ∃ start first inner rest,
      entries = first ++ block number phase inner .returns ++ rest ∧
        Blocks phase place before first ∧ Nested start inner := by
  induction h generalizing before with
  | nil => simp at hcut
  | @cons place other numbers inner rest hinner _ ih =>
    -- the number stands in the first block, or in one behind it
    cases before with
    | nil =>
      obtain ⟨rfl, rfl⟩ := List.cons.inj hcut
      exact ⟨_, [], inner, rest, rfl, .nil, hinner⟩
    | cons head before =>
      obtain ⟨rfl, htail⟩ := List.cons.inj hcut
      obtain ⟨start, first, within, last, rfl, hfirst, hwithin⟩ := ih htail
      exact ⟨start, block other phase inner .returns ++ first, within, last, by simp, .cons hinner hfirst,
        hwithin⟩

theorem mem_returned (h : Blocks phase place numbers entries) {number : Nat}
    (hnumber : number ∈ numbers) : number ∈ returned phase entries := by
  obtain ⟨before, after, hcut⟩ := List.append_of_mem hnumber
  obtain ⟨start, first, inner, rest, rfl, _, _⟩ := h.cut hcut
  simp

/-- Whoever is called to build has his turn, or is added in the turn of somebody. -/
theorem perm_called (h : Blocks .build place numbers entries) :
    (called .build entries).Perm (numbers ++ (accepted entries ++ panicked .build entries)) := by
  rw [List.perm_iff_count]
  intro other
  induction h with
  | nil => rfl
  | cons hinner _ ih =>
    have hcalled := hinner.perm_called.count_eq other
    simp only [List.count_append] at ih hcalled
    simp [List.count_cons]
    omega

theorem perm_returned (h : Blocks .build place numbers entries) :
    (returned .build entries).Perm (numbers ++ accepted entries) := by
  rw [List.perm_iff_count]
  intro other
  induction h with
  | nil => rfl
  | cons hinner _ ih =>
    simp only [List.count_append] at ih
    simp [hinner.returned_build, List.count_cons]
    omega

theorem count_added (h : Blocks phase place numbers entries) (number : Nat) :
    (accepted entries).count number + (panicked .build entries).count number ≤ (offered entries).count number := by
  induction h with
  | nil => exact Nat.le_refl 0
  | cons hinner _ ih =>
    have hadded := hinner.count_added number
    simp
    omega

theorem offered_of_added (h : Blocks phase place numbers entries) {number : Nat}
    (hadded : number ∈ accepted entries ++ panicked .build entries) : number ∈ offered entries := by
  have hcount := h.count_added number
  rw [← List.count_append] at hcount
  have hpos := List.count_pos_iff.mpr hadded
  exact List.count_pos_iff.mp (by omega)

theorem called_ready (h : Blocks .build place numbers entries) : called .ready entries = [] := by
  induction h with
  | nil => rfl
  | cons hinner _ ih => simp [hinner.called_ready, ih]

theorem offer_of_added (h : Blocks phase place numbers entries) {number : Nat}
    (hadded : number ∈ accepted entries ++ panicked .build entries) :
    ∃ info, [.offered number info, .called number .build] <:+: entries := by
  induction h with
  | nil => cases hadded
  | @cons place other numbers inner rest hinner _ ih =>
    -- whoever is added is added inside the first block or in the rest
    have hwhere : number ∈ accepted inner ++ panicked .build inner ∨
        number ∈ accepted rest ++ panicked .build rest := by
      simpa [or_assoc, or_left_comm] using hadded
    obtain hmem | hmem := hwhere
    · obtain ⟨info, within, ending, -, hpart⟩ := hinner.block_of_called (hinner.perm_called.mem_iff.mp hmem)
      have hfirst : [.offered number info, .called number .build] <:+:
          .offered number info :: block number .build within ending := ⟨[], _, rfl⟩
      exact ⟨info, hfirst.trans (hpart.trans ((inner_infix_block ..).trans (List.prefix_append _ _).isInfix))⟩
    · obtain ⟨info, hpart⟩ := ih hmem
      exact ⟨info, hpart.trans (List.suffix_append _ _).isInfix⟩

theorem block_of_returned (h : Blocks .build place numbers entries) {number : Nat}
    (hreturned : number ∈ returned .build entries) :
    ∃ start inner, Nested start inner ∧ block number .build inner .returns <:+: entries := by
  induction h with
  | nil => cases hreturned
  | @cons place other numbers inner rest hinner _ ih =>
    simp only [returned_append, returned_block, and_self, if_pos, List.mem_append, List.mem_singleton] at hreturned
    -- inside the block, the block itself, or a later one
    obtain (hmem | rfl) | hmem := hreturned
    · rw [hinner.returned_build] at hmem
      obtain ⟨within, hwithin, hpart⟩ := hinner.block_of_accepted hmem
      exact ⟨_, within, hwithin,
        hpart.trans ((inner_infix_block ..).trans (List.prefix_append _ _).isInfix)⟩
    · exact ⟨_, inner, hinner, (List.prefix_append _ _).isInfix⟩
    · obtain ⟨start, within, hwithin, hpart⟩ := ih hmem
      exact ⟨start, within, hwithin, hpart.trans (List.suffix_append _ _).isInfix⟩

end Blocks

/-! ## The ready loop -/

/-- The entries of the ready loop from a place of the build order on, if it ends: plugins are readied in
the order in which they were built, also those that are built on the way. -/
inductive Readies : Nat → List Nat → Nat → Journal → Prop where
  | done {start : Nat} {built : List Nat} {place : Nat} (hdone : built.length ≤ place) :
      Readies start built place []
  | next {start : Nat} {built : List Nat} {place number : Nat} {inner rest : Journal}
      (hnumber : built[place]? = some number) (hinner : Nested (start + 1) inner)
      (hrest : Readies (start + inner.length + 2) (built ++ returned .build inner) (place + 1) rest) :
      Readies start built place (block number .ready inner .returns ++ rest)

namespace Readies

variable {start place : Nat} {built : List Nat} {entries : Journal}

theorem blocks (h : Readies start built place entries) :
    Blocks .ready start (called .ready entries) entries := by
  induction h with
  | done => exact .nil
  | @next start built place number inner rest _ hinner _ ih =>
    simpa [hinner.called_ready] using Blocks.cons hinner ih

/-- **Plugins are readied in the order in which they were built.** -/
theorem called_ready (h : Readies start built place entries) :
    called .ready entries = (built ++ returned .build entries).drop place := by
  induction h with
  | done hdone => simp [hdone]
  | @next start built place number inner rest hnumber hinner _ ih =>
    -- what is built inside the call comes behind the place that is readied now
    have hlt := (List.getElem?_eq_some_iff.mp hnumber).1
    have hdrop : (built ++ (returned .build inner ++ returned .build rest)).drop place =
        number :: (built ++ (returned .build inner ++ returned .build rest)).drop (place + 1) := by
      rw [List.drop_eq_getElem_cons (by simp; omega)]
      simp [List.getElem_append_left hlt, (List.getElem?_eq_some_iff.mp hnumber).2]
    simp [hinner.called_ready, ih, hdrop]

theorem perm_called (h : Readies start built place entries) :
    (called .build entries).Perm (accepted entries ++ panicked .build entries) := by
  rw [List.perm_iff_count]
  intro other
  induction h with
  | done => rfl
  | next _ hinner _ ih =>
    have hcalled := hinner.perm_called.count_eq other
    simp only [List.count_append] at ih hcalled
    simp
    omega

theorem returned_build (h : Readies start built place entries) :
    returned .build entries = accepted entries := by
  induction h with
  | done => rfl
  | next _ hinner _ ih => simp [hinner.returned_build, ih]

/-- **Who is built in the loop is readied in it**, after that. -/
theorem ready_after_build (h : Readies start built place entries) {number : Nat}
    (hreturned : number ∈ returned .build entries) : ∃ start inner rest, Nested start inner ∧
      block number .build inner .returns ++ rest <:+ entries ∧ number ∈ called .ready rest := by
  induction h with
  | done => cases hreturned
  | @next start built place other inner rest hother hinner hrest ih =>
    simp only [returned_append, returned_block, reduceCtorEq, false_and, if_false, List.append_nil,
      List.mem_append] at hreturned
    -- the plugin is built while another one is readied, or later on
    obtain hmem | hmem := hreturned
    · obtain ⟨within, hwithin, before, after, hcut⟩ :=
        hinner.block_of_accepted (hinner.returned_build ▸ hmem)
      refine ⟨_, within, after ++ .returned other .ready :: rest, hwithin, ?_, ?_⟩
      · exact ⟨.called other .ready :: before, by simp [← hcut, block, Entry.ended]⟩
      · -- whoever is built now comes later than the place that is readied now
        have hlt := (List.getElem?_eq_some_iff.mp hother).1
        have hlater : number ∈ called .ready rest := by
          rw [hrest.called_ready, List.append_assoc, List.drop_append_of_le_length (by omega)]
          simp [hmem]
        simp [hlater]
    · obtain ⟨first, within, last, hwithin, hsuffix, hready⟩ := ih hmem
      exact ⟨first, within, last, hwithin, hsuffix.trans (List.suffix_append _ _), hready⟩

end Readies

end LiveSwap
