import LiveSwap.Proofs.Journal
import LiveSwap.Proofs.CallBlocks

/-!
# What is written once building has started

A server that has started to build, and whose plugins keep a journal, leaves entries of a known form
behind whenever something that is asked of it ends, by returning or with a panic; and the plugins that count
as built afterwards are those whose build call has returned, in that order.

* **`Life.Grown`** — a life with more entries, and with more plugins built.
* **`Ends`** — how a run has ended; a run that is stuck or out of depth has not.
* **`ServerAct.Logs`** — an action whose entries are those of requests that end.
* **`ServerAct.invoke_calls`** — every call of a journaled plugin that ends leaves a block.
* **`ServerAct.complete_logged`** — building and readying a queue leaves a block for every plugin of the
  queue, and then the entries of the ready loop.
* **`ServerAct.cleanup_logged`** — a cleanup leaves a block for every built plugin, last built first.
-/

namespace LiveSwap

open Journal

variable {κ : Type} {β : κ → Type} {ω : Type}

namespace Life

/-- The numbers of the built plugins, in build order. -/
def numbers (l : Life κ β ω) : List Nat := l.roster.built.map (·.number)

theorem getElem?_numbers (l : Life κ β ω) (place : Nat) :
    l.numbers[place]? = l.roster.built[place]?.map (·.number) := List.getElem?_map ..

/-- More was written, and every plugin whose build call returned meanwhile was built. -/
structure Grown (l : Life κ β ω) (entries : Journal) (l' : Life κ β ω) : Prop where
  journal : l'.journal = l.journal ++ entries
  state : l'.roster.state = l.roster.state
  pending : l'.roster.pending = l.roster.pending
  numbers : l'.numbers = l.numbers ++ returned .build entries

variable {l m l' : Life κ β ω} {entries more : Journal}

theorem Grown.refl (l : Life κ β ω) : l.Grown [] l := ⟨by simp, rfl, rfl, by simp⟩

theorem Grown.trans (h : l.Grown entries m) (h' : m.Grown more l') : l.Grown (entries ++ more) l' := by
  refine ⟨?_, h'.state.trans h.state, h'.pending.trans h.pending, ?_⟩
  · rw [h'.journal, h.journal, List.append_assoc]
  · rw [h'.numbers, h.numbers, returned_append, List.append_assoc]

theorem Grown.length (h : l.Grown entries l') :
    l'.journal.length = l.journal.length + entries.length := by
  rw [h.journal, List.length_append]

theorem grown_noted (l : Life κ β ω) (entry : Entry) (hentry : entry.returned? .build = none) :
    l.Grown [entry] (l.noted entry) := ⟨rfl, rfl, rfl, by simp [hentry, noted, Life.numbers]⟩

theorem grown_update (l : Life κ β ω) {f : Roster κ β ω → Roster κ β ω}
    (hstate : (f l.roster).state = l.roster.state) (hpending : (f l.roster).pending = l.roster.pending)
    (hbuilt : (f l.roster).built = l.roster.built) : l.Grown [] (l.update f) :=
  ⟨by simp [update], hstate, hpending, by simp [Life.numbers, update, hbuilt]⟩

theorem grown_block {number : Nat} {phase : Phase} {inner : Journal} (ending : Ending)
    (h : (l.noted (.called number phase)).Grown inner m) (hbuild : phase = .build → ending = .panics) :
    l.Grown (block number phase inner ending) (m.noted (.ended number phase ending)) := by
  have hcalled := l.grown_noted (.called number phase) rfl
  have hend : (Entry.ended number phase ending).returned? .build = none := by
    cases ending with
    | panics => rfl
    | returns => exact if_neg fun hphase => by cases hbuild hphase
  simpa [block] using (hcalled.trans h).trans (m.grown_noted _ hend)

/-- A build call leaves a block as well; the plugin counts as built when it has returned. -/
theorem grown_build {entrant : Entrant κ β ω} {inner : Journal}
    (h : (l.noted (.called entrant.number .build)).Grown inner m) :
    l.Grown (block entrant.number .build inner .returns)
      ((m.noted (.returned entrant.number .build)).update (·.enroll entrant)) := by
  refine ⟨?_, h.state, h.pending, ?_⟩
  · show m.journal ++ [_] = _
    rw [h.journal]
    simp [noted, block, Entry.ended]
  · have hnumbers : m.numbers = l.numbers ++ returned .build inner := h.numbers
    show (m.roster.built ++ [entrant]).map (·.number) = _
    rw [List.map_append, returned_block, if_pos ⟨rfl, rfl⟩, ← List.append_assoc, ← hnumbers]
    rfl

end Life

/-- How a run has ended. A run that is stuck or out of depth has not. -/
inductive Ends {α : Type} : Except Halt α → Ending → Prop where
  | returns (a : α) : Ends (.ok a) .returns
  | panics (payload : Payload) : Ends (.error (.panic payload)) .panics

namespace ServerAct

open Life

variable {α γ : Type}

/-! ## Actions that log what they do -/

/-- If the action ends, on a server that has started to build, its entries are those of requests that end. -/
def Logs (act : ServerAct κ β (ω × Journal) α) : Prop :=
  ∀ (l : Life κ β ω) (result : Except Halt α) (h' : Hosting κ β (ω × Journal)) (ending : Ending),
    l.roster.state ≠ .notStarted → act.runOn l.journaled = (result, h') → Ends result ending →
    ∃ entries l', Nested l.journal.length entries ∧ l.Grown entries l' ∧ h' = l'.journaled

/-- A call of a journaled plugin logs what happens inside it, between two entries of its own. -/
def Calls (call : Plugin κ β (ω × Journal) → Phase → ServerAct κ β (ω × Journal) Unit) : Prop :=
  ∀ (entrant : Entrant κ β ω) (phase : Phase) (l : Life κ β ω) (result : Except Halt Unit)
    (h' : Hosting κ β (ω × Journal)) (ending : Ending), l.roster.state ≠ .notStarted →
    (call entrant.journaled phase).runOn l.journaled = (result, h') → Ends result ending →
    ∃ inner m, Nested (l.journal.length + 1) inner ∧
      (l.noted (.called entrant.number phase)).Grown inner m ∧
      h' = (m.noted (.ended entrant.number phase ending)).journaled

theorem logs_of_idle {act : ServerAct κ β (ω × Journal) α} (result : Except Halt α)
    (h : ∀ s, act.runOn s = (result, s)) : Logs act := by
  intro l result' h' ending _ hrun _
  rw [h] at hrun
  obtain ⟨_, rfl⟩ := Prod.mk.inj hrun
  exact ⟨[], l, .nil, .refl l, rfl⟩

theorem logs_outside (act : Effect ω Unit) :
    Logs (outside (besideJournal act) : ServerAct κ β (ω × Journal) Unit) := by
  intro l result h' ending _ hrun _
  rw [outside, Effect.runOn_onPart, besideJournal, Effect.runOn_onPart] at hrun
  obtain ⟨_, rfl⟩ := Prod.mk.inj hrun
  refine ⟨[], { l with outside := (act.runOn l.outside).2 }, .nil, ⟨?_, rfl, rfl, ?_⟩, rfl⟩
  · simp
  · simp [numbers]

/-- What is read does not count, as long as whatever is done then is logged. -/
theorem Logs.of_runs {act : ServerAct κ β (ω × Journal) α} {next : Life κ β ω → ServerAct κ β (ω × Journal) α}
    (hnext : ∀ l, Logs (next l)) (hrun : ∀ l : Life κ β ω, act.runOn l.journaled = (next l).runOn l.journaled) :
    Logs act := by
  intro l result h' ending hstarted hact
  rw [hrun] at hact
  exact hnext l l result h' ending hstarted hact

theorem Logs.bind {x : ServerAct κ β (ω × Journal) α} {f : α → ServerAct κ β (ω × Journal) γ}
    (hx : Logs x) (hf : ∀ a, Logs (f a)) : Logs (x >>= f) := by
  intro l result h' ending hstarted hrun hends
  rw [Effect.runOn_bind] at hrun
  rcases hfirst : x.runOn l.journaled with ⟨halt | a, h⟩
  · -- the first action has ended both
    rw [hfirst] at hrun
    obtain ⟨rfl, rfl⟩ := Prod.mk.inj hrun
    cases hends with
    | panics payload => exact hx l _ h _ hstarted hfirst (.panics payload)
  · rw [hfirst] at hrun
    obtain ⟨entries, m, hnested, hgrown, rfl⟩ := hx l _ h _ hstarted hfirst (.returns a)
    obtain ⟨more, l', hmore, hgrown', rfl⟩ := hf a m result h' ending (by rwa [hgrown.state]) hrun hends
    rw [hgrown.length] at hmore
    exact ⟨entries ++ more, l', hnested.append hmore, hgrown.trans hgrown', rfl⟩

theorem Logs.attempt {act : ServerAct κ β (ω × Journal) α} (hact : Logs act) : Logs (Effect.attempt act) := by
  intro l result h' ending hstarted hrun hends
  rw [Effect.runOn_attempt] at hrun
  rcases hinner : act.runOn l.journaled with ⟨halt | a, h⟩
  · rw [hinner] at hrun
    cases halt with
    | panic payload =>
      obtain ⟨_, rfl⟩ := Prod.mk.inj hrun
      exact hact l _ h _ hstarted hinner (.panics payload)
    | _ =>
      -- whoever is stuck inside is stuck outside
      obtain ⟨rfl, _⟩ := Prod.mk.inj hrun
      cases hends
  · rw [hinner] at hrun
    obtain ⟨_, rfl⟩ := Prod.mk.inj hrun
    exact hact l _ h _ hstarted hinner (.returns a)

theorem Logs.forM {act : γ → ServerAct κ β (ω × Journal) Unit} (hact : ∀ c, Logs (act c)) :
    ∀ cs : List γ, Logs (cs.forM act)
  | [] => logs_of_idle (.ok ()) fun _ => rfl
  | c :: cs => (hact c).bind fun _ => Logs.forM hact cs

section Operations

variable {call : Plugin κ β (ω × Journal) → Phase → ServerAct κ β (ω × Journal) Unit} (hcall : Calls call)
include hcall

/-! ### Calls on request -/

theorem logs_callAt {phase : Phase} (hbuild : phase ≠ .build) (hready : phase ≠ .ready) (place : Nat) :
    Logs (callAt call phase place) := by
  intro l result h' ending hstarted hrun hends
  rw [runOn_callAt, l.getElem?_built_journaled] at hrun
  -- a place that nobody stands at panics before anybody is called
  cases hplace : l.roster.built[place]? with
  | none =>
    rw [hplace] at hrun
    obtain ⟨_, rfl⟩ := Prod.mk.inj hrun
    exact ⟨[], l, .nil, .refl l, rfl⟩
  | some entrant =>
    rw [hplace] at hrun
    obtain ⟨inner, m, hinner, hgrown, rfl⟩ := hcall entrant phase l result h' ending hstarted hrun hends
    have hnested : Nested l.journal.length (block entrant.number phase inner ending ++ []) :=
      .call hbuild hready hinner .nil
    exact ⟨_, _, by simpa using hnested, grown_block ending hgrown (absurd · hbuild), rfl⟩

theorem logs_tick (schedule : ScheduleId) : Logs (tick call schedule) := by
  have hbuild : Phase.update schedule ≠ .build := by simp
  have hready : Phase.update schedule ≠ .ready := by simp
  exact .of_runs (fun _ => .forM (logs_callAt hcall hbuild hready) _) fun l => runOn_tick call schedule l.journaled

theorem logs_cleanup : Logs (cleanup call) :=
  .of_runs (fun _ => .forM (logs_callAt hcall (by simp) (by simp)) _) fun l => runOn_cleanup call l.journaled

variable {l : Life κ β ω} {h' : Hosting κ β (ω × Journal)} (hstarted : l.roster.state ≠ .notStarted)
include hstarted

/-- **Building a plugin** leaves a block, however the build call ends. -/
theorem construct_logged (entrant : Entrant κ β ω) {result : Except Halt Unit} {ending : Ending}
    (hrun : (construct call entrant.journaled).runOn l.journaled = (result, h')) (hends : Ends result ending) :
    ∃ inner l', Nested (l.journal.length + 1) inner ∧ l.Grown (block entrant.number .build inner ending) l' ∧
      h' = l'.journaled := by
  rw [construct, Effect.runOn_bind] at hrun
  -- the plugin counts as built only if its build call has returned
  rcases hbuild : (call entrant.journaled .build).runOn l.journaled with ⟨halt | _, h⟩
  · rw [hbuild] at hrun
    obtain ⟨rfl, rfl⟩ := Prod.mk.inj hrun
    cases hends with
    | panics payload =>
      obtain ⟨inner, m, hnested, hgrown, rfl⟩ := hcall entrant .build l _ h _ hstarted hbuild (.panics payload)
      exact ⟨inner, _, hnested, grown_block .panics hgrown fun _ => rfl, rfl⟩
  · rw [hbuild] at hrun
    obtain ⟨rfl, rfl⟩ := Prod.mk.inj hrun
    cases hends with
    | returns _ =>
      obtain ⟨inner, m, hnested, hgrown, rfl⟩ := hcall entrant .build l _ h _ hstarted hbuild (.returns ())
      refine ⟨inner, _, hnested, grown_build hgrown, ?_⟩
      simp [Entry.ended, Life.journaled, Life.update, Roster.journaled, Roster.server_enroll]

/-- **An addition** is refused, or leaves the block of its build call. -/
theorem offer_logged {plugin : Plugin κ β ω} {result : Except Halt Unit} {ending : Ending}
    (hrun : (add call (plugin.journaled l.journal.length) >>= fun _ =>
      outside (Entry.accepted l.journal.length).write).runOn
        (l.noted (.offered l.journal.length plugin.info)).journaled = (result, h'))
    (hends : Ends result ending) :
    ∃ entries l', Nested l.journal.length entries ∧ l.Grown entries l' ∧ h' = l'.journaled := by
  have hoffered := l.grown_noted (.offered l.journal.length plugin.info) rfl
  have hstate : (l.noted (.offered l.journal.length plugin.info)).journaled.server.state = l.roster.state := rfl
  rw [Effect.runOn_bind, runOn_add, Plugin.info_journaled, hstate] at hrun
  cases hrefusal : (l.noted (.offered l.journal.length plugin.info)).journaled.server.refusal? plugin.info with
  | some refusal =>
    rw [hrefusal] at hrun
    obtain ⟨_, rfl⟩ := Prod.mk.inj hrun
    exact ⟨_, _, .refused .nil, hoffered, rfl⟩
  | none =>
    -- the server has started, so the plugin is built at once
    have hbuilding := Server.state_of_open hrefusal hstarted
    rw [hstate] at hbuilding
    simp only [hrefusal, if_pos hbuilding] at hrun
    have hconstruct := @construct_logged _ _ _ _ hcall
      ((l.noted (.offered l.journal.length plugin.info)).update (·.noteId plugin.info.id))
    have hnoted := hoffered.trans (grown_update (f := (·.noteId plugin.info.id)) _ rfl rfl rfl)
    rcases hbuild : (construct call (plugin.journaled l.journal.length)).runOn
        ((l.noted (.offered l.journal.length plugin.info)).journaled.update (·.noteId plugin.info.id)) with
      ⟨halt | _, h⟩
    · rw [hbuild] at hrun
      obtain ⟨rfl, rfl⟩ := Prod.mk.inj hrun
      cases hends with
      | panics payload =>
        obtain ⟨inner, m, hinner, hgrown, rfl⟩ := hconstruct hstarted ⟨_, plugin⟩ hbuild (.panics payload)
        have hnested : Nested l.journal.length (.offered l.journal.length plugin.info ::
            (block l.journal.length .build inner .panics ++ [])) :=
          .broken (by simpa [update, noted] using hinner) .nil
        exact ⟨_, _, by simpa using hnested, hnoted.trans hgrown, rfl⟩
    · rw [hbuild] at hrun
      obtain ⟨inner, m, hinner, hgrown, rfl⟩ := hconstruct hstarted ⟨_, plugin⟩ hbuild (.returns ())
      obtain ⟨_, rfl⟩ := Prod.mk.inj hrun
      have haccepted := m.grown_noted (.accepted l.journal.length) rfl
      have hnested : Nested l.journal.length (.offered l.journal.length plugin.info ::
          (block l.journal.length .build inner .returns ++ [.accepted l.journal.length])) :=
        .add (by simpa [update, noted] using hinner) .nil
      exact ⟨_, _, by simpa using hnested, (hnoted.trans hgrown).trans haccepted, rfl⟩

/-! ### Loops -/

/-- **Building a queue** leaves a block for every plugin of it. -/
theorem buildEach_logged (queue : List (Entrant κ β ω))
    (hrun : (buildEach call (queue.map (·.journaled))).runOn l.journaled = (.ok (), h')) :
    ∃ entries l', Blocks .build l.journal.length (queue.map (·.number)) entries ∧
      l.Grown entries l' ∧ h' = l'.journaled := by
  induction queue generalizing l with
  | nil =>
    obtain ⟨_, rfl⟩ := Prod.mk.inj hrun
    exact ⟨[], l, .nil, .refl l, rfl⟩
  | cons entrant queue ih =>
    rw [List.map_cons, buildEach_cons] at hrun
    obtain ⟨_, h, hfirst, hqueue⟩ := Effect.runOn_bind_eq_ok_iff.mp hrun
    obtain ⟨inner, m, hinner, hgrown, rfl⟩ := construct_logged hcall hstarted entrant hfirst (.returns ())
    obtain ⟨rest, l', hrest, hgrown', rfl⟩ := ih (by rwa [hgrown.state]) hqueue
    rw [hgrown.length, length_block, ← Nat.add_assoc] at hrest
    exact ⟨_, l', .cons hinner hrest, hgrown.trans hgrown', rfl⟩

/-- **The ready loop** readies whoever is built, from a place of the build order on. -/
theorem readyFrom_logged (rounds place : Nat)
    (hrun : (readyFrom call rounds place).runOn l.journaled = (.ok (), h')) :
    ∃ entries l', Readies l.journal.length l.numbers place entries ∧ l.Grown entries l' ∧
      h' = l'.journaled := by
  -- a ready call may build more plugins, and they come behind the place that the loop is at
  induction rounds generalizing l place with
  | zero =>
    rw [runOn_readyFrom, l.getElem?_built_journaled] at hrun
    cases hplace : l.roster.built[place]? with
    | some entrant =>
      rw [hplace] at hrun
      cases hrun
    | none =>
      rw [hplace] at hrun
      obtain ⟨_, rfl⟩ := Prod.mk.inj hrun
      exact ⟨[], l, .done (by simpa [Life.numbers] using hplace), .refl l, rfl⟩
  | succ rounds ih =>
    rw [runOn_readyFrom, l.getElem?_built_journaled] at hrun
    cases hplace : l.roster.built[place]? with
    | none =>
      rw [hplace] at hrun
      obtain ⟨_, rfl⟩ := Prod.mk.inj hrun
      exact ⟨[], l, .done (by simpa [Life.numbers] using hplace), .refl l, rfl⟩
    | some entrant =>
      rw [hplace] at hrun
      obtain ⟨_, h, hready, hlater⟩ := Effect.runOn_bind_eq_ok_iff.mp hrun
      obtain ⟨inner, m, hinner, hblock, rfl⟩ := hcall entrant .ready l _ h _ hstarted hready (.returns ())
      have hgrown := grown_block .returns hblock (by simp)
      obtain ⟨rest, l', hrest, hgrown', rfl⟩ := ih (by rwa [hgrown.state]) (place + 1) hlater
      rw [hgrown.length, length_block, ← Nat.add_assoc, hgrown.numbers, returned_block] at hrest
      have hnumber : l.numbers[place]? = some entrant.number := by rw [l.getElem?_numbers, hplace]; rfl
      exact ⟨_, l', .next hnumber hinner (by simpa using hrest), hgrown.trans hgrown', rfl⟩

/-- **Calls of places in turn** leave a block for each, where the places are those of the build order. -/
theorem forM_callAt_logged {phase : Phase} (hphase : phase ≠ .build) (places : List Nat)
    (hrun : (places.forM (callAt call phase)).runOn l.journaled = (.ok (), h')) :
    ∃ numbers entries l', Blocks phase l.journal.length numbers entries ∧ l.Grown entries l' ∧
      h' = l'.journaled ∧ places.map (l'.numbers[·]?) = numbers.map some := by
  induction places generalizing l with
  | nil =>
    obtain ⟨_, rfl⟩ := Prod.mk.inj hrun
    exact ⟨[], [], l, .nil, .refl l, rfl, rfl⟩
  -- what is called may add plugins, so the places are found in what has grown
  | cons place places ih =>
    have hsplit : (callAt call phase place >>= fun _ => places.forM (callAt call phase)).runOn
        l.journaled = (.ok (), h') := hrun
    obtain ⟨_, h, hfirst, hlater⟩ := Effect.runOn_bind_eq_ok_iff.mp hsplit
    rw [runOn_callAt, l.getElem?_built_journaled] at hfirst
    cases hplace : l.roster.built[place]? with
    | none =>
      rw [hplace] at hfirst
      cases hfirst
    | some entrant =>
      rw [hplace] at hfirst
      obtain ⟨inner, m, hinner, hblock, rfl⟩ := hcall entrant phase l _ h _ hstarted hfirst (.returns ())
      have hgrown := grown_block .returns hblock (absurd · hphase)
      obtain ⟨numbers, rest, l', hrest, hgrown', rfl, hnumbers⟩ := ih (by rwa [hgrown.state]) hlater
      rw [hgrown.length, length_block, ← Nat.add_assoc] at hrest
      -- numbers are never taken away, so the number that was called still stands at the place
      have hlt : place < l.numbers.length := by
        simpa [Life.numbers] using (List.getElem?_eq_some_iff.mp hplace).1
      have hnumber : l'.numbers[place]? = some entrant.number := by
        rw [hgrown'.numbers, hgrown.numbers, List.append_assoc, List.getElem?_append_left hlt,
          l.getElem?_numbers, hplace]
        rfl
      exact ⟨entrant.number :: numbers, _, l', .cons hinner hrest, hgrown.trans hgrown', rfl,
        by rw [List.map_cons, hnumber, hnumbers]; rfl⟩

/-- **A cleanup** leaves a block for every built plugin, last built first. -/
theorem cleanup_logged (hrun : (cleanup call).runOn l.journaled = (.ok (), h')) :
    ∃ entries l', Blocks .cleanup l.journal.length l.numbers.reverse entries ∧ l.Grown entries l' ∧
      h' = l'.journaled := by
  rw [runOn_cleanup, l.length_built_journaled] at hrun
  have hphase : Phase.cleanup ≠ .build := nofun
  obtain ⟨numbers, entries, l', hblocks, hgrown, rfl, hnumbers⟩ :=
    forM_callAt_logged hcall hstarted hphase _ hrun
  -- places from the last one down, and the built plugins in reverse, are the same numbers
  have hlength : l.roster.built.length = l.numbers.length := by simp [Life.numbers]
  have hplaces : (List.range l.numbers.length).map (l'.numbers[·]?) = l.numbers.map some := by
    refine List.ext_getElem (by simp) fun place hrange _ => ?_
    have hlt : place < l.numbers.length := by simpa using hrange
    simp [hgrown.numbers, List.getElem?_append_left hlt, hlt]
  rw [List.map_reverse, hlength, hplaces, ← List.map_reverse] at hnumbers
  obtain rfl := List.map_injective_iff.mpr (fun _ _ => Option.some.inj) hnumbers
  exact ⟨entries, l', hblocks, hgrown, rfl⟩

end Operations

/-! ## Scripts and calls -/

section Scripts

variable [DecidableEq κ] {call : Plugin κ β (ω × Journal) → Phase → ServerAct κ β (ω × Journal) Unit}
  (hcall : Calls call)
include hcall

/-- **A journaled script** logs the requests that it makes. -/
theorem logs_exec (rounds : Nat) (script : Script κ β ω) : Logs (script.journaled.exec call rounds) := by
  induction script using Script.exec.induct with
  | case1 => exact logs_of_idle (.ok ()) fun _ => rfl
  | case2 payload => exact logs_of_idle (.error (.panic payload)) fun _ => rfl
  | case3 plugin next ih =>
    have hoffer : Logs (get >>= fun h => outside (Entry.offered h.outside.2.length plugin.info).write >>= fun _ =>
        add call (plugin.journaled h.outside.2.length) >>= fun _ =>
          outside (Entry.accepted h.outside.2.length).write) :=
      fun l _ _ _ hstarted hrun => offer_logged hcall hstarted hrun
    have hall := hoffer.bind fun _ => ih
    simp only [bind_assoc] at hall
    exact hall
  | case4 next ih =>
    -- a server that has started is not finished again
    intro l result h' ending hstarted hrun _
    have hfinish := Effect.runOn_bind_error (f := fun _ => outside Entry.finished.write >>= fun _ =>
      next.journaled.exec call rounds) ((runOn_finish call rounds (l.noted .finishing).journaled).trans (if_neg hstarted))
    obtain ⟨_, rfl⟩ := Prod.mk.inj (hfinish.symm.trans hrun)
    exact ⟨_, _, .attempt .nil, l.grown_noted .finishing rfl, rfl⟩
  | case5 schedule next ih => exact (logs_tick hcall schedule).bind fun _ => ih
  | case6 next ih => exact (logs_cleanup hcall).bind fun _ => ih
  | case7 next ih => exact .of_runs (fun l => ih l.plain.server) fun _ => rfl
  | case8 k value next ih =>
    intro l result h' ending hstarted hrun hends
    have hpublished := l.grown_update
      (f := fun r => { r with globals := (l.roster.globals.insert k value).2 }) rfl rfl rfl
    obtain ⟨entries, l', hnested, hgrown, rfl⟩ := ih _ (l.update fun r =>
      { r with globals := (l.roster.globals.insert k value).2 }) result h' ending hstarted hrun hends
    exact ⟨entries, l', hnested, hpublished.trans hgrown, rfl⟩
  | case9 k next ih => exact .of_runs (fun l => ih l.plain.server) fun _ => rfl
  | case10 act next ih => exact (logs_outside act).bind fun _ => ih
  | case11 next ih => exact .of_runs (fun l => ih l.plain) fun _ => rfl
  | case12 body next hbody hnext => exact hbody.attempt.bind fun result => hnext result

/-- **A watched script** writes down how it ends, whatever is thought of its panic outside. -/
theorem calls_watched (rounds : Nat) (script : Script κ β ω) (number : Nat) (phase : Phase) (l : Life κ β ω)
    (result : Except Halt Unit) (h' : Hosting κ β (ω × Journal)) (ending : Ending)
    (hstarted : l.roster.state ≠ .notStarted)
    (hrun : ((script.journaled.watched number phase).exec call rounds).runOn l.journaled = (result, h'))
    (hends : Ends result ending) :
    ∃ inner m, Nested (l.journal.length + 1) inner ∧ (l.noted (.called number phase)).Grown inner m ∧
      h' = (m.noted (.ended number phase ending)).journaled := by
  have hlogs := fun result' h ending' => logs_exec hcall rounds script (l.noted (.called number phase)) result' h
    ending' hstarted
  -- the script, and then the entry about how it ended
  have hsplit : (Effect.attempt (script.journaled.exec call rounds) >>= fun result =>
      (Script.ending number phase result).exec call rounds).runOn
        (l.noted (.called number phase)).journaled = (result, h') := hrun
  rw [Effect.runOn_bind, Effect.runOn_attempt] at hsplit
  rcases hbody : (script.journaled.exec call rounds).runOn (l.noted (.called number phase)).journaled with
    ⟨halt | _, h⟩
  · rw [hbody] at hsplit
    cases halt with
    | panic payload =>
      obtain ⟨inner, m, hinner, hgrown, rfl⟩ := hlogs _ h _ hbody (.panics payload)
      obtain ⟨rfl, rfl⟩ := Prod.mk.inj hsplit
      cases hends with
      | panics _ => exact ⟨inner, m, by simpa [noted] using hinner, hgrown, rfl⟩
    | _ =>
      obtain ⟨rfl, _⟩ := Prod.mk.inj hsplit
      cases hends
  · rw [hbody] at hsplit
    obtain ⟨inner, m, hinner, hgrown, rfl⟩ := hlogs _ h _ hbody (.returns ())
    obtain ⟨rfl, rfl⟩ := Prod.mk.inj hsplit
    cases hends with
    | returns _ => exact ⟨inner, m, by simpa [noted] using hinner, hgrown, rfl⟩

end Scripts

/-- **Every call of a journaled plugin** logs what happens inside it. -/
theorem invoke_calls [DecidableEq κ] (depth : Nat) :
    Calls (κ := κ) (β := β) (ω := ω) (invoke depth) := by
  induction depth with
  | zero =>
    -- nothing ends here
    intro entrant phase l result h' ending _ hrun hends
    obtain ⟨rfl, _⟩ := Prod.mk.inj hrun
    cases hends
  | succ depth ih =>
    intro entrant phase l result h' ending hstarted hrun hends
    rw [invoke_succ, Entrant.journaled, Plugin.script_journaled] at hrun
    exact calls_watched ih depth _ _ phase l result h' ending hstarted hrun hends

/-! ## Finishing -/

/-- **Building and readying a queue**: a block for every plugin of the queue in turn, and then the entries
of the ready loop. -/
theorem complete_logged {call : Plugin κ β (ω × Journal) → Phase → ServerAct κ β (ω × Journal) Unit}
    (hcall : Calls call) {l : Life κ β ω} {h' : Hosting κ β (ω × Journal)}
    (hstarted : l.roster.state ≠ .notStarted) (hbuilt : l.numbers = []) (rounds : Nat)
    (queue : List (Entrant κ β ω))
    (hrun : (complete call rounds (queue.map (·.journaled))).runOn l.journaled = (.ok (), h')) :
    ∃ builds readies l', Blocks .build l.journal.length (queue.map (·.number)) builds ∧
      Readies (l.journal.length + builds.length) (returned .build builds) 0 readies ∧
      l.Grown (builds ++ readies) l' ∧ h' = (l'.update (·.concluded)).journaled := by
  obtain ⟨_, h, hbuilds, hrest⟩ := Effect.runOn_bind_eq_ok_iff.mp hrun
  obtain ⟨_, h₁, hreadies, hconclude⟩ := Effect.runOn_bind_eq_ok_iff.mp hrest
  obtain ⟨builds, m, hblocks, hgrown, rfl⟩ := buildEach_logged hcall hstarted queue hbuilds
  obtain ⟨readies, l', hready, hgrown', rfl⟩ :=
    readyFrom_logged hcall (by rwa [hgrown.state]) rounds 0 hreadies
  obtain ⟨_, rfl⟩ := Prod.mk.inj hconclude
  rw [hgrown.length, hgrown.numbers, hbuilt] at hready
  refine ⟨builds, readies, l', hblocks, by simpa using hready, hgrown.trans hgrown', ?_⟩
  have hconcluded := l'.roster.server_concluded (·.info_journaled)
  simp [Life.journaled, Life.update, Roster.journaled, hconcluded]

/-- **Finishing with a journal**, where nothing was built before. -/
theorem finish_logged [DecidableEq κ] {depth : Nat} {l : Life κ β ω} {h' : Hosting κ β (ω × Journal)}
    (hbuilt : l.roster.built = [])
    (hrun : (run depth (Script.finish .done : Script κ β ω).journaled).runOn l.journaled = (.ok (), h')) :
    ∃ queue builds readies m, l.roster.inOrder = .ok queue ∧
      Blocks .build (l.journal.length + 1) (queue.map (·.number)) builds ∧
      Readies (l.journal.length + 1 + builds.length) (returned .build builds) 0 readies ∧
      h' = Life.journaled m ∧
      m.journal = l.journal ++ .finishing :: (builds ++ readies) ++ [.finished] ∧
      m.roster.state = .built ∧ m.roster.pending = [] ∧
      m.numbers = returned .build builds ++ returned .build readies := by
  -- the attempt is written down first, so the blocks start behind its entry
  have hsplit : (finish (invoke depth) depth >>= fun _ => outside Entry.finished.write).runOn
      (l.noted .finishing).journaled = (.ok (), h') := hrun
  obtain ⟨_, h, hfinish, hwrite⟩ := Effect.runOn_bind_eq_ok_iff.mp hsplit
  obtain ⟨hfresh, plugins, horder, hcomplete⟩ := (runOn_finish_eq_ok_iff _).mp hfinish
  have hreading : (l.noted .finishing).journaled.server.inOrder = l.roster.inOrder.map (·.map (·.journaled)) :=
    l.roster.server_inOrder (·.info_journaled)
  rw [hreading] at horder
  cases hqueue : l.roster.inOrder with
  | error error =>
    rw [hqueue] at horder
    cases horder
  | ok queue =>
    rw [hqueue] at horder
    obtain rfl : queue.map (·.journaled) = plugins := Except.ok.inj horder
    have hstarted : ((l.noted .finishing).update (·.started)).roster.state ≠ .notStarted := nofun
    have hnumbers : ((l.noted .finishing).update (·.started)).numbers = [] := by
      simp [Life.numbers, update, noted, Roster.started, hbuilt]
    obtain ⟨builds, readies, m, hblocks, hready, hgrown, rfl⟩ :=
      complete_logged (invoke_calls depth) hstarted hnumbers depth queue hcomplete
    obtain ⟨_, rfl⟩ := Prod.mk.inj hwrite
    refine ⟨queue, builds, readies, (m.update (·.concluded)).noted .finished, rfl, ?_, ?_, rfl, ?_, rfl,
      hgrown.pending, ?_⟩
    · simpa [update, noted] using hblocks
    · simpa [update, noted] using hready
    · show m.journal ++ [.finished] = _
      rw [hgrown.journal]
      simp [update, noted]
    · have hall : m.numbers = _ := hgrown.numbers
      rw [hnumbers, List.nil_append, returned_append] at hall
      exact hall

end ServerAct

end LiveSwap
