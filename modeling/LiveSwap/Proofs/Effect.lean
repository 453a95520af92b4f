import LiveSwap.Halt

/-!
# Running effects

`Effect.runOn` takes an effect apart: what it returns or how it halts, and the state it leaves
behind. The equations here say how each primitive and each combinator runs, so that proofs about
actions never unfold the two monad transformers underneath.

* **`runOn_bind`** — sequencing: the second effect runs on the state the first one left, unless
  the first one halted.
* **`runOn_bind_eq_ok_iff`** — a sequence returns exactly if both effects do, one after the other.
* **`runOn_attempt`** — catching: a panic becomes a value, every other halt stays.
* **`attempt_bind_rethrow`** — who catches a panic and raises it again has not interfered.
-/

namespace LiveSwap.Effect

variable {S T α β : Type}

/-! ## Primitives -/

@[simp] theorem runOn_pure (a : α) (s : S) : (pure a : Effect S α).runOn s = (.ok a, s) := rfl

@[simp] theorem runOn_throw (halt : Halt) (s : S) :
    (throw halt : Effect S α).runOn s = (.error halt, s) := rfl

@[simp] theorem runOn_panic (text : String) (s : S) :
    (panic text : Effect S α).runOn s = (.error (.panic (.text text)), s) := rfl

@[simp] theorem runOn_modify (f : S → S) (s : S) :
    (modify f : Effect S Unit).runOn s = (.ok (), f s) := rfl

@[simp] theorem runOn_modifyGet (f : S → α × S) (s : S) :
    (modifyGet f : Effect S α).runOn s = (.ok (f s).1, (f s).2) := rfl

/-! ## Combinators -/

/-- The second effect runs where the first one left off; a halt of the first one ends both. -/
theorem runOn_bind (x : Effect S α) (f : α → Effect S β) (s : S) :
    (x >>= f).runOn s =
      match x.runOn s with
      | (.ok a, s') => (f a).runOn s'
      | (.error halt, s') => (.error halt, s') := by
  rw [runOn, ExceptT.run_bind, StateT.run_bind]
  rcases hx : x.runOn s with ⟨r, s'⟩
  rw [show x.run.run s = (r, s') from hx]
  cases r <;> rfl

theorem runOn_bind_ok {x : Effect S α} {f : α → Effect S β} {s s' : S} {a : α}
    (h : x.runOn s = (.ok a, s')) : (x >>= f).runOn s = (f a).runOn s' := by
  rw [runOn_bind, h]

theorem runOn_bind_error {x : Effect S α} {f : α → Effect S β} {s s' : S} {halt : Halt}
    (h : x.runOn s = (.error halt, s')) : (x >>= f).runOn s = (.error halt, s') := by
  rw [runOn_bind, h]

theorem runOn_bind_eq_ok_iff {x : Effect S α} {f : α → Effect S β} {s t : S} {b : β} :
    (x >>= f).runOn s = (.ok b, t) ↔
      ∃ a s', x.runOn s = (.ok a, s') ∧ (f a).runOn s' = (.ok b, t) := by
  rw [runOn_bind]
  rcases x.runOn s with ⟨halt | a, s'⟩
  · simp
  · constructor
    · intro h
      exact ⟨a, s', rfl, h⟩
    · rintro ⟨_, _, heq, h⟩
      cases heq
      exact h

@[simp] theorem runOn_modify_bind (g : S → S) (f : Unit → Effect S β) (s : S) :
    (modify g >>= f).runOn s = (f ()).runOn (g s) := rfl

@[simp] theorem runOn_get_bind (f : S → Effect S β) (s : S) :
    (get >>= f).runOn s = (f s).runOn s := rfl

@[simp] theorem runOn_modifyGet_bind (g : S → α × S) (f : α → Effect S β) (s : S) :
    (modifyGet g >>= f).runOn s = (f (g s).1).runOn (g s).2 := rfl

theorem runOn_map (g : α → β) (x : Effect S α) (s : S) :
    (g <$> x).runOn s = ((x.runOn s).1.map g, (x.runOn s).2) := by
  rw [map_eq_pure_bind, runOn_bind]
  rcases x.runOn s with ⟨_ | _, s'⟩ <;> rfl

theorem runOn_discard (x : Effect S α) (s : S) :
    (discard x).runOn s = ((x.runOn s).1.map fun _ => (), (x.runOn s).2) :=
  runOn_map (Function.const α ()) x s

theorem runOn_tryCatch (x : Effect S α) (handle : Halt → Effect S α) (s : S) :
    (tryCatch x handle).runOn s =
      match x.runOn s with
      | (.ok a, s') => (.ok a, s')
      | (.error halt, s') => (handle halt).runOn s' := by
  rw [runOn, ExceptT.run_tryCatch, StateT.run_bind]
  rcases hx : x.runOn s with ⟨r, s'⟩
  rw [show x.run.run s = (r, s') from hx]
  cases r <;> rfl

/-- An attempt hands a panic over as a value and passes on every other halt. -/
theorem runOn_attempt (act : Effect S α) (s : S) :
    (attempt act).runOn s =
      match act.runOn s with
      | (.ok a, s') => (.ok (.ok a), s')
      | (.error (.panic payload), s') => (.ok (.error payload), s')
      | (.error halt, s') => (.error halt, s') := by
  rw [attempt, runOn_tryCatch, runOn_map]
  rcases act.runOn s with ⟨r, s'⟩
  cases r with
  | ok a => rfl
  | error halt => cases halt <;> rfl

theorem snd_runOn_attempt (act : Effect S α) (s : S) : ((attempt act).runOn s).2 = (act.runOn s).2 := by
  rw [runOn_attempt]
  rcases act.runOn s with ⟨halt | a, s'⟩
  · cases halt <;> rfl
  · rfl

theorem eq_of_runOn {x y : Effect S α} (h : ∀ s, x.runOn s = y.runOn s) : x = y :=
  (funext h : (fun s => x.runOn s) = fun s => y.runOn s)

/-- Goes on with what was caught. -/
def rethrow : Except Payload α → Effect S α
  | .ok a => pure a
  | .error payload => throw (.panic payload)

theorem attempt_bind_rethrow (act : Effect S α) : attempt act >>= rethrow = act := by
  refine eq_of_runOn fun s => ?_
  rw [runOn_bind, runOn_attempt]
  rcases act.runOn s with ⟨halt | a, s'⟩
  · cases halt <;> rfl
  · rfl

theorem runOn_onPart (read : S → T) (write : T → S → S) (act : Effect T α) (s : S) :
    (onPart read write act).runOn s =
      ((act.runOn (read s)).1, write (act.runOn (read s)).2 s) := by
  rw [onPart, runOn_modifyGet_bind]
  rcases act.runOn (read s) with ⟨halt | a, t⟩
  · rfl
  · rfl

end LiveSwap.Effect
