import Mathlib.Logic.Function.Basic

/-!
# Threads that take turns

Threads share a state, and every one of them is at some stage of what it does. They make their moves one
at a time, in any order; a move sees the shared state and the stage of its own thread.

* **`Interleaving.Turns`** — the interleavings of the moves, with the events that they leave.
* **`Interleaving.Turns.invariant`** — what one move keeps, every interleaving keeps.
-/

namespace LiveSwap.Interleaving

variable {τ S P E : Type}

/-- A state that threads share, and where each of them is. -/
structure Scene (τ S P : Type) where
  shared : S
  stage : τ → P

/-- What the threads have done so far. -/
abbrev History (τ E : Type) := List (τ × E)

/-- How one thread can go from one stage to the next, and what that does to the state. -/
abbrev Moves (S P E : Type) := P → S → E → P → S → Prop

variable [DecidableEq τ] {move : Moves S P E}

/-- One thread makes a move. -/
inductive Turn (move : Moves S P E) : Scene τ S P → τ × E → Scene τ S P → Prop where
  | mk {s : Scene τ S P} {t : τ} {event : E} {stage : P} {shared : S}
      (hmove : move (s.stage t) s.shared event stage shared) :
      Turn move s (t, event) ⟨shared, Function.update s.stage t stage⟩

/-- The threads make moves, one after the other. -/
inductive Turns (move : Moves S P E) : Scene τ S P → History τ E → Scene τ S P → Prop where
  | nil {s : Scene τ S P} : Turns move s [] s
  | cons {s s' s'' : Scene τ S P} {entry : τ × E} {history : History τ E} (hturn : Turn move s entry s')
      (hturns : Turns move s' history s'') : Turns move s (entry :: history) s''

theorem Turns.append {s middle s' : Scene τ S P} {history more : History τ E} (h : Turns move s history middle)
    (hmore : Turns move middle more s') : Turns move s (history ++ more) s' := by
  induction h with
  | nil => exact hmore
  | cons hturn _ ih => exact .cons hturn (ih hmore)

theorem Turns.split {s s' : Scene τ S P} {history more : History τ E} (h : Turns move s (history ++ more) s') :
    ∃ middle, Turns move s history middle ∧ Turns move middle more s' := by
  induction history generalizing s with
  | nil => exact ⟨s, .nil, h⟩
  | cons entry history ih =>
    cases h with
    | cons hturn hturns =>
      obtain ⟨middle, hhistory, hmore⟩ := ih hturns
      exact ⟨middle, .cons hturn hhistory, hmore⟩

theorem Turns.invariant {I : History τ E → Scene τ S P → Prop}
    (hkeeps : ∀ {history s entry s'}, I history s → Turn move s entry s' → I (history ++ [entry]) s')
    {history more : History τ E} {s s' : Scene τ S P} (hturns : Turns move s more s') (h : I history s) :
    I (history ++ more) s' := by
  induction hturns generalizing history with
  | nil => simpa using h
  | cons hturn _ ih => simpa using ih (hkeeps h hturn)

theorem Turn.alone {shared shared' : S} {now next : P} {event : E} (t : τ) (stage : τ → P)
    (hmove : move now shared event next shared') :
    Turn move ⟨shared, Function.update stage t now⟩ (t, event) ⟨shared', Function.update stage t next⟩ := by
  have hturn : Turn move ⟨shared, Function.update stage t now⟩ (t, event)
      ⟨shared', Function.update (Function.update stage t now) t next⟩ := by
    refine .mk ?_
    show move (Function.update stage t now t) _ _ _ _
    rwa [Function.update_self]
  rwa [Function.update_idem] at hturn

end LiveSwap.Interleaving
