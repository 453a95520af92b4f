import LiveSwap.Forwarding.Token
/-!
Lists as code writes them: entries with a separator between any two, and possibly one more at the end.
-/

namespace LiveSwap.Forwarding

/-- The entries of a list and whether the last one is followed by a separator too. -/
structure Entries (α : Type) where
  items : List α
  trailing : Bool
  deriving Repr

namespace Entries

variable {α : Type}

/-- No entries. -/
def empty : Entries α := ⟨[], false⟩

/-- The entries, each with whether a separator follows it. -/
def marked (e : Entries α) : List (α × Bool) := go e.items
where
  go : List α → List (α × Bool)
    | [] => []
    | [a] => [(a, e.trailing)]
    | a :: rest => (a, true) :: go rest

/-- An entry and the separator that follows it. -/
def entryTokens (separator : String) (f : α → Tokens) (entry : α × Bool) : Tokens :=
  f entry.1 ++ if entry.2 then Tokens.operator separator else []

/-- All tokens of the entries and the separators between them. -/
def tokens (separator : String) (f : α → Tokens) (e : Entries α) : Tokens :=
  e.marked.flatMap (entryTokens separator f)

/-- The tokens of comma separated entries, those that `early` picks in front. Each entry keeps the comma
that follows it; where the two parts meet, a missing comma is put in. -/
def tokensWithFirst (early : α → Bool) (f : α → Tokens) (e : Entries α) : Tokens :=
  let (front, back) := e.marked.partition fun entry => early entry.1
  let glue := match front.getLast?, back with
    | some (_, false), _ :: _ => Tokens.operator ","
    | _, _ => []
  front.flatMap (entryTokens "," f) ++ glue ++ back.flatMap (entryTokens "," f)

/-- Separators do not change which entries there are. -/
theorem marked_map_fst (e : Entries α) : e.marked.map (·.1) = e.items := by
  suffices h : ∀ l, (marked.go e l).map (·.1) = l from h e.items
  intro l
  induction l with
  | nil => rfl
  | cons a l ih =>
    cases l with
    | nil => rfl
    | cons b l => simpa [marked.go] using ih

end Entries

end LiveSwap.Forwarding
