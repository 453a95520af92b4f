import LiveSwap.Forwarding.Rule

/-!
# Searching tokens

A search goes through tokens in order, and into each group as it meets it. `Tokens.Occurs` and `Tokens.Lends`
say what there is to find without searching.

* **`Tokens.nested`** — induction that follows groups.
* **`Tokens.find?_isSome_iff`** — a word is found exactly if it occurs.
* **`Tokens.borrow?_isSome_iff`** — a borrow is found exactly if some borrow may end.
-/

namespace LiveSwap.Forwarding.Tokens

/-- Induction over tokens and over what their groups hold. -/
@[elab_as_elim]
theorem nested {motive : Tokens → Prop} (nil : motive [])
    (ident : ∀ text p rest, motive rest → motive (.ident text p :: rest))
    (punct : ∀ c joint p rest, motive rest → motive (.punct c joint p :: rest))
    (literal : ∀ text p rest, motive rest → motive (.literal text p :: rest))
    (group : ∀ d inner p rest, motive inner → motive rest → motive (.group d inner p :: rest)) :
    ∀ ts, motive ts
  | [] => nil
  | .ident text p :: rest => ident text p rest (nested nil ident punct literal group rest)
  | .punct c joint p :: rest => punct c joint p rest (nested nil ident punct literal group rest)
  | .literal text p :: rest => literal text p rest (nested nil ident punct literal group rest)
  | .group d inner p :: rest =>
    group d inner p rest (nested nil ident punct literal group inner)
      (nested nil ident punct literal group rest)

/-! ## Words -/

/-- A word stands among the tokens, at any depth. -/
inductive Occurs (text : String) : Tokens → Prop where
  | word (p : Position) (rest : Tokens) : Occurs text (.ident text p :: rest)
  | inside {inner : Tokens} (d : Delimiter) (p : Position) (rest : Tokens) (h : Occurs text inner) :
      Occurs text (.group d inner p :: rest)
  | after {rest : Tokens} (t : Token) (h : Occurs text rest) : Occurs text (t :: rest)

section Words

variable {text : String} {ts us : Tokens}

@[simp] theorem not_occurs_nil : ¬ Occurs text [] := nofun

@[simp] theorem occurs_ident {found : String} {p : Position} :
    Occurs text (.ident found p :: ts) ↔ found = text ∨ Occurs text ts := by
  constructor
  · rintro (_ | _ | ⟨_, h⟩)
    · exact .inl rfl
    · exact .inr h
  · rintro (rfl | h)
    · exact .word p ts
    · exact .after _ h

@[simp] theorem occurs_punct {c : Char} {joint : Bool} {p : Position} :
    Occurs text (.punct c joint p :: ts) ↔ Occurs text ts :=
  ⟨fun | .after _ h => h, .after _⟩

@[simp] theorem occurs_literal {found : String} {p : Position} :
    Occurs text (.literal found p :: ts) ↔ Occurs text ts :=
  ⟨fun | .after _ h => h, .after _⟩

@[simp] theorem occurs_group {d : Delimiter} {inner : Tokens} {p : Position} :
    Occurs text (.group d inner p :: ts) ↔ Occurs text inner ∨ Occurs text ts := by
  constructor
  · rintro (_ | ⟨_, _, _, h⟩ | ⟨_, h⟩)
    · exact .inl h
    · exact .inr h
  · rintro (h | h)
    · exact .inside d p ts h
    · exact .after _ h

/-- **A word is found exactly if it occurs.** -/
theorem find?_isSome_iff (text : String) (ts : Tokens) : (find? text ts).isSome ↔ Occurs text ts := by
  induction ts using nested with
  | nil => simp [find?]
  | ident found p rest ih =>
    by_cases h : found = text <;> simp [find?, findIn?, h, ih]
  | punct c joint p rest ih => simp [find?, findIn?, ih]
  | literal found p rest ih => simp [find?, findIn?, ih]
  | group d inner p rest ihInner ih => simp [find?, findIn?, ihInner, ih]

@[simp] theorem occurs_append : Occurs text (ts ++ us) ↔ Occurs text ts ∨ Occurs text us := by
  induction ts using nested with
  | nil => simp
  | ident found p rest ih => simp [ih, or_assoc]
  | punct c joint p rest ih => simp [ih]
  | literal found p rest ih => simp [ih]
  | group d inner p rest _ ih => simp [ih, or_assoc]

theorem occurs_flatMap {α : Type} {f : α → Tokens} {as : List α} :
    Occurs text (as.flatMap f) ↔ ∃ a ∈ as, Occurs text (f a) := by
  induction as with
  | nil => simp
  | cons a as ih => simp [ih]

end Words

/-! ## Borrows -/

/-- The lifetime `'static` comes next. -/
def StaticNext (ts : Tokens) : Prop :=
  ∃ joint p q rest, ts = .punct '\'' joint p :: .ident "static" q :: rest

theorem startsWithStatic_iff {ts : Tokens} : startsWithStatic ts = true ↔ StaticNext ts := by
  constructor
  · intro h
    unfold startsWithStatic at h
    split at h
    · exact ⟨_, _, _, _, rfl⟩
    · cases h
  · rintro ⟨_, _, _, _, rfl⟩
    rfl

/-- Some borrow may end, at any depth: `'static` does not follow an ampersand, or a lifetime is another one. -/
inductive Lends : Tokens → Prop where
  | ampersand {rest : Tokens} (joint : Bool) (p : Position) (h : ¬ StaticNext rest) :
      Lends (.punct '&' joint p :: rest)
  | lifetime {rest : Tokens} (joint : Bool) (p : Position) (h : ¬ StaticNext (.punct '\'' joint p :: rest)) :
      Lends (.punct '\'' joint p :: rest)
  | inside {inner : Tokens} (d : Delimiter) (p : Position) (rest : Tokens) (h : Lends inner) :
      Lends (.group d inner p :: rest)
  | after {rest : Tokens} (t : Token) (h : Lends rest) : Lends (t :: rest)

section Borrows

variable {ts : Tokens}

@[simp] theorem not_lends_nil : ¬ Lends [] := nofun

@[simp] theorem lends_ident {text : String} {p : Position} : Lends (.ident text p :: ts) ↔ Lends ts :=
  ⟨fun | .after _ h => h, .after _⟩

@[simp] theorem lends_literal {text : String} {p : Position} : Lends (.literal text p :: ts) ↔ Lends ts :=
  ⟨fun | .after _ h => h, .after _⟩

@[simp] theorem lends_punct {c : Char} {joint : Bool} {p : Position} :
    Lends (.punct c joint p :: ts) ↔
      c = '&' ∧ ¬ StaticNext ts ∨ c = '\'' ∧ ¬ StaticNext (.punct c joint p :: ts) ∨ Lends ts := by
  constructor
  · rintro (⟨_, _, h⟩ | ⟨_, _, h⟩ | _ | ⟨_, h⟩)
    · exact .inl ⟨rfl, h⟩
    · exact .inr (.inl ⟨rfl, h⟩)
    · exact .inr (.inr h)
  · rintro (⟨rfl, h⟩ | ⟨rfl, h⟩ | h)
    · exact .ampersand joint p h
    · exact .lifetime joint p h
    · exact .after _ h

@[simp] theorem lends_group {d : Delimiter} {inner : Tokens} {p : Position} :
    Lends (.group d inner p :: ts) ↔ Lends inner ∨ Lends ts := by
  constructor
  · rintro (_ | _ | ⟨_, _, _, h⟩ | ⟨_, h⟩)
    · exact .inl h
    · exact .inr h
  · rintro (h | h)
    · exact .inside d p ts h
    · exact .after _ h

/-- **A borrow is found exactly if some borrow may end.** -/
theorem borrow?_isSome_iff (ts : Tokens) : (borrow? ts).isSome ↔ Lends ts := by
  -- the induction goes into groups as well as along the text
  induction ts using nested with
  | nil => simp [borrow?]
  | ident text p rest ih => simp [borrow?, borrowIn?, ih]
  | literal text p rest ih => simp [borrow?, borrowIn?, ih]
  | group d inner p rest ihInner ih => simp [borrow?, borrowIn?, ihInner, ih]
  | punct c joint p rest ih =>
    rw [lends_punct, ← startsWithStatic_iff, ← startsWithStatic_iff, ← ih, borrow?, borrowIn?]
    -- an ampersand is looked at first, and then a lifetime
    by_cases hampersand : c = '&' ∧ startsWithStatic rest = false
    · simp [hampersand]
    · by_cases hlifetime : c = '\'' ∧ startsWithStatic (.punct c joint p :: rest) = false
      · obtain ⟨rfl, hlifetime⟩ := hlifetime
        simp [hlifetime]
      · simp [hampersand, hlifetime]

end Borrows

end LiveSwap.Forwarding.Tokens
