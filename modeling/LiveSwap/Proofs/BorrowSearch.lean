import LiveSwap.Proofs.ForwardingRules
import Mathlib.Data.List.Lex

/-!
# Which borrow is found

Every token stands at a *path*: its place in its group, behind the places of the groups around it. In
lexicographic order the paths follow the text, with a group before what it holds. A search for borrows that
may end finds the one at the first such path.

* **`Tokens.Stands`** — the token at a path, with what follows it in its group.
* **`Tokens.Offends`** — an ampersand or a quote that `'static` does not follow.
* **`Tokens.Sought`** — the verdict of a search: nothing offends, or this token is the first that does.
* **`Tokens.borrow?_sought`** — the verdict that the search comes to.
* **`Tokens.first_borrow_found`** — what is found, and where; double references, and types in groups.
-/

namespace LiveSwap.Forwarding.Tokens

/-! ## Paths -/

/-- The token at a path, and what follows it in its group. -/
inductive Stands : Tokens → List Nat → Token → Tokens → Prop where
  | here {ts : Tokens} {place : Nat} {t : Token} (h : ts[place]? = some t) :
      Stands ts [place] t (ts.drop (place + 1))
  | inside {ts inner rest : Tokens} {place : Nat} {path : List Nat} {d : Delimiter} {p : Position} {t : Token}
      (hgroup : ts[place]? = some (.group d inner p)) (h : Stands inner path t rest) :
      Stands ts (place :: path) t rest

/-- A path leads to an earlier token of the text. -/
def Earlier (path other : List Nat) : Prop := List.Lex (· < ·) path other

section Paths

variable {ts us rest more : Tokens} {path other : List Nat} {t u : Token} {m n : Nat}

theorem not_stands_root : ¬ Stands ts [] t rest := nofun

theorem not_stands_nil : ¬ Stands [] path t rest := by
  rintro (h | ⟨h, -⟩) <;> cases h

theorem stands_zero : Stands (u :: ts) (0 :: path) t rest ↔
    (path = [] ∧ t = u ∧ rest = ts) ∨ ∃ d inner p, u = .group d inner p ∧ Stands inner path t rest := by
  constructor
  · rintro (h | ⟨h, hinner⟩)
    · obtain rfl := Option.some.inj h
      exact .inl ⟨rfl, rfl, rfl⟩
    · exact .inr ⟨_, _, _, Option.some.inj h, hinner⟩
  · rintro (⟨rfl, rfl, rfl⟩ | ⟨d, inner, p, rfl, h⟩)
    · exact .here rfl
    · exact .inside rfl h

theorem stands_succ : Stands (u :: ts) ((n + 1) :: path) t rest ↔ Stands ts (n :: path) t rest := by
  constructor
  · rintro (h | ⟨h, hinner⟩)
    · exact .here h
    · exact .inside h hinner
  · rintro (h | ⟨h, hinner⟩)
    · exact .here h
    · exact .inside h hinner

theorem Stands.unique (h : Stands ts path t rest) (h' : Stands ts path u more) : t = u ∧ rest = more := by
  induction h with
  | here hget =>
    cases h' with
    | here hget' => exact ⟨Option.some.inj (hget.symm.trans hget'), rfl⟩
    | inside _ hinner => exact absurd hinner not_stands_root
  | inside hgroup hinner ih =>
    cases h' with
    | here => exact absurd hinner not_stands_root
    | inside hgroup' hinner' =>
      cases hgroup.symm.trans hgroup'
      exact ih hinner'

theorem not_earlier_nil : ¬ Earlier path [] := nofun

theorem earlier_cons : Earlier (m :: path) (n :: other) ↔ m < n ∨ m = n ∧ Earlier path other := by
  constructor
  · rintro (_ | h | h)
    · exact .inl h
    · exact .inr ⟨rfl, h⟩
  · rintro (h | ⟨rfl, h⟩)
    · exact .rel h
    · exact .cons h

theorem earlier_or (path other : List Nat) : Earlier path other ∨ path = other ∨ Earlier other path :=
  trichotomous_of (List.Lex (· < ·)) path other

end Paths

/-! ## What a search comes to -/

/-- An ampersand that `'static` does not follow, or the quote of another lifetime. -/
def Offends (t : Token) (rest : Tokens) : Prop :=
  (t.isPunct '&' = true ∧ ¬ StaticNext rest) ∨ (t.isPunct '\'' = true ∧ ¬ StaticNext (t :: rest))

/-- What is said about tokens: that none of them offends, or where the first one stands that does. -/
inductive Sought (ts : Tokens) : Option Position → Prop where
  | clean (h : ∀ path t rest, Stands ts path t rest → ¬ Offends t rest) : Sought ts none
  | first {path : List Nat} {t : Token} {rest : Tokens} (hstands : Stands ts path t rest)
      (hoffends : Offends t rest)
      (hbefore : ∀ earlier u more, Stands ts earlier u more → Earlier earlier path → ¬ Offends u more) :
      Sought ts (some t.position)

namespace Sought

variable {ts inner rest : Tokens} {t : Token} {p q : Position} {v : Option Position}

theorem nil : Sought [] none := .clean fun _ _ _ h => absurd h not_stands_nil

theorem head (h : Offends t rest) : Sought (t :: rest) (some t.position) := by
  have hstands : Stands (t :: rest) [0] t rest := .here rfl
  refine .first hstands h fun earlier u more hu hearlier => ?_
  cases earlier with
  | nil => exact absurd hu not_stands_root
  | cons n path =>
    rcases earlier_cons.mp hearlier with hlt | ⟨-, hnil⟩
    · exact absurd hlt (Nat.not_lt_zero n)
    · exact absurd hnil not_earlier_nil

/-- A group comes before what it holds, but it does not offend itself. -/
theorem inside (d : Delimiter) (p : Position) (rest : Tokens) (h : Sought inner (some q)) :
    Sought (.group d inner p :: rest) (some q) := by
  cases h with
  | first hstands hoffends hbefore =>
    have hgroup : (Token.group d inner p :: rest)[0]? = some (.group d inner p) := rfl
    refine .first (.inside hgroup hstands) hoffends fun earlier u more hu hearlier => ?_
    -- whatever comes before the token is the group itself, or inside it and before the token there
    cases earlier with
    | nil => exact absurd hu not_stands_root
    | cons n path =>
      rcases earlier_cons.mp hearlier with hlt | ⟨rfl, hpath⟩
      · exact absurd hlt (Nat.not_lt_zero n)
      · rcases stands_zero.mp hu with ⟨-, rfl, -⟩ | ⟨_, _, _, hgroup, hinner⟩
        · simp [Offends, Token.isPunct]
        · cases hgroup
          exact hbefore path u more hinner hpath

theorem skip (hclean : ∀ path u more, Stands (t :: rest) (0 :: path) u more → ¬ Offends u more)
    (h : Sought rest v) : Sought (t :: rest) v := by
  cases h with
  | clean hrest =>
    refine .clean fun path u more hu => ?_
    match path with
    | [] => exact absurd hu not_stands_root
    | 0 :: path => exact hclean path u more hu
    | (n + 1) :: path => exact hrest (n :: path) u more (stands_succ.mp hu)
  | @first path _ _ hstands hoffends hbefore =>
    match path with
    | [] => exact absurd hstands not_stands_root
    | n :: path =>
      refine .first (stands_succ.mpr hstands) hoffends fun earlier u more hu hearlier => ?_
      match earlier with
      | [] => exact absurd hu not_stands_root
      | 0 :: earlier => exact hclean earlier u more hu
      | (m + 1) :: earlier =>
        -- both paths are one place further than in the rest, so their order is the same
        refine hbefore (m :: earlier) u more (stands_succ.mp hu) (earlier_cons.mpr ?_)
        simpa using earlier_cons.mp hearlier

theorem skip_token (hgroup : ∀ d inner p, t ≠ .group d inner p) (ht : ¬ Offends t rest) (h : Sought rest v) :
    Sought (t :: rest) v := by
  refine h.skip fun path u more hu => ?_
  rcases stands_zero.mp hu with ⟨-, rfl, rfl⟩ | ⟨d, inner, p, ht', -⟩
  · exact ht
  · exact absurd ht' (hgroup d inner p)

theorem skip_group (d : Delimiter) (p : Position) (hinner : Sought inner none) (h : Sought rest v) :
    Sought (.group d inner p :: rest) v := by
  refine h.skip fun path u more hu => ?_
  rcases stands_zero.mp hu with ⟨-, rfl, -⟩ | ⟨_, _, _, hgroup, hu⟩
  · simp [Offends, Token.isPunct]
  · cases hgroup
    cases hinner with
    | clean hclean => exact hclean path u more hu

theorem eq_none_iff (h : Sought ts v) :
    v = none ↔ ∀ path t rest, Stands ts path t rest → ¬ Offends t rest := by
  cases h with
  | clean h => exact ⟨fun _ => h, fun _ => rfl⟩
  | first hstands hoffends _ => exact ⟨nofun, fun h => absurd hoffends (h _ _ _ hstands)⟩

theorem eq_some_iff (h : Sought ts v) : v = some p ↔ ∃ path t rest, Stands ts path t rest ∧ Offends t rest ∧
    t.position = p ∧ ∀ earlier u more, Stands ts earlier u more → Earlier earlier path → ¬ Offends u more := by
  cases h with
  | clean hclean => exact ⟨nofun, fun ⟨path, t, rest, hstands, hoffends, _⟩ => absurd hoffends (hclean _ _ _ hstands)⟩
  | @first path t rest hstands hoffends hbefore =>
    constructor
    · intro hp
      exact ⟨path, t, rest, hstands, hoffends, Option.some.inj hp, hbefore⟩
    · rintro ⟨other, u, more, hu, hoffends', rfl, hbefore'⟩
      rcases earlier_or path other with hlt | rfl | hlt
      · exact absurd hoffends (hbefore' path t rest hstands hlt)
      · rw [(hstands.unique hu).1]
      · exact absurd hoffends' (hbefore other u more hu hlt)

end Sought

theorem borrowIn?_punct (c : Char) (joint : Bool) (p : Position) (rest : Tokens) :
    (Offends (.punct c joint p) rest ∧ borrowIn? (.punct c joint p) rest = some p) ∨
      (¬ Offends (.punct c joint p) rest ∧ borrowIn? (.punct c joint p) rest = none) := by
  rw [borrowIn?, Offends, ← startsWithStatic_iff, ← startsWithStatic_iff]
  by_cases hampersand : c = '&' ∧ startsWithStatic rest = false
  · simp [Token.isPunct, hampersand]
  · by_cases hquote : c = '\'' ∧ startsWithStatic (.punct c joint p :: rest) = false
    · obtain ⟨rfl, hquote⟩ := hquote
      simp [Token.isPunct, hquote]
    · simp [Token.isPunct, hampersand, hquote]

/-- **The verdict of the search.** -/
theorem borrow?_sought (ts : Tokens) : Sought ts (borrow? ts) := by
  induction ts using nested with
  | nil => exact .nil
  | ident text p rest ih => exact ih.skip_token (by simp) (by simp [Offends, Token.isPunct])
  | literal text p rest ih => exact ih.skip_token (by simp) (by simp [Offends, Token.isPunct])
  | punct c joint p rest ih =>
    rw [borrow?]
    obtain ⟨hoffends, hfound⟩ | ⟨hclean, hnone⟩ := borrowIn?_punct c joint p rest
    · rw [hfound]
      exact .head hoffends
    · rw [hnone]
      exact ih.skip_token (by simp) hclean
  | group d inner p rest ihInner ih =>
    rw [borrow?, borrowIn?]
    -- what the group holds comes before the rest
    cases hinner : borrow? inner with
    | none =>
      rw [hinner] at ihInner
      exact ihInner.skip_group d p ih
    | some q =>
      rw [hinner] at ihInner
      exact ihInner.inside d p rest

/-! ## Groups around a type -/

/-- A group around some tokens, with what stands beside it. -/
structure Layer where
  before : Tokens
  delimiter : Delimiter
  position : Position
  after : Tokens

/-- Tokens in groups, the outermost of which comes first. -/
def enclose (layers : List Layer) (ts : Tokens) : Tokens :=
  layers.foldr (fun l inner => l.before ++ .group l.delimiter inner l.position :: l.after) ts

section Groups

variable {ts : Tokens}

theorem Lends.append_left (before : Tokens) (h : Lends ts) : Lends (before ++ ts) := by
  induction before with
  | nil => exact h
  | cons t before ih => exact .after t ih

theorem Lends.enclose (layers : List Layer) (h : Lends ts) : Lends (enclose layers ts) := by
  induction layers with
  | nil => exact h
  | cons l layers ih => exact (Lends.inside l.delimiter l.position l.after ih).append_left l.before

/-- The lifetime of a double reference is that of the inner one. -/
theorem lends_double (before after : Tokens) (joint joint' : Bool) (p q : Position) :
    Lends (before ++ .punct '&' joint p :: .punct '&' joint' q :: after) := by
  -- what follows the outer ampersand is the inner one
  have hnext : ¬ StaticNext (.punct '&' joint' q :: after) := fun ⟨_, _, _, _, h⟩ => by cases h
  exact (Lends.ampersand joint p hnext).append_left before

theorem borrow?_ne_none_iff : borrow? ts ≠ none ↔ Lends ts := by
  rw [← borrow?_isSome_iff, Option.isSome_iff_ne_none]

/-- A method that returns something borrowed is not forwarded. -/
theorem violation?_ne_none_of_lends {s : Signature} {type : Tokens} (houtput : s.output = some type)
    (h : Lends type) : s.violation? ≠ none := by
  rw [Ne, s.decides.eq_none_iff]
  intro hclean
  exact hclean .borrowReturn (by simp [Rule.ofSignatures]) ⟨type, houtput, h⟩

end Groups

/-- **The search for borrows.** It finds nothing exactly if, at any depth, the lifetime `'static` follows each
ampersand in its group, and each lifetime is `'static`. Otherwise it finds the first token of the text that
offends against this, going into groups where it meets them. A double reference offends; and whatever is found
in some tokens is found in groups around them too, and keeps a method that returns such a type from being
forwarded. -/
theorem first_borrow_found (ts : Tokens) :
    (borrow? ts = none ↔ ∀ path t rest, Stands ts path t rest →
      (t.isPunct '&' = true → StaticNext rest) ∧ (t.isPunct '\'' = true → StaticNext (t :: rest))) ∧
    (∀ p, borrow? ts = some p ↔ ∃ path t rest, Stands ts path t rest ∧ Offends t rest ∧ t.position = p ∧
      ∀ earlier u more, Stands ts earlier u more → Earlier earlier path → ¬ Offends u more) ∧
    (∀ before after joint joint' p q,
      borrow? (before ++ .punct '&' joint p :: .punct '&' joint' q :: after) ≠ none) ∧
    (borrow? ts ≠ none → ∀ layers, borrow? (enclose layers ts) ≠ none ∧
      ∀ s : Signature, s.output = some (enclose layers ts) → s.violation? ≠ none) := by
  have hsought := borrow?_sought ts
  refine ⟨?_, fun p => hsought.eq_some_iff, ?_, ?_⟩
  · rw [hsought.eq_none_iff]
    simp only [Offends, not_or, not_and, not_not]
  · intro before after joint joint' p q
    exact borrow?_ne_none_iff.mpr (lends_double before after joint joint' p q)
  · intro hfound layers
    have hlends := (borrow?_ne_none_iff.mp hfound).enclose layers
    exact ⟨borrow?_ne_none_iff.mpr hlends, fun s houtput => violation?_ne_none_of_lends houtput hlends⟩

namespace Sample

/-- `&&'static str`. -/
def doubled : Tokens := [.punct '&' true ⟨1, 12⟩, .punct '&' false ⟨1, 13⟩, .punct '\'' true ⟨1, 14⟩,
  .ident "static" ⟨1, 15⟩, .ident "str" ⟨1, 22⟩]

/-- `(&'static u8, [_])`, with something in the brackets. -/
def layers : List Layer := [
  ⟨[], .parenthesis, ⟨1, 0⟩, []⟩,
  ⟨[.punct '&' false ⟨1, 1⟩, .punct '\'' true ⟨1, 2⟩, .ident "static" ⟨1, 3⟩, .ident "u8" ⟨1, 7⟩,
    .punct ',' false ⟨1, 9⟩], .bracket, ⟨1, 11⟩, []⟩]

/-- `fn tags(&self)`, with a type that it returns. -/
def tags (output : Tokens) : Signature where
  constness := []
  asyncness := []
  unsafety := []
  abi := []
  name := .word "tags"
  generics := .empty
  inputs := ⟨[.receiver ⟨[], Tokens.operator "&", [], [.word "self"], []⟩], false⟩
  variadic := []
  output := some output
  conditions := .empty

end Sample

/-- The outer ampersand is found, and the lifetime before it is passed over. -/
theorem first_borrow_found_doubled : borrow? Sample.doubled ≠ none ∧
    borrow? (enclose Sample.layers Sample.doubled) ≠ none ∧
    (Sample.tags (enclose Sample.layers Sample.doubled)).violation? ≠ none ∧
    ∃ path t rest, Stands (enclose Sample.layers Sample.doubled) path t rest ∧ Offends t rest ∧
      t.position = ⟨1, 12⟩ := by
  have hfound : borrow? Sample.doubled ≠ none := by decide
  obtain ⟨-, -, -, henclosed⟩ := first_borrow_found Sample.doubled
  obtain ⟨-, hfirst, -⟩ := first_borrow_found (enclose Sample.layers Sample.doubled)
  obtain ⟨path, t, rest, hstands, hoffends, hposition, -⟩ := (hfirst ⟨1, 12⟩).mp (by decide)
  obtain ⟨hne, hviolation⟩ := henclosed hfound Sample.layers
  exact ⟨hfound, hne, hviolation _ rfl, path, t, rest, hstands, hoffends, hposition⟩

end LiveSwap.Forwarding.Tokens
