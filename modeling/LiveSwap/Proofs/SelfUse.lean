import LiveSwap.Proofs.ForwardedCode

/-!
# Where the instance's own type may show

A method that is forwarded shows `Self` neither in the types of its arguments or of what it returns, nor in the
types that its conditions are on. Other parts of its signature are not looked at.

* **`Signature.occurs_tokens_iff`** — a word of a signature stands in one of its parts.
* **`TraitDeclaration.self_shows_iff`** — where `Self` may stand, and where not.
* **`TraitDeclaration.self_as_bound`** — a bound can be `Self` without breaking a rule.
-/

namespace LiveSwap.Forwarding

open Tokens (Occurs occurs_append occurs_flatMap)

variable {text : String}

/-! ## Words of lists -/

theorem Tokens.not_occurs_operator (text operator : String) : ¬ Occurs text (Tokens.operator operator) := by
  unfold Tokens.operator
  generalize operator.toList = cs
  fun_induction Tokens.operator.go cs with
  | case1 => simp
  | case2 c => simp
  | case3 c cs _ ih => simpa using ih

namespace Entries

variable {α : Type} {e : Entries α} {separator : String} {f : α → Tokens}

theorem occurs_entryTokens {entry : α × Bool} :
    Occurs text (entryTokens separator f entry) ↔ Occurs text (f entry.1) := by
  have hseparator := Tokens.not_occurs_operator text separator
  unfold entryTokens
  split_ifs <;> simp [hseparator]

theorem exists_marked_iff {P : α → Prop} : (∃ entry ∈ e.marked, P entry.1) ↔ ∃ a ∈ e.items, P a := by
  rw [← e.marked_map_fst]
  simp

theorem occurs_tokens : Occurs text (e.tokens separator f) ↔ ∃ a ∈ e.items, Occurs text (f a) := by
  simp only [Entries.tokens, occurs_flatMap, occurs_entryTokens]
  exact exists_marked_iff (P := fun a => Occurs text (f a))

theorem occurs_tokensWithFirst {early : α → Bool} :
    Occurs text (e.tokensWithFirst early f) ↔ ∃ a ∈ e.items, Occurs text (f a) := by
  have hcomma := Tokens.not_occurs_operator text ","
  unfold tokensWithFirst
  -- the entries are only moved around, and the commas are no words
  rw [List.partition_eq_filter_filter, ← exists_marked_iff (P := fun a => Occurs text (f a))]
  simp only [occurs_append, occurs_flatMap, occurs_entryTokens, List.mem_filter]
  constructor
  · rintro ((⟨entry, ⟨hentry, -⟩, h⟩ | hglue) | ⟨entry, ⟨hentry, -⟩, h⟩)
    · exact ⟨entry, hentry, h⟩
    · split at hglue
      · exact absurd hglue hcomma
      · cases hglue
    · exact ⟨entry, hentry, h⟩
  · rintro ⟨entry, hentry, h⟩
    cases hearly : early entry.1
    · exact .inr ⟨entry, ⟨hentry, by simp [hearly]⟩, h⟩
    · exact .inl (.inl ⟨entry, ⟨hentry, hearly⟩, h⟩)

end Entries

/-! ## Words of signatures -/

theorem Generics.occurs_tokens {g : Generics} :
    Occurs text g.tokens ↔ ∃ p ∈ g.params.items, Occurs text p.tokens := by
  have hopened := Tokens.not_occurs_operator text "<"
  have hclosed := Tokens.not_occurs_operator text ">"
  unfold Generics.tokens
  split_ifs with hempty
  · simp [List.isEmpty_iff.mp hempty]
  · simp [hopened, hclosed, Entries.occurs_tokensWithFirst]

theorem occurs_whereTokens {clause : WhereClause} (htext : "where" ≠ text) :
    Occurs text (whereTokens clause) ↔ ∃ c ∈ clause.items, Occurs text c.tokens := by
  unfold whereTokens
  split_ifs with hempty
  · simp [List.isEmpty_iff.mp hempty]
  · simp [Token.word, htext, Entries.occurs_tokens]

namespace Signature

variable {s : Signature}

/-- The parts that a signature consists of, besides its name and fixed words. -/
theorem occurs_tokens_iff (hfn : "fn" ≠ text) (hwhere : "where" ≠ text) : Occurs text s.tokens ↔
    Occurs text s.constness ∨ Occurs text s.asyncness ∨ Occurs text s.unsafety ∨ Occurs text s.abi ∨
    Occurs text [s.name] ∨ (∃ p ∈ s.generics.params.items, Occurs text p.tokens) ∨
    (∃ i ∈ s.inputs.items, Occurs text i.tokens) ∨ Occurs text s.variadic ∨
    (∃ type ∈ s.output, Occurs text type) ∨ ∃ c ∈ s.conditions.items, Occurs text c.tokens := by
  -- operators and fixed words are not the text
  have hcomma := Tokens.not_occurs_operator text ","
  have harrow := Tokens.not_occurs_operator text "->"
  have hinputs : Occurs text (s.inputs.tokens "," Input.tokens ++
      (if s.variadic.isEmpty || s.inputs.items.isEmpty || s.inputs.trailing then []
        else Tokens.operator ",") ++ s.variadic) ↔
      (∃ i ∈ s.inputs.items, Occurs text i.tokens) ∨ Occurs text s.variadic := by
    split_ifs <;> simp [hcomma, Entries.occurs_tokens]
  have hname : Occurs text [.word "fn", s.name] ↔ Occurs text [s.name] := by
    simp [Token.word, hfn]
  unfold Signature.tokens
  simp only [occurs_append, hname, Generics.occurs_tokens, Token.enclosed, Tokens.occurs_group, hinputs,
    Tokens.not_occurs_nil, or_false, occurs_whereTokens hwhere]
  cases s.output <;> simp [harrow, or_assoc]

/-- The signature without its receiver. -/
def beyondReceiver (s : Signature) : Signature := s.withInputs s.inputs.items.tail

/-- Where the instance's own type may show in a signature that can be forwarded. -/
theorem self_occurs_iff (hs : s.Formed) (hrules : ∀ rule ∈ Rule.ofSignatures, ¬ s.Breaks rule) :
    Occurs "Self" s.beyondReceiver.tokens ↔
      (∃ p ∈ s.generics.params.items, Occurs "Self" p.tokens) ∨
      (∃ c ∈ s.conditions.items, Occurs "Self" c.tokens) ∨
      ∃ a, .argument a ∈ s.inputs.items.tail ∧
        (Occurs "Self" (attributeTokens a.attributes) ∨ Occurs "Self" a.pattern) := by
  -- each rule that is not broken rules out one place for the word
  have hconst : ¬ Occurs "Self" s.constness := by
    rcases hs.constness with h | ⟨p, h⟩ <;> simp [h]
  have hname : ¬ Occurs "Self" [s.name] := by
    obtain ⟨text, p, hname, hkeyword⟩ := hs.name
    have hself : text ≠ "Self" := fun h => hkeyword (by simp [h, Reader.keywords])
    simp [hname, hself]
  have hasync : s.asyncness = [] := not_not.mp (hrules .asyncMethod (by simp [Rule.ofSignatures]))
  have hunsafe : s.unsafety = [] := not_not.mp (hrules .unsafeMethod (by simp [Rule.ofSignatures]))
  have habi : s.abi = [] := not_not.mp (hrules .externMethod (by simp [Rule.ofSignatures]))
  have hvariadic : s.variadic = [] := not_not.mp (hrules .variadicMethod (by simp [Rule.ofSignatures]))
  have houtput : ¬ ∃ type ∈ s.output, Occurs "Self" type := hrules .selfReturn (by simp [Rule.ofSignatures])
  have harguments : ¬ ∃ a, .argument a ∈ s.inputs.items.tail ∧ Occurs "Self" a.type :=
    hrules .selfArgument (by simp [Rule.ofSignatures])
  -- in an argument the type is ruled out as well, which leaves attributes and pattern
  have hinputs : (∃ i ∈ s.inputs.items.tail, Occurs "Self" i.tokens) ↔
      ∃ a, .argument a ∈ s.inputs.items.tail ∧
        (Occurs "Self" (attributeTokens a.attributes) ∨ Occurs "Self" a.pattern) := by
    have hargument : ∀ a, .argument a ∈ s.inputs.items.tail → (Occurs "Self" a.tokens ↔
        Occurs "Self" (attributeTokens a.attributes) ∨ Occurs "Self" a.pattern) := by
      intro a ha
      have htype : ¬ Occurs "Self" a.type := fun h => harguments ⟨a, ha, h⟩
      simp [Argument.tokens, Tokens.not_occurs_operator, htype]
    constructor
    · rintro ⟨i, hi, hself⟩
      obtain ⟨a, rfl⟩ := hs.arguments i hi
      exact ⟨a, hi, (hargument a hi).mp hself⟩
    · rintro ⟨a, ha, hself⟩
      exact ⟨.argument a, ha, (hargument a ha).mpr hself⟩
  rw [occurs_tokens_iff (by decide) (by decide)]
  simp only [beyondReceiver, withInputs, hconst, hname, hasync, hunsafe, habi, hvariadic, houtput, hinputs,
    Tokens.not_occurs_nil, false_or]
  exact or_congr_right or_comm

end Signature

namespace TraitDeclaration

variable {t : TraitDeclaration} {i : ForwardingImpl} {m : Method}

theorem generate_rules (h : t.generate = .ok i) (hm : .method m ∈ t.items) :
    ∀ rule ∈ Rule.ofSignatures, ¬ m.signature.Breaks rule := by
  obtain ⟨m', hm', hrules⟩ := (generate_eq_ok_iff.mp h).1.items (.method m) hm
  rwa [TraitItem.method.inj hm']

/-- **Where `Self` may stand in what is forwarded.** It stands in no type of an argument, of what is returned or
of what a condition is on. It may stand in what bounds a parameter or a condition, and in the attributes and the
pattern of an argument. -/
theorem self_shows_iff (ht : t.Formed) (h : t.generate = .ok i) (hm : .method m ∈ t.items) :
    (∀ a, .argument a ∈ m.signature.inputs.items.tail → ¬ Occurs "Self" a.type) ∧
    (∀ type ∈ m.signature.output, ¬ Occurs "Self" type) ∧
    (∀ c ∈ m.signature.conditions.items, ∀ type ∈ c.bounded, ¬ Occurs "Self" type) ∧
    (Occurs "Self" m.signature.beyondReceiver.tokens ↔
      (∃ p ∈ m.signature.generics.params.items, Occurs "Self" p.tokens) ∨
      (∃ c ∈ m.signature.conditions.items, Occurs "Self" c.tokens) ∨
      ∃ a, .argument a ∈ m.signature.inputs.items.tail ∧
        (Occurs "Self" (attributeTokens a.attributes) ∨ Occurs "Self" a.pattern)) := by
  have hrules := generate_rules h hm
  have hformed : m.signature.Formed := ht.items (.method m) hm
  refine ⟨fun a ha hself => ?_, fun type htype hself => ?_, fun c hc type htype hself => ?_,
    Signature.self_occurs_iff hformed hrules⟩
  · exact hrules .selfArgument (by simp [Rule.ofSignatures]) ⟨a, ha, hself⟩
  · exact hrules .selfReturn (by simp [Rule.ofSignatures]) ⟨type, htype, hself⟩
  · exact hrules .selfBound (by simp [Rule.ofSignatures]) ⟨c, hc, type, htype, hself⟩

/-- A trait with a method whose parameter is bounded by the instance's own type. -/
def adopting : String := "trait Pool \x7b fn adopt<T>(&self, t: T) where T: Into<Self>; \x7d"

/-- A method that shows the instance's own type beyond its receiver. -/
def showsSelf : TraitItem → Bool
  | .method m => (Tokens.find? "Self" m.signature.beyondReceiver.tokens).isSome
  | _ => false

theorem adopting_forwarded : ∃ t i m, ofText? adopting = some t ∧ t.generate = .ok i ∧ .method m ∈ t.items ∧
    Occurs "Self" m.signature.beyondReceiver.tokens := by
  have hfound : (ofText? adopting).any (fun t => t.violations.isEmpty && t.items.any showsSelf) = true := by
    decide +kernel
  obtain ⟨t, hread, ht⟩ := Option.any_eq_true _ _ |>.mp hfound
  rw [Bool.and_eq_true, List.isEmpty_iff, List.any_eq_true] at ht
  obtain ⟨hviolations, item, hitem, hself⟩ := ht
  cases item with
  | method m =>
    have hgenerate := (violations_eq_nil_iff.mp hviolations).generate_eq
    exact ⟨t, _, m, hread, hgenerate, hitem, (Tokens.find?_isSome_iff ..).mp hself⟩
  | _ => cases hself

theorem self_shows_iff_adopting : ∃ t i m, ofText? adopting = some t ∧ t.Formed ∧ t.generate = .ok i ∧
    .method m ∈ t.items ∧
    (∀ a, .argument a ∈ m.signature.inputs.items.tail → ¬ Occurs "Self" a.type) ∧
    (∀ type ∈ m.signature.output, ¬ Occurs "Self" type) ∧
    (∀ c ∈ m.signature.conditions.items, ∀ type ∈ c.bounded, ¬ Occurs "Self" type) ∧
    (Occurs "Self" m.signature.beyondReceiver.tokens ↔
      (∃ p ∈ m.signature.generics.params.items, Occurs "Self" p.tokens) ∨
      (∃ c ∈ m.signature.conditions.items, Occurs "Self" c.tokens) ∨
      ∃ a, .argument a ∈ m.signature.inputs.items.tail ∧
        (Occurs "Self" (attributeTokens a.attributes) ∨ Occurs "Self" a.pattern)) := by
  obtain ⟨t, i, m, hread, hgenerate, hm, -⟩ := adopting_forwarded
  have hformed := formed_of_ofText? hread
  exact ⟨t, i, m, hread, hformed, hgenerate, hm, self_shows_iff hformed hgenerate hm⟩

/-- A bound can be `Self` without breaking a rule. -/
theorem self_as_bound : ¬ ∀ (text : String) (t : TraitDeclaration) (i : ForwardingImpl) (m : Method),
    ofText? text = some t → t.generate = .ok i → .method m ∈ t.items →
      ¬ Occurs "Self" m.signature.beyondReceiver.tokens := by
  intro hclaim
  obtain ⟨t, i, m, hread, hgenerate, hm, hself⟩ := adopting_forwarded
  exact hclaim adopting t i m hread hgenerate hm hself

end TraitDeclaration

end LiveSwap.Forwarding
