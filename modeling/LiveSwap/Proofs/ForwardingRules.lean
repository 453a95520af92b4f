import LiveSwap.Forwarding.Expansion
import LiveSwap.Proofs.TokenSearch
import Mathlib.Data.List.Forall2
import Mathlib.Data.List.ReduceOption
import Mathlib.Data.Set.List
import Mathlib.Tactic.SplitIfs

/-!
# Which rules a declaration breaks

`Signature.Breaks`, `TraitItem.Breaks` and `TraitDeclaration.Breaks` say what it is to break a rule, without
the checks. A check `Decides` a list of rules if it finds none of them broken, or tells the first one that is.

* **`TraitItem.decides`** — an item is judged by the first rule that it breaks.
* **`TraitDeclaration.reported`** — a trait is reported for itself, or else item by item.
* **`TraitDeclaration.expand_settled`** — what any trait comes back as.
-/

namespace LiveSwap.Forwarding

open Tokens (Occurs Lends)

/-! ## Verdicts -/

/-- What a check says about rules that are checked in some order: that none is broken, or which one is that
comes first. -/
inductive Decides (broken : Rule → Prop) (order : List Rule) : Option Violation → Prop where
  | clean (h : ∀ rule ∈ order, ¬ broken rule) : Decides broken order none
  | first {before after : List Rule} {rule : Rule} (p : Position) (horder : order = before ++ rule :: after)
      (hbefore : ∀ earlier ∈ before, ¬ broken earlier) (hrule : broken rule) :
      Decides broken order (some ⟨rule, p⟩)

namespace Decides

variable {broken : Rule → Prop} {first second : List Rule} {rule : Rule} {v w : Option Violation}

theorem nil : Decides broken [] none := .clean nofun

/-- A search for what breaks one rule. -/
theorem found {place : Option Position} (h : place.isSome ↔ broken rule) :
    Decides broken [rule] (place.map fun p => ⟨rule, p⟩) := by
  cases place with
  | none => exact .clean (by simpa using h)
  | some p => exact .first p (List.nil_append _).symm nofun (h.mp rfl)

/-- Two checks, of which the second one is for when the first one finds nothing. -/
theorem append (hv : Decides broken first v) (hw : Decides broken second w) :
    Decides broken (first ++ second) (v.or w) := by
  -- what the first check finds comes first; otherwise all its rules hold
  cases hv with
  | first p horder hbefore hrule =>
    rw [horder, List.append_assoc]
    exact .first p rfl hbefore hrule
  | clean h =>
    rw [Option.none_or]
    cases hw with
    | clean h' => exact .clean fun rule hrule => (List.mem_append.mp hrule).elim (h rule) (h' rule)
    | first p horder hbefore hrule =>
      rw [horder, ← List.append_assoc]
      refine .first p rfl (fun earlier hearlier => ?_) hrule
      exact (List.mem_append.mp hearlier).elim (h earlier) (hbefore earlier)

theorem cons {checks : List (Option Violation)} (hv : Decides broken first v)
    (hchecks : Decides broken second (checks.findSome? id)) :
    Decides broken (first ++ second) ((v :: checks).findSome? id) := by
  have hor : (v :: checks).findSome? id = v.or (checks.findSome? id) := by
    cases v <;> rfl
  rw [hor]
  exact hv.append hchecks

theorem eq_none_iff (h : Decides broken first v) : v = none ↔ ∀ rule ∈ first, ¬ broken rule := by
  cases h with
  | clean h => exact ⟨fun _ => h, fun _ => rfl⟩
  | first p horder hbefore hrule =>
    refine ⟨nofun, fun hclean => absurd hrule (hclean _ ?_)⟩
    simp [horder]

end Decides

/-! ## Signatures -/

/-- The rules for signatures, in the order in which they are checked. -/
def Rule.ofSignatures : List Rule := [
  .asyncMethod, .unsafeMethod, .externMethod, .variadicMethod, .exclusiveReceiver, .missingReceiver,
  .selfBound, .selfArgument, .selfReturn, .opaqueReturn, .borrowReturn]

/-- The receiver is `&self`, with or without a lifetime. -/
structure Receiver.Plain (r : Receiver) : Prop where
  reference : r.reference ≠ []
  mutability : r.mutability = []
  annotation : r.annotation = []

theorem Receiver.isShared_iff {r : Receiver} : r.isShared = true ↔ r.Plain := by
  simp only [isShared, Bool.and_eq_true, Bool.not_eq_true', List.isEmpty_iff, List.isEmpty_eq_false_iff]
  exact ⟨fun h => ⟨h.1.1, h.1.2, h.2⟩, fun h => ⟨⟨h.reference, h.mutability⟩, h.annotation⟩⟩

namespace Signature

variable {s : Signature}

/-- What it is for a signature to break a rule. -/
def Breaks (s : Signature) : Rule → Prop
  | .asyncMethod => s.asyncness ≠ []
  | .unsafeMethod => s.unsafety ≠ []
  | .externMethod => s.abi ≠ []
  | .variadicMethod => s.variadic ≠ []
  | .exclusiveReceiver => ∃ r, s.inputs.items.head? = some (.receiver r) ∧ ¬ r.Plain
  | .missingReceiver => ∀ r, s.inputs.items.head? ≠ some (.receiver r)
  | .selfBound => ∃ c ∈ s.conditions.items, ∃ type ∈ c.bounded, Occurs "Self" type
  | .selfArgument => ∃ a, .argument a ∈ s.inputs.items.tail ∧ Occurs "Self" a.type
  | .selfReturn => ∃ type ∈ s.output, Occurs "Self" type
  | .opaqueReturn => ∃ type ∈ s.output, Occurs "impl" type
  | .borrowReturn => ∃ type ∈ s.output, Lends type
  | .genericTrait | .unsafeTrait | .associatedType | .associatedConstant | .otherItem => False

/-! ### One check at a time -/

theorem decides_unlessAbsent {broken : Rule → Prop} {rule : Rule} {ts : Tokens}
    (h : ts ≠ [] ↔ broken rule) : Decides broken [rule] (unlessAbsent rule ts) := by
  cases ts with
  | nil => exact .clean (by simpa using h)
  | cons t ts => exact .first _ (List.nil_append _).symm nofun (h.mp (List.cons_ne_nil t ts))

theorem decides_receiver (s : Signature) :
    Decides s.Breaks [.exclusiveReceiver, .missingReceiver] s.receiverViolation := by
  unfold receiverViolation
  split
  -- a method with a receiver breaks at most the rule on how it is shared
  · rename_i r rest hinputs
    have hmissing : ¬ s.Breaks .missingReceiver := fun h => h r (by rw [hinputs]; rfl)
    have hexclusive : s.Breaks .exclusiveReceiver ↔ ¬ r.Plain := by simp [Breaks, hinputs]
    by_cases hr : r.isShared
    · rw [if_pos hr]
      refine .clean ?_
      simp [hmissing, hexclusive, Receiver.isShared_iff.mp hr]
    · rw [if_neg hr]
      refine .first _ (List.nil_append _).symm nofun (hexclusive.mpr ?_)
      rwa [← Receiver.isShared_iff]
  -- without one there is nothing to be shared
  · rename_i hinputs
    have hmissing : s.Breaks .missingReceiver := by
      intro r hr
      obtain ⟨rest, hrest⟩ := List.head?_eq_some_iff.mp hr
      exact hinputs r rest hrest
    have hexclusive : ¬ s.Breaks .exclusiveReceiver := fun ⟨r, hr, _⟩ => hmissing r hr
    have hbefore : ∀ earlier ∈ [Rule.exclusiveReceiver], ¬ s.Breaks earlier := by
      simpa using hexclusive
    exact .first _ rfl hbefore hmissing

theorem decides_bound (s : Signature) : Decides s.Breaks [.selfBound] s.boundViolation := by
  refine .found ?_
  simp only [List.findSome?_isSome_iff, Option.isSome_bind, Option.any_eq_true, Tokens.find?_isSome_iff]
  rfl

theorem decides_argument (s : Signature) : Decides s.Breaks [.selfArgument] s.argumentViolation := by
  refine .found ?_
  rw [List.findSome?_isSome_iff, List.drop_one]
  constructor
  · rintro ⟨i, hi, hfound⟩
    cases i with
    | receiver r => cases hfound
    | argument a => exact ⟨a, hi, (Tokens.find?_isSome_iff ..).mp hfound⟩
  · rintro ⟨a, ha, hself⟩
    exact ⟨.argument a, ha, (Tokens.find?_isSome_iff ..).mpr hself⟩

theorem decides_output {rule : Rule} {search : Tokens → Option Position}
    (h : (∃ type ∈ s.output, (search type).isSome) ↔ s.Breaks rule) :
    Decides s.Breaks [rule] (s.outputViolation rule search) := by
  refine .found ?_
  rw [← h]
  cases s.output <;> simp

/-- **A signature is judged by the first rule that it breaks.** -/
theorem decides (s : Signature) : Decides s.Breaks Rule.ofSignatures s.violation? := by
  -- one lemma per rule, and the rules in the order in which they are checked
  have hasync : Decides s.Breaks [.asyncMethod] (unlessAbsent .asyncMethod s.asyncness) :=
    decides_unlessAbsent .rfl
  have hunsafe : Decides s.Breaks [.unsafeMethod] (unlessAbsent .unsafeMethod s.unsafety) :=
    decides_unlessAbsent .rfl
  have hextern : Decides s.Breaks [.externMethod] (unlessAbsent .externMethod s.abi) :=
    decides_unlessAbsent .rfl
  have hvariadic : Decides s.Breaks [.variadicMethod] (unlessAbsent .variadicMethod s.variadic) :=
    decides_unlessAbsent .rfl
  have hself : Decides s.Breaks [.selfReturn] (s.outputViolation .selfReturn (Tokens.find? "Self")) :=
    decides_output (by simp only [Tokens.find?_isSome_iff, Breaks])
  have hopaque : Decides s.Breaks [.opaqueReturn] (s.outputViolation .opaqueReturn (Tokens.find? "impl")) :=
    decides_output (by simp only [Tokens.find?_isSome_iff, Breaks])
  have hborrow : Decides s.Breaks [.borrowReturn] (s.outputViolation .borrowReturn Tokens.borrow?) :=
    decides_output (by simp only [Tokens.borrow?_isSome_iff, Breaks])
  exact hasync.cons <| hunsafe.cons <| hextern.cons <| hvariadic.cons <| s.decides_receiver.cons <|
    s.decides_bound.cons <| s.decides_argument.cons <| hself.cons <| hopaque.cons <| hborrow.cons .nil

end Signature

/-! ## Items -/

/-- The rules for items, in the order in which they are checked. -/
def Rule.ofItems : List Rule := [.associatedType, .associatedConstant, .otherItem] ++ ofSignatures

namespace TraitItem

/-- What it is for an item to break a rule. Only methods can do without. -/
def Breaks : TraitItem → Rule → Prop
  | .method m => m.signature.Breaks
  | .associatedType _ => (· = .associatedType)
  | .associatedConstant _ => (· = .associatedConstant)
  | .other _ => (· = .otherItem)

/-- **An item is judged by the first rule that it breaks.** -/
theorem decides (item : TraitItem) : Decides item.Breaks Rule.ofItems item.violation? := by
  -- only methods are checked further; everything else breaks the rule of its own kind
  cases item with
  | method m =>
    have hkind : Decides m.signature.Breaks [.associatedType, .associatedConstant, .otherItem] none :=
      .clean (by simp [Signature.Breaks])
    exact hkind.append m.signature.decides
  | associatedType name => exact .first name.position (List.nil_append _).symm nofun rfl
  | associatedConstant name =>
    have hbefore : ∀ earlier ∈ [Rule.associatedType], ¬ Breaks (.associatedConstant name) earlier := by
      simp [Breaks]
    exact .first name.position rfl hbefore rfl
  | other p =>
    have hbefore : ∀ earlier ∈ [Rule.associatedType, .associatedConstant], ¬ Breaks (.other p) earlier := by
      simp [Breaks]
    exact .first p rfl hbefore rfl

theorem violation?_eq_none_iff {item : TraitItem} :
    item.violation? = none ↔ ∃ m, item = .method m ∧ ∀ rule ∈ Rule.ofSignatures, ¬ m.signature.Breaks rule := by
  cases item with
  | method m =>
    rw [violation?, m.signature.decides.eq_none_iff]
    simp
  | associatedType name => simp [violation?]
  | associatedConstant name => simp [violation?]
  | other p => simp [violation?]

end TraitItem

/-! ## Traits -/

/-- The rules for traits as a whole, in the order in which they are checked. -/
def Rule.ofTraits : List Rule := [.genericTrait, .unsafeTrait]

namespace TraitDeclaration

variable {t : TraitDeclaration} {vs : List Violation}

/-- What it is for a trait to break a rule as a whole. -/
def Breaks (t : TraitDeclaration) : Rule → Prop
  | .genericTrait => t.generics.params.items ≠ [] ∨ t.conditions ≠ none
  | .unsafeTrait => t.unsafety ≠ []
  | _ => False

theorem decides (t : TraitDeclaration) : Decides t.Breaks Rule.ofTraits t.violation? := by
  unfold violation?
  split_ifs with hparams hconditions
  · have hgeneric : t.Breaks .genericTrait := .inl (by simpa using hparams)
    exact .first _ (List.nil_append _).symm nofun hgeneric
  · have hgeneric : t.Breaks .genericTrait := .inr (Option.isSome_iff_ne_none.mp hconditions)
    exact .first _ (List.nil_append _).symm nofun hgeneric
  · have hgeneric : Decides t.Breaks [.genericTrait] none :=
      .clean (by simp_all [Breaks])
    exact hgeneric.append (Signature.decides_unlessAbsent .rfl)

/-- What a trait is reported for: one rule that it breaks as a whole, or else the rule of each item that breaks
one, in order. -/
inductive Reported (t : TraitDeclaration) : List Violation → Prop where
  | whole {v : Violation} (h : Decides t.Breaks Rule.ofTraits (some v)) : Reported t [v]
  | items {verdicts : List (Option Violation)} (hwhole : Decides t.Breaks Rule.ofTraits none)
      (hitems : t.items.Forall₂ (fun item => Decides item.Breaks Rule.ofItems) verdicts) :
      Reported t verdicts.reduceOption

/-- **A trait is reported for itself, or else item by item.** -/
theorem reported (t : TraitDeclaration) : t.Reported t.violations := by
  have hwhole := t.decides
  unfold violations
  split
  -- a violation of the whole trait keeps the items from being examined
  · rename_i v hv
    exact .whole (hv ▸ hwhole)
  · rename_i hv
    have hitems : t.items.Forall₂ (fun item => Decides item.Breaks Rule.ofItems)
        (t.items.map TraitItem.violation?) :=
      List.forall₂_map_right_iff.mpr (List.forall₂_same.mpr fun item _ => item.decides)
    have hreduce : t.items.filterMap TraitItem.violation? = (t.items.map TraitItem.violation?).reduceOption := by
      rw [List.reduceOption, List.filterMap_map]
      rfl
    rw [hreduce]
    exact .items (hv ▸ hwhole) hitems

/-- A trait that breaks no rule. -/
structure Forwardable (t : TraitDeclaration) : Prop where
  params : t.generics.params.items = []
  conditions : t.conditions = none
  unsafety : t.unsafety = []
  items : ∀ item ∈ t.items, ∃ m, item = .method m ∧ ∀ rule ∈ Rule.ofSignatures, ¬ m.signature.Breaks rule

theorem violation?_eq_none_iff :
    t.violation? = none ↔ t.generics.params.items = [] ∧ t.conditions = none ∧ t.unsafety = [] := by
  rw [t.decides.eq_none_iff]
  simp [Rule.ofTraits, Breaks, and_assoc]

/-- **A trait is reported for nothing exactly if it breaks no rule.** -/
theorem violations_eq_nil_iff : t.violations = [] ↔ t.Forwardable := by
  have hitems : t.items.filterMap TraitItem.violation? = [] ↔
      ∀ item ∈ t.items, ∃ m, item = .method m ∧ ∀ rule ∈ Rule.ofSignatures, ¬ m.signature.Breaks rule := by
    simp only [List.filterMap_eq_nil_iff, TraitItem.violation?_eq_none_iff]
  unfold violations
  split
  -- the trait is reported as a whole exactly if it breaks one of those rules
  · rename_i v hv
    have hnone : t.violation? ≠ none := by simp [hv]
    refine ⟨nofun, fun h => absurd ?_ hnone⟩
    exact violation?_eq_none_iff.mpr ⟨h.params, h.conditions, h.unsafety⟩
  · rename_i hv
    obtain ⟨hparams, hconditions, hunsafety⟩ := violation?_eq_none_iff.mp hv
    rw [hitems]
    exact ⟨fun h => ⟨hparams, hconditions, hunsafety, h⟩, Forwardable.items⟩

/-! ## What is generated -/

theorem Forwardable.generate_eq (h : t.Forwardable) :
    t.generate = .ok ⟨t.name, t.items.filterMap TraitItem.forwarded?⟩ := by
  rw [generate, violations_eq_nil_iff.mpr h]

theorem generate_of_not_forwardable (h : ¬ t.Forwardable) : t.generate = .error t.violations := by
  rw [← violations_eq_nil_iff] at h
  unfold generate
  split
  · rename_i hnil
    exact absurd hnil h
  · rfl

theorem generate_eq_ok_iff {i : ForwardingImpl} : t.generate = .ok i ↔
    t.Forwardable ∧ i = ⟨t.name, t.items.filterMap TraitItem.forwarded?⟩ := by
  by_cases h : t.Forwardable
  · simp [h.generate_eq, h, eq_comm]
  · simp [generate_of_not_forwardable h, h]

theorem Forwardable.exists_methods (h : t.Forwardable) : ∃ methods : List Method, t.items = methods.map .method ∧
    ∀ m ∈ methods, ∀ rule ∈ Rule.ofSignatures, ¬ m.signature.Breaks rule := by
  have hmethods : t.items ∈ Set.range (List.map TraitItem.method) := by
    rw [Set.range_list_map]
    intro item hitem
    obtain ⟨m, rfl, -⟩ := h.items item hitem
    exact ⟨m, rfl⟩
  obtain ⟨methods, hmethods⟩ := hmethods
  refine ⟨methods, hmethods.symm, fun m hm => ?_⟩
  obtain ⟨m', hm', hrules⟩ := h.items (.method m) (hmethods ▸ List.mem_map_of_mem hm)
  rwa [TraitItem.method.inj hm']

end TraitDeclaration

/-! ## Code -/

/-- What the implementation of a trait for its proxies starts with. -/
def implementationHead (path : Tokens) (trait : Token) : Tokens :=
  wordAttribute "automatically_derived" ++ [.word "impl"] ++ angled [.word targetType] ++ [trait, .word "for"]
    ++ proxyPath path ++ angled [.word targetType] ++ [.word "where"] ++ [.word targetType]
    ++ Tokens.operator ":"
    ++ targetBounds trait ++ Tokens.operator ","

theorem TraitDeclaration.filterMap_forwarded? {t : TraitDeclaration} {methods : List Method}
    (hitems : t.items = methods.map .method) :
    t.items.filterMap TraitItem.forwarded? = methods.map Method.forwarded := by
  rw [hitems, List.filterMap_map]
  exact congrFun List.filterMap_eq_map methods

theorem TraitDeclaration.implementation_tokens {t : TraitDeclaration} {methods : List Method} (path : Tokens)
    (hitems : t.items = methods.map .method) :
    ForwardingImpl.tokens path ⟨t.name, t.items.filterMap TraitItem.forwarded?⟩ =
      implementationHead path t.name ++
        [.enclosed .brace (methods.flatMap fun m => m.forwarded.tokens path t.name)] := by
  rw [ForwardingImpl.tokens, filterMap_forwarded? hitems, List.flatMap_map]
  rfl

theorem Violation.render_tokens (v : Violation) : Tokens.render v.tokens =
    ":: core :: compile_error ! \x7b " ++ Lexeme.literalOf v.rule.message.toList ++ " \x7d" := by
  have hopening : ":: core :: compile_error ! \x7b " = ":" ++ (": " ++ ("core " ++ (":" ++ (": " ++
      ("compile_error " ++ ("! " ++ Tokens.opening .brace)))))) := rfl
  rw [hopening]
  simp [tokens, rootPath, Tokens.operator, Tokens.operator.go, Token.movedTo, Token.word, Token.enclosed,
    Tokens.render, Tokens.renderToken, Tokens.closing, String.append_assoc]

/-- **A trait comes back as it was, followed by one implementation if it breaks no rule**, which has the code of
each of its methods, or else by what it is reported for and nothing else. -/
theorem TraitDeclaration.expand_settled (path : Tokens) (t : TraitDeclaration) :
    (t.Forwardable ∧ ∃ methods : List Method, t.items = methods.map .method ∧
      t.expand.generated = .ok ⟨t.name, methods.map Method.forwarded⟩ ∧
      t.expand.tokens path = t.tokens ++ (implementationHead path t.name ++
        [.enclosed .brace (methods.flatMap fun m => m.forwarded.tokens path t.name)])) ∨
    (¬ t.Forwardable ∧ ∃ violations, violations ≠ [] ∧ t.Reported violations ∧
      t.expand.generated = .error violations ∧
      t.expand.tokens path = t.tokens ++ violations.flatMap Violation.tokens ∧
      ∀ v ∈ violations, Tokens.render v.tokens =
        ":: core :: compile_error ! \x7b " ++ Lexeme.literalOf v.rule.message.toList ++ " \x7d") := by
  by_cases h : t.Forwardable
  · obtain ⟨methods, hitems, -⟩ := h.exists_methods
    have hgenerated : t.expand.generated = .ok ⟨t.name, t.items.filterMap TraitItem.forwarded?⟩ := h.generate_eq
    refine .inl ⟨h, methods, hitems, ?_, ?_⟩
    · rw [hgenerated, filterMap_forwarded? hitems]
    · rw [Expansion.tokens, hgenerated]
      exact congrArg (t.tokens ++ ·) (implementation_tokens path hitems)
  · have hgenerated : t.expand.generated = .error _ := generate_of_not_forwardable h
    have hne : t.violations ≠ [] := by rwa [Ne, violations_eq_nil_iff]
    exact .inr ⟨h, _, hne, t.reported, hgenerated, by rw [Expansion.tokens, hgenerated]; rfl,
      fun v _ => v.render_tokens⟩

end LiveSwap.Forwarding
