import LiveSwap.Forwarding.Grammar.Declaration

/-!
# What is read is well formed

The grammars promise more of a declaration than its types tell. `Reader.Yields` says what holds of all that a
reader can read; it passes through the combinations of readers, one rule for each.

* **`Reader.Yields.bind`** and the rules after it — how combinations keep a promise.
* **`Grammar.signature_yields`** — names are names, and only the first input can be a receiver.
* **`TraitDeclaration.formed_of_ofText?`** — so it is with all methods of a declaration that is read off a text.
-/

namespace LiveSwap.Forwarding

/-! ## Names -/

namespace Token

def IsWord (t : Token) : Prop := ∃ text p, t = .ident text p

/-- A word that is no keyword. -/
def IsName (t : Token) : Prop := ∃ text p, t = .ident text p ∧ text ∉ Reader.keywords

theorem IsName.isWord {t : Token} (h : t.IsName) : t.IsWord :=
  let ⟨text, p, ht, _⟩ := h
  ⟨text, p, ht⟩

end Token

/-! ## Promises of readers -/

namespace Reader

/-- All that is read is of this kind. -/
def Yields {α : Type} (r : Reader α) (P : α → Prop) : Prop :=
  ∀ ts a rest, r.run ts = some (a, rest) → P a

namespace Yields

variable {α β : Type} {r : Reader α} {f : α → Reader β} {P : α → Prop} {Q : β → Prop}

theorem trivial : r.Yields fun _ => True := fun _ _ _ _ => True.intro

theorem mono {P' : α → Prop} (h : r.Yields P) (hP : ∀ a, P a → P' a) : r.Yields P' :=
  fun ts a rest hrun => hP a (h ts a rest hrun)

theorem pure {a : α} (h : P a) : Yields (Pure.pure a) P := by
  intro ts b rest hrun
  cases hrun
  exact h

theorem failure : Yields (Alternative.failure : Reader α) P := by
  intro ts a rest hrun
  cases hrun

theorem bind (hr : r.Yields P) (hf : ∀ a, P a → (f a).Yields Q) : (r >>= f).Yields Q := by
  intro ts b rest hrun
  rw [StateT.run_bind, Option.bind_eq_bind, Option.bind_eq_some_iff] at hrun
  obtain ⟨⟨a, between⟩, hfirst, hsecond⟩ := hrun
  exact hf a (hr ts a between hfirst) between b rest hsecond

theorem after (hf : ∀ a, (f a).Yields Q) : (r >>= f).Yields Q :=
  trivial.bind fun a _ => hf a

theorem orElse {r' : Reader α} (h : r.Yields P) (h' : r'.Yields P) : (r <|> r').Yields P := by
  intro ts a rest hrun
  have hor : (r <|> r').run ts = (r.run ts).or (r'.run ts) := by
    change ((r.run ts).orElse fun _ => r'.run ts) = _
    cases r.run ts <;> rfl
  rw [hor, Option.or_eq_some_iff] at hrun
  rcases hrun with hrun | ⟨-, hrun⟩
  · exact h ts a rest hrun
  · exact h' ts a rest hrun

theorem require {condition : Bool} : (require condition).Yields fun _ => condition = true := by
  cases condition
  · exact .failure
  · exact .pure rfl

theorem ite {condition : Prop} [Decidable condition] {r' : Reader α} (h : r.Yields P) (h' : r'.Yields P) :
    (if condition then r else r').Yields P := by
  split
  · exact h
  · exact h'

theorem whole (h : r.Yields P) (ts : Tokens) : (whole r ts).Yields P := by
  unfold Reader.whole
  split
  · rename_i a hrun
    exact .pure (h _ _ _ hrun)
  · exact .failure

theorem group (d : Delimiter) (h : r.Yields P) : (group d r).Yields fun a => P a.1 := by
  refine .after fun t => ?_
  split
  · exact .after fun _ => (h.whole _).bind fun a ha => .pure ha
  · exact .failure

theorem repeatWhile {test : Tokens → Bool} (h : r.Yields P) (n : Nat) :
    (repeatWhile test r n).Yields fun as => ∀ a ∈ as, P a := by
  induction n with
  | zero => exact .pure nofun
  | succ n ih =>
    refine .after fun announced => .ite ?_ (.pure nofun)
    refine h.bind fun a ha => ih.bind fun as has => .pure ?_
    exact List.forall_mem_cons.mpr ⟨ha, has⟩

theorem manyWhile {test : Tokens → Bool} (h : r.Yields P) : (manyWhile test r).Yields fun as => ∀ a ∈ as, P a :=
  .after fun ts => h.repeatWhile ts.length

theorem entriesUpTo {stop : Tokens → Bool} {separator : String} (h : r.Yields P) :
    (entriesUpTo stop separator r).Yields fun e => ∀ a ∈ e.items, P a := by
  refine .after fun ts => ?_
  generalize ts.length = n
  induction n with
  | zero => exact .pure nofun
  | succ n ih =>
    refine .after fun ended => .ite (.pure nofun) ?_
    refine h.bind fun a ha => .after fun ended => .ite (.pure (by simpa using ha)) ?_
    refine .after fun separator => ih.bind fun e he => .ite (.pure (by simpa using ha)) (.pure ?_)
    exact List.forall_mem_cons.mpr ⟨ha, he⟩

end Yields

/-! ### Single tokens -/

variable {ts rest : Tokens}

/-- What is read behind a test reads the tokens that were tested. -/
theorem run_of_required {α : Type} {test : Tokens → Bool} {r : Reader α} {a : α}
    (h : (do require (← next test); r).run ts = some (a, rest)) :
    test ts = true ∧ r.run ts = some (a, rest) := by
  change (require (test ts) >>= fun _ => r).run ts = some (a, rest) at h
  cases htest : test ts with
  | false =>
    rw [htest] at h
    cases h
  | true =>
    rw [htest] at h
    exact ⟨rfl, h⟩

theorem run_any {t : Token} (h : any.run ts = some (t, rest)) : ts = t :: rest := by
  cases ts <;> cases h
  rfl

theorem name_yields : name.Yields Token.IsName := by
  intro ts t rest hrun
  obtain ⟨htest, hany⟩ := run_of_required hrun
  rw [run_any hany] at htest
  cases t with
  | ident text p => exact ⟨text, p, rfl, by simpa [startsWithName] using htest⟩
  | _ => cases htest

theorem anyWord_yields : anyWord.Yields Token.IsWord := by
  intro ts t rest hrun
  obtain ⟨htest, hany⟩ := run_of_required hrun
  rw [run_any hany] at htest
  cases t with
  | ident text p => exact ⟨text, p, rfl⟩
  | _ => cases htest

theorem word_yields (text : String) : (word text).Yields fun ts => ∃ p, ts = [.ident text p] := by
  intro ts found rest hrun
  obtain ⟨htest, hreturn⟩ := run_of_required hrun
  cases ts with
  | nil => cases htest
  | cons t ts =>
    cases hreturn
    cases t with
    | ident text' p => exact ⟨p, by simpa [startsWithWord] using htest⟩
    | _ => cases htest

theorem maybeWord_yields (text : String) :
    (maybeWord text).Yields fun ts => ts = [] ∨ ∃ p, ts = [.ident text p] :=
  .after fun _ => .ite ((word_yields text).mono fun _ h => .inr h) (.pure (.inl rfl))

end Reader

/-! ## Signatures -/

def Input.IsArgument (i : Input) : Prop := ∃ a, i = .argument a

/-- What types alone do not tell about a signature that is read. -/
structure Signature.Formed (s : Signature) : Prop where
  constness : s.constness = [] ∨ ∃ p, s.constness = [.ident "const" p]
  name : s.name.IsName
  parameters : ∀ param ∈ s.generics.params.items, param.kind ≠ .lifetime → param.name.IsWord
  arguments : ∀ i ∈ s.inputs.items.tail, i.IsArgument

/-- The signature of a method is well formed. -/
def TraitItem.Formed : TraitItem → Prop
  | .method m => m.signature.Formed
  | _ => True

structure TraitDeclaration.Formed (t : TraitDeclaration) : Prop where
  name : t.name.IsName
  items : ∀ item ∈ t.items, item.Formed

namespace Grammar

open Reader

variable {sub : Sub}

theorem typeParam_yields (attributes : Tokens) :
    (typeParam sub attributes).Yields fun param => param.kind ≠ .lifetime → param.name.IsWord :=
  name_yields.bind fun _ hself => .after fun _ => .after fun _ => .pure fun _ => hself.isWord

theorem constantParam_yields (attributes : Tokens) :
    (constantParam sub attributes).Yields fun param => param.kind ≠ .lifetime → param.name.IsWord :=
  .after fun _ => name_yields.bind fun _ hself => .after fun _ => .after fun _ => .after fun _ =>
    .pure fun _ => hself.isWord

theorem lifetimeParam_yields (attributes : Tokens) :
    (lifetimeParam attributes).Yields fun param => param.kind = .lifetime :=
  .after fun _ => .after fun _ => .pure rfl

theorem genericParam_yields (unnamed : Bool) :
    (genericParam sub unnamed).Yields fun param => param.kind ≠ .lifetime → param.name.IsWord := by
  refine .after fun attributes => .after fun _ => .ite ?_ (.after fun _ => .ite ?_ (.after fun _ => .ite ?_ ?_))
  · exact (lifetimeParam_yields attributes).mono fun _ hkind hne => absurd hkind hne
  · exact constantParam_yields attributes
  · exact anyWord_yields.bind fun _ hself => .pure fun _ => hself
  · exact typeParam_yields attributes

theorem generics_yields : (generics sub).Yields fun g =>
    ∀ param ∈ g.params.items, param.kind ≠ .lifetime → param.name.IsWord := by
  refine .after fun _ => .ite (.after fun _ => ?_) (.pure nofun)
  exact (genericParam_yields true).entriesUpTo.bind fun _ hparams => .after fun _ => .pure hparams

theorem isArgument_of_mem_drop {first : Bool} {i : Input} {rest : List Input}
    (hi : first = false → i.IsArgument) (hrest : ∀ j ∈ rest, j.IsArgument) :
    ∀ j ∈ (i :: rest).drop first.toNat, j.IsArgument := by
  cases first with
  | false => exact List.forall_mem_cons.mpr ⟨hi rfl, hrest⟩
  | true => exact hrest

/-- Only the first input can be a receiver. -/
theorem inputs_go_yields (first : Bool) (n : Nat) : (inputs.go sub first n).Yields fun found =>
    ∀ i ∈ found.1.items.drop first.toNat, i.IsArgument := by
  have hempty : ∀ (first : Bool), ∀ i ∈ (Entries.empty : Entries Input).items.drop first.toNat,
      i.IsArgument := by
    simp [Entries.empty]
  -- after the first input no other one is a receiver, so the induction carries whether it was read
  induction n generalizing first with
  | zero => exact .pure (hempty first)
  | succ n ih =>
    refine .after fun _ => .ite (.pure (hempty first)) (.after fun form => ?_)
    cases form with
    | variadic tokens => exact .pure (hempty first)
    | input i =>
      cases i with
      | receiver r =>
        refine Yields.require.bind fun _ hfirst => .after fun _ => ?_
        have hi : first = false → (Input.receiver r).IsArgument := by simp [hfirst]
        refine .ite (.pure (isArgument_of_mem_drop hi nofun)) (.after fun _ => ?_)
        exact (ih false).bind fun _ hrest =>
          .ite (.pure (isArgument_of_mem_drop hi nofun)) (.pure (isArgument_of_mem_drop hi hrest))
      | argument a =>
        have hi : first = false → (Input.argument a).IsArgument := fun _ => ⟨a, rfl⟩
        refine .after fun _ => .ite (.pure (isArgument_of_mem_drop hi nofun)) (.after fun _ => ?_)
        exact (ih false).bind fun _ hrest =>
          .ite (.pure (isArgument_of_mem_drop hi nofun)) (.pure (isArgument_of_mem_drop hi hrest))

theorem inputs_yields : (inputs sub).Yields fun found => ∀ i ∈ found.1.items.tail, i.IsArgument :=
  .after fun ts => (inputs_go_yields true ts.length).mono fun _ h => by
    rwa [Bool.toNat_true, List.drop_one] at h

theorem signature_yields : (signature sub).Yields Signature.Formed := by
  refine (maybeWord_yields "const").bind fun constness hconst => .after fun _ => .after fun _ => ?_
  refine .after fun _ => .after fun _ => name_yields.bind fun self hself => generics_yields.bind fun g hg => ?_
  refine (inputs_yields.group _).bind fun found hinputs => .after fun _ => ?_
  have hformed : ∀ asyncness unsafety abi output conditions, Signature.Formed
      ⟨constness, asyncness, unsafety, abi, self, g, found.1.1, found.1.2, output, conditions⟩ :=
    fun _ _ _ _ _ => ⟨hconst, hself, hg, hinputs⟩
  refine .ite (.after fun _ => .after fun _ => .after fun _ => .after fun _ => .pure ?_)
    (.after fun _ => .after fun _ => .pure ?_)
  · exact hformed ..
  · exact hformed ..

/-! ## Traits -/

theorem method_yields (attributes : List Attribute) :
    (method sub attributes).Yields fun found => found.1.signature.Formed := by
  refine signature_yields.bind fun s hs => .after fun _ => .ite (.after fun _ => .pure hs) ?_
  exact .after fun _ => .pure hs

theorem plainTraitItem_yields (attributes : List Attribute) : (plainTraitItem sub attributes).Yields fun found =>
    ∀ item ∈ found, item.1.Formed := by
  refine .after fun _ => .ite ?_ (.after fun _ => .ite (.after fun c => .pure ?_) (.after fun t => .pure ?_))
  · exact (method_yields attributes).bind fun found hfound => .pure fun item hitem => by
      cases hitem
      exact hfound
  · cases c.isSpecial
    · rintro _ ⟨⟩
      trivial
    · nofun
  · rintro _ ⟨⟩
    trivial

theorem traitItem_yields : (traitItem sub).Yields fun found => found.1.Formed := by
  refine .after fun before => .after fun attributes => .after fun visible => .after fun mark => ?_
  refine .after fun _ => .after fun _ => .ite (.after fun _ => .pure True.intro) ?_
  refine (plainTraitItem_yields attributes).bind fun item hitem => ?_
  split
  · exact .pure (hitem _ rfl)
  · exact .after fun _ => .pure True.intro

theorem traitHead_yields : (traitHead sub).Yields fun head => head.name.IsName :=
  .after fun _ => .after fun _ => .after fun _ => name_yields.bind fun _ hself => .after fun _ => .pure hself

theorem traitBody_yields : (traitBody sub).Yields fun body => ∀ item ∈ body.items, item.Formed := by
  refine .after fun _ => .after fun _ => ?_
  have hcontent : Yields (do
      let inner ← innerAttributes sub
      return (attributeTokens inner, ← manyWhile (fun ts => !ts.isEmpty) (traitItem sub)))
      fun found => ∀ item ∈ found.2, item.1.Formed :=
    .after fun _ => traitItem_yields.manyWhile.bind fun _ hitems => .pure hitems
  exact (hcontent.group .brace).bind fun _ hitems => .pure (List.forall_mem_map.mpr hitems)

theorem traitDeclaration_yields : (traitDeclaration sub).Yields TraitDeclaration.Formed :=
  .after fun _ => .after fun _ => traitHead_yields.bind fun _ hname => traitBody_yields.bind fun _ hitems =>
    .pure ⟨hname, hitems⟩

end Grammar

/-- **What is read off a text is well formed.** -/
theorem TraitDeclaration.formed_of_ofText? {text : String} {t : TraitDeclaration} (h : ofText? text = some t) :
    t.Formed := by
  simp only [ofText?, Option.bind_eq_bind, Option.bind_eq_some_iff] at h
  obtain ⟨tokens, -, ⟨declaration, rest⟩, hrun, hrest⟩ := h
  split at hrest
  · cases hrest
    exact Grammar.traitDeclaration_yields _ _ _ hrun
  · cases hrest

end LiveSwap.Forwarding
