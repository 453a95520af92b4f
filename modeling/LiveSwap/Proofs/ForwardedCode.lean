import LiveSwap.Forwarding.Ident
import LiveSwap.Proofs.Declarations
import LiveSwap.Proofs.ForwardingRules
import LiveSwap.Proofs.Numerals
import Mathlib.Data.List.Nodup
import Mathlib.Data.Set.List

/-!
# What generated code calls

`Forwards` reads the code of a generated method back: its signature is the method's own but for the patterns of
the arguments, and its body is one call of the same method on the instance. What the call hands on is read off
its tokens by `Tokens.listed`.

* **`argumentName_injective`** — arguments in different places get different names.
* **`Method.forwards`** — the code that is generated for a method forwards it.
* **`TraitDeclaration.generate_forwards`** — an implementation forwards each method once, in order.
-/

namespace LiveSwap.Forwarding

/-! ## Reading lists in code -/

namespace Tokens

/-- The entries between the commas of a list; the last one may have a comma behind it. -/
def listed : Tokens → List Tokens
  | [] => []
  | t :: rest =>
    if t.isPunct ',' then [] :: listed rest
    else match listed rest with
      | [] => [[t]]
      | entry :: entries => (t :: entry) :: entries

theorem listed_cons_comma {t : Token} (ht : t.isPunct ',' = false) (rest : Tokens) :
    listed (t :: (operator "," ++ rest)) = [t] :: listed rest := by
  have hcomma : listed (operator "," ++ rest) = [] :: listed rest := rfl
  rw [listed, if_neg (by simp [ht]), hcomma]

theorem listed_commas {ts : List Token} (h : ∀ t ∈ ts, t.isPunct ',' = false) :
    listed (commas (ts.map ([·]))) = ts.map ([·]) := by
  induction ts with
  | nil => rfl
  | cons t ts ih =>
    obtain ⟨ht, hts⟩ := List.forall_mem_cons.mp h
    cases ts with
    | nil => simp [commas, listed, ht]
    | cons u ts =>
      have hcommas : commas ((t :: u :: ts).map ([·])) = t :: (operator "," ++ commas ((u :: ts).map ([·]))) :=
        rfl
      rw [hcommas, listed_cons_comma ht, ih hts]
      rfl

end Tokens

theorem Token.IsWord.not_comma {t : Token} (h : t.IsWord) : t.isPunct ',' = false := by
  obtain ⟨text, p, rfl⟩ := h
  rfl

/-! ## Names for arguments -/

theorem toList_argumentName (place : Nat) :
    (argumentName place).toList = "__arg".toList ++ Nat.toDigits 10 place := by
  simp [argumentName, Nat.toString_eq_repr, Nat.repr]

theorem argumentName_injective : Function.Injective argumentName := by
  intro place other h
  have hchars := congrArg String.toList h
  rw [toList_argumentName, toList_argumentName, List.append_cancel_left_eq] at hchars
  rw [← @Nat.ofDigitChars_ten_toDigits place, hchars, Nat.ofDigitChars_ten_toDigits]

theorem argumentName_ne_targetName (place : Nat) : argumentName place ≠ targetName := by
  intro h
  have hchars := congrArg (fun name => name.toList.take 5) h
  simp [toList_argumentName, targetName] at hchars

theorem isIdentContinue_of_isDigit {c : Char} (h : c.isDigit = true) : Text.isIdentContinue c = true := by
  have hhigh : '9'.toNat = 57 := rfl
  have hascii := (Char.isDigit_iff_toNat.mp h).2
  rw [Text.isIdentContinue, if_pos (by omega), Char.isAlphanum, h]
  simp

theorem ident_argumentName (place : Nat) : Ident.ofText (argumentName place) = .ok (argumentName place) := by
  -- the name is an underscore, the word and a number, and none of these needs a mark
  have hchars : (argumentName place).toList = '_' :: ("_arg".toList ++ Nat.toDigits 10 place) :=
    toList_argumentName place
  have hraw : Ident.isRaw (argumentName place) = false := by
    rw [Ident.isRaw, hchars]
    rfl
  have hdigits : (Nat.toDigits 10 place).all Text.isIdentContinue = true :=
    List.all_eq_true.mpr fun _ hc =>
      isIdentContinue_of_isDigit (Nat.isDigit_of_mem_toDigits (by omega) (by omega) hc)
  have hform : Ident.isWellFormed (argumentName place).toList = true := by
    rw [hchars, Ident.isWellFormed, List.all_append, hdigits]
    rfl
  have hfault : Ident.fault? (argumentName place) = none := by
    have hnumber : (argumentName place).toList.all Char.isDigit = false := by
      rw [hchars]
      rfl
    simp only [Ident.fault?, hnumber, hform]
    simp [hchars]
  simp [Ident.ofText, Ident.unmarked, hraw, hfault]

/-! ## Calls -/

/-- Code that hands parameters on by name; without any there is no such code. -/
inductive Turbofish (parameters : List Token) : Tokens → Prop where
  | absent (h : parameters = []) : Turbofish parameters []
  | present {inner : Tokens} (h : parameters ≠ []) (hlisted : inner.listed = parameters.map ([·])) :
      Turbofish parameters (Tokens.operator "::" ++ angled inner)

/-- Code that calls a trait's method on the instance, which is handed on in front of everything else. -/
inductive Calls (trait method : Token) (parameters : List Token) (names : List String) : Tokens → Prop where
  | intro {turbofish arguments : Tokens} (hturbofish : Turbofish parameters turbofish)
      (harguments : arguments.listed = (targetName :: names).map fun name => [.word name]) :
      Calls trait method parameters names
        (angled [.word targetType, .word "as", trait] ++ Tokens.operator "::" ++ [method] ++ turbofish
          ++ [.enclosed .parenthesis arguments])

theorem turbofish_of_isWord {parameters : List Token} (h : ∀ t ∈ parameters, t.IsWord) : Turbofish parameters
    (if parameters.isEmpty then [] else Tokens.operator "::" ++ angled (commas (parameters.map ([·])))) := by
  split_ifs with hempty
  · exact .absent (List.isEmpty_iff.mp hempty)
  · exact .present (by simpa using hempty) (Tokens.listed_commas fun t ht => (h t ht).not_comma)

/-- **A forwarded call hands on all that it has**, if its parameters are words. -/
theorem ForwardedCall.calls {c : ForwardedCall} (trait : Token) (h : ∀ t ∈ c.parameters, t.IsWord) :
    Calls trait c.method c.parameters c.arguments (c.tokens trait) := by
  refine .intro (turbofish_of_isWord h) ?_
  have hwords : (c.arguments.map fun name => [.word name] : List Tokens) =
      (c.arguments.map Token.word).map ([·]) := by
    rw [List.map_map]
    rfl
  have hcommas : ∀ t ∈ c.arguments.map Token.word, t.isPunct ',' = false := by
    simp [Token.word, Token.isPunct]
  rw [hwords, List.cons_append, Tokens.listed_cons_comma rfl, Tokens.listed_commas hcommas, ← hwords]
  rfl

/-! ## Methods -/

/-- The arguments with names in place of their patterns. -/
def Argument.under (a : Argument) (name : String) : Argument := { a with pattern := [.word name] }

/-- A signature with other inputs and everything else unchanged. -/
def Signature.withInputs (s : Signature) (items : List Input) : Signature :=
  { s with inputs := { s.inputs with items } }

/-- Code that hands a method on to the instance. Nothing of the method is in it but its own conditions for
existing, its signature with names in place of patterns, and one call. -/
inductive Forwards (path : Tokens) (trait : Token) (m : Method) : Tokens → Prop where
  | intro {r : Receiver} {arguments : List Argument} {names : List String} {call : Tokens}
      (hinputs : m.signature.inputs.items = .receiver r :: arguments.map .argument)
      (hlength : names.length = arguments.length)
      (hnodup : names.Nodup) (htarget : targetName ∉ names) (hident : ∀ name ∈ names, Ident.ofText name = .ok name)
      (hcall : Calls trait m.signature.name
        ((m.signature.generics.params.items.filter fun p => p.kind ≠ .lifetime).map (·.name)) names call) :
      Forwards path trait m
        (attributeTokens (m.attributes.filter fun a => a.word = some "cfg") ++ wordAttribute "inline"
          ++ (m.signature.withInputs
            (.receiver r :: (arguments.zipWith Argument.under names).map .argument)).tokens
          ++ [.enclosed .brace (proxyPath path ++ Tokens.operator "::" ++ [.word "forward", .enclosed .parenthesis
            (.word "self" :: Tokens.operator "," ++ [.word "move"] ++ Tokens.operator "|" ++ [.word targetName]
              ++ Tokens.operator ":" ++ Tokens.operator "&" ++ [.word targetType] ++ Tokens.operator "|"
              ++ [.enclosed .brace call])])])

namespace Signature

variable {s : Signature} {r : Receiver} {arguments : List Argument}

/-- The names for so many arguments; the first place is the receiver's. -/
def namesFor (count : Nat) : List String := (List.range count).map fun i => argumentName (i + 1)

theorem nodup_namesFor (count : Nat) : (namesFor count).Nodup :=
  List.nodup_range.map (argumentName_injective.comp Nat.succ_injective)

theorem exists_of_mem_namesFor {count : Nat} {name : String} (h : name ∈ namesFor count) :
    ∃ place, argumentName place = name :=
  let ⟨i, _, hname⟩ := List.mem_map.mp h
  ⟨i + 1, hname⟩

theorem renamed_eq (h : s.inputs.items = .receiver r :: arguments.map .argument) :
    s.renamed = s.withInputs
      (.receiver r :: (arguments.zipWith Argument.under (namesFor arguments.length)).map .argument) := by
  have hrest : (arguments.map Input.argument).mapIdx (fun i => Input.renamed (i + 1)) =
      (arguments.zipWith Argument.under (namesFor arguments.length)).map .argument := by
    refine List.ext_getElem (by simp [namesFor]) fun i _ _ => ?_
    simp [namesFor, Input.renamed, Argument.under]
  rw [renamed, withInputs, h, List.mapIdx_cons, hrest]
  rfl

theorem argumentNames_eq (h : s.inputs.items = .receiver r :: arguments.map .argument) :
    s.argumentNames = namesFor arguments.length := by
  have hrest : (arguments.map Input.argument).mapIdx (fun i => Input.handedOn? (i + 1)) =
      (namesFor arguments.length).map some := by
    refine List.ext_getElem (by simp [namesFor]) fun i _ _ => ?_
    simp [namesFor, Input.handedOn?]
  rw [argumentNames, h, List.mapIdx_cons, hrest]
  simp [Input.handedOn?]

theorem inputs_of_receives (hs : s.Formed) (hreceiver : ¬ s.Breaks .missingReceiver) :
    ∃ (r : Receiver) (arguments : List Argument), s.inputs.items = .receiver r :: arguments.map .argument := by
  simp only [Breaks, not_forall, not_not] at hreceiver
  obtain ⟨r, hr⟩ := hreceiver
  obtain ⟨rest, hrest⟩ := List.head?_eq_some_iff.mp hr
  have harguments : rest ∈ Set.range (List.map Input.argument) := by
    rw [Set.range_list_map]
    intro i hi
    obtain ⟨a, rfl⟩ := hs.arguments i (by rwa [hrest])
    exact ⟨a, rfl⟩
  obtain ⟨arguments, rfl⟩ := harguments
  exact ⟨r, arguments, hrest⟩

end Signature

/-- **The code that is generated for a method forwards it.** -/
theorem Method.forwards {m : Method} (path : Tokens) (trait : Token) (hs : m.signature.Formed)
    (hreceiver : ¬ m.signature.Breaks .missingReceiver) :
    Forwards path trait m (m.forwarded.tokens path trait) := by
  obtain ⟨r, arguments, hinputs⟩ := Signature.inputs_of_receives hs hreceiver
  have hwords : ∀ t ∈ m.signature.explicitParameters, t.IsWord := by
    intro t ht
    obtain ⟨p, hp, rfl⟩ := List.mem_map.mp ht
    obtain ⟨hp, hkind⟩ := List.mem_filter.mp hp
    exact hs.parameters p hp (by simpa using hkind)
  -- the call passes the names that stand for the patterns
  have hcall := ForwardedCall.calls (c := m.forwarded.call) trait hwords
  have hnames : m.forwarded.call.arguments = Signature.namesFor arguments.length := Signature.argumentNames_eq hinputs
  rw [hnames] at hcall
  -- the closure's own parameter has no number behind it
  have htarget : targetName ∉ Signature.namesFor arguments.length := fun hmem =>
    let ⟨place, hplace⟩ := Signature.exists_of_mem_namesFor hmem
    argumentName_ne_targetName place hplace
  have hident : ∀ name ∈ Signature.namesFor arguments.length, Ident.ofText name = .ok name := by
    intro name hmem
    obtain ⟨place, rfl⟩ := Signature.exists_of_mem_namesFor hmem
    exact ident_argumentName place
  have hsignature : m.forwarded.signature = _ := Signature.renamed_eq hinputs
  rw [ForwardedMethod.tokens, hsignature]
  exact .intro hinputs (by simp [Signature.namesFor]) (Signature.nodup_namesFor arguments.length) htarget hident hcall

/-! ## Traits -/

namespace TraitDeclaration

variable {t : TraitDeclaration}

/-- **An implementation forwards each method of the trait once, in order.** -/
theorem generate_forwards (path : Tokens) {i : ForwardingImpl} (ht : t.Formed) (h : t.generate = .ok i) :
    ∃ (methods : List Method) (codes : List Tokens),
      t.items = methods.map .method ∧
      i.tokens path = implementationHead path t.name ++ [.enclosed .brace codes.flatten] ∧
      methods.Forall₂ (Forwards path t.name) codes := by
  obtain ⟨hforwardable, rfl⟩ := generate_eq_ok_iff.mp h
  obtain ⟨methods, hitems, hrules⟩ := hforwardable.exists_methods
  refine ⟨methods, methods.map fun m => m.forwarded.tokens path t.name, hitems, ?_, ?_⟩
  · rw [implementation_tokens path hitems, List.flatMap_def]
  · refine List.forall₂_map_right_iff.mpr (List.forall₂_same.mpr fun m hm => ?_)
    have hsignature : m.signature.Formed := ht.items (.method m) (hitems ▸ List.mem_map_of_mem hm)
    exact m.forwards path t.name hsignature (hrules m hm .missingReceiver (by simp [Rule.ofSignatures]))

/-- A trait with a method that is there under a condition, and one with parameters, patterns and a body. -/
def twoMethods : String :=
  "trait Pool \x7b #[cfg(stats)] fn size(&self) -> u64; " ++
  "fn decode<\x27a, T, const N: usize>(&\x27a self, (a, _): (u8, T), mut n: u8) -> u8 \x7b n \x7d \x7d"

theorem generate_forwards_twoMethods : ∃ t i, ofText? twoMethods = some t ∧ t.Formed ∧ t.generate = .ok i ∧
    ∃ (methods : List Method) (codes : List Tokens),
      t.items = methods.map .method ∧
      i.tokens (rootPath ["phoenix_swap"]) =
        implementationHead (rootPath ["phoenix_swap"]) t.name ++ [.enclosed .brace codes.flatten] ∧
      methods.Forall₂ (Forwards (rootPath ["phoenix_swap"]) t.name) codes := by
  have hclean : (ofText? twoMethods).any (·.violations.isEmpty) = true := by
    decide +kernel
  obtain ⟨t, hread, hviolations⟩ := Option.any_eq_true _ _ |>.mp hclean
  have hforwardable := violations_eq_nil_iff.mp (List.isEmpty_iff.mp hviolations)
  have hformed := formed_of_ofText? hread
  exact ⟨t, _, hread, hformed, hforwardable.generate_eq, generate_forwards _ hformed hforwardable.generate_eq⟩

example : (ofText? "trait Pool \x7b fn size(&self, _: u8); \x7d").map
      (fun t => Tokens.render (t.expand.tokens (rootPath ["phoenix_swap"]))) = some
    ("trait Pool \x7b fn size (& self , _ : u8) ; \x7d # [automatically_derived] impl < __PhoenixTarget > Pool for " ++
    ":: phoenix_swap :: ForwardingProxy < __PhoenixTarget > where __PhoenixTarget : ? :: core :: marker :: Sized + " ++
    "Pool + :: core :: marker :: Send + :: core :: marker :: Sync + \x27static , \x7b # [inline] " ++
    "fn size (& self , __arg1 : u8) \x7b :: phoenix_swap :: ForwardingProxy :: forward (self , " ++
    "move | __target : & __PhoenixTarget | \x7b < __PhoenixTarget as Pool > :: size (__target , __arg1) \x7d) " ++
    "\x7d \x7d") := by
  decide +kernel

end TraitDeclaration

end LiveSwap.Forwarding
