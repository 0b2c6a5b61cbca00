import FisheryRules.Proofs.Results

/-!
# The grammar of conditions

The grammar that the readers of conditions follow, said without a reader: a row of tokens is derived
as a phrase, and a phrase carries the tree, or the row of trees, that it stands for. `levels` is the
number of parentheses, negations and list look-ups that may still enclose an operand.

`ofTokens_eq_ok_iff` ties the two together. One half says that a reader only ever takes a derivable
row off the front of its tokens; the other half that it takes all of a derivable row when what
follows cannot continue it.
-/
namespace FisheryRules

/-- A syntactic category with what is read in it. -/
inductive Phrase
  | operand (tree : Condition)
  | comparison (tree : Condition)
  | unary (tree : Condition)
  | conjuncts (trees : List Condition)
  | disjuncts (trees : List Condition)

/-- A name that is a constant when it stands alone. -/
def IsConstant (name : String) : Prop := name = "null" ∨ name = "true" ∨ name = "false"

open Condition in
/-- A row of tokens is a phrase about facts of the given type. -/
inductive Derives (factType : FactType) : (levels : Nat) → Phrase → List Token → Prop
  | null {levels} : Derives factType levels (.operand (literal .null)) [.word "null"]
  | true {levels} : Derives factType levels (.operand (literal (.bool true))) [.word "true"]
  | false {levels} : Derives factType levels (.operand (literal (.bool false))) [.word "false"]
  | text {levels} (value : String) :
      Derives factType levels (.operand (literal (.text value))) [.text value]
  | number {levels} (value : Binary64) :
      Derives factType levels (.operand (literal (.number value))) [.number value]
  | field {levels name ref} : ¬ IsConstant name → factType.field? name = some ref →
      Derives factType levels (.operand (field ref)) [.word name]
  | now {levels} : Derives factType levels (.operand now) [.word "now", .openParen, .closeParen]
  | inList {levels list trees tokens} : Derives factType levels (.disjuncts trees) tokens →
      Derives factType (levels + 1) (.operand (inList list (ofChain or trees)))
        (Token.word "isPresentInList" :: .openParen :: .text list :: .comma :: tokens ++
          [Token.closeParen])
  | parenthesized {levels trees tokens} : Derives factType levels (.disjuncts trees) tokens →
      Derives factType (levels + 1) (.operand (ofChain or trees))
        (Token.openParen :: tokens ++ [Token.closeParen])
  | single {levels tree tokens} : Derives factType levels (.operand tree) tokens →
      Derives factType levels (.comparison tree) tokens
  | compare {levels op left right leftTokens rightTokens} :
      Derives factType levels (.operand left) leftTokens →
      Derives factType levels (.operand right) rightTokens →
      Derives factType levels (.comparison (compare op left right))
        (leftTokens ++ Token.compare op :: rightTokens)
  | comparison {levels tree tokens} : Derives factType levels (.comparison tree) tokens →
      Derives factType levels (.unary tree) tokens
  | not {levels tree tokens} : Derives factType levels (.unary tree) tokens →
      Derives factType (levels + 1) (.unary (not tree)) (.not :: tokens)
  | conjunct {levels tree tokens} : Derives factType levels (.unary tree) tokens →
      Derives factType levels (.conjuncts [tree]) tokens
  | and {levels tree trees tokens others} : Derives factType levels (.unary tree) tokens →
      Derives factType levels (.conjuncts trees) others →
      Derives factType levels (.conjuncts (tree :: trees)) (tokens ++ Token.and :: others)
  | disjunct {levels trees tokens} : Derives factType levels (.conjuncts trees) tokens →
      Derives factType levels (.disjuncts [ofChain and trees]) tokens
  | or {levels trees disjuncts tokens others} : Derives factType levels (.conjuncts trees) tokens →
      Derives factType levels (.disjuncts disjuncts) others →
      Derives factType levels (.disjuncts (ofChain and trees :: disjuncts))
        (tokens ++ Token.or :: others)

namespace Condition

variable {factType : FactType} {levels : Nat} {α : Type}

/-- The reader of what stands under a negation with this number of levels left. -/
def negatedAt (factType : FactType) : (levels : Nat) → TokenReader Condition
  | 0 => tooDeep
  | levels + 1 => unary factType levels

/-- The reader of what stands in parentheses with this number of levels left. -/
def nestedAt (factType : FactType) : (levels : Nat) → TokenReader Condition
  | 0 => tooDeep
  | levels + 1 => disjunction (unary factType levels)

theorem unary_eq (levels : Nat) :
    unary factType levels =
      unaryWith factType (negatedAt factType levels) (nestedAt factType levels) := by
  cases levels <;> rfl

/-! ## What a reader has read -/

/-- Whatever is read stands at the front of the tokens, in a row of which `P` holds. -/
def ReadsOnly (reader : TokenReader α) (P : α → List Token → Prop) : Prop :=
  ∀ ⦃tokens a rest⦄, reader tokens = .ok (a, rest) → ∃ used, tokens = used ++ rest ∧ P a used

theorem expect_eq_ok {wanted : Token} {tokens rest : List Token} {u : Unit} :
    expect wanted tokens = .ok (u, rest) ↔ tokens = wanted :: rest := by
  cases tokens with
  | nil => simp [expect]
  | cons found others => by_cases h : found = wanted <;> simp [expect, h]

/-- Items of which `P` holds, with separators between them. -/
inductive Chained (separator : Token) (P : α → List Token → Prop) : List α → List Token → Prop
  | one {item tokens} : P item tokens → Chained separator P [item] tokens
  | more {item items tokens others} : P item tokens → Chained separator P items others →
      Chained separator P (item :: items) (tokens ++ separator :: others)

theorem more_readsOnly {separator : Token} {item : TokenReader α} {P : α → List Token → Prop}
    (h : ReadsOnly item P) (bound : Nat) :
    ReadsOnly (more separator item bound) fun items used =>
      (items = [] ∧ used = []) ∨ ∃ others, used = separator :: others ∧
        Chained separator P items others := by
  induction bound with
  | zero =>
    intro tokens items rest read
    simp only [more, Except.ok.injEq, Prod.mk.injEq] at read
    exact ⟨[], by simp [read.2], .inl ⟨read.1.symm, rfl⟩⟩
  | succ bound ih =>
    intro tokens items rest read
    cases tokens with
    | nil =>
      simp only [more, Except.ok.injEq, Prod.mk.injEq] at read
      exact ⟨[], by simp [read.2], .inl ⟨read.1.symm, rfl⟩⟩
    | cons token tail =>
      by_cases hs : token = separator
      · simp only [more, hs, if_true, bind_eq_ok] at read
        obtain ⟨⟨first, afterFirst⟩, hfirst, ⟨others, afterOthers⟩, hothers, done⟩ := read
        cases done
        obtain ⟨used, rfl, hP⟩ := h hfirst
        obtain ⟨usedOthers, rfl, hchain⟩ := ih hothers
        refine ⟨separator :: (used ++ usedOthers), by simp [hs], .inr ⟨_, rfl, ?_⟩⟩
        obtain ⟨rfl, rfl⟩ | ⟨_, rfl, hchain⟩ := hchain
        · simpa using Chained.one hP
        · exact .more hP hchain
      · simp only [more, hs, if_false, Except.ok.injEq, Prod.mk.injEq] at read
        exact ⟨[], by simp [read.2], .inl ⟨read.1.symm, rfl⟩⟩

theorem chain_readsOnly {separator : Token} {item : TokenReader α} {P : α → List Token → Prop}
    (h : ReadsOnly item P) : ReadsOnly (chain separator item) (Chained separator P) := by
  intro tokens items rest read
  simp only [chain, bind_eq_ok] at read
  obtain ⟨⟨first, afterFirst⟩, hfirst, ⟨others, afterOthers⟩, hothers, done⟩ := read
  cases done
  obtain ⟨used, rfl, hP⟩ := h hfirst
  obtain ⟨usedOthers, rfl, hchain⟩ := more_readsOnly h _ hothers
  refine ⟨used ++ usedOthers, by simp, ?_⟩
  obtain ⟨rfl, rfl⟩ | ⟨_, rfl, hchain⟩ := hchain
  · simpa using Chained.one hP
  · exact .more hP hchain

/-! ## Only derivable rows are read -/

theorem Chained.conjuncts {trees : List Condition} {tokens : List Token}
    (h : Chained .and (fun tree => Derives factType levels (.unary tree)) trees tokens) :
    Derives factType levels (.conjuncts trees) tokens := by
  induction h with
  | one h => exact .conjunct h
  | more h _ ih => exact .and h ih

theorem Chained.disjuncts {trees : List Condition} {tokens : List Token}
    (h : Chained .or (fun tree tokens => ∃ conjuncts, tree = ofChain and conjuncts ∧
      Derives factType levels (.conjuncts conjuncts) tokens) trees tokens) :
    Derives factType levels (.disjuncts trees) tokens := by
  induction h with
  | one h =>
    obtain ⟨_, rfl, h⟩ := h
    exact .disjunct h
  | more h _ ih =>
    obtain ⟨_, rfl, h⟩ := h
    exact .or h ih

/-- Reads the disjunctions of a level only. -/
def ReadsNested (factType : FactType) (levels : Nat) (nested : TokenReader Condition) : Prop :=
  ReadsOnly nested fun tree tokens => ∃ trees left, levels = left + 1 ∧ tree = ofChain or trees ∧
    Derives factType left (.disjuncts trees) tokens

/-- Reads the unary phrases of a level only. -/
def ReadsNegated (factType : FactType) (levels : Nat) (negated : TokenReader Condition) : Prop :=
  ReadsOnly negated fun tree tokens => ∃ left, levels = left + 1 ∧
    Derives factType left (.unary tree) tokens

theorem conjunction_readsOnly {unary : TokenReader Condition}
    (h : ReadsOnly unary fun tree => Derives factType levels (.unary tree)) :
    ReadsOnly (conjunction unary) fun tree tokens => ∃ trees, tree = ofChain and trees ∧
      Derives factType levels (.conjuncts trees) tokens := by
  intro tokens tree rest read
  simp only [conjunction, bind_eq_ok] at read
  obtain ⟨⟨trees, after⟩, hchain, done⟩ := read
  cases done
  obtain ⟨used, rfl, hused⟩ := chain_readsOnly h hchain
  exact ⟨used, rfl, trees, rfl, hused.conjuncts⟩

theorem disjunction_readsOnly {unary : TokenReader Condition}
    (h : ReadsOnly unary fun tree => Derives factType levels (.unary tree)) :
    ReadsOnly (disjunction unary) fun tree tokens => ∃ trees, tree = ofChain or trees ∧
      Derives factType levels (.disjuncts trees) tokens := by
  intro tokens tree rest read
  simp only [disjunction, bind_eq_ok] at read
  obtain ⟨⟨trees, after⟩, hchain, done⟩ := read
  cases done
  obtain ⟨used, rfl, hused⟩ := chain_readsOnly (conjunction_readsOnly h) hchain
  exact ⟨used, rfl, trees, rfl, hused.disjuncts⟩

theorem call_readsOnly {nested : TokenReader Condition} (h : ReadsNested factType levels nested)
    (name : String) : ReadsOnly (call nested name) fun tree tokens =>
      Derives factType levels (.operand tree) (.word name :: .openParen :: tokens) := by
  intro tokens tree rest read
  by_cases hnow : name = "now"
  · simp only [call, hnow, if_true, bind_eq_ok] at read
    obtain ⟨⟨_, after⟩, hclose, done⟩ := read
    cases done
    obtain rfl := expect_eq_ok.1 hclose
    exact ⟨[.closeParen], rfl, hnow ▸ .now⟩
  by_cases hlist : name = "isPresentInList"
  · cases tokens with
    | nil => simp [call, hlist] at read
    | cons token others =>
      cases token with
      | text list =>
        simp only [call, if_neg hnow, if_pos hlist, bind_eq_ok] at read
        obtain ⟨⟨_, _⟩, hcomma, ⟨value, _⟩, hvalue, ⟨_, _⟩, hclose, done⟩ := read
        cases done
        obtain rfl := expect_eq_ok.1 hcomma
        obtain ⟨used, rfl, trees, left, rfl, rfl, hused⟩ := h hvalue
        obtain rfl := expect_eq_ok.1 hclose
        exact ⟨Token.text list :: .comma :: used ++ [Token.closeParen], by simp,
          hlist ▸ .inList hused⟩
      | _ => simp [call, hlist] at read
  · simp [call, hnow, hlist] at read

theorem named_readsOnly {nested : TokenReader Condition} (h : ReadsNested factType levels nested)
    (name : String) : ReadsOnly (named factType nested name) fun tree tokens =>
      Derives factType levels (.operand tree) (.word name :: tokens) := by
  intro tokens tree rest read
  by_cases hnull : name = "null"
  · simp only [named, if_pos hnull, Except.ok.injEq, Prod.mk.injEq] at read
    exact ⟨[], by simp [read.2], hnull ▸ read.1 ▸ .null⟩
  by_cases htrue : name = "true"
  · simp only [named, if_neg hnull, if_pos htrue, Except.ok.injEq, Prod.mk.injEq] at read
    exact ⟨[], by simp [read.2], htrue ▸ read.1 ▸ .true⟩
  by_cases hfalse : name = "false"
  · simp only [named, if_neg hnull, if_neg htrue, if_pos hfalse, Except.ok.injEq,
      Prod.mk.injEq] at read
    exact ⟨[], by simp [read.2], hfalse ▸ read.1 ▸ .false⟩
  simp only [named, if_neg hnull, if_neg htrue, if_neg hfalse] at read
  split at read
  · obtain ⟨used, rfl, hused⟩ := call_readsOnly h name read
    exact ⟨_, rfl, hused⟩
  · split at read
    · rename_i ref href
      cases read
      exact ⟨[], rfl, .field (by simp [IsConstant, hnull, htrue, hfalse]) href⟩
    · cases read

theorem operand_readsOnly {nested : TokenReader Condition}
    (h : ReadsNested factType levels nested) :
    ReadsOnly (operand factType nested) fun tree => Derives factType levels (.operand tree) := by
  intro tokens tree rest read
  cases tokens with
  | nil => cases read
  | cons token others =>
    cases token with
    | openParen =>
      simp only [operand, bind_eq_ok] at read
      obtain ⟨⟨inner, _⟩, hinner, ⟨_, _⟩, hclose, done⟩ := read
      cases done
      obtain ⟨used, rfl, trees, left, rfl, rfl, hused⟩ := h hinner
      obtain rfl := expect_eq_ok.1 hclose
      exact ⟨Token.openParen :: used ++ [Token.closeParen], by simp, .parenthesized hused⟩
    | text value =>
      cases read
      exact ⟨_, rfl, .text value⟩
    | number value =>
      cases read
      exact ⟨_, rfl, .number value⟩
    | word name =>
      obtain ⟨used, rfl, hused⟩ := named_readsOnly h name read
      exact ⟨_, rfl, hused⟩
    | _ => cases read

theorem comparison_readsOnly {operand : TokenReader Condition}
    (h : ReadsOnly operand fun tree => Derives factType levels (.operand tree)) :
    ReadsOnly (comparison operand) fun tree => Derives factType levels (.comparison tree) := by
  intro tokens tree rest read
  simp only [comparison, bind_eq_ok] at read
  obtain ⟨⟨left, after⟩, hleft, read⟩ := read
  obtain ⟨used, rfl, hused⟩ := h hleft
  split at read
  · rename_i op afterOp hafter
    simp only [bind_eq_ok] at read
    obtain ⟨⟨right, _⟩, hright, done⟩ := read
    cases done
    obtain ⟨usedRight, rfl, husedRight⟩ := h hright
    simp only at hafter
    subst hafter
    exact ⟨_, by simp, .compare hused husedRight⟩
  · cases read
    exact ⟨used, rfl, .single hused⟩

theorem unaryWith_readsOnly {negated nested : TokenReader Condition}
    (hnegated : ReadsNegated factType levels negated)
    (hnested : ReadsNested factType levels nested) :
    ReadsOnly (unaryWith factType negated nested) fun tree =>
      Derives factType levels (.unary tree) := by
  intro tokens tree rest read
  unfold unaryWith at read
  split at read
  · simp only [bind_eq_ok] at read
    obtain ⟨⟨inner, _⟩, hinner, done⟩ := read
    cases done
    obtain ⟨used, rfl, left, rfl, hused⟩ := hnegated hinner
    exact ⟨_, rfl, .not hused⟩
  · obtain ⟨used, rfl, hused⟩ := comparison_readsOnly (operand_readsOnly hnested) read
    exact ⟨used, rfl, .comparison hused⟩

theorem unary_readsOnly (levels : Nat) :
    ReadsOnly (unary factType levels) fun tree => Derives factType levels (.unary tree) := by
  induction levels with
  | zero => exact unaryWith_readsOnly (fun _ _ _ h => nomatch h) (fun _ _ _ h => nomatch h)
  | succ levels ih =>
    refine unaryWith_readsOnly (fun tokens tree rest read => ?_) fun tokens tree rest read => ?_
    · obtain ⟨used, rfl, hused⟩ := ih read
      exact ⟨used, rfl, levels, rfl, hused⟩
    · obtain ⟨used, rfl, trees, rfl, hused⟩ := disjunction_readsOnly ih read
      exact ⟨used, rfl, trees, levels, rfl, rfl, hused⟩

/-! ## All of a derivable row is read -/

/-- What follows cannot continue an operand: it is no list of arguments. -/
def EndsOperand (rest : List Token) : Prop := rest.head? ≠ some .openParen

/-- What follows cannot continue a comparison. -/
def EndsUnary (rest : List Token) : Prop :=
  EndsOperand rest ∧ ∀ op, rest.head? ≠ some (.compare op)

/-- What follows cannot continue a row of conjuncts. -/
def EndsConjuncts (rest : List Token) : Prop := EndsUnary rest ∧ rest.head? ≠ some .and

/-- What follows cannot continue a row of disjuncts. -/
def EndsDisjuncts (rest : List Token) : Prop := EndsConjuncts rest ∧ rest.head? ≠ some .or

theorem endsDisjuncts_nil : EndsDisjuncts [] := by
  simp [EndsDisjuncts, EndsConjuncts, EndsUnary, EndsOperand]

theorem endsDisjuncts_closeParen (rest : List Token) : EndsDisjuncts (.closeParen :: rest) := by
  simp [EndsDisjuncts, EndsConjuncts, EndsUnary, EndsOperand]

theorem endsConjuncts_or (rest : List Token) : EndsConjuncts (.or :: rest) := by
  simp [EndsConjuncts, EndsUnary, EndsOperand]

theorem endsUnary_and (rest : List Token) : EndsUnary (.and :: rest) := by
  simp [EndsUnary, EndsOperand]

theorem endsOperand_compare (op : CompareOp) (rest : List Token) :
    EndsOperand (.compare op :: rest) := by
  simp [EndsOperand]

@[simp] theorem expect_cons (wanted : Token) (rest : List Token) :
    expect wanted (wanted :: rest) = .ok ((), rest) := by
  simp [expect]

/-- The bound on the number of separators does not show once it reaches the number of tokens. -/
theorem more_eq_of_length_le {separator : Token} {item : TokenReader α}
    {P : α → List Token → Prop} (h : ReadsOnly item P) {bound bound' : Nat} {tokens : List Token}
    (hbound : tokens.length ≤ bound) (hbound' : tokens.length ≤ bound') :
    more separator item bound tokens = more separator item bound' tokens := by
  induction bound generalizing bound' tokens with
  | zero =>
    obtain rfl := List.length_eq_zero_iff.1 (Nat.le_zero.1 hbound)
    cases bound' <;> rfl
  | succ bound ih =>
    cases tokens with
    | nil => cases bound' <;> rfl
    | cons token rest =>
      obtain ⟨bound', rfl⟩ : ∃ b, bound' = b + 1 := ⟨bound' - 1, by grind⟩
      simp only [more]
      split
      · cases hitem : item rest with
        | error e => rfl
        | ok read =>
          obtain ⟨used, rfl, -⟩ := h hitem
          have hshort : read.2.length ≤ bound ∧ read.2.length ≤ bound' := by
            simp only [List.length_cons, List.length_append] at hbound hbound'
            omega
          simp only [ok_bind, ih hshort.1 hshort.2]
      · rfl

theorem chain_one {separator : Token} {item : TokenReader α} {tokens rest : List Token} {a : α}
    (h : item tokens = .ok (a, rest)) (hrest : rest.head? ≠ some separator) :
    chain separator item tokens = .ok ([a], rest) := by
  cases rest with
  | nil => simp [chain, h, more]
  | cons token others =>
    have : token ≠ separator := by simpa using hrest
    simp [chain, h, more, this]

theorem chain_more {separator : Token} {item : TokenReader α} {P : α → List Token → Prop}
    (hitem : ReadsOnly item P) {tokens others rest : List Token} {a : α} {items : List α}
    (h : item tokens = .ok (a, separator :: others))
    (hchain : chain separator item others = .ok (items, rest)) :
    chain separator item tokens = .ok (a :: items, rest) := by
  simp only [chain, bind_eq_ok] at hchain
  obtain ⟨⟨first, after⟩, hfirst, ⟨others', rest'⟩, hothers, done⟩ := hchain
  cases done
  obtain ⟨used, rfl, -⟩ := hitem hfirst
  have hmore : more separator item (used ++ after).length after = .ok (others', rest') :=
    (more_eq_of_length_le hitem (by simp) (Nat.le_refl _)).trans hothers
  simp only [chain, h, ok_bind, List.length_cons, more, if_true, hfirst, hmore]
  rfl

/-- What it is for a reader of a level to read all of a phrase. -/
def Accepts (factType : FactType) (levels : Nat) (tokens : List Token) : Phrase → Prop
  | .operand tree => ∀ rest, EndsOperand rest →
      operand factType (nestedAt factType levels) (tokens ++ rest) = .ok (tree, rest)
  | .comparison tree => ∀ rest, EndsUnary rest →
      comparison (operand factType (nestedAt factType levels)) (tokens ++ rest) = .ok (tree, rest)
  | .unary tree => ∀ rest, EndsUnary rest →
      unary factType levels (tokens ++ rest) = .ok (tree, rest)
  | .conjuncts trees => ∀ rest, EndsConjuncts rest →
      chain .and (unary factType levels) (tokens ++ rest) = .ok (trees, rest)
  | .disjuncts trees => ∀ rest, EndsDisjuncts rest →
      chain .or (conjunction (unary factType levels)) (tokens ++ rest) = .ok (trees, rest)

end Condition

namespace Derives

open Condition

variable {factType : FactType} {levels : Nat} {phrase : Phrase} {tokens : List Token}

/-- An operand starts with a token that is no negation. -/
theorem head_ne_not (h : Derives factType levels phrase tokens) :
    (∃ tree, phrase = .operand tree ∨ phrase = .comparison tree) →
      ∃ token others, tokens = token :: others ∧ token ≠ .not := by
  induction h with
  | single _ ih => exact fun _ => ih ⟨_, .inl rfl⟩
  | compare _ _ ih _ =>
    intro _
    obtain ⟨token, others, rfl, h⟩ := ih ⟨_, .inl rfl⟩
    exact ⟨token, _, rfl, h⟩
  | _ => simp

/-- A reader that meets a comparison leaves it to the readers of comparisons. -/
theorem unary_eq_comparison {tree : Condition}
    (h : Derives factType levels (.comparison tree) tokens) (rest : List Token) :
    unary factType levels (tokens ++ rest) =
      Condition.comparison (operand factType (nestedAt factType levels)) (tokens ++ rest) := by
  obtain ⟨token, others, rfl, hne⟩ := h.head_ne_not ⟨tree, .inr rfl⟩
  rw [unary_eq]
  cases token <;> first | rfl | exact absurd rfl hne

theorem accepts (h : Derives factType levels phrase tokens) :
    Accepts factType levels tokens phrase := by
  induction h with
  | null | true | false | text | number | now => exact fun rest _ => rfl
  | @field levels name ref hname href =>
    intro rest hrest
    obtain ⟨hnull, htrue, hfalse⟩ : name ≠ "null" ∧ name ≠ "true" ∧ name ≠ "false" := by
      simpa [IsConstant] using hname
    simp only [List.cons_append, List.nil_append, operand, named, if_neg hnull, if_neg htrue,
      if_neg hfalse]
    split
    · exact absurd rfl hrest
    · rw [href]
  | inList _ ih =>
    intro rest _
    have hinner := ih (.closeParen :: rest) (endsDisjuncts_closeParen rest)
    simp [operand, named, call, nestedAt, disjunction, hinner]
  | parenthesized _ ih =>
    intro rest _
    have hinner := ih (.closeParen :: rest) (endsDisjuncts_closeParen rest)
    simp [operand, nestedAt, disjunction, hinner]
  | single _ ih =>
    intro rest hrest
    simp only [Condition.comparison, ih rest hrest.1, ok_bind]
    split
    · exact absurd rfl (hrest.2 _)
    · rfl
  | compare _ _ ihl ihr =>
    intro rest hrest
    simp [Condition.comparison, ihl _ (endsOperand_compare _ _), ihr rest hrest.1]
  | comparison h ih => exact fun rest hrest => (h.unary_eq_comparison rest).trans (ih rest hrest)
  | not _ ih =>
    intro rest hrest
    simp [unary, unaryWith, ih rest hrest]
  | conjunct _ ih => exact fun rest hrest => chain_one (ih rest hrest.1) hrest.2
  | and _ _ ih ihs =>
    intro rest hrest
    rw [List.append_assoc, List.cons_append]
    exact chain_more (unary_readsOnly _) (ih _ (endsUnary_and _)) (ihs rest hrest)
  | disjunct _ ih =>
    intro rest hrest
    exact chain_one (by simp [conjunction, ih rest hrest.1]) hrest.2
  | or _ _ ih ihs =>
    intro rest hrest
    rw [List.append_assoc, List.cons_append]
    refine chain_more (conjunction_readsOnly (unary_readsOnly _)) ?_ (ihs rest hrest)
    simp [conjunction, ih _ (endsConjuncts_or _)]

end Derives

namespace Condition

variable {factType : FactType} {tokens : List Token} {tree : Condition}

/-- The tokens that are read as a condition are those that the grammar derives, with the tree of the
derivation. -/
theorem ofTokens_eq_ok_iff : ofTokens factType tokens = .ok tree ↔
    ∃ trees, tree = ofChain or trees ∧
      Derives factType maxNesting (.disjuncts trees) tokens := by
  constructor
  · intro read
    simp only [ofTokens, bind_eq_ok] at read
    obtain ⟨⟨condition, rest⟩, hread, done⟩ := read
    obtain ⟨used, rfl, trees, rfl, hused⟩ := disjunction_readsOnly (unary_readsOnly _) hread
    cases rest with
    | nil =>
      cases done
      exact ⟨trees, rfl, by simpa using hused⟩
    | cons token others => cases done
  · rintro ⟨trees, rfl, h⟩
    have hread := h.accepts [] endsDisjuncts_nil
    simp only [List.append_nil] at hread
    simp [ofTokens, disjunction, hread]

end Condition

end FisheryRules
