import FisheryRules.Proofs.Condition.Connective
import FisheryRules.Proofs.Condition.Grammar

/-!
# The derivations of conditions

The derivations of the grammar of conditions as data: a derivation says by which productions a row
of tokens comes about. It knows neither the type of the facts nor how deep a condition may nest;
what the reader asks beyond the grammar is said of a derivation: that the names in it are fields,
and that its depth is within the limit.

The grammar is unambiguous: what follows an operand, a comparison or a chain shows where it ends,
so two derivations of one category with the same tokens are the same. The reader reads a row of
tokens exactly if it has a derivation with known names and within the limit, and reads the tree of
that derivation.

## Main definitions

* `Derivation` — the derivations, by category.
* `Derivation.tokens`, `Derivation.fieldNames`, `Derivation.depth` — the derived row, the names that
  stand for fields in it, and how deep it nests.
* `Connective.flat` — the tree of a chain of operands.
* `Derivation.meaning?` — the tree or the row of operands that a derivation stands for.

## Main results

* `Derivation.tokens_append_inj` — a derivation is known from its tokens and what follows them.
* `Condition.reads_derivations` — the reader follows the derivations.
-/
namespace FisheryRules

/-- The categories of the grammar. A conjunction is a row of unary phrases, a disjunction a row of
conjunctions. -/
inductive Category
  | operand
  | comparison
  | unary
  | conjunction
  | disjunction

/-- The derivations of each category. -/
inductive Derivation : Category → Type
  | null : Derivation .operand
  | true : Derivation .operand
  | false : Derivation .operand
  | text (value : String) : Derivation .operand
  | number (value : Binary64) : Derivation .operand
  | field (name : String) (plain : ¬ IsConstant name) : Derivation .operand
  | now : Derivation .operand
  | inList (list : String) (argument : Derivation .disjunction) : Derivation .operand
  | parenthesized (inner : Derivation .disjunction) : Derivation .operand
  | single (operand : Derivation .operand) : Derivation .comparison
  | compare (op : CompareOp) (left right : Derivation .operand) : Derivation .comparison
  | comparison (compared : Derivation .comparison) : Derivation .unary
  | not (inner : Derivation .unary) : Derivation .unary
  | conjunct (only : Derivation .unary) : Derivation .conjunction
  | and (first : Derivation .unary) (others : Derivation .conjunction) : Derivation .conjunction
  | disjunct (only : Derivation .conjunction) : Derivation .disjunction
  | or (first : Derivation .conjunction) (others : Derivation .disjunction) :
      Derivation .disjunction

/-- What a phrase of a category stands for: a chain stands for the row of its operands. -/
abbrev Category.Meaning : Category → Type
  | operand | comparison | unary => Condition
  | conjunction | disjunction => List Condition

/-- The tree of a chain: one operand stands for itself, and two or more are one flat list. -/
def Connective.flat : Connective → List Condition → Condition
  | _, [operand] => operand
  | and, operands => .and operands
  | or, operands => .or operands

/-- The reader builds the trees of chains. -/
theorem Connective.flat_eq (connective : Connective) (operands : List Condition) :
    connective.flat operands = Condition.ofChain connective.connect operands := by
  obtain _ | ⟨operand, _ | ⟨second, others⟩⟩ := operands <;> cases connective <;> rfl

namespace Derivation

variable {category : Category}

/-- The derived row of tokens. -/
def tokens : {category : Category} → Derivation category → List Token
  | _, null => [.word "null"]
  | _, true => [.word "true"]
  | _, false => [.word "false"]
  | _, text value => [.text value]
  | _, number value => [.number value]
  | _, field name _ => [.word name]
  | _, now => [.word "now", .openParen, .closeParen]
  | _, inList list argument =>
      .word "isPresentInList" :: .openParen :: .text list :: .comma :: argument.tokens ++
        [Token.closeParen]
  | _, parenthesized inner => .openParen :: inner.tokens ++ [Token.closeParen]
  | _, single operand => operand.tokens
  | _, compare op left right => left.tokens ++ Token.compare op :: right.tokens
  | _, comparison compared => compared.tokens
  | _, not inner => .not :: inner.tokens
  | _, conjunct only => only.tokens
  | _, and first others => first.tokens ++ Token.and :: others.tokens
  | _, disjunct only => only.tokens
  | _, or first others => first.tokens ++ Token.or :: others.tokens

/-- The names that stand for fields. -/
def fieldNames : {category : Category} → Derivation category → List String
  | _, null | _, true | _, false | _, text _ | _, number _ | _, now => []
  | _, field name _ => [name]
  | _, inList _ inner | _, parenthesized inner => inner.fieldNames
  | _, single inner | _, comparison inner | _, not inner | _, conjunct inner
  | _, disjunct inner => inner.fieldNames
  | _, compare _ left right => left.fieldNames ++ right.fieldNames
  | _, and first others => first.fieldNames ++ others.fieldNames
  | _, or first others => first.fieldNames ++ others.fieldNames

/-- The number of parentheses, negations and list look-ups around the operand that lies under most
of them. -/
def depth : {category : Category} → Derivation category → Nat
  | _, null | _, true | _, false | _, text _ | _, number _ | _, now | _, field _ _ => 0
  | _, inList _ inner | _, parenthesized inner => inner.depth + 1
  | _, not inner => inner.depth + 1
  | _, single inner | _, comparison inner | _, conjunct inner | _, disjunct inner => inner.depth
  | _, compare _ left right => max left.depth right.depth
  | _, and first others => max first.depth others.depth
  | _, or first others => max first.depth others.depth

open Condition in
/-- What a derivation stands for, as far as its names are fields of the fact type. -/
def meaning? (factType : FactType) :
    {category : Category} → Derivation category → Option category.Meaning
  | _, null => some (literal .null)
  | _, true => some (literal (.bool .true))
  | _, false => some (literal (.bool .false))
  | _, text value => some (literal (.text value))
  | _, number value => some (literal (.number value))
  | _, field name _ => (factType.field? name).map Condition.field
  | _, now => some Condition.now
  | _, inList list argument =>
      (argument.meaning? factType).map fun trees =>
        Condition.inList list (Connective.or.flat trees)
  | _, parenthesized inner => (inner.meaning? factType).map Connective.or.flat
  | _, single operand => operand.meaning? factType
  | _, compare op left right => do
      let left ← left.meaning? factType
      let right ← right.meaning? factType
      return Condition.compare op left right
  | _, comparison compared => compared.meaning? factType
  | _, not inner => (inner.meaning? factType).map Condition.not
  | _, conjunct only => (only.meaning? factType).map fun tree => [tree]
  | _, and first others => do
      let tree ← first.meaning? factType
      let trees ← others.meaning? factType
      return tree :: trees
  | _, disjunct only => (only.meaning? factType).map fun trees => [Connective.and.flat trees]
  | _, or first others => do
      let trees ← first.meaning? factType
      let disjuncts ← others.meaning? factType
      return Connective.and.flat trees :: disjuncts

/-! ## Derivations of one row -/

end Derivation

/-- What follows cannot continue a phrase of the category. -/
def Category.Ends (category : Category) (rest : List Token) : Prop :=
  match category with
  | operand => Condition.EndsOperand rest
  | comparison | unary => Condition.EndsUnary rest
  | conjunction => Condition.EndsConjuncts rest
  | disjunction => Condition.EndsDisjuncts rest

namespace Derivation

open Condition

/-- A comparison starts with a token that is no negation. -/
theorem tokens_ne_not (d : Derivation category) (others : List Token) (rest : List Token)
    (h : category = .operand ∨ category = .comparison) : d.tokens ++ rest ≠ .not :: others := by
  induction d generalizing rest with
  | single _ ih => exact ih rest (.inl rfl)
  | compare op _ right ih _ => simpa [tokens] using ih _ (.inl rfl)
  | _ => simp [tokens] at h ⊢

/-- The derivation and the tokens that follow it are known from all tokens. The induction is on the
first derivation, for whatever follows it. -/
theorem tokens_append_inj {d d' : Derivation category} {rest rest' : List Token}
    (h : d.tokens ++ rest = d'.tokens ++ rest') (hrest : category.Ends rest)
    (hrest' : category.Ends rest') : d = d' ∧ rest = rest' := by
  induction d generalizing rest rest' with
  | null | true | false | text | number | field | now =>
    cases d' <;> grind [tokens, IsConstant, EndsOperand, Category.Ends]
  | inList list argument ih =>
    cases d' with
    | inList list' argument' =>
      simp only [tokens, List.cons_append, List.append_assoc, List.cons.injEq, Token.text.injEq,
        true_and] at h
      obtain ⟨rfl, h⟩ := h
      obtain ⟨rfl, h⟩ := ih h (endsDisjuncts_closeParen _) (endsDisjuncts_closeParen _)
      simpa using h
    | _ => grind [tokens, IsConstant, EndsOperand, Category.Ends]
  | parenthesized inner ih =>
    cases d' with
    | parenthesized inner' =>
      simp only [tokens, List.cons_append, List.append_assoc, List.cons.injEq, true_and] at h
      obtain ⟨rfl, h⟩ := ih h (endsDisjuncts_closeParen _) (endsDisjuncts_closeParen _)
      simpa using h
    | _ => grind [tokens]
  -- The token after the operand shows whether it is compared.
  | single left ih =>
    cases d' with
    | single left' => simpa using ih h hrest.1 hrest'.1
    | compare op left' right' =>
      simp only [tokens, List.append_assoc, List.cons_append] at h
      obtain ⟨-, rfl⟩ := ih h hrest.1 (endsOperand_compare op _)
      exact absurd rfl (hrest.2 op)
  | compare op left right ih ihRight =>
    cases d' with
    | single left' =>
      simp only [tokens, List.append_assoc, List.cons_append] at h
      obtain ⟨-, rfl⟩ := ih h (endsOperand_compare op _) hrest'.1
      exact absurd rfl (hrest'.2 op)
    | compare op' left' right' =>
      simp only [tokens, List.append_assoc, List.cons_append] at h
      obtain ⟨rfl, hafter⟩ := ih h (endsOperand_compare op _) (endsOperand_compare op' _)
      simp only [List.cons.injEq, Token.compare.injEq] at hafter
      obtain ⟨rfl, hright⟩ := hafter
      obtain ⟨rfl, rfl⟩ := ihRight hright hrest.1 hrest'.1
      exact ⟨rfl, rfl⟩
  | comparison compared ih =>
    cases d' with
    | comparison compared' => simpa using ih h hrest hrest'
    | not inner' => exact absurd h (compared.tokens_ne_not _ _ (.inr rfl))
  | not inner ih =>
    cases d' with
    | comparison compared' => exact absurd h.symm (compared'.tokens_ne_not _ _ (.inr rfl))
    | not inner' => simpa using ih (List.cons.inj h).2 hrest hrest'
  -- The token after an item shows whether its chain goes on.
  | conjunct only ih =>
    cases d' with
    | conjunct only' => simpa using ih h hrest.1 hrest'.1
    | and first' others' =>
      simp only [tokens, List.append_assoc, List.cons_append] at h
      obtain ⟨-, rfl⟩ := ih h hrest.1 (endsUnary_and _)
      exact absurd rfl hrest.2
  | and first others ih ihOthers =>
    cases d' with
    | conjunct only' =>
      simp only [tokens, List.append_assoc, List.cons_append] at h
      obtain ⟨-, rfl⟩ := ih h (endsUnary_and _) hrest'.1
      exact absurd rfl hrest'.2
    | and first' others' =>
      simp only [tokens, List.append_assoc, List.cons_append] at h
      obtain ⟨rfl, hafter⟩ := ih h (endsUnary_and _) (endsUnary_and _)
      obtain ⟨rfl, rfl⟩ := ihOthers (List.cons.inj hafter).2 hrest hrest'
      exact ⟨rfl, rfl⟩
  | disjunct only ih =>
    cases d' with
    | disjunct only' => simpa using ih h hrest.1 hrest'.1
    | or first' others' =>
      simp only [tokens, List.append_assoc, List.cons_append] at h
      obtain ⟨-, rfl⟩ := ih h hrest.1 (endsConjuncts_or _)
      exact absurd rfl hrest.2
  | or first others ih ihOthers =>
    cases d' with
    | disjunct only' =>
      simp only [tokens, List.append_assoc, List.cons_append] at h
      obtain ⟨-, rfl⟩ := ih h (endsConjuncts_or _) hrest'.1
      exact absurd rfl hrest'.2
    | or first' others' =>
      simp only [tokens, List.append_assoc, List.cons_append] at h
      obtain ⟨rfl, hafter⟩ := ih h (endsConjuncts_or _) (endsConjuncts_or _)
      obtain ⟨rfl, rfl⟩ := ihOthers (List.cons.inj hafter).2 hrest hrest'
      exact ⟨rfl, rfl⟩

/-- A derivation of a condition is known from its tokens. -/
theorem eq_of_tokens_eq {d d' : Derivation .disjunction} (h : d.tokens = d'.tokens) : d = d' := by
  have happend : d.tokens ++ [] = d'.tokens ++ [] := by rw [h]
  exact (tokens_append_inj happend endsDisjuncts_nil endsDisjuncts_nil).1

/-! ## What the names and the depth decide -/

variable {factType : FactType}

/-- A derivation stands for something exactly if its names are fields. -/
theorem isSome_meaning? (d : Derivation category) : (d.meaning? factType).isSome ↔
    ∀ name ∈ d.fieldNames, ∃ ref, factType.field? name = some ref := by
  induction d with
  | null | true | false | text | number | now => simp [meaning?, fieldNames]
  | field name => simp [meaning?, fieldNames, Option.isSome_iff_exists]
  | inList _ _ ih | parenthesized _ ih | not _ ih | conjunct _ ih | disjunct _ ih =>
    simpa [meaning?, fieldNames] using ih
  | single _ ih | comparison _ ih => exact ih
  | compare _ left right ih ih' | and left right ih ih' | or left right ih ih' =>
    simp only [fieldNames, List.forall_mem_append, ← ih, ← ih']
    cases hleft : left.meaning? factType <;> cases hright : right.meaning? factType <;>
      simp [meaning?, hleft, hright]

end Derivation

/-- A phrase of a category with what is read in it. -/
def Category.phrase : (category : Category) → category.Meaning → Phrase
  | operand, tree => .operand tree
  | comparison, tree => .comparison tree
  | unary, tree => .unary tree
  | conjunction, trees => .conjuncts trees
  | disjunction, trees => .disjuncts trees

/-- The category of a phrase. -/
def Phrase.category : Phrase → Category
  | operand _ => .operand
  | comparison _ => .comparison
  | unary _ => .unary
  | conjuncts _ => .conjunction
  | disjuncts _ => .disjunction

/-- What is read in a phrase. -/
def Phrase.meaning : (phrase : Phrase) → phrase.category.Meaning
  | operand tree | comparison tree | unary tree => tree
  | conjuncts trees | disjuncts trees => trees

namespace Derivation

open Condition

variable {factType : FactType} {levels : Nat}

/-- What a derivation stands for is derived from its tokens, with as many levels as it is deep. -/
theorem derives (d : Derivation category) {meaning : category.Meaning}
    (hdepth : d.depth ≤ levels) (h : d.meaning? factType = some meaning) :
    Derives factType levels (category.phrase meaning) d.tokens := by
  induction d generalizing levels with
  | null | true | false | text | number | now =>
    cases h
    constructor
  | field name plain =>
    obtain ⟨ref, href, rfl⟩ := Option.map_eq_some_iff.1 h
    exact .field plain href
  | inList list argument ih =>
    obtain ⟨trees, htrees, rfl⟩ := Option.map_eq_some_iff.1 h
    obtain ⟨levels, rfl⟩ := Nat.exists_eq_add_of_le' hdepth
    rw [Connective.flat_eq]
    exact .inList (ih (Nat.le_add_left ..) htrees)
  | parenthesized inner ih =>
    obtain ⟨trees, htrees, rfl⟩ := Option.map_eq_some_iff.1 h
    obtain ⟨levels, rfl⟩ := Nat.exists_eq_add_of_le' hdepth
    rw [Connective.flat_eq]
    exact .parenthesized (ih (Nat.le_add_left ..) htrees)
  | single _ ih => exact .single (ih hdepth h)
  | compare op left right ih ih' =>
    obtain ⟨leftTree, hleft, h⟩ := Option.bind_eq_some_iff.1 h
    obtain ⟨rightTree, hright, h⟩ := Option.bind_eq_some_iff.1 h
    cases h
    obtain ⟨hdepth, hdepth'⟩ := max_le_iff.1 hdepth
    exact .compare (ih hdepth hleft) (ih' hdepth' hright)
  | comparison _ ih => exact .comparison (ih hdepth h)
  | not inner ih =>
    obtain ⟨tree, htree, rfl⟩ := Option.map_eq_some_iff.1 h
    obtain ⟨levels, rfl⟩ := Nat.exists_eq_add_of_le' hdepth
    exact .not (ih (Nat.le_add_left ..) htree)
  | conjunct _ ih =>
    obtain ⟨tree, htree, rfl⟩ := Option.map_eq_some_iff.1 h
    exact .conjunct (ih hdepth htree)
  | and first others ih ih' =>
    obtain ⟨tree, htree, h⟩ := Option.bind_eq_some_iff.1 h
    obtain ⟨trees, htrees, h⟩ := Option.bind_eq_some_iff.1 h
    cases h
    obtain ⟨hdepth, hdepth'⟩ := max_le_iff.1 hdepth
    exact .and (ih hdepth htree) (ih' hdepth' htrees)
  | disjunct _ ih =>
    obtain ⟨trees, htrees, rfl⟩ := Option.map_eq_some_iff.1 h
    rw [Connective.flat_eq]
    exact .disjunct (ih hdepth htrees)
  | or first others ih ih' =>
    obtain ⟨trees, htrees, h⟩ := Option.bind_eq_some_iff.1 h
    obtain ⟨disjuncts, hdisjuncts, h⟩ := Option.bind_eq_some_iff.1 h
    cases h
    obtain ⟨hdepth, hdepth'⟩ := max_le_iff.1 hdepth
    rw [Connective.flat_eq]
    exact .or (ih hdepth htrees) (ih' hdepth' hdisjuncts)

end Derivation

/-- A derived row of tokens has a derivation that is no deeper than the levels allow and stands for
what is read. -/
theorem Derives.exists_derivation {factType : FactType} {levels : Nat} {phrase : Phrase}
    {tokens : List Token}
    (h : Derives factType levels phrase tokens) :
    ∃ d : Derivation phrase.category, d.tokens = tokens ∧ d.depth ≤ levels ∧
      d.meaning? factType = some phrase.meaning := by
  induction h with
  | null => exact ⟨.null, rfl, Nat.zero_le _, rfl⟩
  | true => exact ⟨.true, rfl, Nat.zero_le _, rfl⟩
  | false => exact ⟨.false, rfl, Nat.zero_le _, rfl⟩
  | text value => exact ⟨.text value, rfl, Nat.zero_le _, rfl⟩
  | number value => exact ⟨.number value, rfl, Nat.zero_le _, rfl⟩
  | field plain href =>
    exact ⟨.field _ plain, rfl, Nat.zero_le _, Option.map_eq_some_iff.2 ⟨_, href, rfl⟩⟩
  | now => exact ⟨.now, rfl, Nat.zero_le _, rfl⟩
  | @inList _ list _ _ _ ih =>
    obtain ⟨d, rfl, hdepth, hmeaning⟩ := ih
    exact ⟨.inList list d, rfl, Nat.succ_le_succ hdepth, Option.map_eq_some_iff.2
      ⟨_, hmeaning, congrArg (Condition.inList list) (Connective.flat_eq ..)⟩⟩
  | parenthesized _ ih =>
    obtain ⟨d, rfl, hdepth, hmeaning⟩ := ih
    exact ⟨.parenthesized d, rfl, Nat.succ_le_succ hdepth,
      Option.map_eq_some_iff.2 ⟨_, hmeaning, Connective.flat_eq ..⟩⟩
  | single _ ih =>
    obtain ⟨d, rfl, hdepth, hmeaning⟩ := ih
    exact ⟨.single d, rfl, hdepth, hmeaning⟩
  | @compare _ op _ _ _ _ _ _ ih ih' =>
    obtain ⟨d, rfl, hdepth, hmeaning⟩ := ih
    obtain ⟨d', rfl, hdepth', hmeaning'⟩ := ih'
    exact ⟨.compare op d d', rfl, max_le hdepth hdepth',
      Option.bind_eq_some_iff.2 ⟨_, hmeaning, Option.bind_eq_some_iff.2 ⟨_, hmeaning', rfl⟩⟩⟩
  | comparison _ ih =>
    obtain ⟨d, rfl, hdepth, hmeaning⟩ := ih
    exact ⟨.comparison d, rfl, hdepth, hmeaning⟩
  | not _ ih =>
    obtain ⟨d, rfl, hdepth, hmeaning⟩ := ih
    exact ⟨.not d, rfl, Nat.succ_le_succ hdepth, Option.map_eq_some_iff.2 ⟨_, hmeaning, rfl⟩⟩
  | conjunct _ ih =>
    obtain ⟨d, rfl, hdepth, hmeaning⟩ := ih
    exact ⟨.conjunct d, rfl, hdepth, Option.map_eq_some_iff.2 ⟨_, hmeaning, rfl⟩⟩
  | and _ _ ih ih' =>
    obtain ⟨d, rfl, hdepth, hmeaning⟩ := ih
    obtain ⟨d', rfl, hdepth', hmeaning'⟩ := ih'
    exact ⟨.and d d', rfl, max_le hdepth hdepth',
      Option.bind_eq_some_iff.2 ⟨_, hmeaning, Option.bind_eq_some_iff.2 ⟨_, hmeaning', rfl⟩⟩⟩
  | disjunct _ ih =>
    obtain ⟨d, rfl, hdepth, hmeaning⟩ := ih
    exact ⟨.disjunct d, rfl, hdepth,
      Option.map_eq_some_iff.2 ⟨_, hmeaning, congrArg ([·]) (Connective.flat_eq ..)⟩⟩
  | or _ _ ih ih' =>
    obtain ⟨d, rfl, hdepth, hmeaning⟩ := ih
    obtain ⟨d', rfl, hdepth', hmeaning'⟩ := ih'
    exact ⟨.or d d', rfl, max_le hdepth hdepth',
      Option.bind_eq_some_iff.2 ⟨_, hmeaning, Option.bind_eq_some_iff.2
        ⟨_, hmeaning', congrArg (some <| · :: _) (Connective.flat_eq ..)⟩⟩⟩

namespace Condition

/-- The reader reads a row of tokens exactly if it has a derivation whose names are fields of the
fact type and in which no operand lies under more than `maxNesting` parentheses, negations and list
look-ups. There is one derivation at most, and what is read is the tree of it. -/
theorem reads_derivations (factType : FactType) (tokens : List Token) :
    ((∃ tree, ofTokens factType tokens = .ok tree) ↔
      ∃ d : Derivation .disjunction, d.tokens = tokens ∧
        (∀ name ∈ d.fieldNames, ∃ ref, factType.field? name = some ref) ∧ d.depth ≤ maxNesting) ∧
    ∀ d : Derivation .disjunction, d.tokens = tokens →
      (∀ d' : Derivation .disjunction, d'.tokens = tokens → d' = d) ∧
      ∀ tree, ofTokens factType tokens = .ok tree →
        (d.meaning? factType).map Connective.or.flat = some tree := by
  have hunique : ∀ d : Derivation .disjunction, d.tokens = tokens →
      ∀ d' : Derivation .disjunction, d'.tokens = tokens → d' = d :=
    fun d hd d' hd' => Derivation.eq_of_tokens_eq (hd'.trans hd.symm)
  refine ⟨⟨?_, ?_⟩, fun d hd => ⟨hunique d hd, ?_⟩⟩
  · rintro ⟨tree, read⟩
    obtain ⟨trees, rfl, hderives⟩ := ofTokens_eq_ok_iff.1 read
    obtain ⟨d, hd, hdepth, hmeaning⟩ := hderives.exists_derivation
    exact ⟨d, hd, d.isSome_meaning?.1 (by rw [hmeaning]; rfl), hdepth⟩
  · rintro ⟨d, rfl, hnames, hdepth⟩
    obtain ⟨trees, hmeaning⟩ := Option.isSome_iff_exists.1 (d.isSome_meaning?.2 hnames)
    exact ⟨ofChain or trees, ofTokens_eq_ok_iff.2 ⟨trees, rfl, d.derives hdepth hmeaning⟩⟩
  · intro tree read
    obtain ⟨trees, rfl, hderives⟩ := ofTokens_eq_ok_iff.1 read
    obtain ⟨d', hd', -, hmeaning⟩ := hderives.exists_derivation
    rw [← hunique d hd d' hd']
    exact Option.map_eq_some_iff.2 ⟨trees, hmeaning, Connective.flat_eq ..⟩

end Condition

end FisheryRules
