import FisheryRules.Proofs.Condition.TypeSafety

/-!
# Heights of conditions

A condition that was read from tokens is shallow: however long its text is, the height of its tree
is bounded by the number of levels that may nest. One level adds at most four nodes to a path: a
disjunction, a conjunction in it, a comparison or a negation in that, and a look-up around the next
level. Chains add nothing, for their operands stand side by side.

Checking and evaluating descend into a tree as deep as it is high. `checkWithin` and
`evaluateWithin` are the same computations with a bound on the depth of their recursion, and give
nothing when they run into it.

## Main definitions

* `Condition.checkWithin`, `Condition.evaluateWithin`, `Condition.testWithin` — checking and
  evaluating with recursion of bounded depth.

## Main results

* `Derives.height_le` — the heights of the trees that the grammar derives.
* `Condition.checkWithin_completes`, `Condition.evaluateWithin_completes` — a bound that is at
  least the height does not show.
* `Condition.compile_shallow` — compiled conditions are shallow.
-/
namespace FisheryRules

namespace Condition

variable {tree : Condition} {trees : List Condition} {bound : Nat}

/-! ## Heights of trees that are read -/

theorem greatestHeight_le_iff :
    greatestHeight trees ≤ bound ↔ ∀ tree ∈ trees, tree.height ≤ bound := by
  induction trees with
  | nil => simp [greatestHeight]
  | cons first others ih => rw [greatestHeight, Nat.max_le, ih, List.forall_mem_cons]

theorem height_connect (connective : Connective) (trees : List Condition) :
    (connective.connect trees).height = greatestHeight trees + 1 := by
  cases connective <;> rfl

theorem height_ofChain_le (connective : Connective) (h : ∀ tree ∈ trees, tree.height ≤ bound) :
    (ofChain connective.connect trees).height ≤ bound + 1 := by
  unfold ofChain
  split
  · exact Nat.le_succ_of_le (h _ (by simp))
  · rw [height_connect]
    exact Nat.succ_le_succ (greatestHeight_le_iff.2 h)

end Condition

/-- By how much the trees of a phrase may be higher than four nodes a level. -/
def Phrase.surplus : Phrase → Nat
  | operand _ => 1
  | comparison _ | unary _ | conjuncts _ => 2
  | disjuncts _ => 3

open Condition in
/-- The trees of a phrase have at most four nodes on a path for every level that may nest in it,
and those of its own. -/
theorem Derives.height_le {factType : FactType} {levels : Nat} {phrase : Phrase}
    {tokens : List Token} (h : Derives factType levels phrase tokens) :
    ∀ tree ∈ phrase.trees, tree.height ≤ 4 * levels + phrase.surplus := by
  -- A level is entered through parentheses or a look-up around a disjunction. The two chains in it
  -- add one node each, however long they are.
  induction h with
  | null | true | false | text | number | field | now => simp [Phrase.trees, height, Phrase.surplus]
  | inList _ ih =>
    have hvalue := height_ofChain_le .or ih
    simp only [Phrase.trees, List.forall_mem_singleton, Phrase.surplus, height,
      Connective.connect] at hvalue ⊢
    omega
  | parenthesized _ ih =>
    have hinner := height_ofChain_le .or ih
    simp only [Phrase.trees, List.forall_mem_singleton, Phrase.surplus,
      Connective.connect] at hinner ⊢
    omega
  | single _ ih => exact fun tree htree => Nat.le_succ_of_le (ih tree htree)
  | compare _ _ ihl ihr =>
    simp only [Phrase.trees, List.forall_mem_singleton, Phrase.surplus, height] at ihl ihr ⊢
    omega
  | comparison _ ih | conjunct _ ih => exact ih
  | not _ ih =>
    simp only [Phrase.trees, List.forall_mem_singleton, Phrase.surplus, height] at ih ⊢
    omega
  | and _ _ ih ihs => exact List.forall_mem_cons.2 ⟨ih _ (by simp [Phrase.trees]), ihs⟩
  | disjunct _ ih =>
    simp only [Phrase.trees, List.forall_mem_singleton]
    exact height_ofChain_le .and ih
  | or _ _ ih ihs => exact List.forall_mem_cons.2 ⟨height_ofChain_le .and ih, ihs⟩

/-! ## Recursion of bounded depth -/

/-- A computation that may run into a bound did not, and came out as one without a bound. -/
def Completes {ε α : Type} (bounded : ExceptT ε Option α) (outcome : Except ε α) : Prop :=
  bounded.run = some outcome

section

variable {ε α β : Type} {bounded : ExceptT ε Option α} {outcome : Except ε α}

theorem completes_pure (a : α) : Completes (pure a : ExceptT ε Option α) (.ok a) := rfl

theorem completes_throw (e : ε) : Completes (throw e : ExceptT ε Option α) (.error e) := rfl

theorem completes_lift (outcome : Except ε α) :
    Completes (liftM outcome : ExceptT ε Option α) outcome := rfl

theorem Completes.bind {next : α → ExceptT ε Option β} {outcomeNext : α → Except ε β}
    (h : Completes bounded outcome) (hnext : ∀ a, Completes (next a) (outcomeNext a)) :
    Completes (bounded >>= next) (outcome >>= outcomeNext) := by
  rw [Completes, ExceptT.run_bind, h]
  cases outcome with
  | error e => rfl
  | ok a => exact hnext a

end

namespace Condition

/-- Checks operands in turn. -/
def checkEach (check : Condition → ExceptT TypeError Option (Condition × ValueType))
    (operator : String) : List Condition → ExceptT TypeError Option (List Condition)
  | [] => pure []
  | first :: others => do
    let (first, found) ← check first
    expectBool operator found
    return first :: (← checkEach check operator others)

/-- Checks a tree, to a depth of so many calls that are nested in each other. -/
def checkWithin : (depth : Nat) → Condition → ExceptT TypeError Option (Condition × ValueType)
  | 0, _ => .mk none
  | _ + 1, literal value => pure (literal value, .ofValue value)
  | _ + 1, field ref => pure (field ref, .of ref.type)
  | _ + 1, now => pure (now, .of .time)
  | depth + 1, inList list value => do
    let (value, found) ← checkWithin depth value
    if found = .null ∨ found = .of .text ∨ found = .of .number then
      return (inList list value, .of .bool)
    else throw (.lookupArgument found)
  | depth + 1, not inner => do
    let (inner, found) ← checkWithin depth inner
    expectBool "!" found
    return (not inner, .of .bool)
  | depth + 1, and operands => do
    return (and (← checkEach (checkWithin depth) "&&" operands), .of .bool)
  | depth + 1, or operands => do
    return (or (← checkEach (checkWithin depth) "||" operands), .of .bool)
  | depth + 1, compare op left right => do
    let left ← checkWithin depth left
    let right ← checkWithin depth right
    return (← checkCompare op left right, .of .bool)

/-- Whether all operands hold, with some way to evaluate one. -/
def allHoldBy (evaluate : Condition → ExceptT EvalError Option Value) :
    List Condition → ExceptT EvalError Option Bool
  | [] => pure true
  | first :: others => do
    let value ← evaluate first
    if ← value.holds then allHoldBy evaluate others else return false

/-- Whether some operand holds, with some way to evaluate one. -/
def anyHoldsBy (evaluate : Condition → ExceptT EvalError Option Value) :
    List Condition → ExceptT EvalError Option Bool
  | [] => pure false
  | first :: others => do
    let value ← evaluate first
    if ← value.holds then return true else anyHoldsBy evaluate others

/-- Evaluates a tree, to a depth of so many calls that are nested in each other. -/
def evaluateWithin (context : EvalContext) (fact : Payload) :
    (depth : Nat) → Condition → ExceptT EvalError Option Value
  | 0, _ => .mk none
  | _ + 1, literal value => pure value
  | _ + 1, field ref =>
    match fact.valueAt? ref.index with
    | some value => pure value
    | none => throw (.unreadable ref.name fact.factType)
  | _ + 1, now => pure (.time context.now)
  | depth + 1, inList list value => do
    let value ← evaluateWithin context fact depth value
    if value.isNull then return .bool false
    match context.lookup with
    | none => throw .noLookup
    | some lookup =>
      match lookup list value.toText with
      | .ok present => return .bool present
      | .error reason => throw (.lookupFailed reason)
  | depth + 1, not inner => do
    let value ← evaluateWithin context fact depth inner
    return .bool (!(← value.holds))
  | depth + 1, and operands => do
    return .bool (← allHoldBy (evaluateWithin context fact depth) operands)
  | depth + 1, or operands => do
    return .bool (← anyHoldsBy (evaluateWithin context fact depth) operands)
  | depth + 1, compare op left right => do
    let left ← evaluateWithin context fact depth left
    let right ← evaluateWithin context fact depth right
    return .bool (← compareValues op left right)

/-- Whether a condition holds, as `evaluateWithin` tells. -/
def testWithin (context : EvalContext) (fact : Payload) (depth : Nat) (condition : Condition) :
    ExceptT EvalError Option Bool := do
  let value ← evaluateWithin context fact depth condition
  value.holds

section

variable {depth : Nat} {tree : Condition} {trees : List Condition} {operator : String}
  {context : EvalContext} {fact : Payload}

theorem checkEach_completes
    {within : Condition → ExceptT TypeError Option (Condition × ValueType)}
    (h : ∀ tree ∈ trees, Completes (within tree) (check tree)) :
    Completes (checkEach within operator trees) (checkOperands operator trees) := by
  induction trees with
  | nil => exact completes_pure []
  | cons first others ih =>
    obtain ⟨hfirst, hothers⟩ := List.forall_mem_cons.1 h
    rw [checkEach, checkOperands]
    refine hfirst.bind fun checked => (completes_lift _).bind fun _ => ?_
    exact (ih hothers).bind fun _ => completes_pure _

/-- A bound on the depth of the recursion that is at least the height of the tree does not show in
the check. -/
theorem checkWithin_completes (h : tree.height ≤ depth) :
    Completes (checkWithin depth tree) (check tree) := by
  -- The induction is on the bound: every call that is nested in another one has one less.
  induction depth generalizing tree with
  | zero => cases tree <;> simp [height] at h
  | succ depth ih =>
    cases tree with
    | literal | field | now => exact completes_pure _
    | inList list value =>
      simp only [height, Nat.add_le_add_iff_right] at h
      rw [checkWithin, check]
      refine (ih h).bind fun checked => ?_
      obtain ⟨value, found⟩ := checked
      dsimp only
      split
      · exact completes_pure _
      · exact completes_throw _
    | not inner =>
      simp only [height, Nat.add_le_add_iff_right] at h
      rw [checkWithin, check]
      exact (ih h).bind fun checked => (completes_lift _).bind fun _ => completes_pure _
    | and operands | or operands =>
      simp only [height, Nat.add_le_add_iff_right, greatestHeight_le_iff] at h
      rw [checkWithin, check]
      exact (checkEach_completes fun tree htree => ih (h tree htree)).bind fun _ =>
        completes_pure _
    | compare op left right =>
      simp only [height, Nat.add_le_add_iff_right, Nat.max_le] at h
      rw [checkWithin, check]
      refine (ih h.1).bind fun left => (ih h.2).bind fun right => ?_
      exact (completes_lift _).bind fun _ => completes_pure _

theorem allHoldBy_completes {within : Condition → ExceptT EvalError Option Value}
    (h : ∀ tree ∈ trees, Completes (within tree) (tree.evaluate context fact)) :
    Completes (allHoldBy within trees) (allHold context fact trees) := by
  induction trees with
  | nil => exact completes_pure _
  | cons first others ih =>
    obtain ⟨hfirst, hothers⟩ := List.forall_mem_cons.1 h
    rw [allHoldBy, allHold]
    refine hfirst.bind fun value => (completes_lift _).bind fun holds => ?_
    cases holds with
    | true => exact ih hothers
    | false => exact completes_pure _

theorem anyHoldsBy_completes {within : Condition → ExceptT EvalError Option Value}
    (h : ∀ tree ∈ trees, Completes (within tree) (tree.evaluate context fact)) :
    Completes (anyHoldsBy within trees) (anyHolds context fact trees) := by
  induction trees with
  | nil => exact completes_pure _
  | cons first others ih =>
    obtain ⟨hfirst, hothers⟩ := List.forall_mem_cons.1 h
    rw [anyHoldsBy, anyHolds]
    refine hfirst.bind fun value => (completes_lift _).bind fun holds => ?_
    cases holds with
    | true => exact completes_pure _
    | false => exact ih hothers

/-- A bound on the depth of the recursion that is at least the height of the tree does not show in
its value. -/
theorem evaluateWithin_completes (h : tree.height ≤ depth) :
    Completes (evaluateWithin context fact depth tree) (tree.evaluate context fact) := by
  induction depth generalizing tree with
  | zero => cases tree <;> simp [height] at h
  | succ depth ih =>
    cases tree with
    | literal | now => exact completes_pure _
    | field ref =>
      rw [evaluateWithin, evaluate]
      cases fact.valueAt? ref.index with
      | some value => exact completes_pure value
      | none => exact completes_throw _
    | inList list value =>
      simp only [height, Nat.add_le_add_iff_right] at h
      rw [evaluateWithin, evaluate]
      refine (ih h).bind fun value => ?_
      cases value.isNull with
      | true => exact completes_pure _
      | false =>
        cases context.lookup with
        | none => exact completes_throw _
        | some lookup =>
          simp only [Bool.false_eq_true, if_false]
          cases lookup list value.toText with
          | ok present => exact completes_pure _
          | error reason => exact completes_throw _
    | not inner =>
      simp only [height, Nat.add_le_add_iff_right] at h
      rw [evaluateWithin, evaluate]
      exact (ih h).bind fun value => (completes_lift _).bind fun _ => completes_pure _
    | and operands =>
      simp only [height, Nat.add_le_add_iff_right, greatestHeight_le_iff] at h
      rw [evaluateWithin, evaluate]
      exact (allHoldBy_completes fun tree htree => ih (h tree htree)).bind fun _ =>
        completes_pure _
    | or operands =>
      simp only [height, Nat.add_le_add_iff_right, greatestHeight_le_iff] at h
      rw [evaluateWithin, evaluate]
      exact (anyHoldsBy_completes fun tree htree => ih (h tree htree)).bind fun _ =>
        completes_pure _
    | compare op left right =>
      simp only [height, Nat.add_le_add_iff_right, Nat.max_le] at h
      rw [evaluateWithin, evaluate]
      refine (ih h.1).bind fun left => (ih h.2).bind fun right => ?_
      exact (completes_lift _).bind fun _ => completes_pure _

end

/-! ## Compiled conditions -/

/-- A literal that is read as a timestamp stays a single node. -/
theorem coerceTime_getD_height {tree : Condition} {type other : ValueType}
    {coerced : Option Condition} (h : coerceTime tree other = .ok coerced) :
    ((coerced.map fun tree => (tree, ValueType.of .time)).getD (tree, type)).1.height =
      tree.height := by
  unfold coerceTime at h
  split at h
  · split at h
    · split at h <;> cases h
      rfl
    · cases h
      rfl
  · cases h
    rfl

theorem checkCompare_height {op : CompareOp} {left right : Condition × ValueType}
    {checked : Condition} (h : checkCompare op left right = .ok checked) :
    checked.height = max left.1.height right.1.height + 1 := by
  simp only [checkCompare, bind_eq_ok] at h
  obtain ⟨left', hleft, right', hright, h⟩ := h
  split at h
  · cases h
    rw [height, coerceTime_getD_height hleft, coerceTime_getD_height hright]
  · cases h

mutual

/-- Checking a tree keeps its height. -/
theorem check_height : (tree : Condition) → {checked : Condition} → {type : ValueType} →
    check tree = .ok (checked, type) → checked.height = tree.height
  | literal _, _, _, h | field _, _, _, h | now, _, _, h => by
    cases h
    rfl
  | inList _ value, _, _, h => by
    simp only [check, bind_eq_ok] at h
    obtain ⟨⟨checked, found⟩, hvalue, h⟩ := h
    split at h
    · cases h
      rw [height, height, check_height value hvalue]
    · cases h
  | not inner, _, _, h => by
    simp only [check, bind_eq_ok] at h
    obtain ⟨⟨checked, found⟩, hinner, -, -, h⟩ := h
    cases h
    rw [height, height, check_height inner hinner]
  | and operands, _, _, h | or operands, _, _, h => by
    simp only [check, bind_eq_ok] at h
    obtain ⟨checked, hoperands, h⟩ := h
    cases h
    rw [height, height, checkOperands_height operands hoperands]
  | compare _ left right, _, _, h => by
    simp only [check, bind_eq_ok] at h
    obtain ⟨left', hleft, right', hright, checked, hcompare, h⟩ := h
    cases h
    rw [checkCompare_height hcompare, height, check_height left hleft, check_height right hright]

/-- Checking operands keeps the greatest height among them. -/
theorem checkOperands_height : (trees : List Condition) → {operator : String} →
    {checked : List Condition} → checkOperands operator trees = .ok checked →
    greatestHeight checked = greatestHeight trees
  | [], _, _, h => by
    cases h
    rfl
  | first :: others, _, _, h => by
    simp only [checkOperands, bind_eq_ok] at h
    obtain ⟨⟨checked, found⟩, hfirst, -, -, rest, hrest, h⟩ := h
    cases h
    rw [greatestHeight, greatestHeight, check_height first hfirst,
      checkOperands_height others hrest]

end

/-- A tree that is read from tokens has at most four nodes on a path for every level that may nest
and for the outermost one. -/
theorem ofTokens_height_le {factType : FactType} {tokens : List Token} {tree : Condition}
    (h : ofTokens factType tokens = .ok tree) : tree.height ≤ 4 * (maxNesting + 1) := by
  obtain ⟨trees, rfl, hderives⟩ := ofTokens_eq_ok_iff.1 h
  exact height_ofChain_le .or hderives.height_le

/-- A compiled condition has at most four nodes on a path for every level that may nest and for the
outermost one, whatever its text. So has the tree that is checked on the way, and neither the check
nor an evaluation nor a test of the condition ever nests more calls than that. -/
theorem compile_shallow {factType : FactType} {source : List Char} {condition : Condition}
    (h : Condition.compile factType source = .ok condition) :
    condition.height ≤ 4 * (maxNesting + 1) ∧
    (∃ tokens tree, Token.scan source = .ok tokens ∧ ofTokens factType tokens = .ok tree ∧
      tree.height ≤ 4 * (maxNesting + 1) ∧
      (checkWithin (4 * (maxNesting + 1)) tree).run = some (.ok (condition, .of .bool))) ∧
    ∀ context fact,
      (evaluateWithin context fact (4 * (maxNesting + 1)) condition).run =
        some (condition.evaluate context fact) ∧
      (testWithin context fact (4 * (maxNesting + 1)) condition).run =
        some (condition.test context fact) := by
  simp only [Condition.compile, bind_eq_ok, mapError_eq_ok] at h
  obtain ⟨tokens, hscan, tree, hparse, hcheck⟩ := h
  simp only [checkBoolean, bind_eq_ok] at hcheck
  obtain ⟨⟨checked, found⟩, hcheck, hfound⟩ := hcheck
  obtain ⟨rfl, rfl⟩ : found = .of .bool ∧ checked = condition := by
    split at hfound
    · exact ⟨‹_›, Except.ok.inj hfound⟩
    · cases hfound
  have htree := ofTokens_height_le hparse
  have hcondition : checked.height ≤ 4 * (maxNesting + 1) := check_height tree hcheck ▸ htree
  refine ⟨hcondition, ⟨tokens, tree, hscan, hparse, htree, ?_⟩, fun context fact => ?_⟩
  · rw [← hcheck]
    exact checkWithin_completes htree
  · have hevaluate : Completes (evaluateWithin context fact _ checked) _ :=
      evaluateWithin_completes hcondition
    exact ⟨hevaluate, hevaluate.bind fun _ => completes_lift _⟩

/-- A negation around a disjunction around a conjunction around a look-up. -/
theorem compile_shallow_nested :
    let source := "!(flagState==null||isPresentInList(\"G\",gearType)&&true)".toList
    let condition := not (or [
      compare .eq (field ⟨6, "flagState", .text, some .flagState⟩) (literal .null),
      and [inList "G" (field ⟨7, "gearType", .text, some .assetIdGearType⟩),
        literal (.bool true)]])
    Condition.compile .movement source = .ok condition ∧ condition.height = 5 ∧
      condition.height ≤ 4 * (maxNesting + 1) := by
  intro source condition
  have hscan : Token.scan source = .ok [.not, .openParen, .word "flagState", .compare .eq,
      .word "null", .or, .word "isPresentInList", .openParen, .text "G", .comma, .word "gearType",
      .closeParen, .and, .word "true", .closeParen] := by
    simp only [source, String.reduceToList]
    decide +kernel
  have hcompile : Condition.compile .movement source = .ok condition := by
    rw [Condition.compile, hscan]
    cbv
  exact ⟨hcompile, rfl, (compile_shallow hcompile).1⟩

end Condition

end FisheryRules
