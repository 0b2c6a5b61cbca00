import FisheryRules.Proofs.Condition.TypeSafety

/-!
# Laws of comparisons

What the six operators have to do with each other on the values that a checked comparison can meet:
`null` on either side, two scalars of one type, or a list with a scalar of the type of its items.

All laws come from one description of each shape. Two scalars stand in an order, or in none when a
NaN is among them; the operators only read that order. A list is as good as the question whether
one of its items equals the scalar, whichever side the list is on.

## Main definitions

* `CompareOp.mirrored` — the operator that says the same of swapped operands.
* `Value.order?` — the order of two scalars of one type.
* `Value.Comparable` — the values that a checked comparison with an operator can meet.

## Main results

* `Condition.comparable_of_compile` — comparisons of compiled conditions meet no other values.
* `Condition.compareValues_laws` — mirroring, negation, trichotomy, and `null`.
-/
namespace FisheryRules

namespace CompareOp

/-- The operator that says the same of swapped operands. -/
def mirrored : CompareOp → CompareOp
  | eq => eq
  | ne => ne
  | gt => lt
  | ge => le
  | lt => gt
  | le => ge

theorem mirrored_isEquality (op : CompareOp) : op.mirrored.isEquality = op.isEquality := by
  cases op <;> rfl

theorem mirrored_beq_eq (op : CompareOp) : (op.mirrored == eq) = (op == eq) := by
  cases op <;> rfl

theorem mirrored_beq_ne (op : CompareOp) : (op.mirrored == ne) = (op == ne) := by
  cases op <;> rfl

theorem accepts_mirrored (op : CompareOp) (ordering : Ordering) :
    op.mirrored.accepts ordering.swap = op.accepts ordering := by
  cases op <;> cases ordering <;> rfl

end CompareOp

theorem Binary64.compare?_swap (x y : Binary64) : y.compare? x = (x.compare? y).map .swap := by
  rw [compare?, compare?, Bool.or_comm]
  split
  · rfl
  · simp [Std.OrientedOrd.eq_swap (a := y.key)]

theorem Instant.compare_swap (a b : Instant) : b.compare a = (a.compare b).swap := by
  rw [Instant.compare, Instant.compare, Ordering.swap_then,
    Std.OrientedOrd.eq_swap (a := b.seconds), Std.OrientedOrd.eq_swap (a := b.nanos)]

namespace Value

/-- Scalars of one type. -/
inductive Alike : Value → Value → Prop
  | text (a b : String) : Alike (.text a) (.text b)
  | number (x y : Binary64) : Alike (.number x) (.number y)
  | time (a b : Instant) : Alike (.time a) (.time b)
  | bool (a b : Bool) : Alike (.bool a) (.bool b)

/-- Texts, times, or numbers other than NaN. -/
inductive Ordered : Value → Value → Prop
  | text (a b : String) : Ordered (.text a) (.text b)
  | number {x y : Binary64} (left : x.isNaN = false) (right : y.isNaN = false) :
      Ordered (.number x) (.number y)
  | time (a b : Instant) : Ordered (.time a) (.time b)

/-- The values that a checked comparison with the operator can meet. Booleans and lists are only
compared for equality. -/
inductive Comparable (op : CompareOp) : Value → Value → Prop
  | nullLeft (right : Value) : Comparable op .null right
  | nullRight (left : Value) : Comparable op left .null
  | scalars {left right : Value} (alike : Alike left right)
      (equality : left.HasType (.of .bool) → op.isEquality) : Comparable op left right
  | listLeft {items : List Value} {scalar : Value} (equality : op.isEquality)
      (single : Alike scalar scalar) (alike : ∀ item ∈ items, item = .null ∨ Alike item scalar) :
      Comparable op (.list items) scalar
  | listRight {items : List Value} {scalar : Value} (equality : op.isEquality)
      (single : Alike scalar scalar) (alike : ∀ item ∈ items, item = .null ∨ Alike item scalar) :
      Comparable op scalar (.list items)

/-- The order of two scalars of one type. A NaN has none. -/
def order? : Value → Value → Option Ordering
  | text a, text b => some (compare a b)
  | number x, number y => x.compare? y
  | time a, time b => some (a.compare b)
  | bool a, bool b => some (compare a b)
  | _, _ => none

variable {op : CompareOp} {left right scalar : Value} {items : List Value}

theorem order?_swap (left right : Value) : right.order? left = (left.order? right).map .swap := by
  cases left <;> cases right <;> try rfl
  case text.text a b => exact congrArg some Std.OrientedOrd.eq_swap
  case number.number x y => exact x.compare?_swap y
  case bool.bool a b => exact congrArg some Std.OrientedOrd.eq_swap
  case time.time a b => exact congrArg some (a.compare_swap b)

theorem any_accepts_mirrored (op : CompareOp) (left right : Value) :
    (right.order? left).any op.mirrored.accepts = (left.order? right).any op.accepts := by
  rw [order?_swap]
  cases left.order? right with
  | none => rfl
  | some ordering => exact op.accepts_mirrored ordering

/-! ## Scalars -/

theorem compareScalars_eq_of_alike (h : Alike left right)
    (hop : left.HasType (.of .bool) → op.isEquality) :
    compareScalars op left right = .ok ((left.order? right).any op.accepts) := by
  cases h with
  | bool a b => exact if_pos (hop (.bool a))
  | _ => rfl

theorem Alike.compareValues_eq (h : Alike left right)
    (hop : left.HasType (.of .bool) → op.isEquality) :
    compareValues op left right = .ok ((left.order? right).any op.accepts) := by
  rw [← compareScalars_eq_of_alike h hop]
  cases h <;> rfl

theorem Alike.symm (h : Alike left right) : Alike right left := by
  cases h <;> constructor

theorem Alike.isBool_congr (h : Alike left right) :
    left.HasType (.of .bool) → right.HasType (.of .bool) := by
  intro hbool
  cases h with
  | bool a b => exact .bool b
  | _ => cases hbool

/-- Texts, times and numbers other than NaN have an order, which decides all comparisons. -/
theorem Ordered.exists_ordering (h : Ordered left right) :
    ∃ ordering, ∀ op, compareValues op left right = .ok (op.accepts ordering) := by
  cases h with
  | text a b => exact ⟨_, fun _ => rfl⟩
  | time a b => exact ⟨_, fun _ => rfl⟩
  | @number x y hx hy =>
    refine ⟨compare x.key y.key, fun op => ?_⟩
    have hcompare : x.compare? y = some (compare x.key y.key) := by simp [Binary64.compare?, hx, hy]
    simp [compareValues, compareScalars, hcompare]

theorem compareValues_nan {x y : Binary64} (h : x.isNaN ∨ y.isNaN) (op : CompareOp) :
    compareValues op (.number x) (.number y) = .ok false := by
  have hcompare : x.compare? y = none := by
    rw [Binary64.compare?, if_pos (by simpa using h)]
  simp [compareValues, compareScalars, hcompare]

/-! ## Lists -/

/-- Whether one of the items equals a scalar. -/
def holdsEqual (items : List Value) (scalar : Value) : Bool :=
  items.any fun item => (item.order? scalar).any CompareOp.eq.accepts

theorem holdsEqual_cons (item scalar : Value) (others : List Value) :
    holdsEqual (item :: others) scalar =
      if (item.order? scalar).any CompareOp.eq.accepts then true
      else holdsEqual others scalar := by
  rw [holdsEqual, List.any_cons]
  cases (item.order? scalar).any CompareOp.eq.accepts <;> rfl

/-- An item of a list is compared for equality as a scalar is, and `null` equals no scalar. -/
theorem compareScalars_eq_item {item : Value} (hscalar : Alike scalar scalar)
    (h : item = .null ∨ Alike item scalar) :
    compareScalars .eq item scalar = .ok ((item.order? scalar).any CompareOp.eq.accepts) := by
  obtain rfl | h := h
  · cases hscalar <;> rfl
  · exact compareScalars_eq_of_alike h fun _ => rfl

theorem anyEqualsValue_eq (hscalar : Alike scalar scalar)
    (h : ∀ item ∈ items, item = .null ∨ Alike item scalar) :
    anyEqualsValue scalar items = .ok (holdsEqual items scalar) := by
  induction items with
  | nil => rfl
  | cons item others ih =>
    obtain ⟨hitem, hothers⟩ := List.forall_mem_cons.1 h
    have hequal : equalsValue scalar item = compareScalars .eq item scalar := by
      obtain rfl | hitem := hitem
      · cases hscalar <;> rfl
      · cases hitem <;> rfl
    rw [anyEqualsValue, hequal, compareScalars_eq_item hscalar hitem, ih hothers, holdsEqual_cons,
      ok_bind, apply_ite Except.ok]
    rfl

theorem anyEqualsScalar_eq (hscalar : Alike scalar scalar)
    (h : ∀ item ∈ items, item = .null ∨ Alike item scalar) :
    anyEqualsScalar scalar items = .ok (holdsEqual items scalar) := by
  induction items with
  | nil => rfl
  | cons item others ih =>
    obtain ⟨hitem, hothers⟩ := List.forall_mem_cons.1 h
    have hequal : equalsScalar scalar item = compareScalars .eq item scalar := by
      obtain rfl | hitem := hitem
      · rfl
      · cases hitem <;> rfl
    rw [anyEqualsScalar, hequal, compareScalars_eq_item hscalar hitem, ih hothers,
      holdsEqual_cons, ok_bind, apply_ite Except.ok]
    rfl

/-- A list is compared with a scalar by whether one of its items equals the scalar, whichever side
it is on. -/
theorem compareValues_list (hop : op.isEquality) (hscalar : Alike scalar scalar)
    (h : ∀ item ∈ items, item = .null ∨ Alike item scalar) :
    compareValues op (.list items) scalar =
        .ok (if op == .eq then holdsEqual items scalar else !holdsEqual items scalar) ∧
      compareValues op scalar (.list items) =
        .ok (if op == .eq then holdsEqual items scalar else !holdsEqual items scalar) := by
  have hleft := anyEqualsValue_eq hscalar h
  have hright := anyEqualsScalar_eq hscalar h
  cases hscalar <;> constructor <;>
    simp [compareValues, equalsValue, hop, hleft, hright, isNull, Except.map]

/-! ## `null` -/

theorem compareValues_null (op : CompareOp) (h : left = .null ∨ right = .null) :
    compareValues op left right =
      .ok (if left.isNull && right.isNull then op == .eq else op == .ne) := by
  obtain rfl | rfl := h
  · rfl
  · cases left <;> rfl

/-! ## The laws -/

/-- Swapping the operands and mirroring the operator gives the same result. -/
theorem Comparable.mirrored (h : Comparable op left right) :
    ∃ result, compareValues op left right = .ok result ∧
      compareValues op.mirrored right left = .ok result := by
  cases h with
  | nullLeft right =>
    rw [compareValues_null op (.inl rfl), compareValues_null op.mirrored (.inr rfl),
      op.mirrored_beq_eq, op.mirrored_beq_ne, Bool.and_comm]
    exact ⟨_, rfl, rfl⟩
  | nullRight left =>
    rw [compareValues_null op (.inr rfl), compareValues_null op.mirrored (.inl rfl),
      op.mirrored_beq_eq, op.mirrored_beq_ne, Bool.and_comm]
    exact ⟨_, rfl, rfl⟩
  | scalars alike equality =>
    have hmirrored : right.HasType (.of .bool) → op.mirrored.isEquality := fun hbool =>
      op.mirrored_isEquality ▸ equality (alike.symm.isBool_congr hbool)
    rw [alike.compareValues_eq equality, alike.symm.compareValues_eq hmirrored,
      any_accepts_mirrored]
    exact ⟨_, rfl, rfl⟩
  | listLeft equality single alike =>
    have hmirrored := compareValues_list (op.mirrored_isEquality ▸ equality) single alike
    rw [op.mirrored_beq_eq] at hmirrored
    exact ⟨_, (compareValues_list equality single alike).1, hmirrored.2⟩
  | listRight equality single alike =>
    have hmirrored := compareValues_list (op.mirrored_isEquality ▸ equality) single alike
    rw [op.mirrored_beq_eq] at hmirrored
    exact ⟨_, (compareValues_list equality single alike).2, hmirrored.1⟩

/-- `!=` negates `==`, except on numbers one of which is NaN. -/
theorem Comparable.negated (h : Comparable op left right)
    (hnan : ∀ x y, left = .number x → right = .number y → x.isNaN = false ∧ y.isNaN = false) :
    ∃ equal, compareValues .eq left right = .ok equal ∧
      compareValues .ne left right = .ok !equal := by
  have hnull (h : left = .null ∨ right = .null) : ∃ equal,
      compareValues .eq left right = .ok equal ∧ compareValues .ne left right = .ok !equal := by
    rw [compareValues_null _ h, compareValues_null _ h]
    refine ⟨_, rfl, ?_⟩
    cases left.isNull && right.isNull <;> rfl
  cases h with
  | nullLeft right => exact hnull (.inl rfl)
  | nullRight left => exact hnull (.inr rfl)
  | scalars alike equality =>
    obtain ⟨ordering, horder⟩ : ∃ ordering, left.order? right = some ordering := by
      cases alike with
      | number x y =>
        obtain ⟨hx, hy⟩ := hnan x y rfl rfl
        exact ⟨compare x.key y.key, by simp [order?, Binary64.compare?, hx, hy]⟩
      | _ => exact ⟨_, rfl⟩
    rw [alike.compareValues_eq fun _ => rfl, alike.compareValues_eq fun _ => rfl, horder]
    exact ⟨_, rfl, by cases ordering <;> rfl⟩
  | listLeft _ single alike =>
    exact ⟨_, (compareValues_list rfl single alike).1, (compareValues_list rfl single alike).1⟩
  | listRight _ single alike =>
    exact ⟨_, (compareValues_list rfl single alike).2, (compareValues_list rfl single alike).2⟩

/-- Of less, equal and greater exactly one holds, and the other operators are their negations. -/
theorem Ordered.trichotomy (h : Ordered left right) :
    (∃! op, (op = .lt ∨ op = .eq ∨ op = .gt) ∧ compareValues op left right = .ok true) ∧
    (∃ less, compareValues .lt left right = .ok less ∧
      compareValues .ge left right = .ok !less) ∧
    ∃ greater, compareValues .gt left right = .ok greater ∧
      compareValues .le left right = .ok !greater := by
  obtain ⟨ordering, hordering⟩ := h.exists_ordering
  simp only [hordering, Except.ok.injEq]
  refine ⟨?_, ⟨_, rfl, by cases ordering <;> rfl⟩, ⟨_, rfl, by cases ordering <;> rfl⟩⟩
  cases ordering with
  | lt => exact ⟨.lt, by decide, by rintro op ⟨rfl | rfl | rfl, h⟩ <;> first | rfl | cases h⟩
  | eq => exact ⟨.eq, by decide, by rintro op ⟨rfl | rfl | rfl, h⟩ <;> first | rfl | cases h⟩
  | gt => exact ⟨.gt, by decide, by rintro op ⟨rfl | rfl | rfl, h⟩ <;> first | rfl | cases h⟩

/-- No order has `null` on a side. -/
theorem compareValues_null_order (hop : op.isEquality = false)
    (h : left = .null ∨ right = .null) : compareValues op left right = .ok false := by
  have heq : (op == .eq) = false := by cases op <;> first | rfl | cases hop
  have hne : (op == .ne) = false := by cases op <;> first | rfl | cases hop
  rw [compareValues_null op h, heq, hne, ite_self]

/-! ## What checked comparisons meet -/

/-- A value of a scalar type is `null`, or like any other value of the type. -/
theorem HasType.alike {type : FieldType} (htype : ¬ type.isList) (hleft : left.HasType (.of type))
    (hright : right.HasType (.of type)) : left = .null ∨ right = .null ∨ Alike left right := by
  cases hleft with
  | null => exact .inl rfl
  | list h => exact absurd h htype
  | _ =>
    cases hright with
    | null => exact .inr (.inl rfl)
    | list h => exact absurd h htype
    | _ => exact .inr (.inr (by constructor))

/-- A value that is neither a list nor `null` is a single scalar. -/
theorem HasType.null_or_single {type : FieldType} (htype : ¬ type.isList)
    (h : scalar.HasType (.of type)) : scalar = .null ∨ Alike scalar scalar := by
  simpa using h.alike htype h

/-- Items of a list and a scalar of their type. -/
theorem HasType.item_alike {type : FieldType} (htype : ¬ type.isList)
    (hitems : ∀ item ∈ items, item.HasType (.of type)) (hscalar : scalar.HasType (.of type))
    (hsingle : Alike scalar scalar) : ∀ item ∈ items, item = .null ∨ Alike item scalar := by
  intro item hitem
  obtain h | rfl | h := (hitems item hitem).alike htype hscalar
  · exact .inl h
  · cases hsingle
  · exact .inr h

/-- Values of types that an operator is allowed for can be compared with it. -/
theorem HasType.comparable {leftType rightType : ValueType} (hallows : leftType.allows op rightType)
    (hleft : left.HasType leftType) (hright : right.HasType rightType) :
    Comparable op left right := by
  -- A list is compared with a scalar of the type of its items only, so at most one side is a list.
  cases leftType with
  | null =>
    cases hleft
    exact .nullLeft right
  | of leftType =>
    cases rightType with
    | null =>
      cases hright
      exact .nullRight left
    | of rightType =>
      by_cases hl : leftType.isList
      · simp only [ValueType.allows, if_pos hl, Bool.and_eq_true, beq_iff_eq] at hallows
        obtain ⟨⟨hop, -⟩, rfl⟩ := hallows
        have hscalar := FieldType.not_isList_element leftType
        obtain rfl | hsingle := hright.null_or_single hscalar
        · exact .nullRight left
        cases hleft with
        | null => exact .nullLeft right
        | list _ hitems =>
          exact .listLeft hop hsingle (item_alike hscalar hitems hright hsingle)
        | _ => cases hl
      by_cases hr : rightType.isList
      · simp only [ValueType.allows, if_neg hl, if_pos hr, Bool.and_eq_true, beq_iff_eq] at hallows
        obtain ⟨hop, rfl⟩ := hallows
        have hscalar := FieldType.not_isList_element rightType
        obtain rfl | hsingle := hleft.null_or_single hscalar
        · exact .nullLeft right
        cases hright with
        | null => exact .nullRight left
        | list _ hitems =>
          exact .listRight hop hsingle (item_alike hscalar hitems hleft hsingle)
        | _ => cases hr
      obtain ⟨rfl, hop⟩ : leftType = rightType ∧ (leftType = .bool → op.isEquality) := by
        by_cases hb : leftType = .bool <;> simp_all [ValueType.allows]
      obtain rfl | rfl | halike := hleft.alike hl hright
      · exact .nullLeft right
      · exact .nullRight left
      · refine .scalars halike fun hbool => hop ?_
        cases hbool with
        | null h => exact absurd rfl h
        | list h => cases h
        | bool value =>
          cases hleft with
          | bool => rfl

end Value

namespace Condition

variable {factType : FactType} {tree part : Condition} {type : ValueType}

/-- Every part of a typed tree has a type. -/
theorem HasType.exists_of_contains (hcontains : Contains part tree)
    (h : HasType factType tree type) : ∃ partType, HasType factType part partType := by
  induction hcontains generalizing type with
  | self => exact ⟨type, h⟩
  | inList _ ih =>
    cases h with
    | inList hvalue => exact ih hvalue
  | not _ ih =>
    cases h with
    | not hinner => exact ih hinner
  | and hmem _ ih =>
    cases h with
    | and hoperands => exact ih (hoperands _ hmem)
  | or hmem _ ih =>
    cases h with
    | or hoperands => exact ih (hoperands _ hmem)
  | left _ ih =>
    cases h with
    | compare hleft _ _ => exact ih hleft
  | right _ ih =>
    cases h with
    | compare _ hright _ => exact ih hright

/-- The value of a typed tree on a fact of the right kind has its type. -/
theorem HasType.value_hasType {context : EvalContext} {fact : Payload} {value : Value}
    (h : HasType factType tree type) (hfact : fact.factType = factType)
    (hvalue : tree.evaluate context fact = .ok value) : value.HasType type := by
  have hevaluates : Evaluates context fact tree type := h.evaluates hfact
  obtain ⟨other, hother, htype⟩ | ⟨error, herror, -⟩ := hevaluates
  · rw [hvalue] at hother
    cases hother
    exact htype
  · rw [hvalue] at herror
    cases herror

/-- A comparison in a compiled condition meets only values that can be compared with its
operator. -/
theorem comparable_of_compile {source : List Char} {condition left right : Condition}
    {op : CompareOp} {context : EvalContext} {fact : Payload} {leftValue rightValue : Value}
    (h : Condition.compile factType source = .ok condition)
    (hcontains : Contains (compare op left right) condition) (hfact : fact.factType = factType)
    (hleft : left.evaluate context fact = .ok leftValue)
    (hright : right.evaluate context fact = .ok rightValue) :
    Value.Comparable op leftValue rightValue := by
  obtain ⟨type, hcompare⟩ := (compile_hasType h).exists_of_contains hcontains
  cases hcompare with
  | compare hleftType hrightType hallows =>
    exact Value.HasType.comparable hallows (hleftType.value_hasType hfact hleft)
      (hrightType.value_hasType hfact hright)

/-- The laws of comparisons, on all values that a checked comparison can meet. The operator can be
mirrored when the operands are swapped; `!=` negates `==`, and if a number is a NaN no operator
holds at all; of two texts, times or other numbers exactly one of less, equal and greater holds, and
`>=` and `<=` negate `<` and `>`; no order has `null` on a side. Comparisons in compiled conditions
meet no other values. -/
theorem compareValues_laws :
    (∀ op left right, Value.Comparable op left right →
      ∃ result, compareValues op left right = .ok result ∧
        compareValues op.mirrored right left = .ok result) ∧
    (∀ op left right, Value.Comparable op left right →
      (∀ x y, left = .number x → right = .number y → x.isNaN = false ∧ y.isNaN = false) →
      ∃ equal, compareValues .eq left right = .ok equal ∧
        compareValues .ne left right = .ok !equal) ∧
    (∀ x y : Binary64, x.isNaN ∨ y.isNaN →
      ∀ op, compareValues op (.number x) (.number y) = .ok false) ∧
    (∀ left right, Value.Ordered left right →
      (∃! op, (op = .lt ∨ op = .eq ∨ op = .gt) ∧ compareValues op left right = .ok true) ∧
      (∃ less, compareValues .lt left right = .ok less ∧
        compareValues .ge left right = .ok !less) ∧
      ∃ greater, compareValues .gt left right = .ok greater ∧
        compareValues .le left right = .ok !greater) ∧
    (∀ (op : CompareOp) left right, op.isEquality = false → left = .null ∨ right = .null →
      compareValues op left right = .ok false) ∧
    ∀ factType source condition op left right context (fact : Payload) leftValue rightValue,
      Condition.compile factType source = .ok condition →
      Contains (compare op left right) condition → fact.factType = factType →
      left.evaluate context fact = .ok leftValue → right.evaluate context fact = .ok rightValue →
      Value.Comparable op leftValue rightValue :=
  ⟨fun _ _ _ h => h.mirrored, fun _ _ _ h hnan => h.negated hnan,
    fun _ _ h op => Value.compareValues_nan h op, fun _ _ h => h.trichotomy,
    fun _ _ _ hop h => Value.compareValues_null_order hop h,
    fun _ _ _ _ _ _ _ _ _ _ h hcontains hfact hleft hright =>
      comparable_of_compile h hcontains hfact hleft hright⟩

/-- Two areas and the code of one of them, a number and a NaN, two numbers that are zero, and a
number that is absent. -/
theorem compareValues_laws_areas :
    let areas := Value.list [.text "NOR", .text "DNK"]
    let code := Value.text "DNK"
    let zero := Binary64.ofMagnitude false 0
    let negativeZero := Binary64.ofMagnitude true 0
    Value.Comparable .ne areas code ∧
      (∃ result, compareValues .ne areas code = .ok result ∧
        compareValues .ne code areas = .ok result) ∧
      (∃ equal, compareValues .eq areas code = .ok equal ∧
        compareValues .ne areas code = .ok !equal) ∧
      (∀ op, compareValues op (.number zero) (.number .nan) = .ok false) ∧
      (∃! op, (op = .lt ∨ op = .eq ∨ op = .gt) ∧
        compareValues op (.number zero) (.number negativeZero) = .ok true) ∧
      compareValues .ge .null (.number zero) = .ok false := by
  intro areas code zero negativeZero
  let condition := compare .ne (field ⟨31, "areaCode", .textList, some .areaCode⟩)
    (literal (.text "DNK"))
  have hscan : Token.scan "areaCode!=\"DNK\"".toList =
      .ok [.word "areaCode", .compare .ne, .text "DNK"] := by
    simp only [String.reduceToList]
    decide +kernel
  have hcompile : Condition.compile .movement "areaCode!=\"DNK\"".toList = .ok condition := by
    rw [Condition.compile, hscan]
    cbv
  obtain ⟨hmirrored, hnegated, hnan, hordered, hnull, hcompiled⟩ := compareValues_laws
  have hcomparable : Value.Comparable .ne areas code :=
    hcompiled .movement _ condition .ne _ _ ⟨.epoch, none⟩
      (.movement { areaCodes := ["NOR", "DNK"] }) areas code hcompile .self rfl rfl rfl
  refine ⟨hcomparable, hmirrored _ _ _ hcomparable, hnegated _ _ _ hcomparable (by simp [areas]),
    hnan zero .nan (.inr (by decide)), ?_, hnull .ge _ _ rfl (.inl rfl)⟩
  exact (hordered _ _ (.number (by decide) (by decide))).1

end Condition

end FisheryRules
