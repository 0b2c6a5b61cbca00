import FisheryRules.Proofs.Condition.FoldedText
import FisheryRules.Proofs.RuleSet.Completion

/-!
# Folded expressions

The expressions of sanity rules and business rules are folded onto one line before they are
compiled. They mean what they mean as they are written: a text that consists of tokens has the same
tokens when it is folded, unless a literal in it has a line break, and any other text is refused
either way.

## Main definitions

* `Definition.expression?` — the expression of a definition, which may have several lines.

## Main results

* `Definition.toOption_verdict` — a definition with a row states the condition of its folded
  expression.
* `Definition.conditions_alone` — the compiler publishes a definition with the condition it states.
* `Token.scan_fold` — folding an expression does not change it.
-/
namespace FisheryRules

open Text Token

namespace Definition

/-- The expression of a sanity rule or a business rule. The condition of a custom rule has another
form. -/
def expression? : Definition → Option String
  | sanity rule => some rule.expression
  | custom _ => none
  | business rule => some rule.expression

/-- A text states the condition that it compiles to. -/
theorem toOption_conditionOf_eq (factType : FactType) (source : List Char) :
    (conditionOf factType source).toOption = (Condition.compile factType source).toOption := by
  unfold conditionOf
  split
  case isTrue hempty =>
    rw [List.isEmpty_iff.1 hempty]
    rfl
  case isFalse => exact toOption_mapError _ _

/-- A definition that has a row, because no other cell breaks the line, states the condition of its
folded expression. -/
theorem toOption_verdict {definition : Definition} {expression : String} {row : Row}
    (hexpression : definition.expression? = some expression) (hrow : definition.row = .ok row) :
    definition.verdict.toOption.map (·.condition) =
      (Condition.compile definition.factType (fold expression.toList)).toOption := by
  rw [← toOption_conditionOf_eq]
  cases definition with
  | custom rule => cases hexpression
  | sanity rule =>
    obtain rfl := Option.some.inj hexpression
    simp only [Definition.row, SanityRule.row, mapError_eq_ok, bind_eq_ok] at hrow
    obtain ⟨_, hcheck, -⟩ := hrow
    rw [verdict, hcheck, ok_bind, toOption_bind, Option.map_bind]
    exact Option.bind_fun_some _
  | business rule =>
    obtain rfl := Option.some.inj hexpression
    simp only [Definition.row, BusinessRule.row, mapError_eq_ok, bind_eq_ok] at hrow
    obtain ⟨_, hcheck, -⟩ := hrow
    rw [verdict, hcheck, ok_bind, toOption_bind, Option.map_bind]
    exact Option.bind_fun_some _

/-- The compiler publishes a definition that is compiled by itself with the condition that it
states, and publishes nothing if it states none. -/
theorem conditions_alone (definition : Definition) (fingerprint : String) (version : Nat) :
    ∃ set, Bundled.compiler.compile definition.alone fingerprint version = .ok set ∧
      set.rules.map (·.condition) = (definition.verdict.toOption.map (·.condition)).toList := by
  obtain ⟨set, hcompile, hrules, -⟩ := compile_settles definition.alone fingerprint version
  refine ⟨set, hcompile, ?_⟩
  rw [hrules, rowOrder_alone]
  cases hverdict : definition.verdict with
  | error flaw =>
    have hsettle : definition.settle [] = .error (.ofFlaw definition.label flaw) := by
      simp [settle, hverdict]
    simp [Entry.settleFrom, hsettle, Except.toOption]
  | ok rule =>
    have hsettle : definition.settle [] = .ok rule := by simp [settle, hverdict]
    simp [Entry.settleFrom, hsettle, Snapshot.complete, Except.toOption]

end Definition

/-- Texts with the same tokens compile to the same condition, or both do not compile. -/
theorem Condition.compile_congr {cs ds : List Char} (factType : FactType)
    (h : tokens? cs = tokens? ds) :
    (compile factType cs).toOption = (compile factType ds).toOption := by
  rw [← Definition.toOption_conditionOf_eq, ← Definition.toOption_conditionOf_eq,
    Definition.toOption_conditionOf, Definition.toOption_conditionOf]
  rw [tokens?, tokens?] at h
  rw [h]

namespace Token

/-- Folding onto one line does not change the tokens of a text, as long as no line break stands
between the quotes of a literal, and it makes no text consist of tokens that did not before. So an
expression compiles to the same condition whether it is folded or not, or is refused either way. The
rule that the compiler with the bundled grammars makes of a definition with the expression has this
condition, and there is no rule if the expression is refused. -/
theorem scan_fold :
    (∀ cs tokens, scan cs = .ok tokens → Unbroken .outside cs → scan (fold cs) = .ok tokens) ∧
    (∀ cs, (∃ tokens, scan (fold cs) = .ok tokens) ↔ ∃ tokens, scan cs = .ok tokens) ∧
    (∀ factType cs, (∀ tokens, scan cs = .ok tokens → Unbroken .outside cs) →
      (Condition.compile factType (fold cs)).toOption =
        (Condition.compile factType cs).toOption) ∧
    ∃ compiler, Compiler.bundled = .ok compiler ∧
      ∀ (definition : Definition) expression row fingerprint version,
        definition.expression? = some expression → definition.row = .ok row →
        (∀ tokens, scan expression.toList = .ok tokens → Unbroken .outside expression.toList) →
        ∃ set, compiler.compile definition.alone fingerprint version = .ok set ∧
          set.rules.map (·.condition) =
            (Condition.compile definition.factType expression.toList).toOption.toList := by
  have hcompile : ∀ factType cs, (∀ tokens, scan cs = .ok tokens → Unbroken .outside cs) →
      (Condition.compile factType (fold cs)).toOption =
        (Condition.compile factType cs).toOption :=
    fun factType cs hunbroken => Condition.compile_congr factType (tokens?_fold_eq hunbroken)
  refine ⟨fun cs tokens hscan hunbroken => ?_, fun cs => ?_, hcompile, Bundled.compiler,
    Bundled.bundled_eq_ok, ?_⟩
  · have htokens : tokens? (fold cs) = tokens? cs := tokens?_fold_eq fun _ _ => hunbroken
    rw [tokens?, tokens?, toOption_eq_some.2 hscan] at htokens
    exact toOption_eq_some.1 htokens
  · simp only [← toOption_eq_some, ← Option.isSome_iff_exists]
    exact Bool.eq_iff_iff.1 (isSome_tokens?_fold cs)
  · intro definition expression row fingerprint version hexpression hrow hunbroken
    obtain ⟨set, hset, hrules⟩ := definition.conditions_alone fingerprint version
    refine ⟨set, hset, ?_⟩
    rw [hrules, Definition.toOption_verdict hexpression hrow, hcompile _ _ hunbroken]

/-- A literal with a line break is another one when it is folded. -/
example : scan "'a\n b'".toList = .ok [.text "a\n b"] ∧
    scan (fold "'a\n b'".toList) = .ok [.text "a b"] := by
  decide +kernel

/-- A sanity rule with breaks of both kinds in its expression, a line of blanks and a literal with
escapes. -/
theorem scan_fold_escapes :
    let rule : SanityRule := {
      name := "Drifting"
      expression := "reportedSpeed < 1.5 \r\n \u2003 \n\tand\r (ircs == 'a\\'b \\n')\n" }
    let folded := "reportedSpeed < 1.5 and (ircs == 'a\\'b \\n')".toList
    let tokens : List Token := [.word "reportedSpeed", .compare .lt,
      .number (⟨false, 15, -1⟩ : Decimal).toBinary64, .and, .openParen, .word "ircs", .compare .eq,
      .text "a'b \n", .closeParen]
    scan rule.expression.toList = .ok tokens ∧ Unbroken .outside rule.expression.toList ∧
      fold rule.expression.toList = folded ∧ scan folded = .ok tokens ∧
      ∃ condition, Condition.compile .rawMovement rule.expression.toList = .ok condition ∧
        Condition.compile .rawMovement folded = .ok condition ∧
        ∃ compiler set, Compiler.bundled = .ok compiler ∧
          compiler.compile (.sanity [rule]) "" 1 = .ok set ∧
          set.rules.map (·.condition) = [condition] := by
  intro rule folded tokens
  have hscan : scan rule.expression.toList = .ok tokens := by decide +kernel
  have hunbroken : Unbroken .outside rule.expression.toList := by decide +kernel
  have hfold : fold rule.expression.toList = folded := by decide +kernel
  have hcompile : (Condition.compile .rawMovement rule.expression.toList).isOk = true := by
    rw [Condition.compile, hscan]
    cbv
  have hcheck : checkLines [("name", rule.name)] = .ok () := by decide +kernel
  have hrow : (Definition.sanity rule).row =
      .ok [rule.name.toList, fold rule.expression.toList] := by
    rw [Definition.row, SanityRule.row, hcheck]
    rfl
  obtain ⟨hsame, -, hcompiled, compiler, hcompiler, hrules⟩ := scan_fold
  obtain ⟨condition, hcondition⟩ := isOk_iff.1 hcompile
  refine ⟨hscan, hunbroken, hfold, hfold ▸ hsame _ _ hscan hunbroken, condition, hcondition, ?_, ?_⟩
  · rw [← toOption_eq_some, ← hfold, hcompiled _ _ fun _ _ => hunbroken, hcondition]
    rfl
  · obtain ⟨set, hset, hconditions⟩ := hrules _ _ _ "" 1 rfl hrow fun _ _ => hunbroken
    rw [Definition.factType, hcondition] at hconditions
    exact ⟨compiler, set, hcompiler, hset, hconditions⟩

end Token

end FisheryRules
